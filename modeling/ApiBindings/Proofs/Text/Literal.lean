import ApiBindings.Json.Reader
import ApiBindings.Text.Quoted

/-!
# String literals read back

`Text.quoted` writes a text as a string literal.  Here is the way back, and what a reader that only
looks for the closing quote has to know of it:

* `unquote`                  the text behind what stands between the quotes of a literal;
* `unquote_flatMap`          reading gives back the text that was written, for every text;
* `LiteralBody.flatMap`      no quote stands between the quotes but behind a backslash.

The units of a surrogate pair are joined again; one that stands alone is no text.
-/

namespace ApiBindings.Text

/-! ## units of 16 bits -/

/-- the 16-bit units of a character -/
def utf16 (c : Char) : List Nat :=
  if c.toNat < 0x10000 then [c.toNat]
  else [0xD800 + (c.toNat - 0x10000) / 0x400, 0xDC00 + (c.toNat - 0x10000) % 0x400]

/-- the characters of 16-bit units -/
def ofUtf16 : List Nat → Option (List Char)
  | [] => some []
  | high :: rest =>
    if 0xD800 ≤ high ∧ high < 0xDC00 then
      match rest with
      | [] => none
      | low :: more =>
        if 0xDC00 ≤ low ∧ low < 0xE000 then
          (ofUtf16 more).map (Char.ofNat (0x10000 + (high - 0xD800) * 0x400 + (low - 0xDC00)) :: ·)
        else none
    else if 0xDC00 ≤ high ∧ high < 0xE000 then none
    else (ofUtf16 rest).map (Char.ofNat high :: ·)

theorem toNat_not_surrogate (c : Char) : c.toNat < 0xD800 ∨ 0xDFFF < c.toNat := by
  rcases c.valid with h | ⟨h, _⟩
  · exact .inl h
  · exact .inr h

theorem toNat_lt (c : Char) : c.toNat < 0x110000 := by
  rcases c.valid with h | ⟨_, h⟩
  · have h' : c.toNat < 0xD800 := h
    omega
  · exact h

theorem ofUtf16_utf16 (c : Char) (rest : List Nat) :
    ofUtf16 (utf16 c ++ rest) = (ofUtf16 rest).map (c :: ·) := by
  have hs := toNat_not_surrogate c
  have ht := toNat_lt c
  unfold utf16
  by_cases h : c.toNat < 0x10000
  · rw [if_pos h, List.singleton_append, ofUtf16.eq_def]
    simp only
    rw [if_neg (by omega), if_neg (by omega), Char.ofNat_toNat]
  · rw [if_neg h, List.cons_append, List.singleton_append, ofUtf16]
    have hhigh : 0xD800 ≤ 0xD800 + (c.toNat - 0x10000) / 0x400 ∧
        0xD800 + (c.toNat - 0x10000) / 0x400 < 0xDC00 := by omega
    have hlow : 0xDC00 ≤ 0xDC00 + (c.toNat - 0x10000) % 0x400 ∧
        0xDC00 + (c.toNat - 0x10000) % 0x400 < 0xE000 := by omega
    have hsum : 0x10000 + (0xD800 + (c.toNat - 0x10000) / 0x400 - 0xD800) * 0x400 +
        (0xDC00 + (c.toNat - 0x10000) % 0x400 - 0xDC00) = c.toNat := by omega
    rw [if_pos hhigh, if_pos hlow, hsum, Char.ofNat_toNat]

/-! ## reading what stands between the quotes -/

/-- the 16-bit units that the inside of a literal stands for -/
def bodyUnits : List Char → Option (List Nat)
  | [] => some []
  | '\\' :: 'u' :: a :: b :: c :: d :: rest =>
    match Json.hexUnit? [a, b, c, d] with
    | some unit => (bodyUnits rest).map (unit :: ·)
    | none => none
  | '\\' :: letter :: rest =>
    match Json.unescape? letter with
    | some c => (bodyUnits rest).map (utf16 c ++ ·)
    | none => none
  | c :: rest =>
    if c.toNat < 0x20 ∨ c = '\\' then none else (bodyUnits rest).map (utf16 c ++ ·)

def unquote (body : List Char) : Option (List Char) := (bodyUnits body).bind ofUtf16

theorem hexDigit?_hexDigitChar : ∀ d, d < 16 → hexDigit? (hexDigitChar d) = some d := by decide

theorem hexUnit?_hex4 {unit : Nat} (h : unit < 0x10000) :
    Json.hexUnit? (hex4 unit) = some unit := by
  have h1 := hexDigit?_hexDigitChar (unit / 4096 % 16) (by omega)
  have h2 := hexDigit?_hexDigitChar (unit / 256 % 16) (by omega)
  have h3 := hexDigit?_hexDigitChar (unit / 16 % 16) (by omega)
  have h4 := hexDigit?_hexDigitChar (unit % 16) (by omega)
  show (do
    let a ← hexDigit? (hexDigitChar (unit / 4096 % 16))
    let b ← hexDigit? (hexDigitChar (unit / 256 % 16))
    let c ← hexDigit? (hexDigitChar (unit / 16 % 16))
    let d ← hexDigit? (hexDigitChar (unit % 16))
    return 4096 * a + 256 * b + 16 * c + d) = some unit
  rw [h1, h2, h3, h4]
  show some (4096 * (unit / 4096 % 16) + 256 * (unit / 256 % 16) + 16 * (unit / 16 % 16) +
    unit % 16) = some unit
  congr 1
  omega

theorem bodyUnits_unitEscape {unit : Nat} (h : unit < 0x10000) (rest : List Char) :
    bodyUnits (unitEscape unit ++ rest) = (bodyUnits rest).map (unit :: ·) := by
  have hu := hexUnit?_hex4 h
  unfold hex4 at hu
  show bodyUnits ('\\' :: 'u' :: hexDigitChar (unit / 4096 % 16) ::
    hexDigitChar (unit / 256 % 16) :: hexDigitChar (unit / 16 % 16) ::
    hexDigitChar (unit % 16) :: rest) = _
  rw [bodyUnits, hu]

theorem unescape?_escapeLetter? {c letter : Char} (h : escapeLetter? c = some letter) :
    letter ≠ 'u' ∧ Json.unescape? letter = some c := by
  unfold escapeLetter? at h
  split at h <;> cases h <;> decide

theorem bodyUnits_quotedChar (c : Char) (rest : List Char) :
    bodyUnits (quotedChar c ++ rest) = (bodyUnits rest).map (utf16 c ++ ·) := by
  have ht := toNat_lt c
  unfold quotedChar
  cases hl : escapeLetter? c with
  | some letter =>
    obtain ⟨hne, hc⟩ := unescape?_escapeLetter? hl
    show bodyUnits ('\\' :: letter :: rest) = _
    rw [bodyUnits.eq_def]
    split
    · rename_i heq
      cases heq
    · rename_i heq
      cases heq
      exact absurd rfl hne
    · rename_i heq
      cases heq
      rw [hc]
    · rename_i hother heq
      cases heq
      exact absurd rfl (hother letter rest rfl)
  | none =>
    have hslash : c ≠ '\\' := by
      rintro rfl
      exact absurd hl (by decide)
    simp only
    split
    · rename_i hplain
      rw [List.singleton_append, bodyUnits.eq_def]
      split
      · rename_i heq
        cases heq
      · rename_i heq
        cases heq
        exact absurd rfl hslash
      · rename_i heq
        cases heq
        exact absurd rfl hslash
      · rename_i heq
        cases heq
        rw [if_neg (not_or.mpr ⟨by omega, hslash⟩)]
    · split
      · rename_i hsmall
        rw [bodyUnits_unitEscape hsmall, utf16, if_pos hsmall]
        rfl
      · rename_i hbig
        rw [List.append_assoc, bodyUnits_unitEscape (by omega), bodyUnits_unitEscape (by omega),
          utf16, if_neg hbig, Option.map_map]
        rfl

theorem bodyUnits_flatMap (s : List Char) :
    bodyUnits (s.flatMap quotedChar) = some (s.flatMap utf16) := by
  induction s with
  | nil => rfl
  | cons c s ih =>
    rw [List.flatMap_cons, bodyUnits_quotedChar, ih, List.flatMap_cons]
    rfl

theorem ofUtf16_flatMap (s : List Char) : ofUtf16 (s.flatMap utf16) = some s := by
  induction s with
  | nil => rfl
  | cons c s ih =>
    rw [List.flatMap_cons, ofUtf16_utf16, ih]
    rfl

/-- **A literal reads back as the text that it was written for.** -/
theorem unquote_flatMap (s : List Char) : unquote (s.flatMap quotedChar) = some s := by
  rw [unquote, bodyUnits_flatMap, Option.bind_some, ofUtf16_flatMap]

/-! ## finding the closing quote -/

/-- a quote or a backslash stands behind a backslash only -/
inductive LiteralBody : List Char → Prop
  | nil : LiteralBody []
  | plain {c : Char} {rest : List Char} (hquote : c ≠ '"') (hslash : c ≠ '\\')
      (h : LiteralBody rest) : LiteralBody (c :: rest)
  | escape (c : Char) {rest : List Char} (h : LiteralBody rest) : LiteralBody ('\\' :: c :: rest)

namespace LiteralBody

theorem append {s t : List Char} (hs : LiteralBody s) (ht : LiteralBody t) :
    LiteralBody (s ++ t) := by
  induction hs with
  | nil => exact ht
  | plain hquote hslash _ ih => exact .plain hquote hslash ih
  | escape c _ ih => exact .escape c ih

theorem hexDigitChar_inert : ∀ d, d < 16 → hexDigitChar d ≠ '"' ∧ hexDigitChar d ≠ '\\' := by
  decide

theorem of_inert {s : List Char} (h : ∀ c ∈ s, c ≠ '"' ∧ c ≠ '\\') : LiteralBody s := by
  induction s with
  | nil => exact .nil
  | cons c s ih =>
    obtain ⟨hquote, hslash⟩ := h c List.mem_cons_self
    exact .plain hquote hslash (ih fun d hd => h d (List.mem_cons_of_mem _ hd))

theorem unitEscape (unit : Nat) : LiteralBody (unitEscape unit) := by
  refine .escape 'u' (of_inert fun c hc => ?_)
  simp only [hex4, List.mem_cons, List.not_mem_nil, or_false] at hc
  rcases hc with rfl | rfl | rfl | rfl <;> exact hexDigitChar_inert _ (by omega)

theorem quotedChar (c : Char) : LiteralBody (quotedChar c) := by
  unfold Text.quotedChar
  cases hl : escapeLetter? c with
  | some letter => exact .escape letter .nil
  | none =>
    simp only
    split
    · refine .plain ?_ ?_ .nil
      · rintro rfl
        exact absurd hl (by decide)
      · rintro rfl
        exact absurd hl (by decide)
    · split
      · exact unitEscape _
      · exact (unitEscape _).append (unitEscape _)

theorem flatMap (s : List Char) : LiteralBody (s.flatMap Text.quotedChar) := by
  induction s with
  | nil => exact .nil
  | cons c s ih => exact (quotedChar c).append ih

end LiteralBody

end ApiBindings.Text
