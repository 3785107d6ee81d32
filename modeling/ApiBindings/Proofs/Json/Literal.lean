import ApiBindings.Proofs.Text.Literal

/-!
# String literals are JSON

The literal of a text is a JSON text, and the text is what it is read as.  The reader goes through
the literal character by character: each step takes one escape, or two that are a surrogate pair, and
gives one character of the text.

* `textBody_quotedChar`    one step;
* `textBody_flatMap`       all steps up to the closing quote;
* `read_quotedChars`       the whole literal.
-/

namespace ApiBindings.Json

open Text (hex4 unitEscape quotedChar quotedChars)

/-! ## escapes by number -/

theorem exists_digits {unit : Nat} (h : unit < 0x10000) :
    ∃ a b c d, hex4 unit = [a, b, c, d] ∧ hexUnit? [a, b, c, d] = some unit :=
  ⟨_, _, _, _, rfl, Text.hexUnit?_hex4 h⟩

/-- a unit that begins no surrogate pair -/
theorem codeUnits_single {unit : Nat} (hunit : unit < 0x10000)
    (hsingle : ¬ (0xD800 ≤ unit ∧ unit < 0xDC00)) (next : Char) (rest : List Char)
    (position : Nat) : codeUnits ⟨'u' :: (hex4 unit ++ next :: rest), position⟩ =
      .ok (charOf unit, ⟨next :: rest, position + 5⟩) := by
  obtain ⟨a, b, c, d, hhex, hdigits⟩ := exists_digits hunit
  have hno : ∀ p : Prop, ¬ (0xD800 ≤ unit ∧ unit < 0xDC00 ∧ p) :=
    fun _ h => hsingle ⟨h.1, h.2.1⟩
  rw [hhex, codeUnits]
  simp only [List.cons_append, List.nil_append, List.drop_succ_cons, List.drop_zero,
    List.take_succ_cons, List.take_zero, hdigits, List.length_cons, List.length_nil,
    Nat.reduceAdd, Nat.lt_irrefl, if_false, if_neg (hno _), Cursor.skip]

/-- two units that are a surrogate pair -/
theorem codeUnits_pair {high low : Nat} (hhigh : 0xD800 ≤ high ∧ high < 0xDC00)
    (hlow : 0xDC00 ≤ low ∧ low < 0xE000) (next : Char) (rest : List Char) (position : Nat) :
    codeUnits ⟨'u' :: (hex4 high ++ (unitEscape low ++ next :: rest)), position⟩ =
      .ok (Char.ofNat (0x10000 + (high - 0xD800) * 0x400 + (low - 0xDC00)),
        ⟨next :: rest, position + 11⟩) := by
  obtain ⟨a, b, c, d, hhex, hdigits⟩ := exists_digits (show high < 0x10000 by omega)
  obtain ⟨a', b', c', d', hhex', hdigits'⟩ := exists_digits (show low < 0x10000 by omega)
  rw [hhex, unitEscape, hhex', codeUnits]
  simp only [List.cons_append, List.nil_append, List.drop_succ_cons, List.drop_zero,
    List.take_succ_cons, List.take_zero, hdigits, hdigits', List.length_cons, List.length_nil,
    Nat.reduceAdd, Nat.lt_irrefl, if_false, Cursor.skip, hhigh, hlow, and_self,
    if_true]

/-! ## characters -/

theorem charOf_toNat (c : Char) : charOf c.toNat = c := by
  have hs := Text.toNat_not_surrogate c
  rw [charOf, if_neg (by omega), Char.ofNat_toNat]

section
variable (fuel start : Nat) (acc : List Char) (rest : List Char) (position : Nat)

/-- a character that stands for itself -/
theorem textBody_plain {c : Char} (hquote : c ≠ '"') (hslash : c ≠ '\\') (hc : 0x20 ≤ c.toNat) :
    textBody (fuel + 1) start acc ⟨c :: rest, position⟩ =
      textBody fuel start (c :: acc) ⟨rest, position + 1⟩ := by
  rw [textBody.eq_def]
  simp only
  split
  · rename_i heq
    cases heq
  · rename_i heq
    cases heq
    exact absurd rfl hquote
  · rename_i heq
    cases heq
    exact absurd rfl hslash
  · rename_i heq
    cases heq
    exact absurd rfl hslash
  · rename_i heq
    cases heq
    exact absurd rfl hslash
  · rename_i heq
    cases heq
    rw [if_neg (by omega)]
    rfl

/-- an escape by a letter -/
theorem textBody_letter {letter c : Char} (hletter : letter ≠ 'u')
    (hc : unescape? letter = some c) :
    textBody (fuel + 1) start acc ⟨'\\' :: letter :: rest, position⟩ =
      textBody fuel start (c :: acc) ⟨rest, position + 2⟩ := by
  rw [textBody]
  simp only [hc]
  rfl

/-- an escape by number, or two -/
theorem textBody_units {c : Char} {after : Cursor}
    (h : codeUnits ⟨'u' :: rest, position + 1⟩ = .ok (c, after)) :
    textBody (fuel + 1) start acc ⟨'\\' :: 'u' :: rest, position⟩ =
      textBody fuel start (c :: acc) after := by
  have hskip : Cursor.skip 1 ⟨'\\' :: 'u' :: rest, position⟩ = ⟨'u' :: rest, position + 1⟩ := rfl
  rw [textBody, hskip, h]
  rfl

end

/-- What stands for a character is read as that character, if the literal goes on behind it. -/
theorem textBody_quotedChar (c next : Char) (rest acc : List Char) (fuel start position : Nat) :
    textBody (fuel + 1) start acc ⟨quotedChar c ++ next :: rest, position⟩ =
      textBody fuel start (c :: acc) ⟨next :: rest, position + (quotedChar c).length⟩ := by
  have hs := Text.toNat_not_surrogate c
  have ht := Text.toNat_lt c
  unfold quotedChar
  cases hl : Text.escapeLetter? c with
  | some letter =>
    obtain ⟨hne, hc⟩ := Text.unescape?_escapeLetter? hl
    exact textBody_letter fuel start acc (next :: rest) position hne hc
  | none =>
    simp only
    split
    · have hquote : c ≠ '"' := by
        rintro rfl
        exact absurd hl (by decide)
      have hslash : c ≠ '\\' := by
        rintro rfl
        exact absurd hl (by decide)
      exact textBody_plain fuel start acc (next :: rest) position hquote hslash (by omega)
    · split
      · rename_i hsmall
        have hunit := codeUnits_single hsmall (by omega) next rest (position + 1)
        rw [charOf_toNat] at hunit
        exact textBody_units fuel start acc _ position hunit
      · rename_i hbig
        generalize hhigh : 0xD800 + (c.toNat - 0x10000) / 0x400 = high
        generalize hlow : 0xDC00 + (c.toNat - 0x10000) % 0x400 = low
        have hunits := codeUnits_pair (show 0xD800 ≤ high ∧ high < 0xDC00 by omega)
          (show 0xDC00 ≤ low ∧ low < 0xE000 by omega) next rest (position + 1)
        have hsum : 0x10000 + (high - 0xD800) * 0x400 + (low - 0xDC00) = c.toNat := by omega
        rw [hsum, Char.ofNat_toNat] at hunits
        rw [List.append_assoc]
        exact textBody_units fuel start acc _ position hunits

/-- A text is read off what was written for it, up to the closing quote. -/
theorem textBody_flatMap (s rest acc : List Char) (fuel start position : Nat)
    (hfuel : s.length < fuel) :
    textBody fuel start acc ⟨s.flatMap quotedChar ++ '"' :: rest, position⟩ =
      .ok (String.ofList (acc.reverse ++ s),
        ⟨rest, position + (s.flatMap quotedChar).length + 1⟩) := by
  induction s generalizing acc fuel position with
  | nil =>
    obtain ⟨more, rfl⟩ := Nat.exists_eq_add_of_lt hfuel
    rw [List.append_nil]
    rfl
  | cons c s ih =>
    obtain ⟨more, rfl⟩ := Nat.exists_eq_add_of_lt hfuel
    -- something stands behind the character: the next one, or the closing quote
    obtain ⟨next, behind, hnext⟩ : ∃ next behind,
        s.flatMap quotedChar ++ '"' :: rest = next :: behind :=
      List.exists_cons_of_ne_nil (List.append_ne_nil_of_right_ne_nil _ (List.cons_ne_nil _ _))
    have hlength : s.length < (c :: s).length + more := by
      rw [List.length_cons]
      omega
    rw [List.flatMap_cons, List.append_assoc, hnext, textBody_quotedChar, ← hnext,
      ih _ _ _ hlength, List.reverse_cons, List.append_assoc, List.length_append]
    simp only [List.singleton_append, Nat.add_assoc]

theorem text_quotedChars (s rest : List Char) (fuel position : Nat) (hfuel : s.length < fuel) :
    text fuel ⟨quotedChars s ++ rest, position⟩ =
      .ok (String.ofList s, ⟨rest, position + (quotedChars s).length⟩) := by
  have hskip : Cursor.skip 1 ⟨quotedChars s ++ rest, position⟩ =
      ⟨s.flatMap quotedChar ++ '"' :: rest, position + 1⟩ := by
    rw [Cursor.skip, quotedChars, List.cons_append, List.append_assoc]
    rfl
  have hlength : position + 1 + (s.flatMap quotedChar).length + 1 =
      position + (quotedChars s).length := by
    rw [quotedChars, List.length_cons, List.length_append, List.length_singleton]
    omega
  rw [text, hskip, textBody_flatMap s rest [] fuel position (position + 1) hfuel, hlength]
  rfl

theorem quotedChar_ne_nil (c : Char) : quotedChar c ≠ [] := by
  unfold quotedChar
  split
  · exact List.cons_ne_nil _ _
  · simp only
    split
    · exact List.cons_ne_nil _ _
    · split <;> exact List.cons_ne_nil _ _

theorem length_lt_quotedChars (s : List Char) : s.length < (quotedChars s).length := by
  have hle : s.length ≤ (s.flatMap quotedChar).length := by
    induction s with
    | nil => exact Nat.le_refl 0
    | cons c s ih =>
      have hpos := List.length_pos_iff.mpr (quotedChar_ne_nil c)
      rw [List.flatMap_cons, List.length_append, List.length_cons]
      omega
  rw [quotedChars, List.length_cons, List.length_append]
  omega

/-- **The literal of a text is read as JSON, and as that text.** -/
theorem read_quotedChars (s : List Char) :
    read (quotedChars s) = .ok (.text (String.ofList s)) := by
  have hfuel : s.length < 2 * (quotedChars s).length := by
    have hlt := length_lt_quotedChars s
    omega
  have htext := text_quotedChars s [] (2 * (quotedChars s).length) 0 hfuel
  rw [List.append_nil] at htext
  have hvalue : value (2 * (quotedChars s).length + 1) ⟨quotedChars s, 0⟩ =
      .ok (.text (String.ofList s), ⟨[], 0 + (quotedChars s).length⟩) := by
    rw [quotedChars] at htext ⊢
    rw [value, htext]
    rfl
  have hstart : Cursor.skipBlanks ⟨quotedChars s, 0⟩ = ⟨quotedChars s, 0⟩ := rfl
  have hmark : (quotedChars s).head? ≠ some '\uFEFF' := by
    rw [quotedChars, List.head?_cons]
    decide
  have hall : readAll (quotedChars s) = .ok (.text (String.ofList s)) := by
    rw [readAll, if_neg hmark]
    simp only [hstart, hvalue]
    rfl
  rw [read, hall]
  rfl

end ApiBindings.Json
