import ApiBindings.Proofs.Text.Literal
import Mathlib.Tactic.SplitIfs

/-!
# Template literals read back

Between its backticks a template literal holds characters, escapes and substitutions.  It is read as
the 16-bit units that it stands for, with the code of each substitution in its place.  Code is
passed over up to the brace that closes the substitution; single quotes, backticks and slashes, at
which other literals or comments may begin, are not read in it.

* `Reading`, `template?`    what a literal stands for, and what stands behind it;
* `size_le_of_body?`        no literal stands for more than it is written in;
* `size_lt_of_escape`       and one that begins with an escape stands for less;
* `Passes`                  code that a substitution may consist of.
-/

namespace ApiBindings.Source

open Text (utf16)

/-! ## what a literal stands for -/

/-- a part of the value of a template literal -/
inductive Item where
  | unit (value : Nat)
  | code (text : List Char)
deriving DecidableEq, Repr

def literally (text : List Char) : List Item := (text.flatMap utf16).map .unit

theorem literally_append (s t : List Char) : literally (s ++ t) = literally s ++ literally t := by
  rw [literally, List.flatMap_append, List.map_append]
  rfl

theorem exists_unit (c : Char) (more : List Char) :
    ∃ unit units, literally (c :: more) = .unit unit :: units := by
  unfold literally utf16
  rw [List.flatMap_cons]
  split <;> exact ⟨_, _, rfl⟩

/-- the value of a template literal, and what stands behind it -/
@[ext]
structure Reading where
  items : List Item
  rest : List Char
deriving DecidableEq, Repr

def Reading.prepend (items : List Item) (r : Reading) : Reading := ⟨items ++ r.items, r.rest⟩

theorem Reading.prepend_append (items more : List Item) (r : Reading) :
    r.prepend (items ++ more) = (r.prepend more).prepend items := by
  rw [prepend, List.append_assoc]
  rfl

theorem map_prepend_eq_iff {found : Option Reading} {items : List Item} {r : Reading} :
    found.map (.prepend items) = some (r.prepend items) ↔ found = some r := by
  constructor
  · intro h
    obtain ⟨r', rfl, heq⟩ := Option.map_eq_some_iff.mp h
    obtain ⟨hitems, hrest⟩ := Reading.mk.inj heq
    rw [Reading.ext (List.append_cancel_left hitems) hrest]
  · rintro rfl
    rfl

/-! ## escapes -/

def hexNumber? (digits : List Char) : Option Nat :=
  if digits.isEmpty then none
  else digits.foldlM (fun n digit => (Text.hexDigit? digit).map (16 * n + ·)) 0

def pointUnits (point : Nat) : List Nat :=
  if point < 0x10000 then [point]
  else [0xD800 + (point - 0x10000) / 0x400, 0xDC00 + (point - 0x10000) % 0x400]

/-- the units of an escape by number, behind its letter `u` -/
def pointEscape? : List Char → Option (List Nat × List Char)
  | '{' :: text =>
    match text.dropWhile (· != '}'), hexNumber? (text.takeWhile (· != '}')) with
    | _ :: rest, some point => if point < 0x110000 then some (pointUnits point, rest) else none
    | _, _ => none
  | a :: b :: c :: d :: rest => (hexNumber? [a, b, c, d]).map fun unit => ([unit], rest)
  | _ => none

/-- the units of an escape by two digits, behind its letter `x` -/
def byteEscape? : List Char → Option (List Nat × List Char)
  | a :: b :: rest => (hexNumber? [a, b]).map fun unit => ([unit], rest)
  | _ => none

/-- the units that a character stands for behind a backslash, if it begins no escape by number -/
def escapedUnits (c : Char) : List Nat :=
  if c = 'b' then [8] else if c = 't' then [9] else if c = 'n' then [10] else if c = 'v' then [11]
  else if c = 'f' then [12] else if c = 'r' then [13] else utf16 c

def endsLine (c : Char) : Bool := c == '\n' || c == '\r' || c == '\u2028' || c == '\u2029'

/-- The units of the escape that begins behind a backslash, and what follows it.  The end of a line
stands for nothing. -/
def escape? : List Char → Option (List Nat × List Char)
  | [] => none
  | c :: rest =>
    if c = 'x' then byteEscape? rest
    else if c = 'u' then pointEscape? rest
    else if c = '0' then if (rest.head?.any Char.isDigit) then none else some ([0], rest)
    else if c.isDigit then none
    else if c = '\r' ∧ rest.head? = some '\n' then some ([], rest.tail)
    else if endsLine c then some ([], rest)
    else some (escapedUnits c, rest)

/-! ## substitutions -/

/-- where a place in code stands: in no text, in a text, or behind a backslash in a text -/
inductive Place where
  | code
  | text
  | escape

/-- what is kept of a character and what follows it -/
def keep (c : Char) (found : Option (List Char × List Char)) : Option (List Char × List Char) :=
  found.map fun s => (c :: s.1, s.2)

/-- The code in front of the brace that closes a substitution, and what follows this brace; `depth`
braces are open in the code. -/
def substitution? (depth : Nat) : Place → List Char → Option (List Char × List Char)
  | _, [] => none
  | .escape, c :: rest => keep c (substitution? depth .text rest)
  | .text, c :: rest =>
    let place := if c = '\\' then .escape else if c = '"' then .code else .text
    keep c (substitution? depth place rest)
  | .code, c :: rest =>
    if c = '}' ∧ depth = 0 then some ([], rest)
    else if c = '\'' ∨ c = '`' ∨ c = '/' then none
    else
      let inside := if c = '{' then depth + 1 else if c = '}' then depth - 1 else depth
      keep c (substitution? inside (if c = '"' then .text else .code) rest)

/-! ## literals -/

/-- The items at the front of a literal, and what follows them.  The end of a line is always read as
a line feed. -/
def front? : List Char → Option (List Item × List Char)
  | [] => none
  | c :: rest =>
    if c = '\\' then (escape? rest).map fun e => (e.1.map .unit, e.2)
    else if c = '$' ∧ rest.head? = some '{' then
      (substitution? 0 .code rest.tail).map fun s => ([.code s.1], s.2)
    else if c = '\r' then some ([.unit 10], if rest.head? = some '\n' then rest.tail else rest)
    else some ((utf16 c).map .unit, rest)

/-! ## sizes -/

/-- the number of units that a text is written in -/
def weight (text : List Char) : Nat := (text.flatMap utf16).length

theorem weight_cons (c : Char) (text : List Char) :
    weight (c :: text) = (utf16 c).length + weight text := by
  rw [weight, List.flatMap_cons, List.length_append, weight]

theorem weight_append (s t : List Char) : weight (s ++ t) = weight s + weight t := by
  rw [weight, List.flatMap_append, List.length_append, weight, weight]

theorem one_le_utf16 (c : Char) : 1 ≤ (utf16 c).length := by
  unfold utf16
  split
  · exact Nat.le_refl 1
  · exact Nat.le_succ 1

/-- how many units an item is written in at least -/
def Item.size : Item → Nat
  | unit _ => 1
  | code text => weight text + 3

/-- how many units items are written in at least -/
def size : List Item → Nat
  | [] => 0
  | item :: items => item.size + size items

theorem size_append (s t : List Item) : size (s ++ t) = size s + size t := by
  induction s with
  | nil => exact (Nat.zero_add _).symm
  | cons item s ih => rw [List.cons_append, size, ih, size, Nat.add_assoc]

theorem size_units (us : List Nat) : size (us.map .unit) = us.length := by
  induction us with
  | nil => rfl
  | cons u us ih =>
    show 1 + size (us.map .unit) = _
    rw [ih, List.length_cons, Nat.add_comm]

theorem size_literally (text : List Char) : size (literally text) = weight text :=
  size_units _

/-- how many units a literal and what stands behind it are written in at least, without the opening
backtick -/
def Reading.size (r : Reading) : Nat := Source.size r.items + 1 + weight r.rest

theorem Reading.size_prepend (items : List Item) (r : Reading) :
    (r.prepend items).size = Source.size items + r.size := by
  show Source.size (items ++ r.items) + 1 + weight r.rest = _
  rw [size_append, Reading.size]
  omega

theorem weight_tail_le (text : List Char) : weight text.tail ≤ weight text := by
  cases text with
  | nil => exact Nat.le_refl _
  | cons c text =>
    rw [weight_cons]
    exact Nat.le_add_left _ _

theorem length_pointUnits (point : Nat) : (pointUnits point).length ≤ 2 := by
  unfold pointUnits
  split
  · exact Nat.le_succ 1
  · exact Nat.le_refl 2

theorem byteEscape?_size {text rest : List Char} {us : List Nat}
    (h : byteEscape? text = some (us, rest)) : us.length + weight rest ≤ weight text := by
  unfold byteEscape? at h
  split at h
  · rename_i a b after
    obtain ⟨n, _, heq⟩ := Option.map_eq_some_iff.mp h
    cases heq
    have ha := one_le_utf16 a
    rw [weight_cons, weight_cons, List.length_singleton]
    omega
  · cases h

theorem pointEscape?_size {text rest : List Char} {us : List Nat}
    (h : pointEscape? text = some (us, rest)) : us.length + weight rest ≤ weight text := by
  unfold pointEscape? at h
  split at h
  · rename_i digits
    split at h
    · rename_i close after point hdrop _
      split at h
      · cases h
        have hsplit : weight digits = weight (digits.takeWhile (· != '}')) +
            weight (close :: rest) := by
          rw [← weight_append, ← hdrop, List.takeWhile_append_dropWhile]
        have hclose := one_le_utf16 close
        have hopen := one_le_utf16 '{'
        have hunits := length_pointUnits point
        rw [weight_cons] at hsplit
        rw [weight_cons]
        omega
      · cases h
    · cases h
  · rename_i a b c d after _
    obtain ⟨n, _, heq⟩ := Option.map_eq_some_iff.mp h
    cases heq
    have ha := one_le_utf16 a
    rw [weight_cons, weight_cons, weight_cons, weight_cons, List.length_singleton]
    omega
  · cases h

theorem length_escapedUnits (c : Char) : (escapedUnits c).length ≤ (utf16 c).length := by
  have hone := one_le_utf16 c
  unfold escapedUnits
  split_ifs
  all_goals first | exact hone | exact Nat.le_refl _

/-- an escape stands for no more units than are behind its backslash -/
theorem escape?_size {text rest : List Char} {us : List Nat}
    (h : escape? text = some (us, rest)) : us.length + weight rest ≤ weight text := by
  cases text with
  | nil => cases h
  | cons c text =>
    have hc := one_le_utf16 c
    rw [weight_cons]
    rw [escape?] at h
    split_ifs at h
    · exact Nat.le_add_left_of_le (byteEscape?_size h)
    · exact Nat.le_add_left_of_le (pointEscape?_size h)
    · cases h
      rw [List.length_singleton]
      omega
    · cases h
      have htail := weight_tail_le text
      rw [List.length_nil]
      omega
    · cases h
      rw [List.length_nil]
      omega
    · cases h
      have hunits := length_escapedUnits c
      omega

theorem keep_eq_some {c : Char} {found : Option (List Char × List Char)} {code rest : List Char} :
    keep c found = some (code, rest) ↔ ∃ more, found = some (more, rest) ∧ code = c :: more := by
  rw [keep, Option.map_eq_some_iff]
  constructor
  · rintro ⟨⟨more, rest'⟩, hfound, heq⟩
    cases heq
    exact ⟨more, hfound, rfl⟩
  · rintro ⟨more, hfound, rfl⟩
    exact ⟨_, hfound, rfl⟩

/-- the code of a substitution is what stands in front of its closing brace -/
theorem eq_of_substitution? {depth : Nat} {place : Place} {text code rest : List Char}
    (h : substitution? depth place text = some (code, rest)) : text = code ++ '}' :: rest := by
  induction text generalizing depth place code with
  | nil => cases place <;> cases h
  | cons c text ih =>
    have hkept {depth : Nat} {place : Place}
        (h : keep c (substitution? depth place text) = some (code, rest)) :
        c :: text = code ++ '}' :: rest := by
      obtain ⟨more, hmore, rfl⟩ := keep_eq_some.mp h
      rw [ih hmore]
      rfl
    cases place with
    | escape => exact hkept h
    | text => exact hkept h
    | code =>
      rw [substitution?] at h
      split_ifs at h with hclose
      · cases h
        rw [hclose.1]
        rfl
      all_goals exact hkept h

theorem front?_size {c : Char} {text rest : List Char} {items : List Item}
    (h : front? (c :: text) = some (items, rest)) :
    size items + weight rest ≤ weight (c :: text) ∧ weight rest < weight (c :: text) := by
  have hc := one_le_utf16 c
  have htail := weight_tail_le text
  rw [weight_cons]
  rw [front?] at h
  split_ifs at h with hslash hcode hreturn hfeed
  · obtain ⟨e, he, heq⟩ := Option.map_eq_some_iff.mp h
    cases heq
    have hsize := escape?_size he
    rw [size_units]
    omega
  · obtain ⟨s, hs, heq⟩ := Option.map_eq_some_iff.mp h
    cases heq
    obtain ⟨inside, rfl⟩ := List.head?_eq_some_iff.mp hcode.2
    have hinside : inside = s.1 ++ '}' :: s.2 := eq_of_substitution? hs
    have hopen := one_le_utf16 '{'
    have hclose := one_le_utf16 '}'
    have hsize : size [.code s.1] = weight s.1 + 3 := rfl
    rw [hinside, weight_cons, weight_append, weight_cons, hsize]
    omega
  · cases h
    have hsize : size [.unit 10] = 1 := rfl
    rw [hsize]
    omega
  · cases h
    have hsize : size [.unit 10] = 1 := rfl
    rw [hsize]
    omega
  · cases h
    rw [size_units]
    omega

/-- The value of a literal whose opening backtick has been read. -/
def body? : List Char → Option Reading
  | [] => none
  | c :: text =>
    if c = '`' then some ⟨[], text⟩
    else
      match _h : front? (c :: text) with
      | none => none
      | some (items, rest) => (body? rest).map (.prepend items)
termination_by text => weight text
decreasing_by exact (front?_size _h).2

def template? : List Char → Option Reading
  | '`' :: text => body? text
  | _ => none

/-! ## steps -/

theorem body?_closing (text : List Char) : body? ('`' :: text) = some ⟨[], text⟩ := by
  rw [body?, if_pos rfl]

theorem body?_cons {c : Char} (h : c ≠ '`') (text : List Char) : body? (c :: text) =
    (front? (c :: text)).bind fun f => (body? f.2).map (.prepend f.1) := by
  rw [body?, if_neg h]
  split
  · rename_i hfront
    rw [hfront]
    rfl
  · rename_i hfront
    rw [hfront]
    rfl

/-- a character that stands for itself -/
theorem body?_char {c : Char} {text : List Char} (htick : c ≠ '`') (hslash : c ≠ '\\')
    (hreturn : c ≠ '\r') (hcode : ¬ (c = '$' ∧ text.head? = some '{')) :
    body? (c :: text) = (body? text).map (.prepend (literally [c])) := by
  have hunits : literally [c] = (utf16 c).map .unit := by
    rw [literally, List.flatMap_singleton]
  rw [body?_cons htick, front?, if_neg hslash, if_neg hcode, if_neg hreturn, Option.bind_some,
    hunits]

theorem body?_code (text : List Char) : body? ('$' :: '{' :: text) =
    (substitution? 0 .code text).bind fun s => (body? s.2).map (.prepend [.code s.1]) := by
  rw [body?_cons (by decide), front?, if_neg (by decide), if_pos ⟨rfl, rfl⟩, List.tail_cons]
  cases substitution? 0 .code text <;> rfl

/-- no literal stands for more than it is written in -/
theorem size_le_of_body? {text : List Char} {r : Reading} (h : body? text = some r) :
    r.size ≤ weight text := by
  fun_induction body? text generalizing r with
  | case1 => cases h
  | case2 text =>
    cases h
    show 0 + 1 + weight text ≤ _
    rw [weight_cons]
    exact Nat.add_le_add_right (one_le_utf16 '`') _
  | case3 => cases h
  | case4 _ _ _ _ _ hfront ih =>
    obtain ⟨r', hr', rfl⟩ := Option.map_eq_some_iff.mp h
    have hsize := (front?_size hfront).1
    have hrest := ih hr'
    rw [Reading.size_prepend]
    omega

/-- **A literal that begins with an escape stands for less than it is written in.** -/
theorem size_lt_of_escape {text : List Char} {r : Reading} (h : body? ('\\' :: text) = some r) :
    r.size < weight ('\\' :: text) := by
  rw [body?_cons (by decide), front?, if_pos rfl] at h
  obtain ⟨f, hf, hr⟩ := Option.bind_eq_some_iff.mp h
  obtain ⟨⟨us, rest⟩, he, rfl⟩ := Option.map_eq_some_iff.mp hf
  obtain ⟨r', hr', rfl⟩ := Option.map_eq_some_iff.mp hr
  have hescape := escape?_size he
  have hrest : r'.size ≤ weight rest := size_le_of_body? hr'
  have hone := one_le_utf16 '\\'
  rw [Reading.size_prepend, size_units, weight_cons]
  dsimp only
  omega

/-! ## code that can be substituted -/

/-- code that is passed over wherever it stands outside of texts -/
def Passes (code : List Char) : Prop :=
  ∀ depth rest, substitution? depth .code (code ++ rest) =
    (substitution? depth .code rest).map fun s => (code ++ s.1, s.2)

theorem passes_nil : Passes [] := by
  intro depth rest
  rw [List.nil_append]
  cases substitution? depth .code rest <;> rfl

theorem Passes.append {s t : List Char} (hs : Passes s) (ht : Passes t) : Passes (s ++ t) := by
  intro depth rest
  rw [List.append_assoc, hs, ht, Option.map_map]
  refine congrArg (Option.map · _) (funext fun found => ?_)
  rw [Function.comp_apply, List.append_assoc]

/-- a substitution ends behind code that is passed over -/
theorem Passes.substitution?_eq {code : List Char} (h : Passes code) (rest : List Char) :
    substitution? 0 .code (code ++ '}' :: rest) = some (code, rest) := by
  have hclose : substitution? 0 .code ('}' :: rest) = some ([], rest) := if_pos ⟨rfl, rfl⟩
  rw [h, hclose, Option.map_some, List.append_nil]

/-- whether a character means nothing special in code -/
def isCode (c : Char) : Bool :=
  c != '"' && c != '{' && c != '}' && c != '\'' && c != '`' && c != '/'

theorem isCode_iff {c : Char} : isCode c = true ↔
    c ≠ '"' ∧ c ≠ '{' ∧ c ≠ '}' ∧ c ≠ '\'' ∧ c ≠ '`' ∧ c ≠ '/' := by
  simp only [isCode, Bool.and_eq_true, bne_iff_ne, and_assoc]

theorem passes_singleton {c : Char} (h : isCode c = true) : Passes [c] := by
  intro depth rest
  obtain ⟨hquote, hopen, hclose, hsingle, htick, hslash⟩ := isCode_iff.mp h
  rw [List.singleton_append, substitution?, if_neg fun h => hclose h.1,
    if_neg (not_or.mpr ⟨hsingle, not_or.mpr ⟨htick, hslash⟩⟩), if_neg hopen, if_neg hclose,
    if_neg hquote]
  rfl

theorem passes_of_isCode {code : List Char} (h : code.all isCode = true) : Passes code := by
  induction code with
  | nil => exact passes_nil
  | cons c code ih =>
    obtain ⟨hc, hcode⟩ := Bool.and_eq_true_iff.mp h
    exact (passes_singleton hc).append (ih hcode)

/-- the braces around code belong to it -/
theorem Passes.braced {code : List Char} (h : Passes code) : Passes ('{' :: (code ++ ['}'])) := by
  intro depth rest
  have hopen : substitution? depth .code ('{' :: (code ++ '}' :: rest)) =
      keep '{' (substitution? (depth + 1) .code (code ++ '}' :: rest)) := rfl
  have hclose : substitution? (depth + 1) .code ('}' :: rest) =
      keep '}' (substitution? depth .code rest) := rfl
  rw [List.cons_append, List.append_assoc, List.singleton_append, hopen, h, hclose, keep, keep,
    Option.map_map, Option.map_map]
  refine congrArg (Option.map · _) (funext fun found => ?_)
  simp only [Function.comp_apply, List.append_assoc, List.cons_append, List.nil_append]

theorem substitution?_body {body : List Char} (h : Text.LiteralBody body) (depth : Nat)
    (rest : List Char) : substitution? depth .text (body ++ rest) =
      (substitution? depth .text rest).map fun s => (body ++ s.1, s.2) := by
  induction h with
  | nil =>
    rw [List.nil_append]
    cases substitution? depth .text rest <;> rfl
  | @plain c body hquote hslash _ ih =>
    rw [List.cons_append, substitution?, if_neg hslash, if_neg hquote, ih, keep, Option.map_map]
    rfl
  | @escape c body _ ih =>
    rw [List.cons_append, List.cons_append, substitution?, if_pos rfl, substitution?, ih, keep,
      keep, Option.map_map, Option.map_map]
    rfl

/-- the literal of a text is passed over -/
theorem passes_quotedChars (s : List Char) : Passes (Text.quotedChars s) := by
  intro depth rest
  have hopen : ∀ text, substitution? depth .code ('"' :: text) =
      keep '"' (substitution? depth .text text) := fun _ => rfl
  have hclose : substitution? depth .text ('"' :: rest) =
      keep '"' (substitution? depth .code rest) := rfl
  rw [Text.quotedChars, List.cons_append, hopen, List.append_assoc, List.singleton_append,
    substitution?_body (Text.LiteralBody.flatMap s), hclose, keep, keep, Option.map_map,
    Option.map_map]
  refine congrArg (Option.map · _) (funext fun found => ?_)
  simp only [Function.comp_apply, List.append_assoc, List.cons_append, List.nil_append]

end ApiBindings.Source
