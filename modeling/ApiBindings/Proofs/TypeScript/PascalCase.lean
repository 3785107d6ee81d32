import ApiBindings.Proofs.TypeText.TypeName

/-!
# Pascal case, word by word

Before a name is cut into words, blanks are set at the boundaries of camel case.  They go in front
of capitals only, and the first letter of a word is made a capital anyway, so nothing is seen of
them in the result: only the runs of letters and digits count.

* `pascalOf`                   the runs of a text, each with a capital, one behind another;
* `CapitalsApart`              a text with blanks set in front of some of its capitals;
* `pascalLetters`              the result in one pass, which does not see such blanks;
* `pascal_eq_pascalOf`         Pascal case is `pascalOf`, whichever way accents are removed.
-/

namespace ApiBindings.TypeScript

/-! ## words -/

/-- the maximal runs of ASCII letters and digits -/
def words (s : List Char) : List (List Char) :=
  (s.splitOnP fun c => !c.isAlphanum).filter fun word => !word.isEmpty

/-- a word with a capital in front -/
def withCapital : List Char → List Char
  | [] => []
  | c :: rest => c.toUpper :: rest

/-- The words of a text, each with a capital in front, one behind another.  An underscore goes
before a digit at the start, and a fixed name stands for no words at all. -/
def pascalOf (s : List Char) : List Char :=
  let joined := (words s).flatMap withCapital
  if joined = [] then "Unnamed".toList
  else if joined.head?.any Char.isDigit then '_' :: joined
  else joined

/-- Pascal case for a way to remove accents -/
def pascalWith (strip : List Char → List Char) (name : List Char) : List Char :=
  let parts := alphanumericRuns [] (splitAcronyms (splitCapitals (strip name)))
  legalTypeName (parts.flatMap Text.capitalize)

theorem pascalChars_eq (name : List Char) :
    pascalChars name = pascalWith Text.stripAccents name := rfl

/-! ## one pass -/

/-- The letters and digits of a text; one becomes a capital if none stands directly before it. -/
def pascalLetters (inside : Bool) : List Char → List Char
  | [] => []
  | c :: rest =>
    if c.isAlphanum then (if inside then c else c.toUpper) :: pascalLetters true rest
    else pascalLetters false rest

theorem pascalLetters_letter {c : Char} (h : c.isAlphanum = true) (inside : Bool)
    (rest : List Char) : pascalLetters inside (c :: rest) =
      (if inside then c else c.toUpper) :: pascalLetters true rest := by
  rw [pascalLetters, if_pos h]

theorem pascalLetters_other {c : Char} (h : c.isAlphanum = false) (inside : Bool)
    (rest : List Char) : pascalLetters inside (c :: rest) = pascalLetters false rest := by
  rw [pascalLetters, h, if_neg Bool.false_ne_true]

/-- The pass goes from the letters of the first word on to the words behind it. -/
theorem exists_splitOnP (s : List Char) : ∃ word later,
    (s.splitOnP fun c => !c.isAlphanum) = word :: later ∧
      pascalLetters true s = word ++ later.flatMap withCapital ∧
      pascalLetters false s = withCapital word ++ later.flatMap withCapital := by
  induction s with
  | nil => exact ⟨[], [], List.splitOnP_nil, rfl, rfl⟩
  | cons c s ih =>
    obtain ⟨word, later, hsplit, hinside, houtside⟩ := ih
    rw [List.splitOnP_cons_eq_if_modifyHead, hsplit]
    cases hc : c.isAlphanum with
    | true =>
      refine ⟨c :: word, later, rfl, ?_, ?_⟩
      · rw [pascalLetters_letter hc, hinside]
        rfl
      · rw [pascalLetters_letter hc, hinside]
        rfl
    | false =>
      refine ⟨[], word :: later, rfl, ?_, ?_⟩
      · rw [pascalLetters_other hc, houtside]
        rfl
      · rw [pascalLetters_other hc, houtside]
        rfl

theorem flatMap_withCapital_words (s : List Char) :
    (words s).flatMap withCapital = pascalLetters false s := by
  obtain ⟨word, later, hsplit, _, houtside⟩ := exists_splitOnP s
  have hfilter : ∀ ws : List (List Char),
      (ws.filter fun w => !w.isEmpty).flatMap withCapital = ws.flatMap withCapital := by
    intro ws
    induction ws with
    | nil => rfl
    | cons w ws ih =>
      cases w with
      | nil => exact ih
      | cons c w => exact congrArg (withCapital (c :: w) ++ ·) ih
  rw [words, hfilter, hsplit, houtside, List.flatMap_cons]

theorem capitalize_of_isAlphanum {c : Char} (h : c.isAlphanum = true) (rest : List Char) :
    Text.capitalize (c :: rest) = c.toUpper :: rest := by
  rw [Text.capitalize, Text.upperChar_ascii (toNat_of_isAlphanum h), List.singleton_append]

/-- the runs of a text, where `run` was read already, in reverse -/
theorem flatMap_capitalize_runs {run : List Char} (hrun : ∀ c ∈ run, c.isAlphanum = true)
    (s : List Char) : (alphanumericRuns run s).flatMap Text.capitalize =
      Text.capitalize run.reverse ++ pascalLetters (!run.isEmpty) s := by
  induction s generalizing run with
  | nil => cases run <;> simp [alphanumericRuns, pascalLetters, Text.capitalize]
  | cons c s ih =>
    rw [alphanumericRuns]
    cases hc : c.isAlphanum with
    | true =>
      rw [if_pos rfl, ih (List.forall_mem_cons.mpr ⟨hc, hrun⟩), pascalLetters_letter hc,
        List.reverse_cons]
      cases hrev : run.reverse with
      | nil =>
        rw [List.reverse_eq_nil_iff.mp hrev, List.nil_append, capitalize_of_isAlphanum hc]
        rfl
      | cons d word =>
        have hne : run ≠ [] := by
          rintro rfl
          cases hrev
        have hd : d.isAlphanum = true := by
          refine hrun d (List.mem_reverse.mp ?_)
          rw [hrev]
          exact List.mem_cons_self
        rw [List.cons_append, capitalize_of_isAlphanum hd, capitalize_of_isAlphanum hd,
          List.isEmpty_eq_false_iff.mpr hne]
        simp
    | false =>
      rw [if_neg Bool.false_ne_true, pascalLetters_other hc]
      cases run with
      | nil => exact ih (List.forall_mem_nil _)
      | cons d run =>
        have ih := ih (List.forall_mem_nil _)
        rw [List.isEmpty_cons, if_neg Bool.false_ne_true, List.flatMap_cons, ih]
        rfl

theorem legalTypeName_eq (s : List Char) : legalTypeName s =
    if s = [] then "Unnamed".toList else if s.head?.any Char.isDigit then '_' :: s else s := by
  cases s <;> rfl

/-! ## blanks before capitals -/

/-- the second text is the first one with blanks set in front of some capitals -/
inductive CapitalsApart : List Char → List Char → Prop
  | nil : CapitalsApart [] []
  | cons (c : Char) {s t : List Char} (h : CapitalsApart s t) : CapitalsApart (c :: s) (c :: t)
  | blank {c : Char} {s t : List Char} (hc : c.isUpper = true) (h : CapitalsApart (c :: s) t) :
      CapitalsApart (c :: s) (' ' :: t)

theorem CapitalsApart.refl : ∀ s : List Char, CapitalsApart s s
  | [] => .nil
  | c :: s => .cons c (refl s)

theorem capitalsApart_splitCapitals (s : List Char) : CapitalsApart s (splitCapitals s) := by
  induction s using splitCapitals.induct with
  | case1 => exact .nil
  | case2 c => exact .refl [c]
  | case3 a b rest hboundary ih =>
    rw [splitCapitals, if_pos hboundary]
    exact .cons a (.blank (Bool.and_eq_true_iff.mp hboundary).2 ih)
  | case4 a b rest hinner ih =>
    rw [splitCapitals, if_neg hinner]
    exact .cons a ih

theorem capitalsApart_splitAcronyms (s : List Char) : CapitalsApart s (splitAcronyms s) := by
  induction s using splitAcronyms.induct with
  | case1 a b c rest hboundary ih =>
    rw [splitAcronyms, if_pos hboundary]
    have hb : b.isUpper = true := (Bool.and_eq_true_iff.mp (Bool.and_eq_true_iff.mp hboundary).1).2
    exact .cons a (.blank hb ih)
  | case2 a b c rest hinner ih =>
    rw [splitAcronyms, if_neg hinner]
    exact .cons a ih
  | case3 s hshort =>
    rw [splitAcronyms]
    · exact .refl s
    · exact hshort

theorem toUpper_of_capital {c : Char} (h : c.isUpper = true ∨ c.isDigit = true) :
    c.toUpper = c := by
  have hall : ∀ n, n < 128 → (Char.ofNat n).isUpper = true ∨ (Char.ofNat n).isDigit = true →
      (Char.ofNat n).toUpper = Char.ofNat n := by
    decide
  have hascii := toNat_of_isAlphanum (isAlphanum_of_capital h)
  have hc := hall c.toNat hascii
  rw [Char.ofNat_toNat] at hc
  exact hc h

/-- A blank in front of a capital is not seen: the capital is one with or without it. -/
theorem CapitalsApart.pascalLetters_eq {s t : List Char} (h : CapitalsApart s t) (inside : Bool) :
    pascalLetters inside t = pascalLetters inside s := by
  induction h generalizing inside with
  | nil => rfl
  | cons c _ ih => rw [pascalLetters, pascalLetters, ih, ih]
  | @blank c s t hc _ ih =>
    have hletter : c.isAlphanum = true := isAlphanum_of_capital (.inl hc)
    rw [pascalLetters_other (by decide), ih, pascalLetters_letter hletter,
      pascalLetters_letter hletter, toUpper_of_capital (.inl hc), ite_self, ite_self]

/-- **What is cut at the boundaries of camel case is put together again.** -/
theorem pascalWith_eq (strip : List Char → List Char) (name : List Char) :
    pascalWith strip name = pascalOf (strip name) := by
  have hletters : (alphanumericRuns [] (splitAcronyms (splitCapitals (strip name)))).flatMap
      Text.capitalize = (words (strip name)).flatMap withCapital := by
    rw [flatMap_capitalize_runs (List.forall_mem_nil _), flatMap_withCapital_words]
    show pascalLetters false _ = _
    rw [(capitalsApart_splitAcronyms _).pascalLetters_eq,
      (capitalsApart_splitCapitals _).pascalLetters_eq]
  rw [pascalWith, hletters, legalTypeName_eq, pascalOf]

/-! ## the result -/

/-- a letter or an underscore, then letters, digits and underscores -/
def IsAsciiIdentifier (s : List Char) : Prop :=
  ∃ c rest, s = c :: rest ∧ (c.isAlpha = true ∨ c = '_') ∧
    ∀ d ∈ rest, d.isAlphanum = true ∨ d = '_'

/-- a removal of accents that leaves ASCII letters, digits and underscores as they are -/
def KeepsWords (strip : List Char → List Char) : Prop :=
  ∀ s, (∀ c ∈ s, c.isAlphanum = true ∨ c = '_') → strip s = s

theorem keepsWords_stripAccents : KeepsWords Text.stripAccents := by
  intro s hs
  induction s with
  | nil => rfl
  | cons c s ih =>
    obtain ⟨hc, hs⟩ := List.forall_mem_cons.mp hs
    have hascii : c.toNat < 128 := by
      rcases hc with hc | rfl
      · exact toNat_of_isAlphanum hc
      · decide
    rw [Text.stripAccents] at ih ⊢
    rw [List.flatMap_cons, Text.baseLetters_ascii hascii, ih hs, List.singleton_append]

theorem pascalLetters_inside {s : List Char} (h : ∀ c ∈ s, c.isAlphanum = true) :
    pascalLetters true s = s := by
  induction s with
  | nil => rfl
  | cons c s ih =>
    obtain ⟨hc, hs⟩ := List.forall_mem_cons.mp h
    rw [pascalLetters_letter hc, if_pos rfl, ih hs]

/-- the letters of a text in one pass: none, or a capital or digit and then letters and digits -/
theorem pascalLetters_cases (s : List Char) : pascalLetters false s = [] ∨
    ∃ c rest, pascalLetters false s = c :: rest ∧ (c.isUpper = true ∨ c.isDigit = true) ∧
      ∀ d ∈ rest, d.isAlphanum = true := by
  have hruns := flatMap_capitalize_runs (List.forall_mem_nil _) s
  rw [List.reverse_nil, Text.capitalize, List.nil_append] at hruns
  rw [show false = !([] : List Char).isEmpty from rfl, ← hruns]
  exact flatMap_capitalize (alphanumericRuns_isRun (List.forall_mem_nil _))

theorem pascalOf_eq (s : List Char) : pascalOf s = legalTypeName (pascalLetters false s) := by
  rw [legalTypeName_eq, ← flatMap_withCapital_words, pascalOf]

/-- the words of a text put together are one word, which stays as it is -/
theorem pascalOf_pascalOf (s : List Char) : pascalOf (pascalOf s) = pascalOf s := by
  rw [pascalOf_eq s]
  rcases pascalLetters_cases s with hnone | ⟨c, rest, hsome, hc, hrest⟩
  · rw [hnone]
    decide +kernel
  · -- an underscore in front is no letter, so the pass begins behind it
    have hsame : pascalLetters false (legalTypeName (c :: rest)) = c :: rest := by
      have hletter := isAlphanum_of_capital hc
      have hword : pascalLetters false (c :: rest) = c :: rest := by
        rw [pascalLetters_letter hletter, pascalLetters_inside hrest, toUpper_of_capital hc,
          ite_self]
      unfold legalTypeName
      dsimp only
      split
      · rw [pascalLetters_other (by decide), hword]
      · exact hword
    rw [hsome, pascalOf_eq, hsame]

theorem isAsciiIdentifier_pascalOf (s : List Char) : IsAsciiIdentifier (pascalOf s) := by
  rw [pascalOf_eq]
  rcases pascalLetters_cases s with hnone | ⟨c, rest, hsome, hc, hrest⟩
  · rw [hnone]
    exact ⟨'U', "nnamed".toList, rfl, .inl (by decide), fun d hd =>
      .inl (List.all_eq_true.mp (by decide) d hd)⟩
  · rw [hsome]
    unfold legalTypeName
    dsimp only
    split
    · refine ⟨'_', c :: rest, rfl, .inr rfl, fun d hd => .inl ?_⟩
      rcases List.mem_cons.mp hd with rfl | hd
      · exact isAlphanum_of_capital hc
      · exact hrest d hd
    · rename_i hdigit
      have hupper := hc.resolve_right hdigit
      refine ⟨c, rest, rfl, .inl ?_, fun d hd => .inl (hrest d hd)⟩
      show (c.isUpper || c.isLower) = true
      rw [hupper, Bool.true_or]

theorem IsAsciiIdentifier.word {s : List Char} (h : IsAsciiIdentifier s) :
    ∀ c ∈ s, c.isAlphanum = true ∨ c = '_' := by
  obtain ⟨c, rest, rfl, hc, hrest⟩ := h
  refine List.forall_mem_cons.mpr ⟨hc.imp_left fun halpha => ?_, hrest⟩
  rw [Char.isAlphanum, halpha, Bool.true_or]

theorem pascalWith_pascalWith {strip : List Char → List Char} (hstrip : KeepsWords strip)
    (name : List Char) : pascalWith strip (pascalWith strip name) = pascalWith strip name := by
  have hkept : strip (pascalOf (strip name)) = pascalOf (strip name) :=
    hstrip _ (isAsciiIdentifier_pascalOf _).word
  rw [pascalWith_eq strip name, pascalWith_eq, hkept, pascalOf_pascalOf]

/-- **Pascal case is made of the words of a name without accents, whichever way accents are
removed.**  The result is an identifier of ASCII characters, and it is in Pascal case itself if the
removal of accents leaves ASCII letters, digits and underscores as they are.  The removal that
`pascal` uses does so. -/
theorem pascal_eq_pascalOf {strip : List Char → List Char} (hstrip : KeepsWords strip) :
    (∀ name, pascalWith strip name = pascalOf (strip name) ∧
        IsAsciiIdentifier (pascalWith strip name) ∧
        pascalWith strip (pascalWith strip name) = pascalWith strip name) ∧
      KeepsWords Text.stripAccents ∧
      ∀ name : String,
        pascal name = String.ofList (pascalOf (Text.stripAccents name.toList)) ∧
          IsAsciiIdentifier (pascal name).toList ∧ pascal (pascal name) = pascal name := by
  refine ⟨fun name => ⟨pascalWith_eq strip name, ?_, pascalWith_pascalWith hstrip name⟩,
    keepsWords_stripAccents, fun name => ⟨?_, ?_, ?_⟩⟩
  · rw [pascalWith_eq]
    exact isAsciiIdentifier_pascalOf _
  · rw [pascal, pascalChars_eq, pascalWith_eq]
  · rw [pascal, String.toList_ofList, pascalChars_eq, pascalWith_eq]
    exact isAsciiIdentifier_pascalOf _
  · rw [pascal, pascal, String.toList_ofList, pascalChars_eq, pascalChars_eq,
      pascalWith_pascalWith keepsWords_stripAccents]

def dropAcute (s : List Char) : List Char := s.map fun c => if c = 'é' then 'e' else c

theorem keepsWords_dropAcute : KeepsWords dropAcute := by
  intro s hs
  have hsame : ∀ c ∈ s, (if c = 'é' then 'e' else c) = c := by
    intro c hc
    refine if_neg ?_
    rintro rfl
    exact absurd (hs _ hc) (by decide)
  rw [dropAcute, List.map_congr_left hsame, List.map_id']

/-- an accent, an acronym, a digit in front of a word and one in front of it all -/
theorem pascal_eq_pascalOf_menu : KeepsWords dropAcute ∧
    pascalWith dropAcute "2 cafés-HTTPMenu2Go".toList = "_2CafesHTTPMenu2Go".toList ∧
    pascalWith dropAcute "_2CafesHTTPMenu2Go".toList = "_2CafesHTTPMenu2Go".toList := by
  obtain ⟨hname, _⟩ := pascal_eq_pascalOf keepsWords_dropAcute
  obtain ⟨hwords, _, hagain⟩ := hname "2 cafés-HTTPMenu2Go".toList
  have hmenu : pascalOf (dropAcute "2 cafés-HTTPMenu2Go".toList) =
      "_2CafesHTTPMenu2Go".toList := by
    decide +kernel
  rw [hwords, hmenu] at hagain
  exact ⟨keepsWords_dropAcute, hwords.trans hmenu, hagain⟩

end ApiBindings.TypeScript
