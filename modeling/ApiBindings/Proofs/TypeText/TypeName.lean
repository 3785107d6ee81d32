import ApiBindings.Proofs.TypeText.Tree
import ApiBindings.Synthesis.Reference

/-!
# Names of types

What Pascal case makes of a name, whatever the name is: an identifier that begins with a capital or
an underscore.  So it is never one of the words that are types of their own.

* `isTypeName_pascal`       a name in Pascal case is the name of a type;
* `isTypeName_reference`    so is what a pointer becomes;
* `IsTypeName.ofWord_eq`    and it is read as that name.
-/

namespace ApiBindings.TypeScript

/-- a capital or an underscore, then only characters of identifiers -/
def IsTypeName (text : List Char) : Prop :=
  ∃ c w, text = c :: w ∧ (c.isUpper = true ∨ c = '_') ∧ ∀ d ∈ w, continuesIdentifier d = true

/-! ## Pascal case -/

theorem toNat_of_isAlphanum {c : Char} (h : c.isAlphanum = true) : c.toNat < 128 := by
  have hranges : ((decide (c.val ≥ 'A'.val ∧ c.val ≤ 'Z'.val) ||
      (decide (c.val ≥ 'a'.val) && decide (c.val ≤ 'z'.val))) ||
      (decide (c.val ≥ '0'.val) && decide (c.val ≤ '9'.val))) = true := h
  simp only [Bool.or_eq_true, Bool.and_eq_true, decide_eq_true_eq, ge_iff_le,
    UInt32.le_iff_toNat_le] at hranges
  show c.val.toNat < 128
  rcases hranges with (⟨_, h⟩ | ⟨_, h⟩) | ⟨_, h⟩
  · exact Nat.lt_of_le_of_lt h (by decide)
  · exact Nat.lt_of_le_of_lt h (by decide)
  · exact Nat.lt_of_le_of_lt h (by decide)

theorem toUpper_alphanumeric : ∀ n, n < 128 → (Char.ofNat n).isAlphanum = true →
    (Char.ofNat n).toUpper.isUpper = true ∨ (Char.ofNat n).toUpper.isDigit = true := by
  decide

/-- the first letter of a run becomes a capital, a digit stays one -/
theorem capitalize_run {c : Char} (hc : c.isAlphanum = true) (run : List Char) :
    ∃ d, Text.capitalize (c :: run) = d :: run ∧ (d.isUpper = true ∨ d.isDigit = true) := by
  have hascii : c.toNat < 128 := toNat_of_isAlphanum hc
  refine ⟨c.toUpper, ?_, ?_⟩
  · rw [Text.capitalize, Text.upperChar_ascii hascii, List.singleton_append]
  · have h := toUpper_alphanumeric c.toNat hascii
    rw [Char.ofNat_toNat] at h
    exact h hc

def IsRun (run : List Char) : Prop := run ≠ [] ∧ ∀ c ∈ run, c.isAlphanum = true

theorem isRun_reverse {run : List Char} (hrun : ∀ c ∈ run, c.isAlphanum = true)
    (hne : ¬ run.isEmpty = true) : IsRun run.reverse := by
  refine ⟨?_, fun c hc => hrun c (List.mem_reverse.mp hc)⟩
  rw [Ne, List.reverse_eq_nil_iff, ← List.isEmpty_iff]
  exact hne

theorem alphanumericRuns_isRun {s run : List Char} (hrun : ∀ c ∈ run, c.isAlphanum = true) :
    ∀ word ∈ alphanumericRuns run s, IsRun word := by
  have hnil : ∀ d ∈ ([] : List Char), d.isAlphanum = true := by
    intro d hd
    cases hd
  induction s generalizing run with
  | nil =>
    intro word hword
    unfold alphanumericRuns at hword
    split at hword
    · cases hword
    · rename_i hne
      rw [List.mem_singleton.mp hword]
      exact isRun_reverse hrun hne
  | cons c s ih =>
    intro word hword
    unfold alphanumericRuns at hword
    split at hword
    · rename_i hc
      refine ih ?_ word hword
      intro d hd
      rcases List.mem_cons.mp hd with rfl | hd
      · exact hc
      · exact hrun d hd
    · split at hword
      · exact ih hnil word hword
      · rename_i hne
        rcases List.mem_cons.mp hword with rfl | hword
        · exact isRun_reverse hrun hne
        · exact ih hnil word hword

theorem isAlphanum_of_capital {d : Char} (h : d.isUpper = true ∨ d.isDigit = true) :
    d.isAlphanum = true := by
  show ((d.isUpper || d.isLower) || d.isDigit) = true
  rcases h with h | h
  · rw [h]
    rfl
  · rw [h, Bool.or_true]

/-- capitalized runs one behind another: letters and digits, and no small letter first -/
theorem flatMap_capitalize {words : List (List Char)} (h : ∀ word ∈ words, IsRun word) :
    words.flatMap Text.capitalize = [] ∨
      ∃ c w, words.flatMap Text.capitalize = c :: w ∧ (c.isUpper = true ∨ c.isDigit = true) ∧
        ∀ d ∈ w, d.isAlphanum = true := by
  induction words with
  | nil => exact .inl rfl
  | cons word words ih =>
    obtain ⟨hne, hword⟩ := h word List.mem_cons_self
    obtain ⟨c, run, rfl⟩ := List.exists_cons_of_ne_nil hne
    obtain ⟨d, hd, hcapital⟩ := capitalize_run (hword c List.mem_cons_self) run
    right
    refine ⟨d, run ++ words.flatMap Text.capitalize, ?_, hcapital, ?_⟩
    · rw [List.flatMap_cons, hd, List.cons_append]
    · intro x hx
      rcases List.mem_append.mp hx with hx | hx
      · exact hword x (List.mem_cons_of_mem _ hx)
      · rcases ih fun w hw => h w (List.mem_cons_of_mem _ hw) with he | ⟨e, w, he, hcap, hw⟩
        · rw [he] at hx
          cases hx
        · rw [he] at hx
          rcases List.mem_cons.mp hx with rfl | hx
          · exact isAlphanum_of_capital hcap
          · exact hw x hx

theorem continuesIdentifier_of_isAlphanum {c : Char} (h : c.isAlphanum = true) :
    continuesIdentifier c = true := by
  rw [continuesIdentifier, h]
  rfl

/-- Pascal case gives a capital or an underscore, then letters and digits. -/
theorem pascalChars_cases (name : List Char) : ∃ c w, pascalChars name = c :: w ∧
    (c.isUpper = true ∨ c = '_') ∧ ∀ d ∈ w, d.isAlphanum = true := by
  rw [pascalChars]
  have hnil : ∀ c ∈ ([] : List Char), c.isAlphanum = true := by
    intro c hc
    cases hc
  rcases flatMap_capitalize (alphanumericRuns_isRun
    (s := splitAcronyms (splitCapitals (Text.stripAccents name))) hnil) with
    h | ⟨c, w, h, hc, hw⟩
  · rw [h]
    exact ⟨'U', "nnamed".toList, rfl, .inl rfl, List.all_eq_true.mp (by decide)⟩
  · rw [h]
    show ∃ d v, legalTypeName (c :: w) = d :: v ∧ _
    unfold legalTypeName
    simp only
    split
    · refine ⟨'_', c :: w, rfl, .inr rfl, ?_⟩
      intro d hd
      rcases List.mem_cons.mp hd with rfl | hd
      · exact isAlphanum_of_capital hc
      · exact hw d hd
    · rename_i hdigit
      exact ⟨c, w, rfl, .inl (hc.resolve_right hdigit), hw⟩

theorem isTypeName_pascal (name : String) : IsTypeName (pascal name).toList := by
  rw [pascal, String.toList_ofList]
  obtain ⟨c, w, h, hc, hw⟩ := pascalChars_cases name.toList
  exact ⟨c, w, h, hc, fun d hd => continuesIdentifier_of_isAlphanum (hw d hd)⟩

theorem IsTypeName.append {text ending : List Char} (h : IsTypeName text)
    (hending : ∀ c ∈ ending, continuesIdentifier c = true) : IsTypeName (text ++ ending) := by
  obtain ⟨c, w, rfl, hc, hw⟩ := h
  refine ⟨c, w ++ ending, rfl, hc, ?_⟩
  intro d hd
  rcases List.mem_append.mp hd with hd | hd
  · exact hw d hd
  · exact hending d hd

/-! ## pointers -/

theorem splitReference?_suffix {target name suffix : String}
    (h : splitReference? target = some (name, suffix)) :
    ∀ c ∈ suffix.toList, continuesIdentifier c = true := by
  obtain ⟨entry, hentry, hsome⟩ := List.exists_of_findSome?_eq_some h
  obtain ⟨_, _, heq⟩ := Option.map_eq_some_iff.mp hsome
  have hsuffix : entry.2 = suffix := congrArg Prod.snd heq
  rw [← hsuffix]
  simp only [referencePrefixes, List.mem_cons, List.not_mem_nil, or_false] at hentry
  rcases hentry with rfl | rfl | rfl | rfl <;> exact List.all_eq_true.mp (by decide)

theorem isTypeName_reference {target text : String} (h : referenceType target = .ok text) :
    IsTypeName text.toList := by
  unfold referenceType at h
  split at h
  · rename_i name suffix hsplit
    cases h
    rw [String.toList_append]
    exact (isTypeName_pascal name).append (splitReference?_suffix hsplit)
  · cases h

/-! ## reading -/

theorem startsIdentifier_of_capital {c : Char} (h : c.isUpper = true ∨ c = '_') :
    startsIdentifier c = true := by
  show ((c.isUpper || c.isLower) || c == '_' || c == '$') = true
  rcases h with h | rfl
  · rw [h]
    rfl
  · rfl

/-- the name of a type is no word that is a type of its own -/
theorem IsTypeName.ofWord_eq {text : List Char} (h : IsTypeName text) :
    TypeExpr.ofWord (String.ofList text) = .named (String.ofList text) := by
  obtain ⟨c, w, rfl, hc, _⟩ := h
  have hnone : Keyword.ofText? (String.ofList (c :: w)) = none := by
    rw [Keyword.ofText?, List.find?_eq_none]
    intro k hk heq
    have htext : k.text.toList = c :: w := by
      rw [beq_iff_eq.mp heq, String.toList_ofList]
    cases k <;>
      · simp only [Keyword.text, String.reduceToList, List.cons.injEq] at htext
        rw [← htext.1] at hc
        exact absurd hc (by decide)
  rw [TypeExpr.ofWord, hnone]

end ApiBindings.TypeScript
