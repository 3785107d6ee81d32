import ApiBindings.Proofs.Bindings.Interpolations
import ApiBindings.Proofs.Bindings.Variables

/-!
# The variables of placeholders

A placeholder can be called by any word of any script.  Its variable is an identifier of ASCII
characters all the same, since what is kept of a name was tested and what is changed is made of
letters and digits.  Replacing a placeholder by its variable once more changes nothing.

* `placeholders_ofPlaceholders`   a path with given placeholders;
* `exists_mem_placeholders_iff`   the names that placeholders can have;
* `bindingName_eq_self_iff`       the names that are variables for themselves;
* `variable_of_placeholder`       the variable of a placeholder, whatever its name.
-/

namespace ApiBindings

open TypeScript

/-! ## names of placeholders -/

/-- a path of placeholders alone, one a segment -/
def Route.ofPlaceholders (names : List String) : String :=
  String.ofList (names.flatMap fun name => '/' :: '{' :: (name.toList ++ ['}']))

/-- **Every list of words is the list of placeholders of a path.** -/
theorem Route.placeholders_ofPlaceholders {names : List String}
    (h : ∀ name ∈ names, name ≠ "" ∧ ∀ c ∈ name.toList, Text.isWordChar c = true) :
    Route.placeholders (Route.ofPlaceholders names) = names := by
  rw [Route.placeholders, Route.ofPlaceholders, String.toList_ofList]
  induction names with
  | nil => rfl
  | cons name names ih =>
    obtain ⟨hne, hword⟩ := h name List.mem_cons_self
    have hrest := ih fun other hother => h other (List.mem_cons_of_mem _ hother)
    rw [List.flatMap_cons, List.cons_append, List.cons_append, List.append_assoc,
      List.singleton_append, Route.placeholdersFrom, if_neg (by decide),
      Route.placeholdersFrom_braces (mt String.toList_eq_nil_iff.mp hne) hword, List.map_cons,
      String.ofList_toList, hrest]

/-- **A text is the name of a placeholder if and only if it is a word.** -/
theorem Route.exists_mem_placeholders_iff {name : String} :
    (∃ path, name ∈ Route.placeholders path) ↔
      name ≠ "" ∧ ∀ c ∈ name.toList, Text.isWordChar c = true := by
  constructor
  · rintro ⟨path, h⟩
    refine ⟨?_, Route.isWordChar_of_mem_placeholders h⟩
    obtain ⟨_, _, hencloses⟩ := Route.mem_placeholders_iff.mp h
    rintro rfl
    exact hencloses.1 rfl
  · intro h
    refine ⟨Route.ofPlaceholders [name], ?_⟩
    have hwords : ∀ other ∈ [name], other ≠ "" ∧
        ∀ c ∈ other.toList, Text.isWordChar c = true := by
      intro other hother
      rw [List.mem_singleton.mp hother]
      exact h
    rw [Route.placeholders_ofPlaceholders hwords]
    exact List.mem_singleton_self name

/-! ## variables -/

namespace TypeScript

/-- a name is a variable for itself if it is an identifier that is not reserved -/
theorem bindingName_eq_self_iff {name : String} :
    bindingName name = name ↔ isIdentifier name = true ∧ name ∉ reservedWords := by
  constructor
  · intro h
    have hcases := bindingName_cases name
    rw [h] at hcases
    exact hcases
  · rintro ⟨hidentifier, hfree⟩
    rw [bindingName_eq, localName, if_pos hidentifier, if_neg hfree]

theorem toNat_of_continuesIdentifier {c : Char} (h : continuesIdentifier c = true) :
    c.toNat < 128 := by
  simp only [continuesIdentifier, Bool.or_eq_true, beq_iff_eq] at h
  rcases h with (h | rfl) | rfl
  · exact toNat_of_isAlphanum h
  · decide
  · decide

theorem IsVariable.isAscii {text : String} (h : IsVariable text) :
    ∀ c ∈ text.toList, c.toNat < 128 := by
  obtain ⟨c, w, htext, hc, hw⟩ := h
  rw [htext]
  intro d hd
  rcases List.mem_cons.mp hd with rfl | hd
  · exact toNat_of_continuesIdentifier (continuesIdentifier_of_startsIdentifier hc)
  · exact toNat_of_continuesIdentifier (hw d hd)

end TypeScript

/-- **Every placeholder has a variable of ASCII letters, digits, underscores and dollar signs that
does not begin with a digit, is not reserved, and is a variable for itself.** -/
theorem variable_of_placeholder {path name : String} (h : name ∈ Route.placeholders path) :
    IsVariable (bindingName name) ∧ (∀ c ∈ (bindingName name).toList, c.toNat < 128) ∧
      bindingName name ∉ reservedWords ∧ bindingName name ≠ "props" ∧
      bindingName (bindingName name) = bindingName name := by
  have hline : name.toList.getLast? ≠ some '\n' := by
    intro hlast
    have hword := Route.isWordChar_of_mem_placeholders h _ (List.mem_of_getLast? hlast)
    exact absurd hword (by decide)
  have hvariable := isVariable_bindingName hline
  have hcases := bindingName_cases name
  refine ⟨hvariable, hvariable.isAscii, hcases.2, ?_, bindingName_eq_self_iff.mpr hcases⟩
  intro hprops
  exact hcases.2 (hprops ▸ by decide)

/-- the name of the rest variable, a word of the language, a number in front of a word, a name that
needs no change, one that looks like a changed one, accents inside a name, and a numeral of which
only digits are left -/
def oddPlaceholders : List String :=
  ["props", "class", "2nd_Class", "_x", "class_", "idÉlève", "¾"]

theorem isWordChar_of_oddPlaceholder : ∀ name ∈ oddPlaceholders,
    name ≠ "" ∧ ∀ c ∈ name.toList, Text.isWordChar c = true := by
  have hwords : (oddPlaceholders.all fun name => name.toList.all Text.isWordChar) = true := by
    -- decoding the text of a table is slow, so it becomes a list of characters before it is read
    unfold Text.isWordChar
    rw [Text.wordRanges, Text.latinWordRanges, Text.CharRanges.ofText, Text.tableWords,
      String.toList_ofList]
    decide +kernel
  intro name hname
  refine ⟨?_, List.all_eq_true.mp (List.all_eq_true.mp hwords name hname)⟩
  rintro rfl
  exact absurd hname (by decide)

theorem bindingName_oddPlaceholders : oddPlaceholders.map bindingName =
    ["props_", "class_", "_2ndClass", "_x", "class_", "idEleve", "_34"] := by
  unfold bindingName camel camelChars pascalChars Text.stripAccents Text.baseLetters
  rw [Text.accentTable, Text.latinAccents, Text.CharTable.ofText, Text.tableWords,
    String.toList_ofList]
  decide +kernel

theorem variable_of_oddPlaceholder :
    Route.placeholders (Route.ofPlaceholders oddPlaceholders) = oddPlaceholders ∧
    oddPlaceholders.map bindingName =
      ["props_", "class_", "_2ndClass", "_x", "class_", "idEleve", "_34"] ∧
    ∀ name ∈ oddPlaceholders, IsVariable (bindingName name) ∧
      bindingName name ∉ reservedWords ∧ bindingName (bindingName name) = bindingName name := by
  have hpath := Route.placeholders_ofPlaceholders isWordChar_of_oddPlaceholder
  refine ⟨hpath, bindingName_oddPlaceholders, fun name hname => ?_⟩
  have hplaceholder : name ∈ Route.placeholders (Route.ofPlaceholders oddPlaceholders) := by
    rw [hpath]
    exact hname
  obtain ⟨hvariable, _, hfree, _, hself⟩ := variable_of_placeholder hplaceholder
  exact ⟨hvariable, hfree, hself⟩

end ApiBindings
