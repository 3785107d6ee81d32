import ApiBindings.Proofs.Source.Template
import ApiBindings.Proofs.TypeScript.Variable
import ApiBindings.Source.Path

/-!
# Renaming the placeholders of a route

The interpolations of a route are renamed one parameter after another, and what one renaming leaves
may be called like the next parameter.  Nothing goes wrong, for a variable is never renamed again:
in every order the result is that of one exchange.

* `foldl_renameIn`        renaming one by one is a substitution;
* `Exchanges`             what it does to a text;
* `Exchanges.unique`      no other map of texts does the same.
-/

namespace ApiBindings.Source

open TypeScript

/-! ## plain names -/

theorem toList_interpolation (name : String) :
    (interpolation name).toList = token name.toList := by
  simp [interpolation, token, braced]

theorem isPlain_of_isAlphanum {c : Char} (h : c.isAlphanum = true ∨ c = '_') :
    isPlain c = true := by
  rw [isPlain, Bool.and_eq_true, bne_iff_ne, bne_iff_ne]
  constructor
  · rintro rfl
    exact absurd h (by decide)
  · rintro rfl
    exact absurd h (by decide)

theorem plain_camel (name : String) : Plain (camel name).toList := by
  obtain ⟨c, w, h, hc, hw⟩ := camelChars_cases name.toList
  rw [camel, String.toList_ofList, h]
  intro d hd
  refine isPlain_of_isAlphanum ?_
  rcases List.mem_cons.mp hd with rfl | hd
  · refine hc.imp_left fun halpha => ?_
    rw [Char.isAlphanum, halpha]
    rfl
  · exact .inl (hw d hd)

theorem plain_bindingName {name : String} (h : Plain name.toList) :
    Plain (bindingName name).toList := by
  have hlocal : Plain (localName name).toList := by
    unfold localName
    split
    · exact h
    · exact plain_camel name
  rw [bindingName_eq]
  split
  · rw [String.toList_append]
    intro c hc
    rcases List.mem_append.mp hc with hc | hc
    · exact hlocal c hc
    · rw [List.mem_singleton.mp hc]
      decide
  · exact hlocal

/-! ## one renaming after another -/

/-- what the placeholder of a name is called once these names have been renamed -/
def variableOf (names : List String) (name : String) : String :=
  if name ∈ names then bindingName name else name

def variableChars (names : List String) (name : List Char) : List Char :=
  (variableOf names (String.ofList name)).toList

theorem variableChars_of_mem {names : List String} {name : String} (h : name ∈ names) :
    variableChars names name.toList = (bindingName name).toList := by
  rw [variableChars, String.ofList_toList, variableOf, if_pos h]

theorem variableChars_of_not_mem {names : List String} {name : List Char}
    (h : String.ofList name ∉ names) : variableChars names name = name := by
  rw [variableChars, variableOf, if_neg h, String.toList_ofList]

theorem substitute_variableChars_nil (s : List Char) : substitute (variableChars []) s = s :=
  substitute_eq_self fun _ _ _ _ _ => variableChars_of_not_mem List.not_mem_nil

theorem plain_variableChars {names : List String} (h : ∀ name ∈ names, Plain name.toList)
    {name : List Char} (hname : Plain name) : Plain (variableChars names name) := by
  by_cases hmem : String.ofList name ∈ names
  · have hplain := plain_bindingName (h _ hmem)
    rw [variableChars, variableOf, if_pos hmem]
    exact hplain
  · rw [variableChars_of_not_mem hmem]
    exact hname

/-- the renaming of one parameter, also of one that keeps its name -/
theorem renameIn_eq {p : BindingParameter} (h : Plain p.name.toList) (route : String) :
    renameIn route p = String.ofList (substitute (variableChars [p.name]) route.toList) := by
  have hone : ∀ name : List Char, variableChars [p.name] name =
      if name = p.name.toList then (bindingName p.name).toList else name := by
    intro name
    by_cases hname : name = p.name.toList
    · rw [if_pos hname, hname, variableChars_of_mem (List.mem_singleton_self _)]
    · have hne : String.ofList name ∉ [p.name] := by
        rw [List.mem_singleton]
        rintro heq
        exact hname (by rw [← heq, String.toList_ofList])
      rw [if_neg hname, variableChars_of_not_mem hne]
  unfold renameIn
  split
  · rename_i hsame
    have hid : substitute (variableChars [p.name]) route.toList = route.toList := by
      refine substitute_eq_self fun name _ _ _ _ => ?_
      rw [hone, hsame]
      split
      · rename_i heq
        exact heq.symm
      · rfl
    rw [hid, String.ofList_toList]
  · rw [Text.replace, toList_interpolation, toList_interpolation, replaceAll_token h,
      funext hone]

/-- the first renaming, and then those of the others: what the first one leaves is not renamed -/
theorem variableChars_comp (name : String) (names : List String) :
    variableChars names ∘ variableChars [name] = variableChars (name :: names) := by
  funext other
  show (variableOf names (String.ofList (variableChars [name] other))).toList = _
  rw [variableChars, String.ofList_toList, variableChars]
  refine congrArg String.toList ?_
  generalize String.ofList other = other
  by_cases hfirst : other = name
  · subst hfirst
    rw [variableOf, variableOf, variableOf, if_pos (List.mem_singleton_self _),
      if_pos List.mem_cons_self, bindingName_bindingName, ite_self]
  · have hone : variableOf [name] other = other := if_neg (by simpa using hfirst)
    rw [hone, variableOf, variableOf]
    simp only [List.mem_cons, hfirst, false_or]

/-- **Renaming one parameter after another is one substitution.** -/
theorem foldl_renameIn {ps : List BindingParameter} (h : ∀ p ∈ ps, Plain p.name.toList)
    (route : String) : ps.foldl renameIn route = String.ofList
      (substitute (variableChars (ps.map BindingParameter.name)) route.toList) := by
  induction ps generalizing route with
  | nil => rw [List.foldl_nil, List.map_nil, substitute_variableChars_nil, String.ofList_toList]
  | cons p ps ih =>
    have hp := h p List.mem_cons_self
    have hone : ∀ name, Plain name → Plain (variableChars [p.name] name) := fun _ hname =>
      plain_variableChars (by simpa using hp) hname
    rw [List.foldl_cons, ih fun q hq => h q (List.mem_cons_of_mem p hq), renameIn_eq hp,
      String.toList_ofList, substitute_substitute hone, variableChars_comp, List.map_cons]

/-! ## what is renamed -/

/-- a map of texts that exchanges the interpolations of these names for those of their variables,
and nothing else -/
structure Exchanges (names : List String) (f : String → String) : Prop where
  exchanged : ∀ name ∈ names, ∀ before after, f (before ++ interpolation name ++ after) =
    f before ++ interpolation (bindingName name) ++ f after
  kept : ∀ text, (∀ name ∈ names, ∀ before after,
    text ≠ before ++ interpolation name ++ after) → f text = text

theorem exchanges_substitute {names : List String} (h : ∀ name ∈ names, Plain name.toList) :
    Exchanges names fun text => String.ofList (substitute (variableChars names) text.toList) := by
  constructor
  · intro name hname before after
    simp only [String.toList_append, toList_interpolation]
    rw [substitute_append_token _ (h name hname), variableChars_of_mem hname,
      ← toList_interpolation, String.ofList_append, String.ofList_append, String.ofList_toList]
  · intro text hnone
    have hsame : substitute (variableChars names) text.toList = text.toList := by
      refine substitute_eq_self fun name _ before after htext => ?_
      refine variableChars_of_not_mem fun hmem => ?_
      refine hnone _ hmem (String.ofList before) (String.ofList after) ?_
      rw [← String.toList_inj, htext]
      simp only [String.toList_append, toList_interpolation, String.toList_ofList]
    show String.ofList (substitute (variableChars names) text.toList) = text
    rw [hsame, String.ofList_toList]

theorem length_interpolation (name : String) : 3 ≤ (interpolation name).length := by
  rw [← String.length_toList, toList_interpolation, length_token]
  omega

/-- **There is one exchange of the interpolations of these names.** -/
theorem Exchanges.unique {names : List String} {f g : String → String} (hf : Exchanges names f)
    (hg : Exchanges names g) (text : String) : f text = g text := by
  by_cases h : ∃ name ∈ names, ∃ before after, text = before ++ interpolation name ++ after
  · obtain ⟨name, hname, before, after, htext⟩ := h
    have hlength : text.length = before.length + (interpolation name).length + after.length := by
      rw [htext, String.length_append, String.length_append]
    have hpositive := length_interpolation name
    have hbefore := unique hf hg before
    have hafter := unique hf hg after
    rw [htext, hf.exchanged name hname, hg.exchanged name hname, hbefore, hafter]
  · have hnone : ∀ name ∈ names, ∀ before after, text ≠ before ++ interpolation name ++ after :=
      fun name hname before after htext => h ⟨name, hname, before, after, htext⟩
    rw [hf.kept text hnone, hg.kept text hnone]
termination_by text.length

end ApiBindings.Source
