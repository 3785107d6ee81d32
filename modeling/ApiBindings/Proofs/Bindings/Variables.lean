import ApiBindings.Proofs.Bindings.ParameterNames
import ApiBindings.Proofs.TypeText.Written
import Mathlib.Data.List.Nodup

/-!
# The variables of a pattern

The pattern of an accessor binds one variable for every placeholder that stays in the route and one
for every query parameter.  Query parameters are taken from the path item and from the operation as
they are listed, so two of them, or one and a placeholder, may want the same variable.

* `freed_eq_iff`               which words become the same variable;
* `StemsApart`                 names whose variables are pairwise distinct;
* `nodup_variables_iff`        that these are all such names;
* `bind_variables_apart_iff`   the variables of a binding, and when they are pairwise distinct.
-/

namespace ApiBindings

namespace TypeScript

/-! ## words that become the same variable -/

def freed (word : String) : String := if word ∈ reservedWords then word ++ "_" else word

theorem bindingName_eq_freed (name : String) : bindingName name = freed (localName name) := rfl

/-- **Two words become the same variable if they are the same, or if one is reserved and the other
is this word with an underscore.** -/
theorem freed_eq_iff {s t : String} : freed s = freed t ↔
    s = t ∨ (s ∈ reservedWords ∧ t = s ++ "_") ∨ (t ∈ reservedWords ∧ s = t ++ "_") := by
  have hfree : ∀ word ∈ reservedWords, word ++ "_" ∉ reservedWords := fun word hword =>
    (reservedWords_underscore word hword).2
  unfold freed
  by_cases hs : s ∈ reservedWords
  · by_cases ht : t ∈ reservedWords
    · rw [if_pos hs, if_pos ht, String.append_left_inj]
      constructor
      · exact .inl
      · rintro (heq | ⟨_, rfl⟩ | ⟨_, rfl⟩)
        · exact heq
        · exact absurd ht (hfree s hs)
        · exact absurd hs (hfree t ht)
    · rw [if_pos hs, if_neg ht]
      constructor
      · exact fun heq => .inr (.inl ⟨hs, heq.symm⟩)
      · rintro (rfl | ⟨_, heq⟩ | ⟨ht', _⟩)
        · exact absurd hs ht
        · exact heq.symm
        · exact absurd ht' ht
  · by_cases ht : t ∈ reservedWords
    · rw [if_neg hs, if_pos ht]
      constructor
      · exact fun heq => .inr (.inr ⟨ht, heq⟩)
      · rintro (rfl | ⟨hs', _⟩ | ⟨_, heq⟩)
        · exact absurd ht hs
        · exact absurd hs' hs
        · exact heq
    · rw [if_neg hs, if_neg ht]
      constructor
      · exact .inl
      · rintro (heq | ⟨hs', _⟩ | ⟨ht', _⟩)
        · exact heq
        · exact absurd hs' hs
        · exact absurd ht' ht

/-- Names whose stems differ, a reserved word not being another one's stem with an underscore.  The
stem of a name is the name itself if it is an identifier, and otherwise the name in camel case. -/
structure StemsApart (names : List String) : Prop where
  nodup : (names.map localName).Nodup
  reserved : ∀ word ∈ reservedWords, word ∈ names.map localName →
    word ++ "_" ∉ names.map localName

theorem nodup_freed_iff {words : List String} : (words.map freed).Nodup ↔
    words.Nodup ∧ ∀ word ∈ reservedWords, word ∈ words → word ++ "_" ∉ words := by
  constructor
  · intro h
    refine ⟨List.Nodup.of_map freed h, ?_⟩
    intro word hreserved hword hother
    have hsame : freed word = freed (word ++ "_") :=
      freed_eq_iff.mpr (.inr (.inl ⟨hreserved, rfl⟩))
    have heq := List.inj_on_of_nodup_map h hword hother hsame
    exact (reservedWords_underscore word hreserved).2 (heq ▸ hreserved)
  · rintro ⟨hnodup, hreserved⟩
    refine List.Nodup.map_on (fun s hs t ht heq => ?_) hnodup
    rcases freed_eq_iff.mp heq with heq | ⟨hword, rfl⟩ | ⟨hword, rfl⟩
    · exact heq
    · exact absurd ht (hreserved s hword hs)
    · exact absurd hs (hreserved t hword ht)

/-- **The variables of some names are pairwise distinct if and only if the stems are apart.** -/
theorem nodup_variables_iff {names : List String} :
    (names.map bindingName).Nodup ↔ StemsApart names := by
  have hmap : names.map bindingName = (names.map localName).map freed := by
    rw [List.map_map]
    rfl
  rw [hmap, nodup_freed_iff]
  exact ⟨fun ⟨hnodup, hreserved⟩ => ⟨hnodup, hreserved⟩, fun h => ⟨h.nodup, h.reserved⟩⟩

def IsVariable (text : String) : Prop := ∃ c w, text.toList = c :: w ∧ startsIdentifier c = true ∧
  ∀ d ∈ w, continuesIdentifier d = true

theorem isVariable_localName {name : String} (h : name.toList.getLast? ≠ some '\n') :
    IsVariable (localName name) := by
  unfold localName
  split
  · rename_i hidentifier
    obtain ⟨c, w, hname, hc, hw⟩ := identifier_cases hidentifier
    rw [dropFinalLineFeed, if_neg h] at hname
    exact ⟨c, w, hname, hc, hw⟩
  · obtain ⟨c, w, hcamel, hc, hw⟩ := camelChars_cases name.toList
    refine ⟨c, w, ?_, ?_, fun d hd => continuesIdentifier_of_isAlphanum (hw d hd)⟩
    · rw [camel, String.toList_ofList, hcamel]
    · rcases hc with hc | rfl
      · rw [startsIdentifier, hc]
        rfl
      · decide

/-- a name without a line feed at its end has a variable that is an identifier and nothing else -/
theorem isVariable_bindingName {name : String} (h : name.toList.getLast? ≠ some '\n') :
    IsVariable (bindingName name) := by
  obtain ⟨c, w, hstem, hc, hw⟩ := isVariable_localName h
  rw [bindingName_eq_freed, freed]
  split
  · refine ⟨c, w ++ ['_'], ?_, hc, ?_⟩
    · rw [String.toList_append, hstem]
      rfl
    · intro d hd
      rcases List.mem_append.mp hd with hd | hd
      · exact hw d hd
      · rw [List.mem_singleton.mp hd]
        decide
  · exact ⟨c, w, hstem, hc, hw⟩

end TypeScript

/-! ## the variables of a binding -/

open TypeScript
open Source

/-- the variables that the pattern of a binding binds, beside the rest -/
def Binding.variables (b : Binding) : List String := b.parameters.map fun p => bindingName p.name

theorem names_of_bindingParameters {ps : List Parameter} {xs : List BindingParameter}
    (h : bindingParameters ps = .ok xs) :
    xs.map BindingParameter.name = ps.map Parameter.name := by
  induction ps generalizing xs with
  | nil =>
    cases h
    rfl
  | cons p ps ih =>
    rw [bindingParameters] at h
    obtain ⟨first, hfirst, h⟩ := bind_eq_ok.mp h
    obtain ⟨others, hothers, h⟩ := bind_eq_ok.mp h
    cases h
    rw [List.map_cons, List.map_cons, ih hothers, name_of_bindingParameter hfirst]

variable {d : Description} {e : Endpoint} {seen : List String} {b : Binding}

/-- the names that variables are bound for: the placeholders that stay in the route, each once, then
all query parameters of the path item and of the operation -/
theorem names_of_parameters (h : d.bind e seen = .ok b) :
    ∃ resolved, d.resolveParameters (e.shared.getD [] ++ e.operation.parameters.getD []) =
        .ok resolved ∧
      b.parameters.map BindingParameter.name =
        ((Route.placeholders b.route).filter fun name =>
            b.trailing.map BindingParameter.name != some name).eraseDups ++
          (resolved.filter fun p => p.location == "query").map Parameter.name := by
  obtain ⟨sorted, hbuilt⟩ := Description.bind_eq_ok_iff_parts.mp h
  obtain ⟨resolved, hresolved, rfl⟩ := map_eq_ok.mp hbuilt.sort
  refine ⟨resolved, hresolved, ?_⟩
  rw [Binding.parameters, List.map_append, names_of_pathParameters h,
    names_of_bindingParameters hbuilt.query]
  rfl

/-- **The pattern of a binding that is built never binds a reserved word nor the name of the rest.
Its variables are pairwise distinct if and only if the stems of the names are apart.**  The names
are taken as they are listed: a parameter of the operation does not replace one of the path item,
and a query parameter does not give way to a placeholder. -/
theorem bind_variables_apart_iff (h : d.bind e seen = .ok b) :
    destructured b =
        "\x7b" ++ Text.join ", " (b.parameters.map BindingParameter.entry ++ ["...props"]) ++
          "\x7d" ∧
      (∃ resolved, d.resolveParameters (e.shared.getD [] ++ e.operation.parameters.getD []) =
          .ok resolved ∧
        b.parameters.map BindingParameter.name =
          ((Route.placeholders b.route).filter fun name =>
              b.trailing.map BindingParameter.name != some name).eraseDups ++
            (resolved.filter fun p => p.location == "query").map Parameter.name) ∧
      "props" ∉ b.variables ∧
      (∀ p ∈ b.parameters, bindingName p.name ∉ reservedWords ∧
        (p.name.toList.getLast? ≠ some '\n' → IsVariable (bindingName p.name))) ∧
      (b.variables.Nodup ↔ StemsApart (b.parameters.map BindingParameter.name)) := by
  refine ⟨(usedAlike_of_bind h).pattern, names_of_parameters h, ?_, ?_, ?_⟩
  · intro hprops
    obtain ⟨p, _, hp⟩ := List.mem_map.mp hprops
    exact (bindingName_cases p.name).2 (hp ▸ by decide)
  · intro p _
    exact ⟨(bindingName_cases p.name).2, isVariable_bindingName⟩
  · rw [← nodup_variables_iff, List.map_map]
    rfl

/-- an operation with a parameter of its path item, none of the names becoming a variable twice -/
def filteredPets : Endpoint where
  path := "/pets/\x7bclass\x7d/toys"
  method := .get
  operation :=
    { operationId := .value "listToys"
      summary := .absent
      description := .absent
      parameters := .value [.inline ⟨"class", "path", .absent, .value true, .absent, []⟩,
        .inline ⟨"props", "query", .absent, .absent, .absent, []⟩]
      requestBody := .absent
      responses := some []
      extras := [] }
  shared := .value [.inline ⟨"x-id", "query", .absent, .absent, .absent, []⟩]

theorem bind_filteredPets_variables_apart :
    ∃ b, bareDescription.bind filteredPets [] = .ok b ∧
      b.variables = ["class_", "xId", "props_"] ∧
      destructured b = "\x7bclass: class_, \"x-id\": xId, props: props_, ...props\x7d" ∧
      "props" ∉ b.variables ∧ b.variables.Nodup := by
  have h : bareDescription.bind filteredPets [] = .ok
      { operationId := "listToys", name := "ListToys", method := "get"
        route := "/pets/$\x7bclass\x7d/toys"
        pathParameters := [⟨"class", "any", true, none⟩]
        queryParameters := [⟨"x-id", "any", false, none⟩, ⟨"props", "any", false, none⟩]
        responseType := "void", errorType := "unknown", bodyType := none, summary := none
        description := none, trailing := none, responseDeclaration := none, polling := false } :=
    toOption_eq_some.mp (by decide +kernel)
  obtain ⟨_, _, hprops, _, hnodup⟩ := bind_variables_apart_iff h
  refine ⟨_, h, by decide +kernel, by decide +kernel, hprops, hnodup.mpr ⟨?_, ?_⟩⟩
  · decide +kernel
  · decide +kernel

/-- an operation that lists a query parameter of its path item once more -/
def repeatedLimit : Endpoint where
  path := "/pets"
  method := .get
  operation :=
    { operationId := .value "listPets"
      summary := .absent
      description := .absent
      parameters := .value [.inline ⟨"limit", "query", .absent, .absent, .absent, []⟩]
      requestBody := .absent
      responses := some []
      extras := [] }
  shared := .value [.inline ⟨"limit", "query", .absent, .absent, .absent, []⟩]

/-- the operation does not replace the parameter of the path item, so that one variable is bound
twice -/
theorem bind_repeatedLimit_variables_clash :
    ∃ b, bareDescription.bind repeatedLimit [] = .ok b ∧
      destructured b = "\x7blimit, limit, ...props\x7d" ∧ ¬ b.variables.Nodup := by
  have h : bareDescription.bind repeatedLimit [] = .ok
      { operationId := "listPets", name := "ListPets", method := "get", route := "/pets"
        pathParameters := []
        queryParameters := [⟨"limit", "any", false, none⟩, ⟨"limit", "any", false, none⟩]
        responseType := "void", errorType := "unknown", bodyType := none, summary := none
        description := none, trailing := none, responseDeclaration := none, polling := false } :=
    toOption_eq_some.mp (by decide +kernel)
  exact ⟨_, h, by decide +kernel, by decide +kernel⟩

end ApiBindings
