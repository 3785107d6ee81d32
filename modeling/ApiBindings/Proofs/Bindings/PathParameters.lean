import ApiBindings.Proofs.Bindings.Parts
import ApiBindings.Proofs.Bindings.Placeholders
import ApiBindings.Source.Path

/-!
# Path parameters and the placeholders of the route

The path parameters of a binding are looked up for the placeholders of the path, but the route may
have lost its last segment.  The two agree if and only if the name of the lost placeholder stands
nowhere else in the path.

* `placeholders_eq_filter`               the placeholders that are looked up, taken from the route;
* `pathParameters_eq_placeholders_iff`   when they are all the placeholders of the route.
-/

namespace ApiBindings

/-! ## names of parameters -/

theorem name_of_bindingParameter {p : Parameter} {x : BindingParameter}
    (h : bindingParameter p = .ok x) : x.name = p.name := by
  obtain ⟨type, _, rfl⟩ := map_eq_ok.mp h
  rfl

theorem SortedParameters.name_of_findPath? {sorted : SortedParameters} {name : String}
    {p : Parameter} (h : sorted.findPath? name = some p) : p.name = name := by
  have h := List.find?_some h
  exact beq_iff_eq.mp h

def FirstPath (declared : List Parameter) (name : String) (p : Parameter) : Prop :=
  ∃ before after, declared = before ++ p :: after ∧ p.location = "path" ∧ p.name = name ∧
    ∀ q ∈ before, q.location = "path" → q.name ≠ name

theorem SortedParameters.findPath?_ofList (declared : List Parameter) (name : String) :
    (ofList declared).findPath? name =
      declared.find? fun p => p.location == "path" && p.name == name := by
  show (declared.filter fun p => p.location == "path").find? (fun p => p.name == name) = _
  rw [List.find?_filter]
  simp only [Bool.decide_and, Bool.decide_eq_true]

theorem SortedParameters.findPath?_eq_some {declared : List Parameter} {name : String}
    {p : Parameter} : (ofList declared).findPath? name = some p ↔ FirstPath declared name p := by
  rw [findPath?_ofList, List.find?_eq_some_iff_append, FirstPath]
  simp only [Bool.and_eq_true, beq_iff_eq, Bool.not_eq_true', Bool.and_eq_false_imp,
    beq_eq_false_iff_ne]
  constructor
  · rintro ⟨⟨hlocation, hname⟩, before, after, hdeclared, hbefore⟩
    exact ⟨before, after, hdeclared, hlocation, hname, hbefore⟩
  · rintro ⟨before, after, hdeclared, hlocation, hname, hbefore⟩
    exact ⟨⟨hlocation, hname⟩, before, after, hdeclared, hbefore⟩

theorem SortedParameters.findPath?_eq_none {declared : List Parameter} {name : String} :
    (ofList declared).findPath? name = none ↔
      ∀ q ∈ declared, q.location = "path" → q.name ≠ name := by
  rw [findPath?_ofList, List.find?_eq_none]
  simp only [Bool.and_eq_true, beq_iff_eq, not_and]

theorem names_of_placeholderParameters {e : Endpoint} {id : String} {sorted : SortedParameters}
    {names : List String} {ps : List BindingParameter}
    (h : placeholderParameters e id sorted names = .ok ps) :
    ps.map BindingParameter.name = names := by
  induction names generalizing ps with
  | nil =>
    cases h
    rfl
  | cons name names ih =>
    unfold placeholderParameters at h
    split at h
    · cases h
    · rename_i p hp
      obtain ⟨first, hfirst, h⟩ := bind_eq_ok.mp h
      obtain ⟨others, hothers, h⟩ := bind_eq_ok.mp h
      cases h
      rw [List.map_cons, ih hothers, name_of_bindingParameter hfirst,
        SortedParameters.name_of_findPath? hp]

theorem name_of_trailingParameter {sorted : SortedParameters} {name : Option String}
    {trailing : Option BindingParameter} (h : trailingParameter sorted name = .ok trailing) :
    trailing.map BindingParameter.name = name := by
  unfold trailingParameter at h
  split at h
  · cases h
    rfl
  · split at h
    · cases h
      rfl
    · rename_i p hp
      obtain ⟨x, hx, rfl⟩ := map_eq_ok.mp h
      rw [Option.map_some, name_of_bindingParameter hx, SortedParameters.name_of_findPath? hp]

/-! ## placeholders -/

namespace Endpoint

/-- the route is the whole template, or ends before the last placeholder of the path -/
theorem placeholders_split (e : Endpoint) :
    (e.split.2 = none ∧ Route.placeholders e.split.1 = Route.placeholders e.path) ∨
      ∃ name, e.split.2 = some name ∧
        Route.placeholders e.path = Route.placeholders e.split.1 ++ [name] := by
  have hwhole := Route.placeholders_template e.path
  unfold split
  split
  · dsimp only
    split
    · rename_i before name htrailing
      exact .inr ⟨String.ofList name, rfl, Route.placeholders_of_trailing htrailing⟩
    · exact .inl ⟨rfl, hwhole⟩
  · exact .inl ⟨rfl, hwhole⟩

/-- the placeholders that are looked up are those of the route but for the name that was cut off -/
theorem placeholders_eq_filter (e : Endpoint) : e.placeholders =
    ((Route.placeholders e.split.1).filter fun name => e.split.2 != some name).eraseDups := by
  unfold placeholders
  rcases e.placeholders_split with ⟨_, hroute⟩ | ⟨name, hname, hpath⟩
  · rw [hroute]
  · have hlast : (e.split.2 != some name) = false := by
      rw [hname, bne_self_eq_false]
    rw [hpath, List.filter_append, List.filter_cons_of_neg (by rw [hlast]; decide),
      List.filter_nil, List.append_nil]

end Endpoint

/-! ## bindings -/

theorem eraseDups_filter_ne_iff {names : List String} {name : String} :
    (names.filter fun other => some name != some other).eraseDups = names.eraseDups ↔
      name ∉ names := by
  constructor
  · intro h hmem
    have hkept := List.mem_eraseDups.mpr hmem
    rw [← h, List.mem_eraseDups, List.mem_filter, bne_self_eq_false] at hkept
    exact Bool.false_ne_true hkept.2
  · intro h
    have hall : names.filter (fun other => some name != some other) = names := by
      rw [List.filter_eq_self]
      intro other hother
      rw [bne_iff_ne]
      intro heq
      cases heq
      exact h hother
    rw [hall]

variable {d : Description} {e : Endpoint} {seen : List String} {b : Binding}

/-- **The path parameters of a binding are the placeholders of its route, each once, but for the
name of the segment that was cut off.** -/
theorem names_of_pathParameters (h : d.bind e seen = .ok b) :
    b.pathParameters.map BindingParameter.name =
      ((Route.placeholders b.route).filter fun name =>
        b.trailing.map BindingParameter.name != some name).eraseDups := by
  obtain ⟨sorted, hbuilt⟩ := Description.bind_eq_ok_iff_parts.mp h
  rw [names_of_placeholderParameters hbuilt.path, name_of_trailingParameter hbuilt.trailing,
    hbuilt.route, e.placeholders_eq_filter]

theorem mem_pathParameters_iff (h : d.bind e seen = .ok b) {name : String} :
    name ∈ b.pathParameters.map BindingParameter.name ↔
      name ∈ Route.placeholders b.route ∧ ∀ t ∈ b.trailing, t.name ≠ name := by
  rw [names_of_pathParameters h, List.mem_eraseDups, List.mem_filter, bne_iff_ne, Ne,
    Option.map_eq_some_iff, not_exists]
  simp only [not_and, Option.mem_def]

/-- a placeholder that no path parameter is bound for has the name of the segment cut off -/
theorem bindingEntry_mem_entriesOf (h : d.bind e seen = .ok b) {name : String}
    (hname : name ∈ Route.placeholders b.route)
    (htrailing : ∀ t ∈ b.trailing, t.name ≠ name) :
    TypeScript.bindingEntry name ∈ Source.entriesOf b.parameters := by
  obtain ⟨p, hp, rfl⟩ := List.mem_map.mp ((mem_pathParameters_iff h).mpr ⟨hname, htrailing⟩)
  exact List.mem_map.mpr ⟨p, List.mem_append_left _ hp, rfl⟩

/-- **The path parameters of a binding are the placeholders of its route if and only if the name of
the segment cut off does not stand in the route; a placeholder that is left without a variable has
that name.** -/
theorem pathParameters_eq_placeholders_iff (h : d.bind e seen = .ok b) :
    (b.pathParameters.map BindingParameter.name = (Route.placeholders b.route).eraseDups ↔
        ∀ t ∈ b.trailing, t.name ∉ Route.placeholders b.route) ∧
      b.pathParameters.map BindingParameter.name =
        ((Route.placeholders b.route).filter fun name =>
          b.trailing.map BindingParameter.name != some name).eraseDups ∧
      ∀ name ∈ Route.placeholders b.route, (∀ t ∈ b.trailing, t.name ≠ name) →
        TypeScript.bindingEntry name ∈ Source.entriesOf b.parameters := by
  refine ⟨?_, names_of_pathParameters h, fun name => bindingEntry_mem_entriesOf h⟩
  rw [names_of_pathParameters h]
  cases b.trailing with
  | none =>
    have hall : (Route.placeholders b.route).filter (fun name => none != some name) =
        Route.placeholders b.route := by
      rw [List.filter_eq_self]
      intro name _
      rfl
    rw [Option.map_none, hall]
    constructor
    · intro _ t ht
      cases ht
    · intro _
      rfl
  | some t =>
    rw [Option.map_some, eraseDups_filter_ne_iff]
    constructor
    · intro hnot t' ht'
      cases ht'
      exact hnot
    · intro hall
      exact hall t rfl

def bareDescription : Description := ⟨"3.0.0", .absent, .absent, none, .absent, []⟩

/-- a deletion whose path has the placeholder of its last segment elsewhere too -/
def repeatedPlaceholder : Endpoint where
  path := "/a/{id}/b/{id}"
  method := .delete
  operation :=
    { operationId := .value "removeIt"
      summary := .absent
      description := .absent
      parameters := .value [.inline ⟨"id", "path", .absent, .value true, .absent, []⟩]
      requestBody := .absent
      responses := some []
      extras := [] }
  shared := .absent

theorem pathParameters_repeatedPlaceholder :
    ∃ b, bareDescription.bind repeatedPlaceholder [] = .ok b ∧
    b.pathParameters = [] ∧ Route.placeholders b.route = ["id"] ∧
    (b.pathParameters.map BindingParameter.name = (Route.placeholders b.route).eraseDups ↔
        ∀ t ∈ b.trailing, t.name ∉ Route.placeholders b.route) ∧
      b.pathParameters.map BindingParameter.name =
        ((Route.placeholders b.route).filter fun name =>
          b.trailing.map BindingParameter.name != some name).eraseDups ∧
      ∀ name ∈ Route.placeholders b.route, (∀ t ∈ b.trailing, t.name ≠ name) →
        TypeScript.bindingEntry name ∈ Source.entriesOf b.parameters := by
  have h : bareDescription.bind repeatedPlaceholder [] = .ok
      { operationId := "removeIt", name := "RemoveIt", method := "delete", route := "/a/${id}/b",
        pathParameters := [], queryParameters := [], responseType := "void",
        errorType := "unknown", bodyType := some "any", summary := none, description := none,
        trailing := some ⟨"id", "any", true, none⟩, responseDeclaration := none,
        polling := false } :=
    toOption_eq_some.mp (by decide +kernel)
  exact ⟨_, h, rfl, by decide +kernel, pathParameters_eq_placeholders_iff h⟩

end ApiBindings
