import ApiBindings.Binding.Build
import ApiBindings.Proofs.Outcome

/-!
# The parts of a binding

What every step of the building of a binding has contributed to it, and what it depends on.  A
binding that was built is never opened again after `bind_eq_ok_iff_parts`.
-/

namespace ApiBindings

/-- the steps that build a binding from an operation whose resolved parameters are `sorted` -/
structure BuiltFrom (d : Description) (e : Endpoint) (seen : List String)
    (sorted : SortedParameters) (b : Binding) : Prop where
  id : operationId e seen = .ok b.operationId
  sort : d.sortParameters e.shared e.operation.parameters = .ok sorted
  path : placeholderParameters e b.operationId sorted e.placeholders = .ok b.pathParameters
  query : bindingParameters sorted.query = .ok b.queryParameters
  trailing : trailingParameter sorted e.split.2 = .ok b.trailing
  response : payloadUnionOr "void"
    ((e.operation.responses.getD []).filter fun entry => isSuccess entry.1) = .ok b.responseType
  error : payloadUnionOr "unknown"
    ((e.operation.responses.getD []).filter fun entry => !isSuccess entry.1) = .ok b.errorType
  body : requestType e b.trailing = .ok b.bodyType
  name : b.name = TypeScript.pascal b.operationId
  method : b.method = e.method.name
  route : b.route = e.split.1
  summary : b.summary = e.operation.summary.toOption
  description : b.description = e.operation.description.toOption
  declaration : b.responseDeclaration =
    if b.responseType.toList.contains '{' then
      some (TypeScript.declare (b.name ++ "Response") b.responseType true)
    else none
  polling : b.polling = sorted.header.any fun p => p.name.toLower == pollingHeader

/-! ## steps that come to the same -/

theorem Endpoint.split_congr {e e' : Endpoint} (hpath : e'.path = e.path)
    (hmethod : e'.method = e.method) : e'.split = e.split := by
  rw [split, split, hpath, hmethod]

theorem Endpoint.placeholders_congr {e e' : Endpoint} (hpath : e'.path = e.path)
    (hmethod : e'.method = e.method) : e'.placeholders = e.placeholders := by
  rw [placeholders, placeholders, hpath, split_congr hpath hmethod]

/-- of an operation only its place matters for its placeholders, and of the parameters only which
are found -/
theorem placeholderParameters_congr {e e' : Endpoint} {id : String}
    {sorted sorted' : SortedParameters} (hpath : e'.path = e.path) (hmethod : e'.method = e.method)
    {names : List String} (h : ∀ name ∈ names, sorted'.findPath? name = sorted.findPath? name) :
    placeholderParameters e' id sorted' names = placeholderParameters e id sorted names := by
  induction names with
  | nil => rfl
  | cons name rest ih =>
    obtain ⟨hfirst, hrest⟩ := List.forall_mem_cons.mp h
    rw [placeholderParameters, placeholderParameters, hfirst, hmethod, hpath, ih hrest]

theorem trailingParameter_congr {sorted sorted' : SortedParameters} {name : Option String}
    (h : ∀ t ∈ name, sorted'.findPath? t = sorted.findPath? t) :
    trailingParameter sorted' name = trailingParameter sorted name := by
  cases name with
  | none => rfl
  | some t =>
    unfold trailingParameter
    dsimp only
    rw [h t rfl]

/-! ## all steps -/

namespace Description

variable {d : Description} {e : Endpoint} {seen : List String} {b : Binding}

/-- **A binding is built if and only if every step gives its part.** -/
theorem bind_eq_ok_iff_parts : d.bind e seen = .ok b ↔ ∃ sorted, BuiltFrom d e seen sorted b := by
  unfold bind
  constructor
  · intro h
    obtain ⟨id, hid, h⟩ := bind_eq_ok.mp h
    obtain ⟨sorted, hsort, h⟩ := bind_eq_ok.mp h
    obtain ⟨pathParameters, hpath, h⟩ := bind_eq_ok.mp h
    obtain ⟨queryParameters, hquery, h⟩ := bind_eq_ok.mp h
    obtain ⟨trailing, htrailing, h⟩ := bind_eq_ok.mp h
    obtain ⟨responseType, hresponse, h⟩ := bind_eq_ok.mp h
    obtain ⟨errorType, herror, h⟩ := bind_eq_ok.mp h
    obtain ⟨bodyType, hbody, h⟩ := bind_eq_ok.mp h
    cases h
    exact ⟨sorted, hid, hsort, hpath, hquery, htrailing, hresponse, herror, hbody, rfl, rfl, rfl,
      rfl, rfl, rfl, rfl⟩
  · rintro ⟨sorted, h⟩
    refine bind_eq_ok.mpr ⟨_, h.id, bind_eq_ok.mpr ⟨_, h.sort, bind_eq_ok.mpr ⟨_, h.path,
      bind_eq_ok.mpr ⟨_, h.query, bind_eq_ok.mpr ⟨_, h.trailing, bind_eq_ok.mpr ⟨_, h.response,
      bind_eq_ok.mpr ⟨_, h.error, bind_eq_ok.mpr ⟨_, h.body, ?_⟩⟩⟩⟩⟩⟩⟩⟩
    rw [← h.summary, ← h.description, ← h.polling, ← h.method, ← h.route, ← h.name]
    dsimp only
    rw [← h.declaration]
    rfl

end Description

end ApiBindings
