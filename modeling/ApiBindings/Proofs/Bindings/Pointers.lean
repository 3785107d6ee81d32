import ApiBindings.Proofs.Bindings.Parts
import ApiBindings.Proofs.Synthesis.Pointers

/-!
# The pointers behind a binding

Which pointers the types of an operation are made with: those of the parameters that it shows, of
its responses, and of its body unless it only reads.  The types of its binding name nothing else.

* `Description.endpointPointers`     the pointers of an operation;
* `Description.bind_namedBy`         the names in the types of its binding are theirs.
-/

namespace ApiBindings

open TypeScript

/-! ## pointers -/

def Parameter.pointers (p : Parameter) : List String :=
  p.schema.toOption.toList.flatMap nodePointers

namespace Endpoint

def typedParameters (e : Endpoint) (sorted : SortedParameters) : List Parameter :=
  e.placeholders.filterMap sorted.findPath? ++ sorted.query ++
    (e.split.2.bind sorted.findPath?).toList

def responsePointers (e : Endpoint) : List String :=
  (e.operation.responses.getD []).flatMap fun entry => payloadPointers entry.2

/-- the pointers of a body, which an operation that reads does not look at -/
def requestPointers (e : Endpoint) : List String :=
  match e.method with
  | .get => []
  | _ => payloadPointers e.operation.requestBody.toOption

end Endpoint

namespace Description

def parameterPointers (d : Description) (e : Endpoint) : List String :=
  match d.sortParameters e.shared e.operation.parameters with
  | .ok sorted => (e.typedParameters sorted).flatMap Parameter.pointers
  | .error _ => []

/-- the pointers that the types of an operation are made with -/
def endpointPointers (d : Description) (e : Endpoint) : List String :=
  d.parameterPointers e ++ e.responsePointers ++ e.requestPointers

end Description

/-! ## parameters, responses, and bodies -/

theorem parameterType_namedBy {p : Parameter} {text : String} (h : parameterType p = .ok text) :
    NamedBy p.pointers text := by
  unfold parameterType at h
  unfold Parameter.pointers
  split at h
  · rename_i node hnode
    rw [hnode]
    refine (nodeType_namedBy h).mono fun target htarget => ?_
    exact List.mem_flatMap.mpr ⟨node, List.mem_singleton_self node, htarget⟩
  · cases h
    exact .keyword (k := .any) (by decide)

def TypedBy (ps : List Parameter) (x : BindingParameter) : Prop :=
  ∃ p ∈ ps, parameterType p = .ok x.type

theorem typedBy_of_bindingParameter {p : Parameter} {x : BindingParameter} {ps : List Parameter}
    (hp : p ∈ ps) (h : bindingParameter p = .ok x) : TypedBy ps x := by
  obtain ⟨type, htype, rfl⟩ := map_eq_ok.mp h
  exact ⟨p, hp, htype⟩

theorem TypedBy.mono {ps qs : List Parameter} {x : BindingParameter} (h : TypedBy ps x)
    (hsub : ps ⊆ qs) : TypedBy qs x := by
  obtain ⟨p, hp, htype⟩ := h
  exact ⟨p, hsub hp, htype⟩

theorem TypedBy.namedBy {ps : List Parameter} {x : BindingParameter} (h : TypedBy ps x) :
    NamedBy (ps.flatMap Parameter.pointers) x.type := by
  obtain ⟨p, hp, htype⟩ := h
  refine (parameterType_namedBy htype).mono fun target htarget => ?_
  exact List.mem_flatMap.mpr ⟨p, hp, htarget⟩

theorem bindingParameters_typedBy {ps : List Parameter} {xs : List BindingParameter}
    (h : bindingParameters ps = .ok xs) : ∀ x ∈ xs, TypedBy ps x := by
  induction ps generalizing xs with
  | nil =>
    cases h
    intro _ hmem
    cases hmem
  | cons p rest ih =>
    rw [bindingParameters] at h
    obtain ⟨first, hfirst, h⟩ := bind_eq_ok.mp h
    obtain ⟨others, hothers, h⟩ := bind_eq_ok.mp h
    cases h
    intro x hmem
    rcases List.mem_cons.mp hmem with rfl | hmem
    · exact typedBy_of_bindingParameter List.mem_cons_self hfirst
    · exact (ih hothers x hmem).mono (List.subset_cons_self p rest)

theorem placeholderParameters_typedBy {e : Endpoint} {id : String} {sorted : SortedParameters}
    {names : List String} {xs : List BindingParameter}
    (h : placeholderParameters e id sorted names = .ok xs) :
    ∀ x ∈ xs, TypedBy (names.filterMap sorted.findPath?) x := by
  induction names generalizing xs with
  | nil =>
    cases h
    intro _ hmem
    cases hmem
  | cons name rest ih =>
    unfold placeholderParameters at h
    split at h
    · cases h
    · rename_i p hp
      obtain ⟨first, hfirst, h⟩ := bind_eq_ok.mp h
      obtain ⟨others, hothers, h⟩ := bind_eq_ok.mp h
      cases h
      rw [List.filterMap_cons_some hp]
      intro x hmem
      rcases List.mem_cons.mp hmem with rfl | hmem
      · exact typedBy_of_bindingParameter List.mem_cons_self hfirst
      · exact (ih hothers x hmem).mono (List.subset_cons_self p _)

/-- the elided placeholder may have any type if it is not declared -/
theorem trailingParameter_typedBy {sorted : SortedParameters} {name : Option String}
    {trailing : Option BindingParameter} (h : trailingParameter sorted name = .ok trailing) :
    ∀ x ∈ trailing, x.type = Keyword.any.text ∨
      TypedBy (name.bind sorted.findPath?).toList x := by
  unfold trailingParameter at h
  split at h
  · cases h
    intro _ hmem
    cases hmem
  · rename_i name
    rw [Option.bind_some]
    split at h
    · cases h
      intro x hx
      cases hx
      exact .inl rfl
    · rename_i p hp
      obtain ⟨own, hown, rfl⟩ := map_eq_ok.mp h
      intro x hx
      cases hx
      rw [hp]
      exact .inr (typedBy_of_bindingParameter List.mem_cons_self hown)

/-- without payloads there is a word for the type -/
theorem payloadUnionOr_namedBy {k : Keyword} (hk : k ≠ .null) {text : String}
    {entries : List (String × Option (Referable Payload))}
    (h : payloadUnionOr k.text entries = .ok text) :
    NamedBy (entries.flatMap fun entry => payloadPointers entry.2) text := by
  obtain ⟨union, hunion, rfl⟩ := map_eq_ok.mp h
  split
  · exact .keyword hk
  · rename_i hfilled
    refine payloadUnion_namedBy ?_ hunion
    rintro rfl
    cases hunion
    exact hfilled rfl

/-- the body of an operation, which may be its elided placeholder -/
theorem requestType_namedBy {e : Endpoint} {trailing : Option BindingParameter}
    {result : Option String} {targets : List String}
    (htrailing : ∀ x ∈ trailing, NamedBy targets x.type) (h : requestType e trailing = .ok result) :
    ∀ type ∈ result, NamedBy (targets ++ e.requestPointers) type := by
  unfold requestType at h
  unfold Endpoint.requestPointers
  split at h
  · cases h
    intro _ hmem
    cases hmem
  · rename_i x _ _
    cases h
    intro type htype
    cases htype
    exact (htrailing x rfl).mono (List.subset_append_left _ _)
  · rename_i hget _
    obtain ⟨type, hunion, rfl⟩ := map_eq_ok.mp h
    intro _ htype
    cases htype
    split
    · rename_i hmethod
      exact (hget hmethod).elim
    · have hown := payloadType_namedBy (payloadUnion_singleton.mp hunion)
      exact hown.mono (List.subset_append_right _ _)

/-! ## bindings -/

def Binding.types (b : Binding) : List String :=
  [b.responseType, b.errorType] ++ b.bodyType.toList ++
    (b.parameters ++ b.trailing.toList).map BindingParameter.type

section
variable {d : Description} {e : Endpoint} {seen : List String} {sorted : SortedParameters}
  {b : Binding}

/-- a property has the type of one of the parameters, unless it is the elided placeholder -/
theorem BuiltFrom.parameter_namedBy (h : BuiltFrom d e seen sorted b) :
    ∀ x ∈ b.parameters ++ b.trailing.toList, NamedBy (d.parameterPointers e) x.type := by
  have hpointers : d.parameterPointers e =
      (e.typedParameters sorted).flatMap Parameter.pointers := by
    rw [Description.parameterPointers, h.sort]
  rw [hpointers]
  intro x hx
  rcases List.mem_append.mp hx with hx | hx
  · have htyped : TypedBy (e.typedParameters sorted) x := by
      rcases List.mem_append.mp hx with hx | hx
      · refine (placeholderParameters_typedBy h.path x hx).mono fun p hp => ?_
        exact List.mem_append_left _ (List.mem_append_left _ hp)
      · refine (bindingParameters_typedBy h.query x hx).mono fun p hp => ?_
        exact List.mem_append_left _ (List.mem_append_right _ hp)
    exact htyped.namedBy
  · rcases trailingParameter_typedBy h.trailing x (Option.mem_toList.mp hx) with hany | htyped
    · rw [hany]
      exact .keyword (by decide)
    · exact (htyped.mono (List.subset_append_right _ _)).namedBy

theorem Endpoint.responses_namedBy (e : Endpoint) {k : Keyword} (ofStatus : String → Bool)
    (hk : k ≠ .null) {text : String} (h : payloadUnionOr k.text
      ((e.operation.responses.getD []).filter fun entry => ofStatus entry.1) = .ok text) :
    NamedBy e.responsePointers text := by
  refine (payloadUnionOr_namedBy hk h).mono fun target htarget => ?_
  obtain ⟨entry, hentry, htarget⟩ := List.mem_flatMap.mp htarget
  exact List.mem_flatMap.mpr ⟨entry, List.mem_of_mem_filter hentry, htarget⟩

/-- The types of a binding name nothing but what the pointers of its operation lead to. -/
theorem Description.bind_namedBy (h : d.bind e seen = .ok b) :
    ∀ type ∈ b.types, NamedBy (d.endpointPointers e) type := by
  obtain ⟨sorted, hbuilt⟩ := bind_eq_ok_iff_parts.mp h
  have hresponses : e.responsePointers ⊆ d.endpointPointers e := fun target htarget =>
    List.mem_append_left _ (List.mem_append_right _ htarget)
  have hparameters : d.parameterPointers e ⊆ d.endpointPointers e := fun target htarget =>
    List.mem_append_left _ (List.mem_append_left _ htarget)
  have htrailing : ∀ x ∈ b.trailing, NamedBy (d.parameterPointers e) x.type := fun x hx =>
    hbuilt.parameter_namedBy x (List.mem_append_right _ (Option.mem_toList.mpr hx))
  intro type htype
  rcases List.mem_append.mp htype with htype | htype
  · rcases List.mem_append.mp htype with htype | htype
    · simp only [List.mem_cons, List.not_mem_nil, or_false] at htype
      rcases htype with rfl | rfl
      · have hok := e.responses_namedBy (k := .void) isSuccess (by decide) hbuilt.response
        exact hok.mono hresponses
      · have herror := e.responses_namedBy (k := .unknown) (fun status => !isSuccess status)
          (by decide) hbuilt.error
        exact herror.mono hresponses
    · have hbody := requestType_namedBy htrailing hbuilt.body type (Option.mem_toList.mp htype)
      refine hbody.mono fun target htarget => ?_
      rcases List.mem_append.mp htarget with htarget | htarget
      · exact hparameters htarget
      · exact List.mem_append_right _ htarget
  · obtain ⟨x, hx, rfl⟩ := List.mem_map.mp htype
    exact (hbuilt.parameter_namedBy x hx).mono hparameters

theorem Description.expression_of_bind (h : d.bind e seen = .ok b) :
    ∀ declaration ∈ b.responseDeclaration, declaration.expression = b.responseType := by
  obtain ⟨_, hbuilt⟩ := bind_eq_ok_iff_parts.mp h
  intro declaration hmem
  have hdecl := hbuilt.declaration
  rw [hmem] at hdecl
  split at hdecl
  · injection hdecl with hdecl
    rw [hdecl]
    rfl
  · cases hdecl

end

end ApiBindings
