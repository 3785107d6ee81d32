import ApiBindings.Generate
import ApiBindings.Proofs.Bindings.Parts
import ApiBindings.Proofs.Synthesis.BareTypes

/-!
# Bindings do not show unknown keys

Every step of the building of a binding gives the same result, or the same failure, with and without
the keys that are not modelled.  So does the whole generation.

* `followParameter_bare`, `sortParameters_bare`    pointers are followed to the same parameters;
* `Description.bind_bare`                          one binding;
* `Description.generate_bare`                      the text of the file.
-/

namespace ApiBindings

/-! ## resolved parameters -/

section
variable {components unseen : List (String × Referable Parameter)} {target name : String}

theorem followParameter_found (hstart : Text.dropStart? parameterPrefix target = some name)
    {entry : String × Referable Parameter}
    (hentry : (unseen.find? fun entry => entry.1 == name) = some entry) :
    followParameter components unseen (.ref target) =
      followParameter components (unseen.eraseP fun entry => entry.1 == name) entry.2 := by
  rw [followParameter, hstart]
  dsimp only
  split
  · rename_i other hother
    rw [hentry] at hother
    cases hother
    rfl
  · rename_i hnone
    rw [hentry] at hnone
    cases hnone

theorem followParameter_missing (hstart : Text.dropStart? parameterPrefix target = some name)
    (hnone : (unseen.find? fun entry => entry.1 == name) = none) :
    followParameter components unseen (.ref target) = .error (.unresolvedReference target
      (some (if components.any fun entry => entry.1 == name then .circular else .notFound))) := by
  rw [followParameter, hstart]
  dsimp only
  split
  · rename_i entry hentry
    rw [hnone] at hentry
    cases hentry
  · split <;> rfl

end

theorem followParameter_bare (components unseen : List (String × Referable Parameter))
    (parameter : Referable Parameter) :
    followParameter (mapValues (Referable.map Parameter.bare) components)
        (mapValues (Referable.map Parameter.bare) unseen) (parameter.map Parameter.bare) =
      (followParameter components unseen parameter).map Parameter.bare := by
  have hfind : ∀ name : String,
      (mapValues (Referable.map Parameter.bare) unseen).find? (fun entry => entry.1 == name) =
        (unseen.find? fun entry => entry.1 == name).map
          fun entry => (entry.1, entry.2.map Parameter.bare) := fun _ => List.find?_map
  have hany : ∀ name : String,
      (mapValues (Referable.map Parameter.bare) components).any (fun entry => entry.1 == name) =
        components.any fun entry => entry.1 == name := fun _ => List.any_map
  -- the same entries are left unseen on both sides, so both walks end for the same reason
  induction unseen, parameter using followParameter.induct components with
  | case1 unseen parameter =>
    rw [Referable.map, followParameter, followParameter]
    rfl
  | case2 unseen target hstart =>
    rw [Referable.map, followParameter, followParameter, hstart]
    rfl
  | case3 unseen target name hstart entry hentry ih =>
    have herase : (mapValues (Referable.map Parameter.bare) unseen).eraseP
        (fun entry => entry.1 == name) =
        mapValues (Referable.map Parameter.bare)
          (unseen.eraseP fun entry => entry.1 == name) := List.eraseP_map
    have hfound := (hfind name).trans (congrArg _ hentry)
    rw [Referable.map, followParameter_found hstart hfound, followParameter_found hstart hentry,
      herase]
    exact ih fun _ => List.find?_map
  | case4 unseen target name hstart hnone _ =>
    have hmissing := (hfind name).trans (congrArg _ hnone)
    rw [Referable.map, followParameter_missing hstart hmissing,
      followParameter_missing hstart hnone, hany]
    rfl
  | case5 unseen target name hstart hnone _ =>
    have hmissing := (hfind name).trans (congrArg _ hnone)
    rw [Referable.map, followParameter_missing hstart hmissing,
      followParameter_missing hstart hnone, hany]
    rfl

namespace SortedParameters

/-- the parameters without unknown keys -/
def bare (sorted : SortedParameters) : SortedParameters where
  query := sorted.query.map Parameter.bare
  path := sorted.path.map Parameter.bare
  header := sorted.header.map Parameter.bare

theorem ofList_bare (parameters : List Parameter) :
    ofList (parameters.map Parameter.bare) = (ofList parameters).bare := by
  unfold ofList bare
  rw [List.filter_map, List.filter_map, List.filter_map]
  rfl

theorem findPath?_bare (sorted : SortedParameters) (name : String) :
    sorted.bare.findPath? name = (sorted.findPath? name).map Parameter.bare :=
  List.find?_map

end SortedParameters

theorem mapValues_getD {α β : Type} (f : α → β) (entries : Given (List (String × α))) :
    (entries.map (mapValues f)).getD [] = mapValues f (entries.getD []) := by
  cases entries <;> rfl

namespace Description

variable (d : Description)

theorem parameters_bare :
    d.bare.parameters = mapValues (Referable.map Parameter.bare) d.parameters := by
  unfold parameters bare
  cases d.components with
  | value components => exact mapValues_getD _ components.parameters
  | _ => rfl

theorem resolveParameters_bare (parameters : List (Referable Parameter)) :
    d.bare.resolveParameters (parameters.map (Referable.map Parameter.bare)) =
      (d.resolveParameters parameters).map (List.map Parameter.bare) := by
  induction parameters with
  | nil => rfl
  | cons parameter rest ih =>
    have hfirst : d.bare.resolveParameter (parameter.map Parameter.bare) =
        (d.resolveParameter parameter).map Parameter.bare := by
      rw [resolveParameter, resolveParameter, parameters_bare, followParameter_bare]
    rw [List.map_cons, resolveParameters, resolveParameters, hfirst, ih]
    cases d.resolveParameter parameter with
    | error f => rfl
    | ok resolved => cases d.resolveParameters rest <;> rfl

theorem sortParameters_bare (shared own : Given (List (Referable Parameter))) :
    d.bare.sortParameters (shared.map (List.map (Referable.map Parameter.bare)))
        (own.map (List.map (Referable.map Parameter.bare))) =
      (d.sortParameters shared own).map SortedParameters.bare := by
  have hgiven : ∀ given : Given (List (Referable Parameter)),
      (given.map (List.map (Referable.map Parameter.bare))).getD [] =
        (given.getD []).map (Referable.map Parameter.bare) := by
    intro given
    cases given <;> rfl
  rw [sortParameters, sortParameters, hgiven, hgiven, ← List.map_append, resolveParameters_bare]
  cases d.resolveParameters (shared.getD [] ++ own.getD []) with
  | error f => rfl
  | ok resolved => exact congrArg Except.ok (SortedParameters.ofList_bare resolved)

end Description

/-! ## parameters of a binding -/

theorem bindingParameter_bare (p : Parameter) : bindingParameter p.bare = bindingParameter p := by
  have htype : parameterType p.bare = parameterType p := by
    unfold parameterType Parameter.bare
    cases p.schema with
    | value node => exact nodeType_bare node _
    | _ => rfl
  rw [bindingParameter, bindingParameter, htype]
  rfl

theorem bindingParameters_bare (ps : List Parameter) :
    bindingParameters (ps.map Parameter.bare) = bindingParameters ps := by
  induction ps with
  | nil => rfl
  | cons p rest ih =>
    rw [List.map_cons, bindingParameters, bindingParameters, bindingParameter_bare, ih]

theorem trailingParameter_bare (sorted : SortedParameters) (name : Option String) :
    trailingParameter sorted.bare name = trailingParameter sorted name := by
  cases name with
  | none => rfl
  | some name =>
    rw [trailingParameter, trailingParameter, sorted.findPath?_bare]
    cases sorted.findPath? name with
    | none => rfl
    | some p => exact congrArg (Except.map some) (bindingParameter_bare p)

/-! ## bindings -/

namespace Endpoint

/-- the operation without unknown keys -/
def bare (e : Endpoint) : Endpoint :=
  { e with
    operation := e.operation.bare
    shared := e.shared.map (List.map (Referable.map Parameter.bare)) }

variable (e : Endpoint)

theorem placeholderParameters_bare (id : String) (sorted : SortedParameters)
    (names : List String) :
    placeholderParameters e.bare id sorted.bare names =
      placeholderParameters e id sorted names := by
  induction names with
  | nil => rfl
  | cons name rest ih =>
    rw [placeholderParameters, placeholderParameters, sorted.findPath?_bare]
    cases sorted.findPath? name with
    | none => rfl
    | some p =>
      rw [Option.map_some]
      dsimp only
      rw [bindingParameter_bare, ih]

theorem responses_bare (fallback : String) (keep : String → Bool) :
    payloadUnionOr fallback
        ((e.bare.operation.responses.getD []).filter fun entry => keep entry.1) =
      payloadUnionOr fallback
        ((e.operation.responses.getD []).filter fun entry => keep entry.1) := by
  have hresponses : e.bare.operation.responses.getD [] =
      mapValues (Option.map (Referable.map Payload.bare)) (e.operation.responses.getD []) := by
    unfold bare Operation.bare
    cases e.operation.responses <;> rfl
  have hfilter : (mapValues (Option.map (Referable.map Payload.bare))
      (e.operation.responses.getD [])).filter (fun entry => keep entry.1) =
      mapValues (Option.map (Referable.map Payload.bare))
        ((e.operation.responses.getD []).filter fun entry => keep entry.1) := List.filter_map
  rw [hresponses, hfilter, payloadUnionOr, payloadUnionOr, payloadUnion_bare]

theorem requestType_bare (trailing : Option BindingParameter) :
    requestType e.bare trailing = requestType e trailing := by
  have hbody : e.bare.operation.requestBody.toOption =
      e.operation.requestBody.toOption.map (Referable.map Payload.bare) := by
    unfold bare Operation.bare
    cases e.operation.requestBody <;> rfl
  have hunion := payloadUnion_bare [("body", e.operation.requestBody.toOption)]
  unfold requestType
  rw [hbody, show e.bare.method = e.method from rfl]
  cases e.method <;> cases trailing <;> cases hrequest : e.operation.requestBody.toOption <;>
    first | rfl | exact congrArg (Except.map some) (hrequest ▸ hunion)

end Endpoint

namespace Description

variable (d : Description)

/-- A binding does not show unknown keys, and no failure does. -/
theorem bind_bare (e : Endpoint) (seen : List String) :
    d.bare.bind e.bare seen = d.bind e seen := by
  have hsort : d.bare.sortParameters e.bare.shared e.bare.operation.parameters =
      (d.sortParameters e.shared e.operation.parameters).map SortedParameters.bare :=
    d.sortParameters_bare e.shared e.operation.parameters
  have hid : operationId e.bare seen = operationId e seen := rfl
  have hpath : e.bare.path = e.path := rfl
  have hmethod : e.bare.method = e.method := rfl
  have hplaceholders := Endpoint.placeholders_congr hpath hmethod
  have hsplit := Endpoint.split_congr hpath hmethod
  unfold bind
  dsimp only
  rw [hid, hsort, hplaceholders, hsplit]
  cases d.sortParameters e.shared e.operation.parameters with
  | error f => rfl
  | ok sorted =>
    have hpolling : (sorted.bare.header.any fun p => p.name.toLower == pollingHeader) =
        sorted.header.any fun p => p.name.toLower == pollingHeader := List.any_map
    have hquery : bindingParameters sorted.bare.query = bindingParameters sorted.query :=
      bindingParameters_bare sorted.query
    have hresponse := e.responses_bare "void" isSuccess
    have herror := e.responses_bare "unknown" fun status => !isSuccess status
    simp only [Except.map, Bind.bind, Except.bind, e.placeholderParameters_bare, hquery,
      trailingParameter_bare, hresponse, herror, e.requestType_bare, hpolling]
    rfl

theorem bindingsFrom_bare (es : List Endpoint) (seen : List String) :
    d.bare.bindingsFrom seen (es.map Endpoint.bare) = d.bindingsFrom seen es := by
  induction es generalizing seen with
  | nil => rfl
  | cons e rest ih =>
    rw [List.map_cons, bindingsFrom, bindingsFrom, d.bind_bare]
    cases d.bind e seen with
    | error f => rfl
    | ok b =>
      show (d.bare.bindingsFrom (b.operationId :: seen) (rest.map Endpoint.bare) >>= _) = _
      rw [ih]
      rfl

theorem supportedEndpoints_bare :
    d.bare.supportedEndpoints = d.supportedEndpoints.map Endpoint.bare := by
  have hoperations : ∀ item : PathItem, item.bare.operations =
      item.operations.map fun entry => (entry.1, entry.2.bare) := by
    intro item
    unfold PathItem.operations PathItem.bare
    rw [List.filterMap_map, List.map_filterMap]
    refine List.filterMap_congr fun entry _ => ?_
    obtain ⟨m, operation⟩ := entry
    cases operation <;> rfl
  have hendpoints : d.bare.endpoints = d.endpoints.map Endpoint.bare := by
    have hpaths : d.bare.paths.getD [] = mapValues PathItem.bare (d.paths.getD []) := by
      unfold bare
      cases d.paths <;> rfl
    rw [endpoints, endpoints, hpaths, mapValues, List.flatMap_map, List.map_flatMap]
    refine List.flatMap_congr fun entry _ => ?_
    rw [hoperations, List.map_map, List.map_map]
    rfl
  rw [supportedEndpoints, supportedEndpoints, hendpoints, List.filter_map]
  rfl

/-! ## the file -/

theorem declarationBlocks_bare (includeResponses : Bool) :
    d.bare.declarationBlocks includeResponses = d.declarationBlocks includeResponses := by
  have hcomponents : d.bare.componentsOrEmpty = d.componentsOrEmpty.bare := by
    unfold componentsOrEmpty bare
    cases d.components <;> rfl
  unfold declarationBlocks
  rw [hcomponents]
  unfold Components.bare
  dsimp only
  rw [mapValues_getD, mapValues_getD, mapValues_getD, schemaDeclarations_bare,
    payloadDeclarations_bare, payloadDeclarations_bare]

/-- **Unknown keys are not shown.**  The text of the file, or the failure that is reported, is that
of the description without them. -/
theorem generate_bare (options : Source.Options) (includeResponses : Bool) :
    d.bare.generate options includeResponses = d.generate options includeResponses := by
  have hversion : d.bare.openapi = d.openapi := rfl
  have hbindings : d.bare.bindings = d.bindings := by
    rw [bindings, bindings, d.supportedEndpoints_bare, d.bindingsFrom_bare]
  rw [generate, generate, hversion, d.declarationBlocks_bare, hbindings]

end Description

end ApiBindings
