import ApiBindings.Proofs.Bindings.PathParameters
import ApiBindings.Proofs.Bindings.Sequence
import ApiBindings.Proofs.Synthesis.Faults

/-!
# What an operation has to meet

The binding of an operation is built in steps, of which each looks at the parts of the operation one
after the other.  All that they ask for is one list of requirements, in the order in which they are
looked at; the first that is not met is the one that is reported.

* `Description.requirements`       everything that has to be met, in order;
* `Description.Met`, `Unmet`       what each requirement asks for, and the failure if it is not met;
* `Description.failure?_bind`      the failure of an operation is that of the first unmet one;
* `SameUsed`                       parameters that differ in schemas which nothing asks for;
* `bind_fails_at_first_unmet`      when there is a binding, and which failure there is otherwise.
-/

namespace ApiBindings

/-- one thing that an operation has to meet -/
inductive Requirement where
  /-- The operation has an id. -/
  | id
  /-- The id was not seen before. -/
  | newId
  /-- An entry of the parameters leads to a parameter. -/
  | entry (node : Referable Parameter)
  /-- A placeholder is declared as a path parameter. -/
  | declared (name : String)
  /-- The schema of a parameter has a type. -/
  | typed (p : Parameter)
  /-- A payload has a type. -/
  | payload (label : String) (payload : Option (Referable Payload))

namespace Endpoint

def idText (e : Endpoint) : String := e.operation.operationId.toOption.getD ""

/-- the parameters of the path, then those of the operation, as they are written -/
def entries (e : Endpoint) : List (Referable Parameter) :=
  e.shared.getD [] ++ e.operation.parameters.getD []

def answers (e : Endpoint) (success : Bool) : List (String × Option (Referable Payload)) :=
  (e.operation.responses.getD []).filter fun entry => isSuccess entry.1 == success

/-- The body, if one is asked for: an operation that reads has none, and without a declared body
what was cut off the route is taken for it. -/
def bodies (e : Endpoint) : List (String × Option (Referable Payload)) :=
  if e.method = .get ∨ e.split.2.isSome ∧ e.operation.requestBody.toOption = none then []
  else [("body", e.operation.requestBody.toOption)]

/-- the operation with these parameters and no others -/
def withParameters (e : Endpoint) (ps : List Parameter) : Endpoint :=
  { e with
    operation := { e.operation with parameters := .value (ps.map .inline) }
    shared := .absent }

end Endpoint

namespace Description

def declared (d : Description) (e : Endpoint) : List Parameter :=
  e.entries.filterMap fun node => (d.resolveParameter node).toOption

def queried (d : Description) (e : Endpoint) : List Parameter :=
  (d.declared e).filter fun p => p.location == "query"

def firstPath (d : Description) (e : Endpoint) (name : String) : List Parameter :=
  ((d.declared e).find? fun p => p.location == "path" && p.name == name).toList

/-- Everything that an operation has to meet, in the order in which it is looked at. -/
def requirements (d : Description) (e : Endpoint) : List Requirement :=
  [[.id, .newId],
    e.entries.map .entry,
    e.placeholders.flatMap fun name => .declared name :: (d.firstPath e name).map .typed,
    (d.queried e).map .typed,
    e.split.2.toList.flatMap fun name => (d.firstPath e name).map .typed,
    (e.answers true).map fun answer => .payload answer.1 answer.2,
    (e.answers false).map fun answer => .payload answer.1 answer.2,
    e.bodies.map fun body => .payload body.1 body.2].flatten

/-- what a requirement asks for -/
def Met (d : Description) (e : Endpoint) (seen : List String) : Requirement → Prop
  | .id => e.idText ≠ ""
  | .newId => e.idText ∉ seen
  | .entry node => ∃ p, d.resolveParameter node = .ok p
  | .declared name => ∃ p ∈ d.declared e, p.location = "path" ∧ p.name = name
  | .typed p => ∃ type, parameterType p = .ok type
  | .payload label payload => ∃ type, payloadType label payload = .ok type

/-- The failure of a requirement that is not met. -/
inductive Unmet (d : Description) (e : Endpoint) (seen : List String) : Requirement → Failure → Prop
  | id (h : e.idText = "") : Unmet d e seen .id (.missingOperationId e.method.name e.path)
  | newId (h : e.idText ∈ seen) :
      Unmet d e seen .newId (.duplicateOperationId e.idText e.method.name e.path)
  | entry {node : Referable Parameter} {f : Failure} (h : d.resolveParameter node = .error f) :
      Unmet d e seen (.entry node) f
  | declared {name : String} (h : ∀ p ∈ d.declared e, p.location = "path" → p.name ≠ name) :
      Unmet d e seen (.declared name)
        (.undeclaredPathParameter name e.idText e.method.name e.path)
  | typed {p : Parameter} {node : SchemaNode} {f : Failure} (hschema : p.schema = .value node)
      (h : nodeType node (some ("parameters." ++ p.name)) = .error f) :
      Unmet d e seen (.typed p) f
  | pointer {label target : String}
      (h : ∀ place ∈ referencePrefixes, ¬ place.1.toList <+: target.toList) :
      Unmet d e seen (.payload label (some (.ref target))) (.unsupportedReference target)
  | payload {label : String} {payload : Payload} {node : SchemaNode} {f : Failure}
      (hnode : payload.node? = some node) (h : nodeType node (some label) = .error f) :
      Unmet d e seen (.payload label (some (.inline payload))) f

/-- the failure of a requirement, if it is not met -/
def unmet? (d : Description) (e : Endpoint) (seen : List String) : Requirement → Option Failure
  | .id => if e.idText = "" then some (.missingOperationId e.method.name e.path) else none
  | .newId =>
    if e.idText ∈ seen then some (.duplicateOperationId e.idText e.method.name e.path) else none
  | .entry node => failure? (d.resolveParameter node)
  | .declared name =>
    if d.firstPath e name = [] then
      some (.undeclaredPathParameter name e.idText e.method.name e.path)
    else none
  | .typed p => failure? (parameterType p)
  | .payload label payload => failure? (payloadType label payload)

variable {d : Description} {e : Endpoint} {seen : List String}

/-! ## met and unmet -/

theorem firstPath_eq_nil_iff {name : String} : d.firstPath e name = [] ↔
    ∀ p ∈ d.declared e, p.location = "path" → p.name ≠ name := by
  rw [firstPath, Option.toList_eq_nil_iff, List.find?_eq_none]
  simp only [Bool.and_eq_true, beq_iff_eq, not_and]

theorem unmet?_eq_none {r : Requirement} : d.unmet? e seen r = none ↔ d.Met e seen r := by
  cases r with
  | id => simp [unmet?, Met]
  | newId => simp [unmet?, Met]
  | entry node => exact failure?_eq_none
  | declared name =>
    rw [unmet?, Met, ite_eq_right_iff, firstPath_eq_nil_iff]
    simp only [reduceCtorEq, imp_false, not_forall, not_not, exists_prop]
  | typed p => exact failure?_eq_none
  | payload label payload => exact failure?_eq_none

theorem parameterType_eq_error {p : Parameter} {f : Failure} : parameterType p = .error f ↔
    ∃ node, p.schema = .value node ∧ nodeType node (some ("parameters." ++ p.name)) = .error f := by
  unfold parameterType
  constructor
  · intro h
    split at h
    · exact ⟨_, ‹_›, h⟩
    · cases h
  · rintro ⟨node, hschema, h⟩
    rw [hschema]
    exact h

theorem referenceType_eq_error {target : String} {f : Failure} : referenceType target = .error f ↔
    (∀ place ∈ referencePrefixes, ¬ place.1.toList <+: target.toList) ∧
      f = .unsupportedReference target := by
  rw [← splitReference?_eq_none, referenceType]
  cases splitReference? target with
  | none =>
    constructor
    · intro h
      cases h
      exact ⟨rfl, rfl⟩
    · rintro ⟨_, rfl⟩
      rfl
  | some found =>
    constructor
    · intro h
      cases h
    · rintro ⟨h, _⟩
      cases h

theorem payload_unmet_iff {label : String} {payload : Option (Referable Payload)} {f : Failure} :
    payloadType label payload = .error f ↔ d.Unmet e seen (.payload label payload) f := by
  cases payload with
  | none =>
    constructor
    · intro h
      cases h
    · intro h
      cases h
  | some given =>
    cases given with
    | ref target =>
      show referenceType target = .error f ↔ _
      rw [referenceType_eq_error]
      constructor
      · rintro ⟨h, rfl⟩
        exact .pointer h
      · intro h
        cases h with
        | pointer h => exact ⟨h, rfl⟩
    | inline payload =>
      constructor
      · intro h
        unfold payloadType at h
        dsimp only at h
        split at h
        · exact .payload ‹_› h
        · cases h
      · intro h
        cases h with
        | payload hnode h =>
          unfold payloadType
          simp only [hnode]
          exact h

theorem unmet?_eq_some {r : Requirement} {f : Failure} :
    d.unmet? e seen r = some f ↔ d.Unmet e seen r f := by
  cases r with
  | id =>
    rw [unmet?]
    constructor
    · intro h
      split at h
      · cases h
        exact .id ‹_›
      · cases h
    · rintro ⟨h⟩
      exact if_pos h
  | newId =>
    rw [unmet?]
    constructor
    · intro h
      split at h
      · cases h
        exact .newId ‹_›
      · cases h
    · intro h
      cases h with
      | newId h => exact if_pos h
  | entry node =>
    rw [unmet?, failure?_eq_some]
    constructor
    · exact .entry
    · intro h
      cases h with
      | entry h => exact h
  | declared name =>
    rw [unmet?]
    constructor
    · intro h
      split at h
      · cases h
        exact .declared (firstPath_eq_nil_iff.mp ‹_›)
      · cases h
    · intro h
      cases h with
      | declared h => exact if_pos (firstPath_eq_nil_iff.mpr h)
  | typed p =>
    rw [unmet?, failure?_eq_some, parameterType_eq_error]
    constructor
    · rintro ⟨node, hschema, h⟩
      exact .typed hschema h
    · intro h
      cases h with
      | typed hschema h => exact ⟨_, hschema, h⟩
  | payload label payload => rw [unmet?, failure?_eq_some, payload_unmet_iff]

/-! ## the failures of the steps -/

/-- the failure of a step and of all that comes after it -/
theorem failure?_bind_append {α β : Type} {x : Except Failure α} {g : α → Except Failure β}
    {u : Requirement → Option Failure} {first rest : List Requirement}
    (hx : failure? x = first.findSome? u)
    (hrest : ∀ a, x = .ok a → failure? (g a) = rest.findSome? u) :
    failure? (x >>= g) = (first ++ rest).findSome? u := by
  rw [List.findSome?_append, ← hx]
  cases x with
  | ok a => exact hrest a rfl
  | error f => rfl

theorem failure?_operationId : failure? (operationId e seen) =
    [Requirement.id, .newId].findSome? (d.unmet? e seen) := by
  rw [findSome?_cons_or, findSome?_cons_or, List.findSome?_nil, Option.or_none, unmet?, unmet?,
    operationId, Endpoint.idText]
  cases e.operation.operationId.toOption with
  | none => rfl
  | some id =>
    rw [givenText?, Option.getD_some]
    by_cases hempty : id = ""
    · rw [if_pos hempty, if_pos hempty]
      rfl
    · rw [if_neg hempty, if_neg hempty, Option.none_or]
      dsimp only
      split <;> rfl

theorem eq_idText {id : String} (h : operationId e seen = .ok id) : id = e.idText := by
  obtain ⟨hid, _⟩ := operationId_eq_ok_iff.mp h
  unfold Endpoint.id? givenText? at hid
  rw [Endpoint.idText]
  split at hid
  · rename_i given hgiven
    rw [hgiven, Option.getD_some]
    split at hid
    · cases hid
    · exact (Option.some.inj hid).symm
  · cases hid

theorem failure?_resolveParameters (nodes : List (Referable Parameter)) :
    failure? (d.resolveParameters nodes) =
      (nodes.map Requirement.entry).findSome? (d.unmet? e seen) := by
  induction nodes with
  | nil => rfl
  | cons node rest ih =>
    rw [resolveParameters, failure?_two, ih, List.map_cons, findSome?_cons_or]
    rfl

theorem eq_filterMap_of_resolveParameters {nodes : List (Referable Parameter)}
    {ps : List Parameter} (h : d.resolveParameters nodes = .ok ps) :
    ps = nodes.filterMap fun node => (d.resolveParameter node).toOption := by
  induction nodes generalizing ps with
  | nil =>
    cases h
    rfl
  | cons node rest ih =>
    obtain ⟨p, hp, h⟩ := bind_eq_ok.mp h
    obtain ⟨others, hothers, h⟩ := bind_eq_ok.mp h
    cases h
    have hfirst := toOption_eq_some.mpr hp
    rw [List.filterMap_cons, hfirst, ← ih hothers]

theorem failure?_bindingParameters (ps : List Parameter) : failure? (bindingParameters ps) =
    (ps.map Requirement.typed).findSome? (d.unmet? e seen) := by
  induction ps with
  | nil => rfl
  | cons p rest ih =>
    rw [bindingParameters, failure?_two, ih, List.map_cons, findSome?_cons_or, bindingParameter,
      failure?_map]
    rfl

theorem firstPath_eq (name : String) : d.firstPath e name =
    ((SortedParameters.ofList (d.declared e)).findPath? name).toList := by
  rw [SortedParameters.findPath?_ofList]
  rfl

theorem failure?_placeholderParameters (names : List String) :
    failure? (placeholderParameters e e.idText (.ofList (d.declared e)) names) =
      (names.flatMap fun name =>
        Requirement.declared name :: (d.firstPath e name).map .typed).findSome?
          (d.unmet? e seen) := by
  induction names with
  | nil => rfl
  | cons name rest ih =>
    rw [List.flatMap_cons, List.findSome?_append, findSome?_cons_or, unmet?, firstPath_eq]
    unfold placeholderParameters
    cases (SortedParameters.ofList (d.declared e)).findPath? name with
    | none => rfl
    | some p =>
      dsimp only
      rw [failure?_two, bindingParameter, failure?_map, ih]
      show _ = (none.or (([Requirement.typed p]).findSome? (d.unmet? e seen))).or _
      rw [findSome?_cons_or, List.findSome?_nil, Option.or_none, Option.none_or]
      rfl

theorem failure?_trailingParameter (name : Option String) :
    failure? (trailingParameter (.ofList (d.declared e)) name) =
      (name.toList.flatMap fun name => (d.firstPath e name).map .typed).findSome?
        (d.unmet? e seen) := by
  cases name with
  | none => rfl
  | some name =>
    rw [Option.toList_some, List.flatMap_singleton, firstPath_eq]
    unfold trailingParameter
    dsimp only
    cases (SortedParameters.ofList (d.declared e)).findPath? name with
    | none => rfl
    | some p =>
      dsimp only
      rw [failure?_map, bindingParameter, failure?_map]
      show _ = ([Requirement.typed p]).findSome? (d.unmet? e seen)
      rw [findSome?_cons_or, List.findSome?_nil, Option.or_none]
      rfl

theorem failure?_payloadUnion (entries : List (String × Option (Referable Payload))) :
    failure? (payloadUnion entries) =
      (entries.map fun entry => Requirement.payload entry.1 entry.2).findSome?
        (d.unmet? e seen) := by
  rw [payloadUnion, failure?_map]
  induction entries with
  | nil => rfl
  | cons entry rest ih =>
    rw [payloadTypes, failure?_two, ih, List.map_cons, findSome?_cons_or]
    rfl

theorem answers_true (e : Endpoint) : e.answers true =
    (e.operation.responses.getD []).filter fun entry => isSuccess entry.1 := by
  simp only [Endpoint.answers, beq_true]

theorem answers_false (e : Endpoint) : e.answers false =
    (e.operation.responses.getD []).filter fun entry => !isSuccess entry.1 := by
  simp only [Endpoint.answers, beq_false]

theorem failure?_answers (fallback : String) (success : Bool) :
    failure? (payloadUnionOr fallback (e.answers success)) =
      ((e.answers success).map fun answer => Requirement.payload answer.1 answer.2).findSome?
        (d.unmet? e seen) := by
  rw [payloadUnionOr, failure?_map, failure?_payloadUnion]

theorem failure?_requestType {trailing : Option BindingParameter}
    (htrailing : trailing.isSome = e.split.2.isSome) : failure? (requestType e trailing) =
      (e.bodies.map fun body => Requirement.payload body.1 body.2).findSome?
        (d.unmet? e seen) := by
  unfold requestType Endpoint.bodies
  rw [← htrailing]
  split
  · rename_i hmethod
    rw [if_pos (.inl hmethod)]
    rfl
  · rename_i hbody _
    rw [if_pos (.inr ⟨rfl, hbody⟩)]
    rfl
  · rename_i trailing _ _ _ hget hcut
    have hasked : ¬ (e.method = .get ∨
        trailing.isSome = true ∧ e.operation.requestBody.toOption = none) := by
      rintro (hmethod | ⟨hsome, hbody⟩)
      · exact hget hmethod
      · obtain ⟨x, hx⟩ := Option.isSome_iff_exists.mp hsome
        exact hcut x hx hbody
    rw [if_neg hasked, failure?_map, failure?_payloadUnion]

/-- **The failure of an operation is that of the first requirement that it does not meet.** -/
theorem failure?_bind : failure? (d.bind e seen) =
    (d.requirements e).findSome? (d.unmet? e seen) := by
  unfold bind requirements
  simp only [List.flatten_cons, List.flatten_nil]
  refine failure?_bind_append failure?_operationId fun id hid => ?_
  obtain rfl := eq_idText hid
  -- every entry is resolved before any parameter is looked at
  refine failure?_bind_append ?_ fun sorted hsorted => ?_
  · rw [sortParameters, failure?_map]
    exact failure?_resolveParameters e.entries
  obtain ⟨declared, hdeclared, rfl⟩ := map_eq_ok.mp hsorted
  obtain rfl : declared = d.declared e := eq_filterMap_of_resolveParameters hdeclared
  refine failure?_bind_append (failure?_placeholderParameters e.placeholders) fun _ _ => ?_
  refine failure?_bind_append (failure?_bindingParameters (d.queried e)) fun _ _ => ?_
  refine failure?_bind_append (failure?_trailingParameter e.split.2) fun trailing htrailing => ?_
  refine failure?_bind_append ?_ fun _ _ => failure?_bind_append ?_ fun _ _ => ?_
  · rw [← answers_true]
    exact failure?_answers "void" true
  · rw [← answers_false]
    exact failure?_answers "unknown" false
  -- a body is asked for as the path says, for what is cut off always has a property
  have hcut : trailing.isSome = e.split.2.isSome := by
    rw [← name_of_trailingParameter htrailing, Option.isSome_map]
  exact failure?_bind_append (failure?_requestType hcut) fun _ _ => rfl

/-! ## schemas that nothing asks for -/

/-- Two lists of parameters that differ only in schemas which nothing asks for, those of parameters
that are neither in the query nor the first one in the path for a name that is looked up. -/
structure SameUsed (e : Endpoint) (declared others : List Parameter) : Prop where
  fields : (others.map fun p => { p with schema := .absent }) =
    declared.map fun p => { p with schema := .absent }
  query : (others.filter fun p => p.location == "query") =
    declared.filter fun p => p.location == "query"
  path : ∀ name, name ∈ e.placeholders ∨ e.split.2 = some name →
    ∀ p, FirstPath others name p ↔ FirstPath declared name p

variable {declared others : List Parameter}

theorem SameUsed.findPath?_eq (h : SameUsed e declared others) {name : String}
    (hname : name ∈ e.placeholders ∨ e.split.2 = some name) :
    (SortedParameters.ofList others).findPath? name =
      (SortedParameters.ofList declared).findPath? name := by
  refine Option.ext fun p => ?_
  rw [SortedParameters.findPath?_eq_some, SortedParameters.findPath?_eq_some]
  exact h.path name hname p

/-- the header that asks for polling is told by its name -/
theorem SameUsed.polling_eq (h : SameUsed e declared others) :
    ((SortedParameters.ofList others).header.any fun p => p.name.toLower == pollingHeader) =
      (SortedParameters.ofList declared).header.any fun p => p.name.toLower == pollingHeader := by
  have hbare : ∀ ps : List Parameter,
      ((SortedParameters.ofList ps).header.any fun p => p.name.toLower == pollingHeader) =
        (ps.map fun p => { p with schema := .absent }).any fun p =>
          p.location == "header" && p.name.toLower == pollingHeader := by
    intro ps
    rw [List.any_map]
    exact List.any_filter
  rw [hbare, hbare, h.fields]

theorem resolveParameter_inline (p : Parameter) : d.resolveParameter (.inline p) = .ok p := by
  rw [resolveParameter, followParameter]

theorem resolveParameters_inline (ps : List Parameter) :
    d.resolveParameters (ps.map .inline) = .ok ps := by
  induction ps with
  | nil => rfl
  | cons p ps ih =>
    rw [List.map_cons, resolveParameters, resolveParameter_inline, ih]
    rfl

theorem resolveParameters_declared
    (hentries : ∀ node ∈ e.entries, ∃ p, d.resolveParameter node = .ok p) :
    d.resolveParameters e.entries = .ok (d.declared e) := by
  have hfailure : failure? (d.resolveParameters e.entries) =
      (e.entries.map Requirement.entry).findSome? (d.unmet? e []) :=
    failure?_resolveParameters e.entries
  obtain ⟨ps, hps⟩ : ∃ ps, d.resolveParameters e.entries = .ok ps := by
    rw [← failure?_eq_none, hfailure, List.findSome?_eq_none_iff, List.forall_mem_map]
    exact fun node hnode => unmet?_eq_none.mpr (hentries node hnode)
  rw [hps, eq_filterMap_of_resolveParameters hps]
  rfl

/-- **Nothing of a binding comes from a schema that nothing asks for.** -/
theorem bind_withParameters (hentries : ∀ node ∈ e.entries, ∃ p, d.resolveParameter node = .ok p)
    (h : SameUsed e (d.declared e) others) :
    d.bind (e.withParameters others) seen = d.bind e seen := by
  have hsort : d.sortParameters e.shared e.operation.parameters = .ok (.ofList (d.declared e)) :=
    congrArg (Except.map SortedParameters.ofList) (resolveParameters_declared hentries)
  have hsort' : d.sortParameters (e.withParameters others).shared
      (e.withParameters others).operation.parameters = .ok (.ofList others) :=
    congrArg (Except.map SortedParameters.ofList) (resolveParameters_inline others)
  have hplace : (e.withParameters others).path = e.path := rfl
  have hmethod : (e.withParameters others).method = e.method := rfl
  have hsplit := Endpoint.split_congr hplace hmethod
  have hplaceholders := Endpoint.placeholders_congr hplace hmethod
  have hpath (id : String) : placeholderParameters (e.withParameters others) id (.ofList others)
      e.placeholders = placeholderParameters e id (.ofList (d.declared e)) e.placeholders :=
    placeholderParameters_congr hplace hmethod fun name hname => h.findPath?_eq (.inl hname)
  have htrailing : trailingParameter (.ofList others) e.split.2 =
      trailingParameter (.ofList (d.declared e)) e.split.2 :=
    trailingParameter_congr fun t ht => h.findPath?_eq (.inr ht)
  have hquery : (SortedParameters.ofList others).query =
      (SortedParameters.ofList (d.declared e)).query := h.query
  have hok {α β : Type} (a : α) (g : α → Except Failure β) : (Except.ok a >>= g) = g a := rfl
  unfold bind
  simp only [hsort, hsort', hok, hsplit, hplaceholders, hpath, htrailing, hquery, h.polling_eq]
  rfl

/-- **An operation is bound if and only if it meets all that it has to; otherwise the failure is
that of the first requirement that is not met.**  The schemas of parameters that are sent in a
header or a cookie, or in the path without being looked up, are not among them: the outcome is the
same whatever these schemas are. -/
theorem bind_fails_at_first_unmet (d : Description) (e : Endpoint) (seen : List String) :
    ((∃ b, d.bind e seen = .ok b) ↔ ∀ r ∈ d.requirements e, d.Met e seen r) ∧
      (∀ f, d.bind e seen = .error f ↔ ∃ before r after,
        d.requirements e = before ++ r :: after ∧ (∀ r ∈ before, d.Met e seen r) ∧
          d.Unmet e seen r f) ∧
      ∀ others, (∀ node ∈ e.entries, ∃ p, d.resolveParameter node = .ok p) →
        SameUsed e (d.declared e) others →
          d.bind (e.withParameters others) seen = d.bind e seen := by
  refine ⟨?_, fun f => ?_, fun others => bind_withParameters⟩
  · rw [← failure?_eq_none, failure?_bind, List.findSome?_eq_none_iff]
    exact forall₂_congr fun r _ => unmet?_eq_none
  · rw [← failure?_eq_some, failure?_bind, List.findSome?_eq_some_iff]
    simp only [unmet?_eq_none, unmet?_eq_some]
    constructor
    · rintro ⟨before, r, after, hsplit, hunmet, hbefore⟩
      exact ⟨before, r, after, hsplit, hbefore, hunmet⟩
    · rintro ⟨before, r, after, hsplit, hbefore, hunmet⟩
      exact ⟨before, r, after, hsplit, hunmet, hbefore⟩

/-- the parameters of an operation, one in its path and one in a header with a schema -/
def taggedParameters (schema : Given SchemaNode) : List Parameter :=
  [⟨"id", "path", .absent, .value true, .absent, []⟩,
    ⟨"tags", "header", .absent, .absent, schema, []⟩]

def itemless : Given SchemaNode := .value (.inline { Schema.empty with type := .value "array" })

/-- an operation with a header whose schema has no type -/
def taggedPet : Endpoint where
  path := "/pets/{id}"
  method := .get
  operation :=
    { operationId := .value "getPet"
      summary := .absent
      description := .absent
      parameters := .value ((taggedParameters itemless).map .inline)
      requestBody := .absent
      responses := some []
      extras := [] }
  shared := .absent

/-- the header does not stand in the way; only an id that was seen before does -/
theorem bind_taggedPet :
    (∀ r ∈ bareDescription.requirements taggedPet, bareDescription.Met taggedPet [] r) ∧
      bareDescription.bind taggedPet ["getPet"] =
        .error (.duplicateOperationId "getPet" "get" "/pets/{id}") ∧
      bareDescription.bind (taggedPet.withParameters (taggedParameters .absent)) [] =
        bareDescription.bind taggedPet [] := by
  have hbound : ∃ b, bareDescription.bind taggedPet [] = .ok b := by
    have h : (bareDescription.bind taggedPet []).toOption.isSome = true := by decide +kernel
    obtain ⟨b, hb⟩ := Option.isSome_iff_exists.mp h
    exact ⟨b, toOption_eq_some.mp hb⟩
  obtain ⟨hmet, _, hsame⟩ := bind_fails_at_first_unmet bareDescription taggedPet []
  obtain ⟨_, hfails, _⟩ := bind_fails_at_first_unmet bareDescription taggedPet ["getPet"]
  have hentries : taggedPet.entries = (taggedParameters itemless).map .inline := rfl
  have hdeclared : bareDescription.declared taggedPet = taggedParameters itemless := by
    rw [declared, hentries]
    exact (eq_filterMap_of_resolveParameters (resolveParameters_inline _)).symm
  refine ⟨hmet.mp hbound, (hfails _).mpr ⟨[.id], .newId, _, rfl, ?_, .newId (by decide)⟩, ?_⟩
  · intro r hr
    rw [List.mem_singleton.mp hr]
    show taggedPet.idText ≠ ""
    decide
  · refine hsame _ (fun node hnode => ?_) ?_
    · obtain ⟨p, _, rfl⟩ := List.mem_map.mp hnode
      exact ⟨p, resolveParameter_inline p⟩
    · rw [hdeclared]
      refine ⟨rfl, rfl, fun name _ p => ?_⟩
      rw [← SortedParameters.findPath?_eq_some, ← SortedParameters.findPath?_eq_some]
      rfl

end Description

end ApiBindings
