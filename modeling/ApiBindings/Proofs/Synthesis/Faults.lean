import ApiBindings.Proofs.Outcome
import ApiBindings.Proofs.Synthesis.Enumeration
import ApiBindings.Proofs.TypeText.Meaning

/-!
# Schemas without a type

The synthesis walks through the parts of a schema that its type is made of.  Only three things are
wrong with a node by itself, and the first such node of the walk is the one that is reported, with
the path that leads to it.

* `SchemaNode.parts`, `visited`     the parts of a node, and the whole walk in document order;
* `FaultAt`                         what is wrong with a node by itself;
* `failure?_nodeType`               the failure of a node is that of the first fault on the walk;
* `nodeType_fails_at_first_fault`   when there is a type, and which failure there is otherwise.
-/

namespace ApiBindings

/-! ## the walk -/

def numberedParts (composition : String) (start : Nat) (members : List SchemaNode) :
    List (String × SchemaNode) :=
  (members.zipIdx start).map fun member =>
    (composition ++ "[" ++ toString member.2 ++ "]", member.1)

def namedParts (properties : List (String × SchemaNode)) : List (String × SchemaNode) :=
  properties.map fun property => ("properties." ++ property.1, property.2)

namespace Schema

/-- the parts of the first composition that an object has -/
def compositionParts (s : Schema) : List (String × SchemaNode) :=
  match s.allOf, s.oneOf, s.properties, s.additional with
  | .value (node :: rest), _, _, _ => numberedParts "allOf" 0 (node :: rest)
  | _, .value (node :: rest), _, _ => numberedParts "oneOf" 0 (node :: rest)
  | _, _, .value properties, _ => namedParts properties
  | _, _, _, .value (.node node) => [("additionalProperties", node)]
  | _, _, _, _ => []

/-- the parts that the type of a schema is made of, each behind the step that leads to it -/
def parts (s : Schema) : List (String × SchemaNode) :=
  match s.kind with
  | .array => s.items.toOption.toList.map fun node => ("items", node)
  | .object => s.compositionParts
  | _ => []

end Schema

/-- the parts of a node; a pointer is not followed -/
def SchemaNode.parts : SchemaNode → List (String × SchemaNode)
  | .ref _ => []
  | .inline schema => schema.parts

theorem sizeOf_numberedParts {composition : String} {start : Nat} {members : List SchemaNode}
    {part : String × SchemaNode} (h : part ∈ numberedParts composition start members) :
    sizeOf part.2 < sizeOf members := by
  obtain ⟨member, hmember, rfl⟩ := List.mem_map.mp h
  exact List.sizeOf_lt_of_mem (List.fst_mem_of_mem_zipIdx hmember)

theorem sizeOf_namedParts {properties : List (String × SchemaNode)} {part : String × SchemaNode}
    (h : part ∈ namedParts properties) : sizeOf part.2 < sizeOf properties := by
  obtain ⟨⟨name, node⟩, hproperty, rfl⟩ := List.mem_map.mp h
  have hlt := List.sizeOf_lt_of_mem hproperty
  rw [Prod.mk.sizeOf_spec] at hlt
  show sizeOf node < _
  omega

namespace Schema

/-- what holds of the parts of every composition holds of the parts of an object -/
theorem forall_compositionParts {P : String × SchemaNode → Prop} (s : Schema)
    (hallOf : ∀ nodes, s.allOf = .value nodes → ∀ part ∈ numberedParts "allOf" 0 nodes, P part)
    (honeOf : ∀ nodes, s.oneOf = .value nodes → ∀ part ∈ numberedParts "oneOf" 0 nodes, P part)
    (hproperties : ∀ properties, s.properties = .value properties →
      ∀ part ∈ namedParts properties, P part)
    (hadditional : ∀ node, s.additional = .value (.node node) → P ("additionalProperties", node)) :
    ∀ part ∈ s.compositionParts, P part := by
  unfold compositionParts
  split
  · exact hallOf _ ‹_›
  · exact honeOf _ ‹_›
  · exact hproperties _ ‹_›
  · intro part hpart
    rw [List.mem_singleton.mp hpart]
    exact hadditional _ ‹_›
  · intro part hpart
    cases hpart

theorem sizeOf_parts {s : Schema} {part : String × SchemaNode} (h : part ∈ s.parts) :
    sizeOf part.2 < sizeOf s := by
  have hcomposition : ∀ part ∈ s.compositionParts, sizeOf part.2 < sizeOf s := by
    obtain ⟨type, enum, items, properties, required, additional, allOf, oneOf, nullable, extras⟩ :=
      s
    refine forall_compositionParts _ ?_ ?_ ?_ ?_
    · rintro nodes rfl part hpart
      have hlt := sizeOf_numberedParts hpart
      simp only [mk.sizeOf_spec, Given.value.sizeOf_spec]
      omega
    · rintro nodes rfl part hpart
      have hlt := sizeOf_numberedParts hpart
      simp only [mk.sizeOf_spec, Given.value.sizeOf_spec]
      omega
    · rintro properties rfl part hpart
      have hlt := sizeOf_namedParts hpart
      simp only [mk.sizeOf_spec, Given.value.sizeOf_spec]
      omega
    · rintro node rfl
      simp only [mk.sizeOf_spec, Given.value.sizeOf_spec, Additional.node.sizeOf_spec]
      omega
  unfold parts at h
  split at h
  · obtain ⟨type, enum, items, properties, required, additional, allOf, oneOf, nullable, extras⟩ :=
      s
    cases items with
    | value node =>
      rw [List.mem_singleton.mp h]
      simp only [mk.sizeOf_spec, Given.value.sizeOf_spec]
      omega
    | _ => cases h
  · exact hcomposition part h
  · cases h

end Schema

theorem SchemaNode.sizeOf_parts {node : SchemaNode} {part : String × SchemaNode}
    (h : part ∈ node.parts) : sizeOf part.2 < sizeOf node := by
  cases node with
  | ref target => cases h
  | inline schema =>
    have hlt := Schema.sizeOf_parts h
    rw [Referable.inline.sizeOf_spec]
    omega

/-- A node and everything that its type is made of, depth first and in document order, each behind
the steps that lead to it. -/
def SchemaNode.visited (node : SchemaNode) : List (List String × SchemaNode) :=
  ([], node) :: node.parts.attach.flatMap fun part =>
    (visited part.1.2).map fun v => (part.1.1 :: v.1, v.2)
termination_by sizeOf node
decreasing_by exact SchemaNode.sizeOf_parts part.2

theorem SchemaNode.visited_eq (node : SchemaNode) :
    node.visited = ([], node) :: node.parts.flatMap fun part =>
      (visited part.2).map fun v => (part.1 :: v.1, v.2) := by
  rw [visited]
  congr 1
  conv => rhs; rw [← List.attach_map_subtype_val node.parts, List.flatMap_map]

/-! ## paths -/

/-- the site at the end of a path; an empty site does not count as one -/
def siteAt (site : Option String) (path : List String) : Option String :=
  match path with
  | [] => site
  | step :: path => some (Text.join "." ((givenText? site).toList ++ step :: path))

theorem siteAt_cons (site : Option String) {step : String} (hstep : step ≠ "")
    (path : List String) : siteAt (childSite site step) path = siteAt site (step :: path) := by
  have hchild : ∃ text, childSite site step = some text ∧ givenText? (some text) = some text ∧
      ∀ path, Text.join "." (text :: path) =
        Text.join "." ((givenText? site).toList ++ step :: path) := by
    unfold childSite
    cases givenText? site with
    | none => exact ⟨step, rfl, if_neg hstep, fun path => rfl⟩
    | some start =>
      refine ⟨start ++ "." ++ step, rfl, if_neg ?_, ?_⟩
      · intro h
        exact absurd (String.append_eq_empty_iff.mp h).2 hstep
      · intro path
        cases path with
        | nil => rfl
        | cons next path =>
          show start ++ "." ++ step ++ "." ++ _ = start ++ "." ++ (step ++ "." ++ _)
          simp only [String.append_assoc]
  obtain ⟨text, hsite, hgiven, hjoin⟩ := hchild
  rw [hsite]
  cases path with
  | nil =>
    show some text = some _
    rw [← hjoin []]
    rfl
  | cons next path =>
    show some _ = some _
    rw [hgiven, ← hjoin (next :: path)]
    rfl

theorem SchemaNode.step_ne_empty {node : SchemaNode} {part : String × SchemaNode}
    (h : part ∈ node.parts) : part.1 ≠ "" := by
  have hnumbered : ∀ (composition : String) (nodes : List SchemaNode),
      ∀ part ∈ numberedParts composition 0 nodes, part.1 ≠ "" := by
    intro composition nodes part hpart
    obtain ⟨member, _, rfl⟩ := List.mem_map.mp hpart
    exact fun hempty => absurd (String.append_eq_empty_iff.mp hempty).2 (by decide)
  have hcomposition (s : Schema) : ∀ part ∈ s.compositionParts, part.1 ≠ "" := by
    refine Schema.forall_compositionParts s (fun nodes _ => hnumbered _ nodes)
      (fun nodes _ => hnumbered _ nodes) ?_ (fun _ _ => (by decide : "additionalProperties" ≠ ""))
    intro properties _ part hpart
    obtain ⟨property, _, rfl⟩ := List.mem_map.mp hpart
    exact fun hempty => absurd (String.append_eq_empty_iff.mp hempty).1 (by decide)
  cases node with
  | ref target => cases h
  | inline schema =>
    show part.1 ≠ ""
    have h : part ∈ schema.parts := h
    unfold Schema.parts at h
    split at h
    · obtain ⟨item, _, rfl⟩ := List.mem_map.mp h
      exact (by decide : "items" ≠ "")
    · exact hcomposition schema part h
    · cases h

/-! ## faults -/

/-- What is wrong with a node by itself: an array that says nothing about its items, an enumeration
of strings with a value that is none, or a pointer that leads to no kind of components. -/
inductive FaultAt (site : Option String) : SchemaNode → Failure → Prop
  | items {s : Schema} (hkind : s.kind = .array) (hitems : s.items.toOption = none) :
      FaultAt site (.inline s) (.missingItems site)
  | enum {s : Schema} {values : List Value} (htype : s.typeWord = "string")
      (henum : s.enum = .value values) (hmixed : ∃ v ∈ values, ∀ text, v ≠ .text text) :
      FaultAt site (.inline s) (.mixedEnum values site)
  | pointer {target : String}
      (houtside : ∀ place ∈ referencePrefixes, ¬ place.1.toList <+: target.toList) :
      FaultAt site (.ref target) (.unsupportedReference target)

/-- a node with which something is wrong by itself -/
def Faulty (node : SchemaNode) : Prop := ∃ f, FaultAt none node f

/-- the failure of an enumeration of strings -/
def Schema.enumFault? (s : Schema) (site : Option String) : Option Failure :=
  match s.enum with
  | .value values =>
    if s.typeWord = "string" ∧ values.any (fun v => (enumLiteral? v).isNone) then
      some (.mixedEnum values site)
    else none
  | _ => none

def Schema.fault? (s : Schema) (site : Option String) : Option Failure :=
  match s.kind with
  | .array => if s.items.toOption.isNone then some (.missingItems site) else none
  | .string => s.enumFault? site
  | _ => none

def SchemaNode.fault? (node : SchemaNode) (site : Option String) : Option Failure :=
  match node with
  | .ref target =>
    if (splitReference? target).isNone then some (.unsupportedReference target) else none
  | .inline schema => schema.fault? site

theorem Schema.kind_eq_string {s : Schema} (h : s.typeWord = "string") : s.kind = .string := by
  rw [kind, h]
  decide

theorem enumLiteral?_isNone_iff {v : Value} :
    (enumLiteral? v).isNone = true ↔ ∀ text, v ≠ .text text := by
  unfold enumLiteral?
  split
  · simp
  · rename_i hother
    simp only [Option.isNone_none, true_iff]
    exact hother

theorem splitReference?_eq_none {target : String} : splitReference? target = none ↔
    ∀ place ∈ referencePrefixes, ¬ place.1.toList <+: target.toList := by
  rw [splitReference?, List.findSome?_eq_none_iff]
  refine forall₂_congr fun place _ => ?_
  rw [Option.map_eq_none_iff, Text.dropStart?_eq_none_iff]

theorem SchemaNode.fault?_eq_some {node : SchemaNode} {site : Option String} {f : Failure} :
    node.fault? site = some f ↔ FaultAt site node f := by
  constructor
  · intro h
    cases node with
    | ref target =>
      rw [fault?] at h
      split at h
      · rename_i hnone
        cases h
        exact .pointer (splitReference?_eq_none.mp (Option.isNone_iff_eq_none.mp hnone))
      · cases h
    | inline schema =>
      rw [fault?, Schema.fault?] at h
      split at h
      · rename_i hkind
        split at h
        · rename_i hnone
          cases h
          exact .items hkind (Option.isNone_iff_eq_none.mp hnone)
        · cases h
      · rw [Schema.enumFault?] at h
        split at h
        · rename_i values henum
          split at h
          · rename_i hmixed
            cases h
            obtain ⟨v, hv, hnone⟩ := List.any_eq_true.mp hmixed.2
            exact .enum hmixed.1 henum ⟨v, hv, enumLiteral?_isNone_iff.mp hnone⟩
          · cases h
        · cases h
      · cases h
  · intro h
    cases h with
    | items hkind hitems => rw [fault?, Schema.fault?, hkind, hitems]; rfl
    | @enum s values htype henum hmixed =>
      obtain ⟨v, hv, hnone⟩ := hmixed
      have hany : (values.any fun v => (enumLiteral? v).isNone) = true :=
        List.any_eq_true.mpr ⟨v, hv, enumLiteral?_isNone_iff.mpr hnone⟩
      rw [fault?, Schema.fault?, Schema.kind_eq_string htype]
      show s.enumFault? site = _
      rw [Schema.enumFault?, henum]
      exact if_pos ⟨htype, hany⟩
    | pointer houtside => rw [fault?, splitReference?_eq_none.mpr houtside]; rfl

/-! ## failures -/

def failure? {α : Type} : Except Failure α → Option Failure
  | .ok _ => none
  | .error f => some f

section
variable {α β γ : Type}

theorem failure?_eq_some {x : Except Failure α} {f : Failure} :
    failure? x = some f ↔ x = .error f := by
  cases x <;> simp [failure?]

theorem failure?_eq_none {x : Except Failure α} : failure? x = none ↔ ∃ a, x = .ok a := by
  cases x <;> simp [failure?]

theorem failure?_map (x : Except Failure α) (f : α → β) : failure? (x.map f) = failure? x := by
  cases x <;> rfl

/-- of two steps that do not depend on each other, the first failure counts -/
theorem failure?_two (x : Except Failure α) (y : Except Failure β) (g : α → β → γ) :
    failure? (do let a ← x; let b ← y; return g a b) = (failure? x).or (failure? y) := by
  cases x <;> cases y <;> rfl

end

theorem findSome?_cons_or {α β : Type} (f : α → Option β) (a : α) (rest : List α) :
    (a :: rest).findSome? f = (f a).or (rest.findSome? f) := by
  rw [List.findSome?_cons]
  cases f a <;> rfl

def partsFailure (site : Option String) (parts : List (String × SchemaNode)) : Option Failure :=
  parts.findSome? fun part => failure? (nodeType part.2 (childSite site part.1))

theorem partsFailure_cons (site : Option String) (step : String) (node : SchemaNode)
    (parts : List (String × SchemaNode)) : partsFailure site ((step, node) :: parts) =
      (failure? (nodeType node (childSite site step))).or (partsFailure site parts) := by
  rw [partsFailure, findSome?_cons_or]
  rfl

theorem failure?_memberTypes (composition : String) (members : List SchemaNode)
    (site : Option String) (index : Nat) : failure? (memberTypes composition index members site) =
      partsFailure site (numberedParts composition index members) := by
  induction members generalizing index with
  | nil => rfl
  | cons node rest ih =>
    rw [memberTypes, failure?_two, ih]
    exact (partsFailure_cons site _ node _).symm

theorem failure?_fieldTypes (required : List String) (properties : List (String × SchemaNode))
    (site : Option String) : failure? (fieldTypes required properties site) =
      partsFailure site (namedParts properties) := by
  induction properties with
  | nil => rfl
  | cons property rest ih =>
    obtain ⟨name, node⟩ := property
    rw [fieldTypes, failure?_two, ih]
    exact (partsFailure_cons site _ node _).symm

theorem toOption_eq_none {α : Type} {given : Given α} (h : ∀ a, given = .value a → False) :
    given.toOption = none := by
  cases given with
  | value a => exact (h a rfl).elim
  | _ => rfl

/-- an object fails as the parts of its first composition do -/
theorem failure?_objectType (s : Schema) (site : Option String) :
    failure? (s.objectType site) = partsFailure site s.compositionParts := by
  obtain ⟨type, enum, items, properties, required, additional, allOf, oneOf, nullable, extras⟩ := s
  unfold Schema.objectType Schema.compositionParts
  dsimp only
  split
  · exact (failure?_map _ _).trans (failure?_memberTypes _ _ site 0)
  · rename_i hallOf
    rw [Schema.shape, isFilled_eq_false hallOf]
    exact (failure?_map _ _).trans (failure?_memberTypes _ _ site 0)
  · rename_i hallOf honeOf
    rw [Schema.shape, isFilled_eq_false hallOf, isFilled_eq_false honeOf]
    exact (failure?_map _ _).trans (failure?_fieldTypes _ _ site)
  · rename_i node hallOf honeOf hproperties
    rw [Schema.shape, isFilled_eq_false hallOf, isFilled_eq_false honeOf]
    dsimp only
    rw [toOption_eq_none hproperties, partsFailure_cons]
    exact (failure?_map _ _).trans (Option.or_none).symm
  · rename_i hallOf honeOf hproperties hadditional
    rw [Schema.shape, isFilled_eq_false hallOf, isFilled_eq_false honeOf]
    dsimp only
    rw [toOption_eq_none hproperties]
    -- other properties are allowed, forbidden or not mentioned, and nothing of this can fail
    match additional with
    | .value (.node node) => exact (hadditional node rfl).elim
    | .value (.flag true) => rfl
    | .value (.flag false) | .null | .absent =>
      show failure? (bodyType .object (if _ = "object" then .empty else .unknown) _ site) = none
      split <;> rfl

theorem failure?_arrayType (s : Schema) (site : Option String) : failure? (s.arrayType site) =
    (if s.items.toOption.isNone then some (.missingItems site) else none).or
      (partsFailure site (s.items.toOption.toList.map fun node => ("items", node))) := by
  obtain ⟨type, enum, items, properties, required, additional, allOf, oneOf, nullable, extras⟩ := s
  cases items with
  | value node =>
    show failure? ((nodeType node (childSite site "items")).map arrayOf) =
      partsFailure site [("items", node)]
    rw [failure?_map, partsFailure_cons]
    exact Option.or_none.symm
  | _ => rfl

theorem failure?_enumType (values : List Value) (site : Option String) :
    failure? (enumType values site) =
      if values.any (fun v => (enumLiteral? v).isNone) then some (.mixedEnum values site)
      else none := by
  rw [enumType_eq]
  by_cases hmixed : (values.any fun v => (enumLiteral? v).isNone) = true
  · have hlength : ¬ (values.filterMap enumLiteral?).length = values.length := by
      intro hlength
      obtain ⟨v, hv, hnone⟩ := List.any_eq_true.mp hmixed
      have hsome := List.filterMap_length_eq_length.mp hlength v hv
      rw [Option.isNone_iff_eq_none.mp hnone] at hsome
      cases hsome
    rw [if_neg hlength, if_pos hmixed]
    rfl
  · have hlength : (values.filterMap enumLiteral?).length = values.length := by
      refine List.filterMap_length_eq_length.mpr fun v hv => ?_
      rw [← Option.not_isNone, Bool.not_eq_true']
      exact Bool.eq_false_iff.mpr fun hnone => hmixed (List.any_eq_true.mpr ⟨v, hv, hnone⟩)
    rw [if_pos hlength, if_neg hmixed]
    rfl

theorem failure?_stringType (s : Schema) (site : Option String) :
    failure? (bodyType .string s.shape s site) = s.enumFault? site := by
  have hbody : bodyType .string s.shape s site =
      stringType (s.typeWord == "string") s.enum site := by
    cases s
    rfl
  rw [hbody, Schema.enumFault?]
  cases s.enum with
  | value values =>
    by_cases htype : s.typeWord = "string"
    · rw [beq_iff_eq.mpr htype]
      cases values with
      | nil => exact (if_neg fun hmixed => Bool.false_ne_true hmixed.2).symm
      | cons v rest =>
        simp only [htype, true_and]
        exact failure?_enumType (v :: rest) site
    · rw [beq_eq_false_iff_ne.mpr htype]
      exact (if_neg fun hmixed => htype hmixed.1).symm
  | _ => cases s.typeWord == "string" <;> rfl

/-- a node fails because of what is wrong with itself, or else because of its first part that
fails -/
theorem failure?_nodeType_parts (node : SchemaNode) (site : Option String) :
    failure? (nodeType node site) = (node.fault? site).or (partsFailure site node.parts) := by
  cases node with
  | ref target =>
    show failure? (referenceType target) =
      (if (splitReference? target).isNone then some (Failure.unsupportedReference target)
        else none).or none
    unfold referenceType
    cases splitReference? target <;> rfl
  | inline schema =>
    show failure? (nodeType (.inline schema) site) =
      (schema.fault? site).or (partsFailure site schema.parts)
    rw [nodeType, failure?_map]
    unfold Schema.fault? Schema.parts
    cases hkind : schema.kind with
    | array => exact failure?_arrayType schema site
    | object => exact failure?_objectType schema site
    | string => exact (failure?_stringType schema site).trans Option.or_none.symm
    | _ => cases schema; rfl

/-- the failure of some parts is the first one on the walks through them -/
theorem findSome?_walks {site : Option String} {parts : List (String × SchemaNode)}
    (hsteps : ∀ part ∈ parts, part.1 ≠ "")
    (hwalks : ∀ part ∈ parts, ∀ site, failure? (nodeType part.2 site) =
      part.2.visited.findSome? fun v => v.2.fault? (siteAt site v.1)) :
    (parts.flatMap fun part => part.2.visited.map fun v => (part.1 :: v.1, v.2)).findSome?
        (fun v => v.2.fault? (siteAt site v.1)) = partsFailure site parts := by
  induction parts with
  | nil => rfl
  | cons part rest ih =>
    obtain ⟨step, node⟩ := part
    have hfirst : ((node.visited.map fun v => (step :: v.1, v.2)).findSome?
        fun v => v.2.fault? (siteAt site v.1)) =
          failure? (nodeType node (childSite site step)) := by
      rw [hwalks _ List.mem_cons_self, List.findSome?_map]
      simp only [siteAt_cons site (hsteps _ List.mem_cons_self)]
      rfl
    rw [List.flatMap_cons, List.findSome?_append, hfirst, partsFailure_cons,
      ih (fun part hpart => hsteps part (List.mem_cons_of_mem _ hpart))
        fun part hpart => hwalks part (List.mem_cons_of_mem _ hpart)]

/-- **The failure of a node is that of the first fault on the walk through it, with the path that
leads there.** -/
theorem failure?_nodeType (node : SchemaNode) (site : Option String) :
    failure? (nodeType node site) =
      node.visited.findSome? fun v => v.2.fault? (siteAt site v.1) := by
  rw [failure?_nodeType_parts, SchemaNode.visited_eq, findSome?_cons_or,
    findSome?_walks (fun _ => SchemaNode.step_ne_empty) fun part _ => failure?_nodeType part.2]
  rfl
termination_by sizeOf node
decreasing_by exact SchemaNode.sizeOf_parts ‹_›

/-- what is wrong with a node does not depend on its site -/
theorem FaultAt.faulty {node : SchemaNode} {site : Option String} {f : Failure}
    (h : FaultAt site node f) (site' : Option String) : ∃ g, FaultAt site' node g := by
  cases h with
  | items hkind hitems => exact ⟨_, .items hkind hitems⟩
  | enum htype henum hmixed => exact ⟨_, .enum htype henum hmixed⟩
  | pointer houtside => exact ⟨_, .pointer houtside⟩

/-- a fault of a schema is reported with its site -/
theorem FaultAt.context {s : Schema} {site : Option String} {f : Failure}
    (h : FaultAt site (.inline s) f) : f.context = site := by
  cases h <;> rfl

theorem SchemaNode.fault?_eq_none {node : SchemaNode} {site : Option String} :
    node.fault? site = none ↔ ¬ Faulty node := by
  rw [Option.eq_none_iff_forall_ne_some]
  constructor
  · rintro h ⟨f, hf⟩
    obtain ⟨g, hg⟩ := hf.faulty site
    exact h g (fault?_eq_some.mpr hg)
  · intro h f hf
    exact h ((fault?_eq_some.mp hf).faulty none)

/-- **A schema node has a type if and only if nothing on the walk through it is wrong by itself;
otherwise the first fault of the walk is reported, with the path that leads to it.** -/
theorem nodeType_fails_at_first_fault (node : SchemaNode) (site : Option String) :
    ((∃ text, nodeType node site = .ok text) ↔ ∀ v ∈ node.visited, ¬ Faulty v.2) ∧
      ∀ f, nodeType node site = .error f ↔ ∃ before path fault after,
        node.visited = before ++ (path, fault) :: after ∧ (∀ v ∈ before, ¬ Faulty v.2) ∧
          FaultAt (siteAt site path) fault f ∧
            ∀ s, fault = .inline s → f.context = siteAt site path := by
  constructor
  · rw [← failure?_eq_none, failure?_nodeType, List.findSome?_eq_none_iff]
    exact forall₂_congr fun v _ => SchemaNode.fault?_eq_none
  · intro f
    rw [← failure?_eq_some, failure?_nodeType, List.findSome?_eq_some_iff]
    simp only [SchemaNode.fault?_eq_none, SchemaNode.fault?_eq_some]
    constructor
    · rintro ⟨before, ⟨path, fault⟩, after, hvisited, hfault, hbefore⟩
      refine ⟨before, path, fault, after, hvisited, hbefore, hfault, ?_⟩
      rintro s rfl
      exact hfault.context
    · rintro ⟨before, path, fault, after, hvisited, hbefore, hfault, _⟩
      exact ⟨before, (path, fault), after, hvisited, hfault, hbefore⟩

example : (failure? (nodeType (.inline { Schema.empty with
      allOf := .value [.ref "#/components/schemas/Pet", .inline { Schema.empty with
        properties := .value [("tags", .inline { Schema.empty with
          type := .value "Array" })] }] }) (some "Store"))).bind Failure.context =
    some "Store.allOf[1].properties.tags" := by
  decide +kernel

end ApiBindings
