import ApiBindings.Proofs.Document.Extent
import ApiBindings.Proofs.Document.Lookup
import ApiBindings.Proofs.OpenApi.ReadOperation
import ApiBindings.Proofs.OpenApi.ReadSchema
import ApiBindings.Synthesis.Nesting

/-!
# Nesting of schemas that are read

A schema is nested no deeper than the value that it was read from: a level of the value adds the
steps of one part, and an alternative, which adds more, stands two levels below its schema.  So the
type of what is read off a value of ordinary extent is made in full.

* `nodeNesting_le_depth`         the bound, by induction on the value;
* `limitedType_eq_of_ordinary`   nodes, objects and arrays within the limit.
-/

namespace ApiBindings

/-! ## parts -/

theorem deepestMember_le {steps bound : Nat} {nodes : List SchemaNode}
    (h : ∀ node ∈ nodes, steps + nodeNesting node ≤ bound) : deepestMember steps nodes ≤ bound := by
  induction nodes with
  | nil => exact Nat.zero_le _
  | cons node rest ih =>
    rw [deepestMember]
    exact Nat.max_le.mpr
      ⟨h node List.mem_cons_self, ih fun node hnode => h node (List.mem_cons_of_mem _ hnode)⟩

theorem deepestProperty_le {bound : Nat} {properties : List (String × SchemaNode)}
    (h : ∀ property ∈ properties, partSteps + nodeNesting property.2 ≤ bound) :
    deepestProperty properties ≤ bound := by
  induction properties with
  | nil => exact Nat.zero_le _
  | cons property rest ih =>
    rw [deepestProperty]
    exact Nat.max_le.mpr
      ⟨h property List.mem_cons_self, ih fun p hp => h p (List.mem_cons_of_mem _ hp)⟩

namespace SchemaNode

variable {alternatives : String} {v : Value}

/-- what is read off a value, wherever nodes may stand, is nested no deeper than the value -/
structure NestedWithin (alternatives : String) (v : Value) : Prop where
  node : ∀ node, read alternatives v = .ok node → nodeNesting node ≤ partSteps * v.depth
  members : ∀ nodes, readAll alternatives v = .ok nodes →
    ∀ node ∈ nodes, nodeNesting node + partSteps ≤ partSteps * v.depth
  properties : ∀ nodes, readMap alternatives v = .ok nodes →
    ∀ property ∈ nodes, nodeNesting property.2 + partSteps ≤ partSteps * v.depth

/-! The parts of a schema that were read from values in `fields`. -/

section
variable {fields : Fields} (hvalues : ∀ entry ∈ fields, NestedWithin alternatives entry.2)
include hvalues

theorem nestedWithin_of_given {key : String} {w : Value} (hw : fields.given key = .value w) :
    NestedWithin alternatives w ∧ w.depth ≤ Value.deepestField fields := by
  have hmem := Fields.mem_of_get? (Fields.given_eq_value.mp hw).1
  exact ⟨hvalues _ hmem, Value.depth_le_of_mem hmem⟩

theorem itemsNesting_le {items : Given SchemaNode}
    (h : Given.Rel (fun v node => read alternatives v = .ok node) (fields.given "items") items) :
    itemsNesting items ≤ partSteps * (Value.deepestField fields + 1) := by
  cases hw : fields.given "items" <;> rw [hw] at h <;> cases h
  case value.value w node hread =>
    obtain ⟨hwithin, hle⟩ := nestedWithin_of_given hvalues hw
    have hnode := hwithin.node node hread
    simp only [itemsNesting, partSteps] at hnode ⊢
    omega
  all_goals exact Nat.zero_le _

theorem membersNesting_le {key : String} {steps : Nat} {members : Given (List SchemaNode)}
    (hsteps : steps ≤ 2 * partSteps)
    (h : Given.Rel (fun v nodes => readAll alternatives v = .ok nodes) (fields.given key)
      members) :
    membersNesting steps members ≤ partSteps * (Value.deepestField fields + 1) := by
  cases hw : fields.given key <;> rw [hw] at h <;> cases h
  case value.value w nodes hread =>
    obtain ⟨hwithin, hle⟩ := nestedWithin_of_given hvalues hw
    refine deepestMember_le fun node hmem => ?_
    have hnode := hwithin.members nodes hread node hmem
    simp only [partSteps] at hsteps hnode ⊢
    omega
  all_goals exact Nat.zero_le _

theorem propertiesNesting_le {properties : Given (List (String × SchemaNode))}
    (h : Given.Rel (fun v nodes => readMap alternatives v = .ok nodes)
      (fields.given "properties") properties) :
    propertiesNesting properties ≤ partSteps * (Value.deepestField fields + 1) := by
  cases hw : fields.given "properties" <;> rw [hw] at h <;> cases h
  case value.value w nodes hread =>
    obtain ⟨hwithin, hle⟩ := nestedWithin_of_given hvalues hw
    refine deepestProperty_le fun property hmem => ?_
    have hnode := hwithin.properties nodes hread property hmem
    simp only [partSteps] at hnode ⊢
    omega
  all_goals exact Nat.zero_le _

theorem additionalNesting_le {additional : Given (Additional SchemaNode)}
    (h : Given.Rel (fun v other => readFlagOr alternatives v (read alternatives v) = .ok other)
      (fields.given "additionalProperties") additional) :
    additionalNesting additional ≤ partSteps * (Value.deepestField fields + 1) := by
  cases hw : fields.given "additionalProperties" <;> rw [hw] at h <;> cases h
  case value.value w other hread =>
    obtain ⟨hwithin, hle⟩ := nestedWithin_of_given hvalues hw
    rcases readFlagOr_eq_ok.mp hread with ⟨b, _, rfl⟩ | ⟨_, node, hnode, rfl⟩
    · exact Nat.zero_le _
    · have hnode := hwithin.node node hnode
      simp only [additionalNesting, partSteps] at hnode ⊢
      omega
  all_goals exact Nat.zero_le _

theorem bodyNesting_le {s : Schema} (h : Schema.ReadFrom alternatives fields s) (kind : Kind)
    (shape : Shape) : bodyNesting kind shape s ≤ partSteps * (Value.map fields).depth := by
  obtain ⟨type, enum, items, properties, required, additional, allOf, oneOf, nullable, extras⟩ := s
  cases kind with
  | array => exact itemsNesting_le hvalues h.items
  | object =>
    cases shape with
    | allOf => exact membersNesting_le hvalues (by decide) h.allOf
    | oneOf => exact membersNesting_le hvalues (by decide) h.oneOf
    | properties => exact propertiesNesting_le hvalues h.properties
    | additionalProperties => exact additionalNesting_le hvalues h.additional
    | _ => exact Nat.zero_le _
  | _ => exact Nat.zero_le _

end

theorem nestedWithin_members {items : List Value} (bound : Nat)
    (hitems : ∀ w ∈ items, NestedWithin alternatives w ∧ w.depth ≤ bound)
    {nodes : List SchemaNode}
    (h : List.Forall₂ (fun v node => read alternatives v = .ok node) items nodes) :
    ∀ node ∈ nodes, nodeNesting node + partSteps ≤ partSteps * (bound + 1) := by
  intro node hmem
  obtain ⟨w, hw, hread⟩ := exists_mem_of_forall₂ h.flip hmem
  obtain ⟨hwithin, hle⟩ := hitems w hw
  have hnode := hwithin.node node hread
  simp only [partSteps] at hnode ⊢
  omega

theorem nestedWithin_atom (a : Atom) : NestedWithin alternatives (.atom a) :=
  ⟨nofun, nofun, nofun⟩

theorem nestedWithin (alternatives : String) (v : Value) : NestedWithin alternatives v := by
  induction v using Value.induction with
  | atom a => exact nestedWithin_atom a
  | list items ih =>
    refine ⟨nofun, fun nodes h => ?_, nofun⟩
    exact nestedWithin_members _
      (fun w hw => ⟨ih w hw, Value.depth_le_of_mem_items hw⟩) (readAll_list_eq_ok.mp h)
  | map fields ih =>
    refine ⟨fun node h => ?_, nofun, fun nodes h property hmem => ?_⟩
    · rcases read_map_eq_ok.mp h with ⟨_, target, _, rfl⟩ | ⟨_, s, hs, rfl⟩
      · exact Nat.zero_le _
      · exact bodyNesting_le ih hs _ _
    · obtain ⟨_, entries, heq, hentries, rfl⟩ := readMap_eq_ok.mp h
      cases heq
      obtain ⟨entry, hentry, _, hread⟩ :=
        exists_mem_of_forall₂ (readEntries_eq_ok.mp hentries).flip (mem_of_mem_mergeEntries hmem)
      have hnode := (ih entry hentry).node _ hread
      have hle := Value.depth_le_of_mem hentry
      simp only [partSteps, Value.depth] at hnode ⊢
      omega
  | set members =>
    refine ⟨nofun, fun nodes h => ?_, nofun⟩
    rw [readAll_eq, readList, items?] at h
    refine nestedWithin_members 0 (fun w hw => ?_) (all_zipIdx_eq_ok.mp h)
    obtain ⟨a, _, rfl⟩ := List.mem_map.mp hw
    exact ⟨nestedWithin_atom a, Nat.le_refl 0⟩

theorem bodyNesting_le_depth {s : Schema} (h : read alternatives v = .ok (.inline s)) (kind : Kind)
    (shape : Shape) : bodyNesting kind shape s ≤ partSteps * v.depth := by
  cases v with
  | map fields =>
    rcases read_map_eq_ok.mp h with ⟨_, _, _, heq⟩ | ⟨_, s', hs, heq⟩
    · cases heq
    · cases heq
      exact bodyNesting_le (fun entry _ => nestedWithin alternatives entry.2) hs kind shape
  | _ => exact (Checked.error_ne_ok h).elim

theorem nodeNesting_le_depth {node : SchemaNode} (h : read alternatives v = .ok node) :
    nodeNesting node ≤ partSteps * v.depth :=
  (nestedWithin alternatives v).node node h

end SchemaNode

/-! ## limits -/

theorem withinLimit_of_le {nesting : Nat} (h : nesting ≤ nestingLimit)
    (type : Except Failure String) : withinLimit nesting type = .ofFailure type := if_pos h

theorem steps_le_limit_of_ordinary {v : Value} (h : v.Ordinary) :
    partSteps * v.depth ≤ nestingLimit :=
  Nat.le_trans (Nat.mul_le_mul_left partSteps h.depth) (by decide)

/-- what is read off an ordinary value is within the limit, whatever kind it is taken for -/
theorem limitedType_eq_of_ordinary {alternatives : String} {v : Value} (h : v.Ordinary)
    {node : SchemaNode} (hread : SchemaNode.read alternatives v = .ok node)
    (site : Option String) :
    limitedNodeType node site = .ofFailure (nodeType node site) ∧
      limitedObjectType node site = .ofFailure (objectNodeType node site) ∧
      ∀ schema, node = .inline schema →
        limitedArrayType schema site = .ofFailure (schema.arrayType site) := by
  have hlimit := steps_le_limit_of_ordinary h
  refine ⟨withinLimit_of_le (Nat.le_trans (SchemaNode.nodeNesting_le_depth hread) hlimit) _, ?_, ?_⟩
  · refine withinLimit_of_le ?_ _
    cases node with
    | ref target => exact Nat.zero_le _
    | inline s => exact Nat.le_trans (SchemaNode.bodyNesting_le_depth hread _ _) hlimit
  · rintro s rfl
    exact withinLimit_of_le (Nat.le_trans (SchemaNode.bodyNesting_le_depth hread _ _) hlimit) _

end ApiBindings
