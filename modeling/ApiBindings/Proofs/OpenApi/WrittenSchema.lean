import ApiBindings.Proofs.OpenApi.Bare
import ApiBindings.Proofs.OpenApi.WrittenFields

/-!
# Reading back schemas that are written

What was read off a document is written as a value, off which the same is read again.

* `ReadsBack`                a writer whose values are read back, and how lists and mappings are;
* `ObjectReadsBack`          the same of an object, or of a pointer to one;
* `SchemaNode.readsBack`     schemas, by induction on the document.
-/

namespace ApiBindings

variable {α : Type}

def ReadsBack (read : Value → Checked α) (write : α → Value) : Prop :=
  ∀ v a, read v = .ok a → read (write a) = .ok a

def NeverNull (write : α → Value) : Prop := ∀ a, write a ≠ .null

/-! ## values, lists and mappings -/

section
variable {read : Value → Checked α} {write : α → Value}

theorem readsBack_text : ReadsBack readText .text := fun _ _ _ => rfl

theorem readsBack_bool : ReadsBack readBoolean .bool := fun _ _ _ => rfl

theorem exists_items_of_readList {v : Value} {as : List α} (h : readList read v = .ok as) :
    ∃ items, List.Forall₂ (fun v a => read v = .ok a) items as := by
  unfold readList at h
  split at h
  · exact ⟨_, all_zipIdx_eq_ok.mp h⟩
  · exact (Checked.error_ne_ok h).elim

theorem readList_written {as : List α} (h : ∀ a ∈ as, read (write a) = .ok a) :
    readList read (writeList write as) = .ok as :=
  readList_list_eq_ok.mpr (List.forall₂_map_left_iff.mpr (List.forall₂_same.mpr h))

theorem ReadsBack.list (h : ReadsBack read write) :
    ReadsBack (readList read) (writeList write) := by
  intro v as has
  obtain ⟨items, hitems⟩ := exists_items_of_readList has
  refine readList_written fun a ha => ?_
  obtain ⟨w, _, hw⟩ := exists_mem_of_forall₂ hitems.flip ha
  exact h w a hw

theorem readMapping_written (back : α → α) {entries : List (String × α)}
    (hkeys : (entries.map (·.1)).Nodup)
    (h : ∀ entry ∈ entries, read (write entry.2) = .ok (back entry.2)) :
    readMapping read (writeMapping write entries) = .ok (mapValues back entries) := by
  have hfields : writeMapping write entries =
      .map (entries.map fun entry => (Atom.string entry.1, write entry.2)) := by
    rw [writeMapping, Value.object, List.map_map]
    rfl
  have hall : Checked.all ((entries.map fun entry => (Atom.string entry.1, write entry.2)).map
      (readEntry read)) = .ok (mapValues back entries) := by
    rw [List.map_map]
    refine all_map_ok fun entry hentry => ?_
    refine Checked.app_eq_ok.mpr ⟨Prod.mk entry.1, back entry.2, rfl, ?_, rfl⟩
    exact Checked.at_eq_ok.mpr (h entry hentry)
  have hnodup : ((mapValues back entries).map (·.1)).Nodup := by
    rw [mapValues, List.map_map]
    exact hkeys
  rw [hfields]
  refine (congrArg (Checked.map mergeEntries) hall).trans ?_
  exact congrArg Except.ok (mergeEntries_eq hnodup)

/-- what was read off a mapping stands under different keys -/
theorem readMapping_results {v : Value} {entries : List (String × α)}
    (h : readMapping read v = .ok entries) :
    (entries.map (·.1)).Nodup ∧ ∀ entry ∈ entries, ∃ w, read w = .ok entry.2 := by
  obtain ⟨fields, results, rfl, hresults, rfl⟩ := readMapping_eq_ok h
  refine ⟨nodup_keys_mergeEntries results, fun entry hentry => ?_⟩
  obtain ⟨w, _, hw⟩ := exists_mem_of_forall₂ hresults.flip (mem_of_mem_mergeEntries hentry)
  exact ⟨w.2, hw.2⟩

theorem mapValues_id (entries : List (String × α)) : mapValues id entries = entries :=
  List.map_id entries

theorem ReadsBack.mapping (h : ReadsBack read write) :
    ReadsBack (readMapping read) (writeMapping write) := by
  intro v entries hentries
  obtain ⟨hkeys, hread⟩ := readMapping_results hentries
  have hback := readMapping_written id hkeys fun entry hentry => by
    obtain ⟨w, hw⟩ := hread entry hentry
    exact h w entry.2 hw
  rwa [mapValues_id] at hback

end

/-! ## parts of an object -/

theorem Given.Rel.exists_value {β γ : Type} {R : β → γ → Prop} {x : Given β} {c : γ}
    (h : Rel R x (.value c)) : ∃ b, x = .value b ∧ R b c := by
  cases h with
  | value hbc => exact ⟨_, rfl, hbc⟩

namespace PartsApart

variable {keys : List String} {parts : List (String × Given Value)}
  {extras : List (String × Value)} {key : String} {read : Value → Checked α} {write : α → Value}

theorem optionalField_of (h : PartsApart keys parts extras) {given : Given α}
    (hpart : (key, given.map write) ∈ parts) (hnull : NeverNull write)
    (hback : ∀ a, given = .value a → read (write a) = .ok a) :
    optionalField read (writtenFields parts extras) key = .ok given := by
  have hget := h.get?_written hpart
  rw [optionalField_eq_ok]
  cases given with
  | absent =>
    rw [Fields.given, hget]
    exact .absent
  | null =>
    rw [Fields.given, hget]
    exact .null
  | value a =>
    rw [Fields.given_eq_value.mpr ⟨hget, hnull a⟩]
    exact .value (hback a rfl)

theorem optionalField_eq (h : PartsApart keys parts extras) {given : Given α}
    (hpart : (key, given.map write) ∈ parts) (hnull : NeverNull write)
    (hback : ReadsBack read write) {fields : Fields} {key' : String}
    (hread : optionalField read fields key' = .ok given) :
    optionalField read (writtenFields parts extras) key = .ok given := by
  refine h.optionalField_of hpart hnull fun a ha => ?_
  obtain ⟨v, _, hv⟩ := (ha ▸ optionalField_eq_ok.mp hread).exists_value
  exact hback v a hv

theorem requiredField_eq (h : PartsApart keys parts extras) {v : Value} {a : α}
    (hpart : (key, .value v) ∈ parts) (hback : read v = .ok a) :
    requiredField read (writtenFields parts extras) key = .ok a := by
  rw [requiredField, h.get?_written hpart]
  exact Checked.at_eq_ok.mpr hback

end PartsApart

/-! ## objects -/

/-- an object that is read back, and not as a pointer unless it was one -/
def ObjectReadsBack (read : Value → Checked α) (write : α → Value) : Prop :=
  ∀ v a, read v = .ok a → ∃ fields fields' : Fields, v = .map fields ∧ write a = .map fields' ∧
    read (.map fields') = .ok a ∧ (fields.has "$ref" = false → fields'.has "$ref" = false)

theorem ObjectReadsBack.readsBack {read : Value → Checked α} {write : α → Value}
    (h : ObjectReadsBack read write) : ReadsBack read write := by
  intro v a ha
  obtain ⟨_, fields', _, hwrite, hback, _⟩ := h v a ha
  rw [hwrite]
  exact hback

theorem readReferable_pointer (read : Value → Checked α) (target : String) :
    readReferable read (writeReference target) = .ok (.ref target) := rfl

theorem ObjectReadsBack.referable {read : Value → Checked α} {write : α → Value}
    (h : ObjectReadsBack read write) :
    ReadsBack (readReferable read) (Referable.written write) := by
  intro v x hx
  have hmap : ∃ fields, v = .map fields := by
    cases v with
    | map fields => exact ⟨fields, rfl⟩
    | _ =>
      obtain ⟨a, ha, _⟩ := Checked.map_eq_ok.mp (Checked.at_eq_ok.mp hx)
      obtain ⟨fields, _, heq, _⟩ := h _ a ha
      cases heq
  obtain ⟨fields, rfl⟩ := hmap
  rcases readReferable_eq_ok hx with ⟨_, target, _, rfl⟩ | ⟨hhas, a, ha, rfl⟩
  · exact readReferable_pointer read target
  · obtain ⟨_, fields', heq, hwrite, hback, hpointer⟩ := h _ a ha
    cases heq
    rw [Referable.written, hwrite, readReferable, hpointer hhas, if_neg Bool.false_ne_true, hback]
    rfl

/-! ## schemas -/

def Additional.written (write : α → Value) : Additional α → Value
  | .flag allowed => .bool allowed
  | .node schema => write schema

theorem writtenNode_eq (key : String) (given : Given SchemaNode) :
    writtenNode key given = given.entry key SchemaNode.written := by
  cases given <;> rfl

theorem writtenNodes_eq (nodes : List SchemaNode) :
    writtenNodes nodes = nodes.map SchemaNode.written := by
  induction nodes with
  | nil => rfl
  | cons node rest ih => rw [writtenNodes, ih, List.map_cons]

theorem writtenEntries_eq (entries : List (String × SchemaNode)) :
    writtenEntries entries = mapValues SchemaNode.written entries := by
  induction entries with
  | nil => rfl
  | cons entry rest ih =>
    rw [writtenEntries, ih]
    rfl

theorem writtenProperties_eq (given : Given (List (String × SchemaNode))) :
    writtenProperties given = given.entry "properties" (writeMapping SchemaNode.written) := by
  cases given with
  | value entries =>
    rw [writtenProperties, writtenEntries_eq]
    rfl
  | _ => rfl

theorem writtenMembers_eq (key : String) (given : Given (List SchemaNode)) :
    writtenMembers key given = given.entry key (writeList SchemaNode.written) := by
  cases given with
  | value nodes =>
    rw [writtenMembers, writtenNodes_eq]
    rfl
  | _ => rfl

theorem writtenAdditional_eq (given : Given (Additional SchemaNode)) :
    writtenAdditional given =
      given.entry "additionalProperties" (Additional.written SchemaNode.written) := by
  cases given with
  | value other => cases other <;> rfl
  | _ => rfl

theorem Schema.written_isMap (s : Schema) : ∃ fields, s.written = .map fields := by
  cases s
  exact ⟨_, rfl⟩

theorem SchemaNode.written_isMap (node : SchemaNode) : ∃ fields, node.written = .map fields := by
  cases node with
  | ref target => exact ⟨_, rfl⟩
  | inline s => exact s.written_isMap

theorem neverNull_node : NeverNull SchemaNode.written := by
  intro node h
  obtain ⟨fields, hfields⟩ := node.written_isMap
  rw [hfields] at h
  cases h

theorem neverNull_additional : NeverNull (Additional.written SchemaNode.written) := by
  rintro (b | node) h
  · cases h
  · exact neverNull_node node h

theorem neverNull_text : NeverNull .text := fun _ h => nomatch h

theorem neverNull_bool : NeverNull .bool := fun _ h => nomatch h

theorem neverNull_list : NeverNull .list := fun _ h => nomatch h

theorem neverNull_writeList (write : α → Value) : NeverNull (writeList write) :=
  fun _ h => nomatch h

theorem neverNull_writeMapping (write : α → Value) : NeverNull (writeMapping write) :=
  fun _ h => nomatch h

namespace Schema

def writtenParts (s : Schema) : List (String × Given Value) :=
  [("type", s.type.map .text), ("enum", s.enum.map .list),
    ("items", s.items.map SchemaNode.written),
    ("properties", s.properties.map (writeMapping SchemaNode.written)),
    ("required", s.required.map (writeList .text)),
    ("additionalProperties", s.additional.map (Additional.written SchemaNode.written)),
    ("allOf", s.allOf.map (writeList SchemaNode.written)),
    ("oneOf", s.oneOf.map (writeList SchemaNode.written)), ("nullable", s.nullable.map .bool)]

theorem written_eq (s : Schema) : s.written = .map (writtenFields s.writtenParts s.extras) := by
  cases s
  simp only [written, writtenNode_eq, writtenProperties_eq, writtenMembers_eq,
    writtenAdditional_eq, writtenParts, writtenFields, keyed, List.flatMap_cons, List.flatMap_nil,
    entry_map, List.append_nil, List.append_assoc]
  rfl

end Schema

namespace SchemaNode

variable {alternatives : String}

/-- what is read off a value, wherever nodes may stand, is read back -/
structure WrittenBack (alternatives : String) (v : Value) : Prop where
  node : ∀ node, read alternatives v = .ok node → read alternatives node.written = .ok node
  members : ∀ nodes, readAll alternatives v = .ok nodes →
    ∀ node ∈ nodes, read alternatives node.written = .ok node
  properties : ∀ nodes, readMap alternatives v = .ok nodes →
    (nodes.map (·.1)).Nodup ∧ ∀ entry ∈ nodes, read alternatives entry.2.written = .ok entry.2

theorem readAll_written {nodes : List SchemaNode}
    (h : ∀ node ∈ nodes, read alternatives node.written = .ok node) :
    readAll alternatives (writeList written nodes) = .ok nodes := by
  rw [readAll_eq]
  exact readList_written h

theorem readFlagOr_written {other : Additional SchemaNode}
    (h : ∀ node, other = .node node → read alternatives node.written = .ok node) :
    readFlagOr alternatives (other.written written)
      (read alternatives (other.written written)) = .ok other := by
  cases other with
  | flag b => exact readFlagOr_eq_ok.mpr (.inl ⟨b, rfl, rfl⟩)
  | node n =>
    refine readFlagOr_eq_ok.mpr (.inr ⟨fun b hb => ?_, n, h n rfl, rfl⟩)
    obtain ⟨fields, hfields⟩ := n.written_isMap
    rw [Additional.written, hfields] at hb
    exact Checked.error_ne_ok hb

theorem read_written_of_parts {fields : Fields} {s : Schema}
    (hvalues : ∀ entry ∈ fields, WrittenBack alternatives entry.2)
    (hhas : fields.has "$ref" = false) (h : Schema.ReadFrom alternatives fields s) :
    read alternatives s.written = .ok (.inline s) := by
  have hpart {key : String} {w : Value} (hw : fields.given key = .value w) :
      WrittenBack alternatives w :=
    hvalues _ (Fields.mem_of_get? (Fields.given_eq_value.mp hw).1)
  have hmembers {key : String} {given : Given (List SchemaNode)}
      (hrel : Given.Rel (fun v nodes => readAll alternatives v = .ok nodes) (fields.given key)
        given) (nodes : List SchemaNode) (hnodes : given = .value nodes) :
      readAll alternatives (writeList written nodes) = .ok nodes := by
    obtain ⟨w, hw, hread⟩ := (hnodes ▸ hrel).exists_value
    exact readAll_written ((hpart hw).members nodes hread)
  have hapart : PartsApart Schema.keys s.writtenParts s.extras :=
    .of_extras rfl (by decide) h.extras
  have hnoRef := hapart.has_written_eq_false h.extras (by decide) hhas
  rw [s.written_eq]
  refine read_map_eq_ok.mpr (.inr ⟨hnoRef, s, ?_, rfl⟩)
  constructor
  case type =>
    refine optionalField_eq_ok.mp (hapart.optionalField_of ?_ neverNull_text fun _ _ => rfl)
    simp [Schema.writtenParts]
  case enum =>
    refine optionalField_eq_ok.mp (hapart.optionalField_of ?_ neverNull_list fun values _ => ?_)
    · simp [Schema.writtenParts]
    · exact readList_list_eq_ok.mpr (List.forall₂_same.mpr fun _ _ => rfl)
  case items =>
    refine optionalField_eq_ok.mp (hapart.optionalField_of ?_ neverNull_node fun node hnode => ?_)
    · simp [Schema.writtenParts]
    · obtain ⟨w, hw, hread⟩ := (hnode ▸ h.items).exists_value
      exact (hpart hw).node node hread
  case properties =>
    refine optionalField_eq_ok.mp
      (hapart.optionalField_of ?_ (neverNull_writeMapping written) fun nodes hnodes => ?_)
    · simp [Schema.writtenParts]
    · obtain ⟨w, hw, hread⟩ := (hnodes ▸ h.properties).exists_value
      obtain ⟨hkeys, hback⟩ := (hpart hw).properties nodes hread
      rw [readMap_eq, readMapping_written id hkeys hback, mapValues_id]
  case required =>
    refine optionalField_eq_ok.mp
      (hapart.optionalField_of ?_ (neverNull_writeList .text) fun names _ => ?_)
    · simp [Schema.writtenParts]
    · exact readList_written fun _ _ => rfl
  case additional =>
    refine optionalField_eq_ok.mp
      (hapart.optionalField_of ?_ neverNull_additional fun other hother => ?_)
    · simp [Schema.writtenParts]
    · obtain ⟨w, hw, hread⟩ := (hother ▸ h.additional).exists_value
      refine readFlagOr_written fun node hnode => ?_
      rcases readFlagOr_eq_ok.mp hread with ⟨b, _, rfl⟩ | ⟨_, node', hnode', rfl⟩
      · cases hnode
      · cases hnode
        exact (hpart hw).node _ hnode'
  case allOf =>
    refine optionalField_eq_ok.mp
      (hapart.optionalField_of ?_ (neverNull_writeList written) (hmembers h.allOf))
    simp [Schema.writtenParts]
  case oneOf =>
    refine optionalField_eq_ok.mp
      (hapart.optionalField_of ?_ (neverNull_writeList written) (hmembers h.oneOf))
    simp [Schema.writtenParts]
  case nullable =>
    refine optionalField_eq_ok.mp (hapart.optionalField_of ?_ neverNull_bool fun _ _ => rfl)
    simp [Schema.writtenParts]
  case extras => exact hapart.readExtras_eq

theorem writtenBack (alternatives : String) (v : Value) : WrittenBack alternatives v := by
  induction v using Value.induction with
  | atom a => exact ⟨nofun, nofun, nofun⟩
  | list items ih =>
    refine ⟨nofun, fun nodes h node hnode => ?_, nofun⟩
    obtain ⟨w, hw, hread⟩ := exists_mem_of_forall₂ (readAll_list_eq_ok.mp h).flip hnode
    exact (ih w hw).node node hread
  | map fields ih =>
    refine ⟨fun node h => ?_, nofun, fun nodes h => ?_⟩
    · rcases read_map_eq_ok.mp h with ⟨_, target, _, rfl⟩ | ⟨hhas, s, hs, rfl⟩
      · rfl
      · exact read_written_of_parts ih hhas hs
    · obtain ⟨_, entries, heq, hentries, rfl⟩ := readMap_eq_ok.mp h
      cases heq
      refine ⟨nodup_keys_mergeEntries entries, fun entry hentry => ?_⟩
      obtain ⟨w, hw, _, hread⟩ := exists_mem_of_forall₂ (readEntries_eq_ok.mp hentries).flip
        (mem_of_mem_mergeEntries hentry)
      exact (ih w hw).node _ hread
  | set members =>
    refine ⟨nofun, fun nodes h node hnode => ?_, nofun⟩
    rw [readAll_eq, readList, items?] at h
    obtain ⟨w, hw, hread⟩ := exists_mem_of_forall₂ (all_zipIdx_eq_ok.mp h).flip hnode
    obtain ⟨a, _, rfl⟩ := List.mem_map.mp hw
    exact (Checked.error_ne_ok hread).elim

/-- **Schemas are read back.** -/
theorem readsBack (alternatives : String) : ReadsBack (read alternatives) written :=
  fun v => (writtenBack alternatives v).node

end SchemaNode

end ApiBindings
