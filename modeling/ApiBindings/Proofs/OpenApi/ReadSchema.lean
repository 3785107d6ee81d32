import ApiBindings.OpenApi.ReadSchema
import ApiBindings.Proofs.Document.Fields
import ApiBindings.Proofs.OpenApi.Checked

/-!
# What a schema was read from

The readers of schemas are recursive on the document.  Here every reader is described by the
values that it looks up, with no recursion left.

* `optionalField_eq_ok`          a key that may be left out;
* `Schema.ReadFrom`              the ten parts of a schema and where they come from;
* `SchemaNode.read_map_eq_ok`    a node is a pointer or a schema read from its mapping;
* `SchemaNode.read_eq`, `SchemaNode.readAll_eq`, `SchemaNode.readMap_eq`
                                 nodes are read like any object that a pointer may stand for.
-/

namespace ApiBindings

variable {α β γ δ : Type}

/-! ## keys that may be left out -/

namespace Given

/-- both absent, both null, or both given with related values -/
inductive Rel (R : α → β → Prop) : Given α → Given β → Prop
  | absent : Rel R .absent .absent
  | null : Rel R .null .null
  | value {a : α} {b : β} (h : R a b) : Rel R (.value a) (.value b)

def map (f : α → β) : Given α → Given β
  | .absent => .absent
  | .null => .null
  | .value a => .value (f a)

theorem Rel.map_left {R : γ → β → Prop} {f : α → γ} {x : Given α} {y : Given β}
    (h : Rel (fun a b => R (f a) b) x y) : Rel R (x.map f) y := by
  cases h with
  | absent => exact .absent
  | null => exact .null
  | value hab => exact .value hab

theorem Rel.eq {x y : Given α} (h : Rel Eq x y) : x = y := by
  cases h with
  | absent => rfl
  | null => rfl
  | value hab => rw [hab]

theorem Rel.isSome_eq {R : α → β → Prop} {x : Given α} {y : Given β} (h : Rel R x y) :
    x.toOption.isSome = y.toOption.isSome := by
  cases h with
  | absent => rfl
  | null => rfl
  | value _ => rfl

/-- If every value that is given leads to `f` of it in the same way, so does the whole. -/
theorem Rel.carry {P : α → γ → Prop} {Q : β → δ → Prop} {R : γ → δ → Prop} {f : α → β}
    {g : Given α} {x : Given γ} (h : Rel P g x)
    (hstep : ∀ v a, g = .value v → P v a → ∃ b, Q (f v) b ∧ R a b) :
    ∃ y, Rel Q (g.map f) y ∧ Rel R x y := by
  cases h with
  | absent => exact ⟨.absent, .absent, .absent⟩
  | null => exact ⟨.null, .null, .null⟩
  | value hva =>
    obtain ⟨b, hb, hab⟩ := hstep _ _ rfl hva
    exact ⟨.value b, .value hb, .value hab⟩

end Given

theorem Fields.given_eq_value {fields : Fields} {key : String} {v : Value} :
    fields.given key = .value v ↔ fields.get? key = some v ∧ v ≠ .null := by
  unfold Fields.given
  split
  · simp_all
  · simp_all
  · rename_i w hne hw
    rw [hw]
    constructor
    · intro h
      cases h
      exact ⟨rfl, hne⟩
    · rintro ⟨h, _⟩
      cases h
      rfl

theorem optionalField_eq_ok {read : Value → Checked α} {fields : Fields} {key : String}
    {x : Given α} :
    optionalField read fields key = .ok x ↔
      Given.Rel (fun v a => read v = .ok a) (fields.given key) x := by
  unfold optionalField
  cases fields.given key with
  | absent =>
    constructor
    · intro h
      cases h
      exact .absent
    · intro h
      cases h
      rfl
  | null =>
    constructor
    · intro h
      cases h
      exact .null
    · intro h
      cases h
      rfl
  | value v =>
    dsimp only
    rw [Checked.at_eq_ok, Checked.map_eq_ok]
    constructor
    · rintro ⟨a, ha, rfl⟩
      exact .value ha
    · intro h
      cases h with
      | value ha => exact ⟨_, ha, rfl⟩

theorem optionalField_cons (read : Value → Checked α) (key : Atom) (v : Value) (rest : Fields)
    (name : String) :
    optionalField read ((key, v) :: rest) name =
      if key = .string name then unlessNull v (read v) name
      else optionalField read rest name := by
  unfold optionalField Fields.given
  rw [Fields.get?_cons]
  by_cases hkey : key = .string name
  · rw [if_pos hkey, if_pos hkey]
    cases v with
    | atom a => cases a <;> rfl
    | _ => rfl
  · rw [if_neg hkey, if_neg hkey]

/-! ## lists -/

theorem all_zipIdx_eq_ok {read : Value → Checked α} {items : List Value} {start : Nat}
    {as : List α} :
    Checked.all ((items.zipIdx start).map fun entry => (read entry.1).at_ (toString entry.2)) =
        .ok as ↔
      List.Forall₂ (fun v a => read v = .ok a) items as := by
  rw [Checked.all_eq_ok, List.forall₂_map_left_iff]
  induction items generalizing start as with
  | nil => rw [List.zipIdx_nil, List.forall₂_nil_left_iff, List.forall₂_nil_left_iff]
  | cons v rest ih =>
    rw [List.zipIdx_cons, List.forall₂_cons_left_iff, List.forall₂_cons_left_iff]
    constructor
    · rintro ⟨a, as, ha, has, rfl⟩
      exact ⟨a, as, Checked.at_eq_ok.mp ha, ih.mp has, rfl⟩
    · rintro ⟨a, as, ha, has, rfl⟩
      exact ⟨a, as, Checked.at_eq_ok.mpr ha, ih.mpr has, rfl⟩

theorem readList_list_eq_ok {read : Value → Checked α} {items : List Value} {as : List α} :
    readList read (.list items) = .ok as ↔ List.Forall₂ (fun v a => read v = .ok a) items as :=
  all_zipIdx_eq_ok

theorem exists_all_map_ok {f : β → Checked α} {bs : List β} (h : ∀ b ∈ bs, ∃ a, f b = .ok a) :
    ∃ as, Checked.all (bs.map f) = .ok as := by
  obtain ⟨as, has⟩ := exists_forall₂ h
  exact ⟨as, Checked.all_eq_ok.mpr (List.forall₂_map_left_iff.mpr has)⟩

theorem exists_map_ok {f : α → β} {x : Checked α} (h : ∃ a, x = .ok a) :
    ∃ b, x.map f = .ok b := by
  obtain ⟨a, rfl⟩ := h
  exact ⟨f a, rfl⟩

theorem exists_readExtras {fields : Fields} (h : fields.TextKeys) (known : List String) :
    ∃ extras, readExtras fields known = .ok extras := by
  unfold readExtras
  refine exists_map_ok (exists_all_map_ok ?_)
  intro entry hentry
  obtain ⟨name, hname⟩ := h entry hentry
  rw [hname]
  exact ⟨_, rfl⟩

theorem textKeys_of_readExtras {fields : Fields} {known : List String}
    {extras : List (String × Value)} (h : readExtras fields known = .ok extras) :
    fields.TextKeys := by
  obtain ⟨found, hfound, _⟩ := Checked.map_eq_ok.mp h
  have hentries := List.forall₂_map_left_iff.mp (Checked.all_eq_ok.mp hfound)
  intro entry hentry
  obtain ⟨_, hread⟩ := exists_of_forall₂ hentries entry hentry
  split at hread
  · rename_i name hname
    exact ⟨name, hname⟩
  · exact (Checked.error_ne_ok hread).elim

/-! ## schema nodes -/

namespace SchemaNode

variable {alternatives : String}

theorem readItems_eq (fields : Fields) :
    readItems alternatives fields = optionalField (read alternatives) fields "items" := by
  induction fields with
  | nil => rfl
  | cons entry rest ih =>
    obtain ⟨key, v⟩ := entry
    rw [readItems, optionalField_cons, ih]

theorem readProperties_eq (fields : Fields) :
    readProperties alternatives fields =
      optionalField (readMap alternatives) fields "properties" := by
  induction fields with
  | nil => rfl
  | cons entry rest ih =>
    obtain ⟨key, v⟩ := entry
    rw [readProperties, optionalField_cons, ih]

theorem readAdditional_eq (fields : Fields) :
    readAdditional alternatives fields =
      optionalField (fun v => readFlagOr alternatives v (read alternatives v)) fields
        "additionalProperties" := by
  induction fields with
  | nil => rfl
  | cons entry rest ih =>
    obtain ⟨key, v⟩ := entry
    rw [readAdditional, optionalField_cons, ih]

theorem readMembers_eq (composition : String) (fields : Fields) :
    readMembers alternatives composition fields =
      optionalField (readAll alternatives) fields composition := by
  induction fields with
  | nil => rfl
  | cons entry rest ih =>
    obtain ⟨key, v⟩ := entry
    rw [readMembers, optionalField_cons, ih]

theorem readFrom_eq_ok {start : Nat} {items : List Value} {nodes : List SchemaNode} :
    readFrom alternatives start items = .ok nodes ↔
      List.Forall₂ (fun v node => read alternatives v = .ok node) items nodes := by
  induction items generalizing start nodes with
  | nil =>
    rw [readFrom, List.forall₂_nil_left_iff]
    constructor
    · intro h
      cases h
      rfl
    · intro h
      rw [h]
  | cons v rest ih =>
    rw [readFrom, Checked.seq_eq_ok, List.forall₂_cons_left_iff]
    constructor
    · rintro ⟨g, nodes, hg, hnodes, rfl⟩
      obtain ⟨node, hnode, rfl⟩ := Checked.fmap_eq_ok.mp hg
      exact ⟨node, nodes, Checked.at_eq_ok.mp hnode, ih.mp hnodes, rfl⟩
    · rintro ⟨node, nodes, hnode, hnodes, rfl⟩
      exact ⟨List.cons node, nodes, Checked.fmap_eq_ok.mpr ⟨node, Checked.at_eq_ok.mpr hnode, rfl⟩,
        ih.mpr hnodes, rfl⟩

theorem readEntries_eq_ok {fields : Fields} {nodes : List (String × SchemaNode)} :
    readEntries alternatives fields = .ok nodes ↔
      List.Forall₂ (fun entry result =>
        readKey entry.1 = .ok result.1 ∧ read alternatives entry.2 = .ok result.2)
        fields nodes := by
  induction fields generalizing nodes with
  | nil =>
    rw [readEntries, List.forall₂_nil_left_iff]
    constructor
    · intro h
      cases h
      rfl
    · intro h
      rw [h]
  | cons entry rest ih =>
    obtain ⟨key, v⟩ := entry
    rw [readEntries, Checked.seq_eq_ok, List.forall₂_cons_left_iff]
    constructor
    · rintro ⟨g, nodes, hg, hnodes, rfl⟩
      obtain ⟨result, hresult, rfl⟩ := Checked.fmap_eq_ok.mp hg
      obtain ⟨pair, node, hpair, hnode, rfl⟩ := Checked.seq_eq_ok.mp hresult
      obtain ⟨name, hname, rfl⟩ := Checked.fmap_eq_ok.mp hpair
      exact ⟨(name, node), nodes, ⟨hname, Checked.at_eq_ok.mp hnode⟩, ih.mp hnodes, rfl⟩
    · rintro ⟨result, nodes, ⟨hname, hnode⟩, hnodes, rfl⟩
      refine ⟨List.cons result, nodes, Checked.fmap_eq_ok.mpr ⟨result, ?_, rfl⟩, ih.mpr hnodes, rfl⟩
      exact Checked.seq_eq_ok.mpr ⟨Prod.mk result.1, result.2,
        Checked.fmap_eq_ok.mpr ⟨result.1, hname, rfl⟩, Checked.at_eq_ok.mpr hnode, rfl⟩

theorem readAll_list_eq_ok {items : List Value} {nodes : List SchemaNode} :
    readAll alternatives (.list items) = .ok nodes ↔
      List.Forall₂ (fun v node => read alternatives v = .ok node) items nodes :=
  readFrom_eq_ok

theorem readMap_eq_ok {v : Value} {nodes : List (String × SchemaNode)} :
    readMap alternatives v = .ok nodes ↔
      ∃ fields entries, v = .map fields ∧ readEntries alternatives fields = .ok entries ∧
        mergeEntries entries = nodes := by
  cases v with
  | map fields =>
    rw [readMap, Checked.map_eq_ok]
    constructor
    · rintro ⟨entries, hentries, hnodes⟩
      exact ⟨fields, entries, rfl, hentries, hnodes⟩
    · rintro ⟨_, entries, heq, hentries, hnodes⟩
      cases heq
      exact ⟨entries, hentries, hnodes⟩
  | _ =>
    constructor
    · intro h
      exact (Checked.error_ne_ok h).elim
    · rintro ⟨_, _, heq, _⟩
      cases heq

end SchemaNode

theorem readFlagOr_eq_ok {alternatives : String} {v : Value} {other : Checked α}
    {x : Additional α} :
    readFlagOr alternatives v other = .ok x ↔
      (∃ b, readBoolean v = .ok b ∧ x = .flag b) ∨
        ((∀ b, readBoolean v ≠ .ok b) ∧ ∃ a, other = .ok a ∧ x = .node a) := by
  unfold readFlagOr
  cases hflag : readBoolean v with
  | ok b =>
    constructor
    · intro h
      cases h
      exact .inl ⟨b, rfl, rfl⟩
    · rintro (⟨b', hb, rfl⟩ | ⟨hno, _⟩)
      · cases hb
        rfl
      · exact (hno b rfl).elim
  | error issues =>
    cases other with
    | ok a =>
      constructor
      · intro h
        cases h
        exact .inr ⟨fun b hb => Checked.error_ne_ok hb, a, rfl, rfl⟩
      · rintro (⟨b', hb, _⟩ | ⟨_, a', ha, rfl⟩)
        · exact (Checked.error_ne_ok hb).elim
        · cases ha
          rfl
    | error more =>
      constructor
      · intro h
        exact (Checked.error_ne_ok h).elim
      · rintro (⟨b', hb, _⟩ | ⟨_, a', ha, _⟩)
        · exact (Checked.error_ne_ok hb).elim
        · exact (Checked.error_ne_ok ha).elim

/-! ## schemas -/

/-- the parts of a schema were read from what is looked up in `fields` -/
structure Schema.ReadFrom (alternatives : String) (fields : Fields) (s : Schema) : Prop where
  type : Given.Rel (fun v word => readText v = .ok word) (fields.given "type") s.type
  enum : Given.Rel (fun v values => readList Checked.ok v = .ok values) (fields.given "enum") s.enum
  items : Given.Rel (fun v node => SchemaNode.read alternatives v = .ok node)
    (fields.given "items") s.items
  properties : Given.Rel (fun v nodes => SchemaNode.readMap alternatives v = .ok nodes)
    (fields.given "properties") s.properties
  required : Given.Rel (fun v names => readList readText v = .ok names)
    (fields.given "required") s.required
  additional : Given.Rel
    (fun v other => readFlagOr alternatives v (SchemaNode.read alternatives v) = .ok other)
    (fields.given "additionalProperties") s.additional
  allOf : Given.Rel (fun v nodes => SchemaNode.readAll alternatives v = .ok nodes)
    (fields.given "allOf") s.allOf
  oneOf : Given.Rel (fun v nodes => SchemaNode.readAll alternatives v = .ok nodes)
    (fields.given "oneOf") s.oneOf
  nullable : Given.Rel (fun v b => readBoolean v = .ok b) (fields.given "nullable") s.nullable
  extras : readExtras fields Schema.keys = .ok s.extras

theorem Schema.ofParts_eq_ok {alternatives : String} {fields : Fields} {s : Schema} :
    Schema.ofParts fields (SchemaNode.readItems alternatives fields)
        (SchemaNode.readProperties alternatives fields)
        (SchemaNode.readAdditional alternatives fields)
        (SchemaNode.readMembers alternatives "allOf" fields)
        (SchemaNode.readMembers alternatives "oneOf" fields) = .ok s ↔
      Schema.ReadFrom alternatives fields s := by
  rw [Schema.ofParts, SchemaNode.readItems_eq, SchemaNode.readProperties_eq,
    SchemaNode.readAdditional_eq, SchemaNode.readMembers_eq, SchemaNode.readMembers_eq]
  constructor
  · intro h
    obtain ⟨f9, extras, h9, hextras, rfl⟩ := Checked.seq_eq_ok.mp h
    obtain ⟨f8, nullable, h8, hnullable, rfl⟩ := Checked.seq_eq_ok.mp h9
    obtain ⟨f7, oneOf, h7, honeOf, rfl⟩ := Checked.seq_eq_ok.mp h8
    obtain ⟨f6, allOf, h6, hallOf, rfl⟩ := Checked.seq_eq_ok.mp h7
    obtain ⟨f5, additional, h5, hadditional, rfl⟩ := Checked.seq_eq_ok.mp h6
    obtain ⟨f4, required, h4, hrequired, rfl⟩ := Checked.seq_eq_ok.mp h5
    obtain ⟨f3, properties, h3, hproperties, rfl⟩ := Checked.seq_eq_ok.mp h4
    obtain ⟨f2, items, h2, hitems, rfl⟩ := Checked.seq_eq_ok.mp h3
    obtain ⟨f1, enum, h1, henum, rfl⟩ := Checked.seq_eq_ok.mp h2
    obtain ⟨type, htype, rfl⟩ := Checked.fmap_eq_ok.mp h1
    exact ⟨optionalField_eq_ok.mp htype, optionalField_eq_ok.mp henum,
      optionalField_eq_ok.mp hitems, optionalField_eq_ok.mp hproperties,
      optionalField_eq_ok.mp hrequired, optionalField_eq_ok.mp hadditional,
      optionalField_eq_ok.mp hallOf, optionalField_eq_ok.mp honeOf,
      optionalField_eq_ok.mp hnullable, hextras⟩
  · intro h
    rw [optionalField_eq_ok.mpr h.type, optionalField_eq_ok.mpr h.enum,
      optionalField_eq_ok.mpr h.items, optionalField_eq_ok.mpr h.properties,
      optionalField_eq_ok.mpr h.required, optionalField_eq_ok.mpr h.additional,
      optionalField_eq_ok.mpr h.allOf, optionalField_eq_ok.mpr h.oneOf,
      optionalField_eq_ok.mpr h.nullable, h.extras]
    cases s
    rfl

namespace SchemaNode

theorem read_map_eq_ok {alternatives : String} {fields : Fields} {node : SchemaNode} :
    read alternatives (.map fields) = .ok node ↔
      (fields.has "$ref" = true ∧ ∃ target, readReference fields = .ok target ∧
          node = .ref target) ∨
        (fields.has "$ref" = false ∧ ∃ s, Schema.ReadFrom alternatives fields s ∧
          node = .inline s) := by
  rw [read]
  cases hhas : Fields.has fields "$ref" with
  | true =>
    rw [if_pos rfl, Checked.at_eq_ok, Checked.map_eq_ok]
    constructor
    · rintro ⟨target, htarget, rfl⟩
      exact .inl ⟨rfl, target, htarget, rfl⟩
    · rintro (⟨_, target, htarget, rfl⟩ | ⟨hno, _⟩)
      · exact ⟨target, htarget, rfl⟩
      · cases hno
  | false =>
    rw [if_neg (by decide), Checked.at_eq_ok, Checked.map_eq_ok]
    constructor
    · rintro ⟨s, hs, rfl⟩
      exact .inr ⟨rfl, s, Schema.ofParts_eq_ok.mp hs, rfl⟩
    · rintro (⟨hno, _⟩ | ⟨_, s, hs, rfl⟩)
      · cases hno
      · exact ⟨s, Schema.ofParts_eq_ok.mpr hs, rfl⟩

/-! the recursion on nodes is the reading of lists, mappings and pointers -/

theorem read_eq : read alternatives = readReferable (Schema.read alternatives) := by
  funext v
  cases v with
  | map fields => rw [read, readReferable, Schema.read]
  | _ => rfl

theorem readAll_eq (v : Value) : readAll alternatives v = readList (read alternatives) v := by
  cases v with
  | list items =>
    have hfrom : ∀ start, readFrom alternatives start items =
        .all ((items.zipIdx start).map fun entry =>
          (read alternatives entry.1).at_ (toString entry.2)) := by
      induction items with
      | nil => exact fun _ => rfl
      | cons v rest ih =>
        intro start
        rw [readFrom, ih, List.zipIdx_cons, List.map_cons, Checked.all]
        rfl
    exact hfrom 0
  | set members =>
    rw [readAll, readList, items?]
    dsimp only
    rw [List.zipIdx_map, List.map_map]
    rfl
  | _ => rfl

theorem readMap_eq (v : Value) : readMap alternatives v = readMapping (read alternatives) v := by
  cases v with
  | map fields =>
    have hentries : readEntries alternatives fields =
        .all (fields.map (readEntry (read alternatives))) := by
      induction fields with
      | nil => rfl
      | cons entry rest ih =>
        obtain ⟨key, v⟩ := entry
        rw [readEntries, ih, List.map_cons, Checked.all]
        rfl
    rw [readMap, hentries, readMapping]
  | _ => rfl
end SchemaNode

end ApiBindings
