import ApiBindings.Proofs.Synthesis.PayloadType
import ApiBindings.Proofs.TypeText.Names

/-!
# The pointers behind a type

Which pointers the synthesis meets on its way through a schema or a payload, and that the names in
the type are the names of these pointers.  A part that the type does not show, such as the items of
a schema that is no array, is not looked into.

* `names_meaning`              the names in the type of a schema, in order;
* `NamedBy`                    a text that is a type with no names but those of some pointers;
* `nodeType_namedBy`, `payloadType_namedBy`, `payloadUnion_namedBy`
                               the texts that the synthesis gives.
-/

namespace ApiBindings

open TypeScript

/-! ## pointers -/

mutual

/-- the pointers that the type of a schema node is made with, in order -/
def nodePointers : SchemaNode → List String
  | .ref target => [target]
  | .inline schema => bodyPointers schema.kind schema.shape schema
termination_by structural node => node

/-- the pointers in a schema that is taken for one of the given kind and shape -/
def bodyPointers (kind : Kind) (shape : Shape) : Schema → List String
  | ⟨_, _, items, properties, _, additional, allOf, oneOf, _, _⟩ =>
    match kind with
    | .array => itemsPointers items
    | .object =>
      match shape with
      | .allOf => membersPointers allOf
      | .oneOf => membersPointers oneOf
      | .properties => propertiesPointers properties
      | .additionalProperties => additionalPointers additional
      | _ => []
    | _ => []
termination_by structural schema => schema

def itemsPointers : Given SchemaNode → List String
  | .value node => nodePointers node
  | _ => []
termination_by structural items => items

def membersPointers : Given (List SchemaNode) → List String
  | .value members => memberPointers members
  | _ => []
termination_by structural members => members

def memberPointers : List SchemaNode → List String
  | [] => []
  | node :: rest => nodePointers node ++ memberPointers rest
termination_by structural members => members

def propertiesPointers : Given (List (String × SchemaNode)) → List String
  | .value properties => fieldPointers properties
  | _ => []
termination_by structural properties => properties

def fieldPointers : List (String × SchemaNode) → List String
  | [] => []
  | (_, node) :: rest => nodePointers node ++ fieldPointers rest
termination_by structural properties => properties

def additionalPointers : Given (Additional SchemaNode) → List String
  | .value (.node node) => nodePointers node
  | _ => []
termination_by structural additional => additional

end

/-- the pointers that the type of a payload is made with -/
def payloadPointers : Option (Referable Payload) → List String
  | none => []
  | some (.ref target) => [target]
  | some (.inline payload) => payload.node?.toList.flatMap nodePointers

def pointerName? (target : String) : Option String := (referenceType target).toOption

def pointerNames (targets : List String) : List String := targets.filterMap pointerName?

theorem pointerNames_append (s t : List String) :
    pointerNames (s ++ t) = pointerNames s ++ pointerNames t := List.filterMap_append

/-! ## names of meanings -/

theorem names_orNull (nullable : Given Bool) (e : TypeExpr) :
    (orNull nullable e).names = e.names := by
  unfold orNull
  split
  · rfl
  · show e.names ++ [] = e.names
    exact List.append_nil _
  · rfl

theorem memberNames_literals? {values : List Value} {es : List TypeExpr}
    (h : literals? values = some es) : TypeExpr.memberNames es = [] := by
  induction values generalizing es with
  | nil =>
    cases h
    rfl
  | cons value rest ih =>
    unfold literals? at h
    split at h
    · rename_i heq
      cases heq
    · rename_i heq
      cases heq
      obtain ⟨others, hothers, rfl⟩ := Option.map_eq_some_iff.mp h
      show TypeExpr.memberNames others = []
      exact ih hothers
    · cases h

theorem names_stringMeaning {enum : Given (List Value)} {e : TypeExpr}
    (h : stringMeaning enum = some e) : e.names = [] := by
  unfold stringMeaning at h
  split at h
  · obtain ⟨es, hes, rfl⟩ := Option.map_eq_some_iff.mp h
    exact memberNames_literals? hes
  · cases h
    rfl

theorem names_looseMeaning (typeWord : String) : (looseMeaning typeWord).names = [] := by
  unfold looseMeaning
  split <;> rfl

theorem names_reference {target : String} {e : TypeExpr} (h : meaning (.ref target) = some e) :
    e.names = pointerNames [target] := by
  rw [meaning] at h
  obtain ⟨found, hfound, rfl⟩ := Option.map_eq_some_iff.mp h
  have hname : pointerName? target = some (pascal found.1 ++ found.2) := by
    rw [pointerName?, referenceType, hfound]
    rfl
  rw [pointerNames, List.filterMap_cons_some hname]
  rfl

/-- an object shows the pointers of the first composition that it has -/
theorem names_objectMeaning {s : Schema} {e : TypeExpr}
    (hallOf : ∀ es, membersMeaning s.allOf = some es →
      TypeExpr.memberNames es = pointerNames (membersPointers s.allOf))
    (honeOf : ∀ es, membersMeaning s.oneOf = some es →
      TypeExpr.memberNames es = pointerNames (membersPointers s.oneOf))
    (hfields : ∀ fields, propertiesMeaning (s.required.getD []) s.properties = some fields →
      TypeExpr.fieldNames fields = pointerNames (propertiesPointers s.properties))
    (hvalue : ∀ e, additionalMeaning s.additional = some e →
      e.names = pointerNames (additionalPointers s.additional))
    (h : bodyMeaning .object s = some e) :
    e.names = pointerNames (bodyPointers .object s.shape s) := by
  rw [bodyMeaning_object] at h
  obtain ⟨type, enum, items, properties, required, additional, allOf, oneOf, nullable, extras⟩ := s
  unfold Schema.shape
  split at h
  · rename_i hfilled
    obtain ⟨es, hes, rfl⟩ := Option.map_eq_some_iff.mp h
    rw [if_pos hfilled]
    exact hallOf es hes
  · rename_i hno
    rw [if_neg hno]
    split at h
    · rename_i hfilled
      obtain ⟨es, hes, rfl⟩ := Option.map_eq_some_iff.mp h
      rw [if_pos hfilled]
      exact honeOf es hes
    · rename_i hno
      rw [if_neg hno]
      split at h
      · rename_i hgiven
        obtain ⟨fields, hread, rfl⟩ := Option.map_eq_some_iff.mp h
        rw [if_pos hgiven]
        exact hfields fields hread
      · rename_i hno
        rw [if_neg hno]
        split at h
        · rename_i hopen
          obtain ⟨value, hread, rfl⟩ := Option.map_eq_some_iff.mp h
          rw [if_pos hopen]
          exact hvalue value hread
        · rename_i hclosed
          cases h
          rw [if_neg hclosed, names_looseMeaning]
          split <;> rfl

mutual

/-- The names in the type of a schema node are those of its pointers. -/
theorem names_meaning : ∀ (node : SchemaNode) (e : TypeExpr), meaning node = some e →
    e.names = pointerNames (nodePointers node)
  | .ref _, _, h => names_reference h
  | .inline schema, e, h => by
    rw [meaning] at h
    obtain ⟨body, hbody, rfl⟩ := Option.map_eq_some_iff.mp h
    rw [names_orNull]
    exact names_bodyMeaning schema schema.kind body hbody
termination_by structural node => node

theorem names_bodyMeaning : ∀ (schema : Schema) (kind : Kind) (e : TypeExpr),
    bodyMeaning kind schema = some e →
      e.names = pointerNames (bodyPointers kind schema.shape schema)
  | ⟨type, enum, items, properties, required, additional, allOf, oneOf, nullable, extras⟩,
    kind, e, h => by
    cases kind with
    | array => exact names_itemsMeaning items e h
    | object =>
      exact names_objectMeaning (names_membersMeaning allOf) (names_membersMeaning oneOf)
        (names_propertiesMeaning (required.getD []) properties)
        (names_additionalMeaning additional) h
    | string =>
      show e.names = []
      rw [bodyMeaning] at h
      split at h
      · exact names_stringMeaning h
      · cases h
        rfl
    | _ =>
      cases h
      rfl
termination_by structural schema => schema

theorem names_itemsMeaning : ∀ (items : Given SchemaNode) (e : TypeExpr),
    itemsMeaning items = some e → e.names = pointerNames (itemsPointers items)
  | .value node, e, h => by
    rw [itemsMeaning] at h
    obtain ⟨item, hitem, rfl⟩ := Option.map_eq_some_iff.mp h
    exact names_meaning node item hitem
  | .absent, _, h => by cases h
  | .null, _, h => by cases h
termination_by structural items => items

theorem names_membersMeaning : ∀ (members : Given (List SchemaNode)) (es : List TypeExpr),
    membersMeaning members = some es →
      TypeExpr.memberNames es = pointerNames (membersPointers members)
  | .value members, es, h => names_memberMeanings members es h
  | .absent, _, h => by
    cases h
    rfl
  | .null, _, h => by
    cases h
    rfl
termination_by structural members => members

theorem names_memberMeanings : ∀ (members : List SchemaNode) (es : List TypeExpr),
    memberMeanings members = some es →
      TypeExpr.memberNames es = pointerNames (memberPointers members)
  | [], _, h => by
    cases h
    rfl
  | node :: rest, es, h => by
    rw [memberMeanings] at h
    obtain ⟨e, he, h⟩ := Option.bind_eq_some_iff.mp h
    obtain ⟨others, hothers, h⟩ := Option.bind_eq_some_iff.mp h
    cases h
    rw [memberPointers, pointerNames_append, ← names_meaning node e he,
      ← names_memberMeanings rest others hothers]
    rfl
termination_by structural members => members

theorem names_propertiesMeaning (required : List String) :
    ∀ (properties : Given (List (String × SchemaNode))) (fields : List (Key × Bool × TypeExpr)),
      propertiesMeaning required properties = some fields →
        TypeExpr.fieldNames fields = pointerNames (propertiesPointers properties)
  | .value properties, fields, h => names_fieldMeanings required properties fields h
  | .absent, _, h => by
    cases h
    rfl
  | .null, _, h => by
    cases h
    rfl
termination_by structural properties => properties

theorem names_fieldMeanings (required : List String) :
    ∀ (properties : List (String × SchemaNode)) (fields : List (Key × Bool × TypeExpr)),
      fieldMeanings required properties = some fields →
        TypeExpr.fieldNames fields = pointerNames (fieldPointers properties)
  | [], _, h => by
    cases h
    rfl
  | (name, node) :: rest, fields, h => by
    rw [fieldMeanings] at h
    obtain ⟨e, he, h⟩ := Option.bind_eq_some_iff.mp h
    obtain ⟨others, hothers, h⟩ := Option.bind_eq_some_iff.mp h
    cases h
    rw [fieldPointers, pointerNames_append, ← names_meaning node e he,
      ← names_fieldMeanings required rest others hothers]
    rfl
termination_by structural properties => properties

theorem names_additionalMeaning : ∀ (additional : Given (Additional SchemaNode)) (e : TypeExpr),
    additionalMeaning additional = some e → e.names = pointerNames (additionalPointers additional)
  | .value (.node node), e, h => names_meaning node e h
  | .value (.flag _), _, h => by
    cases h
    rfl
  | .absent, _, h => by
    cases h
    rfl
  | .null, _, h => by
    cases h
    rfl
termination_by structural additional => additional

end

/-! ## names in texts -/

/-- a text that is a type, with no names in it but those of these pointers -/
def NamedBy (targets : List String) (text : String) : Prop :=
  ∃ e, Renders text e ∧ ∀ name ∈ e.names, name ∈ pointerNames targets

namespace NamedBy

variable {targets : List String} {text : String}

theorem mono {more : List String} (h : NamedBy targets text) (hsub : targets ⊆ more) :
    NamedBy more text := by
  obtain ⟨e, hrenders, hnames⟩ := h
  refine ⟨e, hrenders, ?_⟩
  intro name hname
  obtain ⟨target, htarget, hpointer⟩ := List.mem_filterMap.mp (hnames name hname)
  exact List.mem_filterMap.mpr ⟨target, hsub htarget, hpointer⟩

/-- a word for a type of its own -/
theorem keyword {k : Keyword} (hk : k ≠ .null) : NamedBy targets k.text :=
  ⟨.keyword k, .keyword hk, fun _ hname => absurd hname List.not_mem_nil⟩

theorem reference {target : String} (h : referenceType target = .ok text) :
    NamedBy [target] text := by
  have hnode : nodeType (.ref target) none = .ok text := h
  obtain ⟨e, he, hrenders⟩ := nodeType_renders _ hnode
  refine ⟨e, hrenders, ?_⟩
  rw [names_reference he]
  exact fun _ hname => hname

/-- a union may name what its members name -/
theorem union {texts : List String} (hne : texts ≠ []) (h : ∀ text ∈ texts, NamedBy targets text) :
    NamedBy targets (unionOf texts) := by
  obtain ⟨es, hes⟩ := exists_forall₂ fun text htext => h text (List.mem_eraseDups.mp htext)
  have hdistinct : texts.eraseDups ≠ [] := by
    obtain ⟨text, rest, rfl⟩ := List.exists_cons_of_ne_nil hne
    exact List.ne_nil_of_mem (List.mem_eraseDups.mpr List.mem_cons_self)
  refine ⟨.compound .union es, .union (hes.imp fun _ _ hboth => hboth.1) hdistinct, ?_⟩
  intro name hname
  obtain ⟨e, he, hname⟩ := TypeExpr.mem_memberNames.mp hname
  obtain ⟨_, _, _, hnames⟩ := exists_mem_of_forall₂ hes.flip he
  exact hnames name hname

end NamedBy

/-! ## texts of the synthesis -/

theorem nodeType_namedBy {node : SchemaNode} {site : Option String} {text : String}
    (h : nodeType node site = .ok text) : NamedBy (nodePointers node) text := by
  obtain ⟨e, he, hrenders⟩ := nodeType_renders node h
  refine ⟨e, hrenders, ?_⟩
  rw [names_meaning node e he]
  exact fun _ hname => hname

theorem payloadType_namedBy {label text : String} {payload : Option (Referable Payload)}
    (h : payloadType label payload = .ok text) : NamedBy (payloadPointers payload) text := by
  match payload with
  | none =>
    cases h
    exact .keyword (k := .void) (by decide)
  | some (.ref target) => exact .reference h
  | some (.inline payload) =>
    rw [payloadType] at h
    rw [payloadPointers]
    cases hnode : payload.node? with
    | none =>
      rw [hnode] at h
      cases h
      exact .keyword (k := .void) (by decide)
    | some node =>
      rw [hnode] at h
      have hsub : nodePointers node ⊆ (some node).toList.flatMap nodePointers := by
        simp
      exact (nodeType_namedBy h).mono hsub

theorem payloadUnion_namedBy {text : String} {entries : List (String × Option (Referable Payload))}
    (hne : entries ≠ []) (h : payloadUnion entries = .ok text) :
    NamedBy (entries.flatMap fun entry => payloadPointers entry.2) text := by
  obtain ⟨types, htypes, rfl⟩ := map_eq_ok.mp h
  have hall := payloadTypes_eq_ok.mp htypes
  refine .union ?_ ?_
  · rintro rfl
    exact hne (List.forall₂_nil_right_iff.mp hall)
  · intro type htype
    obtain ⟨entry, hentry, htype⟩ := exists_mem_of_forall₂ hall.flip htype
    refine (payloadType_namedBy htype).mono fun target htarget => ?_
    exact List.mem_flatMap.mpr ⟨entry, hentry, htarget⟩

end ApiBindings
