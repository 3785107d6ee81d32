import ApiBindings.Proofs.Outcome
import ApiBindings.Proofs.Swagger.DirectReading
import ApiBindings.Proofs.Swagger.Entries

/-!
# The meaning of a converted schema

The conversion goes through the raw value by its keys, the synthesis of types through the nodes that
are read from it.  Both agree on every JSON value that is read as a schema node.

* `Carried`                         what the conversion keeps of a value that is a schema node;
* `carried_of_isData`               it keeps it of every value without bytes for words;
* `convertSchema_preserves_type`    so the converted node has the type of the one read directly.
-/

namespace ApiBindings.Swagger

variable {alternatives : String}

/-! ## single values -/

theorem exists_map_of_read {v : Value} {node : SchemaNode}
    (h : SchemaNode.read alternatives v = .ok node) : ∃ fields, v = .map fields := by
  cases v with
  | map fields => exact ⟨fields, rfl⟩
  | _ => exact (Checked.error_ne_ok h).elim

theorem exists_atom_of_readBoolean {v : Value} {b : Bool} (h : readBoolean v = .ok b) :
    ∃ a, v = .atom a := by
  cases v with
  | atom a => exact ⟨a, rfl⟩
  | _ => exact (Checked.error_ne_ok h).elim

theorem readBoolean_convertSchema {v : Value} {b : Bool} (h : readBoolean v = .ok b) :
    readBoolean (convertSchema v) = .ok b := by
  obtain ⟨a, rfl⟩ := exists_atom_of_readBoolean h
  exact h

theorem exists_atom_of_readText {v : Value} {s : String} (h : readText v = .ok s) :
    ∃ a, v = .atom a := by
  cases v with
  | atom a => exact ⟨a, rfl⟩
  | _ => exact (Checked.error_ne_ok h).elim

theorem eq_text_of_readText {name : String} {v : Value} {s : String}
    (hname : name ∈ ["$ref", "type"]) (hword : isByteWord (.string name, v) = false)
    (h : readText v = .ok s) : v = .text s := by
  obtain ⟨a, rfl⟩ := exists_atom_of_readText h
  cases a with
  | string t =>
    cases h
    rfl
  | bytes content =>
    simp only [List.mem_cons, List.not_mem_nil, or_false] at hname
    rcases hname with rfl | rfl <;> cases hword
  | _ => exact (Checked.error_ne_ok h).elim

/-- what is read as a list is one, or a set, which the conversion leaves as it is -/
theorem list_or_set_of_readList {α : Type} {read : Value → Checked α} {v : Value} {as : List α}
    (h : readList read v = .ok as) : (∃ items, v = .list items) ∨ ∃ members, v = .set members := by
  cases v with
  | list items => exact .inl ⟨items, rfl⟩
  | set members => exact .inr ⟨members, rfl⟩
  | _ => exact (Checked.error_ne_ok h).elim

/-- members of a set are no schemas -/
theorem list_or_empty_of_readAll {v : Value} {nodes : List SchemaNode}
    (h : SchemaNode.readAll alternatives v = .ok nodes) :
    (∃ items, v = .list items) ∨ (v = .set [] ∧ nodes = []) := by
  cases v with
  | list items => exact .inl ⟨items, rfl⟩
  | set members =>
    cases members with
    | nil =>
      cases h
      exact .inr ⟨rfl, rfl⟩
    | cons a members =>
      rw [SchemaNode.readAll, List.zipIdx_cons, List.map_cons, Checked.all_eq_ok] at h
      cases h with
      | cons hnode _ => exact (Checked.error_ne_ok hnode).elim
  | _ => exact (Checked.error_ne_ok h).elim

theorem convertedValue_type (word : String) :
    convertedValue "type" (.text word) = .text (directWord word) := by
  by_cases hfile : word = "file"
  · subst hfile
    rfl
  · rw [directWord, if_neg hfile]
    unfold convertedValue
    split <;> simp_all [convertSchema]

theorem sameLiteral_convertSchema (v : Value) : SameLiteral v (convertSchema v) := by
  cases v <;> rfl

/-! ## what the conversion keeps -/

/-- the nodes agree once the first one is read directly -/
def Follows (n n' : SchemaNode) : Prop := (n.direct movePointer).Agree n'

/-- If the value is a schema node, it still is one after the conversion, of the same type. -/
def Carried (alternatives : String) (v : Value) : Prop :=
  ∀ node, SchemaNode.read alternatives v = .ok node →
    ∃ node', SchemaNode.read alternatives (convertSchema v) = .ok node' ∧ Follows node node'

/-- the values directly below a value -/
def children : Value → List Value
  | .list items => items
  | .map fields => fields.map (·.2)
  | _ => []

theorem readList_enum_carried {v : Value} {values : List Value}
    (h : readList Checked.ok v = .ok values) :
    ∃ values', readList Checked.ok (convertSchema v) = .ok values' ∧
      List.Forall₂ SameLiteral values values' := by
  rcases list_or_set_of_readList h with ⟨items, rfl⟩ | ⟨members, rfl⟩
  · obtain ⟨values', hvalues', hsame⟩ := forall₂_carry (f := convertSchema)
      (Q := fun w value => Checked.ok w = .ok value) (R := SameLiteral)
      (readList_list_eq_ok.mp h) (by
        intro w _ value hvalue
        cases hvalue
        exact ⟨convertSchema w, rfl, sameLiteral_convertSchema w⟩)
    refine ⟨values', ?_, hsame⟩
    rw [convertSchema, convertItems_eq]
    exact readList_list_eq_ok.mpr hvalues'
  · exact ⟨values, h, List.forall₂_same.mpr fun _ _ => rfl⟩

theorem readList_text_carried {v : Value} {names : List String}
    (h : readList readText v = .ok names) : readList readText (convertSchema v) = .ok names := by
  rcases list_or_set_of_readList h with ⟨items, rfl⟩ | ⟨members, rfl⟩
  swap
  · exact h
  obtain ⟨names', hnames', hsame⟩ := forall₂_carry (f := convertSchema)
    (Q := fun w name => readText w = .ok name) (R := Eq) (readList_list_eq_ok.mp h) (by
      intro w _ name hname
      obtain ⟨a, rfl⟩ := exists_atom_of_readText hname
      exact ⟨name, hname, rfl⟩)
  rw [List.forall₂_eq_eq_eq] at hsame
  rw [convertSchema, convertItems_eq, hsame]
  exact readList_list_eq_ok.mpr hnames'

theorem readAll_carried {v : Value} {nodes : List SchemaNode}
    (hchildren : ∀ w ∈ children v, Carried alternatives w)
    (h : SchemaNode.readAll alternatives v = .ok nodes) :
    ∃ nodes', SchemaNode.readAll alternatives (convertSchema v) = .ok nodes' ∧
      List.Forall₂ Follows nodes nodes' := by
  rcases list_or_empty_of_readAll h with ⟨items, rfl⟩ | ⟨rfl, rfl⟩
  swap
  · exact ⟨[], h, .nil⟩
  obtain ⟨nodes', hnodes', hfollows⟩ := forall₂_carry (f := convertSchema)
    (Q := fun w node => SchemaNode.read alternatives w = .ok node) (R := Follows)
    (SchemaNode.readAll_list_eq_ok.mp h) hchildren
  refine ⟨nodes', ?_, hfollows⟩
  rw [convertSchema, convertItems_eq]
  exact SchemaNode.readAll_list_eq_ok.mpr hnodes'

theorem readMap_carried {v : Value} {nodes : List (String × SchemaNode)} (hv : v.IsData)
    (hchildren : ∀ w ∈ children v, Carried alternatives w)
    (h : SchemaNode.readMap alternatives v = .ok nodes) :
    ∃ nodes', SchemaNode.readMap alternatives (convertSchema v) = .ok nodes' ∧
      List.Forall₂ (EntryRel Follows) nodes nodes' := by
  obtain ⟨fields, entries, rfl, hentries, rfl⟩ := SchemaNode.readMap_eq_ok.mp h
  rw [SchemaNode.readEntries_eq_ok] at hentries
  cases hv with
  | map hkeys _ =>
    have hmaps : ∀ entry ∈ fields, ∃ inner, entry.2 = .map inner := by
      intro entry hentry
      obtain ⟨result, _, hresult⟩ := exists_of_forall₂ hentries entry hentry
      exact exists_map_of_read hresult
    obtain ⟨entries', hentries', hfollows⟩ :=
      forall₂_carry (f := fun entry => (entry.1, convertSchema entry.2))
        (Q := fun entry result => readKey entry.1 = .ok result.1 ∧
          SchemaNode.read alternatives entry.2 = .ok result.2)
        (R := EntryRel Follows) hentries (by
          intro entry hentry result hresult
          obtain ⟨node', hnode', hfollows⟩ :=
            hchildren entry.2 (List.mem_map_of_mem hentry) result.2 hresult.2
          exact ⟨(result.1, node'), ⟨hresult.1, hnode'⟩, rfl, hfollows⟩)
    refine ⟨mergeEntries entries', ?_, mergeEntries_rel hfollows⟩
    rw [convertSchema, ofEntries_convertEntries_maps hkeys hmaps,
      SchemaNode.readMap_eq_ok]
    exact ⟨_, entries', rfl, SchemaNode.readEntries_eq_ok.mpr hentries', rfl⟩

theorem readFlagOr_carried {v : Value} {other : Additional SchemaNode}
    (hcarried : Carried alternatives v)
    (h : readFlagOr alternatives v (SchemaNode.read alternatives v) = .ok other) :
    ∃ other', readFlagOr alternatives (convertSchema v)
        (SchemaNode.read alternatives (convertSchema v)) = .ok other' ∧
      Additional.Rel Follows other other' := by
  rcases readFlagOr_eq_ok.mp h with ⟨b, hb, rfl⟩ | ⟨_, node, hnode, rfl⟩
  · exact ⟨.flag b, readFlagOr_eq_ok.mpr (.inl ⟨b, readBoolean_convertSchema hb, rfl⟩), .flag b⟩
  · obtain ⟨fields, rfl⟩ := exists_map_of_read hnode
    obtain ⟨node', hnode', hfollows⟩ := hcarried node hnode
    refine ⟨.node node', readFlagOr_eq_ok.mpr (.inr ⟨?_, node', hnode', rfl⟩), .node hfollows⟩
    intro b hb
    obtain ⟨a, heq⟩ := exists_atom_of_readBoolean hb
    cases heq

/-! ## schemas -/

section
variable {fields : Fields} (hkeys : fields.Distinct)
include hkeys

theorem field_carried {α β : Type} {P : Value → α → Prop} {Q : Value → β → Prop}
    {R : α → β → Prop} {name : String} {x : Given α} (hname : name ≠ "format")
    (h : Given.Rel P (fields.given name) x)
    (hstep : ∀ v a, (.string name, v) ∈ fields → P v a →
      ∃ b, Q (convertedValue name v) b ∧ R a b) :
    ∃ y, Given.Rel Q ((Fields.ofEntries (convertEntries fields)).given name) y ∧
      Given.Rel R x y := by
  rw [given_convertEntries hkeys hname]
  refine h.carry ?_
  intro v a hv hva
  exact hstep v a (Fields.mem_of_get? (Fields.given_eq_value.mp hv).1) hva

theorem plain_field_carried {α β : Type} {P : Value → α → Prop} {Q : Value → β → Prop}
    {R : α → β → Prop} {name : String} {x : Given α}
    (hname : name ∉ ["format", "$ref", "type", "discriminator"])
    (h : Given.Rel P (fields.given name) x)
    (hstep : ∀ v a, (.string name, v) ∈ fields → P v a → ∃ b, Q (convertSchema v) b ∧ R a b) :
    ∃ y, Given.Rel Q ((Fields.ofEntries (convertEntries fields)).given name) y ∧
      Given.Rel R x y := by
  simp only [List.mem_cons, List.not_mem_nil, or_false, not_or] at hname
  obtain ⟨hformat, href, htype, hdiscriminator⟩ := hname
  refine field_carried hkeys hformat h ?_
  intro v a hmem hva
  rw [convertedValue_other href htype hdiscriminator]
  exact hstep v a hmem hva

theorem members_carried {composition : String} {members : Given (List SchemaNode)}
    (hchildren : ∀ entry ∈ fields, ∀ w ∈ children entry.2, Carried alternatives w)
    (hplain : composition ∉ ["format", "$ref", "type", "discriminator"])
    (h : Given.Rel (fun v nodes => SchemaNode.readAll alternatives v = .ok nodes)
      (fields.given composition) members) :
    ∃ members', Given.Rel (fun v nodes => SchemaNode.readAll alternatives v = .ok nodes)
        ((Fields.ofEntries (convertEntries fields)).given composition) members' ∧
      Given.Rel (List.Forall₂ Follows) members members' := by
  refine plain_field_carried hkeys hplain h ?_
  intro v nodes hmem hnodes
  exact readAll_carried (hchildren _ hmem) hnodes

/-- Every part of a schema is carried along, so the schema is. -/
theorem readFrom_carried {s : Schema} (hwords : ∀ entry ∈ fields, isByteWord entry = false)
    (hvalues : ∀ entry ∈ fields, entry.2.IsData)
    (hcarried : ∀ entry ∈ fields, Carried alternatives entry.2)
    (hchildren : ∀ entry ∈ fields, ∀ w ∈ children entry.2, Carried alternatives w)
    (h : Schema.ReadFrom alternatives fields s) :
    ∃ s', Schema.ReadFrom alternatives (Fields.ofEntries (convertEntries fields)) s' ∧
      (Schema.direct movePointer s).Agree s' := by
  obtain ⟨type, htype, rtype⟩ := field_carried hkeys (by decide)
    (Q := fun v word => readText v = .ok word) (R := fun word word' => directWord word = word')
    h.type (by
      intro v word hmem hword
      cases eq_text_of_readText (by decide) (hwords _ hmem) hword
      cases hword
      rw [convertedValue_type]
      exact ⟨_, rfl, rfl⟩)
  obtain ⟨enum, henum, renum⟩ := plain_field_carried hkeys (by decide)
    (Q := fun v values => readList Checked.ok v = .ok values) (R := List.Forall₂ SameLiteral)
    h.enum fun v values hmem hread => readList_enum_carried hread
  obtain ⟨items, hitems, ritems⟩ := plain_field_carried hkeys (by decide)
    (Q := fun v node => SchemaNode.read alternatives v = .ok node) (R := Follows)
    h.items fun v node hmem hread => hcarried _ hmem node hread
  obtain ⟨properties, hproperties, rproperties⟩ := plain_field_carried hkeys (by decide)
    (Q := fun v nodes => SchemaNode.readMap alternatives v = .ok nodes)
    (R := List.Forall₂ (EntryRel Follows))
    h.properties fun v nodes hmem hread => readMap_carried (hvalues _ hmem) (hchildren _ hmem) hread
  obtain ⟨required, hrequired, rrequired⟩ := plain_field_carried hkeys (by decide)
    (Q := fun v names => readList readText v = .ok names) (R := Eq)
    h.required fun v names hmem hread => ⟨names, readList_text_carried hread, rfl⟩
  obtain ⟨additional, hadditional, radditional⟩ := plain_field_carried hkeys (by decide)
    (Q := fun v other => readFlagOr alternatives v (SchemaNode.read alternatives v) = .ok other)
    (R := Additional.Rel Follows)
    h.additional fun v other hmem hread => readFlagOr_carried (hcarried _ hmem) hread
  obtain ⟨allOf, hallOf, rallOf⟩ :=
    members_carried hkeys hchildren (by decide) h.allOf
  obtain ⟨oneOf, honeOf, roneOf⟩ :=
    members_carried hkeys hchildren (by decide) h.oneOf
  obtain ⟨nullable, hnullable, rnullable⟩ := plain_field_carried hkeys (by decide)
    (Q := fun v b => readBoolean v = .ok b) (R := Eq)
    h.nullable fun v b _ hread => ⟨b, readBoolean_convertSchema hread, rfl⟩
  obtain ⟨extras, hextras⟩ :=
    exists_readExtras (convertEntries_textKeys (textKeys_of_readExtras h.extras)).ofEntries Schema.keys
  refine ⟨⟨type, enum, items, properties, required, additional, allOf, oneOf, nullable, extras⟩,
    ⟨htype, henum, hitems, hproperties, hrequired, hadditional, hallOf, honeOf, hnullable,
      hextras⟩, ?_⟩
  cases s
  exact
    { type := rtype.map_left.eq
      enum := renum
      items := directItems_rel ritems
      properties := directProperties_rel rproperties
      required := rrequired.eq
      additional := directAdditional_rel radditional
      allOf := directMembers_rel rallOf
      oneOf := directMembers_rel roneOf
      nullable := rnullable.eq }

end

/-! ## nodes -/

theorem readReference_eq_ok {fields : Fields} (hhas : fields.has "$ref" = true) {target : String} :
    readReference fields = .ok target ↔
      ∃ v, fields.get? "$ref" = some v ∧ readText v = .ok target := by
  have hspelling : spelling fields "$ref" "ref" = "$ref" := by
    rw [spelling, hhas]
    rfl
  unfold readReference requiredField
  rw [hspelling]
  cases fields.get? "$ref" with
  | none =>
    constructor
    · intro h
      exact (Checked.error_ne_ok h).elim
    · rintro ⟨v, hv, _⟩
      cases hv
  | some v =>
    dsimp only
    rw [Checked.at_eq_ok]
    constructor
    · intro h
      exact ⟨v, rfl, h⟩
    · rintro ⟨w, hw, h⟩
      cases hw
      exact h

theorem carried_map {fields : Fields} (hkeys : fields.Distinct)
    (hwords : ∀ entry ∈ fields, isByteWord entry = false)
    (hvalues : ∀ entry ∈ fields, entry.2.IsData)
    (hcarried : ∀ entry ∈ fields, Carried alternatives entry.2)
    (hchildren : ∀ entry ∈ fields, ∀ w ∈ children entry.2, Carried alternatives w) :
    Carried alternatives (.map fields) := by
  intro node hnode
  rw [convertSchema]
  have hsame : (Fields.ofEntries (convertEntries fields)).has "$ref" = fields.has "$ref" :=
    has_convertEntries hkeys (by decide)
  rcases SchemaNode.read_map_eq_ok.mp hnode with ⟨hhas, target, htarget, rfl⟩ | ⟨hhas, s, hs, rfl⟩
  · rw [hhas] at hsame
    obtain ⟨v, hv, hvtext⟩ := (readReference_eq_ok hhas).mp htarget
    cases eq_text_of_readText (by decide) (hwords _ (Fields.mem_of_get? hv)) hvtext
    have hmoved : readReference (Fields.ofEntries (convertEntries fields)) =
        .ok (movePointer target) := by
      rw [readReference_eq_ok hsame, get?_convertEntries hkeys (by decide), hv]
      exact ⟨_, rfl, rfl⟩
    exact ⟨.ref (movePointer target),
      SchemaNode.read_map_eq_ok.mpr (.inl ⟨hsame, _, hmoved, rfl⟩), fun site => .refl _⟩
  · rw [hhas] at hsame
    obtain ⟨s', hs', hagree⟩ := readFrom_carried hkeys hwords hvalues hcarried hchildren hs
    exact ⟨.inline s', SchemaNode.read_map_eq_ok.mpr (.inr ⟨hsame, s', hs', rfl⟩), hagree.inline⟩

/-- Schemas two levels down are reached through lists and mappings, so the induction is about a
value and everything directly below it. -/
theorem carried_of_isData {v : Value} (hv : v.IsData) :
    Carried alternatives v ∧ ∀ w ∈ children v, Carried alternatives w := by
  induction hv with
  | list _ ih =>
    exact ⟨fun node h => (Checked.error_ne_ok h).elim, fun w hw => (ih w hw).1⟩
  | map hkeys hwords hvalues ih =>
    refine ⟨carried_map hkeys hwords hvalues (fun entry hentry => (ih entry hentry).1)
      fun entry hentry => (ih entry hentry).2, ?_⟩
    intro w hw
    obtain ⟨entry, hentry, rfl⟩ := List.mem_map.mp hw
    exact (ih entry hentry).1
  | _ => exact ⟨fun node h => (Checked.error_ne_ok h).elim, fun w hw => nomatch hw⟩

theorem carried_of_isJson {v : Value} (hv : v.IsJson) :
    Carried alternatives v ∧ ∀ w ∈ children v, Carried alternatives w :=
  carried_of_isData hv.isData

/-- **A JSON value that is read as a schema node is still read as one after the conversion, and its
type is the one of the node read directly; where that has none, so has it, for the same reason.** -/
theorem convertSchema_preserves_type {named : String → String} (hnamed : PointerNaming named)
    {v : Value} (hv : v.IsJson) {node : SchemaNode}
    (h : SchemaNode.read alternatives v = .ok node) :
    ∃ node', SchemaNode.read alternatives (convertSchema v) = .ok node' ∧
      ∀ site,
        (∀ text, nodeType (node.direct named) site = .ok text → nodeType node' site = .ok text) ∧
        (∀ failure, nodeType (node.direct named) site = .error failure →
          ∃ failure', nodeType node' site = .error failure' ∧ failure.Alike failure') := by
  obtain rfl := hnamed.eq_movePointer
  obtain ⟨node', hnode', hfollows⟩ := (carried_of_isJson hv).1 node h
  exact ⟨node', hnode', fun site =>
    ⟨fun text htext => (hfollows site).eq_ok htext, fun f hf => (hfollows site).eq_error hf⟩⟩

/-- properties that go by the names of the keys that the conversion changes -/
def reservedNames : Value :=
  .object [("type", .text "object"), ("discriminator", .text "type"),
    ("enum", .list [.object [("type", .text "file")], .null]),
    ("required", .list [.text "$ref", .text "type"]),
    ("properties", .object [("$ref", .object [("type", .text "file")]),
      ("type", .object [("$ref", .text "#/definitions/pet")]),
      ("discriminator", .object [("type", .text "array"),
        ("items", .object [("$ref", .text "#/responses/no-pet")])])])]

theorem reservedNames_isJson : reservedNames.IsJson := by
  have hfile : (Value.object [("type", .text "file")]).IsJson :=
    .object (by decide) (by simp [Value.IsJson.text])
  have href (target : String) : (Value.object [("$ref", .text target)]).IsJson :=
    .object (by simp) (by simp [Value.IsJson.text])
  have harray : (Value.object [("type", .text "array"),
      ("items", .object [("$ref", .text "#/responses/no-pet")])]).IsJson :=
    .object (by decide) (by simp [Value.IsJson.text, href])
  refine .object (by decide) ?_
  simp only [List.forall_mem_cons, List.not_mem_nil, false_implies, implies_true, and_true]
  refine ⟨.text _, .text _, .list ?_, .list ?_, .object (by decide) ?_⟩
  · simp [hfile, Value.IsJson.null]
  · simp [Value.IsJson.text]
  · simp [hfile, href, harray]

theorem convertSchema_reservedNames_type :
    PointerNaming movePointer ∧ reservedNames.IsJson ∧
      ∃ node, SchemaNode.read loneAlternatives reservedNames = .ok node ∧
        ∃ node', SchemaNode.read loneAlternatives (convertSchema reservedNames) = .ok node' ∧
          nodeType node' none =
            .ok "\x7b$ref: string; type: Pet; discriminator?: NoPetResponse[]\x7d" := by
  refine ⟨movePointer_naming, reservedNames_isJson, _, rfl, ?_⟩
  obtain ⟨node', hnode', hsame⟩ :=
    @convertSchema_preserves_type loneAlternatives _ movePointer_naming _ reservedNames_isJson _ rfl
  exact ⟨node', hnode', (hsame none).1 _ (toOption_eq_some.mp (by decide +kernel))⟩

end ApiBindings.Swagger
