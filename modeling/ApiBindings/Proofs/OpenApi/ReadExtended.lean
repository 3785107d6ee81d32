import ApiBindings.Proofs.Document.Lookup
import ApiBindings.Proofs.OpenApi.Bare
import ApiBindings.Proofs.OpenApi.Extended

/-!
# Reading documents with more keys

A document in which keys were inserted is read whenever the original is, and what is read differs in
the unknown keys only.

* `FieldsExtended.optionalField`, `Extended.readReferable`, `Extended.readList`,
  `Extended.readMapping`          the parts of an object;
* `SchemaNode.read_extended`      schemas, by induction on the document;
* `Description.read_extended`     a whole description.
-/

namespace ApiBindings

open Checked (Carries)
open Relator

variable {α β : Type} {f : α → β} {m : Model} {p : Place} {v v' : Value} {fields fields' : Fields}

theorem Alike.refl (a : α) : Alike f a a := rfl

/-! ## parts of an object -/

section
variable {read : Value → Checked α}

namespace FieldsExtended

variable {key : String}

theorem given_rel (h : FieldsExtended m fields fields') (hkey : m.fields.lookup key = some p) :
    Given.Rel (Extended p) (fields.given key) (fields'.given key) := by
  have hnull : ∀ {fields : Fields}, fields.get? key = some .null → fields.given key = .null := by
    intro fields hget
    unfold Fields.given
    rw [hget]
  have hrel := h.lookup hkey
  cases hw : fields.get? key with
  | none =>
    cases hw' : fields'.get? key with
    | none =>
      unfold Fields.given
      rw [hw, hw']
      exact .absent
    | some w' =>
      rw [hw, hw'] at hrel
      cases hrel
  | some w =>
    cases hw' : fields'.get? key with
    | none =>
      rw [hw, hw'] at hrel
      cases hrel
    | some w' =>
      rw [hw, hw'] at hrel
      cases hrel with
      | some hww' =>
        by_cases hne : w = .null
        · rw [hnull (hne ▸ hw), hnull ((hww'.null_iff.mp hne) ▸ hw')]
          exact .null
        · have hne' : w' ≠ .null := fun heq => hne (hww'.null_iff.mpr heq)
          rw [Fields.given_eq_value.mpr ⟨hw, hne⟩, Fields.given_eq_value.mpr ⟨hw', hne'⟩]
          exact .value hww'

theorem optionalField (h : FieldsExtended m fields fields') (hkey : m.fields.lookup key = some p)
    (hread : ∀ w w', (.string key, w) ∈ fields → Extended p w w' →
      Carries (Alike f) (read w) (read w')) :
    Carries (Alike (Given.map f)) (optionalField read fields key)
      (optionalField read fields' key) := by
  refine (optionalField_carries (h.given_rel hkey) ?_).imp fun _ _ => Given.Rel.alike
  intro w w' hw hww'
  exact hread w w' (Fields.mem_of_get? (Fields.given_eq_value.mp hw).1) hww'

theorem optionalField_plain (h : FieldsExtended m fields fields')
    (hkey : m.fields.lookup key = some .plain) (read : Value → Checked α) :
    Carries Eq (ApiBindings.optionalField read fields key)
      (ApiBindings.optionalField read fields' key) := by
  unfold ApiBindings.optionalField Fields.given
  rw [h.get?_eq hkey]
  exact .refl (fun _ => rfl) _

theorem requiredField_plain (h : FieldsExtended m fields fields')
    (hkey : m.fields.lookup key = some .plain) (read : Value → Checked α) :
    Carries Eq (requiredField read fields key) (requiredField read fields' key) := by
  unfold requiredField
  rw [h.get?_eq hkey]
  exact .refl (fun _ => rfl) _

theorem presentField (h : FieldsExtended m fields fields') (hkey : m.fields.lookup key = some p)
    (hread : ∀ w w', Extended p w w' → Carries (Alike f) (read w) (read w')) :
    Carries (Alike (Option.map f)) (presentField read fields key)
      (presentField read fields' key) :=
  (presentField_carries (h.lookup hkey) fun w w' _ _ hww' => hread w w' hww').imp
    fun _ _ => Alike.option

theorem has_eq (h : FieldsExtended m fields fields') (hkey : m.fields.lookup key = some p) :
    fields'.has key = fields.has key := by
  have hrel := h.lookup hkey
  unfold Fields.has
  revert hrel
  generalize fields.get? key = found
  generalize fields'.get? key = found'
  intro hrel
  cases hrel <;> rfl

theorem spelling_eq (h : FieldsExtended m fields fields') {name alternative : String}
    {q : Place} (hname : m.fields.lookup name = some p)
    (halternative : m.fields.lookup alternative = some q) :
    spelling fields' name alternative = spelling fields name alternative := by
  unfold spelling
  rw [h.has_eq hname, h.has_eq halternative]

theorem readReference_eq (h : FieldsExtended .pointer fields fields') :
    readReference fields' = readReference fields := by
  have hspelling : spelling fields' "$ref" "ref" = spelling fields "$ref" "ref" :=
    h.spelling_eq rfl rfl
  have hplain : Model.pointer.fields.lookup (spelling fields "$ref" "ref") = some .plain := by
    unfold spelling
    split <;> rfl
  unfold readReference requiredField
  rw [hspelling, h.get?_eq hplain]

theorem readExtras (h : FieldsExtended m fields fields') (known known' : List String) :
    Carries (fun _ _ => True) (readExtras fields known) (readExtras fields' known') := by
  intro extras hextras
  have htext := h.textKeys (textKeys_of_readExtras hextras)
  obtain ⟨extras', hextras'⟩ := exists_readExtras htext known'
  exact ⟨extras', hextras', trivial⟩

end FieldsExtended

namespace Extended

theorem readObject {model : String} {read : Fields → Checked α} (h : Extended (.object m) v v')
    (hread : ∀ fields fields', FieldsExtended m fields fields' →
      Carries (Alike f) (read fields) (read fields')) :
    Carries (Alike f) (readObject model read v) (readObject model read v') := by
  rcases h.object_cases with ⟨rfl, _⟩ | ⟨fields, fields', rfl, rfl, hfields⟩
  · exact .refl Alike.refl _
  · exact hread fields fields' hfields

theorem readReferable (h : Extended (.referable m) v v')
    (hread : ∀ fields fields', v = .map fields → FieldsExtended m fields fields' →
      Carries (Alike f) (read (.map fields)) (read (.map fields'))) :
    Carries (Alike (Referable.map f)) (readReferable read v) (readReferable read v') := by
  rcases h.referable_cases with
    ⟨rfl, _⟩ | ⟨fields, fields', rfl, rfl, ⟨href, hfields⟩ | ⟨href, hfields⟩⟩
  · exact .refl Alike.refl _
  · refine (readReferable_carries hfields.has_ref ?_ ?_).imp fun _ _ => Referable.Rel.alike
    · intro hpointer
      rw [href] at hpointer
      cases hpointer
    · exact fun _ => hread fields fields' rfl hfields
  · refine (readReferable_carries hfields.has_ref ?_ ?_).imp fun _ _ => Referable.Rel.alike
    · exact fun _ => hfields.readReference_eq
    · intro hinline
      rw [href] at hinline
      cases hinline

theorem readList (h : Extended (.listOf p) v v')
    (hread : ∀ items, v = .list items → ∀ w ∈ items, ∀ w', Extended p w w' →
      Carries (Alike f) (read w) (read w')) :
    Carries (Alike (List.map f)) (readList read v) (readList read v') := by
  rcases h.listOf_cases with ⟨rfl, _⟩ | ⟨items, items', rfl, rfl, hitems⟩
  · exact .refl Alike.refl _
  · have hall : List.Forall₂ (fun w w' => Carries (Alike f) (read w) (read w')) items items' :=
      forall₂_comp (List.forall₂_same.mpr fun _ _ => rfl) hitems fun w hw w₁ w' heq hww' => by
        cases heq
        exact hread items rfl w hw w' hww'
    exact (readList_carries hall).imp fun _ _ => Alike.list

theorem readMapping (h : Extended (.mapOf p) v v')
    (hread : ∀ fields, v = .map fields → ∀ entry ∈ fields, ∀ w', Extended p entry.2 w' →
      Carries (Alike f) (read entry.2) (read w')) :
    Carries (Alike (mapValues f)) (readMapping read v) (readMapping read v') := by
  rcases h.mapOf_cases with ⟨rfl, _⟩ | ⟨fields, fields', rfl, rfl, hfields⟩
  · exact .refl Alike.refl _
  · have hall : List.Forall₂ (ReadAlike (Alike f) read read) fields fields' :=
      forall₂_comp (List.forall₂_same.mpr fun _ _ => rfl) hfields
        fun entry hentry _ entry' heq ⟨hkey, hv⟩ => by
          cases heq
          exact ⟨hkey, hread fields rfl entry hentry entry'.2 hv⟩
    exact (readMapping_carries hall).imp fun _ _ => Alike.values

end Extended

end

/-! ## schemas -/

theorem bareItems_eq (items : Given SchemaNode) : bareItems items = items.map SchemaNode.bare := by
  cases items <;> rfl

theorem bareProperties_eq (properties : Given (List (String × SchemaNode))) :
    bareProperties properties = properties.map (mapValues SchemaNode.bare) := by
  cases properties with
  | value entries => exact congrArg Given.value (bareEntries_eq entries)
  | _ => rfl

theorem bareMembers_eq (members : Given (List SchemaNode)) :
    bareMembers members = members.map (List.map SchemaNode.bare) := by
  cases members with
  | value nodes => exact congrArg Given.value (bareList_eq nodes)
  | _ => rfl

theorem bareAdditional_eq (additional : Given (Additional SchemaNode)) :
    bareAdditional additional = additional.map (Additional.map SchemaNode.bare) := by
  cases additional with
  | value other => cases other <;> rfl
  | _ => rfl

theorem SchemaNode.bare_eq (node : SchemaNode) : SchemaNode.bare node = node.map Schema.bare := by
  cases node <;> rfl

theorem readFlagOr_carries {alternatives : String} {x y : Checked α}
    (hflag : readBoolean v' = readBoolean v) (h : Carries (Alike f) x y) :
    Carries (Alike (Additional.map f)) (readFlagOr alternatives v x)
      (readFlagOr alternatives v' y) := by
  intro other hother
  rcases readFlagOr_eq_ok.mp hother with ⟨b, hb, rfl⟩ | ⟨hno, a, ha, rfl⟩
  · exact ⟨.flag b, readFlagOr_eq_ok.mpr (.inl ⟨b, hflag ▸ hb, rfl⟩), rfl⟩
  · obtain ⟨a', ha', halike⟩ := h a ha
    exact ⟨.node a', readFlagOr_eq_ok.mpr (.inr ⟨hflag ▸ hno, a', ha', rfl⟩),
      congrArg Additional.node halike⟩

theorem Extended.readBoolean_eq (h : Extended (.referable m) v v') :
    readBoolean v' = readBoolean v := by
  rcases h.referable_cases with ⟨rfl, _⟩ | ⟨fields, fields', rfl, rfl, _⟩ <;> rfl

namespace Schema

/-- schemas whose parts are alike -/
theorem mk_alike : (Eq ⇒ Eq ⇒ Alike (Given.map SchemaNode.bare) ⇒
    Alike (Given.map (mapValues SchemaNode.bare)) ⇒ Eq ⇒
    Alike (Given.map (Additional.map SchemaNode.bare)) ⇒
    Alike (Given.map (List.map SchemaNode.bare)) ⇒ Alike (Given.map (List.map SchemaNode.bare)) ⇒
    Eq ⇒ (fun _ _ => True) ⇒ Alike Schema.bare) Schema.mk Schema.mk := by
  intro _ _ htype _ _ henum _ _ hitems _ _ hproperties _ _ hrequired _ _ hadditional _ _ hallOf
    _ _ honeOf _ _ hnullable _ _ _
  cases htype
  cases henum
  cases hrequired
  cases hnullable
  unfold Alike bare
  rw [bareItems_eq, bareItems_eq, hitems, bareProperties_eq, bareProperties_eq, hproperties,
    bareAdditional_eq, bareAdditional_eq, hadditional, bareMembers_eq, bareMembers_eq, hallOf,
    bareMembers_eq, bareMembers_eq, honeOf]

end Schema

namespace SchemaNode

variable {alternatives : String}

/-- what follows for a value at every place where nodes may stand -/
structure ReadExtended (alternatives : String) (v : Value) : Prop where
  node : ∀ v', Extended (.referable .schema) v v' →
    Carries (Alike SchemaNode.bare) (read alternatives v) (read alternatives v')
  members : ∀ v', Extended (.listOf (.referable .schema)) v v' →
    Carries (Alike (List.map SchemaNode.bare)) (readAll alternatives v) (readAll alternatives v')
  properties : ∀ v', Extended (.mapOf (.referable .schema)) v v' →
    Carries (Alike (mapValues SchemaNode.bare)) (readMap alternatives v) (readMap alternatives v')

theorem ofParts_carries (hvalues : ∀ entry ∈ fields, ReadExtended alternatives entry.2)
    (h : FieldsExtended .schema fields fields') :
    Carries (Alike Schema.bare) (Schema.read alternatives (.map fields))
      (Schema.read alternatives (.map fields')) := by
  have hnode : ∀ key w w', (.string key, w) ∈ fields → Extended (.referable .schema) w w' →
      Carries (Alike SchemaNode.bare) (read alternatives w) (read alternatives w') :=
    fun key w w' hw => (hvalues _ hw).node w'
  have hmembers : ∀ key w w', (.string key, w) ∈ fields →
      Extended (.listOf (.referable .schema)) w w' → Carries (Alike (List.map SchemaNode.bare))
        (readAll alternatives w) (readAll alternatives w') :=
    fun key w w' hw => (hvalues _ hw).members w'
  have hadditional : ∀ w w', (.string "additionalProperties", w) ∈ fields →
      Extended (.referable .schema) w w' → Carries (Alike (Additional.map SchemaNode.bare))
        (readFlagOr alternatives w (read alternatives w))
        (readFlagOr alternatives w' (read alternatives w')) :=
    fun w w' hw hww' => readFlagOr_carries hww'.readBoolean_eq (hnode _ w w' hw hww')
  rw [Schema.read, Schema.read, Schema.ofParts, Schema.ofParts, readItems_eq, readItems_eq,
    readProperties_eq, readProperties_eq, readAdditional_eq, readAdditional_eq, readMembers_eq,
    readMembers_eq, readMembers_eq, readMembers_eq]
  exact (((((((((Carries.fmap Schema.mk_alike (h.optionalField_plain rfl _)).seq
    (h.optionalField_plain rfl _)).seq
    (h.optionalField rfl (hnode _))).seq
    (h.optionalField rfl fun w w' hw => (hvalues _ hw).properties w')).seq
    (h.optionalField_plain rfl _)).seq
    (h.optionalField rfl hadditional)).seq
    (h.optionalField rfl (hmembers _))).seq
    (h.optionalField rfl (hmembers _))).seq
    (h.optionalField_plain rfl _)).seq (h.readExtras _ _)

theorem readExtended_of_values (hitems : ∀ items, v = .list items → ∀ w ∈ items,
      ReadExtended alternatives w)
    (hvalues : ∀ fields : Fields, v = .map fields → ∀ entry ∈ fields,
      ReadExtended alternatives entry.2) : ReadExtended alternatives v where
  node v' h := by
    have hinline : ∀ fields fields', v = .map fields → FieldsExtended .schema fields fields' →
        Carries (Alike Schema.bare) (Schema.read alternatives (.map fields))
          (Schema.read alternatives (.map fields')) :=
      fun fields fields' hv => ofParts_carries (hvalues fields hv)
    rw [read_eq]
    refine (h.readReferable hinline).imp fun node node' hnode => ?_
    unfold Alike
    rw [bare_eq, bare_eq, hnode]
  members v' h := by
    rw [readAll_eq, readAll_eq]
    exact h.readList fun items hv w hw => (hitems items hv w hw).node
  properties v' h := by
    rw [readMap_eq, readMap_eq]
    exact h.readMapping fun fields hv entry hentry => (hvalues fields hv entry hentry).node

theorem readExtended (alternatives : String) (v : Value) : ReadExtended alternatives v := by
  induction v using Value.induction with
  | list items ih =>
    refine readExtended_of_values ?_ ?_
    · intro _ heq
      cases heq
      exact ih
    · intro _ heq
      cases heq
  | map fields ih =>
    refine readExtended_of_values ?_ ?_
    · intro _ heq
      cases heq
    · intro _ heq
      cases heq
      exact ih
  | _ =>
    refine readExtended_of_values ?_ ?_ <;>
    · intro _ heq
      cases heq

end SchemaNode

end ApiBindings
