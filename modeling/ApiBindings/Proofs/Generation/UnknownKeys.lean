import ApiBindings.Proofs.Bindings.BareBindings
import ApiBindings.Proofs.OpenApi.ReadExtended
import ApiBindings.Proofs.OpenApi.ReadOperation

/-!
# Unknown keys never matter

Keys that are not modelled may be inserted into any object of a document, at any depth: the document
is read as before but for these keys, and generation gives the same text or the same failure.

* `Description.read_extended`       what is read of the longer document;
* `generate_ignores_unknown_keys`   and what is generated from it.
-/

namespace ApiBindings

open Checked (Carries)
open Relator

variable {m : Model} {p : Place} {v v' : Value} {fields fields' : Fields}

/-! ## schemas inside other objects -/

theorem readNestedNode_extended (h : Extended (.referable .schema) v v') :
    Carries (Alike SchemaNode.bare) (readNestedNode v) (readNestedNode v') :=
  (SchemaNode.readExtended nestedAlternatives v).node v' h

namespace MediaType

theorem mk_alike : (Alike (Given.map SchemaNode.bare) ⇒ (fun _ _ => True) ⇒ Alike MediaType.bare)
    MediaType.mk MediaType.mk := by
  intro _ _ hschema _ _ _
  unfold Alike bare
  rw [hschema]

theorem read_extended (h : Extended (.object .mediaType) v v') :
    Carries (Alike MediaType.bare) (read v) (read v') := by
  refine h.readObject fun fields fields' hfields => ?_
  have hspelling : spelling fields' "schema" "schema_" = spelling fields "schema" "schema_" :=
    hfields.spelling_eq rfl rfl
  have hschema : Model.mediaType.fields.lookup (spelling fields "schema" "schema_") =
      some (.referable .schema) := by
    unfold spelling
    split <;> rfl
  dsimp only
  rw [hspelling]
  exact (Carries.fmap mk_alike
    (hfields.optionalField hschema fun _ _ _ => readNestedNode_extended)).seq
    (hfields.readExtras _ _)

end MediaType

namespace Parameter

theorem mk_alike : (Eq ⇒ Eq ⇒ Eq ⇒ Eq ⇒ Alike (Given.map SchemaNode.bare) ⇒ (fun _ _ => True) ⇒
    Alike Parameter.bare) Parameter.mk Parameter.mk := by
  intro _ _ hname _ _ hlocation _ _ hdescription _ _ hrequired _ _ hschema _ _ _
  unfold Alike bare
  rw [hname, hlocation, hdescription, hrequired, hschema]

theorem read_extended (h : Extended (.object .parameter) v v') :
    Carries (Alike Parameter.bare) (read v) (read v') := by
  refine h.readObject fun fields fields' hfields => ?_
  have hin : spelling fields' "in" "in_" = spelling fields "in" "in_" :=
    hfields.spelling_eq rfl rfl
  have hspelling : spelling fields' "schema" "schema_" = spelling fields "schema" "schema_" :=
    hfields.spelling_eq rfl rfl
  have hlocation : Model.parameter.fields.lookup (spelling fields "in" "in_") = some .plain := by
    unfold spelling
    split <;> rfl
  have hschema : Model.parameter.fields.lookup (spelling fields "schema" "schema_") =
      some (.referable .schema) := by
    unfold spelling
    split <;> rfl
  dsimp only
  rw [hin, hspelling]
  exact (((((Carries.fmap mk_alike (hfields.requiredField_plain rfl _)).seq
    (hfields.requiredField_plain hlocation _)).seq
    (hfields.optionalField_plain rfl _)).seq
    (hfields.optionalField_plain rfl _)).seq
    (hfields.optionalField hschema fun _ _ _ => readNestedNode_extended)).seq
    (hfields.readExtras _ _)

/-- A parameter, or a pointer to one. -/
theorem readReferable_extended (h : Extended (.referable .parameter) v v') :
    Carries (Alike (Referable.map Parameter.bare)) (readReferable read v) (readReferable read v') :=
  h.readReferable fun _ _ _ hfields => read_extended (.object hfields)

theorem readList_extended (h : Extended (.listOf (.referable .parameter)) v v') :
    Carries (Alike (List.map (Referable.map Parameter.bare))) (readList (readReferable read) v)
      (readList (readReferable read) v') :=
  h.readList fun _ _ _ _ _ => readReferable_extended

end Parameter

/-! ## payloads -/

namespace Payload

theorem mk_alike : (Alike (Given.map (mapValues MediaType.bare)) ⇒ (fun _ _ => True) ⇒
    Alike Payload.bare) Payload.mk Payload.mk := by
  intro _ _ hcontent _ _ _
  unfold Alike bare
  rw [hcontent]

theorem read_extended (model : String) (h : Extended (.object .payload) v v') :
    Carries (Alike Payload.bare) (read model v) (read model v') :=
  h.readObject fun _ _ hfields => (Carries.fmap mk_alike
    (hfields.optionalField rfl fun _ _ _ hcontent =>
      hcontent.readMapping fun _ _ _ _ _ => MediaType.read_extended)).seq
    (hfields.readExtras _ _)

/-- A payload, or a pointer to one. -/
theorem readReferable_extended (model : String) (h : Extended (.referable .payload) v v') :
    Carries (Alike (Referable.map Payload.bare)) (readReferable (read model) v)
      (readReferable (read model) v') :=
  h.readReferable fun _ _ _ hfields => read_extended model (.object hfields)

end Payload

/-! ## operations -/

theorem EntriesExtended.of_forall₂ {entries entries' : Fields}
    (h : List.Forall₂ (EntryExtended p) entries entries') : EntriesExtended p entries entries' := by
  induction h with
  | nil => exact .nil p
  | @cons entry entry' _ _ hentry _ ih =>
    obtain ⟨key, v⟩ := entry
    obtain ⟨key', v'⟩ := entry'
    obtain ⟨hkey, hv⟩ := hentry
    cases hkey
    exact .cons key hv ih

theorem Fields.insert_extended (h : List.Forall₂ (EntryExtended p) fields fields') (key : Atom)
    (hv : Extended p v v') :
    List.Forall₂ (EntryExtended p) (fields.insert key v) (fields'.insert key v') := by
  induction h with
  | nil => exact .cons ⟨rfl, hv⟩ .nil
  | @cons entry entry' _ _ hentry hrest ih =>
    obtain ⟨k, w⟩ := entry
    obtain ⟨k', w'⟩ := entry'
    obtain ⟨hkey, hw⟩ := hentry
    cases hkey
    rw [Fields.insert, Fields.insert]
    by_cases hsame : k.same key = true
    · rw [if_pos hsame, if_pos hsame]
      exact .cons ⟨rfl, hv⟩ hrest
    · rw [if_neg hsame, if_neg hsame]
      exact .cons ⟨rfl, hw⟩ ih

/-- Keys are written in plain text on both sides alike. -/
theorem withPlainKeys_extended (h : Extended (.mapOf p) v v') :
    Extended (.mapOf p) (withPlainKeys v) (withPlainKeys v') := by
  rcases h.mapOf_cases with ⟨rfl, _⟩ | ⟨fields, fields', rfl, rfl, hentries⟩
  · exact .same _ _
  · have hstep : ∀ {acc acc' : Fields}, List.Forall₂ (EntryExtended p) acc acc' →
        List.Forall₂ (EntryExtended p)
          ((fields.map fun entry => (Atom.string entry.1.plain, entry.2)).foldl
            (fun acc entry => Fields.insert entry.1 entry.2 acc) acc)
          ((fields'.map fun entry => (Atom.string entry.1.plain, entry.2)).foldl
            (fun acc entry => Fields.insert entry.1 entry.2 acc) acc') := by
      clear h
      induction hentries with
      | nil => exact id
      | @cons entry entry' _ _ hentry _ ih =>
        intro acc acc' hacc
        rw [List.map_cons, List.foldl_cons, List.map_cons, List.foldl_cons, hentry.1]
        exact ih (Fields.insert_extended hacc _ hentry.2)
    exact .map (.of_forall₂ (hstep .nil))

theorem hasLongKey_extended (h : Extended (.mapOf p) v v') : hasLongKey v = hasLongKey v' := by
  rcases h.mapOf_cases with ⟨rfl, _⟩ | ⟨fields, fields', rfl, rfl, hentries⟩
  · rfl
  · have hkeys : fields'.map (·.1) = fields.map (·.1) :=
      map_eq_of_forall₂ (hentries.imp fun _ _ hentry => hentry.1.symm)
    have hany : (fields'.map (·.1)).any Atom.isLong = (fields.map (·.1)).any Atom.isLong := by
      rw [hkeys]
    rw [List.any_map, List.any_map] at hany
    exact hany.symm

namespace Operation

theorem mk_alike : (Eq ⇒ Eq ⇒ Eq ⇒ Alike (Given.map (List.map (Referable.map Parameter.bare))) ⇒
    Alike (Given.map (Referable.map Payload.bare)) ⇒
    Alike (Option.map (mapValues (Option.map (Referable.map Payload.bare)))) ⇒
    (fun _ _ => True) ⇒ Alike Operation.bare) Operation.mk Operation.mk := by
  intro _ _ hid _ _ hsummary _ _ hdescription _ _ hparameters _ _ hbody _ _ hresponses _ _ _
  unfold Alike bare
  rw [hid, hsummary, hdescription, hparameters, hbody, hresponses]

theorem readResponse_extended (h : Extended (.referable .payload) v v') :
    Carries (Alike (Option.map (Referable.map Payload.bare)))
      (readNullable Payload.readResponse v) (readNullable Payload.readResponse v') :=
  (readNullable_carries h.null_iff (Payload.readReferable_extended "Response" h)).imp
    fun _ _ => Alike.option

theorem readResponses_extended (h : Extended (.mapOf (.referable .payload)) v v') :
    Carries (Alike (mapValues (Option.map (Referable.map Payload.bare))))
      (readResponses v) (readResponses v') := by
  unfold readResponses
  rw [hasLongKey_extended h]
  split
  · exact fun _ hread => (Checked.error_ne_ok hread).elim
  · exact (withPlainKeys_extended h).readMapping fun _ _ _ _ _ => readResponse_extended

theorem read_extended (h : Extended (.object .operation) v v') :
    Carries (Alike Operation.bare) (read v) (read v') :=
  h.readObject fun _ _ hfields =>
    ((((((Carries.fmap mk_alike (hfields.optionalField_plain rfl _)).seq
    (hfields.optionalField_plain rfl _)).seq
    (hfields.optionalField_plain rfl _)).seq
    (hfields.optionalField rfl fun _ _ _ => Parameter.readList_extended)).seq
    (hfields.optionalField rfl fun _ _ _ => Payload.readReferable_extended "RequestBody")).seq
    (hfields.presentField rfl fun _ _ => readResponses_extended)).seq
    (hfields.readExtras _ _)

end Operation

/-! ## paths -/

namespace PathItem

def bareMethod (entry : Method × Option Operation) : Method × Option Operation :=
  (entry.1, entry.2.map Operation.bare)

theorem readMethod_extended (h : FieldsExtended .pathItem fields fields') (m : Method) :
    Carries (Alike (List.map bareMethod)) (readMethod fields m) (readMethod fields' m) := by
  have hplace : Model.pathItem.fields.lookup m.name = some (.object .operation) := by
    cases m <;> rfl
  have hrel := h.lookup hplace
  unfold readMethod
  revert hrel
  generalize fields.get? m.name = found
  generalize fields'.get? m.name = found'
  intro hrel
  cases hrel with
  | none => exact .refl Alike.refl _
  | some hw =>
    have hoperation := readNullable_carries hw.null_iff (Operation.read_extended hw)
    refine (hoperation.map fun operation operation' halike => ?_).at_ _ _
    exact congrArg (fun bare => [(m, bare)]) (Alike.option halike)

theorem methodOrder_extended (h : FieldsExtended .pathItem fields fields') :
    methodOrder fields' = methodOrder fields := by
  have hother : ∀ key, key ∉ Model.pathItem.keys → methodOf? (.string key) = none := by
    intro key hkey
    cases hname : Method.ofName? key with
    | none => exact hname
    | some m =>
      have hkeys : m.name ∈ Model.pathItem.keys := by
        cases m <;> decide
      exact (hkey (name_of_ofName? hname ▸ hkeys)).elim
  exact h.filterMap_keys hother

theorem inOrder_bare (order : List Method) (methods : List (Method × Option Operation)) :
    (inOrder order methods).map bareMethod = inOrder order (methods.map bareMethod) := by
  unfold inOrder
  rw [List.map_filterMap]
  refine List.filterMap_congr fun m _ => ?_
  rw [List.find?_map]
  rfl

theorem mk_alike : (Alike (Given.map (List.map (Referable.map Parameter.bare))) ⇒
    Alike (List.map bareMethod) ⇒ (fun _ _ => True) ⇒ Alike PathItem.bare)
    PathItem.mk PathItem.mk := by
  intro _ _ hparameters _ _ hmethods _ _ _
  show PathItem.mk _ (List.map bareMethod _) _ = PathItem.mk _ (List.map bareMethod _) _
  rw [hparameters, hmethods]

theorem read_extended (h : Extended (.object .pathItem) v v') :
    Carries (Alike PathItem.bare) (read v) (read v') := by
  refine h.readObject fun fields fields' hfields => ?_
  have hfound : Carries (List.Forall₂ (Alike (List.map bareMethod)))
      (Checked.all (Method.all.map (readMethod fields)))
      (Checked.all (Method.all.map (readMethod fields'))) := by
    refine .all (List.forall₂_map_left_iff.mpr (List.forall₂_map_right_iff.mpr ?_))
    exact List.forall₂_same.mpr fun m _ => readMethod_extended hfields m
  have hmethods : Carries (Alike (List.map bareMethod))
      ((Checked.all (Method.all.map (readMethod fields))).map
        fun found => inOrder (methodOrder fields) found.flatten)
      ((Checked.all (Method.all.map (readMethod fields'))).map
        fun found => inOrder (methodOrder fields') found.flatten) := by
    refine hfound.map fun found found' hall => ?_
    unfold Alike
    rw [methodOrder_extended hfields, inOrder_bare, inOrder_bare, List.map_flatten,
      List.map_flatten, Alike.list hall]
  exact ((Carries.fmap mk_alike
    (hfields.optionalField rfl fun _ _ _ => Parameter.readList_extended)).seq hmethods).seq
    (hfields.readExtras _ _)

end PathItem

/-! ## documents -/

namespace Components

theorem mk_alike : (Alike (Given.map (mapValues SchemaNode.bare)) ⇒
    Alike (Given.map (mapValues (Referable.map Payload.bare))) ⇒
    Alike (Given.map (mapValues (Referable.map Parameter.bare))) ⇒
    Alike (Given.map (mapValues (Referable.map Payload.bare))) ⇒ (fun _ _ => True) ⇒
    Alike Components.bare) Components.mk Components.mk := by
  intro _ _ hschemas _ _ hresponses _ _ hparameters _ _ hbodies _ _ _
  unfold Alike bare
  rw [hschemas, hresponses, hparameters, hbodies]

theorem read_extended (h : Extended (.object .components) v v') :
    Carries (Alike Components.bare) (read v) (read v') :=
  h.readObject fun _ _ hfields =>
    ((((Carries.fmap mk_alike
    (hfields.optionalField rfl fun _ _ _ hschemas =>
      hschemas.readMapping fun _ _ _ _ _ => readNestedNode_extended)).seq
    (hfields.optionalField rfl fun _ _ _ hresponses =>
      hresponses.readMapping fun _ _ _ _ _ => Payload.readReferable_extended "Response")).seq
    (hfields.optionalField rfl fun _ _ _ hparameters =>
      hparameters.readMapping fun _ _ _ _ _ => Parameter.readReferable_extended)).seq
    (hfields.optionalField rfl fun _ _ _ hbodies =>
      hbodies.readMapping fun _ _ _ _ _ => Payload.readReferable_extended "RequestBody")).seq
    (hfields.readExtras _ _)

end Components

namespace Info

theorem mk_alike : (Eq ⇒ Eq ⇒ (fun _ _ => True) ⇒ Alike Info.bare) Info.mk Info.mk := by
  intro _ _ htitle _ _ hversion _ _ _
  unfold Alike bare
  rw [htitle, hversion]

theorem read_extended (h : Extended (.object .info) v v') :
    Carries (Alike Info.bare) (read v) (read v') :=
  h.readObject fun _ _ hfields => ((Carries.fmap mk_alike (hfields.optionalField_plain rfl _)).seq
    (hfields.optionalField_plain rfl _)).seq (hfields.readExtras _ _)

end Info

namespace Description

theorem mk_alike : (Eq ⇒ Alike (Given.map Info.bare) ⇒ Eq ⇒
    Alike (Option.map (mapValues PathItem.bare)) ⇒ Alike (Given.map Components.bare) ⇒
    (fun _ _ => True) ⇒ Alike Description.bare) Description.mk Description.mk := by
  intro _ _ hopenapi _ _ hinfo _ _ hservers _ _ hpaths _ _ hcomponents _ _ _
  unfold Alike bare
  rw [hopenapi, hinfo, hservers, hpaths, hcomponents]

theorem read_extended (h : Extended (.object .document) v v') :
    Carries (Alike Description.bare) (read v) (read v') :=
  h.readObject fun _ _ hfields =>
    (((((Carries.fmap mk_alike (hfields.requiredField_plain rfl _)).seq
    (hfields.optionalField rfl fun _ _ _ => Info.read_extended)).seq
    (hfields.optionalField_plain rfl _)).seq
    (hfields.presentField rfl fun _ _ hpaths =>
      hpaths.readMapping fun _ _ _ _ _ => PathItem.read_extended)).seq
    (hfields.optionalField rfl fun _ _ _ => Components.read_extended)).seq
    (hfields.readExtras _ _)

end Description

/-- **Unknown keys never matter.**  If keys that are no keys of an object, nor `$ref`, are inserted
into any objects of a document that can be read, at any depth, the document can still be read, and
generation gives the same text or the same failure for both. -/
theorem generate_ignores_unknown_keys {v v' : Value} {d : Description}
    (h : Extended (.object .document) v v') (hread : Description.read v = .ok d) :
    ∃ d', Description.read v' = .ok d' ∧ ∀ options includeResponses,
      d'.generate options includeResponses = d.generate options includeResponses := by
  obtain ⟨d', hread', halike⟩ := Description.read_extended h d hread
  refine ⟨d', hread', fun options includeResponses => ?_⟩
  calc d'.generate options includeResponses
      = d'.bare.generate options includeResponses := (d'.generate_bare options _).symm
    _ = d.bare.generate options includeResponses := by rw [halike]
    _ = d.generate options includeResponses := d.generate_bare options _

/-- a document with the keys that are needed -/
def plainPets : Value :=
  .object [("openapi", .text "3.0.3"),
    ("paths", .object [("/pets/{id}", .object [
      ("parameters", .list [.object [("$ref", .text "#/components/parameters/id")]]),
      ("get", .object [("operationId", .text "getPet"), ("responses", .object [
        ("200", .object [("content", .object [("application/json",
          .object [("schema", .object [("$ref", .text "#/components/schemas/pet")])])])])])])])]),
    ("components", .object [
      ("schemas", .object [("pet", .object [("properties",
        .object [("name", .object [("type", .text "string")])])])]),
      ("parameters", .object [("id", .object [("name", .text "id"), ("in", .text "path")])])])]

/-- the same document with unknown keys in objects of every kind -/
def annotatedPets : Value :=
  .object [("x-origin", .list [.null, .bool true]), ("openapi", .text "3.0.3"),
    ("paths", .object [("/pets/{id}", .object [("summary", .text "One pet"),
      ("parameters", .list [.object [("$ref", .text "#/components/parameters/id"),
        ("description", .null)]]),
      ("get", .object [("operationId", .text "getPet"), ("tags", .list [.text "pets"]),
        ("responses", .object [("200", .object [("headers", .object []),
          ("content", .object [("application/json", .object [("example", .object []),
            ("schema", .object [("type", .bool false),
              ("$ref", .text "#/components/schemas/pet")])])])])])])])]),
    ("components", .object [("securitySchemes", .object []),
      ("schemas", .object [("pet", .object [("title", .text "Pet"), ("properties",
        .object [("name", .object [("type", .text "string"), ("format", .text "word")])])])]),
      ("parameters", .object [("id", .object [("name", .text "id"), ("in", .text "path"),
        ("example", .atom (.int 7))])])])]

theorem annotatedPets_extended : Extended (.object .document) plainPets annotatedPets := by
  have hparameters : Extended (.listOf (.referable .parameter))
      (.list [.object [("$ref", .text "#/components/parameters/id")]])
      (.list [.object [("$ref", .text "#/components/parameters/id"), ("description", .null)]]) :=
    .list (.cons (.pointer rfl (.kept "$ref" (.same _ _)
      (.inserted "description" _ (by decide) (by decide) (.same _ _)))) (.nil _))
  have hschema : Extended (.referable .schema)
      (.object [("$ref", .text "#/components/schemas/pet")])
      (.object [("type", .bool false), ("$ref", .text "#/components/schemas/pet")]) :=
    .pointer rfl (.inserted "type" _ (by decide) (by decide) (.same _ _))
  have hmedia := Extended.object (m := .mediaType)
    (.inserted "example" (.object []) (by decide) (by decide) (.kept "schema" hschema (.same _ [])))
  have hresponse := Extended.inline (m := .payload) rfl
    (.inserted "headers" (.object []) (by decide) (by decide)
      (.kept "content" (.map (.cons (.string "application/json") hmedia (.nil _))) (.same _ [])))
  have hoperation := Extended.object (m := .operation)
    (.kept "operationId" (.same _ (.text "getPet"))
      (.inserted "tags" (.list [.text "pets"]) (by decide) (by decide)
        (.kept "responses" (.map (.cons (.string "200") hresponse (.nil _))) (.same _ []))))
  have hitem := Extended.object (m := .pathItem)
    (.inserted "summary" (.text "One pet") (by decide) (by decide)
      (.kept "parameters" hparameters (.kept "get" hoperation (.same _ []))))
  have hname := Extended.inline (m := .schema) rfl
    (.kept "type" (.same _ (.text "string"))
      (.inserted "format" (.text "word") (by decide) (by decide) (.same _ [])))
  have hpet := Extended.inline (m := .schema) rfl
    (.inserted "title" (.text "Pet") (by decide) (by decide)
      (.kept "properties" (.map (.cons (.string "name") hname (.nil _))) (.same _ [])))
  have hid := Extended.inline (m := .parameter) rfl
    (.kept "name" (.same _ (.text "id")) (.kept "in" (.same _ (.text "path"))
      (.inserted "example" (.atom (.int 7)) (by decide) (by decide) (.same _ []))))
  have hcomponents := Extended.object (m := .components)
    (.inserted "securitySchemes" (.object []) (by decide) (by decide)
      (.kept "schemas" (.map (.cons (.string "pet") hpet (.nil _)))
        (.kept "parameters" (.map (.cons (.string "id") hid (.nil _))) (.same _ []))))
  exact .object (.inserted "x-origin" _ (by decide) (by decide)
    (.kept "openapi" (.same _ _)
      (.kept "paths" (.map (.cons (.string "/pets/{id}") hitem (.nil _)))
        (.kept "components" hcomponents (.same _ [])))))

theorem generate_ignores_annotations :
    Extended (.object .document) plainPets annotatedPets ∧
      ∃ d, Description.read plainPets = .ok d ∧ (d.generate {} true).toOption.isSome = true ∧
        ∃ d', Description.read annotatedPets = .ok d' ∧ ∀ options includeResponses,
          d'.generate options includeResponses = d.generate options includeResponses :=
  ⟨annotatedPets_extended, _, rfl, by decide +kernel,
    generate_ignores_unknown_keys annotatedPets_extended rfl⟩

end ApiBindings
