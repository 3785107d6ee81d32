import ApiBindings.Proofs.OpenApi.Bare
import ApiBindings.Synthesis.ComponentDeclarations

/-!
# Types do not show unknown keys

The synthesis gives the same type, or the same failure, with and without the keys that are not
modelled.

* `nodeType_bare`               schema nodes, at every site;
* `payloadType_bare`            responses and request bodies;
* `schemaDeclarations_bare`, `payloadDeclarations_bare`
                                the declarations of components.
-/

namespace ApiBindings

/-! ## kind and shape -/

namespace Schema

theorem kind_bare (s : Schema) : s.bare.kind = s.kind := by
  cases s
  rfl

theorem isFilled_bareMembers (members : Given (List SchemaNode)) :
    isFilled (bareMembers members) = isFilled members := by
  cases members with
  | value nodes => cases nodes <;> rfl
  | _ => rfl

theorem isOpen_bareAdditional (additional : Given (Additional SchemaNode)) :
    isOpen (bareAdditional additional) = isOpen additional := by
  cases additional with
  | value other => cases other <;> rfl
  | _ => rfl

theorem isSome_bareProperties (properties : Given (List (String × SchemaNode))) :
    (bareProperties properties).toOption.isSome = properties.toOption.isSome := by
  cases properties <;> rfl

theorem shape_bare (s : Schema) : s.bare.shape = s.shape := by
  obtain ⟨type, enum, items, properties, required, additional, allOf, oneOf, nullable, extras⟩ := s
  have hallOf := isFilled_bareMembers allOf
  have honeOf := isFilled_bareMembers oneOf
  have hproperties := isSome_bareProperties properties
  have hadditional := isOpen_bareAdditional additional
  unfold shape bare
  dsimp only
  rw [hallOf, honeOf, hproperties, hadditional]
  rfl

theorem nullable_bare (s : Schema) : s.bare.nullable = s.nullable := by
  cases s
  rfl

end Schema

/-! ## schema nodes -/

mutual

theorem nodeType_bare : ∀ (node : SchemaNode) (site : Option String),
    nodeType (SchemaNode.bare node) site = nodeType node site
  | .ref _, _ => rfl
  | .inline schema, site => by
    rw [SchemaNode.bare, nodeType, nodeType, schema.kind_bare, schema.shape_bare,
      schema.nullable_bare, bodyType_bare]
termination_by structural node => node

theorem bodyType_bare (kind : Kind) (shape : Shape) : ∀ (schema : Schema) (site : Option String),
    bodyType kind shape schema.bare site = bodyType kind shape schema site
  | ⟨type, enum, items, properties, required, additional, allOf, oneOf, _, _⟩, site => by
    rw [Schema.bare]
    cases kind with
    | array => exact itemsType_bare items site
    | object =>
      cases shape with
      | allOf => exact congrArg (Except.map _) (membersType_bare "allOf" allOf site)
      | oneOf => exact congrArg (Except.map _) (membersType_bare "oneOf" oneOf site)
      | properties =>
        exact congrArg (Except.map _) (propertiesType_bare (required.getD []) properties site)
      | additionalProperties => exact congrArg (Except.map _) (additionalType_bare additional site)
      | _ => rfl
    | _ => rfl
termination_by structural schema => schema

theorem itemsType_bare : ∀ (items : Given SchemaNode) (site : Option String),
    itemsType (bareItems items) site = itemsType items site
  | .absent, _ => rfl
  | .null, _ => rfl
  | .value node, _ => congrArg (Except.map arrayOf) (nodeType_bare node _)
termination_by structural items => items

theorem membersType_bare (composition : String) :
    ∀ (members : Given (List SchemaNode)) (site : Option String),
      membersType composition (bareMembers members) site = membersType composition members site
  | .absent, _ => rfl
  | .null, _ => rfl
  | .value members, site => memberTypes_bare composition 0 members site
termination_by structural members => members

theorem memberTypes_bare (composition : String) (index : Nat) :
    ∀ (members : List SchemaNode) (site : Option String),
      memberTypes composition index (bareList members) site =
        memberTypes composition index members site
  | [], _ => rfl
  | node :: rest, site => by
    rw [bareList, memberTypes, memberTypes, nodeType_bare node,
      memberTypes_bare composition (index + 1) rest]
termination_by structural members => members

theorem propertiesType_bare (required : List String) :
    ∀ (properties : Given (List (String × SchemaNode))) (site : Option String),
      propertiesType required (bareProperties properties) site =
        propertiesType required properties site
  | .absent, _ => rfl
  | .null, _ => rfl
  | .value properties, site => fieldTypes_bare required properties site
termination_by structural properties => properties

theorem fieldTypes_bare (required : List String) :
    ∀ (properties : List (String × SchemaNode)) (site : Option String),
      fieldTypes required (bareEntries properties) site = fieldTypes required properties site
  | [], _ => rfl
  | (name, node) :: rest, site => by
    rw [bareEntries, fieldTypes, fieldTypes, nodeType_bare node, fieldTypes_bare required rest]
termination_by structural properties => properties

theorem additionalType_bare : ∀ (additional : Given (Additional SchemaNode)) (site : Option String),
    additionalType (bareAdditional additional) site = additionalType additional site
  | .absent, _ => rfl
  | .null, _ => rfl
  | .value (.flag _), _ => rfl
  | .value (.node node), _ => nodeType_bare node _
termination_by structural additional => additional

end

/-! ## payloads -/

theorem selectMedia?_mapValues (f : MediaType → MediaType) (content : List (String × MediaType)) :
    selectMedia? (mapValues f content) = (selectMedia? content).map f := by
  have hfind : (mapValues f content).find? (fun entry => isJsonMedia entry.1) =
      (content.find? fun entry => isJsonMedia entry.1).map fun entry => (entry.1, f entry.2) :=
    List.find?_map
  have hlookup : (mapValues f content).lookup binaryMedia =
      (content.lookup binaryMedia).map f := by
    induction content with
    | nil => rfl
    | cons entry rest ih =>
      obtain ⟨name, media⟩ := entry
      rw [mapValues, List.map_cons, List.lookup_cons, List.lookup_cons]
      cases binaryMedia == name with
      | true => rfl
      | false => exact ih List.find?_map
  unfold selectMedia?
  rw [hfind, hlookup]
  cases content.find? fun entry => isJsonMedia entry.1 <;> rfl

namespace Payload

theorem node?_bare (payload : Payload) :
    payload.bare.node? = payload.node?.map SchemaNode.bare := by
  have hcontent : payload.bare.content.getD [] =
      mapValues MediaType.bare (payload.content.getD []) := by
    unfold bare
    cases payload.content <;> rfl
  unfold node?
  rw [hcontent, selectMedia?_mapValues]
  cases selectMedia? (payload.content.getD []) with
  | none => rfl
  | some media =>
    unfold MediaType.bare
    cases hschema : media.schema <;> simp [Given.map, hschema]

end Payload

theorem payloadType_bare (label : String) (payload : Option (Referable Payload)) :
    payloadType label (payload.map (Referable.map Payload.bare)) = payloadType label payload := by
  cases payload with
  | none => rfl
  | some payload =>
    cases payload with
    | ref target => rfl
    | inline payload =>
      rw [Option.map_some, Referable.map, payloadType, payloadType, payload.node?_bare]
      cases payload.node? with
      | none => rfl
      | some node => exact nodeType_bare node _

theorem payloadTypes_bare (entries : List (String × Option (Referable Payload))) :
    payloadTypes (mapValues (Option.map (Referable.map Payload.bare)) entries) =
      payloadTypes entries := by
  induction entries with
  | nil => rfl
  | cons entry rest ih =>
    obtain ⟨label, payload⟩ := entry
    rw [mapValues] at ih ⊢
    rw [List.map_cons, payloadTypes, payloadTypes, payloadType_bare, ih]

theorem payloadUnion_bare (entries : List (String × Option (Referable Payload))) :
    payloadUnion (mapValues (Option.map (Referable.map Payload.bare)) entries) =
      payloadUnion entries := by
  rw [payloadUnion, payloadUnion, payloadTypes_bare]

/-! ## declarations -/

theorem allowsInterface_bare (node : SchemaNode) :
    allowsInterface (SchemaNode.bare node) = allowsInterface node := by
  cases node with
  | ref target => rfl
  | inline schema =>
    obtain ⟨type, enum, items, properties, required, additional, allOf, oneOf, nullable, extras⟩ :=
      schema
    have hallOf := Schema.isFilled_bareMembers allOf
    have honeOf := Schema.isFilled_bareMembers oneOf
    unfold allowsInterface SchemaNode.bare Schema.bare Schema.allowsInterface
    dsimp only
    rw [hallOf, honeOf]
    rfl

theorem schemaDeclarations_bare (schemas : List (String × SchemaNode)) :
    schemaDeclarations (mapValues SchemaNode.bare schemas) = schemaDeclarations schemas := by
  induction schemas with
  | nil => rfl
  | cons entry rest ih =>
    obtain ⟨name, node⟩ := entry
    have hfirst : schemaDeclaration name (SchemaNode.bare node) = schemaDeclaration name node := by
      rw [schemaDeclaration, schemaDeclaration, nodeType_bare, allowsInterface_bare]
    rw [mapValues] at ih ⊢
    rw [List.map_cons, schemaDeclarations, schemaDeclarations, hfirst, ih]

theorem payloadDeclarations_bare (suffix : String) (payloads : List (String × Referable Payload)) :
    payloadDeclarations suffix (mapValues (Referable.map Payload.bare) payloads) =
      payloadDeclarations suffix payloads := by
  induction payloads with
  | nil => rfl
  | cons entry rest ih =>
    obtain ⟨name, payload⟩ := entry
    have hfirst : payloadDeclaration suffix name (Referable.map Payload.bare payload) =
        payloadDeclaration suffix name payload :=
      congrArg (Except.map _) (payloadUnion_bare [(name, some payload)])
    rw [mapValues] at ih ⊢
    rw [List.map_cons, payloadDeclarations, payloadDeclarations, hfirst, ih]

end ApiBindings
