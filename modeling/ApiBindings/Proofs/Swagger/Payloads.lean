import ApiBindings.Binding.Build
import ApiBindings.Proofs.OpenApi.ReadOperation
import ApiBindings.Proofs.Swagger.Places
import ApiBindings.Proofs.Swagger.Schema
import ApiBindings.Proofs.Synthesis.PayloadType

/-!
# The types of converted responses and bodies

The type of a payload is that of the schema under the media type that counts.  The conversion writes
the same schema under every media type, so the type can be read off the operation as it was: a
pointer has the name of its component, a response without a schema is empty, and any other one has
the type of its schema.

* `SchemaReadAs`, `ResponseReadAs`, `BodyReadAs`   types that are read off a document directly;
* `ContentOf.node`                                 the schema that counts in a converted content;
* `OperationTo.responses_readAs`                   the types of the responses of an operation;
* `OperationTo.body_readAs`                        the type of its body.
-/

namespace ApiBindings.Swagger

open Conversion

/-! ## schemas -/

variable (named : String → String)

/-- The type of a schema of the older version.  The converted schema has it, and so has the schema
itself with every pointer in it by its current name, if it can be read. -/
structure SchemaReadAs (label : String) (schema : Value) (type : String) : Prop where
  converted : ∃ node, SchemaNode.read nestedAlternatives (convertSchema schema) = .ok node ∧
    nodeType node (some label) = .ok type
  direct : ∀ node, schema.isWorded = true →
    SchemaNode.read nestedAlternatives schema = .ok node →
      nodeType (node.direct named) (some label) = .ok type

variable {named}

theorem schemaReadAs (hnamed : PointerNaming named) {label : String} {schema : Value}
    {type : String} (hkeyed : schema.isKeyed = true) {node : SchemaNode}
    (hread : SchemaNode.read nestedAlternatives (convertSchema schema) = .ok node)
    (htype : nodeType node (some label) = .ok type) : SchemaReadAs named label schema type where
  converted := ⟨node, hread, htype⟩
  direct := by
    intro direct hwords hdirect
    obtain rfl := hnamed.eq_movePointer
    obtain ⟨node', hnode', hfollows⟩ :=
      (carried_of_isData (Value.isData_of_isKeyed hkeyed hwords)).1 direct hdirect
    rw [hread] at hnode'
    cases hnode'
    cases hown : nodeType (direct.direct movePointer) (some label) with
    | ok text =>
      have hsame := (hfollows (some label)).eq_ok hown
      rw [htype] at hsame
      cases hsame
      rfl
    | error f =>
      obtain ⟨g, hg, _⟩ := (hfollows (some label)).eq_error hown
      rw [htype] at hg
      cases hg

/-! ## contents -/

def HoldsJson (mediaTypes : Value) : Prop :=
  ∃ items, mediaTypes.iterated = .ok items ∧ ∃ text, .text text ∈ items ∧ isJsonMedia text = true

theorem exists_get?_ofEntries {entries : List (Atom × Value)} {name : String} {v : Value}
    (h : (.string name, v) ∈ entries) : ∃ w, (Fields.ofEntries entries).get? name = some w := by
  rw [Fields.get?_ofEntries]
  cases hget : Fields.get? entries.reverse name with
  | some w => exact ⟨w, rfl⟩
  | none =>
    have hlacks : Lacks entries.reverse name := lacks_of_has (by rw [Fields.has, hget]; rfl)
    exact (hlacks _ (List.mem_reverse.mpr h) rfl).elim

/-- a content that is read has a media type for every text among its keys -/
theorem mem_mediaTypes {keys : List Atom} {text : String} (htext : .text text ∈ keys.map Value.atom)
    {v : Value} {α : Type} {read : Value → Checked α} {results : List (String × α)}
    (hall : List.Forall₂ (ReadEntry read) (Fields.ofEntries (keys.map fun key => (key, v)))
      results) : text ∈ (mergeEntries results).map (·.1) := by
  obtain ⟨key, hkey, heq⟩ := List.mem_map.mp htext
  cases heq
  obtain ⟨w, hw⟩ := exists_get?_ofEntries (List.mem_map_of_mem (f := fun key => (key, v)) hkey)
  obtain ⟨result, hresult, hname, _⟩ := exists_mem_of_forall₂ hall (Fields.mem_of_get? hw)
  refine mem_keys_mergeEntries ?_
  rw [Option.some.inj hname]
  exact List.mem_map_of_mem hresult

/-- The node of a payload whose content has the schema under every media type. -/
theorem ContentOf.node {schema mediaTypes content : Value}
    (hof : ContentOf schema mediaTypes content) (hschema : schema ≠ .null)
    (hjson : HoldsJson mediaTypes) {fields : Fields} (hget : fields.get? "content" = some content)
    {model : String} {payload : Payload} (h : Payload.read model (.map fields) = .ok payload) :
    ∃ node, SchemaNode.read nestedAlternatives schema = .ok node ∧ payload.node? = some node := by
  obtain ⟨_, hfields, hcontent⟩ := Payload.read_eq_ok h
  cases hfields
  obtain ⟨keys, hkeys, rfl⟩ := hof.exists_keys
  have hgiven := optionalField_eq_ok.mp hcontent
  rw [Fields.given_eq_value.mpr ⟨hget, fun h => nomatch h⟩] at hgiven
  generalize hown : payload.content = own at hgiven
  cases hgiven with
  | @value _ entries hentries =>
    obtain ⟨_, results, hmap, hall, rfl⟩ := readMapping_eq_ok hentries
    cases hmap
    -- the media type of JSON is one of the keys
    obtain ⟨items, hitems, text, htext, hisJson⟩ := hjson
    rw [hkeys] at hitems
    cases hitems
    obtain ⟨entry, hentry, hselect⟩ := selectMedia?_mem (mem_mediaTypes htext hall) hisJson
    obtain ⟨raw, hraw, _, hmedia⟩ := exists_mem_of_forall₂ hall.flip (mem_of_mem_mergeEntries hentry)
    rw [hof.value_eq hraw] at hmedia
    obtain ⟨node, hnode, hvalue⟩ := MediaType.read_eq_ok hschema hmedia
    refine ⟨node, hnode, ?_⟩
    rw [Payload.node?, hown]
    show (selectMedia? (mergeEntries results)).bind _ = _
    rw [hselect, Option.bind_some, hvalue]
    rfl

/-! ## responses -/

variable (named) in
/-- the type of a response of the older version -/
inductive ResponseReadAs (label : String) : Value → String → Prop
  | null : ResponseReadAs label .null "void"
  | pointer {fields : Fields} {target type : String}
      (href : fields.get? "$ref" = some (.text target))
      (htype : referenceType (named target) = .ok type) : ResponseReadAs label (.map fields) type
  | empty {fields : Fields} (href : fields.get? "$ref" = none)
      (hschema : fields.present? "schema" = none) : ResponseReadAs label (.map fields) "void"
  | schema {fields : Fields} {schema : Value} {type : String} (href : fields.get? "$ref" = none)
      (hschema : fields.present? "schema" = some schema)
      (htype : SchemaReadAs named label schema type) : ResponseReadAs label (.map fields) type

theorem reference_of_pointer {target : String} {α : Type} {read : Value → Checked α}
    {x : Referable α}
    (h : readReferable read (.object [("$ref", .text target)]) = .ok x) : x = .ref target := by
  rcases readReferable_eq_ok h with ⟨hhas, target', htarget, rfl⟩ | ⟨hhas, _⟩
  · obtain ⟨v, hv, htext⟩ := (readReference_eq_ok hhas).mp htarget
    cases hv
    cases htext
    rfl
  · cases hhas

/-- the payload of an object that is no pointer -/
theorem inline_of_object {entries : List (String × Value)} (href : entries.lookup "$ref" = none)
    {α : Type} {read : Value → Checked α} {x : Referable α}
    (h : readReferable read (.object entries) = .ok x) :
    ∃ a, read (.object entries) = .ok a ∧ x = .inline a := by
  rcases readReferable_eq_ok h with ⟨hhas, _⟩ | ⟨_, a, ha, rfl⟩
  · have hget : Value.child? "$ref" (.object entries) = none := by
      rw [Value.child?_object, href]
    rw [Fields.has, show Fields.get? _ "$ref" = none from hget] at hhas
    cases hhas
  · exact ⟨a, ha, rfl⟩

theorem payloadType_of_node {payload : Payload} {node : SchemaNode} {label type : String}
    (hnode : payload.node? = some node)
    (h : payloadType label (some (.inline payload)) = .ok type) :
    nodeType node (some label) = .ok type := by
  rw [payloadType, hnode] at h
  exact h

/-- a payload without a content is empty -/
theorem payloadType_of_absent {fields : Fields} (hget : fields.get? "content" = none)
    {model : String} {payload : Payload} (hread : Payload.read model (.map fields) = .ok payload)
    {label type : String} (h : payloadType label (some (.inline payload)) = .ok type) :
    type = "void" := by
  obtain ⟨_, hfields, hcontent⟩ := Payload.read_eq_ok hread
  cases hfields
  have habsent : fields.given "content" = .absent := by
    rw [Fields.given, hget]
  have hrel := optionalField_eq_ok.mp hcontent
  rw [habsent] at hrel
  generalize hown : payload.content = own at hrel
  cases hrel
  rw [payloadType, Payload.node?, hown] at h
  cases h
  rfl

theorem truthy_ne_null {v : Value} (h : v.truthy = true) : v ≠ .null := by
  rintro rfl
  cases h

theorem child?_response {fields : Fields} {produces : Value} {content headers : List (String × Value)}
    (hcontent : ResponseContent fields produces content) (hheaders : ResponseHeaders fields headers)
    (description : Value) :
    ([("description", description)] ++ content ++ headers).lookup "$ref" = none ∧
      (Value.object ([("description", description)] ++ content ++ headers)).child? "content" =
        content.lookup "content" := by
  rw [Value.child?_object]
  cases hcontent <;> cases hheaders <;> exact ⟨rfl, rfl⟩

/-- **A converted response has the type of the response as it was.** -/
theorem ResponseTo.readAs (hnamed : PointerNaming named) {produces v response : Value}
    (hto : ResponseTo produces v response) (hkeyed : v.isKeyed = true) (hjson : HoldsJson produces)
    {result : Option (Referable Payload)}
    (hread : readNullable Payload.readResponse response = .ok result) {label type : String}
    (htype : payloadType label result = .ok type) : ResponseReadAs named label v type := by
  cases hto with
  | null =>
    cases hread
    cases htype
    exact .null
  | @pointer fields target href =>
    rcases readNullable_eq_ok hread with ⟨heq, _⟩ | ⟨x, _, hx, rfl⟩
    · cases heq
    · cases reference_of_pointer hx
      rw [hnamed.eq_movePointer]
      exact .pointer href htype
  | @inline fields content headers href hcontent hheaders =>
    rcases readNullable_eq_ok hread with ⟨heq, _⟩ | ⟨x, _, hx, rfl⟩
    · cases heq
    · obtain ⟨hlookup, hget⟩ := child?_response hcontent hheaders
        ((fields.get? "description").getD (.text ""))
      obtain ⟨payload, hpayload, rfl⟩ := inline_of_object hlookup hx
      cases hcontent with
      | none habsent =>
        cases payloadType_of_absent hget hpayload htype
        exact .empty href habsent
      | @some schema content hschema hof =>
        obtain ⟨hgetSchema, htruthy⟩ := Option.filter_eq_some_iff.mp hschema
        have hne : convertSchema schema ≠ .null := mt convertSchema_eq_null.mp (truthy_ne_null htruthy)
        obtain ⟨node, hnode, hnode?⟩ := hof.node hne hjson hget hpayload
        exact .schema href hschema (schemaReadAs hnamed (isKeyed_of_get? hkeyed hgetSchema) hnode
          (payloadType_of_node hnode? htype))

/-! ## bodies -/

variable (named) in
/-- the type of a body of the older version -/
inductive BodyReadAs : Fields → String → Prop
  | any {parameter : Fields} (hschema : parameter.present? "schema" = none) :
      BodyReadAs parameter "any"
  | schema {parameter : Fields} {schema : Value} {type : String}
      (hschema : parameter.present? "schema" = some schema)
      (htype : SchemaReadAs named "body" schema type) : BodyReadAs parameter type

theorem bodySchema_eq (parameter : Fields) :
    bodySchema parameter = convertSchema ((parameter.present? "schema").getD (.map [])) := by
  rw [bodySchema, Fields.present?]
  cases parameter.get? "schema" with
  | none => rfl
  | some v =>
    rw [orElse_some, Option.filter_some]
    split <;> rfl

theorem nodeType_empty (site : Option String) : nodeType (.inline .empty) site = .ok "any" := by
  have hkind : Schema.empty.kind = .object := by decide +kernel
  have hshape : Schema.empty.shape = .unknown := by decide +kernel
  rw [nodeType, hkind, hshape]
  rfl

/-- without a schema everything can be sent -/
theorem type_of_emptySchema {node : SchemaNode} {label type : String}
    (hnode : SchemaNode.read nestedAlternatives (convertSchema (.map [])) = .ok node)
    (htype : nodeType node (some label) = .ok type) : type = "any" := by
  have hempty : SchemaNode.read nestedAlternatives (convertSchema (.map [])) =
      .ok (.inline .empty) := rfl
  rw [hempty] at hnode
  cases hnode
  rw [nodeType_empty] at htype
  cases htype
  rfl

/-- **A converted body has the type of the body as it was.** -/
theorem BodyOf.readAs (hnamed : PointerNaming named) {parameter : Fields}
    {consumes : Option Value} {body : Value} (hof : BodyOf parameter consumes body)
    (hkeyed : (Value.map parameter).isKeyed = true)
    (hjson : HoldsJson (Value.orElse consumes defaultMediaTypes)) {result : Referable Payload}
    (hread : Payload.readRequestBody body = .ok result) {type : String}
    (htype : payloadType "body" (some result) = .ok type) : BodyReadAs named parameter type := by
  obtain ⟨content, fields, hcontent, rfl, hfields⟩ := hof.exists_fields
  have hlookup : (("content", content) :: fields).lookup "$ref" = none := by
    refine List.lookup_eq_none_iff.mpr fun entry hentry => ?_
    rcases List.mem_cons.mp hentry with rfl | hentry
    · rfl
    · rcases hfields entry hentry with rfl | ⟨hname, _⟩
      · rfl
      · rw [hname]
        rfl
  obtain ⟨payload, hpayload, rfl⟩ := inline_of_object hlookup hread
  have hget : Value.child? "content" (.object (("content", content) :: fields)) = some content :=
    Value.child?_object _ _
  have hne : bodySchema parameter ≠ .null := by
    rw [bodySchema_eq]
    refine mt convertSchema_eq_null.mp ?_
    cases hschema : parameter.present? "schema" with
    | none => exact fun h => nomatch h
    | some v => exact truthy_ne_null (Option.filter_eq_some_iff.mp hschema).2
  obtain ⟨node, hnode, hnode?⟩ := hcontent.node hne hjson hget hpayload
  have hnodeType := payloadType_of_node hnode? htype
  rw [bodySchema_eq] at hnode
  cases hschema : parameter.present? "schema" with
  | none =>
    rw [hschema] at hnode
    cases type_of_emptySchema hnode hnodeType
    exact .any hschema
  | some schema =>
    rw [hschema] at hnode
    have hget := (Option.filter_eq_some_iff.mp hschema).1
    exact .schema hschema (schemaReadAs hnamed (isKeyed_of_get? hkeyed hget) hnode hnodeType)

/-! ## operations -/

def typeOr (fallback type : String) : String := if type = "" then fallback else type

theorem payloadUnionOr_eq_ok {fallback type : String}
    {entries : List (String × Option (Referable Payload))}
    (h : payloadUnionOr fallback entries = .ok type) : ∃ types,
      List.Forall₂ (fun entry type => payloadType entry.1 entry.2 = .ok type) entries types ∧
        type = typeOr fallback (unionOf types) := by
  obtain ⟨union, hunion, rfl⟩ := map_eq_ok.mp h
  obtain ⟨types, htypes, rfl⟩ := map_eq_ok.mp hunion
  exact ⟨types, payloadTypes_eq_ok.mp htypes, rfl⟩

/-- a status with a response and what was read of it after the conversion -/
def StatusRead (produces : Value) (entry : Atom × Value)
    (result : String × Option (Referable Payload)) : Prop :=
  result.1 = entry.1.plain ∧ ∃ response, ResponseTo produces entry.2 response ∧
    readNullable Payload.readResponse response = .ok result.2

/-- the responses of an operation, read one by one -/
theorem ResponsesTo.read {produces responses v : Value} (h : ResponsesTo produces responses v)
    (hnodup : ((keptResponses responses).map fun entry => entry.1.plain).Nodup)
    {results : List (String × Option (Referable Payload))}
    (hread : Operation.readResponses v = .ok results) :
    List.Forall₂ (StatusRead produces) (keptResponses responses) results := by
  cases h with
  | @mk converted hall =>
    have htext : Fields.TextKeys converted := by
      intro response hresponse
      obtain ⟨entry, _, hkey, _⟩ := exists_mem_of_forall₂ hall.flip hresponse
      exact ⟨_, hkey⟩
    have hdistinct : Fields.Distinct converted := by
      refine Fields.distinct_of_textKeys htext ?_
      rw [map_eq_of_forall₂ (hall.imp fun _ _ hentry => hentry.1)]
      exact List.Nodup.of_map Atom.plain (by rwa [List.map_map])
    -- the texts differ, so neither writing the entries nor merging what is read changes anything
    rw [Fields.ofEntries_eq hdistinct,
      Operation.readResponses_of_textKeys htext hdistinct] at hread
    obtain ⟨_, entries, heq, hentries, rfl⟩ := readMapping_eq_ok hread
    cases heq
    have hstatuses : List.Forall₂ (StatusRead produces) (keptResponses responses) entries := by
      refine forall₂_comp hall hentries ?_
      intro entry _ response result hresponse hresult
      rw [ReadEntry, hresponse.1] at hresult
      exact ⟨(Option.some.inj hresult.1).symm, _, hresponse.2, hresult.2⟩
    have hnames : (entries.map (·.1)).Nodup := by
      rw [map_eq_of_forall₂ (hstatuses.imp fun _ _ hstatus => hstatus.1)]
      exact hnodup
    rw [mergeEntries_eq hnames]
    exact hstatuses

/-- the responses of an operation of the older version that are no extensions -/
def statusesOf (operation : Fields) : Fields :=
  keptResponses ((operation.get? "responses").getD .null)

theorem isKeyed_of_mem_statusesOf {operation : Fields}
    (hkeyed : (Value.map operation).isKeyed = true) {entry : Atom × Value}
    (h : entry ∈ statusesOf operation) : entry.2.isKeyed = true :=
  (Value.isKeyed_map.mp (isKeyed_entriesAt hkeyed "responses")).2 _ (List.mem_filter.mp h).1

variable (named) in
/-- a type is the union of those of the responses with a status of a kind, without repetitions, or a
default if there are none -/
def UnionReadAs (ofStatus : String → Bool) (fallback : String) (statuses : Fields) (type : String) :
    Prop :=
  ∃ types, List.Forall₂ (fun entry type => ResponseReadAs named entry.1.plain entry.2 type)
    (statuses.filter fun entry => ofStatus entry.1.plain) types ∧
      type = typeOr fallback (unionOf types)

section
variable {setting : Setting} {operation : Fields} {w : Value} {o : Operation}

theorem OperationTo.statusesRead (hto : OperationTo setting operation w)
    (hkeyed : (Value.map operation).isKeyed = true) (hread : Operation.read w = .ok o)
    (hnodup : ((statusesOf operation).map fun entry => entry.1.plain).Nodup) :
    List.Forall₂ (StatusRead (producedTypes setting operation)) (statusesOf operation)
      (o.responses.getD []) := by
  have hkeys := Value.distinct_of_isKeyed hkeyed
  obtain ⟨fields, rfl, _, hresponses⟩ := Operation.read_eq_ok hread
  rcases presentField_eq_ok hresponses with ⟨hnone, hempty⟩ | ⟨u, results, hu, hresults, hsome⟩
  · -- no responses are left only where there were none
    have habsent : operation.get? "responses" = none := by
      cases hget : operation.get? "responses" with
      | none => rfl
      | some v =>
        obtain ⟨responses, hfound, _⟩ := hto.responses hkeys hget
        cases hnone.symm.trans hfound
    rw [hempty, statusesOf, habsent]
    exact .nil
  · obtain ⟨v, hv, hof⟩ := hto.exists_responses hkeys hu
    rw [statusesOf, hv] at hnodup ⊢
    rw [hsome]
    exact hof.read hnodup hresults

/-- **The converted responses of an operation have the types of the responses as they were.** -/
theorem OperationTo.responses_readAs (hnamed : PointerNaming named)
    (hto : OperationTo setting operation w) (hkeyed : (Value.map operation).isKeyed = true)
    (hread : Operation.read w = .ok o)
    (hnodup : ((statusesOf operation).map fun entry => entry.1.plain).Nodup)
    (hjson : HoldsJson (producedTypes setting operation)) {ofStatus : String → Bool}
    {fallback type : String} (htype : payloadUnionOr fallback
      ((o.responses.getD []).filter fun entry => ofStatus entry.1) = .ok type) :
    UnionReadAs named ofStatus fallback (statusesOf operation) type := by
  obtain ⟨types, htypes, rfl⟩ := payloadUnionOr_eq_ok htype
  have hstatuses : List.Forall₂ (StatusRead (producedTypes setting operation))
      ((statusesOf operation).filter fun entry => ofStatus entry.1.plain)
      ((o.responses.getD []).filter fun entry => ofStatus entry.1) := by
    refine List.rel_filter ?_ (hto.statusesRead hkeyed hread hnodup)
    intro entry result hstatus
    dsimp only
    rw [hstatus.1]
  refine ⟨types, forall₂_comp hstatuses htypes ?_, rfl⟩
  rintro entry hentry result type ⟨hname, response, hresponse, hresult⟩ hpayload
  rw [hname] at hpayload
  have hvalue := isKeyed_of_mem_statusesOf hkeyed (List.mem_filter.mp hentry).1
  exact hresponse.readAs hnamed hvalue hjson hresult hpayload

/-- the parameter is the only body in the list of an operation, and no pointer to one -/
structure OnlyBody (bodies : List Atom) (operation parameter : Fields) : Prop where
  inline : parameter.present? "$ref" = none
  isBody : hasText parameter "in" "body" = true
  only : ∃ earlier later, parameterList operation = earlier ++ .map parameter :: later ∧
    ∀ v ∈ earlier ++ later, role bodies v ≠ .body

/-- **The converted body of an operation has the type of the body as it was.** -/
theorem OperationTo.body_readAs (hnamed : PointerNaming named)
    (hto : OperationTo setting operation w) (hkeyed : (Value.map operation).isKeyed = true)
    (hread : Operation.read w = .ok o) {parameter : Fields}
    (honly : OnlyBody setting.bodies operation parameter)
    (hbehind : (behindParameters operation).has "requestBody" = false)
    (hjson : HoldsJson (Value.orElse (consumedTypes setting operation) defaultMediaTypes)) :
    ∃ payload, o.requestBody = .value payload ∧
      ∀ type, payloadType "body" (some payload) = .ok type → BodyReadAs named parameter type := by
  obtain ⟨earlier, later, hsplit, hothers⟩ := honly.only
  obtain ⟨c, hc, hchild⟩ := hto.last_body (Value.distinct_of_isKeyed hkeyed) hsplit
    (fun v hv => hothers v (List.mem_append_right _ hv)) hbehind
  obtain ⟨body, rfl, hof⟩ := hc.of_body honly.inline honly.isBody
  have hmem : .map parameter ∈ parameterList operation :=
    hsplit ▸ List.mem_append_right _ List.mem_cons_self
  obtain ⟨fields, rfl, hrequest, _⟩ := Operation.read_eq_ok hread
  have hne : body ≠ .null := by
    obtain ⟨_, _, _, rfl, _⟩ := hof.exists_fields
    exact fun h => nomatch h
  have hrel := optionalField_eq_ok.mp hrequest
  rw [Fields.given_eq_value.mpr ⟨hchild body rfl, hne⟩] at hrel
  generalize hown : o.requestBody = own at hrel
  cases hrel with
  | @value _ payload hpayload =>
    exact ⟨payload, rfl, fun type htype => hof.readAs hnamed
      (isKeyed_parameterList hkeyed _ hmem) hjson hpayload htype⟩

end

/-- the type of a body that is declared, unless the operation reads -/
theorem requestType_eq_ok {e : Endpoint} (hmethod : e.method ≠ .get) {payload : Referable Payload}
    (hbody : e.operation.requestBody = .value payload) {trailing : Option BindingParameter}
    {result : Option String} (h : requestType e trailing = .ok result) :
    ∃ type, payloadType "body" (some payload) = .ok type ∧ result = some type := by
  have hunion : (payloadUnion [("body", some payload)]).map some = .ok result := by
    unfold requestType at h
    rw [hbody] at h
    split at h
    · rename_i hget
      exact (hmethod hget).elim
    · rename_i hnone _
      cases hnone
    · exact h
  obtain ⟨type, htype, rfl⟩ := map_eq_ok.mp hunion
  exact ⟨type, payloadUnion_singleton.mp htype, rfl⟩

end ApiBindings.Swagger
