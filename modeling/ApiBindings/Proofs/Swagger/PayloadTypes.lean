import ApiBindings.Loading
import ApiBindings.Proofs.Bindings.Parts
import ApiBindings.Proofs.Swagger.Payloads

/-!
# The types of responses and bodies in bindings

The types in a binding are made of a document that was converted, read and searched for the media
type that counts.  They are those that are read off the document as it was.

* `parse_eq_ok`             an older document that is accepted was converted;
* `exists_convertedEndpoint`, `exists_operationTo`
                            its operations are what became of those that were there;
* `payload_types_readAs`    the types in the binding of an operation.
-/

namespace ApiBindings.Swagger

/-! ## documents that are accepted -/

theorem ofRaw_eq_ok {α : Type} {x : Except Malformed α} {a : α} (h : Attempt.ofRaw x = .ok a) :
    x = .ok a := by
  cases x with
  | ok b =>
    cases h
    rfl
  | error m => cases h

theorem checkedDescription_eq_ok {document : Value} {source : String} {d : Description}
    (h : checkedDescription document source = .ok d) : Description.read document = .ok d := by
  obtain ⟨fields, _, h⟩ := bind_eq_ok.mp h
  split at h
  · cases h
  · obtain ⟨version, _, h⟩ := bind_eq_ok.mp h
    split at h
    · split at h
      · rename_i hread
        cases h
        exact hread
      · cases h
    · cases h

theorem runtime_convert_eq_ok {runtime : Runtime} {document : Value} {u : Noted Value}
    (h : runtime.convert document = .ok u) : convert document = .ok u := by
  unfold Runtime.convert at h
  split at h
  · cases h
  · exact ofRaw_eq_ok h

/-- an older document that is accepted was converted, and the result was read -/
theorem parse_eq_ok {document : Value} (hversion : swaggerVersion? document = .ok (some "2.0"))
    {l : Loader} {source : String} {d : Description}
    (h : (l.parse document source).1 = .ok d) : ∃ out warnings,
      convert document = .ok ⟨out, warnings⟩ ∧ Description.read out = .ok d := by
  unfold Loader.parse at h
  split at h
  · cases h
  · rename_i u hupgraded
    obtain ⟨version, hown, hconvert⟩ := bind_eq_ok.mp hupgraded
    rw [hversion] at hown
    cases hown
    exact ⟨u.value, u.warnings, runtime_convert_eq_ok hconvert, checkedDescription_eq_ok h⟩

/-! ## operations that are read -/

/-- the entries that the paths of a document are taken from -/
def pathEntries (v : Value) : List (String × Value) :=
  (entriesUnder v ["paths"]).filterMap fun entry =>
    (keyText? entry.1).map fun path => (path, entry.2)

theorem listedPaths_eq (v : Value) : listedPaths v = mergeEntries (pathEntries v) := by
  unfold listedPaths pathEntries
  rw [entriesUnder, Value.at?_singleton]
  cases v with
  | map fields =>
    rw [Value.child?]
    dsimp only
    cases Fields.get? fields "paths" with
    | none => rfl
    | some paths => cases paths <;> rfl
  | _ => rfl

theorem mem_pathEntries {v : Value} {path : String} {item : Value} :
    (path, item) ∈ pathEntries v ↔
      ∃ key, (key, item) ∈ entriesUnder v ["paths"] ∧ keyText? key = some path := by
  unfold pathEntries
  rw [List.mem_filterMap]
  constructor
  · rintro ⟨⟨key, own⟩, hmem, heq⟩
    obtain ⟨text, htext, heq⟩ := Option.map_eq_some_iff.mp heq
    cases heq
    exact ⟨key, hmem, htext⟩
  · rintro ⟨key, hmem, htext⟩
    exact ⟨_, hmem, Option.map_eq_some_iff.mpr ⟨path, htext, rfl⟩⟩

section
variable {document : Fields} {out : Value} (hto : DocumentTo document out)
  (hkeyed : (Value.map document).isKeyed = true)
include hto hkeyed

/-- an item that is listed under a path is what became of the one that was there -/
theorem itemTo_of_listed {path : String} {item : Value} (hlisted : (path, item) ∈ listedPaths out)
    {source : Value} (hsource : (Value.map document).at? ["paths", path] = some source) :
    PathItemTo (settingOf document) (entriesOf source) item := by
  rw [listedPaths_eq] at hlisted
  obtain ⟨key, hmem, htext⟩ := mem_pathEntries.mp (mem_of_mem_mergeEntries hlisted)
  obtain ⟨path', v, hv, hkey, hitem⟩ := hto.exists_item hmem
  cases (show key = .string path' from hkey)
  cases htext
  have hkeys := Value.distinct_of_isKeyed (isKeyed_entriesAt hkeyed "paths")
  rw [at?_entriesAt, Fields.get?_of_mem hkeys hv] at hsource
  cases hsource
  exact hitem

theorem exists_listed {path : String} (hpath : Text.startsWith "x-" path = false) {source : Value}
    (hsource : (Value.map document).at? ["paths", path] = some source) :
    ∃ item, (path, item) ∈ listedPaths out := by
  obtain ⟨item, hitem, _⟩ := hto.item hkeyed hpath hsource
  obtain ⟨items, hitems, hget⟩ := Value.at?_snoc ["paths"] hitem
  have hmem : (path, item) ∈ pathEntries out := by
    refine mem_pathEntries.mpr ⟨.string path, ?_, rfl⟩
    rw [entriesUnder, hitems]
    exact Fields.mem_of_get? hget
  obtain ⟨entry, hentry, rfl⟩ := List.mem_map.mp (mem_keys_mergeEntries (List.mem_map_of_mem hmem))
  exact ⟨entry.2, listedPaths_eq out ▸ hentry⟩

variable {path : String} {m : Method} (hmethod : m.name ∈ methods) {operation : Fields}
  (hoperation : (Value.map document).at? ["paths", path, m.name] = some (.map operation))
include hmethod hoperation

theorem operationTo_of_listed {item : Value} (hlisted : (path, item) ∈ listedPaths out) :
    ∃ w, item.child? m.name = some w ∧ OperationTo (settingOf document) operation w := by
  obtain ⟨source, hsource, hget⟩ := Value.at?_snoc ["paths", path] hoperation
  have hkeys := Value.distinct_of_isKeyed (Value.everywhere_at hkeyed hsource)
  exact (itemTo_of_listed hto hkeyed hlisted hsource).operation hkeys hmethod hget

variable {d : Description} (hread : Description.read out = .ok d)
include hread

/-- every operation of a converted document that is no extension is read -/
theorem exists_convertedEndpoint (hpath : Text.startsWith "x-" path = false) :
    ∃ e ∈ d.endpoints, e.path = path ∧ e.method = m := by
  obtain ⟨source, hsource, _⟩ := Value.at?_snoc ["paths", path] hoperation
  obtain ⟨item, hlisted⟩ := exists_listed hto hkeyed hpath hsource
  obtain ⟨w, hw, hoperationTo⟩ := operationTo_of_listed hto hkeyed hmethod hoperation hlisted
  cases hoperationTo
  cases item with
  | map fields => exact exists_endpoint hread hlisted hw fun h => nomatch h
  | _ => cases hw

/-- an operation of a converted document was read from what became of the one that was there -/
theorem exists_operationTo {e : Endpoint} (he : e ∈ d.endpoints) (hpath : e.path = path)
    (hown : e.method = m) :
    ∃ w, OperationTo (settingOf document) operation w ∧ Operation.read w = .ok e.operation := by
  subst hpath hown
  obtain ⟨item, w, hlisted, hw, hreadOperation⟩ := mem_endpoints hread he
  obtain ⟨w', hw', hoperationTo⟩ := operationTo_of_listed hto hkeyed hmethod hoperation hlisted
  cases hw.symm.trans hw'
  exact ⟨w, hoperationTo, hreadOperation⟩

end

/-! ## bindings -/

variable {named : String → String}

variable (named) in
/-- The types in the binding of an operation are those of its responses and its body as they were,
if it sends and receives JSON, no two statuses have one text, and no other body follows the list
with the body. -/
structure TypesReadAs (document operation : Fields) (m : Method) (b : Binding) : Prop where
  response : ((statusesOf operation).map fun entry => entry.1.plain).Nodup →
    HoldsJson (producedTypes (settingOf document) operation) →
    UnionReadAs named isSuccess "void" (statusesOf operation) b.responseType
  error : ((statusesOf operation).map fun entry => entry.1.plain).Nodup →
    HoldsJson (producedTypes (settingOf document) operation) →
    UnionReadAs named (fun status => !isSuccess status) "unknown" (statusesOf operation) b.errorType
  body : m ≠ .get → ∀ parameter, OnlyBody (bodyNames document) operation parameter →
    (behindParameters operation).has "requestBody" = false →
    HoldsJson (Value.orElse (consumedTypes (settingOf document) operation) defaultMediaTypes) →
    ∃ type, b.bodyType = some type ∧ BodyReadAs named parameter type

/-- **The types in a binding are those that are read off the document as it was**, for every
operation of the document. -/
theorem payload_types_readAs (hnamed : PointerNaming named) {document : Fields}
    (hkeyed : (Value.map document).isKeyed = true)
    (hversion : swaggerVersion? (.map document) = .ok (some "2.0")) {l : Loader} {source : String}
    {d : Description} (hparse : (l.parse (.map document) source).1 = .ok d) {path : String}
    {m : Method} (hmethod : m.name ∈ methods) {operation : Fields}
    (hoperation : (Value.map document).at? ["paths", path, m.name] = some (.map operation)) :
    (Text.startsWith "x-" path = false → ∃ e ∈ d.endpoints, e.path = path ∧ e.method = m) ∧
      ∀ e ∈ d.endpoints, e.path = path → e.method = m →
        ∀ seen b, d.bind e seen = .ok b → TypesReadAs named document operation m b := by
  obtain ⟨out, warnings, hconvert, hread⟩ := parse_eq_ok hversion hparse
  obtain ⟨own, hown, hto⟩ := convert_gives ⟨warnings, hconvert⟩
  cases hown
  refine ⟨exists_convertedEndpoint hto hkeyed hmethod hoperation hread, ?_⟩
  intro e he hpath hm seen b hbind
  obtain ⟨w, hoperationTo, hreadOperation⟩ :=
    exists_operationTo hto hkeyed hmethod hoperation hread he hpath hm
  have hopKeyed : (Value.map operation).isKeyed = true := Value.everywhere_at hkeyed hoperation
  obtain ⟨sorted, hparts⟩ := Description.bind_eq_ok_iff_parts.mp hbind
  constructor
  · intro hnodup hjson
    exact hoperationTo.responses_readAs hnamed hopKeyed hreadOperation hnodup hjson hparts.response
  · intro hnodup hjson
    exact hoperationTo.responses_readAs hnamed hopKeyed hreadOperation hnodup hjson hparts.error
  · intro hnotGet parameter honly hbehind hjson
    obtain ⟨payload, hpayload, hreadAs⟩ :=
      hoperationTo.body_readAs hnamed hopKeyed hreadOperation honly hbehind hjson
    obtain ⟨type, htype, hbodyType⟩ := requestType_eq_ok (hm ▸ hnotGet) hpayload hparts.body
    exact ⟨type, hbodyType, hreadAs type htype⟩

def storeBody : Fields :=
  [(.string "in", .text "body"), (.string "name", .text "pet"),
    (.string "schema", .object [("type", .text "array"),
      ("items", .object [("$ref", .text "#/definitions/pet")])])]

/-- an operation with a body and responses of all kinds -/
def storeOperation : Fields :=
  [(.string "operationId", .text "addPet"),
    (.string "produces", .list [.text "text/plain", .text "Application/JSON; charset=utf-8"]),
    (.string "parameters", .list [
      .object [("in", .text "query"), ("name", .text "dry"), ("type", .text "boolean")],
      .map storeBody]),
    (.string "responses", .map [
      (.int 201, .object [("schema", .object [("$ref", .text "#/definitions/pet")])]),
      (.string "200", .object [("$ref", .text "#/responses/found")]),
      (.string "204", .null),
      (.string "202", .object [("schema", .object [("$ref", .text "#/definitions/pet")])]),
      (.string "default", .object [("schema", .object [("type", .text "file")])]),
      (.string "x-note", .text "nothing")])]

def storeDocument : Fields :=
  [(.string "swagger", .text "2.0"), (.string "host", .text "pets.example"),
    (.string "paths", .object [("/pets", .object [("post", .map storeOperation)])])]

def storeBinding : Binding where
  operationId := "addPet"
  name := "AddPet"
  method := "post"
  route := "/pets"
  pathParameters := []
  queryParameters := [⟨"dry", "boolean", false, none⟩]
  responseType := "Pet | FoundResponse | void"
  errorType := "string"
  bodyType := some "Pet[]"
  summary := none
  description := none
  trailing := none
  responseDeclaration := none
  polling := false

theorem bound_store : ∃ d, (Loader.parse {} (.map storeDocument) "pets.json").1 = .ok d ∧
    ∃ e ∈ d.endpoints, e.path = "/pets" ∧ e.method = .post ∧ d.bind e [] = .ok storeBinding :=
  ⟨_, rfl, _, List.mem_cons_self, rfl, rfl, toOption_eq_some.mp (by decide +kernel)⟩

theorem payload_types_readAs_store : PointerNaming movePointer ∧
    (Value.map storeDocument).isKeyed = true ∧
    swaggerVersion? (.map storeDocument) = .ok (some "2.0") ∧ Method.post.name ∈ methods ∧
    (Value.map storeDocument).at? ["paths", "/pets", "post"] = some (.map storeOperation) ∧
    ∃ d, (Loader.parse {} (.map storeDocument) "pets.json").1 = .ok d ∧
      (∃ e ∈ d.endpoints, e.path = "/pets" ∧ e.method = .post) ∧
      UnionReadAs movePointer isSuccess "void" (statusesOf storeOperation)
        "Pet | FoundResponse | void" ∧
      UnionReadAs movePointer (fun status => !isSuccess status) "unknown"
        (statusesOf storeOperation) "string" ∧
      BodyReadAs movePointer storeBody "Pet[]" := by
  have hkeyed : (Value.map storeDocument).isKeyed = true := by decide +kernel
  obtain ⟨d, hparse, e, he, hpath, hpost, hbind⟩ := bound_store
  have hmethod : Method.post.name ∈ methods := by decide
  have hoperation : (Value.map storeDocument).at? ["paths", "/pets", "post"] =
      some (.map storeOperation) := rfl
  obtain ⟨hexists, hall⟩ :=
    payload_types_readAs movePointer_naming hkeyed rfl hparse hmethod hoperation
  have htypes := hall e he hpath hpost [] storeBinding hbind
  have hproduces : HoldsJson (producedTypes (settingOf storeDocument) storeOperation) :=
    ⟨_, rfl, _, List.mem_cons_of_mem _ List.mem_cons_self, by decide +kernel⟩
  have hconsumes : HoldsJson (Value.orElse (consumedTypes (settingOf storeDocument) storeOperation)
      defaultMediaTypes) := ⟨_, rfl, _, List.mem_cons_self, by decide +kernel⟩
  have hnodup : ((statusesOf storeOperation).map fun entry => entry.1.plain).Nodup := by
    decide +kernel
  have honly : OnlyBody (bodyNames storeDocument) storeOperation storeBody :=
    ⟨rfl, by decide +kernel, [_], [], rfl, fun v hv => by
      rw [List.mem_singleton.mp hv]
      decide +kernel⟩
  obtain ⟨type, htype, hbody⟩ := htypes.body (by decide) storeBody honly (by decide +kernel) hconsumes
  cases htype
  exact ⟨movePointer_naming, hkeyed, rfl, hmethod, hoperation, d, hparse, hexists (by decide +kernel),
    htypes.response hnodup hproduces, htypes.error hnodup hproduces, hbody⟩

def textBody : Fields :=
  [(.string "in", .text "body"), (.string "name", .text "pet"),
    (.string "schema", .object [("type", .text "string")])]

def byteFile : Value := .object [("type", .atom (.bytes [102, 105, 108, 101]))]

/-- a schema that only can be read after the conversion -/
def strayDiscriminator : Value := .object [("properties", .object [("discriminator", .text "kind")])]

/-- an operation with a second body behind its parameters -/
def twoBodies : Fields :=
  [(.string "operationId", .text "addPet"), (.string "parameters", .list [.map textBody]),
    (.string "requestBody", .object [("content", .object [("application/json",
      .object [("schema", .object [("type", .text "number")])])])]),
    (.string "responses", .object [("200", .object [("schema", byteFile)]),
      ("400", .object [("schema", strayDiscriminator)])])]

def twoBodiesDocument : Fields :=
  [(.string "swagger", .text "2.0"), (.string "host", .text "pets.example"),
    (.string "paths", .object [("/pets", .object [("post", .map twoBodies)])])]

def twoBodiesBinding : Binding :=
  { storeBinding with
    queryParameters := []
    responseType := "any"
    errorType := "\x7bdiscriminator?: any\x7d"
    bodyType := some "number" }

theorem not_readAs_textBody : ¬ BodyReadAs movePointer textBody "number" := by
  intro h
  generalize hnumber : "number" = type at h
  cases h with
  | any hschema => cases hschema
  | schema hschema htype =>
    cases hschema
    subst hnumber
    have hdirect := htype.direct _ (by decide +kernel) rfl
    exact absurd (toOption_eq_some.mpr hdirect) (by decide +kernel)

/-- The body of an operation does not count if another one stands behind the list with it; a schema
with bytes for a word has not the type that it has directly, and one that cannot be read at all has
a type. -/
theorem payload_types_twoBodies : (Value.map twoBodiesDocument).isKeyed = true ∧
    swaggerVersion? (.map twoBodiesDocument) = .ok (some "2.0") ∧
    (∃ d, (Loader.parse {} (.map twoBodiesDocument) "pets.json").1 = .ok d ∧
      ∃ e ∈ d.endpoints, e.path = "/pets" ∧ e.method = .post ∧
        d.bind e [] = .ok twoBodiesBinding) ∧
    (OnlyBody (bodyNames twoBodiesDocument) twoBodies textBody ∧
      HoldsJson (Value.orElse (consumedTypes (settingOf twoBodiesDocument) twoBodies)
        defaultMediaTypes) ∧
      ¬ ∃ type, twoBodiesBinding.bodyType = some type ∧ BodyReadAs movePointer textBody type) ∧
    (∃ node, SchemaNode.read nestedAlternatives byteFile = .ok node ∧
      nodeType (node.direct movePointer) (some "200") ≠ .ok twoBodiesBinding.responseType) ∧
    ∀ node, SchemaNode.read nestedAlternatives strayDiscriminator ≠ .ok node := by
  refine ⟨by decide +kernel, rfl, ?_, ⟨?_, ?_, ?_⟩, ⟨_, rfl, ?_⟩, ?_⟩
  · exact ⟨_, rfl, _, List.mem_cons_self, rfl, rfl, toOption_eq_some.mp (by decide +kernel)⟩
  · exact ⟨rfl, by decide +kernel, [], [], rfl, fun v hv => nomatch hv⟩
  · exact ⟨_, rfl, _, List.mem_cons_self, by decide +kernel⟩
  · rintro ⟨type, htype, hread⟩
    cases htype
    exact not_readAs_textBody hread
  · exact mt toOption_eq_some.mpr (by decide +kernel)
  · intro node h
    cases h

end ApiBindings.Swagger
