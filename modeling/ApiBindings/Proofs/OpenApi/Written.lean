import ApiBindings.Proofs.OpenApi.Carries
import ApiBindings.Proofs.OpenApi.WrittenSchema

/-!
# Reading back descriptions that are written

The objects of a description are read back part by part.  Only the methods of a path change their
places: they come back in the order of declaration.

* `PartsApart.spelling_eq`           keys with two spellings are written under the usual one;
* `Operation.readsBack`         operations with everything in them;
* `PathItem.read_written`       the methods of a path, in the order of declaration;
* `Description.read_written`    a whole description.
-/

namespace ApiBindings

variable {α : Type}

/-! ## keys with two spellings -/

theorem ne_of_ne_spelling {fields : Fields} {name alternative key : String} {v : Value}
    (hmem : (Atom.string key, v) ∈ fields) (h : key ≠ spelling fields name alternative) :
    key ≠ name := by
  rintro rfl
  have hhas := Fields.has_of_mem hmem
  rw [spelling, hhas] at h
  exact h rfl

theorem spelling_of_has {fields : Fields} {name : String} (h : fields.has name = true)
    (alternative : String) : spelling fields name alternative = name := by
  rw [spelling, h]
  rfl

theorem Fields.has_of_given_absent {fields : Fields} {key : String}
    (h : fields.given key = .absent) : fields.has key = false := by
  unfold given at h
  split at h
  · rename_i hnone
    rw [has, hnone]
    rfl
  · cases h
  · cases h

/-- what was written stands under the usual spelling, and nothing else takes its place -/
theorem PartsApart.spelling_eq {fields : Fields} {keys known : List String}
    {parts : List (String × Given Value)} {extras : List (String × Value)}
    {name alternative : String} {read : Value → Checked α} {write : α → Value} {given : Given α}
    (h : PartsApart keys parts extras) (hextras : readExtras fields known = .ok extras)
    (hpart : (name, given.map write) ∈ parts) (halternative : alternative ∉ keys)
    (hread : optionalField read fields (spelling fields name alternative) = .ok given) :
    spelling (writtenFields parts extras) name alternative = name := by
  have hhas := h.has_written hpart
  cases given with
  | absent =>
    have hnone : fields.has (spelling fields name alternative) = false := by
      refine Fields.has_of_given_absent ?_
      have hrel := optionalField_eq_ok.mp hread
      revert hrel
      generalize fields.given (spelling fields name alternative) = given
      intro hrel
      cases hrel
      rfl
    have halone : fields.has alternative = false := by
      unfold spelling at hnone
      split at hnone
      · exact hnone
      · simp_all
    rw [spelling, h.has_written_eq_false hextras halternative halone, Bool.and_false]
    rfl
  | _ => exact spelling_of_has hhas alternative

/-! ## objects -/

theorem readsBack_nestedNode : ReadsBack readNestedNode SchemaNode.written :=
  SchemaNode.readsBack nestedAlternatives

namespace MediaType

def writtenParts (m : MediaType) : List (String × Given Value) :=
  [("schema", m.schema.map SchemaNode.written)]

theorem written_eq (m : MediaType) : m.written = .map (writtenFields m.writtenParts m.extras) := by
  simp only [written, writtenParts, writtenFields, keyed, List.flatMap_cons, List.flatMap_nil,
    entry_map, List.append_nil]
  rfl

theorem objectReadsBack : ObjectReadsBack MediaType.read MediaType.written := by
  intro v m h
  obtain ⟨fields, rfl, hparts⟩ := readObject_eq_ok.mp h
  obtain ⟨_, extras, h1, hextras, rfl⟩ := Checked.seq_eq_ok.mp hparts
  obtain ⟨schema, hschema, rfl⟩ := Checked.fmap_eq_ok.mp h1
  have hapart : PartsApart ["schema"] (writtenParts ⟨schema, extras⟩) extras := by
    refine ⟨rfl, by decide, fun entry hentry hkey => ?_⟩
    obtain ⟨hknown, hmem⟩ := mem_of_mem_extras hextras hentry
    exact ne_of_ne_spelling hmem (fun heq => hknown (List.mem_singleton.mpr heq))
      (List.mem_singleton.mp hkey)
  refine ⟨fields, _, rfl, written_eq _, ?_, hapart.has_written_eq_false hextras (by decide)⟩
  dsimp only [MediaType.read, readObject]
  rw [hapart.spelling_eq hextras List.mem_cons_self (by decide) hschema,
    hapart.optionalField_eq List.mem_cons_self neverNull_node readsBack_nestedNode hschema,
    hapart.readExtras_eq]
  rfl

end MediaType

namespace Parameter

def keys : List String := ["name", "in", "description", "required", "schema"]

def writtenParts (p : Parameter) : List (String × Given Value) :=
  [("name", .value (.text p.name)), ("in", .value (.text p.location)),
    ("description", p.description.map .text), ("required", p.required.map .bool),
    ("schema", p.schema.map SchemaNode.written)]

theorem written_eq (p : Parameter) : p.written = .map (writtenFields p.writtenParts p.extras) := by
  simp only [written, writtenParts, writtenFields, keyed, List.flatMap_cons, List.flatMap_nil,
    entry_map, List.append_nil, List.append_assoc]
  rfl

theorem objectReadsBack : ObjectReadsBack Parameter.read Parameter.written := by
  intro v p h
  obtain ⟨fields, rfl, hparts⟩ := readObject_eq_ok.mp h
  obtain ⟨_, extras, h5, hextras, rfl⟩ := Checked.seq_eq_ok.mp hparts
  obtain ⟨_, schema, h4, hschema, rfl⟩ := Checked.seq_eq_ok.mp h5
  obtain ⟨_, required, h3, hrequired, rfl⟩ := Checked.seq_eq_ok.mp h4
  obtain ⟨_, description, h2, hdescription, rfl⟩ := Checked.seq_eq_ok.mp h3
  obtain ⟨_, location, h1, hlocation, rfl⟩ := Checked.seq_eq_ok.mp h2
  obtain ⟨name, hname, rfl⟩ := Checked.fmap_eq_ok.mp h1
  have hapart : PartsApart keys
      (writtenParts ⟨name, location, description, required, schema, extras⟩) extras := by
    refine ⟨rfl, by decide, fun entry hentry hkey => ?_⟩
    obtain ⟨hknown, hmem⟩ := mem_of_mem_extras hextras hentry
    simp only [List.mem_cons, List.not_mem_nil, or_false, not_or] at hknown
    have hin := ne_of_ne_spelling hmem hknown.2.1
    have hschema := ne_of_ne_spelling hmem hknown.2.2.2.2
    simp only [keys, List.mem_cons, List.not_mem_nil, or_false] at hkey
    tauto
  refine ⟨fields, _, rfl, written_eq _, ?_, hapart.has_written_eq_false hextras (by decide)⟩
  -- the two required texts, and the keys that have two spellings
  have hnamePart : ("name", .value (.text name)) ∈ writtenParts
      ⟨name, location, description, required, schema, extras⟩ := by simp [writtenParts]
  have hlocationPart : ("in", .value (.text location)) ∈ writtenParts
      ⟨name, location, description, required, schema, extras⟩ := by simp [writtenParts]
  have hschemaPart : ("schema", schema.map SchemaNode.written) ∈ writtenParts
      ⟨name, location, description, required, schema, extras⟩ := by simp [writtenParts]
  have hin := spelling_of_has (hapart.has_written hlocationPart) "in_"
  dsimp only [Parameter.read, readObject]
  rw [hin, hapart.spelling_eq hextras hschemaPart (by decide) hschema,
    hapart.requiredField_eq hnamePart (show readText (.text name) = .ok name from rfl),
    hapart.requiredField_eq hlocationPart (show readText (.text location) = .ok location from rfl),
    hapart.optionalField_eq (by simp [writtenParts]) neverNull_text readsBack_text hdescription,
    hapart.optionalField_eq (by simp [writtenParts]) neverNull_bool readsBack_bool hrequired,
    hapart.optionalField_eq hschemaPart neverNull_node readsBack_nestedNode hschema,
    show readExtras _ ["name", "in", "description", "required", "schema"] = _ from
      hapart.readExtras_eq]
  rfl

end Parameter

namespace Payload

def writtenParts (p : Payload) : List (String × Given Value) :=
  [("content", p.content.map (writeMapping MediaType.written))]

theorem written_eq (p : Payload) : p.written = .map (writtenFields p.writtenParts p.extras) := by
  simp only [written, writtenParts, writtenFields, keyed, List.flatMap_cons, List.flatMap_nil,
    entry_map, List.append_nil]
  rfl

theorem neverNull_written : NeverNull Payload.written := fun _ h => nomatch h

theorem objectReadsBack (model : String) :
    ObjectReadsBack (Payload.read model) Payload.written := by
  intro v p h
  obtain ⟨fields, rfl, hparts⟩ := readObject_eq_ok.mp h
  obtain ⟨_, extras, h1, hextras, rfl⟩ := Checked.seq_eq_ok.mp hparts
  obtain ⟨content, hcontent, rfl⟩ := Checked.fmap_eq_ok.mp h1
  have hapart : PartsApart ["content"] (writtenParts ⟨content, extras⟩) extras :=
    .of_extras rfl (by decide) hextras
  refine ⟨fields, _, rfl, written_eq _, ?_, hapart.has_written_eq_false hextras (by decide)⟩
  dsimp only [Payload.read, readObject]
  rw [hapart.optionalField_eq List.mem_cons_self (neverNull_writeMapping _)
    MediaType.objectReadsBack.readsBack.mapping hcontent, hapart.readExtras_eq]
  rfl

theorem readsBack_response : ReadsBack Payload.readResponse (Referable.written Payload.written) :=
  (objectReadsBack "Response").referable

theorem readsBack_requestBody :
    ReadsBack Payload.readRequestBody (Referable.written Payload.written) :=
  (objectReadsBack "RequestBody").referable

end Payload

/-! ## null, and keys that are there -/

theorem neverNull_referable {write : α → Value} (h : NeverNull write) :
    NeverNull (Referable.written write) := by
  rintro (target | object) heq
  · cases heq
  · exact h object heq

theorem ReadsBack.nullable {read : Value → Checked α} {write : α → Value}
    (h : ReadsBack read write) (hnull : NeverNull write) :
    ReadsBack (readNullable read) (writeNullable write) := by
  intro v x hx
  rcases readNullable_eq_ok hx with ⟨_, rfl⟩ | ⟨a, _, ha, rfl⟩
  · rfl
  · rw [writeNullable, readNullable_of_ne_null (hnull a), h v a ha]
    rfl

def Given.ofOption : Option α → Given α
  | none => .absent
  | some a => .value a

theorem entry_ofOption (write : α → Value) (x : Option α) (key : String) :
    (Given.ofOption x).entry key write = presentEntry key write x := by
  cases x <;> rfl

theorem PartsApart.presentField_eq {keys : List String} {parts : List (String × Given Value)}
    {extras : List (String × Value)} {key : String} {read : Value → Checked α}
    (write : α → Value) {back : α → α} (h : PartsApart keys parts extras) {x : Option α}
    (hpart : (key, (Given.ofOption x).map write) ∈ parts)
    (hback : ∀ a, x = some a → read (write a) = .ok (back a)) :
    presentField read (writtenFields parts extras) key = .ok (x.map back) := by
  rw [presentField, h.get?_written hpart]
  cases x with
  | none => rfl
  | some a => exact Checked.at_eq_ok.mpr (Checked.map_eq_ok.mpr ⟨back a, hback a rfl, rfl⟩)

theorem Operation.readResponses_writeMapping {write : α → Value} {entries : List (String × α)}
    (hkeys : (entries.map (·.1)).Nodup) :
    readResponses (writeMapping write entries) =
      readMapping (readNullable Payload.readResponse) (writeMapping write entries) := by
  have htext : (textFields (entries.map fun entry => (entry.1, write entry.2))).TextKeys := by
    intro field hfield
    obtain ⟨entry, _, rfl⟩ := List.mem_map.mp hfield
    exact ⟨entry.1, rfl⟩
  have hnodup : ((textFields (entries.map fun entry => (entry.1, write entry.2))).map
      (·.1)).Nodup := by
    have hstrings := hkeys.map fun _ _ => Atom.string.inj
    rw [List.map_map] at hstrings
    rw [textFields, List.map_map, List.map_map]
    exact hstrings
  exact readResponses_of_textKeys htext (Fields.distinct_of_textKeys htext hnodup)

/-! ## operations and paths -/

namespace Operation

def keys : List String :=
  ["operationId", "summary", "description", "parameters", "requestBody", "responses"]

def writeResponses : List (String × Option (Referable Payload)) → Value :=
  writeMapping (writeNullable (Referable.written Payload.written))

def writtenParts (o : Operation) : List (String × Given Value) :=
  [("operationId", o.operationId.map .text), ("summary", o.summary.map .text),
    ("description", o.description.map .text),
    ("parameters", o.parameters.map (writeList (Referable.written Parameter.written))),
    ("requestBody", o.requestBody.map (Referable.written Payload.written)),
    ("responses", (Given.ofOption o.responses).map writeResponses)]

theorem written_eq (o : Operation) : o.written = .map (writtenFields o.writtenParts o.extras) := by
  simp only [written, writtenParts, writtenFields, keyed, List.flatMap_cons, List.flatMap_nil,
    entry_map, entry_ofOption, List.append_nil, List.append_assoc]
  rfl

theorem neverNull_written : NeverNull Operation.written := fun _ h => nomatch h

theorem readsBack_responses :
    ReadsBack readResponses writeResponses := by
  intro v responses h
  obtain ⟨hkeys, hread⟩ := readMapping_results (readResponses_eq_ok h)
  have hresponse : ReadsBack (readNullable Payload.readResponse)
      (writeNullable (Referable.written Payload.written)) :=
    Payload.readsBack_response.nullable (neverNull_referable Payload.neverNull_written)
  rw [writeResponses, readResponses_writeMapping hkeys, readMapping_written id hkeys, mapValues_id]
  intro entry hentry
  obtain ⟨w, hw⟩ := hread entry hentry
  exact hresponse w _ hw

theorem readsBack_parameters : ReadsBack (readList (readReferable Parameter.read))
    (writeList (Referable.written Parameter.written)) :=
  Parameter.objectReadsBack.referable.list

theorem readsBack : ReadsBack Operation.read Operation.written := by
  intro v o h
  obtain ⟨fields, rfl, hparts⟩ := readObject_eq_ok.mp h
  obtain ⟨_, extras, h6, hextras, rfl⟩ := Checked.seq_eq_ok.mp hparts
  obtain ⟨_, responses, h5, hresponses, rfl⟩ := Checked.seq_eq_ok.mp h6
  obtain ⟨_, body, h4, hbody, rfl⟩ := Checked.seq_eq_ok.mp h5
  obtain ⟨_, parameters, h3, hparameters, rfl⟩ := Checked.seq_eq_ok.mp h4
  obtain ⟨_, description, h2, hdescription, rfl⟩ := Checked.seq_eq_ok.mp h3
  obtain ⟨_, summary, h1, hsummary, rfl⟩ := Checked.seq_eq_ok.mp h2
  obtain ⟨id, hid, rfl⟩ := Checked.fmap_eq_ok.mp h1
  have hapart : PartsApart keys (writtenParts
      ⟨id, summary, description, parameters, body, responses, extras⟩) extras :=
    .of_extras rfl (by decide) hextras
  have hback : presentField readResponses
      (writtenFields (writtenParts ⟨id, summary, description, parameters, body, responses, extras⟩)
        extras) "responses" = .ok (responses.map fun r => r) := by
    refine hapart.presentField_eq writeResponses (by simp [writtenParts]) fun r hr => ?_
    rcases presentField_eq_ok hresponses with ⟨_, hnone⟩ | ⟨w, a, _, ha, hsome⟩
    · rw [hnone] at hr
      cases hr
    · rw [hsome] at hr
      cases hr
      exact readsBack_responses w _ ha
  rw [written_eq]
  dsimp only [Operation.read, readObject]
  rw [hapart.optionalField_eq (by simp [writtenParts]) neverNull_text readsBack_text hid,
    hapart.optionalField_eq (by simp [writtenParts]) neverNull_text readsBack_text hsummary,
    hapart.optionalField_eq (by simp [writtenParts]) neverNull_text readsBack_text hdescription,
    hapart.optionalField_eq (by simp [writtenParts]) (neverNull_writeList _) readsBack_parameters
      hparameters,
    hapart.optionalField_eq (by simp [writtenParts])
      (neverNull_referable Payload.neverNull_written) Payload.readsBack_requestBody hbody,
    hback, Option.map_id', show readExtras _ ["operationId", "summary", "description",
      "parameters", "requestBody", "responses"] = _ from hapart.readExtras_eq]
  rfl

end Operation

section
variable {κ : Type} [BEq κ] [LawfulBEq κ] {l : List (κ × α)}

theorem key_of_find? {k : κ} {entry : κ × α}
    (h : l.find? (fun other => other.1 == k) = some entry) : entry.1 = k := by
  have h := List.find?_some h
  exact beq_iff_eq.mp h

theorem find?_of_nodup_keys (hkeys : (l.map (·.1)).Nodup) {entry : κ × α} (h : entry ∈ l) :
    (l.find? fun other => other.1 == entry.1) = some entry := by
  cases hfind : l.find? fun other => other.1 == entry.1 with
  | none => exact absurd (beq_self_eq_true entry.1) (List.find?_eq_none.mp hfind entry h)
  | some other =>
    rw [List.inj_on_of_nodup_map hkeys (List.mem_of_find?_eq_some hfind) h (key_of_find? hfind)]

end

namespace PathItem

def keys : List String := "parameters" :: Method.all.map Method.name

def methodPart (item : PathItem) (m : Method) : Given Value :=
  match item.methods.find? fun entry => entry.1 == m with
  | none => .absent
  | some (_, none) => .null
  | some (_, some operation) => .value operation.written

def writtenParts (item : PathItem) : List (String × Given Value) :=
  ("parameters", item.parameters.map (writeList (Referable.written Parameter.written))) ::
    Method.all.map fun m => (m.name, item.methodPart m)

def writeMethod (entry : Method × Option Operation) : String × Value :=
  (entry.1.name, writeNullable Operation.written entry.2)

theorem methodPart_entry (item : PathItem) (m : Method) : (item.methodPart m).entry m.name id =
    ((item.methods.find? fun entry => entry.1 == m).map writeMethod).toList := by
  unfold methodPart
  split
  · rename_i hfind
    rw [hfind]
    rfl
  all_goals
    rename_i hfind
    rw [hfind, ← key_of_find? hfind]
    rfl

theorem keyed_methods (item : PathItem) :
    keyed (Method.all.map fun m => (m.name, item.methodPart m)) =
      item.inDeclaredOrder.methods.map writeMethod := by
  rw [keyed, List.flatMap_map, inDeclaredOrder, List.map_filterMap,
    List.filterMap_eq_flatMap_toList]
  exact congrArg (List.flatMap · Method.all) (funext item.methodPart_entry)

theorem keyed_writtenParts (item : PathItem) : keyed item.writtenParts =
    item.parameters.entry "parameters" (writeList (Referable.written Parameter.written)) ++
      item.inDeclaredOrder.methods.map writeMethod := by
  rw [← keyed_methods, ← entry_map]
  rfl

theorem written_eq (item : PathItem) :
    item.written = .map (writtenFields item.writtenParts item.extras) := by
  rw [writtenFields, keyed_writtenParts]
  rfl

/-! the methods of what was written -/

theorem nodup_methods (item : PathItem) : (item.inDeclaredOrder.methods.map (·.1)).Nodup := by
  have hfst (m : Method) : (item.methods.find? fun entry => entry.1 == m).map (·.1) =
      Option.guard (fun m => (item.methods.find? fun entry => entry.1 == m).isSome) m := by
    cases hfind : item.methods.find? fun entry => entry.1 == m with
    | none => simp [Option.guard, hfind]
    | some entry => simp [Option.guard, hfind, key_of_find? hfind]
  have hall : Method.all.Nodup := by decide
  rw [inDeclaredOrder, List.map_filterMap]
  simp only [hfst]
  rw [List.filterMap_eq_filter]
  exact hall.filter _

theorem inOrder_methods (item : PathItem) :
    inOrder (item.inDeclaredOrder.methods.map (·.1)) item.inDeclaredOrder.methods =
      item.inDeclaredOrder.methods := by
  rw [inOrder, List.filterMap_map]
  refine (List.filterMap_congr fun entry hentry => ?_).trans List.filterMap_some
  exact find?_of_nodup_keys item.nodup_methods hentry

theorem methodOf?_eq_none {key : String} (h : key ∉ keys) : methodOf? (.string key) = none := by
  cases hm : Method.ofName? key with
  | none => exact hm
  | some m =>
    refine absurd (List.mem_cons_of_mem _ (List.mem_map.mpr ⟨m, mem_all m, ?_⟩)) h
    exact name_of_ofName? hm

theorem methodOrder_written {item : PathItem} (h : ∀ entry ∈ item.extras, entry.1 ∉ keys) :
    methodOrder (writtenFields item.writtenParts item.extras) =
      item.inDeclaredOrder.methods.map (·.1) := by
  have hparameters : (item.parameters.entry "parameters"
      (writeList (Referable.written Parameter.written))).filterMap
        (fun entry => methodOf? (.string entry.1)) = [] := by
    cases item.parameters <;> rfl
  have hmethods : (item.inDeclaredOrder.methods.map writeMethod).filterMap
      (fun entry => methodOf? (.string entry.1)) = item.inDeclaredOrder.methods.map (·.1) := by
    rw [List.filterMap_map, ← List.filterMap_eq_map]
    exact List.filterMap_congr fun (entry : Method × _) _ => ofName?_name entry.1
  have hextras : item.extras.filterMap (fun entry => methodOf? (.string entry.1)) = [] :=
    List.filterMap_eq_nil_iff.mpr fun entry hentry => methodOf?_eq_none (h entry hentry)
  rw [methodOrder_eq, writtenFields, textFields, List.map_map, List.filterMap_map,
    keyed_writtenParts]
  show List.filterMap (fun entry : String × Value => methodOf? (.string entry.1)) _ = _
  rw [List.filterMap_append, List.filterMap_append, hparameters, hmethods, hextras,
    List.nil_append, List.append_nil]

theorem readMethod_written {item : PathItem} {extras : List (String × Value)}
    (hapart : PartsApart keys item.writtenParts extras)
    (hback : ∀ entry ∈ item.operations, Operation.read entry.2.written = .ok entry.2) (m : Method) :
    readMethod (writtenFields item.writtenParts extras) m =
      .ok (item.methods.find? fun entry => entry.1 == m).toList := by
  have hpart : (m.name, item.methodPart m) ∈ item.writtenParts :=
    List.mem_cons_of_mem _ (List.mem_map.mpr ⟨m, mem_all m, rfl⟩)
  have hget := hapart.get?_written hpart
  rw [methodPart] at hget
  cases hfind : item.methods.find? fun entry => entry.1 == m with
  | none =>
    rw [hfind] at hget
    rw [readMethod, hget]
    rfl
  | some entry =>
    obtain ⟨m', operation⟩ := entry
    cases key_of_find? hfind
    rw [hfind] at hget
    cases operation with
    | none =>
      rw [readMethod, hget]
      rfl
    | some operation =>
      have hmem : (m', operation) ∈ item.operations :=
        List.mem_filterMap.mpr ⟨_, List.mem_of_find?_eq_some hfind, rfl⟩
      rw [readMethod, hget]
      refine Checked.at_eq_ok.mpr ?_
      rw [readNullable_of_ne_null (Operation.neverNull_written operation), hback _ hmem]
      rfl

/-- a path item comes back with its methods in the order of declaration -/
theorem read_written {v : Value} {item : PathItem} (h : PathItem.read v = .ok item) :
    PathItem.read item.written = .ok item.inDeclaredOrder := by
  obtain ⟨fields, rfl, hparts⟩ := readObject_eq_ok.mp h
  obtain ⟨hparameters, _⟩ := read_eq_ok h
  have hextras : readExtras fields keys = .ok item.extras := by
    obtain ⟨_, extras, htwo, hextras, hitem⟩ := Checked.seq_eq_ok.mp hparts
    obtain ⟨_, methods, hone, _, rfl⟩ := Checked.seq_eq_ok.mp htwo
    obtain ⟨parameters, _, rfl⟩ := Checked.fmap_eq_ok.mp hone
    rw [← hitem]
    exact hextras
  have hapart : PartsApart keys item.writtenParts item.extras := .of_extras rfl (by decide) hextras
  have hback : ∀ entry ∈ item.operations, Operation.read entry.2.written = .ok entry.2 := by
    rintro ⟨m, operation⟩ hmem
    obtain ⟨v, _, hv⟩ := mem_operations h hmem
    exact Operation.readsBack v operation hv
  have hmethods : Checked.all (Method.all.map
      (readMethod (writtenFields item.writtenParts item.extras))) =
        .ok (Method.all.map fun m => (item.methods.find? fun entry => entry.1 == m).toList) :=
    all_map_ok fun m _ => readMethod_written hapart hback m
  have hflat : (Method.all.map fun m =>
      (item.methods.find? fun entry => entry.1 == m).toList).flatten =
        item.inDeclaredOrder.methods := by
    rw [inDeclaredOrder, List.filterMap_eq_flatMap_toList, List.flatMap_def]
  rw [written_eq]
  dsimp only [PathItem.read, readObject]
  rw [hapart.optionalField_eq List.mem_cons_self (neverNull_writeList _)
    Operation.readsBack_parameters hparameters, hmethods,
    methodOrder_written fun entry hentry => (mem_of_mem_extras hextras hentry).1,
    show readExtras _ ("parameters" :: Method.all.map Method.name) = _ from hapart.readExtras_eq]
  show Checked.ok (PathItem.mk _ (inOrder _ (List.flatten _)) _) = _
  rw [hflat, inOrder_methods]
  rfl

end PathItem

/-! ## documents -/

namespace Components

def keys : List String := ["schemas", "responses", "parameters", "requestBodies"]

def writtenParts (c : Components) : List (String × Given Value) :=
  [("schemas", c.schemas.map (writeMapping SchemaNode.written)),
    ("responses", c.responses.map (writeMapping (Referable.written Payload.written))),
    ("parameters", c.parameters.map (writeMapping (Referable.written Parameter.written))),
    ("requestBodies", c.requestBodies.map (writeMapping (Referable.written Payload.written)))]

theorem written_eq (c : Components) : c.written = .map (writtenFields c.writtenParts c.extras) := by
  simp only [written, writtenParts, writtenFields, keyed, List.flatMap_cons, List.flatMap_nil,
    entry_map, List.append_nil, List.append_assoc]
  rfl

theorem neverNull_written : NeverNull Components.written := fun _ h => nomatch h

theorem readsBack : ReadsBack Components.read Components.written := by
  intro v c h
  obtain ⟨fields, rfl, hparts⟩ := readObject_eq_ok.mp h
  obtain ⟨_, extras, h4, hextras, rfl⟩ := Checked.seq_eq_ok.mp hparts
  obtain ⟨_, bodies, h3, hbodies, rfl⟩ := Checked.seq_eq_ok.mp h4
  obtain ⟨_, parameters, h2, hparameters, rfl⟩ := Checked.seq_eq_ok.mp h3
  obtain ⟨_, responses, h1, hresponses, rfl⟩ := Checked.seq_eq_ok.mp h2
  obtain ⟨schemas, hschemas, rfl⟩ := Checked.fmap_eq_ok.mp h1
  have hapart : PartsApart keys
      (writtenParts ⟨schemas, responses, parameters, bodies, extras⟩) extras :=
    .of_extras rfl (by decide) hextras
  rw [written_eq]
  dsimp only [Components.read, readObject]
  rw [hapart.optionalField_eq (by simp [writtenParts]) (neverNull_writeMapping _)
      readsBack_nestedNode.mapping hschemas,
    hapart.optionalField_eq (by simp [writtenParts]) (neverNull_writeMapping _)
      Payload.readsBack_response.mapping hresponses,
    hapart.optionalField_eq (by simp [writtenParts]) (neverNull_writeMapping _)
      Parameter.objectReadsBack.referable.mapping hparameters,
    hapart.optionalField_eq (by simp [writtenParts]) (neverNull_writeMapping _)
      Payload.readsBack_requestBody.mapping hbodies,
    show readExtras _ ["schemas", "responses", "parameters", "requestBodies"] = _ from
      hapart.readExtras_eq]
  rfl

end Components

namespace Info

def writtenParts (i : Info) : List (String × Given Value) :=
  [("title", i.title.map .text), ("version", i.version.map .text)]

theorem written_eq (i : Info) : i.written = .map (writtenFields i.writtenParts i.extras) := by
  simp only [written, writtenParts, writtenFields, keyed, List.flatMap_cons, List.flatMap_nil,
    entry_map, List.append_nil, List.append_assoc]
  rfl

theorem neverNull_written : NeverNull Info.written := fun _ h => nomatch h

theorem readsBack : ReadsBack Info.read Info.written := by
  intro v i h
  obtain ⟨fields, rfl, hparts⟩ := readObject_eq_ok.mp h
  obtain ⟨_, extras, h2, hextras, rfl⟩ := Checked.seq_eq_ok.mp hparts
  obtain ⟨_, version, h1, hversion, rfl⟩ := Checked.seq_eq_ok.mp h2
  obtain ⟨title, htitle, rfl⟩ := Checked.fmap_eq_ok.mp h1
  have hapart : PartsApart ["title", "version"] (writtenParts ⟨title, version, extras⟩) extras :=
    .of_extras rfl (by decide) hextras
  rw [written_eq]
  dsimp only [Info.read, readObject]
  rw [hapart.optionalField_eq (by simp [writtenParts]) neverNull_text readsBack_text htitle,
    hapart.optionalField_eq (by simp [writtenParts]) neverNull_text readsBack_text hversion,
    hapart.readExtras_eq]
  rfl

end Info

namespace Description

def keys : List String := ["openapi", "info", "servers", "paths", "components"]

/-- the same description with the methods of every path in the order of declaration -/
def inDeclaredOrder (d : Description) : Description :=
  { d with paths := d.paths.map (mapValues PathItem.inDeclaredOrder) }

def writtenParts (d : Description) : List (String × Given Value) :=
  [("openapi", .value (.text d.openapi)), ("info", d.info.map Info.written),
    ("servers", d.servers.map (writeList (writeMapping id))),
    ("paths", (Given.ofOption d.paths).map (writeMapping PathItem.written)),
    ("components", d.components.map Components.written)]

theorem object_eq_writeMapping : Value.object = writeMapping id := by
  funext entries
  exact congrArg Value.object (List.map_id entries).symm

theorem written_eq (d : Description) :
    d.written = .map (writtenFields d.writtenParts d.extras) := by
  simp only [written, writtenParts, writtenFields, keyed, List.flatMap_cons, List.flatMap_nil,
    entry_map, entry_ofOption, List.append_nil, List.append_assoc, ← object_eq_writeMapping]
  rfl

theorem readsBack_value : ReadsBack Checked.ok id := fun _ _ _ => rfl

/-- **A description is read back off what it is written as.**  Only the methods of its paths come
back in the order of declaration. -/
theorem read_written {v : Value} {d : Description} (h : Description.read v = .ok d) :
    Description.read d.written = .ok d.inDeclaredOrder := by
  obtain ⟨fields, rfl, hparts⟩ := readObject_eq_ok.mp h
  obtain ⟨_, extras, h5, hextras, rfl⟩ := Checked.seq_eq_ok.mp hparts
  obtain ⟨_, components, h4, hcomponents, rfl⟩ := Checked.seq_eq_ok.mp h5
  obtain ⟨_, paths, h3, hpaths, rfl⟩ := Checked.seq_eq_ok.mp h4
  obtain ⟨_, servers, h2, hservers, rfl⟩ := Checked.seq_eq_ok.mp h3
  obtain ⟨_, info, h1, hinfo, rfl⟩ := Checked.seq_eq_ok.mp h2
  obtain ⟨openapi, _, rfl⟩ := Checked.fmap_eq_ok.mp h1
  have hapart : PartsApart keys (writtenParts ⟨openapi, info, servers, paths, components, extras⟩)
      extras := .of_extras rfl (by decide) hextras
  have hversion : ("openapi", .value (.text openapi)) ∈
      writtenParts ⟨openapi, info, servers, paths, components, extras⟩ := List.mem_cons_self
  have hback : presentField (readMapping PathItem.read)
      (writtenFields (writtenParts ⟨openapi, info, servers, paths, components, extras⟩) extras)
        "paths" = .ok (paths.map (mapValues PathItem.inDeclaredOrder)) := by
    refine hapart.presentField_eq (writeMapping PathItem.written) (by simp [writtenParts])
      fun items hitems => ?_
    rcases presentField_eq_ok hpaths with ⟨_, hnone⟩ | ⟨w, a, _, ha, hsome⟩
    · rw [hnone] at hitems
      cases hitems
    · rw [hsome] at hitems
      cases hitems
      obtain ⟨hkeys, hread⟩ := readMapping_results ha
      refine readMapping_written _ hkeys fun entry hentry => ?_
      obtain ⟨u, hu⟩ := hread entry hentry
      exact PathItem.read_written hu
  rw [written_eq]
  dsimp only [Description.read, readObject]
  rw [hapart.requiredField_eq hversion (show readText (.text openapi) = .ok openapi from rfl),
    hapart.optionalField_eq (by simp [writtenParts]) Info.neverNull_written Info.readsBack hinfo,
    hapart.optionalField_eq (by simp [writtenParts]) (neverNull_writeList _)
      readsBack_value.mapping.list hservers,
    hback,
    hapart.optionalField_eq (by simp [writtenParts]) Components.neverNull_written
      Components.readsBack hcomponents,
    show readExtras _ ["openapi", "info", "servers", "paths", "components"] = _ from
      hapart.readExtras_eq]
  rfl

end Description

end ApiBindings
