import ApiBindings.Proofs.Bindings.Listing
import ApiBindings.Proofs.OpenApi.ReadSchema
import ApiBindings.Synthesis.PayloadType

/-!
# What an operation was read from

Operations, payloads and media types, described by the values under their keys.

* `mem_endpoints`, `exists_endpoint`
                                   the operations of a description stand in its document;
* `Operation.read_eq_ok`           its request body and its responses;
* `Payload.read_eq_ok`, `MediaType.read_eq_ok`
                                   what these hold.
-/

namespace ApiBindings

variable {α : Type}

/-! ## entries that stand once -/

theorem keys_putEntry (key : String) (a : α) (entries : List (String × α)) :
    (putEntry key a entries).map (·.1) =
      if key ∈ entries.map (·.1) then entries.map (·.1) else entries.map (·.1) ++ [key] := by
  induction entries with
  | nil => rfl
  | cons entry rest ih =>
    obtain ⟨k, v⟩ := entry
    rw [putEntry]
    by_cases hk : k = key
    · subst hk
      rw [if_pos rfl, if_pos (by simp)]
      rfl
    · rw [if_neg hk, List.map_cons, ih, List.map_cons]
      simp only [List.mem_cons, Ne.symm hk, false_or]
      split <;> rfl

theorem mem_putEntry {key : String} {a : α} {entries : List (String × α)} {x : String × α}
    (h : x ∈ putEntry key a entries) : x = (key, a) ∨ x ∈ entries := by
  induction entries with
  | nil => exact .inl (List.mem_singleton.mp h)
  | cons entry rest ih =>
    obtain ⟨k, v⟩ := entry
    rw [putEntry] at h
    split at h
    · rename_i hk
      rcases List.mem_cons.mp h with rfl | h
      · rw [hk]
        exact .inl rfl
      · exact .inr (List.mem_cons_of_mem _ h)
    · rcases List.mem_cons.mp h with rfl | h
      · exact .inr List.mem_cons_self
      · exact (ih h).imp_right (List.mem_cons_of_mem _)

theorem putEntry_new {key : String} (a : α) {entries : List (String × α)}
    (h : key ∉ entries.map (·.1)) : putEntry key a entries = entries ++ [(key, a)] := by
  induction entries with
  | nil => rfl
  | cons entry rest ih =>
    obtain ⟨k, v⟩ := entry
    rw [List.map_cons, List.mem_cons, not_or] at h
    rw [putEntry, if_neg (Ne.symm h.1), ih h.2]
    rfl

/-- leaving one entry for each key adds none -/
theorem mem_of_mem_mergeEntries {entries : List (String × α)} {x : String × α}
    (h : x ∈ mergeEntries entries) : x ∈ entries := by
  have hstep : ∀ acc : List (String × α),
      x ∈ entries.foldl (fun acc entry => putEntry entry.1 entry.2 acc) acc →
      x ∈ acc ∨ x ∈ entries := by
    clear h
    induction entries with
    | nil => exact fun acc h => .inl h
    | cons entry rest ih =>
      intro acc h
      rcases ih _ h with h | h
      · rcases mem_putEntry h with rfl | h
        · exact .inr List.mem_cons_self
        · exact .inl h
      · exact .inr (List.mem_cons_of_mem _ h)
  rcases hstep [] h with h | h
  · cases h
  · exact h

/-- and it loses no key -/
theorem mem_keys_mergeEntries {entries : List (String × α)} {key : String}
    (h : key ∈ entries.map (·.1)) : key ∈ (mergeEntries entries).map (·.1) := by
  have hstep : ∀ acc : List (String × α), key ∈ acc.map (·.1) ∨ key ∈ entries.map (·.1) →
      key ∈ (entries.foldl (fun acc entry => putEntry entry.1 entry.2 acc) acc).map (·.1) := by
    clear h
    induction entries with
    | nil =>
      rintro acc (h | h)
      · exact h
      · cases h
    | cons entry rest ih =>
      intro acc h
      rw [List.foldl_cons]
      refine ih _ ?_
      rw [keys_putEntry]
      rcases h with h | h
      · left
        split
        · exact h
        · exact List.mem_append_left _ h
      · rcases List.mem_cons.mp h with rfl | h
        · left
          split
          · assumption
          · exact List.mem_append_right _ List.mem_cons_self
        · exact .inr h
  exact hstep [] (.inr h)

theorem mergeEntries_eq {entries : List (String × α)} (h : (entries.map (·.1)).Nodup) :
    mergeEntries entries = entries := by
  -- what was written so far and what is to be written have no key in common
  have hstep : ∀ acc : List (String × α), ((acc ++ entries).map (·.1)).Nodup →
      entries.foldl (fun acc entry => putEntry entry.1 entry.2 acc) acc = acc ++ entries := by
    clear h
    induction entries with
    | nil =>
      intro acc _
      rw [List.append_nil]
      rfl
    | cons entry rest ih =>
      intro acc hnodup
      have hcons : acc ++ entry :: rest = (acc ++ [entry]) ++ rest := by simp
      have hnew : entry.1 ∉ acc.map (·.1) := by
        rw [List.map_append, List.map_cons] at hnodup
        exact fun hmem => (List.nodup_append.mp hnodup).2.2 _ hmem _ List.mem_cons_self rfl
      rw [List.foldl_cons, putEntry_new _ hnew, hcons]
      exact ih _ (hcons ▸ hnodup)
  exact hstep [] h

theorem nodup_keys_mergeEntries (entries : List (String × α)) :
    ((mergeEntries entries).map (·.1)).Nodup := by
  have hstep : ∀ acc : List (String × α), (acc.map (·.1)).Nodup →
      ((entries.foldl (fun acc entry => putEntry entry.1 entry.2 acc) acc).map (·.1)).Nodup := by
    induction entries with
    | nil => exact fun _ h => h
    | cons entry rest ih =>
      intro acc h
      refine ih _ ?_
      rw [keys_putEntry]
      split
      · exact h
      · rename_i hnew
        exact List.nodup_append.mpr ⟨h, List.nodup_singleton _, fun key hkey other hother heq =>
          hnew (List.mem_singleton.mp hother ▸ heq ▸ hkey)⟩
  exact hstep [] List.nodup_nil

/-! ## operations of a description -/

theorem PathItem.mem_operations {fields : Fields} {item : PathItem}
    (h : PathItem.read (.map fields) = .ok item) {m : Method} {operation : Operation}
    (hmem : (m, operation) ∈ item.operations) :
    ∃ v, Fields.get? fields m.name = some v ∧ Operation.read v = .ok operation := by
  obtain ⟨_, found, hfound, hmethods⟩ := read_eq_ok h
  obtain ⟨⟨m', o⟩, hentry, ho⟩ := List.mem_filterMap.mp hmem
  obtain ⟨operation', ho', heq⟩ := Option.map_eq_some_iff.mp ho
  cases heq
  cases (show o = some operation from ho')
  rw [hmethods] at hentry
  obtain ⟨_, _, hfind⟩ := List.mem_filterMap.mp hentry
  obtain ⟨part, hpart, hin⟩ := List.mem_flatten.mp (List.mem_of_find?_eq_some hfind)
  obtain ⟨m'', _, hread⟩ := exists_mem_of_forall₂ hfound.flip hpart
  rcases readMethod_eq_ok hread with ⟨_, rfl⟩ | ⟨v, result, hv, hresult, rfl⟩
  · cases hin
  · cases List.mem_singleton.mp hin
    rcases readNullable_eq_ok hresult with ⟨_, hnone⟩ | ⟨a, _, ha, heq⟩
    · cases hnone
    · cases heq
      exact ⟨v, hv, ha⟩

/-- **An operation of a description was read from the one in the document.** -/
theorem mem_endpoints {v : Value} {d : Description} (h : Description.read v = .ok d) {e : Endpoint}
    (he : e ∈ d.endpoints) : ∃ item : Fields, ∃ w, (e.path, .map item) ∈ listedPaths v ∧
      item.get? e.method.name = some w ∧ Operation.read w = .ok e.operation := by
  obtain ⟨⟨path, item⟩, hitem, hoperation⟩ := List.mem_flatMap.mp he
  obtain ⟨⟨m, operation⟩, hmem, rfl⟩ := List.mem_map.mp hoperation
  obtain ⟨⟨path', w⟩, hw, hpath, hread⟩ :=
    exists_mem_of_forall₂ (Description.paths_listed h).flip hitem
  cases (show path' = path from hpath)
  obtain ⟨fields, rfl, _⟩ := readObject_eq_ok.mp hread
  obtain ⟨u, hu, hop⟩ := PathItem.mem_operations hread hmem
  exact ⟨fields, u, hw, hu, hop⟩

theorem ofName?_name (m : Method) : Method.ofName? m.name = some m := by
  cases m <;> rfl

def PathItem.methodOf? : Atom → Option Method
  | .string key => Method.ofName? key
  | _ => none

theorem PathItem.methodOrder_eq (fields : Fields) :
    methodOrder fields = (fields.map (·.1)).filterMap methodOf? := by
  rw [List.filterMap_map]
  rfl

theorem PathItem.exists_operation {fields : Fields} {item : PathItem}
    (h : PathItem.read (.map fields) = .ok item) {m : Method} {v : Value}
    (hv : Fields.get? fields m.name = some v) (hne : v ≠ .null) :
    ∃ operation, (m, operation) ∈ item.operations := by
  obtain ⟨_, found, hfound, hmethods⟩ := read_eq_ok h
  obtain ⟨result, hfind, hread⟩ := find_method_some hfound (mem_all m) hv
  rcases readNullable_eq_ok hread with ⟨hnull, _⟩ | ⟨operation, _, _, rfl⟩
  · exact (hne hnull).elim
  · have hlisted : m ∈ methodOrder fields :=
      List.mem_filterMap.mpr ⟨_, Fields.mem_of_get? hv, ofName?_name m⟩
    refine ⟨operation, List.mem_filterMap.mpr ⟨(m, some operation), ?_, rfl⟩⟩
    rw [hmethods]
    exact List.mem_filterMap.mpr ⟨m, hlisted, hfind⟩

/-- Conversely, every operation that is not null is read. -/
theorem exists_endpoint {v : Value} {d : Description} (h : Description.read v = .ok d)
    {path : String} {fields : Fields} (hpath : (path, .map fields) ∈ listedPaths v) {m : Method}
    {w : Value} (hw : Fields.get? fields m.name = some w) (hne : w ≠ .null) :
    ∃ e ∈ d.endpoints, e.path = path ∧ e.method = m := by
  obtain ⟨⟨path', item⟩, hitem, hown, hread⟩ :=
    exists_mem_of_forall₂ (Description.paths_listed h) hpath
  cases (show path = path' from hown)
  obtain ⟨operation, hoperation⟩ := PathItem.exists_operation hread hw hne
  exact ⟨⟨path, m, operation, item.parameters⟩, List.mem_flatMap.mpr ⟨_, hitem,
    List.mem_map.mpr ⟨_, hoperation, rfl⟩⟩, rfl, rfl⟩

/-! ## parts of an operation -/

theorem Operation.read_eq_ok {v : Value} {operation : Operation}
    (h : Operation.read v = .ok operation) : ∃ fields, v = .map fields ∧
      optionalField Payload.readRequestBody fields "requestBody" = .ok operation.requestBody ∧
      presentField Operation.readResponses fields "responses" = .ok operation.responses := by
  obtain ⟨fields, rfl, hparts⟩ := readObject_eq_ok.mp h
  obtain ⟨_, extras, h6, _, hoperation⟩ := Checked.seq_eq_ok.mp hparts
  obtain ⟨_, responses, h5, hresponses, rfl⟩ := Checked.seq_eq_ok.mp h6
  obtain ⟨_, body, h4, hbody, rfl⟩ := Checked.seq_eq_ok.mp h5
  obtain ⟨_, parameters, h3, _, rfl⟩ := Checked.seq_eq_ok.mp h4
  obtain ⟨_, description, h2, _, rfl⟩ := Checked.seq_eq_ok.mp h3
  obtain ⟨_, summary, h1, _, rfl⟩ := Checked.seq_eq_ok.mp h2
  obtain ⟨id, _, rfl⟩ := Checked.fmap_eq_ok.mp h1
  rw [← hoperation]
  exact ⟨fields, rfl, hbody, hresponses⟩

theorem withPlainKeys_eq {fields : Fields} (htext : fields.TextKeys) (hkeys : fields.Distinct) :
    withPlainKeys (.map fields) = .map fields := by
  have hmap : (fields.map fun entry => (Atom.string entry.1.plain, entry.2)) = fields := by
    refine (List.map_congr_left ?_).trans (List.map_id fields)
    intro entry hentry
    obtain ⟨name, hname⟩ := htext entry hentry
    exact Prod.ext (hname ▸ rfl) rfl
  rw [withPlainKeys, hmap, Fields.ofEntries_eq hkeys]

theorem Operation.readResponses_eq_ok {v : Value}
    {responses : List (String × Option (Referable Payload))}
    (h : readResponses v = .ok responses) :
    readMapping (readNullable Payload.readResponse) (withPlainKeys v) = .ok responses := by
  unfold readResponses at h
  split at h
  · exact (Checked.error_ne_ok h).elim
  · exact h

/-- the responses under keys that are texts -/
theorem Operation.readResponses_of_textKeys {fields : Fields} (htext : fields.TextKeys)
    (hkeys : fields.Distinct) : readResponses (.map fields) =
      readMapping (readNullable Payload.readResponse) (.map fields) := by
  have hlong : hasLongKey (.map fields) = false := by
    refine List.any_eq_false.mpr fun entry hentry => ?_
    obtain ⟨name, hname⟩ := htext entry hentry
    rw [hname]
    exact Bool.false_ne_true
  rw [readResponses, hlong, if_neg Bool.false_ne_true, withPlainKeys_eq htext hkeys]

theorem Payload.read_eq_ok {model : String} {v : Value} {payload : Payload}
    (h : Payload.read model v = .ok payload) : ∃ fields, v = .map fields ∧
      optionalField (readMapping MediaType.read) fields "content" = .ok payload.content := by
  obtain ⟨fields, rfl, hparts⟩ := readObject_eq_ok.mp h
  obtain ⟨_, extras, hone, _, hpayload⟩ := Checked.seq_eq_ok.mp hparts
  obtain ⟨content, hcontent, rfl⟩ := Checked.fmap_eq_ok.mp hone
  rw [← hpayload]
  exact ⟨fields, rfl, hcontent⟩

/-- a media type is read by its schema -/
theorem MediaType.read_eq_ok {schema : Value} (hschema : schema ≠ .null) {media : MediaType}
    (h : MediaType.read (.object [("schema", schema)]) = .ok media) :
    ∃ node, SchemaNode.read nestedAlternatives schema = .ok node ∧ media.schema = .value node := by
  obtain ⟨_, extras, hone, _, hmedia⟩ := Checked.seq_eq_ok.mp h
  obtain ⟨given, hgiven, rfl⟩ := Checked.fmap_eq_ok.mp hone
  have hfield : Fields.given [(.string "schema", schema)] "schema" = .value schema :=
    Fields.given_eq_value.mpr ⟨rfl, hschema⟩
  have hrel : Given.Rel (fun v node => readNestedNode v = .ok node)
      (Fields.given [(.string "schema", schema)] "schema") given := optionalField_eq_ok.mp hgiven
  rw [hfield] at hrel
  cases hrel with
  | value hnode =>
    rw [← hmedia]
    exact ⟨_, hnode, rfl⟩

theorem readReferable_eq_ok {read : Value → Checked α} {fields : Fields} {x : Referable α}
    (h : readReferable read (.map fields) = .ok x) :
    (fields.has "$ref" = true ∧ ∃ target, readReference fields = .ok target ∧ x = .ref target) ∨
      (fields.has "$ref" = false ∧ ∃ a, read (.map fields) = .ok a ∧ x = .inline a) := by
  unfold readReferable at h
  dsimp only at h
  split at h
  · rename_i hhas
    obtain ⟨target, htarget, rfl⟩ := Checked.map_eq_ok.mp (Checked.at_eq_ok.mp h)
    exact .inl ⟨hhas, target, htarget, rfl⟩
  · rename_i hhas
    obtain ⟨a, ha, rfl⟩ := Checked.map_eq_ok.mp (Checked.at_eq_ok.mp h)
    exact .inr ⟨Bool.eq_false_iff.mpr hhas, a, ha, rfl⟩

/-! ## the media type that counts -/

/-- among media types of which one is that of JSON, one of them counts -/
theorem selectMedia?_mem {content : List (String × MediaType)} {name : String}
    (hname : name ∈ content.map (·.1)) (hjson : isJsonMedia name = true) :
    ∃ entry ∈ content, selectMedia? content = some entry.2 := by
  obtain ⟨entry, hentry, rfl⟩ := List.mem_map.mp hname
  cases hfind : content.find? fun entry => isJsonMedia entry.1 with
  | none => exact absurd hjson (List.find?_eq_none.mp hfind entry hentry)
  | some found =>
    refine ⟨found, List.mem_of_find?_eq_some hfind, ?_⟩
    rw [selectMedia?, hfind]

end ApiBindings
