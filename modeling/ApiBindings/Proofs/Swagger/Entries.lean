import ApiBindings.Proofs.OpenApi.ReadSchema
import ApiBindings.Swagger.Schema

/-!
# The entries of a converted mapping

The conversion writes the entries anew, and for a file one more.  Looked up by its key, an entry is
still there with its value converted, whatever the order of the entries.

* `convertedValue`                       what becomes of the value of a key;
* `EntryTo`                              the entries that are written for one;
* `get?_convertEntries`                  an entry of the mapping as it is looked up afterwards;
* `ofEntries_convertEntries_maps`        a mapping of mappings keeps its entries.
-/

namespace ApiBindings.Swagger

/-- what becomes of the value under a key -/
def convertedValue (name : String) (v : Value) : Value :=
  match name, v with
  | "$ref", .text target => .text (movePointer target)
  | "type", .text "file" => .text "string"
  | "discriminator", .text property => .object [("propertyName", .text property)]
  | _, v => convertSchema v

theorem convertItems_eq (items : List Value) : convertItems items = items.map convertSchema := by
  induction items with
  | nil => rfl
  | cons v rest ih => rw [convertItems, ih, List.map_cons]

theorem convertSchema_eq_null {v : Value} : convertSchema v = .null ↔ v = .null := by
  cases v with
  | atom a => exact Iff.rfl
  | list items => simp [convertSchema]
  | map fields => simp [convertSchema]
  | set members => exact Iff.rfl

theorem convertedValue_eq_null {name : String} {v : Value} :
    convertedValue name v = .null ↔ v = .null := by
  unfold convertedValue
  split
  · simp
  · simp
  · simp [Value.object]
  · exact convertSchema_eq_null

theorem convertedValue_other {name : String} (href : name ≠ "$ref") (htype : name ≠ "type")
    (hdiscriminator : name ≠ "discriminator") (v : Value) :
    convertedValue name v = convertSchema v := by
  unfold convertedValue
  split
  · exact (href rfl).elim
  · exact (htype rfl).elim
  · exact (hdiscriminator rfl).elim
  · rfl

/-! ## single entries -/

/-- The entry comes first; what may be added to it is a format. -/
theorem convertEntry_text (name : String) (v : Value) :
    ∃ added, (∀ entry ∈ added, entry.1 = .string "format") ∧
      convertEntry (.string name) v (convertSchema v) =
        (.string name, convertedValue name v) :: added := by
  unfold convertEntry
  split
  · rename_i target heq
    cases heq
    exact ⟨[], by simp, rfl⟩
  · rename_i heq
    cases heq
    exact ⟨[(.string "format", .text "binary")], by simp, rfl⟩
  · rename_i property heq
    cases heq
    exact ⟨[], by simp, rfl⟩
  · rename_i href htype hdiscriminator
    refine ⟨[], by simp, ?_⟩
    unfold convertedValue
    split
    · exact (href _ rfl rfl).elim
    · exact (htype rfl rfl).elim
    · exact (hdiscriminator _ rfl rfl).elim
    · rfl

/-- a key that is no text has no meaning of its own -/
theorem convertEntry_eq (key : Atom) (v : Value) :
    ∃ converted added, (∀ entry ∈ added, entry.1 = .string "format") ∧
      convertEntry key v (convertSchema v) = (key, converted) :: added ∧
      ∀ name, key = .string name → converted = convertedValue name v := by
  cases key with
  | string name =>
    obtain ⟨added, hadded, heq⟩ := convertEntry_text name v
    refine ⟨convertedValue name v, added, hadded, heq, ?_⟩
    rintro _ ⟨⟩
    rfl
  | _ => exact ⟨convertSchema v, [], by simp, rfl, fun name h => nomatch h⟩

/-- an entry that is written for the entry with this key and value -/
inductive EntryTo : Atom → Value → Atom × Value → Prop
  | pointer (target : String) :
      EntryTo (.string "$ref") (.text target) (.string "$ref", .text (movePointer target))
  | file : EntryTo (.string "type") (.text "file") (.string "type", .text "string")
  | format : EntryTo (.string "type") (.text "file") (.string "format", .text "binary")
  | discriminator (name : String) : EntryTo (.string "discriminator") (.text name)
      (.string "discriminator", .object [("propertyName", .text name)])
  | other {key : Atom} {v : Value} (href : ∀ target, key = .string "$ref" → v ≠ .text target)
      (htype : key = .string "type" → v ≠ .text "file")
      (hdiscriminator : ∀ name, key = .string "discriminator" → v ≠ .text name) :
      EntryTo key v (key, convertSchema v)

theorem entryTo_of_mem {key : Atom} {v : Value} {entry : Atom × Value}
    (h : entry ∈ convertEntry key v (convertSchema v)) : EntryTo key v entry := by
  unfold convertEntry at h
  split at h
  · cases List.mem_singleton.mp h
    exact .pointer _
  · rcases List.mem_cons.mp h with rfl | h
    · exact .file
    · cases List.mem_singleton.mp h
      exact .format
  · cases List.mem_singleton.mp h
    exact .discriminator _
  · rename_i href htype hdiscriminator
    cases List.mem_singleton.mp h
    exact .other href htype hdiscriminator

/-! ## all entries -/

theorem convertEntries_textKeys {fields : Fields} (h : fields.TextKeys) :
    Fields.TextKeys (convertEntries fields) := by
  induction fields with
  | nil =>
    intro entry hentry
    cases hentry
  | cons entry rest ih =>
    obtain ⟨key, v⟩ := entry
    obtain ⟨name, hname⟩ := h (key, v) List.mem_cons_self
    cases hname
    obtain ⟨added, hadded, heq⟩ := convertEntry_text name v
    rw [convertEntries, heq]
    intro other hother
    rcases List.mem_append.mp hother with hmem | hmem
    · rcases List.mem_cons.mp hmem with rfl | hmem
      · exact ⟨name, rfl⟩
      · exact ⟨"format", hadded other hmem⟩
    · exact ih (fun other hother => h other (List.mem_cons_of_mem _ hother)) other hmem

theorem get?_foldl_insert_other {added : List (Atom × Value)} {name : String}
    (h : ∀ entry ∈ added, entry.1 ≠ .string name) (acc : Fields) :
    (added.foldl (fun fields entry => Fields.insert entry.1 entry.2 fields) acc).get? name =
      acc.get? name := by
  have hnone : Fields.get? added.reverse name = none := by
    refine Fields.get?_eq_none ?_
    intro hmem
    obtain ⟨entry, hentry, heq⟩ := List.mem_map.mp hmem
    exact h entry (List.mem_reverse.mp hentry) heq
  rw [Fields.get?_foldl_insert, hnone, Option.none_or]

/-- Under every key but the one that is added, there is what there was, converted. -/
theorem get?_convertEntries {fields : Fields} (hkeys : fields.Distinct) {name : String}
    (hname : name ≠ "format") :
    (Fields.ofEntries (convertEntries fields)).get? name =
      (fields.get? name).map (convertedValue name) := by
  -- written on top of `acc`, the entries hide what `acc` has under their keys and nothing else
  have hstep : ∀ acc : Fields,
      ((convertEntries fields).foldl
          (fun fields entry => Fields.insert entry.1 entry.2 fields) acc).get? name =
        ((fields.get? name).map (convertedValue name)).or (acc.get? name) := by
    induction fields with
    | nil =>
      intro acc
      rfl
    | cons entry rest ih =>
      intro acc
      obtain ⟨key, v⟩ := entry
      obtain ⟨converted, added, hadded, heq, hconverted⟩ := convertEntry_eq key v
      have hother : ∀ entry ∈ added, entry.1 ≠ .string name := by
        intro entry hentry hsame
        rw [hadded entry hentry] at hsame
        cases hsame
        exact hname rfl
      rw [convertEntries, heq, List.cons_append, List.foldl_cons, List.foldl_append,
        ih (List.pairwise_cons.mp hkeys).2, get?_foldl_insert_other hother, Fields.get?_insert,
        Fields.get?_cons]
      by_cases hkey : key = .string name
      · rw [if_pos hkey, if_pos hkey, hkeys.get?_rest hkey, hconverted name hkey]
        rfl
      · rw [if_neg hkey, if_neg hkey]
  rw [Fields.ofEntries, hstep]
  exact Option.or_none

theorem has_convertEntries {fields : Fields} (hkeys : fields.Distinct) {name : String}
    (hname : name ≠ "format") :
    (Fields.ofEntries (convertEntries fields)).has name = fields.has name := by
  rw [Fields.has, Fields.has, get?_convertEntries hkeys hname, Option.isSome_map]

theorem given_convertEntries {fields : Fields} (hkeys : fields.Distinct) {name : String}
    (hname : name ≠ "format") :
    (Fields.ofEntries (convertEntries fields)).given name =
      (fields.given name).map (convertedValue name) := by
  have hget := get?_convertEntries hkeys hname
  cases hv : fields.get? name with
  | none =>
    rw [hv] at hget
    rw [Fields.given, Fields.given, hget, hv]
    rfl
  | some v =>
    rw [hv, Option.map_some] at hget
    by_cases hnull : v = .null
    · rw [hnull, convertedValue_eq_null.mpr rfl] at hget
      rw [Fields.given, Fields.given, hget, hv, hnull]
      rfl
    · rw [Fields.given_eq_value.mpr ⟨hget, mt convertedValue_eq_null.mp hnull⟩,
        Fields.given_eq_value.mpr ⟨hv, hnull⟩]
      rfl

/-- Where every value is a mapping no key has a meaning of its own. -/
theorem convertEntries_maps {fields : Fields}
    (hmaps : ∀ entry ∈ fields, ∃ inner, entry.2 = .map inner) :
    convertEntries fields = fields.map fun entry => (entry.1, convertSchema entry.2) := by
  induction fields with
  | nil => rfl
  | cons entry rest ih =>
    obtain ⟨key, v⟩ := entry
    obtain ⟨inner, hinner⟩ := hmaps (key, v) List.mem_cons_self
    cases hinner
    rw [convertEntries, ih fun other hother => hmaps other (List.mem_cons_of_mem _ hother),
      List.map_cons]
    unfold convertEntry
    split <;> first | rfl | contradiction

theorem ofEntries_convertEntries_maps {fields : Fields} (hkeys : fields.Distinct)
    (hmaps : ∀ entry ∈ fields, ∃ inner, entry.2 = .map inner) :
    Fields.ofEntries (convertEntries fields) =
      fields.map fun entry => (entry.1, convertSchema entry.2) := by
  rw [convertEntries_maps hmaps, Fields.ofEntries_eq]
  exact List.pairwise_map.mpr hkeys

end ApiBindings.Swagger
