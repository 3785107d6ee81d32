import ApiBindings.Proofs.Swagger.Pointers

/-!
# Converting a schema again

The conversion of a schema adds keys and objects while it goes through it, and what it adds may be
replaced by a later entry of the same mapping.  Whatever the order of the entries, all that is left
is a schema of the new version, which another conversion does not change.

* `isOutdated`                 the entries that only the old version has;
* `everywhere_convertSchema`   what holds of all mappings that are written holds everywhere;
* `convertSchema_eq_self`      a schema of the new version is left as it is;
* `convertSchema_settles`      a converted schema is one.
-/

namespace ApiBindings.Swagger

/-! ## entries of the old version -/

/-- whether an entry is a pointer to an old place, a file, or a discriminator that is a name -/
def isOutdated : Atom × Value → Bool
  | (key, .text s) => key == .string "$ref" && isOld s || key == .string "type" && s == "file" ||
    key == .string "discriminator"
  | _ => false

/-- whether no entry of a mapping is of the old version only -/
def isCurrent : Value → Bool
  | .map fields => fields.all fun entry => !isOutdated entry
  | _ => true

theorem isCurrent_map {fields : Fields} :
    isCurrent (.map fields) = true ↔ ∀ entry ∈ fields, isOutdated entry = false := by
  rw [isCurrent, List.all_eq_true]
  simp only [Bool.not_eq_true']

theorem isOutdated_eq_true {entry : Atom × Value} (h : isOutdated entry = true) :
    ∃ s, entry.2 = .text s ∧ (entry.1 = .string "$ref" ∨
      entry.1 = .string "type" ∧ s = "file" ∨ entry.1 = .string "discriminator") := by
  unfold isOutdated at h
  split at h
  · rename_i key s
    simp only [Bool.or_eq_true, Bool.and_eq_true, beq_iff_eq] at h
    exact ⟨s, rfl, h.elim (fun h => h.imp And.left .inl) fun h => .inr (.inr h)⟩
  · cases h

theorem isOutdated_of_same {key key' : Atom} (h : key.same key' = true) (v : Value) :
    isOutdated (key, v) = isOutdated (key', v) := by
  have hword : ∀ name, (key == .string name) = (key' == .string name) := by
    intro name
    rw [Bool.eq_iff_iff, beq_iff_eq, beq_iff_eq]
    constructor
    · rintro rfl
      exact (Atom.string_same.mp h).symm
    · rintro rfl
      exact Atom.same_string.mp h
  cases v with
  | atom a =>
    cases a with
    | string s => simp only [isOutdated, hword]
    | _ => rfl
  | _ => rfl

/-! ## what is written -/

theorem convertSchema_eq_text {v : Value} {s : String} (h : convertSchema v = .text s) :
    v = .text s := by
  cases v with
  | atom a => exact h
  | _ => cases h

theorem isOutdated_of_mem_convertEntry {key : Atom} {v : Value} {entry : Atom × Value}
    (h : entry ∈ convertEntry key v (convertSchema v)) : isOutdated entry = false := by
  cases entryTo_of_mem h with
  | pointer target => simp [isOutdated, movePointer_isOld]
  | file => rfl
  | format => rfl
  | discriminator name => rfl
  | other href htype hdiscriminator =>
    -- a value that is a text now was one before, and is treated above under these keys
    refine Bool.eq_false_iff.mpr fun houtdated => ?_
    obtain ⟨s, hs, hkey⟩ := isOutdated_eq_true houtdated
    have hv := convertSchema_eq_text hs
    rcases hkey with hkey | ⟨hkey, hfile⟩ | hkey
    · exact href s hkey hv
    · exact htype hkey (hfile ▸ hv)
    · exact hdiscriminator s hkey hv

/-- What holds of every value but a mapping, and of every mapping that the conversion writes, holds
everywhere in a converted schema. -/
theorem everywhere_convertSchema {p : Value → Bool} (hatom : ∀ a, p (.atom a) = true)
    (hlist : ∀ items, p (.list items) = true) (hset : ∀ members, p (.set members) = true)
    (hname : ∀ name, p (.object [("propertyName", .text name)]) = true)
    (hmap : ∀ fields, p (.map (Fields.ofEntries (convertEntries fields))) = true) (v : Value) :
    (convertSchema v).everywhere p = true := by
  induction v using Value.induction with
  | atom a => exact hatom a
  | list items ih =>
    rw [convertSchema, convertItems_eq]
    refine Value.everywhere_list.mpr ⟨hlist _, fun v hv => ?_⟩
    obtain ⟨item, hitem, rfl⟩ := List.mem_map.mp hv
    exact ih item hitem
  | map fields ih =>
    rw [convertSchema]
    refine Value.everywhere_map.mpr ⟨hmap fields, fun entry hentry => ?_⟩
    obtain ⟨⟨_, w⟩, hwritten, hvalue, _⟩ := Fields.exists_of_mem_ofEntries hentry
    obtain ⟨⟨key, v⟩, hown, hmem⟩ := mem_convertEntries hwritten
    rw [← hvalue]
    cases entryTo_of_mem hmem with
    | pointer target => exact hatom _
    | file => exact hatom _
    | format => exact hatom _
    | discriminator name =>
      refine Value.everywhere_map.mpr ⟨hname name, fun entry hentry => ?_⟩
      cases List.mem_singleton.mp hentry
      exact hatom _
    | other _ _ _ => exact ih _ hown
  | set members => exact hset members

theorem isKeyed_convertSchema (v : Value) : (convertSchema v).isKeyed = true := by
  have hmap : ∀ fields, (Value.map (Fields.ofEntries (convertEntries fields))).hasDistinctKeys =
      true := fun fields => decide_eq_true (Fields.distinct_ofEntries _)
  exact everywhere_convertSchema (fun _ => rfl) (fun _ => rfl) (fun _ => rfl) (fun _ => rfl) hmap v

theorem isCurrent_convertSchema (v : Value) : (convertSchema v).everywhere isCurrent = true := by
  have hmap : ∀ fields, isCurrent (.map (Fields.ofEntries (convertEntries fields))) = true := by
    intro fields
    refine isCurrent_map.mpr fun entry hentry => ?_
    obtain ⟨written, hwritten, hvalue, hsame⟩ := Fields.exists_of_mem_ofEntries hentry
    obtain ⟨own, _, hmem⟩ := mem_convertEntries hwritten
    have hcurrent : isOutdated (written.1, written.2) = false := isOutdated_of_mem_convertEntry hmem
    rw [hvalue, ← isOutdated_of_same hsame] at hcurrent
    exact hcurrent
  exact everywhere_convertSchema (fun _ => rfl) (fun _ => rfl) (fun _ => rfl) (fun _ => rfl) hmap v

/-! ## what is left as it is -/

theorem convertEntry_eq_self {key : Atom} {v : Value} (hcurrent : isOutdated (key, v) = false)
    (hv : convertSchema v = v) : convertEntry key v (convertSchema v) = [(key, v)] := by
  unfold convertEntry
  split
  · rename_i target
    have hold : isOld target = false := by simpa [isOutdated] using hcurrent
    rw [movePointer_eq_self hold]
  · simp [isOutdated] at hcurrent
  · simp [isOutdated] at hcurrent
  · rw [hv]

theorem convertEntries_eq_self {fields : Fields}
    (hcurrent : ∀ entry ∈ fields, isOutdated entry = false)
    (hvalues : ∀ entry ∈ fields, convertSchema entry.2 = entry.2) :
    convertEntries fields = fields := by
  induction fields with
  | nil => rfl
  | cons entry rest ih =>
    obtain ⟨key, v⟩ := entry
    obtain ⟨hfirst, hrest⟩ := List.forall_mem_cons.mp hcurrent
    obtain ⟨hv, hvs⟩ := List.forall_mem_cons.mp hvalues
    rw [convertEntries, convertEntry_eq_self hfirst hv, ih hrest hvs, List.singleton_append]

/-- a schema of the new version is left as it is -/
theorem convertSchema_eq_self {v : Value} (hkeyed : v.isKeyed = true)
    (hcurrent : v.everywhere isCurrent = true) : convertSchema v = v := by
  induction v using Value.induction with
  | list items ih =>
    have hitems : items.map convertSchema = items := by
      refine (List.map_congr_left fun v hv => ?_).trans (List.map_id items)
      exact ih v hv ((Value.everywhere_list.mp hkeyed).2 v hv)
        ((Value.everywhere_list.mp hcurrent).2 v hv)
    rw [convertSchema, convertItems_eq, hitems]
  | map fields ih =>
    obtain ⟨hdistinct, hkeyed⟩ := Value.isKeyed_map.mp hkeyed
    obtain ⟨hown, hcurrent⟩ := Value.everywhere_map.mp hcurrent
    have hentries : convertEntries fields = fields :=
      convertEntries_eq_self (isCurrent_map.mp hown) fun entry hentry =>
        ih entry hentry (hkeyed entry hentry) (hcurrent entry hentry)
    rw [convertSchema, hentries, Fields.ofEntries_eq hdistinct]
  | _ => rfl

/-- **One conversion is enough**: nowhere in a converted value is there a pointer to an old place, a
file or a discriminator that is a name, and another conversion changes nothing. -/
theorem convertSchema_settles (v : Value) : (convertSchema v).everywhere isCurrent = true ∧
    convertSchema (convertSchema v) = convertSchema v :=
  ⟨isCurrent_convertSchema v,
    convertSchema_eq_self (isKeyed_convertSchema v) (isCurrent_convertSchema v)⟩

/-- what is added for a file replaces a format in front of it and gives way to one behind it -/
example : convertSchema (.object [("format", .text "byte"), ("type", .text "file"),
      ("discriminator", .text "kind"), ("properties", .object [("discriminator",
        .object [("type", .text "file"), ("format", .text "#/definitions/A")]),
        ("type", .object [("$ref", .text "#/definitions/A")])])]) =
    .object [("format", .text "binary"), ("type", .text "string"),
      ("discriminator", .object [("propertyName", .text "kind")]),
      ("properties", .object [("discriminator",
        .object [("type", .text "string"), ("format", .text "#/definitions/A")]),
        ("type", .object [("$ref", .text "#/components/schemas/A")])])] := rfl

/-- a schema that is made of a parameter is one of the new version -/
theorem valueSchema_settled (parameter : Fields) :
    (valueSchema parameter).everywhere isCurrent = true ∧
      convertSchema (valueSchema parameter) = valueSchema parameter := by
  rw [valueSchema_eq]
  exact ⟨isCurrent_convertSchema _,
    convertSchema_eq_self (isKeyed_convertSchema _) (isCurrent_convertSchema _)⟩

end ApiBindings.Swagger
