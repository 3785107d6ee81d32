import ApiBindings.Proofs.Swagger.DirectReading
import ApiBindings.Proofs.Swagger.Entries
import ApiBindings.Proofs.Swagger.Parameters

/-!
# Pointers in converted schemas

A pointer in a schema stays where it is and leads to the new place of what it led to.

* `PointerAt`                      a pointer and the path to it;
* `movePointer_isOld`              no pointer is left to an old place;
* `convertSchema_movedFrom`        the pointers in a converted schema;
* `valueSchema_movedFrom`, `formSchema_movedFrom`
                                   those in a schema that is made of parameters.
-/

namespace ApiBindings

/-! ## pointers -/

/-- a step into a value: to the entry of a key, or to an item of a list -/
inductive Step where
  | key (key : Atom)
  | item (index : Nat)

/-- there is a pointer to `target` at the end of the path -/
inductive PointerAt : List Step → Value → String → Prop
  | here {fields : Fields} {target : String}
      (href : fields.present? "$ref" = some (.text target)) : PointerAt [] (.map fields) target
  | key {fields : Fields} {entry : Atom × Value} {rest : List Step} {target : String}
      (hmem : entry ∈ fields) (h : PointerAt rest entry.2 target) :
      PointerAt (.key entry.1 :: rest) (.map fields) target
  | item {items : List Value} {index : Nat} {v : Value} {rest : List Step} {target : String}
      (hget : items[index]? = some v) (h : PointerAt rest v target) :
      PointerAt (.item index :: rest) (.list items) target

def Value.NoPointers (v : Value) : Prop := ∀ path target, ¬ PointerAt path v target

theorem noPointers_atom (a : Atom) : (Value.atom a).NoPointers := by
  intro path target h
  cases h

theorem noPointers_list {items : List Value} (h : ∀ v ∈ items, v.NoPointers) :
    (Value.list items).NoPointers := by
  intro path target hpointer
  cases hpointer with
  | item hget hinner => exact h _ (List.mem_of_getElem? hget) _ _ hinner

theorem noPointers_map {fields : Fields} (href : ∀ entry ∈ fields, entry.1 ≠ .string "$ref")
    (h : ∀ entry ∈ fields, entry.2.NoPointers) : (Value.map fields).NoPointers := by
  intro path target hpointer
  cases hpointer with
  | here hpresent =>
    exact href _ (Fields.mem_of_get? (Option.filter_eq_some_iff.mp hpresent).1) rfl
  | key hmem hinner => exact h _ hmem _ _ hinner

theorem pointerAt_object {entries : List (String × Value)} {path : List Step} {target : String}
    (href : ∀ entry ∈ entries, entry.1 ≠ "$ref") (h : PointerAt path (.object entries) target) :
    ∃ entry ∈ entries, ∃ rest, path = .key (.string entry.1) :: rest ∧
      PointerAt rest entry.2 target := by
  unfold Value.object at h
  cases h with
  | here hpresent =>
    have hmem := Fields.mem_of_get? (Option.filter_eq_some_iff.mp hpresent).1
    obtain ⟨entry, hentry, heq⟩ := List.mem_map.mp hmem
    exact (href entry hentry (Atom.string.inj (congrArg Prod.fst heq))).elim
  | key hmem hinner =>
    obtain ⟨entry, hentry, rfl⟩ := List.mem_map.mp hmem
    exact ⟨entry, hentry, _, rfl, hinner⟩

namespace Swagger

/-! ## old places -/

def isOld (target : String) : Bool := movedPlaces.any fun place => Text.startsWith place.1 target

theorem startsWith_eq_true {start s : String} :
    Text.startsWith start s = true ↔ ∃ rest, s = start ++ rest := by
  rw [Text.startsWith, List.isPrefixOf_iff_prefix]
  constructor
  · rintro ⟨rest, hrest⟩
    refine ⟨String.ofList rest, ?_⟩
    rw [← String.toList_inj, String.toList_append, String.toList_ofList, hrest]
  · rintro ⟨rest, rfl⟩
    exact ⟨rest.toList, String.toList_append.symm⟩

theorem isOld_iff {target : String} : isOld target = true ↔
    (∃ name, target = "#/definitions/" ++ name) ∨ (∃ name, target = "#/parameters/" ++ name) ∨
      ∃ name, target = "#/responses/" ++ name := by
  simp only [isOld, movedPlaces, List.any_cons, List.any_nil, Bool.or_false, Bool.or_eq_true,
    startsWith_eq_true]

theorem component_isOld {start : String} (h : start.toList[2]? = some 'c') (hlen : 2 < start.length)
    (name : String) : isOld (start ++ name) = false := by
  have hne : ∀ old ∈ ["#/definitions/", "#/parameters/", "#/responses/"], ∀ name',
      start ++ name ≠ old ++ name' := by
    intro old hold name'
    simp only [List.mem_cons, List.not_mem_nil, or_false] at hold
    rcases hold with rfl | rfl | rfl <;>
      exact append_ne_append (by rw [h]; decide) hlen (by decide) name name'
  refine Bool.eq_false_iff.mpr fun hold => ?_
  rcases isOld_iff.mp hold with ⟨name', heq⟩ | ⟨name', heq⟩ | ⟨name', heq⟩
  · exact hne _ List.mem_cons_self name' heq
  · exact hne _ (by decide) name' heq
  · exact hne _ (by decide) name' heq

theorem movePointer_eq_self {target : String} (h : isOld target = false) :
    movePointer target = target := by
  have hnot := mt isOld_iff.mpr (Bool.eq_false_iff.mp h)
  exact movePointer_naming.other target (fun name hname => hnot (.inl ⟨name, hname⟩))
    (fun name hname => hnot (.inr (.inl ⟨name, hname⟩)))
    fun name hname => hnot (.inr (.inr ⟨name, hname⟩))

/-- no pointer is left to an old place -/
theorem movePointer_isOld (target : String) : isOld (movePointer target) = false := by
  cases hold : isOld target with
  | false => rw [movePointer_eq_self hold, hold]
  | true =>
    rcases isOld_iff.mp hold with ⟨name, rfl⟩ | ⟨name, rfl⟩ | ⟨name, rfl⟩
    · rw [movePointer_naming.definition]
      exact component_isOld (by decide) (by decide) name
    · rw [movePointer_naming.parameter]
      exact component_isOld (by decide) (by decide) name
    · rw [movePointer_naming.response]
      exact component_isOld (by decide) (by decide) name

/-! ## schemas -/

/-- Every pointer of a schema is where there was one at `place`, and has moved. -/
def MovedFrom (source : Value) (place : List Step) (schema : Value) : Prop :=
  ∀ path target, PointerAt path schema target →
    ∃ old, PointerAt (place ++ path) source old ∧ target = movePointer old

theorem mem_convertEntries {fields : Fields} {entry : Atom × Value}
    (h : entry ∈ convertEntries fields) : ∃ own ∈ fields,
      entry ∈ convertEntry own.1 own.2 (convertSchema own.2) := by
  induction fields with
  | nil => cases h
  | cons own rest ih =>
    obtain ⟨key, v⟩ := own
    rw [convertEntries] at h
    rcases List.mem_append.mp h with h | h
    · exact ⟨_, List.mem_cons_self, h⟩
    · obtain ⟨own, hown, hmem⟩ := ih h
      exact ⟨own, List.mem_cons_of_mem _ hown, hmem⟩

/-- an entry becomes one with its value converted, or some without pointers -/
theorem mem_convertEntry {key : Atom} {v : Value} {entry : Atom × Value}
    (h : entry ∈ convertEntry key v (convertSchema v)) :
    (entry.1 = key ∨ entry.1 = .string "format") ∧
      (entry = (key, convertSchema v) ∨ entry.2.NoPointers) := by
  cases entryTo_of_mem h with
  | pointer target => exact ⟨.inl rfl, .inr (noPointers_atom _)⟩
  | file => exact ⟨.inl rfl, .inr (noPointers_atom _)⟩
  | format => exact ⟨.inr rfl, .inr (noPointers_atom _)⟩
  | discriminator name =>
    refine ⟨.inl rfl, .inr (noPointers_map ?_ ?_)⟩
    · intro entry hentry
      cases List.mem_singleton.mp hentry
      exact fun heq => absurd (show "propertyName" = "$ref" from Atom.string.inj heq) (by decide)
    · intro entry hentry
      cases List.mem_singleton.mp hentry
      exact noPointers_atom _
  | other _ _ _ => exact ⟨.inl rfl, .inl rfl⟩

/-- an entry of a converted mapping comes from one of the mapping -/
theorem mem_ofEntries_convertEntries {fields : Fields} (hkeys : fields.Distinct)
    {entry : Atom × Value} (h : entry ∈ Fields.ofEntries (convertEntries fields)) :
    (∃ v, (entry.1, v) ∈ fields ∧ entry.2 = convertSchema v) ∨ entry.2.NoPointers := by
  have hsame : ∀ entry ∈ convertEntries fields, ∀ other ∈ convertEntries fields,
      entry.1.same other.1 = true → entry.1 = other.1 := by
    intro entry hentry other hother hsame
    obtain ⟨own, hown, hmem⟩ := mem_convertEntries hentry
    obtain ⟨own', hown', hmem'⟩ := mem_convertEntries hother
    rcases (mem_convertEntry hmem).1 with hkey | hkey
    · rcases (mem_convertEntry hmem').1 with hkey' | hkey'
      · rw [hkey, hkey'] at hsame ⊢
        rw [hkeys.eq_of_same hown hown' hsame]
      · rw [hkey'] at hsame ⊢
        exact Atom.same_string.mp hsame
    · rw [hkey] at hsame ⊢
      exact Atom.string_same.mp hsame
  obtain ⟨own, hown, hmem⟩ := mem_convertEntries (Fields.mem_of_mem_ofEntries hsame h)
  rcases (mem_convertEntry hmem).2 with rfl | hnone
  · exact .inl ⟨own.2, hown, rfl⟩
  · exact .inr hnone

theorem truthy_movePointer {target : String} (h : (Value.text (movePointer target)).truthy = true) :
    (Value.text target).truthy = true := by
  by_cases hempty : target = ""
  · subst hempty
    exact absurd h (by decide)
  · exact bne_iff_ne.mpr hempty

/-- a converted mapping is a pointer only if the mapping was one -/
theorem present?_convertEntries {fields : Fields} (hkeys : fields.Distinct) {target : String}
    (h : (Fields.ofEntries (convertEntries fields)).present? "$ref" = some (.text target)) :
    ∃ old, fields.present? "$ref" = some (.text old) ∧ target = movePointer old := by
  obtain ⟨hget, htruthy⟩ := Option.filter_eq_some_iff.mp h
  rw [get?_convertEntries hkeys (by decide)] at hget
  obtain ⟨v, hv, hconverted⟩ := Option.map_eq_some_iff.mp hget
  cases v with
  | atom a =>
    cases a with
    | string old =>
      cases hconverted
      exact ⟨old, Option.filter_eq_some_iff.mpr ⟨hv, truthy_movePointer htruthy⟩, rfl⟩
    | _ => cases hconverted
  | _ => cases hconverted

/-- **The pointers in a converted schema are where they were, and have moved.** -/
theorem convertSchema_movedFrom {v : Value} (hkeyed : v.isKeyed = true) :
    MovedFrom v [] (convertSchema v) := by
  -- on the path, since the conversion keeps every step of it
  intro path
  induction path generalizing v with
  | nil =>
    intro target h
    cases v with
    | map fields =>
      cases h with
      | here hpresent =>
        obtain ⟨old, hold, hmoved⟩ :=
          present?_convertEntries (Value.distinct_of_isKeyed hkeyed) hpresent
        exact ⟨old, .here hold, hmoved⟩
    | _ => cases h
  | cons step rest ih =>
    intro target h
    cases v with
    | list items =>
      rw [convertSchema, convertItems_eq] at h
      cases h with
      | item hget hinner =>
        rw [List.getElem?_map, Option.map_eq_some_iff] at hget
        obtain ⟨v, hv, rfl⟩ := hget
        have hkeyed' := (Value.everywhere_list.mp hkeyed).2 v (List.mem_of_getElem? hv)
        obtain ⟨old, hold, hmoved⟩ := ih hkeyed' target hinner
        exact ⟨old, .item hv hold, hmoved⟩
    | map fields =>
      cases h with
      | @key _ entry _ _ hmem hinner =>
        rcases mem_ofEntries_convertEntries (Value.distinct_of_isKeyed hkeyed) hmem with
          ⟨v, hv, heq⟩ | hnone
        · rw [heq] at hinner
          obtain ⟨old, hold, hmoved⟩ := ih ((Value.isKeyed_map.mp hkeyed).2 _ hv) target hinner
          exact ⟨old, @PointerAt.key fields (entry.1, v) rest old hv hold, hmoved⟩
        · exact (hnone _ _ hinner).elim
    | _ => cases h

/-! ## schemas made of parameters -/

def describedFields (parameter : Fields) : Fields :=
  valueKeys.filterMap fun key => (parameter.get? key).map fun v => (.string key, v)

/-- the schema of the value of a parameter before it is converted -/
def valueFields (parameter : Fields) : Fields :=
  if hasText (describedFields parameter) "type" "file" then
    Fields.insert (.string "format") (.text "binary")
      (Fields.insert (.string "type") (.text "string") (describedFields parameter))
  else describedFields parameter

theorem valueSchema_eq (parameter : Fields) :
    valueSchema parameter = convertSchema (.map (valueFields parameter)) := rfl

theorem mem_describedFields {parameter : Fields} {entry : Atom × Value}
    (h : entry ∈ describedFields parameter) :
    (∃ name ∈ valueKeys, entry.1 = .string name) ∧ entry ∈ parameter := by
  obtain ⟨name, hname, heq⟩ := List.mem_filterMap.mp h
  obtain ⟨v, hv, rfl⟩ := Option.map_eq_some_iff.mp heq
  exact ⟨⟨name, hname, rfl⟩, Fields.mem_of_get? hv⟩

theorem distinct_describedFields (parameter : Fields) : (describedFields parameter).Distinct := by
  refine List.Pairwise.filterMap _ ?_ (show valueKeys.Pairwise (· ≠ ·) by decide)
  intro name other hne entry hentry entry' hentry' hsame
  obtain ⟨v, _, rfl⟩ := Option.map_eq_some_iff.mp hentry
  obtain ⟨v', _, rfl⟩ := Option.map_eq_some_iff.mp hentry'
  exact hne (Atom.string.inj (Atom.same_string.mp hsame))

/-- an entry is one of the parameter or a text -/
theorem mem_valueFields {parameter : Fields} {entry : Atom × Value}
    (h : entry ∈ valueFields parameter) :
    (∃ name ∈ valueKeys, entry.1 = .string name) ∧
      (entry ∈ parameter ∨ ∃ s, entry.2 = .text s) := by
  unfold valueFields at h
  split at h
  · have htext : ∀ {name : String} {s : String} {fields : Fields}, name ∈ valueKeys →
        entry ∈ Fields.insert (.string name) (.text s) fields →
        ((∃ name ∈ valueKeys, entry.1 = .string name) ∧ ∃ s, entry.2 = .text s) ∨
          entry ∈ fields := by
      intro name s fields hname hmem
      rcases Fields.mem_insert hmem with ⟨hv, hkey, _⟩ | hmem
      · exact .inl ⟨⟨name, hname, Atom.same_string.mp hkey⟩, s, hv⟩
      · exact .inr hmem
    rcases htext (by decide) h with ⟨hname, hs⟩ | h
    · exact ⟨hname, .inr hs⟩
    · rcases htext (by decide) h with ⟨hname, hs⟩ | h
      · exact ⟨hname, .inr hs⟩
      · exact ⟨(mem_describedFields h).1, .inl (mem_describedFields h).2⟩
  · exact ⟨(mem_describedFields h).1, .inl (mem_describedFields h).2⟩

theorem isKeyed_valueFields {parameter : Fields} (hkeyed : (Value.map parameter).isKeyed = true) :
    (Value.map (valueFields parameter)).isKeyed = true := by
  refine Value.isKeyed_map.mpr ⟨?_, fun entry hentry => ?_⟩
  · unfold valueFields
    split
    · exact ((distinct_describedFields parameter).insert _ _).insert _ _
    · exact distinct_describedFields parameter
  · rcases (mem_valueFields hentry).2 with hmem | ⟨s, hs⟩
    · exact (Value.isKeyed_map.mp hkeyed).2 entry hmem
    · rw [hs]
      rfl

theorem valueSchema_movedFrom {parameter : Fields}
    (hkeyed : (Value.map parameter).isKeyed = true) :
    MovedFrom (.map parameter) [] (valueSchema parameter) := by
  intro path target h
  rw [valueSchema_eq] at h
  obtain ⟨old, hold, hmoved⟩ := convertSchema_movedFrom (isKeyed_valueFields hkeyed) path target h
  refine ⟨old, ?_, hmoved⟩
  cases hold with
  | here hpresent =>
    have hmem := Fields.mem_of_get? (Option.filter_eq_some_iff.mp hpresent).1
    obtain ⟨⟨name, hname, heq⟩, _⟩ := mem_valueFields hmem
    cases heq
    exact absurd hname (by decide)
  | key hmem hinner =>
    rcases (mem_valueFields hmem).2 with hown | ⟨s, hs⟩
    · exact .key hown hinner
    · rw [hs] at hinner
      exact (noPointers_atom _ _ _ hinner).elim

/-- The pointers in the schema of a form are in the properties, each where it was in the part that
the property is made of. -/
def FormMovedFrom (parts : List Fields) (schema : Value) : Prop :=
  ∀ path target, PointerAt path schema target → ∃ part ∈ parts, ∃ name rest old,
    path = .key (.string "properties") :: .key name :: rest ∧
      PointerAt rest (.map part) old ∧ target = movePointer old

def PropertyOf (part : Fields) (property : Atom × Value) : Prop :=
  part.get? "name" = some (.atom property.1) ∧ property.2 = valueSchema part

theorem noPointers_requiredParts {parts : List Fields} {properties : List (Atom × Value)}
    (hall : List.Forall₂ PropertyOf parts properties) :
    (Value.list (requiredParts parts)).NoPointers := by
  refine noPointers_list fun v hv => ?_
  obtain ⟨part, hpart, heq⟩ := List.mem_filterMap.mp hv
  split at heq
  · obtain ⟨property, _, hname, _⟩ := exists_mem_of_forall₂ hall hpart
    rw [hname] at heq
    cases heq
    exact noPointers_atom _
  · cases heq

/-- the pointers of a form are in its properties -/
theorem pointerAt_formSchema {parts : List Fields} {properties : List (Atom × Value)}
    (hall : List.Forall₂ PropertyOf parts properties) {path : List Step} {target : String}
    (h : PointerAt path (formSchema parts properties) target) :
    ∃ rest, path = .key (.string "properties") :: rest ∧
      PointerAt rest (.map (Fields.ofEntries properties)) target := by
  have hentries : ∀ entry ∈ [("type", Value.text "object"),
      ("properties", .map (Fields.ofEntries properties))] ++
      (if (requiredParts parts).isEmpty then [] else
        [("required", .list (requiredParts parts))]), entry.1 ≠ "$ref" ∧
        (entry.2.NoPointers ∨ entry = ("properties", .map (Fields.ofEntries properties))) := by
    intro entry hentry
    rcases List.mem_append.mp hentry with hentry | hentry
    · rcases List.mem_cons.mp hentry with rfl | hentry
      · exact ⟨by decide, .inl (noPointers_atom _)⟩
      · cases List.mem_singleton.mp hentry
        exact ⟨by simp, .inr rfl⟩
    · split at hentry
      · cases hentry
      · cases List.mem_singleton.mp hentry
        exact ⟨by simp, .inl (noPointers_requiredParts hall)⟩
  obtain ⟨entry, hentry, rest, rfl, hinner⟩ :=
    pointerAt_object (fun entry hentry => (hentries entry hentry).1) h
  rcases (hentries entry hentry).2 with hnone | rfl
  · exact (hnone _ _ hinner).elim
  · exact ⟨rest, rfl, hinner⟩

theorem formSchema_movedFrom {parts : List Fields} {properties : List (Atom × Value)}
    (hkeyed : ∀ part ∈ parts, (Value.map part).isKeyed = true)
    (hall : List.Forall₂ PropertyOf parts properties) :
    FormMovedFrom parts (formSchema parts properties) := by
  intro path target h
  obtain ⟨rest, rfl, hinner⟩ := pointerAt_formSchema hall h
  have hproperty : ∀ property ∈ Fields.ofEntries properties, ∃ part ∈ parts,
      property.2 = valueSchema part := by
    intro property hproperty
    obtain ⟨own, hown, heq⟩ := mem_ofEntries hproperty
    obtain ⟨part, hpart, _, hvalue⟩ := exists_mem_of_forall₂ hall.flip hown
    exact ⟨part, hpart, heq ▸ hvalue⟩
  cases hinner with
  | here hpresent =>
    -- a property of this name is a mapping
    have hmem := Fields.mem_of_get? (Option.filter_eq_some_iff.mp hpresent).1
    obtain ⟨part, _, heq⟩ := hproperty _ hmem
    cases heq
  | key hmem hvalue =>
    obtain ⟨part, hpart, heq⟩ := hproperty _ hmem
    rw [heq] at hvalue
    obtain ⟨old, hold, hmoved⟩ := valueSchema_movedFrom (hkeyed part hpart) _ target hvalue
    exact ⟨part, hpart, _, _, old, rfl, hold, hmoved⟩

end Swagger

end ApiBindings
