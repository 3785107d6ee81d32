import ApiBindings.OpenApi.Written
import ApiBindings.Proofs.Document.Lookup
import ApiBindings.Proofs.OpenApi.ReadOperation

/-!
# Looking up what was written

A typed object is written as its parts, each under its own key, and then its extras, whose keys are
none of these.  So each part is found again under its key, and the extras are what is left.

* `keyed`, `writtenFields`     the entries of some parts, and of an object;
* `PartsApart.get?_written`    what stands under the key of a part;
* `PartsApart.readExtras_eq`   the extras of what was written.
-/

namespace ApiBindings

variable {α β : Type}

/-! ## extras of an object that was read -/

theorem mem_of_mem_extras {fields : Fields} {known : List String}
    {extras : List (String × Value)} (h : readExtras fields known = .ok extras)
    {entry : String × Value} (hentry : entry ∈ extras) :
    entry.1 ∉ known ∧ (Atom.string entry.1, entry.2) ∈ fields := by
  obtain ⟨found, hfound, rfl⟩ := Checked.map_eq_ok.mp h
  obtain ⟨kept, hkept, rfl⟩ := List.mem_filterMap.mp hentry
  have hentries := List.forall₂_map_left_iff.mp (Checked.all_eq_ok.mp hfound)
  obtain ⟨⟨key, v⟩, hmem, hread⟩ := exists_mem_of_forall₂ hentries.flip hkept
  cases key with
  | string key =>
    have hsome : (if key ∈ known then none else some (key, v)) = some entry :=
      Except.ok.inj hread
    split at hsome
    · cases hsome
    · rename_i hkey
      cases hsome
      exact ⟨hkey, hmem⟩
  | _ => exact (Checked.error_ne_ok hread).elim

theorem Fields.has_of_mem {fields : Fields} {key : String} {v : Value}
    (h : (Atom.string key, v) ∈ fields) : fields.has key = true := by
  have hfound : (fields.find? fun entry => entry.1 == .string key).isSome = true :=
    List.find?_isSome.mpr ⟨_, h, beq_self_eq_true _⟩
  rw [has, get?, Option.isSome_map, hfound]

/-! ## parts -/

/-- the entries of parts by their keys; a part that is absent has none -/
def keyed (parts : List (String × Given Value)) : List (String × Value) :=
  parts.flatMap fun part => part.2.entry part.1 id

def Given.present? : Given Value → Option Value
  | .absent => none
  | .null => some .null
  | .value v => some v

def textFields (entries : List (String × Value)) : Fields :=
  entries.map fun entry => (.string entry.1, entry.2)

def writtenFields (parts : List (String × Given Value)) (extras : List (String × Value)) :
    Fields :=
  textFields (keyed parts ++ extras)

/-- the keys of the parts and those of the extras are all different -/
structure PartsApart (keys : List String) (parts : List (String × Given Value))
    (extras : List (String × Value)) : Prop where
  keys_eq : parts.map (·.1) = keys
  nodup : keys.Nodup
  apart : ∀ entry ∈ extras, entry.1 ∉ keys

theorem entry_map (write : α → Value) (given : Given α) (key : String) :
    (given.map write).entry key id = given.entry key write := by
  cases given <;> rfl

theorem get?_textFields (entries : List (String × Value)) (key : String) :
    (textFields entries).get? key = entries.lookup key :=
  Value.child?_object entries key

theorem key_mem_of_mem_keyed {parts : List (String × Given Value)} {entry : String × Value}
    (h : entry ∈ keyed parts) : entry.1 ∈ parts.map (·.1) := by
  obtain ⟨⟨key, given⟩, hpart, hentry⟩ := List.mem_flatMap.mp h
  have hkey : entry.1 = key := by
    cases given <;> rcases hentry with _ | ⟨_, ⟨⟩⟩ <;> rfl
  exact hkey ▸ List.mem_map_of_mem hpart

theorem lookup_eq_none {entries : List (String × Value)} {key : String}
    (h : ∀ entry ∈ entries, entry.1 ≠ key) : entries.lookup key = none :=
  List.lookup_eq_none_iff.mpr fun entry hentry => bne_iff_ne.mpr (h entry hentry).symm

theorem lookup_entry_of_ne {key other : String} (h : key ≠ other) (given : Given Value)
    (rest : List (String × Value)) :
    (given.entry other id ++ rest).lookup key = rest.lookup key := by
  cases given with
  | absent => rfl
  | _ =>
    refine (List.lookup_cons ..).trans ?_
    rw [beq_eq_false_iff_ne.mpr h]
    rfl

namespace PartsApart

variable {keys : List String} {parts : List (String × Given Value)}
  {extras : List (String × Value)}

theorem of_extras {fields : Fields} (hkeys : parts.map (·.1) = keys) (hnodup : keys.Nodup)
    (h : readExtras fields keys = .ok extras) : PartsApart keys parts extras :=
  ⟨hkeys, hnodup, fun _ hentry => (mem_of_mem_extras h hentry).1⟩

theorem lookup_written (h : PartsApart keys parts extras) {key : String} {given : Given Value}
    (hpart : (key, given) ∈ parts) : (keyed parts ++ extras).lookup key = given.present? := by
  obtain ⟨rfl, hnodup, hextras⟩ := h
  induction parts with
  | nil => cases hpart
  | cons part rest ih =>
    obtain ⟨other, given'⟩ := part
    obtain ⟨hnew, hrest⟩ := List.nodup_cons.mp hnodup
    have happend : keyed ((other, given') :: rest) ++ extras =
        given'.entry other id ++ (keyed rest ++ extras) := List.append_assoc ..
    rw [happend]
    rcases List.mem_cons.mp hpart with heq | hmem
    · cases heq
      cases given with
      | absent =>
        refine lookup_eq_none fun entry (hentry : entry ∈ keyed rest ++ extras) heq => ?_
        rcases List.mem_append.mp hentry with hentry | hentry
        · exact hnew (heq ▸ key_mem_of_mem_keyed hentry)
        · exact hextras entry hentry (heq ▸ List.mem_cons_self)
      | _ => exact (List.lookup_cons ..).trans (by rw [beq_self_eq_true]; rfl)
    · have hkey : key ∈ rest.map (·.1) := List.mem_map_of_mem hmem
      have hne : key ≠ other := fun heq => hnew (heq ▸ hkey)
      rw [lookup_entry_of_ne hne]
      exact ih hmem hrest fun entry hentry hentryKey =>
        hextras entry hentry (List.mem_cons_of_mem _ hentryKey)

theorem get?_written (h : PartsApart keys parts extras) {key : String} {given : Given Value}
    (hpart : (key, given) ∈ parts) :
    (writtenFields parts extras).get? key = given.present? :=
  (get?_textFields _ _).trans (h.lookup_written hpart)

theorem has_written (h : PartsApart keys parts extras) {key : String} {given : Given Value}
    (hpart : (key, given) ∈ parts) :
    (writtenFields parts extras).has key = given.present?.isSome := by
  rw [Fields.has, h.get?_written hpart]

/-- a key that is none of the parts and was not in the fields that were read -/
theorem has_written_eq_false (h : PartsApart keys parts extras) {fields : Fields}
    {known : List String}
    (hextras : readExtras fields known = .ok extras) {key : String} (hkey : key ∉ keys)
    (hfields : fields.has key = false) : (writtenFields parts extras).has key = false := by
  have hnone : (keyed parts ++ extras).lookup key = none := by
    refine lookup_eq_none fun entry hentry heq => ?_
    rcases List.mem_append.mp hentry with hentry | hentry
    · exact hkey (h.keys_eq ▸ heq ▸ key_mem_of_mem_keyed hentry)
    · have hhas := Fields.has_of_mem (mem_of_mem_extras hextras hentry).2
      rw [heq, hfields] at hhas
      cases hhas
  rw [Fields.has, writtenFields, get?_textFields, hnone]
  rfl

end PartsApart

/-! ## extras of what was written -/

theorem all_map_ok {f : α → β} {g : α → Checked β} {as : List α} (h : ∀ a ∈ as, g a = .ok (f a)) :
    Checked.all (as.map g) = .ok (as.map f) := by
  refine Checked.all_eq_ok.mpr (List.forall₂_map_left_iff.mpr (List.forall₂_map_right_iff.mpr ?_))
  exact List.forall₂_same.mpr h

theorem readExtras_textFields (entries : List (String × Value)) (known : List String) :
    readExtras (textFields entries) known =
      .ok (entries.filter fun entry => decide (entry.1 ∉ known)) := by
  unfold readExtras
  rw [textFields, List.map_map]
  refine (congrArg (Checked.map (List.filterMap id)) (all_map_ok
    (f := fun entry : String × Value => if entry.1 ∈ known then none else some entry)
    fun _ _ => rfl)).trans ?_
  refine congrArg Except.ok ?_
  rw [List.filterMap_map, ← List.filterMap_eq_filter]
  refine List.filterMap_congr fun entry _ => ?_
  by_cases hkey : entry.1 ∈ known <;> simp [hkey, Option.guard]

theorem PartsApart.readExtras_eq {keys : List String} {parts : List (String × Given Value)}
    {extras : List (String × Value)} (h : PartsApart keys parts extras) :
    readExtras (writtenFields parts extras) keys = .ok extras := by
  have hparts : (keyed parts).filter (fun entry => decide (entry.1 ∉ keys)) = [] :=
    List.filter_eq_nil_iff.mpr fun _ hentry hkey =>
      of_decide_eq_true hkey (h.keys_eq ▸ key_mem_of_mem_keyed hentry)
  have hextras : extras.filter (fun entry => decide (entry.1 ∉ keys)) = extras :=
    List.filter_eq_self.mpr fun entry hentry => decide_eq_true (h.apart entry hentry)
  rw [writtenFields, readExtras_textFields, List.filter_append, hparts, hextras, List.nil_append]

end ApiBindings
