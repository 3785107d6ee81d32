import ApiBindings.Proofs.Document.Fields

/-!
# Looking up parts of a document

A part of a document is found by the text keys that lead to it.  What holds everywhere in a document
holds everywhere in its parts.

* `Value.at?`            the value at the end of a path;
* `Value.mapEntries`     a mapping with its values changed;
* `Value.everywhere`     a property of a value and of everything in it;
* `Value.isKeyed`        no two keys of a mapping are the same, anywhere;
* `Value.isWorded`       no pointer and no type is given as bytes, anywhere.
-/

namespace ApiBindings

namespace Value

/-! ## paths -/

/-- the value under a text key of a mapping -/
def child? (name : String) : Value → Option Value
  | .map fields => Fields.get? fields name
  | _ => none

/-- the value at the end of a path of text keys -/
def at? : List String → Value → Option Value
  | [], v => some v
  | name :: rest, v => (v.child? name).bind (at? rest)

theorem at?_append (path rest : List String) (v : Value) :
    v.at? (path ++ rest) = (v.at? path).bind (at? rest) := by
  induction path generalizing v with
  | nil => rfl
  | cons name path ih =>
    rw [List.cons_append, at?, at?, Option.bind_assoc]
    congr 1
    funext w
    exact ih w

theorem at?_singleton (name : String) (v : Value) : v.at? [name] = v.child? name := by
  rw [at?]
  cases v.child? name <;> rfl

theorem at?_of_at? {path : List String} {v w : Value} (h : v.at? path = some w)
    (rest : List String) : v.at? (path ++ rest) = w.at? rest := by
  rw [at?_append, h, Option.bind_some]

theorem at?_snoc {v w : Value} (path : List String) {name : String}
    (h : v.at? (path ++ [name]) = some w) : ∃ fields : Fields,
      v.at? path = some (.map fields) ∧ fields.get? name = some w := by
  rw [at?_append, Option.bind_eq_some_iff] at h
  obtain ⟨u, hu, hw⟩ := h
  rw [at?_singleton] at hw
  cases u with
  | map fields => exact ⟨fields, hu, hw⟩
  | _ => cases hw

theorem child?_object (entries : List (String × Value)) (name : String) :
    (Value.object entries).child? name = entries.lookup name := by
  show Fields.get? _ name = _
  induction entries with
  | nil => rfl
  | cons entry rest ih =>
    obtain ⟨key, v⟩ := entry
    rw [List.map_cons, Fields.get?_cons, ih, List.lookup_cons]
    by_cases hkey : key = name
    · rw [if_pos (congrArg Atom.string hkey), beq_iff_eq.mpr hkey.symm]
    · rw [if_neg fun h => hkey (Atom.string.inj h), beq_eq_false_iff_ne.mpr (Ne.symm hkey)]

/-! ## changed values -/

/-- a mapping with every value changed, depending on its key -/
def mapEntries (f : Atom → Value → Value) : Value → Value
  | .map fields => .map (fields.map fun entry => (entry.1, f entry.1 entry.2))
  | v => v

theorem truthy_mapEntries (f : Atom → Value → Value) (v : Value) :
    (v.mapEntries f).truthy = v.truthy := by
  cases v with
  | map fields => cases fields <;> rfl
  | _ => rfl

/-! ## induction -/

/-- a property of all values: of a list or a mapping if it is one of everything directly in it -/
@[elab_as_elim]
theorem induction {motive : Value → Prop} (atom : ∀ a, motive (.atom a))
    (list : ∀ items, (∀ v ∈ items, motive v) → motive (.list items))
    (map : ∀ fields : Fields, (∀ entry ∈ fields, motive entry.2) → motive (.map fields))
    (set : ∀ members, motive (.set members)) (v : Value) : motive v :=
  match v with
  | .atom a => atom a
  | .list items => list items fun v hv =>
    have : sizeOf v < sizeOf items := List.sizeOf_lt_of_mem hv
    induction atom list map set v
  | .map fields => map fields fun entry hentry =>
    have : sizeOf entry < sizeOf fields := List.sizeOf_lt_of_mem hentry
    have : sizeOf entry.2 < sizeOf entry := by
      obtain ⟨key, w⟩ := entry
      simp only [Prod.mk.sizeOf_spec]
      omega
    induction atom list map set entry.2
  | .set members => set members
termination_by sizeOf v
decreasing_by
  · simp only [Value.list.sizeOf_spec]
    omega
  · simp only [Value.map.sizeOf_spec]
    omega

/-! ## everywhere -/

section
variable (p : Value → Bool)

mutual

/-- whether a property holds of a value and of everything in it -/
def everywhere : Value → Bool
  | .list items => p (.list items) && everywhereItems items
  | .map fields => p (.map fields) && everywhereEntries fields
  | v => p v
termination_by structural v => v

def everywhereItems : List Value → Bool
  | [] => true
  | v :: rest => everywhere v && everywhereItems rest
termination_by structural items => items

def everywhereEntries : List (Atom × Value) → Bool
  | [] => true
  | (_, v) :: rest => everywhere v && everywhereEntries rest
termination_by structural fields => fields

end

end

variable {p : Value → Bool}

theorem everywhere_list {items : List Value} : (Value.list items).everywhere p = true ↔
    p (.list items) = true ∧ ∀ v ∈ items, v.everywhere p = true := by
  have hitems : everywhereItems p items = true ↔ ∀ v ∈ items, v.everywhere p = true := by
    induction items with
    | nil => simp [everywhereItems]
    | cons v rest ih => rw [everywhereItems, Bool.and_eq_true, ih, List.forall_mem_cons]
  rw [everywhere, Bool.and_eq_true, hitems]

theorem everywhere_map {fields : Fields} : (Value.map fields).everywhere p = true ↔
    p (.map fields) = true ∧ ∀ entry ∈ fields, entry.2.everywhere p = true := by
  have hentries : everywhereEntries p fields = true ↔
      ∀ entry ∈ fields, entry.2.everywhere p = true := by
    induction fields with
    | nil => simp [everywhereEntries]
    | cons entry rest ih => rw [everywhereEntries, Bool.and_eq_true, ih, List.forall_mem_cons]
  rw [everywhere, Bool.and_eq_true, hentries]

theorem everywhere_child {v w : Value} (h : v.everywhere p = true) {name : String}
    (hw : v.child? name = some w) : w.everywhere p = true := by
  cases v with
  | map fields => exact (everywhere_map.mp h).2 _ (Fields.mem_of_get? hw)
  | _ => cases hw

theorem everywhere_at {v w : Value} {path : List String} (h : v.everywhere p = true)
    (hw : v.at? path = some w) : w.everywhere p = true := by
  induction path generalizing v with
  | nil =>
    cases hw
    exact h
  | cons name path ih =>
    obtain ⟨u, hu, hw⟩ := Option.bind_eq_some_iff.mp hw
    exact ih (everywhere_child h hu) hw

/-! ## keys and words -/

instance (fields : Fields) : Decidable fields.Distinct :=
  inferInstanceAs (Decidable (fields.Pairwise fun entry other => ¬ entry.1.same other.1))

def hasDistinctKeys : Value → Bool
  | .map fields => decide (Fields.Distinct fields)
  | _ => true

def isKeyed (v : Value) : Bool := v.everywhere hasDistinctKeys

/-- whether a mapping gives neither a pointer nor a type as bytes -/
def hasTextWords : Value → Bool
  | .map fields => fields.all fun entry => !isByteWord entry
  | _ => true

/-- whether no pointer and no type in a value is given as bytes -/
def isWorded (v : Value) : Bool := v.everywhere hasTextWords

theorem isKeyed_map {fields : Fields} : (Value.map fields).isKeyed = true ↔
    fields.Distinct ∧ ∀ entry ∈ fields, entry.2.isKeyed = true := by
  rw [isKeyed, everywhere_map, hasDistinctKeys, decide_eq_true_eq]
  exact Iff.rfl

theorem distinct_of_isKeyed {fields : Fields} (h : (Value.map fields).isKeyed = true) :
    fields.Distinct := (isKeyed_map.mp h).1

theorem isWorded_map {fields : Fields} : (Value.map fields).isWorded = true ↔
    (∀ entry ∈ fields, isByteWord entry = false) ∧ ∀ entry ∈ fields, entry.2.isWorded = true := by
  rw [isWorded, everywhere_map, hasTextWords, List.all_eq_true]
  simp only [Bool.not_eq_true']
  exact Iff.rfl

theorem isData_of_isKeyed {v : Value} (hkeys : v.isKeyed = true) (hwords : v.isWorded = true) :
    v.IsData := by
  induction v using Value.induction with
  | atom a => exact .atom a
  | list items ih =>
    refine .list fun v hv => ih v hv ?_ ?_
    · exact (everywhere_list.mp hkeys).2 v hv
    · exact (everywhere_list.mp hwords).2 v hv
  | map fields ih =>
    have hown := isKeyed_map.mp hkeys
    have htext := isWorded_map.mp hwords
    exact .map hown.1 htext.1 fun entry hentry =>
      ih entry hentry (hown.2 entry hentry) (htext.2 entry hentry)
  | set members => exact .set members

end Value

end ApiBindings
