import ApiBindings.Document.Value
import Mathlib.Data.List.Pairwise

/-!
# Mappings with text keys

Writing entries one after the other, as seen by looking keys up.

* `Fields.get?_insert`       what is found after one entry was written;
* `Fields.get?_ofEntries`    what is found after many were, the last one of a key;
* `Fields.ofEntries_eq`      entries with different keys are left as they are;
* `Value.IsJson`             the values that a JSON document can hold;
* `Value.IsData`             those that any document can hold, bytes for words excepted.
-/

namespace ApiBindings

namespace Atom

theorem same_string {key : Atom} {name : String} :
    key.same (.string name) = true ↔ key = .string name := by
  cases key with
  | float x =>
    have hno : (Atom.float x).same (.string name) = false := by
      unfold same toInt?
      dsimp only
      cases x.toInt? <;> rfl
    simp [hno]
  | _ => simp [same, toInt?]

theorem same_comm (a b : Atom) : a.same b = b.same a := by
  unfold same
  cases a.toInt? with
  | none =>
    cases b.toInt? with
    | none => exact Bool.eq_iff_iff.mpr (by rw [beq_iff_eq, beq_iff_eq, eq_comm])
    | some n => rfl
  | some m =>
    cases b.toInt? with
    | none => rfl
    | some n => exact Bool.eq_iff_iff.mpr (by rw [beq_iff_eq, beq_iff_eq, eq_comm])

theorem string_same {key : Atom} {name : String} :
    (Atom.string name).same key = true ↔ .string name = key := by
  rw [same_comm, same_string, eq_comm]

theorem same_refl (a : Atom) : a.same a = true := by
  unfold same
  cases a.toInt? <;> exact beq_self_eq_true _

theorem same_trans {a b c : Atom} (hab : a.same b = true) (hbc : b.same c = true) :
    a.same c = true := by
  unfold same at *
  cases ha : a.toInt? <;> cases hb : b.toInt? <;> cases hc : c.toInt? <;>
    rw [ha, hb] at hab <;> rw [hb, hc] at hbc <;> simp_all

end Atom

namespace Fields

theorem get?_cons (key : Atom) (v : Value) (rest : Fields) (name : String) :
    get? ((key, v) :: rest) name = if key = .string name then some v else get? rest name := by
  unfold get?
  by_cases hkey : key = .string name
  · rw [List.find?_cons_of_pos (by simpa using hkey), if_pos hkey]
    rfl
  · rw [List.find?_cons_of_neg (by simpa using hkey), if_neg hkey]

theorem mem_of_get? {fields : Fields} {name : String} {v : Value}
    (h : get? fields name = some v) : (.string name, v) ∈ fields := by
  obtain ⟨entry, hentry, rfl⟩ := Option.map_eq_some_iff.mp h
  have hkey : entry.1 = .string name := by simpa using List.find?_some hentry
  rw [← hkey]
  exact List.mem_of_find?_eq_some hentry

theorem get?_eq_none {fields : Fields} {name : String}
    (h : .string name ∉ fields.map (·.1)) : get? fields name = none := by
  cases hget : get? fields name with
  | none => rfl
  | some v => exact (h (List.mem_map_of_mem (mem_of_get? hget))).elim

theorem get?_map (f : Atom → Value → Value) (fields : Fields) (name : String) :
    get? (fields.map fun entry => (entry.1, f entry.1 entry.2)) name =
      (get? fields name).map (f (.string name)) := by
  induction fields with
  | nil => rfl
  | cons entry rest ih =>
    obtain ⟨key, v⟩ := entry
    rw [List.map_cons, get?_cons, get?_cons, ih]
    by_cases hkey : key = .string name
    · rw [if_pos hkey, if_pos hkey, hkey, Option.map_some]
    · rw [if_neg hkey, if_neg hkey]

/-! ## writing one entry -/

theorem get?_insert (key : Atom) (v : Value) (fields : Fields) (name : String) :
    get? (insert key v fields) name = if key = .string name then some v else get? fields name := by
  induction fields with
  | nil => exact get?_cons key v [] name
  | cons entry rest ih =>
    obtain ⟨k, w⟩ := entry
    rw [insert]
    by_cases hsame : k.same key = true
    · -- the entry that is replaced is found under `name` just when the new one is
      rw [if_pos hsame, get?_cons, get?_cons]
      by_cases hkey : key = .string name
      · subst hkey
        rw [if_pos (Atom.same_string.mp hsame), if_pos rfl]
      · have hk : k ≠ .string name := by
          rintro rfl
          exact hkey (Atom.string_same.mp hsame).symm
        rw [if_neg hk, if_neg hkey, if_neg hk]
    · rw [if_neg hsame, get?_cons, get?_cons, ih]
      by_cases hk : k = .string name
      · have hkey : key ≠ .string name := by
          rintro rfl
          exact hsame (Atom.same_string.mpr hk)
        rw [if_pos hk, if_neg hkey, if_pos hk]
      · rw [if_neg hk, if_neg hk]

theorem insert_new {key : Atom} {fields : Fields} (v : Value)
    (h : ∀ entry ∈ fields, ¬ entry.1.same key) : insert key v fields = fields ++ [(key, v)] := by
  induction fields with
  | nil => rfl
  | cons entry rest ih =>
    rw [insert, if_neg (h entry List.mem_cons_self),
      ih fun other hother => h other (List.mem_cons_of_mem _ hother)]
    rfl

/-- An entry that is found afterwards is the one that was written, under the key that was there if
there was one, or was there before. -/
theorem mem_insert {key : Atom} {v : Value} {fields : Fields} {entry : Atom × Value}
    (h : entry ∈ Fields.insert key v fields) :
    (entry.2 = v ∧ entry.1.same key = true ∧ (entry.1 = key ∨ ∃ w, (entry.1, w) ∈ fields)) ∨
      entry ∈ fields := by
  induction fields with
  | nil =>
    cases List.mem_singleton.mp h
    exact .inl ⟨rfl, Atom.same_refl key, .inl rfl⟩
  | cons other rest ih =>
    obtain ⟨k, w⟩ := other
    rw [Fields.insert] at h
    split at h
    · rename_i hsame
      rcases List.mem_cons.mp h with rfl | h
      · exact .inl ⟨rfl, hsame, .inr ⟨w, List.mem_cons_self⟩⟩
      · exact .inr (List.mem_cons_of_mem _ h)
    · rcases List.mem_cons.mp h with rfl | h
      · exact .inr List.mem_cons_self
      · rcases ih h with ⟨hv, hkey, hold⟩ | hmem
        · exact .inl ⟨hv, hkey, hold.imp_right fun ⟨u, hu⟩ => ⟨u, List.mem_cons_of_mem _ hu⟩⟩
        · exact .inr (List.mem_cons_of_mem _ hmem)

/-! ## writing many entries -/

def TextKeys (fields : Fields) : Prop := ∀ entry ∈ fields, ∃ name, entry.1 = .string name

theorem TextKeys.insert {fields : Fields} (h : TextKeys fields) (name : String) (v : Value) :
    TextKeys (fields.insert (.string name) v) := by
  induction fields with
  | nil =>
    intro entry hentry
    cases List.mem_singleton.mp hentry
    exact ⟨name, rfl⟩
  | cons entry rest ih =>
    obtain ⟨k, w⟩ := entry
    have hk : ∃ name, k = .string name := h _ List.mem_cons_self
    have hrest : TextKeys rest := fun other hother => h other (List.mem_cons_of_mem _ hother)
    rw [Fields.insert]
    intro other hother
    split at hother
    · rcases List.mem_cons.mp hother with rfl | hmem
      · exact hk
      · exact hrest other hmem
    · rcases List.mem_cons.mp hother with rfl | hmem
      · exact hk
      · exact ih hrest other hmem

theorem TextKeys.ofEntries {entries : List (Atom × Value)} (h : TextKeys entries) :
    TextKeys (Fields.ofEntries entries) := by
  have hstep : ∀ {acc : Fields}, TextKeys acc →
      TextKeys (entries.foldl (fun fields entry => Fields.insert entry.1 entry.2 fields) acc) := by
    induction entries with
    | nil => exact id
    | cons entry rest ih =>
      intro acc hacc
      obtain ⟨name, hname⟩ := h entry List.mem_cons_self
      rw [List.foldl_cons, hname]
      exact ih (fun other hother => h other (List.mem_cons_of_mem _ hother)) (hacc.insert name _)
  refine hstep ?_
  intro entry hentry
  cases hentry

def Distinct (fields : Fields) : Prop := fields.Pairwise fun entry other => ¬ entry.1.same other.1

theorem distinct_of_textKeys {fields : Fields} (htext : TextKeys fields)
    (hkeys : (fields.map (·.1)).Nodup) : Distinct fields := by
  refine (List.pairwise_map.mp hkeys).imp_of_mem ?_
  intro entry other _ hother hne hsame
  obtain ⟨name, hname⟩ := htext other hother
  rw [hname, Atom.same_string] at hsame
  exact hne (hsame.trans hname.symm)

theorem Distinct.get?_rest {key : Atom} {v : Value} {rest : Fields}
    (h : Distinct ((key, v) :: rest)) {name : String} (hkey : key = .string name) :
    get? rest name = none := by
  refine get?_eq_none ?_
  intro hmem
  obtain ⟨entry, hentry, hname⟩ := List.mem_map.mp hmem
  have hne := (List.pairwise_cons.mp h).1 entry hentry
  rw [hkey, Atom.string_same] at hne
  exact hne hname.symm

theorem Distinct.eq_of_same {fields : Fields} (h : Distinct fields) {entry other : Atom × Value}
    (hentry : entry ∈ fields) (hother : other ∈ fields) (hsame : entry.1.same other.1 = true) :
    entry = other := by
  by_contra hne
  have : Std.Symm fun entry other : Atom × Value => ¬ entry.1.same other.1 = true :=
    ⟨fun a b hab => by rwa [Atom.same_comm]⟩
  exact List.Pairwise.forall h hentry hother hne hsame

theorem get?_of_mem {fields : Fields} (hkeys : Distinct fields) {name : String} {v : Value}
    (h : (.string name, v) ∈ fields) : get? fields name = some v := by
  cases hget : get? fields name with
  | none =>
    have hfound : (fields.find? fun entry => entry.1 == .string name).isSome = true :=
      List.find?_isSome.mpr ⟨_, h, beq_self_eq_true _⟩
    rw [get?, Option.map_eq_none_iff] at hget
    rw [hget] at hfound
    cases hfound
  | some w =>
    have heq := hkeys.eq_of_same h (mem_of_get? hget) (Atom.same_refl _)
    cases heq
    rfl

theorem Distinct.insert {fields : Fields} (h : Distinct fields) (key : Atom) (v : Value) :
    Distinct (fields.insert key v) := by
  induction fields with
  | nil => exact List.pairwise_singleton _ _
  | cons entry rest ih =>
    obtain ⟨k, w⟩ := entry
    obtain ⟨hfirst, hrest⟩ := List.pairwise_cons.mp h
    rw [Fields.insert]
    split
    · exact List.pairwise_cons.mpr ⟨hfirst, hrest⟩
    · rename_i hnew
      refine List.pairwise_cons.mpr ⟨?_, ih hrest⟩
      intro other hother hsame
      rcases mem_insert hother with ⟨_, hkey, _⟩ | hmem
      · exact hnew (Atom.same_trans hsame hkey)
      · exact hfirst other hmem hsame

theorem distinct_ofEntries (entries : List (Atom × Value)) : Distinct (ofEntries entries) := by
  have hstep : ∀ acc : Fields, Distinct acc →
      Distinct (entries.foldl (fun fields entry => insert entry.1 entry.2 fields) acc) := by
    induction entries with
    | nil => exact fun acc hacc => hacc
    | cons entry rest ih => exact fun acc hacc => ih _ (hacc.insert entry.1 entry.2)
  exact hstep [] List.Pairwise.nil

/-- writing entries adds no values of its own, and no keys but those that are the same as one -/
theorem exists_of_mem_ofEntries {entries : List (Atom × Value)} {entry : Atom × Value}
    (h : entry ∈ ofEntries entries) :
    ∃ other ∈ entries, other.2 = entry.2 ∧ entry.1.same other.1 = true := by
  have hstep : ∀ acc : Fields,
      entry ∈ entries.foldl (fun fields entry => insert entry.1 entry.2 fields) acc →
      entry ∈ acc ∨ ∃ other ∈ entries, other.2 = entry.2 ∧ entry.1.same other.1 = true := by
    clear h
    induction entries with
    | nil => exact fun acc h => .inl h
    | cons first rest ih =>
      intro acc h
      rcases ih _ h with hacc | ⟨other, hother, hown⟩
      · rcases mem_insert hacc with ⟨hv, hkey, _⟩ | hacc
        · exact .inr ⟨first, List.mem_cons_self, hv.symm, hkey⟩
        · exact .inl hacc
      · exact .inr ⟨other, List.mem_cons_of_mem _ hother, hown⟩
  rcases hstep [] h with h | h
  · cases h
  · exact h

/-- writing entries adds none, if keys that are the same are equal -/
theorem mem_of_mem_ofEntries {entries : List (Atom × Value)}
    (hsame : ∀ entry ∈ entries, ∀ other ∈ entries,
      entry.1.same other.1 = true → entry.1 = other.1)
    {entry : Atom × Value} (h : entry ∈ ofEntries entries) : entry ∈ entries := by
  have hstep : ∀ written : List (Atom × Value), ∀ acc : Fields, written ⊆ entries →
      acc ⊆ entries →
      written.foldl (fun fields entry => insert entry.1 entry.2 fields) acc ⊆ entries := by
    intro written
    induction written with
    | nil => exact fun acc _ hacc => hacc
    | cons first rest ih =>
      intro acc hwritten hacc
      have hfirst : first ∈ entries := hwritten List.mem_cons_self
      refine ih _ (fun other hother => hwritten (List.mem_cons_of_mem _ hother)) ?_
      intro other hother
      rcases mem_insert hother with ⟨hv, hkey, hold⟩ | hmem
      · have heq : other.1 = first.1 := by
          rcases hold with heq | ⟨w, hw⟩
          · exact heq
          · exact hsame _ (hacc hw) first hfirst hkey
        rw [Prod.ext heq hv]
        exact hfirst
      · exact hacc hmem
  exact hstep entries [] (fun _ hx => hx) (List.nil_subset _) h

theorem ofEntries_eq {entries : List (Atom × Value)} (h : Distinct entries) :
    ofEntries entries = entries := by
  have hstep : ∀ acc : Fields, Distinct (acc ++ entries) →
      entries.foldl (fun fields entry => insert entry.1 entry.2 fields) acc = acc ++ entries := by
    clear h
    induction entries with
    | nil =>
      intro acc _
      rw [List.append_nil]
      rfl
    | cons entry rest ih =>
      intro acc hdistinct
      obtain ⟨key, v⟩ := entry
      have hnew : ∀ other ∈ acc, ¬ other.1.same key := by
        intro other hother
        exact (List.pairwise_append.mp hdistinct).2.2 other hother (key, v) List.mem_cons_self
      have hcons : (acc ++ [(key, v)]) ++ rest = acc ++ (key, v) :: rest := by simp
      rw [List.foldl_cons, insert_new v hnew, ih (acc ++ [(key, v)]) (hcons ▸ hdistinct), hcons]
  exact hstep [] h

/-- written on top of `acc`, the entries hide what `acc` has under their keys and nothing else -/
theorem get?_foldl_insert (entries : List (Atom × Value)) (acc : Fields) (name : String) :
    (entries.foldl (fun fields entry => insert entry.1 entry.2 fields) acc).get? name =
      (get? entries.reverse name).or (acc.get? name) := by
  induction entries generalizing acc with
  | nil => rfl
  | cons entry rest ih =>
    obtain ⟨key, v⟩ := entry
    rw [List.foldl_cons, ih, get?_insert, List.reverse_cons]
    unfold get?
    rw [List.find?_append]
    by_cases hkey : key = .string name
    · rw [if_pos hkey, List.find?_cons_of_pos (by simpa using hkey)]
      cases (rest.reverse.find? fun entry => entry.1 == .string name) <;> rfl
    · rw [if_neg hkey, List.find?_cons_of_neg (by simpa using hkey), List.find?_nil, Option.or_none]

/-- of several entries with one key the last one counts -/
theorem get?_ofEntries (entries : List (Atom × Value)) (name : String) :
    (ofEntries entries).get? name = get? entries.reverse name := by
  rw [ofEntries, get?_foldl_insert]
  exact Option.or_none

end Fields

/-! ## JSON values -/

/-- a value that a JSON document can hold: keys are texts, and none stands twice in a mapping -/
inductive Value.IsJson : Value → Prop
  | null : IsJson .null
  | bool (b : Bool) : IsJson (.bool b)
  | int (n : Int) : IsJson (.atom (.int n))
  | float (x : Binary64) : IsJson (.atom (.float x))
  | text (s : String) : IsJson (.text s)
  | list {items : List Value} (hitems : ∀ v ∈ items, v.IsJson) : IsJson (.list items)
  | map {fields : Fields} (htext : fields.TextKeys) (hkeys : (fields.map (·.1)).Nodup)
      (hvalues : ∀ entry ∈ fields, entry.2.IsJson) : IsJson (.map fields)

theorem Value.IsJson.object {entries : List (String × Value)} (hkeys : (entries.map (·.1)).Nodup)
    (hvalues : ∀ entry ∈ entries, entry.2.IsJson) : (Value.object entries).IsJson := by
  refine .map ?_ ?_ ?_
  · intro field hfield
    obtain ⟨entry, _, rfl⟩ := List.mem_map.mp hfield
    exact ⟨entry.1, rfl⟩
  · have hmap : (entries.map fun entry => (Atom.string entry.1, entry.2)).map (·.1) =
        (entries.map (·.1)).map Atom.string := by
      rw [List.map_map, List.map_map]
      rfl
    rw [hmap]
    exact List.pairwise_map.mpr (hkeys.imp fun hne h => hne (Atom.string.inj h))
  · intro field hfield
    obtain ⟨entry, hentry, rfl⟩ := List.mem_map.mp hfield
    exact hvalues entry hentry

/-! ## values of any document -/

/-- whether an entry gives a pointer or a type as bytes -/
def isByteWord : Atom × Value → Bool
  | (.string name, .atom (.bytes _)) => name == "$ref" || name == "type"
  | _ => false

/-- a value in which no two keys of a mapping are the same, and no pointer or type is bytes -/
inductive Value.IsData : Value → Prop
  | atom (a : Atom) : IsData (.atom a)
  | list {items : List Value} (hitems : ∀ v ∈ items, v.IsData) : IsData (.list items)
  | map {fields : Fields} (hkeys : fields.Distinct)
      (hwords : ∀ entry ∈ fields, isByteWord entry = false)
      (hvalues : ∀ entry ∈ fields, entry.2.IsData) : IsData (.map fields)
  | set (members : List Atom) : IsData (.set members)

theorem Value.IsJson.isByteWord_eq {v : Value} (h : v.IsJson) (key : Atom) :
    isByteWord (key, v) = false := by
  cases h <;> cases key <;> rfl

theorem Value.IsJson.isData {v : Value} (h : v.IsJson) : v.IsData := by
  induction h with
  | list _ ih => exact .list ih
  | map htext hkeys hvalues ih =>
    exact .map (Fields.distinct_of_textKeys htext hkeys)
      (fun entry hentry => (hvalues entry hentry).isByteWord_eq entry.1) ih
  | _ => exact .atom _

end ApiBindings
