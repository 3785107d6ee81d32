import ApiBindings.OpenApi.ReadDescription
import ApiBindings.Proofs.Pointwise

/-!
# What a reading that succeeds has read

A reader gives a result if and only if all its parts do.  For every way in which readers are put
together, what the parts have read when the whole has:

* `Checked.seq_eq_ok`, `Checked.map_eq_ok`, `Checked.at_eq_ok`, `Checked.all_eq_ok`;
* `presentField_eq_ok`, `readNullable_eq_ok`      keys that may be left out or null;
* `readMapping_eq_ok`                             the entries of a mapping.
-/

namespace ApiBindings

namespace Checked

variable {α β : Type}

theorem error_ne_ok {issues : List Issue} {a : α} : (Except.error issues : Checked α) ≠ .ok a := by
  intro h
  cases h

theorem seq_eq_ok {f : Checked (α → β)} {x : Checked α} {b : β} :
    f <*> x = .ok b ↔ ∃ g a, f = .ok g ∧ x = .ok a ∧ g a = b := by
  show app f x = .ok b ↔ _
  cases f with
  | error issues =>
    cases x <;>
      exact ⟨fun h => (error_ne_ok h).elim, fun ⟨_, _, h, _⟩ => (error_ne_ok h).elim⟩
  | ok g =>
    cases x with
    | error issues =>
      exact ⟨fun h => (error_ne_ok h).elim, fun ⟨_, _, _, h, _⟩ => (error_ne_ok h).elim⟩
    | ok a =>
      constructor
      · intro h
        cases h
        exact ⟨g, a, rfl, rfl, rfl⟩
      · rintro ⟨g', a', hg, ha, rfl⟩
        cases hg
        cases ha
        rfl

theorem map_eq_ok {f : α → β} {x : Checked α} {b : β} :
    x.map f = .ok b ↔ ∃ a, x = .ok a ∧ f a = b := by
  cases x with
  | error issues =>
    exact ⟨fun h => (error_ne_ok h).elim, fun ⟨_, h, _⟩ => (error_ne_ok h).elim⟩
  | ok a =>
    constructor
    · intro h
      cases h
      exact ⟨a, rfl, rfl⟩
    · rintro ⟨a', h, rfl⟩
      cases h
      rfl

theorem fmap_eq_ok {f : α → β} {x : Checked α} {b : β} :
    f <$> x = .ok b ↔ ∃ a, x = .ok a ∧ f a = b :=
  map_eq_ok

theorem at_eq_ok {key : String} {x : Checked α} {a : α} : x.at_ key = .ok a ↔ x = .ok a := by
  cases x with
  | error issues => exact ⟨fun h => (error_ne_ok h).elim, fun h => (error_ne_ok h).elim⟩
  | ok b => exact Iff.rfl

theorem app_eq_ok {f : Checked (α → β)} {x : Checked α} {b : β} :
    app f x = .ok b ↔ ∃ g a, f = .ok g ∧ x = .ok a ∧ g a = b :=
  seq_eq_ok

theorem all_eq_ok {cs : List (Checked α)} {as : List α} :
    all cs = .ok as ↔ List.Forall₂ (fun c a => c = .ok a) cs as := by
  induction cs generalizing as with
  | nil =>
    rw [all, List.forall₂_nil_left_iff]
    constructor
    · intro h
      cases h
      rfl
    · intro h
      rw [h]
  | cons c cs ih =>
    rw [all, app_eq_ok, List.forall₂_cons_left_iff]
    constructor
    · rintro ⟨g, rest, hg, hrest, rfl⟩
      obtain ⟨a, ha, rfl⟩ := map_eq_ok.mp hg
      exact ⟨a, rest, ha, ih.mp hrest, rfl⟩
    · rintro ⟨a, rest, ha, hrest, rfl⟩
      exact ⟨List.cons a, rest, map_eq_ok.mpr ⟨a, ha, rfl⟩, ih.mpr hrest, rfl⟩

end Checked

/-! ## objects -/

variable {α : Type}

theorem readObject_eq_ok {model : String} {read : Fields → Checked α} {v : Value} {a : α} :
    readObject model read v = .ok a ↔ ∃ fields, v = .map fields ∧ read fields = .ok a := by
  unfold readObject
  split
  · constructor
    · intro h
      exact ⟨_, rfl, h⟩
    · rintro ⟨_, heq, h⟩
      cases heq
      exact h
  · rename_i hother
    constructor
    · intro h
      cases h
    · rintro ⟨fields, rfl, _⟩
      exact (hother fields rfl).elim

theorem presentField_eq_ok {read : Value → Checked α} {fields : Fields} {key : String}
    {x : Option α} (h : presentField read fields key = .ok x) :
    (fields.get? key = none ∧ x = none) ∨
      ∃ v a, fields.get? key = some v ∧ read v = .ok a ∧ x = some a := by
  unfold presentField at h
  split at h
  · rename_i hnone
    cases h
    exact .inl ⟨hnone, rfl⟩
  · rename_i v hv
    obtain ⟨a, ha, rfl⟩ := Checked.map_eq_ok.mp (Checked.at_eq_ok.mp h)
    exact .inr ⟨v, a, hv, ha, rfl⟩

theorem readNullable_eq_ok {read : Value → Checked α} {v : Value} {x : Option α}
    (h : readNullable read v = .ok x) :
    (v = .null ∧ x = none) ∨ ∃ a, v ≠ .null ∧ read v = .ok a ∧ x = some a := by
  unfold readNullable at h
  split at h
  · cases h
    exact .inl ⟨rfl, rfl⟩
  · rename_i hne
    obtain ⟨a, ha, rfl⟩ := Checked.map_eq_ok.mp h
    exact .inr ⟨a, hne, ha, rfl⟩

/-! ## mappings -/

def keyText? : Atom → Option String
  | .string s => some s
  | .bytes content => utf8Text? content
  | _ => none

theorem readText_eq_ok {key : Atom} {text : String} (h : readText (.atom key) = .ok text) :
    keyText? key = some text := by
  cases key with
  | string s =>
    cases h
    rfl
  | bytes content =>
    unfold readText at h
    dsimp only at h
    split at h
    · rename_i hs
      cases h
      exact hs
    · cases h
  | _ => cases h

theorem readKey_eq_ok {key : Atom} {text : String} (h : readKey key = .ok text) :
    keyText? key = some text :=
  readText_eq_ok (Checked.at_eq_ok.mp (Checked.at_eq_ok.mp h))

def ReadEntry (read : Value → Checked α) (entry : Atom × Value) (result : String × α) : Prop :=
  keyText? entry.1 = some result.1 ∧ read entry.2 = .ok result.2

theorem readMapping_eq_ok {read : Value → Checked α} {v : Value} {results : List (String × α)}
    (h : readMapping read v = .ok results) :
    ∃ fields entries, v = .map fields ∧ List.Forall₂ (ReadEntry read) fields entries ∧
      results = mergeEntries entries := by
  unfold readMapping at h
  split at h
  · rename_i fields
    obtain ⟨entries, hentries, rfl⟩ := Checked.map_eq_ok.mp h
    refine ⟨fields, entries, rfl, ?_, rfl⟩
    refine (List.forall₂_map_left_iff.mp (Checked.all_eq_ok.mp hentries)).imp ?_
    intro entry result hentry
    obtain ⟨g, a, hkey, ha, rfl⟩ := Checked.app_eq_ok.mp hentry
    obtain ⟨text, htext, rfl⟩ := Checked.map_eq_ok.mp hkey
    exact ⟨readKey_eq_ok htext, Checked.at_eq_ok.mp ha⟩
  · cases h

/-! ## entries by name -/

section
variable {β : Type} {R : α → β → Prop}

def EntryRel (R : α → β → Prop) (x : String × α) (y : String × β) : Prop :=
  x.1 = y.1 ∧ R x.2 y.2

theorem putEntry_rel {entries : List (String × α)} {entries' : List (String × β)}
    (h : List.Forall₂ (EntryRel R) entries entries') (key : String) {a : α} {b : β} (hab : R a b) :
    List.Forall₂ (EntryRel R) (putEntry key a entries) (putEntry key b entries') := by
  induction h with
  | nil => exact .cons ⟨rfl, hab⟩ .nil
  | @cons x y xs ys hxy hrest ih =>
    obtain ⟨k, v⟩ := x
    obtain ⟨k', v'⟩ := y
    obtain ⟨hkey, hv⟩ := hxy
    cases hkey
    rw [putEntry, putEntry]
    by_cases hk : k = key
    · rw [if_pos hk, if_pos hk]
      exact .cons ⟨rfl, hab⟩ hrest
    · rw [if_neg hk, if_neg hk]
      exact .cons ⟨rfl, hv⟩ ih

theorem mergeEntries_rel {entries : List (String × α)} {entries' : List (String × β)}
    (h : List.Forall₂ (EntryRel R) entries entries') :
    List.Forall₂ (EntryRel R) (mergeEntries entries) (mergeEntries entries') := by
  have hstep : ∀ {acc acc'}, List.Forall₂ (EntryRel R) acc acc' →
      List.Forall₂ (EntryRel R)
        (entries.foldl (fun acc entry => putEntry entry.1 entry.2 acc) acc)
        (entries'.foldl (fun acc entry => putEntry entry.1 entry.2 acc) acc') := by
    induction h with
    | nil => exact id
    | @cons x y xs ys hxy _ ih =>
      intro acc acc' hacc
      rw [List.foldl_cons, List.foldl_cons, hxy.1]
      exact ih (putEntry_rel hacc y.1 hxy.2)
  exact hstep .nil

end

end ApiBindings
