import ApiBindings.Proofs.Document.Fields
import ApiBindings.Proofs.OpenApi.ReadSchema
import Mathlib.Logic.Relator

/-!
# Readings that follow one another

Two documents are read side by side.  `Checked.Carries R x y` says that `y` gives a result whenever
`x` does, and that `R` relates the two.  The readers are put together from a few combinators, and
each of these keeps the relation:

* `Carries.seq`, `Carries.fmap`, `Carries.all`       the parts of an object;
* `optionalField_carries`, `requiredField_carries`,
  `presentField_carries`                             its keys;
* `readList_carries`, `readMapping_carries`,
  `readReferable_carries`, `readNullable_carries`    the containers of objects.
-/

namespace ApiBindings

open Relator

variable {α α' β β' : Type}

namespace Checked

/-- if `x` has a result then `y` has one that is related to it -/
def Carries (R : α → β → Prop) (x : Checked α) (y : Checked β) : Prop :=
  ∀ a, x = .ok a → ∃ b, y = .ok b ∧ R a b

namespace Carries

variable {R : α → β → Prop} {S : α' → β' → Prop}

theorem refl {R : α → α → Prop} (hR : ∀ a, R a a) (x : Checked α) : Carries R x x :=
  fun a ha => ⟨a, ha, hR a⟩

theorem ok {a : α} {b : β} (h : R a b) : Carries R (.ok a) (.ok b) := by
  intro a' ha'
  cases ha'
  exact ⟨b, rfl, h⟩

theorem imp {R' : α → β → Prop} {x : Checked α} {y : Checked β} (h : Carries R x y)
    (hR : ∀ a b, R a b → R' a b) : Carries R' x y := by
  intro a ha
  obtain ⟨b, hb, hab⟩ := h a ha
  exact ⟨b, hb, hR a b hab⟩

theorem map {x : Checked α} {y : Checked β} (h : Carries R x y) {f : α → α'} {g : β → β'}
    (hfg : (R ⇒ S) f g) : Carries S (x.map f) (y.map g) := by
  intro a' ha'
  obtain ⟨a, ha, rfl⟩ := map_eq_ok.mp ha'
  obtain ⟨b, hb, hab⟩ := h a ha
  exact ⟨g b, map_eq_ok.mpr ⟨b, hb, rfl⟩, hfg hab⟩

theorem fmap {x : Checked α} {y : Checked β} {f : α → α'} {g : β → β'} (hfg : (R ⇒ S) f g)
    (h : Carries R x y) : Carries S (f <$> x) (g <$> y) :=
  h.map hfg

theorem seq {f : Checked (α → α')} {g : Checked (β → β')} {x : Checked α} {y : Checked β}
    (hfg : Carries (R ⇒ S) f g) (hxy : Carries R x y) : Carries S (f <*> x) (g <*> y) := by
  intro a' ha'
  obtain ⟨f', a, hf', ha, rfl⟩ := seq_eq_ok.mp ha'
  obtain ⟨g', hg', hrel⟩ := hfg f' hf'
  obtain ⟨b, hb, hab⟩ := hxy a ha
  exact ⟨g' b, seq_eq_ok.mpr ⟨g', b, hg', hb, rfl⟩, hrel hab⟩

theorem at_ {x : Checked α} {y : Checked β} (h : Carries R x y) (key key' : String) :
    Carries R (x.at_ key) (y.at_ key') := by
  intro a ha
  obtain ⟨b, hb, hab⟩ := h a (at_eq_ok.mp ha)
  exact ⟨b, at_eq_ok.mpr hb, hab⟩

theorem all {xs : List (Checked α)} {ys : List (Checked β)} (h : List.Forall₂ (Carries R) xs ys) :
    Carries (List.Forall₂ R) (Checked.all xs) (Checked.all ys) := by
  induction h with
  | nil => exact .ok .nil
  | cons hxy _ ih =>
    have hcons : Carries (List.Forall₂ R ⇒ List.Forall₂ R) _ _ :=
      hxy.map fun _ _ hab _ _ hrest => List.Forall₂.cons hab hrest
    exact hcons.seq ih

end Carries

end Checked

open Checked (Carries)

variable {R : α → β → Prop} {E : Value → Value → Prop} {read : Value → Checked α}
  {read' : Value → Checked β}

/-! ## keys of an object -/

theorem optionalField_carries {fields fields' : Fields} {key key' : String}
    (h : Given.Rel E (fields.given key) (fields'.given key'))
    (hread : ∀ v v', fields.given key = .value v → E v v' → Carries R (read v) (read' v')) :
    Carries (Given.Rel R) (optionalField read fields key) (optionalField read' fields' key') := by
  unfold optionalField
  revert h hread
  generalize fields.given key = given
  generalize fields'.given key' = given'
  intro h
  cases h with
  | absent => exact fun _ => .ok .absent
  | null => exact fun _ => .ok .null
  | value hv =>
    intro hread
    exact ((hread _ _ rfl hv).map fun _ _ hab => Given.Rel.value hab).at_ _ _

theorem requiredField_carries {fields fields' : Fields} {key key' : String}
    (h : Option.Rel E (fields.get? key) (fields'.get? key'))
    (hread : ∀ v v', E v v' → Carries R (read v) (read' v')) :
    Carries R (requiredField read fields key) (requiredField read' fields' key') := by
  unfold requiredField
  revert h
  generalize fields.get? key = found
  generalize fields'.get? key' = found'
  intro h
  cases h with
  | none =>
    intro a ha
    exact (Checked.error_ne_ok ha).elim
  | some hv => exact (hread _ _ hv).at_ _ _

theorem presentField_carries {fields fields' : Fields} {key key' : String}
    (h : Option.Rel E (fields.get? key) (fields'.get? key'))
    (hread : ∀ v v', fields.get? key = some v → fields'.get? key' = some v' → E v v' →
      Carries R (read v) (read' v')) :
    Carries (Option.Rel R) (presentField read fields key) (presentField read' fields' key') := by
  unfold presentField
  revert h hread
  generalize fields.get? key = found
  generalize fields'.get? key' = found'
  intro h
  cases h with
  | none => exact fun _ => .ok .none
  | some hv =>
    intro hread
    exact ((hread _ _ rfl rfl hv).map fun _ _ hab => Option.Rel.some hab).at_ _ _

theorem readNullable_of_ne_null {v : Value} (h : v ≠ .null) :
    readNullable read v = (read v).map some := by
  unfold readNullable
  split
  · exact (h rfl).elim
  · rfl

theorem readNullable_carries {v v' : Value} (hnull : v = .null ↔ v' = .null)
    (h : Carries R (read v) (read' v')) :
    Carries (Option.Rel R) (readNullable read v) (readNullable read' v') := by
  by_cases hv : v = .null
  · rw [hv, hnull.mp hv]
    exact .ok .none
  · rw [readNullable_of_ne_null hv, readNullable_of_ne_null fun hv' => hv (hnull.mpr hv')]
    exact h.map fun _ _ hab => Option.Rel.some hab

/-! ## containers -/

theorem readList_carries {vs vs' : List Value}
    (h : List.Forall₂ (fun v v' => Carries R (read v) (read' v')) vs vs') :
    Carries (List.Forall₂ R) (readList read (.list vs)) (readList read' (.list vs')) := by
  have hzip : ∀ n, List.Forall₂ (Carries R)
      ((vs.zipIdx n).map fun entry => (read entry.1).at_ (toString entry.2))
      ((vs'.zipIdx n).map fun entry => (read' entry.1).at_ (toString entry.2)) := by
    induction h with
    | nil => exact fun _ => .nil
    | cons hv _ ih => exact fun n => .cons (hv.at_ _ _) (ih (n + 1))
  exact .all (hzip 0)

/-- entries of one key whose values are read one after the other -/
def ReadAlike (R : α → β → Prop) (read : Value → Checked α) (read' : Value → Checked β)
    (entry entry' : Atom × Value) : Prop :=
  entry.1 = entry'.1 ∧ Carries R (read entry.2) (read' entry'.2)

theorem readEntry_carries {entry entry' : Atom × Value} (h : ReadAlike R read read' entry entry') :
    Carries (EntryRel R) (readEntry read entry) (readEntry read' entry') := by
  obtain ⟨key, v⟩ := entry
  obtain ⟨key', v'⟩ := entry'
  obtain ⟨hkey, hread⟩ := h
  cases hkey
  have hname : Carries (R ⇒ EntryRel R) ((readKey key).map Prod.mk) ((readKey key).map Prod.mk) :=
    (Carries.refl (R := Eq) (fun _ => rfl) (readKey key)).map
      fun name name' hname _ _ hab => ⟨hname, hab⟩
  exact hname.seq (hread.at_ _ _)

theorem readMapping_carries {fields fields' : Fields}
    (h : List.Forall₂ (ReadAlike R read read') fields fields') :
    Carries (List.Forall₂ (EntryRel R)) (readMapping read (.map fields))
      (readMapping read' (.map fields')) := by
  have hentries : List.Forall₂ (Carries (EntryRel R)) (fields.map (readEntry read))
      (fields'.map (readEntry read')) :=
    List.rel_map (fun _ _ => readEntry_carries) h
  exact (Carries.all hentries).map fun _ _ => mergeEntries_rel

/-- a pointer with the same target, or related objects -/
inductive Referable.Rel (R : α → β → Prop) : Referable α → Referable β → Prop
  | ref (target : String) : Rel R (.ref target) (.ref target)
  | inline {a : α} {b : β} (h : R a b) : Rel R (.inline a) (.inline b)

theorem readReferable_carries {fields fields' : Fields}
    (hhas : fields'.has "$ref" = fields.has "$ref")
    (hpointer : fields.has "$ref" = true → readReference fields' = readReference fields)
    (hinline : fields.has "$ref" = false → Carries R (read (.map fields)) (read' (.map fields'))) :
    Carries (Referable.Rel R) (readReferable read (.map fields))
      (readReferable read' (.map fields')) := by
  unfold readReferable
  dsimp only
  rw [hhas]
  cases h : fields.has "$ref" with
  | true =>
    rw [if_pos rfl, if_pos rfl, hpointer h]
    refine Carries.at_ ?_ _ _
    exact (Carries.refl (R := Eq) (fun _ => rfl) _).map fun target target' htarget => by
      cases htarget
      exact .ref target
  | false =>
    rw [if_neg (by decide), if_neg (by decide)]
    exact ((hinline h).map fun _ _ hab => Referable.Rel.inline hab).at_ _ _

end ApiBindings
