import ApiBindings.Proofs.Outcome
import Mathlib.Data.List.Forall2

/-!
# Lists that are related element by element

* `exists_forall₂`      a related list is there if there is a related element for each;
* `forall₂_comp`        a relation that follows from two others in a row;
* `forall₂_through`     a relation that goes through a third kind of elements;
* `forall₂_carry`       a relation that is kept when the elements on one side are replaced;
* `traverse_eq_ok_iff`  steps for all elements succeed if the step for each does.
-/

namespace ApiBindings

variable {α β γ δ : Type}

theorem exists_forall₂ {R : α → β → Prop} {as : List α} (h : ∀ a ∈ as, ∃ b, R a b) :
    ∃ bs, List.Forall₂ R as bs := by
  induction as with
  | nil => exact ⟨[], .nil⟩
  | cons a as ih =>
    obtain ⟨b, hb⟩ := h a List.mem_cons_self
    obtain ⟨bs, hbs⟩ := ih fun a ha => h a (List.mem_cons_of_mem _ ha)
    exact ⟨b :: bs, .cons hb hbs⟩

theorem exists_mem_of_forall₂ {R : α → β → Prop} {as : List α} {bs : List β}
    (h : List.Forall₂ R as bs) {a : α} (ha : a ∈ as) : ∃ b ∈ bs, R a b := by
  induction h with
  | nil => cases ha
  | cons hab _ ih =>
    rcases List.mem_cons.mp ha with rfl | ha
    · exact ⟨_, List.mem_cons_self, hab⟩
    · obtain ⟨b, hb, hrel⟩ := ih ha
      exact ⟨b, List.mem_cons_of_mem _ hb, hrel⟩

theorem exists_of_forall₂ {R : α → β → Prop} {as : List α} {bs : List β}
    (h : List.Forall₂ R as bs) : ∀ a ∈ as, ∃ b, R a b := by
  intro a ha
  obtain ⟨b, _, hab⟩ := exists_mem_of_forall₂ h ha
  exact ⟨b, hab⟩

theorem forall₂_comp {P : α → β → Prop} {Q : β → γ → Prop} {R : α → γ → Prop} {as : List α}
    {bs : List β} {cs : List γ} (h : List.Forall₂ P as bs) (h' : List.Forall₂ Q bs cs)
    (hstep : ∀ a ∈ as, ∀ b c, P a b → Q b c → R a c) : List.Forall₂ R as cs := by
  induction h generalizing cs with
  | nil =>
    cases h'
    exact .nil
  | @cons a b as bs hab _ ih =>
    cases h' with
    | cons hbc hrest =>
      exact .cons (hstep a List.mem_cons_self b _ hab hbc)
        (ih hrest fun a ha => hstep a (List.mem_cons_of_mem _ ha))

theorem map_eq_of_forall₂ {f : α → γ} {g : β → γ} {as : List α} {bs : List β}
    (h : List.Forall₂ (fun a b => g b = f a) as bs) : bs.map g = as.map f := by
  induction h with
  | nil => rfl
  | cons hab _ ih => rw [List.map_cons, List.map_cons, hab, ih]

theorem forall₂_through {P : α → γ → Prop} {Q : α → β → Prop} {R : β → γ → Prop} {as : List α}
    {cs : List γ} (h : List.Forall₂ P as cs)
    (hstep : ∀ a ∈ as, ∀ c, P a c → ∃ b, Q a b ∧ R b c) :
    ∃ bs, List.Forall₂ Q as bs ∧ List.Forall₂ R bs cs := by
  induction h with
  | nil => exact ⟨[], .nil, .nil⟩
  | @cons a c as cs hac _ ih =>
    obtain ⟨b, hab, hbc⟩ := hstep a List.mem_cons_self c hac
    obtain ⟨bs, habs, hbcs⟩ := ih fun a ha => hstep a (List.mem_cons_of_mem _ ha)
    exact ⟨b :: bs, .cons hab habs, .cons hbc hbcs⟩

theorem forall₂_carry {P : α → γ → Prop} {Q : β → δ → Prop} {R : γ → δ → Prop} {f : α → β}
    {as : List α} {cs : List γ} (h : List.Forall₂ P as cs)
    (hstep : ∀ a ∈ as, ∀ c, P a c → ∃ d, Q (f a) d ∧ R c d) :
    ∃ ds, List.Forall₂ Q (as.map f) ds ∧ List.Forall₂ R cs ds := by
  obtain ⟨ds, hds, hcds⟩ := forall₂_through (Q := fun a d => Q (f a) d) (R := flip R) h hstep
  exact ⟨ds, List.forall₂_map_left_iff.mpr hds, hcds.flip⟩

/-- A recursion that takes a step for each element of a list gives a list if each step gives an
element. -/
theorem traverse_eq_ok_iff {ε : Type} {f : α → Except ε β} {g : List α → Except ε (List β)}
    (hnil : g [] = .ok [])
    (hcons : ∀ a as, g (a :: as) = (do let b ← f a; let bs ← g as; return b :: bs))
    {as : List α} {bs : List β} :
    g as = .ok bs ↔ List.Forall₂ (fun a b => f a = .ok b) as bs := by
  induction as generalizing bs with
  | nil =>
    rw [hnil, List.forall₂_nil_left_iff, Except.ok.injEq, eq_comm]
  | cons a as ih =>
    rw [hcons, bind_eq_ok, List.forall₂_cons_left_iff]
    constructor
    · rintro ⟨b, hb, h⟩
      obtain ⟨bs, hbs, h⟩ := bind_eq_ok.mp h
      cases h
      exact ⟨b, bs, hb, ih.mp hbs, rfl⟩
    · rintro ⟨b, bs, hb, hbs, rfl⟩
      exact ⟨b, hb, bind_eq_ok.mpr ⟨bs, ih.mpr hbs, rfl⟩⟩

end ApiBindings
