import ApiBindings.Proofs.Outcome
import ApiBindings.Proofs.Pointwise
import ApiBindings.Swagger.Conversion
import Mathlib.Data.List.Forall2

/-!
# The steps of a conversion

What a conversion gives, and which warnings it leaves, follows from its steps.

* `Conversion.Gives`           a conversion gives a result, with whatever warnings;
* `gives_bind`, `gives_each`   what its steps give then;
* `bind_congr_of_gives`        what comes behind a step may depend on what it gives;
* `Conversion.GoesThrough`     a conversion gives anything at all;
* `each_eq_ok_sift`            elements that leave no warnings can be left out;
* `Conversion.Follows`         a conversion does what another one does, warnings included.
-/

namespace ApiBindings.Conversion

variable {α β γ : Type}

/-- the conversion goes through and gives `a` -/
def Gives (x : Conversion α) (a : α) : Prop := ∃ warnings, x = .ok ⟨a, warnings⟩

/-! ## single steps -/

theorem bind_eq_ok_iff {x : Conversion α} {f : α → Conversion β} {b : β} {ws : List String} :
    x >>= f = .ok ⟨b, ws⟩ ↔
      ∃ a us vs, x = .ok ⟨a, us⟩ ∧ f a = .ok ⟨b, vs⟩ ∧ ws = us ++ vs := by
  show andThen x f = _ ↔ _
  unfold andThen
  cases x with
  | error m =>
    constructor
    · intro h
      cases h
    · rintro ⟨_, _, _, h, _⟩
      cases h
  | ok x =>
    obtain ⟨a, us⟩ := x
    dsimp only
    cases hf : f a with
    | error m =>
      constructor
      · intro h
        cases h
      · rintro ⟨a', us', vs', ha, hfa, _⟩
        cases ha
        rw [hf] at hfa
        cases hfa
    | ok y =>
      obtain ⟨b', vs⟩ := y
      constructor
      · intro h
        cases h
        exact ⟨a, us, vs, rfl, hf, rfl⟩
      · rintro ⟨a', us', vs', ha, hfa, rfl⟩
        cases ha
        rw [hf] at hfa
        cases hfa
        rfl

theorem ofExcept_ok_bind (a : α) (f : α → Conversion β) : ofExcept (.ok a) >>= f = f a := by
  show andThen (done a) f = _
  unfold andThen done
  dsimp only
  cases hf : f a <;> rfl

theorem andThen_assoc (x : Conversion α) (f : α → Conversion β) (g : β → Conversion γ) :
    (x.andThen f).andThen g = x.andThen fun a => (f a).andThen g := by
  unfold andThen
  cases x with
  | error m => rfl
  | ok a =>
    dsimp only
    cases f a.value with
    | error m => rfl
    | ok b =>
      dsimp only
      cases g b.value with
      | error m => rfl
      | ok c =>
        dsimp only
        rw [List.append_assoc]

theorem andThen_done (x : Conversion α) : x.andThen done = x := by
  unfold andThen done
  cases x with
  | error m => rfl
  | ok a =>
    dsimp only
    rw [List.append_nil]

instance : LawfulMonad Conversion :=
  LawfulMonad.mk' Conversion andThen_done ofExcept_ok_bind andThen_assoc

theorem gives_pure {a b : α} : Gives (pure a) b ↔ a = b := by
  constructor
  · rintro ⟨_, h⟩
    cases h
    rfl
  · rintro rfl
    exact ⟨[], rfl⟩

theorem gives_bind {x : Conversion α} {f : α → Conversion β} {b : β} :
    Gives (x >>= f) b ↔ ∃ a, Gives x a ∧ Gives (f a) b := by
  constructor
  · rintro ⟨_, h⟩
    obtain ⟨a, us, vs, hx, hf, _⟩ := bind_eq_ok_iff.mp h
    exact ⟨a, ⟨us, hx⟩, vs, hf⟩
  · rintro ⟨a, ⟨us, hx⟩, vs, hf⟩
    exact ⟨us ++ vs, bind_eq_ok_iff.mpr ⟨a, us, vs, hx, hf, rfl⟩⟩

/-- what comes behind a step matters only for what the step gives -/
theorem bind_congr_of_gives {x : Conversion α} {f g : α → Conversion β} (h : ∀ a, Gives x a → f a = g a) :
    x >>= f = x >>= g := by
  show andThen x f = andThen x g
  unfold andThen
  cases x with
  | error m => rfl
  | ok a =>
    dsimp only
    rw [h a.value ⟨a.warnings, rfl⟩]

theorem gives_ofExcept {x : Except Malformed α} {a : α} : Gives (ofExcept x) a ↔ x = .ok a := by
  constructor
  · rintro ⟨_, h⟩
    obtain ⟨b, hb, h⟩ := map_eq_ok.mp h
    cases h
    exact hb
  · rintro rfl
    exact ⟨[], rfl⟩

theorem not_gives_stop {m : Malformed} {a : α} : ¬ Gives (stop m) a := by
  rintro ⟨_, h⟩
  cases h

theorem gives_each {f : α → Conversion β} {as : List α} {bs : List β} :
    Gives (each f as) bs ↔ List.Forall₂ (fun a b => Gives (f a) b) as bs := by
  induction as generalizing bs with
  | nil =>
    rw [List.forall₂_nil_left_iff]
    exact gives_pure.trans eq_comm
  | cons a as ih =>
    rw [each, gives_bind, List.forall₂_cons_left_iff]
    constructor
    · rintro ⟨b, hb, h⟩
      obtain ⟨rest, hrest, h⟩ := gives_bind.mp h
      exact ⟨b, rest, hb, ih.mp hrest, (gives_pure.mp h).symm⟩
    · rintro ⟨b, rest, hb, hrest, rfl⟩
      exact ⟨b, hb, gives_bind.mpr ⟨rest, ih.mpr hrest, gives_pure.mpr rfl⟩⟩

/-! ## conversions that go through -/

def GoesThrough (x : Conversion α) : Prop := ∃ a, Gives x a

theorem goesThrough_pure (a : α) : GoesThrough (pure a) := ⟨a, gives_pure.mpr rfl⟩

theorem goesThrough_bind {x : Conversion α} {f : α → Conversion β} :
    GoesThrough (x >>= f) ↔ ∃ a, Gives x a ∧ GoesThrough (f a) := by
  constructor
  · rintro ⟨b, h⟩
    obtain ⟨a, ha, hb⟩ := gives_bind.mp h
    exact ⟨a, ha, b, hb⟩
  · rintro ⟨a, ha, b, hb⟩
    exact ⟨b, gives_bind.mpr ⟨a, ha, hb⟩⟩

theorem goesThrough_ofExcept_bind {x : Except Malformed α} {f : α → Conversion β} :
    GoesThrough (ofExcept x >>= f) ↔ ∃ a, x = .ok a ∧ GoesThrough (f a) := by
  rw [goesThrough_bind]
  exact exists_congr fun a => and_congr_left' gives_ofExcept

/-- what comes behind a step does not count if it always goes through -/
theorem goesThrough_bind_of {x : Conversion α} {f : α → Conversion β}
    (hf : ∀ a, Gives x a → GoesThrough (f a)) : GoesThrough (x >>= f) ↔ GoesThrough x :=
  goesThrough_bind.trans ⟨fun ⟨a, ha, _⟩ => ⟨a, ha⟩, fun ⟨a, ha⟩ => ⟨a, ha, hf a ha⟩⟩

theorem goesThrough_bind_pure {x : Conversion α} {f : α → β} :
    GoesThrough (x >>= fun a => pure (f a)) ↔ GoesThrough x :=
  goesThrough_bind_of fun _ _ => goesThrough_pure _

theorem goesThrough_warn (text : String) : GoesThrough (warn text) := ⟨(), [text], rfl⟩

theorem goesThrough_each {f : α → Conversion β} {as : List α} :
    GoesThrough (each f as) ↔ ∀ a ∈ as, GoesThrough (f a) := by
  constructor
  · rintro ⟨bs, h⟩
    exact exists_of_forall₂ (gives_each.mp h)
  · intro h
    obtain ⟨bs, hbs⟩ := exists_forall₂ h
    exact ⟨bs, gives_each.mpr hbs⟩

/-! ## warnings -/

/-- whatever the conversion gives, it leaves no warnings -/
def Quiet (x : Conversion α) : Prop := ∀ a ws, x = .ok ⟨a, ws⟩ → ws = []

theorem quiet_pure (a : α) : Quiet (pure a) := by
  intro b ws h
  cases h
  rfl

theorem quiet_ofExcept (x : Except Malformed α) : Quiet (ofExcept x) := by
  intro a ws h
  obtain ⟨b, _, h⟩ := map_eq_ok.mp h
  cases h
  rfl

theorem Quiet.bind {x : Conversion α} {f : α → Conversion β} (hx : Quiet x)
    (hf : ∀ a, Gives x a → Quiet (f a)) : Quiet (x >>= f) := by
  intro b ws h
  obtain ⟨a, us, vs, hxa, hfa, rfl⟩ := bind_eq_ok_iff.mp h
  rw [hx a us hxa, hf a ⟨us, hxa⟩ b vs hfa]
  rfl

theorem quiet_each {f : α → Conversion β} (hf : ∀ a, Quiet (f a)) (as : List α) :
    Quiet (each f as) := by
  induction as with
  | nil => exact quiet_pure []
  | cons a as ih => exact (hf a).bind fun b _ => ih.bind fun bs _ => quiet_pure (b :: bs)

/-! ## elements left out -/

/-- the elements that a test keeps; it sees those behind an element too -/
def sift {α : Type} (keep : α → List α → Bool) : List α → List α
  | [] => []
  | a :: rest => if keep a rest then a :: sift keep rest else sift keep rest

theorem exists_keep_of_mem_sift {keep : α → List α → Bool} {as : List α} {a : α}
    (h : a ∈ sift keep as) : ∃ rest, keep a rest = true := by
  induction as with
  | nil => cases h
  | cons b as ih =>
    rw [sift] at h
    split at h
    · rename_i hkeep
      rcases List.mem_cons.mp h with rfl | h
      · exact ⟨as, hkeep⟩
      · exact ih h
    · exact ih h

/-- what a test drops does not count if it counts nowhere -/
theorem filterMap_sift {keep : α → List α → Bool} {f : α → Option β}
    (h : ∀ a rest, keep a rest = false → f a = none) (as : List α) :
    (sift keep as).filterMap f = as.filterMap f := by
  induction as with
  | nil => rfl
  | cons a as ih =>
    rw [sift]
    cases hka : keep a as with
    | true => rw [if_pos rfl, List.filterMap_cons, List.filterMap_cons, ih]
    | false => rw [if_neg Bool.false_ne_true, ih, List.filterMap_cons_none (h a as hka)]

/-- Elements that leave no warnings can be left out; what the others become stays. -/
theorem each_eq_ok_sift {f : α → Conversion β} {keep : α → List α → Bool}
    {keep' : β → List β → Bool}
    (hkeep : ∀ a b as bs, Gives (f a) b → Gives (each f as) bs → keep a as = keep' b bs)
    (hquiet : ∀ a as, keep a as = false → Quiet (f a)) {as : List α} {bs : List β}
    {ws : List String} (h : each f as = .ok ⟨bs, ws⟩) :
    each f (sift keep as) = .ok ⟨sift keep' bs, ws⟩ := by
  induction as generalizing bs ws with
  | nil =>
    cases h
    rfl
  | cons a as ih =>
    obtain ⟨b, us, vs, hb, hmore, rfl⟩ := bind_eq_ok_iff.mp h
    obtain ⟨rest, vs, _, hrest, hcons, rfl⟩ := bind_eq_ok_iff.mp hmore
    cases hcons
    -- both sides decide alike about the first element, and dropping it drops no warning
    rw [sift, sift, ← hkeep a b as rest ⟨us, hb⟩ ⟨vs, hrest⟩]
    cases hka : keep a as with
    | true =>
      exact bind_eq_ok_iff.mpr ⟨b, us, vs ++ [], hb,
        bind_eq_ok_iff.mpr ⟨_, vs, [], ih hrest, rfl, rfl⟩, rfl⟩
    | false =>
      rw [if_neg Bool.false_ne_true, if_neg Bool.false_ne_true, ih hrest, hquiet a as hka b us hb,
        List.nil_append, List.append_nil]

/-! ## conversions that do the same -/

/-- whatever the one conversion gives, the other gives too, with the same warnings -/
def Follows (x y : Conversion α) : Prop := ∀ a ws, x = .ok ⟨a, ws⟩ → y = .ok ⟨a, ws⟩

theorem Follows.refl (x : Conversion α) : Follows x x := fun _ _ h => h

theorem Follows.bind {x y : Conversion α} {f g : α → Conversion β} (hxy : Follows x y)
    (hfg : ∀ a, Follows (f a) (g a)) : Follows (x >>= f) (y >>= g) := by
  intro b ws h
  obtain ⟨a, us, vs, hx, hf, rfl⟩ := bind_eq_ok_iff.mp h
  exact bind_eq_ok_iff.mpr ⟨a, us, vs, hxy a us hx, hfg a b vs hf, rfl⟩

theorem follows_each_map {f g : α → Conversion β} {change : α → α}
    (h : ∀ a, Follows (f a) (g (change a))) (as : List α) :
    Follows (each f as) (each g (as.map change)) := by
  induction as with
  | nil => exact Follows.refl _
  | cons a as ih => exact (h a).bind fun b => ih.bind fun bs => Follows.refl _

end ApiBindings.Conversion
