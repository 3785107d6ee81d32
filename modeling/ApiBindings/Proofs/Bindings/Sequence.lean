import ApiBindings.Proofs.Bindings.Parts
import Mathlib.Data.List.Forall2

/-!
# The operations of a document one after the other

Each operation is bound given the ids of those before it.  These ids decide nothing but whether the
id of the operation is a repetition, so all operations can be bound together if and only if each can
be on its own and no id occurs twice.

* `bind_eq`                    what the ids seen before do to the binding of one operation;
* `bindingsFrom_eq_ok_iff`     all bindings together are the single ones;
* `bindingsFrom_eq_error`      a failure is that of the first operation that cannot be bound.
-/

namespace ApiBindings

namespace Endpoint

def id? (e : Endpoint) : Option String := givenText? e.operation.operationId.toOption

def ids (es : List Endpoint) : List String := es.filterMap id?

theorem ids_append (s t : List Endpoint) : ids (s ++ t) = ids s ++ ids t := List.filterMap_append

end Endpoint

theorem operationId_eq_ok_iff {e : Endpoint} {seen : List String} {id : String} :
    operationId e seen = .ok id ↔ e.id? = some id ∧ id ∉ seen := by
  unfold operationId Endpoint.id?
  cases givenText? e.operation.operationId.toOption with
  | none =>
    constructor
    · intro h
      cases h
    · rintro ⟨h, _⟩
      cases h
  | some given =>
    dsimp only
    constructor
    · intro h
      split at h
      · cases h
      · rename_i hnew
        cases h
        exact ⟨rfl, hnew⟩
    · rintro ⟨h, hnew⟩
      cases h
      rw [if_neg hnew]

namespace Description

open Endpoint

variable {d : Description} {e : Endpoint} {seen : List String}

/-! ## one operation -/

/-- the ids seen before matter only if the id of the operation is one of them -/
theorem bind_eq (d : Description) (e : Endpoint) (seen : List String) : d.bind e seen =
    match e.id? with
    | none => .error (.missingOperationId e.method.name e.path)
    | some id =>
      if id ∈ seen then .error (.duplicateOperationId id e.method.name e.path)
      else d.bind e [] := by
  unfold bind operationId Endpoint.id?
  cases givenText? e.operation.operationId.toOption with
  | none => rfl
  | some id =>
    by_cases hmem : id ∈ seen
    · simp only [if_pos hmem]
      rfl
    · simp only [if_neg hmem, List.not_mem_nil, if_false]

/-- a binding has the id of its operation, which was not seen before -/
theorem bind_eq_ok_iff {b : Binding} : d.bind e seen = .ok b ↔
    e.id? = some b.operationId ∧ b.operationId ∉ seen ∧ d.bind e [] = .ok b := by
  have hid : d.bind e [] = .ok b → e.id? = some b.operationId := by
    intro h
    obtain ⟨_, hbuilt⟩ := bind_eq_ok_iff_parts.mp h
    exact (operationId_eq_ok_iff.mp hbuilt.id).1
  rw [bind_eq d e seen]
  constructor
  · intro h
    cases hgiven : e.id? with
    | none =>
      rw [hgiven] at h
      cases h
    | some id =>
      rw [hgiven] at h
      by_cases hmem : id ∈ seen
      · simp only [if_pos hmem] at h
        cases h
      · simp only [if_neg hmem] at h
        have heq := hid h
        rw [hgiven] at heq
        cases heq
        exact ⟨rfl, hmem, h⟩
  · rintro ⟨hgiven, hmem, h⟩
    rw [hgiven]
    simp only [if_neg hmem]
    exact h

/-- only which ids were seen matters, not their order -/
theorem bind_congr {s t : List String} (h : ∀ id, id ∈ s ↔ id ∈ t) : d.bind e s = d.bind e t := by
  rw [bind_eq d e s, bind_eq d e t]
  cases e.id? with
  | none => rfl
  | some id => simp only [h id]

/-! ## all operations -/

theorem bindingsFrom_cons_eq_ok {rest : List Endpoint} {bs : List Binding} :
    d.bindingsFrom seen (e :: rest) = .ok bs ↔ ∃ b more, d.bind e seen = .ok b ∧
      d.bindingsFrom (b.operationId :: seen) rest = .ok more ∧ bs = b :: more := by
  rw [bindingsFrom]
  constructor
  · intro h
    obtain ⟨b, hb, h⟩ := bind_eq_ok.mp h
    obtain ⟨more, hmore, h⟩ := bind_eq_ok.mp h
    cases h
    exact ⟨b, more, hb, hmore, rfl⟩
  · rintro ⟨b, more, hb, hmore, rfl⟩
    rw [hb]
    show (d.bindingsFrom (b.operationId :: seen) rest >>= fun others => _) = _
    rw [hmore]
    rfl

theorem bindingsFrom_eq_ok_iff {es : List Endpoint} {bs : List Binding} :
    d.bindingsFrom seen es = .ok bs ↔ List.Forall₂ (fun e b => d.bind e [] = .ok b) es bs ∧
      (bs.map Binding.operationId).Nodup ∧ ∀ b ∈ bs, b.operationId ∉ seen := by
  induction es generalizing seen bs with
  | nil =>
    rw [bindingsFrom]
    constructor
    · intro h
      cases h
      exact ⟨.nil, List.nodup_nil, fun _ h => absurd h List.not_mem_nil⟩
    · rintro ⟨h, _⟩
      cases h
      rfl
  | cons e rest ih =>
    rw [bindingsFrom_cons_eq_ok]
    constructor
    · rintro ⟨b, more, hb, hmore, rfl⟩
      obtain ⟨_, hnew, halone⟩ := bind_eq_ok_iff.mp hb
      obtain ⟨hrest, hnodup, hunseen⟩ := ih.mp hmore
      refine ⟨.cons halone hrest, ?_, ?_⟩
      · rw [List.map_cons, List.nodup_cons]
        refine ⟨?_, hnodup⟩
        intro hmem
        obtain ⟨b', hb', heq⟩ := List.mem_map.mp hmem
        exact hunseen b' hb' (by rw [heq]; exact List.mem_cons_self)
      · intro b' hb'
        rcases List.mem_cons.mp hb' with rfl | hb'
        · exact hnew
        · exact fun hmem => hunseen b' hb' (List.mem_cons_of_mem _ hmem)
    · rintro ⟨hall, hnodup, hunseen⟩
      cases hall with
      | @cons _ b _ more halone hrest =>
        rw [List.map_cons, List.nodup_cons] at hnodup
        refine ⟨b, more, ?_, ih.mpr ⟨hrest, hnodup.2, ?_⟩, rfl⟩
        · have hid := (bind_eq_ok_iff.mp halone).1
          exact bind_eq_ok_iff.mpr ⟨hid, hunseen b List.mem_cons_self, halone⟩
        · intro b' hb' hmem
          rcases List.mem_cons.mp hmem with heq | hmem
          · exact hnodup.1 (List.mem_map.mpr ⟨b', hb', heq⟩)
          · exact hunseen b' (List.mem_cons_of_mem _ hb') hmem

/-- each of the operations can be bound given the ids of those before it -/
def BindsInOrder (d : Description) (seen : List String) (es : List Endpoint) : Prop :=
  ∀ earlier e later, es = earlier ++ e :: later → ∃ b, d.bind e (seen ++ ids earlier) = .ok b

theorem bindsInOrder_cons {rest : List Endpoint} {b : Binding} (hb : d.bind e seen = .ok b)
    (h : d.BindsInOrder (seen ++ ids [e]) rest) : d.BindsInOrder seen (e :: rest) := by
  intro earlier x later heq
  cases earlier with
  | nil =>
    cases heq
    rw [ids, List.filterMap_nil, List.append_nil]
    exact ⟨b, hb⟩
  | cons e' earlier =>
    rw [List.cons_append, List.cons.injEq] at heq
    obtain ⟨rfl, rfl⟩ := heq
    have hx := h earlier x later rfl
    rw [List.append_assoc, ← ids_append] at hx
    exact hx

/-- **A failure is that of the first operation that cannot be bound given the ids before it.** -/
theorem bindingsFrom_eq_error {es : List Endpoint} {seen' : List String} {f : Failure}
    (hseen : ∀ id, id ∈ seen ↔ id ∈ seen') (h : d.bindingsFrom seen es = .error f) :
    ∃ before e after, es = before ++ e :: after ∧ d.BindsInOrder seen' before ∧
      d.bind e (seen' ++ ids before) = .error f := by
  induction es generalizing seen seen' with
  | nil => cases h
  | cons e rest ih =>
    rw [bindingsFrom] at h
    rcases bind_eq_error.mp h with h | ⟨b, hb, h⟩
    · refine ⟨[], e, rest, rfl, ?_, ?_⟩
      · intro earlier _ _ heq
        cases earlier <;> cases heq
      · rw [ids, List.filterMap_nil, List.append_nil, ← bind_congr hseen]
        exact h
    · have hid := (bind_eq_ok_iff.mp hb).1
      have hids : ids [e] = [b.operationId] := by
        rw [ids, List.filterMap_cons_some hid, List.filterMap_nil]
      have hmore : d.bindingsFrom (b.operationId :: seen) rest = .error f := by
        rcases bind_eq_error.mp h with h | ⟨_, _, h⟩
        · exact h
        · cases h
      have hseen' : ∀ id, id ∈ b.operationId :: seen ↔ id ∈ seen' ++ ids [e] := by
        intro id
        rw [hids, List.mem_cons, List.mem_append, List.mem_singleton, hseen id, or_comm]
      obtain ⟨before, x, after, rfl, hbefore, hx⟩ := ih hseen' hmore
      refine ⟨e :: before, x, after, rfl, ?_, ?_⟩
      · rw [bind_congr hseen] at hb
        exact bindsInOrder_cons hb hbefore
      · rw [List.append_assoc, ← ids_append] at hx
        exact hx

end Description

end ApiBindings
