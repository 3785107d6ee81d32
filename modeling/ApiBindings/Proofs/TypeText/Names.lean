import ApiBindings.Proofs.TypeText.Rendering

/-!
# The names in a type

Which declarations a type needs.  Neither brackets nor the flattening of compounds add a name or
lose one, so every reading of a text has the names of the type that the text was rendered from.

* `names_normal`     a type has the names of its normal form;
* `Renders.names`    the one reading of a text has the names of the type that it renders.
-/

namespace ApiBindings

open TypeScript

namespace TypeScript.TypeExpr

mutual

/-- the names in a type, from left to right -/
def names : TypeExpr → List String
  | .named name => [name]
  | .array item => names item
  | .compound _ members => memberNames members
  | .record fields => fieldNames fields
  | .index value => names value
  | .keyword _ => []
  | .literal _ => []
termination_by structural e => e

def memberNames : List TypeExpr → List String
  | [] => []
  | e :: rest => names e ++ memberNames rest
termination_by structural members => members

def fieldNames : List (Key × Bool × TypeExpr) → List String
  | [] => []
  | (_, _, e) :: rest => names e ++ fieldNames rest
termination_by structural fields => fields

end

theorem memberNames_append (s t : List TypeExpr) :
    memberNames (s ++ t) = memberNames s ++ memberNames t := by
  induction s with
  | nil => rfl
  | cons e s ih =>
    show names e ++ memberNames (s ++ t) = names e ++ memberNames s ++ memberNames t
    rw [ih, List.append_assoc]

theorem mem_memberNames {es : List TypeExpr} {name : String} :
    name ∈ memberNames es ↔ ∃ e ∈ es, name ∈ e.names := by
  induction es with
  | nil => simp [memberNames]
  | cons e es ih => simp [memberNames, ih]

/-! ## normal forms -/

theorem memberNames_partsOf (operator : Operator) (e : TypeExpr) :
    memberNames (partsOf operator e) = e.names := by
  by_cases hc : ∃ members, e = .compound operator members
  · obtain ⟨members, rfl⟩ := hc
    rw [partsOf_compound]
    rfl
  · rw [partsOf_of_ne fun inner he => hc ⟨inner, he⟩]
    exact List.append_nil _

theorem names_compoundOf (operator : Operator) (es : List TypeExpr) :
    (compoundOf operator es).names = memberNames es := by
  unfold compoundOf
  split
  · exact (List.append_nil _).symm
  · rfl

mutual

theorem names_normal : ∀ e : TypeExpr, e.normal.names = e.names
  | .keyword _ => rfl
  | .named _ => rfl
  | .literal _ => rfl
  | .array item => names_normal item
  | .compound operator members => by
    rw [normal_compound, names_compoundOf]
    exact memberNames_parts operator members
  | .record fields => fieldNames_normal fields
  | .index value => names_normal value
termination_by structural e => e

theorem memberNames_parts (operator : Operator) : ∀ members : List TypeExpr,
    memberNames (parts operator members) = memberNames members
  | [] => rfl
  | e :: rest => by
    rw [parts_cons, memberNames_append, memberNames_partsOf, names_normal e,
      memberNames_parts operator rest]
    rfl
termination_by structural members => members

theorem fieldNames_normal : ∀ fields : List (Key × Bool × TypeExpr),
    fieldNames (normalFields fields) = fieldNames fields
  | [] => rfl
  | (key, optional, e) :: rest => by
    show e.normal.names ++ fieldNames (normalFields rest) = e.names ++ fieldNames rest
    rw [names_normal e, fieldNames_normal rest]
termination_by structural fields => fields

end

end TypeScript.TypeExpr

/-! ## readings -/

/-- The one reading of a text has the names of the type that the text renders. -/
theorem Renders.names {text : String} {d : TypeExpr} (h : Renders text d) :
    ∃ e, Reads text e ∧ (∀ e', Reads text e' → e' = e) ∧ e.names = d.names := by
  obtain ⟨summands, hwritten, hnormal⟩ := h.written
  refine ⟨ofSummands summands, hwritten.reads, fun e' he' => reads_unique he' hwritten.reads, ?_⟩
  rw [← TypeExpr.names_normal, hnormal, TypeExpr.names_normal]

end ApiBindings
