import ApiBindings.TypeScript.Expression
import ApiBindings.TypeScript.Name
import Mathlib.Data.List.Forall2

/-!
# Types as trees

The types that type expressions stand for.  A union or an intersection has any number of members;
`normal` flattens nested ones and drops those of one member, and two types are compared by their
normal forms.

* `settled_normal`       in a normal form no compound stands directly in one of its own kind, and
                         none has one member;
* `normal_singleton`     a compound of one member is that member;
* `normal_flatten`       a compound of compounds of its own kind has the members of all of them;
* `length_le_parts`      a type that is no empty compound contributes a part at least.
-/

namespace ApiBindings.TypeScript

/-- the words that are types of their own -/
inductive Keyword where
  | any
  | boolean
  | null
  | number
  | string
  | unknown
  | void
deriving DecidableEq, Repr

namespace Keyword

def all : List Keyword := [any, boolean, null, number, string, unknown, void]

def text : Keyword → String
  | any => "any"
  | boolean => "boolean"
  | null => "null"
  | number => "number"
  | string => "string"
  | unknown => "unknown"
  | void => "void"

def ofText? (word : String) : Option Keyword := all.find? fun k => k.text == word

theorem ofText?_text (k : Keyword) : ofText? k.text = some k := by
  cases k <;> decide

end Keyword

/-- the key of a record: a bare word or a string literal -/
inductive Key where
  | bare (word : String)
  | quoted (value : String)
deriving DecidableEq, Repr

namespace Key

/-- The key that a name is written as.  A bare name may end with a line feed, which is a blank
behind the word. -/
def ofName (name : String) : Key :=
  if isIdentifier name then bare (String.ofList (dropFinalLineFeed name.toList)) else quoted name

def name : Key → String
  | bare word => word
  | quoted value => value

/-- a key stands for the name that it is written for, unless a line feed ends it -/
theorem name_ofName {s : String} (h : s.toList.getLast? ≠ some '\n') : (ofName s).name = s := by
  unfold ofName
  split
  · show String.ofList (dropFinalLineFeed s.toList) = s
    rw [dropFinalLineFeed, if_neg h, String.ofList_toList]
  · rfl

end Key

/-- A type.  The flag of a field says whether it may be left out. -/
inductive TypeExpr where
  | keyword (k : Keyword)
  | named (name : String)
  | literal (value : String)
  | array (item : TypeExpr)
  | compound (operator : Operator) (members : List TypeExpr)
  | record (fields : List (Key × Bool × TypeExpr))
  | index (value : TypeExpr)

namespace TypeExpr

/-- the type that a word is: a keyword or the name of a declaration -/
def ofWord (word : String) : TypeExpr :=
  match Keyword.ofText? word with
  | some k => .keyword k
  | none => .named word

/-! ## normal forms -/

/-- what a type in normal form contributes to a compound -/
def partsOf (operator : Operator) : TypeExpr → List TypeExpr
  | .compound other members =>
    if other = operator then members else [.compound other members]
  | e => [e]

/-- the compound of these parts, the part itself if there is just one -/
def compoundOf (operator : Operator) : List TypeExpr → TypeExpr
  | [e] => e
  | parts => .compound operator parts

mutual

/-- the type with nested unions and intersections flattened and those of one member dropped -/
def normal : TypeExpr → TypeExpr
  | .keyword k => .keyword k
  | .named name => .named name
  | .literal value => .literal value
  | .array item => .array (normal item)
  | .compound operator members => compoundOf operator (parts operator members)
  | .record fields => .record (normalFields fields)
  | .index value => .index (normal value)
termination_by structural e => e

/-- the parts of a compound with these members -/
def parts (operator : Operator) : List TypeExpr → List TypeExpr
  | [] => []
  | e :: rest => partsOf operator (normal e) ++ parts operator rest
termination_by structural members => members

def normalFields : List (Key × Bool × TypeExpr) → List (Key × Bool × TypeExpr)
  | [] => []
  | (key, optional, e) :: rest => (key, optional, normal e) :: normalFields rest
termination_by structural fields => fields

end

theorem normal_compound (operator : Operator) (members : List TypeExpr) :
    normal (.compound operator members) = compoundOf operator (parts operator members) := rfl

theorem parts_nil (operator : Operator) : parts operator [] = [] := rfl

theorem parts_cons (operator : Operator) (e : TypeExpr) (rest : List TypeExpr) :
    parts operator (e :: rest) = partsOf operator (normal e) ++ parts operator rest := rfl

theorem parts_append (operator : Operator) (s t : List TypeExpr) :
    parts operator (s ++ t) = parts operator s ++ parts operator t := by
  induction s with
  | nil => rfl
  | cons e s ih => rw [List.cons_append, parts_cons, ih, parts_cons, List.append_assoc]

/-- records are compared by keys, flags, and the normal forms of the types -/
theorem normalFields_eq {fields fields' : List (Key × Bool × TypeExpr)}
    (h : List.Forall₂ (fun f g => f.1 = g.1 ∧ f.2.1 = g.2.1 ∧ normal f.2.2 = normal g.2.2)
      fields fields') : normalFields fields = normalFields fields' := by
  induction h with
  | nil => rfl
  | @cons f g fields fields' hfg _ ih =>
    obtain ⟨hkey, hoptional, hnormal⟩ := hfg
    show (f.1, f.2.1, normal f.2.2) :: normalFields fields =
      (g.1, g.2.1, normal g.2.2) :: normalFields fields'
    rw [hkey, hoptional, hnormal, ih]

/-! ## what normal forms look like -/

/-- a compound has not one member, and no member is a compound of its own kind -/
def Settled (e : TypeExpr) : Prop :=
  ∀ operator members, e = .compound operator members →
    members.length ≠ 1 ∧ ∀ x ∈ members, ∀ inner, x ≠ .compound operator inner

theorem partsOf_of_ne {operator : Operator} {e : TypeExpr}
    (h : ∀ inner, e ≠ .compound operator inner) : partsOf operator e = [e] := by
  cases e with
  | compound other members =>
    by_cases ho : other = operator
    · exact absurd (by rw [ho]) (h members)
    · rw [partsOf, if_neg ho]
  | _ => rfl

theorem partsOf_compound (operator : Operator) (members : List TypeExpr) :
    partsOf operator (.compound operator members) = members := by
  rw [partsOf, if_pos rfl]

/-- a type is not lost when it is taken apart and put together -/
theorem Settled.compoundOf_partsOf {e : TypeExpr} (h : e.Settled) (operator : Operator) :
    compoundOf operator (partsOf operator e) = e := by
  by_cases hc : ∃ members, e = .compound operator members
  · obtain ⟨members, rfl⟩ := hc
    obtain ⟨hlen, _⟩ := h operator members rfl
    rw [partsOf_compound]
    match members, hlen with
    | [], _ => rfl
    | [x], hlen => exact absurd rfl hlen
    | _ :: _ :: _, _ => rfl
  · rw [partsOf_of_ne fun inner he => hc ⟨inner, he⟩]
    rfl

theorem Settled.ne_of_mem_partsOf {e x : TypeExpr} {operator : Operator} (h : e.Settled)
    (hx : x ∈ partsOf operator e) : ∀ inner, x ≠ .compound operator inner := by
  by_cases hc : ∃ members, e = .compound operator members
  · obtain ⟨members, rfl⟩ := hc
    rw [partsOf_compound] at hx
    exact (h operator members rfl).2 x hx
  · rw [partsOf_of_ne fun inner he => hc ⟨inner, he⟩, List.mem_singleton] at hx
    intro inner hi
    exact hc ⟨inner, by rw [← hx, hi]⟩

theorem mem_parts {operator : Operator} {x : TypeExpr} {members : List TypeExpr}
    (h : x ∈ parts operator members) : ∃ e ∈ members, x ∈ partsOf operator (normal e) := by
  induction members with
  | nil => cases h
  | cons e rest ih =>
    rw [parts_cons, List.mem_append] at h
    rcases h with h | h
    · exact ⟨e, List.mem_cons_self, h⟩
    · obtain ⟨e', he', hx⟩ := ih h
      exact ⟨e', List.mem_cons_of_mem _ he', hx⟩

/-- the only part is the normal form of a member -/
theorem normal_of_parts_eq_singleton {operator : Operator} {x : TypeExpr}
    {members : List TypeExpr} (hm : ∀ e ∈ members, (normal e).Settled)
    (h : parts operator members = [x]) : ∃ e ∈ members, normal e = x := by
  induction members with
  | nil => cases h
  | cons e rest ih =>
    rw [parts_cons, List.append_eq_singleton_iff] at h
    rcases h with ⟨_, h⟩ | ⟨h, _⟩
    · obtain ⟨e', he', hx⟩ := ih (fun e' he' => hm e' (List.mem_cons_of_mem _ he')) h
      exact ⟨e', List.mem_cons_of_mem _ he', hx⟩
    · refine ⟨e, List.mem_cons_self, ?_⟩
      have hs := (hm e List.mem_cons_self).compoundOf_partsOf operator
      rw [h] at hs
      exact hs.symm

theorem settled_compoundOf {operator : Operator} {members : List TypeExpr}
    (hm : ∀ e ∈ members, (normal e).Settled) :
    (compoundOf operator (parts operator members)).Settled := by
  have hne : ∀ x ∈ parts operator members, ∀ inner, x ≠ .compound operator inner := by
    intro x hx
    obtain ⟨e, he, hxe⟩ := mem_parts hx
    exact (hm e he).ne_of_mem_partsOf hxe
  by_cases h1 : (parts operator members).length = 1
  · obtain ⟨x, hx⟩ := List.length_eq_one_iff.mp h1
    obtain ⟨e, he, hex⟩ := normal_of_parts_eq_singleton hm hx
    rw [hx]
    show x.Settled
    rw [← hex]
    exact hm e he
  · have hc : compoundOf operator (parts operator members) =
        .compound operator (parts operator members) := by
      unfold compoundOf
      split
      · rename_i hx
        rw [hx] at h1
        exact absurd rfl h1
      · rfl
    rw [hc]
    intro other inner heq
    cases heq
    exact ⟨h1, hne⟩

mutual

theorem settled_normal : ∀ e : TypeExpr, (normal e).Settled
  | .keyword _ => by intro _ _ h; cases h
  | .named _ => by intro _ _ h; cases h
  | .literal _ => by intro _ _ h; cases h
  | .array _ => by intro _ _ h; cases h
  | .compound _ members => settled_compoundOf (settled_members members)
  | .record _ => by intro _ _ h; cases h
  | .index _ => by intro _ _ h; cases h

theorem settled_members : ∀ (members : List TypeExpr), ∀ e ∈ members, (normal e).Settled
  | [], _, h => by cases h
  | e :: rest, x, h => by
    rcases List.mem_cons.mp h with h | h
    · rw [h]
      exact settled_normal e
    · exact settled_members rest x h

end

/-! ## compounds by their parts -/

theorem normal_singleton (operator : Operator) (e : TypeExpr) :
    normal (.compound operator [e]) = normal e := by
  rw [normal_compound, parts_cons, parts_nil, List.append_nil]
  exact (settled_normal e).compoundOf_partsOf operator

theorem partsOf_normal_compound (operator : Operator) (members : List TypeExpr) :
    partsOf operator (normal (.compound operator members)) = parts operator members := by
  rw [normal_compound]
  unfold compoundOf
  split
  · rename_i x hx
    have hmem : x ∈ parts operator members := by
      rw [hx]
      exact List.mem_cons_self
    obtain ⟨e, he, hxe⟩ := mem_parts hmem
    rw [hx]
    exact partsOf_of_ne ((settled_normal e).ne_of_mem_partsOf hxe)
  · exact partsOf_compound operator _

/-- a compound of compounds of the same kind has the members of all of them -/
theorem normal_flatten {operator : Operator} {groups : List (List TypeExpr)} {es : List TypeExpr}
    (h : List.Forall₂ (fun group e => normal (.compound operator group) = normal e) groups es) :
    normal (.compound operator groups.flatten) = normal (.compound operator es) := by
  have hparts : parts operator groups.flatten = parts operator es := by
    induction h with
    | nil => rfl
    | @cons group e groups es hge _ ih =>
      rw [List.flatten_cons, parts_append, ih, parts_cons, ← hge, partsOf_normal_compound]
  rw [normal_compound, hparts, normal_compound]

def Proper (e : TypeExpr) : Prop := ∀ operator, e ≠ .compound operator []

theorem Proper.partsOf_ne_nil {e : TypeExpr} (h : e.Proper) (operator : Operator) :
    partsOf operator e ≠ [] := by
  by_cases hc : ∃ members, e = .compound operator members
  · obtain ⟨members, rfl⟩ := hc
    rw [partsOf_compound]
    rintro rfl
    exact h operator rfl
  · rw [partsOf_of_ne fun inner he => hc ⟨inner, he⟩]
    exact List.cons_ne_nil _ _

theorem length_le_parts {operator : Operator} {members : List TypeExpr}
    (h : ∀ e ∈ members, (normal e).Proper) : members.length ≤ (parts operator members).length := by
  induction members with
  | nil => exact Nat.le_refl 0
  | cons e rest ih =>
    have ih := ih fun e' he' => h e' (List.mem_cons_of_mem _ he')
    have hpos := List.length_pos_iff.mpr ((h e List.mem_cons_self).partsOf_ne_nil operator)
    rw [parts_cons, List.length_append, List.length_cons]
    omega

/-- with two members or more the normal form is a compound, and has as many at least -/
theorem normal_compound_of_two_le {operator : Operator} {members : List TypeExpr}
    (h : ∀ e ∈ members, (normal e).Proper) (htwo : 2 ≤ members.length) :
    normal (.compound operator members) = .compound operator (parts operator members) ∧
      2 ≤ (parts operator members).length := by
  have hlen : members.length ≤ (parts operator members).length := length_le_parts h
  refine ⟨?_, by omega⟩
  rw [normal_compound]
  unfold compoundOf
  split
  · rename_i hx
    rw [hx, List.length_singleton] at hlen
    omega
  · rfl

theorem proper_normal_compound {operator : Operator} {members : List TypeExpr}
    (h : ∀ e ∈ members, (normal e).Proper) (hne : members ≠ []) :
    (normal (.compound operator members)).Proper := by
  match members, hne with
  | [e], _ =>
    rw [normal_singleton]
    exact h e List.mem_cons_self
  | e :: e' :: rest, _ =>
    have htwo : 2 ≤ (e :: e' :: rest).length := by simp
    obtain ⟨heq, hlen⟩ := normal_compound_of_two_le h htwo
    rw [heq]
    intro other hother
    injection hother with _ hnil
    rw [hnil] at hlen
    exact absurd hlen (by decide)

/-- a compound is no keyword, unless its only member is -/
theorem singleton_of_normal_keyword {operator : Operator} {members : List TypeExpr} {k : Keyword}
    (h : ∀ e ∈ members, (normal e).Proper)
    (hk : normal (.compound operator members) = .keyword k) :
    ∃ e, members = [e] ∧ normal e = .keyword k := by
  match members with
  | [] => cases hk
  | [e] =>
    rw [normal_singleton] at hk
    exact ⟨e, rfl, hk⟩
  | e :: e' :: rest =>
    have htwo : 2 ≤ (e :: e' :: rest).length := by simp
    rw [(normal_compound_of_two_le h htwo).1] at hk
    cases hk

end TypeExpr

end ApiBindings.TypeScript
