import ApiBindings.Proofs.TypeText.Token
import ApiBindings.Proofs.TypeText.Tree

/-!
# The grammar of type expressions

How tokens are read as a type.  Brackets for arrays bind tighter than `&`, and `&` tighter than `|`;
parentheses group.  The layers of the grammar, from the tightest on:

* `Primary`        words, literals, parentheses, records and index signatures;
* `Arrayed`        a primary type with any number of `[]` behind it;
* `Intersected`    arrayed types with `&` between them;
* `United`         intersections with `|` between them: a whole type;
* `Field`          a key, perhaps a question mark, a colon, and a whole type.

A union and an intersection are kept as such also if they have one member.

* `reads_unique`   a text has one reading at most.
-/

namespace ApiBindings.TypeScript

/-! ## phrases -/

/-- one phrase, or several with a token between neighbours -/
inductive Separated {α : Type} (P : List Token → α → Prop) (separator : Token) :
    List Token → List α → Prop
  | single {ts : List Token} {x : α} (h : P ts x) : Separated P separator ts [x]
  | cons {ts us : List Token} {x : α} {xs : List α} (h : P ts x)
      (hs : Separated P separator us xs) :
      Separated P separator (ts ++ separator :: us) (x :: xs)

theorem Separated.ne_nil {α : Type} {P : List Token → α → Prop} {separator : Token}
    {ts : List Token} {xs : List α} (h : Separated P separator ts xs) : xs ≠ [] := by
  cases h <;> exact List.cons_ne_nil _ _

theorem Separated.append {α : Type} {P : List Token → α → Prop} {separator : Token}
    {ts us : List Token} {xs ys : List α} (h : Separated P separator ts xs)
    (h' : Separated P separator us ys) :
    Separated P separator (ts ++ separator :: us) (xs ++ ys) := by
  induction h with
  | single h => exact .cons h h'
  | cons h _ ih =>
    rw [List.append_assoc, List.cons_append]
    exact .cons h ih

def Key.token : Key → Token
  | bare word => .word word
  | quoted value => .literal value

def fieldHead (key : Key) (optional : Bool) : List Token :=
  key.token :: (if optional then [.question, .colon] else [.colon])

/-- what stands before the type of an index signature -/
def indexHead (parameter : String) : List Token :=
  [.openBrace, .openBracket, .word parameter, .colon, .word "string", .closeBracket, .colon]

/-- brackets for `n` arrays -/
def brackets : Nat → List Token
  | 0 => []
  | n + 1 => .openBracket :: .closeBracket :: brackets n

/-- the array of arrays, `n` deep -/
def arrays : Nat → TypeExpr → TypeExpr
  | 0, e => e
  | n + 1, e => arrays n (.array e)

mutual

/-- a type that needs no parentheses -/
inductive Primary : List Token → TypeExpr → Prop
  | word (text : String) : Primary [.word text] (.ofWord text)
  | literal (value : String) : Primary [.literal value] (.literal value)
  | group {ts : List Token} {e : TypeExpr} (h : United ts e) :
      Primary (.openParen :: (ts ++ [.closeParen])) e
  | empty : Primary [.openBrace, .closeBrace] (.record [])
  | record {ts : List Token} {fields : List (Key × Bool × TypeExpr)}
      (h : Separated Field .semicolon ts fields) :
      Primary (.openBrace :: (ts ++ [.closeBrace])) (.record fields)
  | index {ts : List Token} {e : TypeExpr} (parameter : String) (h : United ts e) :
      Primary (indexHead parameter ++ (ts ++ [.closeBrace])) (.index e)

/-- a type with brackets for arrays behind it -/
inductive Arrayed : List Token → TypeExpr → Prop
  | mk {ts : List Token} {e : TypeExpr} (n : Nat) (h : Primary ts e) :
      Arrayed (ts ++ brackets n) (arrays n e)

/-- an intersection -/
inductive Intersected : List Token → TypeExpr → Prop
  | mk {ts : List Token} {es : List TypeExpr} (h : Separated Arrayed .ampersand ts es) :
      Intersected ts (.compound .intersection es)

/-- a union -/
inductive United : List Token → TypeExpr → Prop
  | mk {ts : List Token} {es : List TypeExpr} (h : Separated Intersected .bar ts es) :
      United ts (.compound .union es)

/-- a field of a record -/
inductive Field : List Token → Key × Bool × TypeExpr → Prop
  | mk {ts : List Token} {e : TypeExpr} (key : Key) (optional : Bool) (h : United ts e) :
      Field (fieldHead key optional ++ ts) (key, optional, e)

end

theorem arrays_succ (n : Nat) (e : TypeExpr) : arrays (n + 1) e = .array (arrays n e) := by
  induction n generalizing e with
  | zero => rfl
  | succ n ih => exact ih (.array e)

theorem brackets_succ (n : Nat) :
    brackets (n + 1) = brackets n ++ [.openBracket, .closeBracket] := by
  induction n with
  | zero => rfl
  | succ n ih =>
    show _ :: _ :: brackets (n + 1) = _ :: _ :: (brackets n ++ _)
    rw [ih]

theorem Primary.arrayed {ts : List Token} {e : TypeExpr} (h : Primary ts e) : Arrayed ts e := by
  have hzero := Arrayed.mk 0 h
  rw [brackets, List.append_nil] at hzero
  exact hzero

theorem Arrayed.array {ts : List Token} {e : TypeExpr} (h : Arrayed ts e) :
    Arrayed (ts ++ [.openBracket, .closeBracket]) (.array e) := by
  obtain ⟨n, h⟩ := h
  rw [List.append_assoc, ← brackets_succ, ← arrays_succ]
  exact .mk (n + 1) h

def Reads (text : String) (e : TypeExpr) : Prop :=
  ∃ ts, tokens text.toList = some ts ∧ United ts e

/-! ## phrases have tokens -/

theorem Separated.tokens_ne_nil {α : Type} {P : List Token → α → Prop} {separator : Token}
    {ts : List Token} {xs : List α} (hP : ∀ ts x, P ts x → ts ≠ [])
    (h : Separated P separator ts xs) : ts ≠ [] := by
  cases h with
  | single h => exact hP _ _ h
  | cons _ _ => exact List.append_ne_nil_of_right_ne_nil _ (List.cons_ne_nil _ _)

theorem Arrayed.ne_nil {ts : List Token} {e : TypeExpr} (h : Arrayed ts e) : ts ≠ [] := by
  obtain ⟨n, h⟩ := h
  refine List.append_ne_nil_of_left_ne_nil ?_ _
  cases h <;> exact List.cons_ne_nil _ _

theorem United.ne_nil {ts : List Token} {e : TypeExpr} (h : United ts e) : ts ≠ [] := by
  obtain ⟨hs⟩ := h
  refine hs.tokens_ne_nil fun ts e h => ?_
  obtain ⟨hs⟩ := h
  exact hs.tokens_ne_nil fun _ _ => Arrayed.ne_nil

/-- the empty text is not read as a type -/
theorem Reads.ne_empty {text : String} {e : TypeExpr} (h : Reads text e) : text ≠ "" := by
  obtain ⟨ts, hts, hunited⟩ := h
  rintro rfl
  rw [String.toList_empty, tokens_nil] at hts
  exact hunited.ne_nil (Option.some.inj hts).symm

/-! ## where a phrase ends -/

/-- how loosely a token binds to what stands before it; 0 if it does not go on with a phrase -/
def Token.level : Token → Nat
  | .openBracket => 1
  | .ampersand => 2
  | .bar => 3
  | .semicolon => 4
  | _ => 0

/-- nothing in front goes on with a phrase of level `n` -/
def Stops (n : Nat) (rest : List Token) : Prop := ∀ t ∈ rest.head?, t.level = 0 ∨ n < t.level

theorem stops_nil (n : Nat) : Stops n [] := by
  intro t ht
  cases ht

theorem stops_cons {n : Nat} {t : Token} (h : t.level = 0 ∨ n < t.level) (rest : List Token) :
    Stops n (t :: rest) := by
  intro u hu
  cases hu
  exact h

theorem stops_zero (rest : List Token) : Stops 0 rest := by
  intro t _
  omega

theorem Stops.mono {m n : Nat} {rest : List Token} (h : Stops n rest) (hmn : m ≤ n) :
    Stops m rest := by
  intro t ht
  have := h t ht
  omega

theorem Stops.not_cons {n : Nat} {t : Token} {rest : List Token} (h : Stops n (t :: rest))
    (h0 : t.level ≠ 0) (hn : t.level ≤ n) : False := by
  have := h t rfl
  omega

/-- phrases of at most `k` tokens can be told from what follows if that stops level `n` -/
def CutsOff {α : Type} (P : List Token → α → Prop) (n k : Nat) : Prop :=
  ∀ ts us x y r s, ts.length ≤ k → P ts x → P us y → Stops n r → Stops n s →
    ts ++ r = us ++ s → x = y ∧ r = s

/-! ## layers -/

theorem cutsOff_separated {α : Type} {P : List Token → α → Prop} {m n k : Nat}
    (hP : CutsOff P m k) {separator : Token} (hm : m < n) (hn : separator.level = n) :
    CutsOff (Separated P separator) n k := by
  have hmn : m ≤ n := Nat.le_of_lt hm
  have hstops : ∀ rest, Stops m (separator :: rest) := stops_cons (.inr (by omega))
  have hgoes : ∀ {rest}, ¬ Stops n (separator :: rest) := fun h => h.not_cons (by omega) (by omega)
  intro ts us xs ys r s hlen hts
  induction hts generalizing us ys r s with
  | @single ts x h =>
    intro hus hr hs heq
    cases hus with
    | single h' =>
      obtain ⟨hx, e⟩ := hP _ _ _ _ _ _ hlen h h' (hr.mono hmn) (hs.mono hmn) heq
      exact ⟨by rw [hx], e⟩
    | cons h' _ =>
      rw [List.append_assoc] at heq
      obtain ⟨_, e⟩ := hP _ _ _ _ _ _ hlen h h' (hr.mono hmn) (hstops _) heq
      rw [e] at hr
      exact absurd hr hgoes
  | @cons ts ts' x xs h _ ih =>
    intro hus hr hs heq
    rw [List.length_append, List.length_cons] at hlen
    rw [List.append_assoc] at heq
    cases hus with
    | single h' =>
      obtain ⟨_, e⟩ := hP _ _ _ _ _ _ (by omega) h h' (hstops _) (hs.mono hmn) heq
      rw [← e] at hs
      exact absurd hs hgoes
    | @cons us us' y ys h' hys =>
      rw [List.append_assoc] at heq
      obtain ⟨hx, e⟩ := hP _ _ _ _ _ _ (by omega) h h' (hstops _) (hstops _) heq
      injection e with _ e
      obtain ⟨hxs, e⟩ := ih us' ys r s (by omega) hys hr hs e
      exact ⟨by rw [hx, hxs], e⟩

theorem brackets_unique {m n : Nat} {r s : List Token} (hr : Stops 1 r) (hs : Stops 1 s)
    (heq : brackets m ++ r = brackets n ++ s) : m = n ∧ r = s := by
  induction m generalizing n with
  | zero =>
    cases n with
    | zero => exact ⟨rfl, heq⟩
    | succ n =>
      have e : r = .openBracket :: .closeBracket :: (brackets n ++ s) := heq
      rw [e] at hr
      exact (hr.not_cons (by decide) (by decide)).elim
  | succ m ih =>
    cases n with
    | zero =>
      have e : .openBracket :: .closeBracket :: (brackets m ++ r) = s := heq
      rw [← e] at hs
      exact (hs.not_cons (by decide) (by decide)).elim
    | succ n =>
      simp only [brackets, List.cons_append, List.cons.injEq, true_and] at heq
      obtain ⟨hmn, e⟩ := ih heq
      exact ⟨by rw [hmn], e⟩

section
variable {k : Nat} (hP : CutsOff Primary 0 k)
include hP

theorem cutsOff_arrayed : CutsOff Arrayed 1 k := by
  intro ts us x y r s hlen hts hus hr hs heq
  obtain ⟨m, h⟩ := hts
  obtain ⟨n, h'⟩ := hus
  rw [List.length_append] at hlen
  rw [List.append_assoc, List.append_assoc] at heq
  obtain ⟨he, e⟩ := hP _ _ _ _ _ _ (by omega) h h' (stops_zero _) (stops_zero _) heq
  obtain ⟨hmn, e⟩ := brackets_unique hr hs e
  exact ⟨by rw [he, hmn], e⟩

theorem cutsOff_intersected : CutsOff Intersected 2 k := by
  intro ts us x y r s hlen hts hus hr hs heq
  obtain ⟨h⟩ := hts
  obtain ⟨h'⟩ := hus
  have hcut : CutsOff (Separated Arrayed .ampersand) 2 k :=
    cutsOff_separated (cutsOff_arrayed hP) (by decide) rfl
  obtain ⟨hes, e⟩ := hcut _ _ _ _ _ _ hlen h h' hr hs heq
  exact ⟨by rw [hes], e⟩

theorem cutsOff_united : CutsOff United 3 k := by
  intro ts us x y r s hlen hts hus hr hs heq
  obtain ⟨h⟩ := hts
  obtain ⟨h'⟩ := hus
  have hcut : CutsOff (Separated Intersected .bar) 3 k :=
    cutsOff_separated (cutsOff_intersected hP) (by decide) rfl
  obtain ⟨hes, e⟩ := hcut _ _ _ _ _ _ hlen h h' hr hs heq
  exact ⟨by rw [hes], e⟩

omit hP in
theorem fieldHead_unique {key key' : Key} {optional optional' : Bool} {r s : List Token}
    (heq : fieldHead key optional ++ r = fieldHead key' optional' ++ s) :
    key = key' ∧ optional = optional' ∧ r = s := by
  rw [fieldHead, fieldHead, List.cons_append, List.cons_append, List.cons.injEq] at heq
  obtain ⟨htoken, hrest⟩ := heq
  have hkey : key = key' := by
    cases key <;> cases key' <;> cases htoken <;> rfl
  cases optional <;> cases optional' <;> simp_all

theorem cutsOff_field : CutsOff Field 3 k := by
  intro ts us x y r s hlen hts hus hr hs heq
  obtain ⟨key, optional, h⟩ := hts
  obtain ⟨key', optional', h'⟩ := hus
  rw [List.length_append] at hlen
  rw [List.append_assoc, List.append_assoc] at heq
  obtain ⟨hkey, hoptional, heq⟩ := fieldHead_unique heq
  obtain ⟨he, e⟩ := cutsOff_united hP _ _ _ _ _ _ (by omega) h h' hr hs heq
  exact ⟨by rw [hkey, hoptional, he], e⟩

theorem cutsOff_fields : CutsOff (Separated Field .semicolon) 4 k :=
  cutsOff_separated (cutsOff_field hP) (by decide) rfl

end

theorem Separated.exists_key {ts : List Token} {fields : List (Key × Bool × TypeExpr)}
    {separator : Token} (h : Separated Field separator ts fields) :
    ∃ (key : Key) (rest : List Token), ts = key.token :: rest := by
  cases h with
  | single h =>
    obtain ⟨key, optional, _⟩ := h
    exact ⟨key, _, rfl⟩
  | cons h _ =>
    obtain ⟨key, optional, _⟩ := h
    exact ⟨key, _, rfl⟩

/-! ## whole types -/

/-- a record with fields is neither an empty one nor an index signature -/
theorem not_brace_key {ts : List Token} {fields : List (Key × Bool × TypeExpr)}
    (h : Separated Field .semicolon ts fields) {t : Token} {r s : List Token}
    (ht : t = .closeBrace ∨ t = .openBracket)
    (heq : .openBrace :: (ts ++ r) = .openBrace :: t :: s) : False := by
  obtain ⟨key, rest, rfl⟩ := h.exists_key
  rw [List.cons_append, List.cons.injEq, List.cons.injEq] at heq
  have hkey := heq.2.1
  cases key <;> rcases ht with rfl | rfl <;> cases hkey

theorem stops_closing {n : Nat} {t : Token} (h : t.level = 0) (rest : List Token) :
    Stops n ([t] ++ rest) :=
  stops_cons (.inl h) rest

theorem cutsOff_primary (k : Nat) : CutsOff Primary 0 k := by
  induction k with
  | zero =>
    intro ts us x y r s hlen hts
    cases hts <;> simp [indexHead] at hlen
  | succ k ih =>
    intro ts us x y r s hlen hts hus _ _ heq
    cases hts with
    | word w =>
      cases hus <;> simp_all [indexHead]
    | literal v =>
      cases hus <;> simp_all [indexHead]
    | @group ts e h =>
      cases hus with
      | @group us e' h' =>
        simp only [List.length_cons, List.length_append] at hlen
        simp only [List.cons_append, List.append_assoc, List.cons.injEq, true_and] at heq
        obtain ⟨he, hr⟩ := cutsOff_united ih _ _ _ _ _ _ (by omega) h h'
          (stops_closing rfl r) (stops_closing rfl s) heq
        injection hr with _ hr
        exact ⟨he, hr⟩
      | _ => simp [indexHead] at heq
    | empty =>
      cases hus with
      | empty => simp_all
      | record h' =>
        simp only [List.cons_append, List.append_assoc] at heq
        exact (not_brace_key h' (.inl rfl) heq.symm).elim
      | _ => simp [indexHead] at heq
    | @record ts fields h =>
      cases hus with
      | empty =>
        simp only [List.cons_append, List.append_assoc] at heq
        exact (not_brace_key h (.inl rfl) heq).elim
      | @record us fields' h' =>
        simp only [List.length_cons, List.length_append] at hlen
        simp only [List.cons_append, List.append_assoc, List.cons.injEq, true_and] at heq
        obtain ⟨hfields, hr⟩ := cutsOff_fields ih _ _ _ _ _ _ (by omega) h h'
          (stops_closing rfl r) (stops_closing rfl s) heq
        injection hr with _ hr
        exact ⟨by rw [hfields], hr⟩
      | index parameter h' =>
        simp only [indexHead, List.cons_append, List.append_assoc] at heq
        exact (not_brace_key h (.inr rfl) heq).elim
      | _ => simp at heq
    | @index ts e parameter h =>
      cases hus with
      | record h' =>
        simp only [indexHead, List.cons_append, List.append_assoc] at heq
        exact (not_brace_key h' (.inr rfl) heq.symm).elim
      | @index us e' parameter' h' =>
        simp only [indexHead, List.length_cons, List.length_append] at hlen
        simp only [indexHead, List.cons_append, List.append_assoc, List.nil_append,
          List.cons.injEq, true_and] at heq
        obtain ⟨he, hr⟩ := cutsOff_united ih _ _ _ _ _ _ (by omega) h h'
          (stops_closing rfl r) (stops_closing rfl s) heq.2
        injection hr with _ hr
        exact ⟨by rw [he], hr⟩
      | _ => simp [indexHead] at heq

/-- **A text has one reading at most.** -/
theorem reads_unique {text : String} {e e' : TypeExpr} (h : Reads text e) (h' : Reads text e') :
    e = e' := by
  obtain ⟨ts, hts, hte⟩ := h
  obtain ⟨us, hus, hue⟩ := h'
  rw [hts] at hus
  cases hus
  have hcut : CutsOff United 3 ts.length := cutsOff_united (cutsOff_primary _)
  exact (hcut _ _ _ _ [] [] (Nat.le_refl _) hte hue (stops_nil 3) (stops_nil 3) rfl).1

end ApiBindings.TypeScript
