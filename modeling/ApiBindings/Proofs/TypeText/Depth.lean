import ApiBindings.Proofs.TypeText.Written

/-!
# The depth of a scan

The scan for operators counts brackets and knows nothing of types.  On a text that is read as a type
it still goes through the text as the grammar does: it is never less deep than at the start, it ends
as it began, and it finds the operators of the type itself, none of those inside of its parts.

* `operatorsFrom_append`   the scan of two texts, one behind the other;
* `step_scan`              a character moves the scan as the tokens that it completes;
* `tokensFrom_scan`        so does a text, and the start of a text as some of the first tokens;
* `Balanced`               tokens in which brackets are closed, with the operators outside of them;
* `balanced_united`        the tokens of a type are balanced;
* `mem_rootOperators`      the operators that a type has outside of its factors;
* `Reads.scan`             what the scan of a type is like.
-/

namespace ApiBindings.TypeScript

/-! ## scans of texts -/

def ScanState.after (s : ScanState) (text : List Char) : ScanState :=
  text.foldl (fun s c => (s.step c).1) s

/-- the scan of a text goes on behind it -/
theorem operatorsFrom_append (s : ScanState) (text rest : List Char) :
    operatorsFrom s (text ++ rest) = operatorsFrom s text ++ operatorsFrom (s.after text) rest := by
  induction text generalizing s with
  | nil => rfl
  | cons c text ih =>
    rw [List.cons_append, operatorsFrom_cons rfl, operatorsFrom_cons rfl, ih, List.append_assoc]
    rfl

/-! ## scans of tokens -/

namespace Token

/-- how much deeper a token leads -/
def weight : Token → Int
  | .openParen | .openBracket | .openBrace => 1
  | .closeParen | .closeBracket | .closeBrace => -1
  | _ => 0

def operator? : Token → Option Operator
  | .bar => some .union
  | .ampersand => some .intersection
  | _ => none

end Token

/-- how much deeper tokens lead -/
def weight : List Token → Int
  | [] => 0
  | t :: ts => t.weight + weight ts

theorem weight_append (ts us : List Token) : weight (ts ++ us) = weight ts + weight us := by
  induction ts with
  | nil => exact (Int.zero_add _).symm
  | cons t ts ih => rw [List.cons_append, weight, weight, ih, Int.add_assoc]

/-- the operators among tokens that are at the top level, if the first token is at some depth -/
def operatorsAt (depth : Int) : List Token → List Operator
  | [] => []
  | t :: ts =>
    (if depth = 0 then t.operator?.toList else []) ++ operatorsAt (depth + t.weight) ts

theorem operatorsAt_append (depth : Int) (ts us : List Token) :
    operatorsAt depth (ts ++ us) = operatorsAt depth ts ++ operatorsAt (depth + weight ts) us := by
  induction ts generalizing depth with
  | nil =>
    show operatorsAt depth us = operatorsAt (depth + 0) us
    rw [Int.add_zero]
  | cons t ts ih =>
    rw [List.cons_append, operatorsAt, operatorsAt, ih, weight, Int.add_assoc, List.append_assoc]

/-- a token that is no bracket and no operator changes nothing -/
theorem operatorsAt_plain {t : Token} (hweight : t.weight = 0) (hoperator : t.operator? = none)
    (depth : Int) (ts : List Token) : operatorsAt depth (t :: ts) = operatorsAt depth ts := by
  rw [operatorsAt, hweight, hoperator, Option.toList_none, ite_self, List.nil_append, Int.add_zero]

/-! ## scans and tokens -/

def TokenState.scan (depth : Int) : TokenState → ScanState
  | .literal _ escaped => ⟨depth, true, escaped⟩
  | _ => ⟨depth, false, false⟩

theorem TokenState.depth_after_nil (depth : Int) (s : TokenState) :
    ((s.scan depth).after []).depth = depth + weight [] := by
  rw [weight, Int.add_zero]
  cases s <;> rfl

theorem isInert_of_isGap {c : Char} (h : isGap c = true) : isInert c = true := by
  simp only [isGap, Bool.or_eq_true, beq_iff_eq] at h
  rcases h with ((rfl | rfl) | rfl) | rfl <;> decide

theorem punctuation_scan {c : Char} {t : Token} (h : punctuation? c = some t) (depth : Int) :
    ∃ found, ScanState.step ⟨depth, false, false⟩ c = (⟨depth + t.weight, false, false⟩, found) ∧
      found.toList = if depth = 0 then t.operator?.toList else [] := by
  unfold punctuation? at h
  by_cases hdepth : depth = 0
  · split at h <;> cases h <;> simp [ScanState.step, Token.weight, Token.operator?, hdepth]
  · split at h <;> cases h <;> simp [ScanState.step, Token.weight, hdepth, Int.sub_eq_add_neg]

section
variable {c : Char} {ts : List Token} {s s' : TokenState} (depth : Int)

/-- a character that begins something new -/
theorem start_scan (h : TokenState.start c = some (ts, s)) :
    ∃ found, ScanState.step ⟨depth, false, false⟩ c = (s.scan (depth + weight ts), found) ∧
      found.toList = operatorsAt depth ts := by
  have hnone : depth + weight [] = depth := Int.add_zero depth
  unfold TokenState.start at h
  split at h
  · rename_i hgap
    cases h
    rw [hnone]
    exact ⟨none, step_inert (isInert_of_isGap hgap) depth, rfl⟩
  · split at h
    · rename_i hstarts
      cases h
      rw [hnone]
      exact ⟨none, step_inert
        (isInert_of_continues (continuesIdentifier_of_startsIdentifier hstarts)) depth, rfl⟩
    · split at h
      · rename_i hquote
        cases h
        rw [hnone, hquote]
        exact ⟨none, rfl, rfl⟩
      · obtain ⟨t, ht, heq⟩ := Option.map_eq_some_iff.mp h
        cases heq
        obtain ⟨found, hstep, hfound⟩ := punctuation_scan ht depth
        refine ⟨found, ?_, ?_⟩
        · rw [weight, hstep]
          exact congrArg (fun n => (ScanState.mk (depth + n) false false, found))
            (Int.add_zero _).symm
        · rw [hfound, operatorsAt, operatorsAt, List.append_nil]

/-- **One character moves the scan as the tokens do that it completes.** -/
theorem step_scan (h : s.step c = some (ts, s')) :
    ∃ found, (s.scan depth).step c = (s'.scan (depth + weight ts), found) ∧
      found.toList = operatorsAt depth ts := by
  have hnone : depth + weight [] = depth := Int.add_zero depth
  cases s with
  | between => exact start_scan depth h
  | word run =>
    rw [TokenState.step] at h
    split at h
    · rename_i hcontinues
      cases h
      rw [hnone]
      exact ⟨none, step_inert (isInert_of_continues hcontinues) depth, rfl⟩
    · -- the word that ends here weighs nothing
      obtain ⟨⟨us, next⟩, hstart, heq⟩ := Option.map_eq_some_iff.mp h
      cases heq
      obtain ⟨found, hstep, hfound⟩ := start_scan depth hstart
      have hword : weight (.word (String.ofList run.reverse) :: us) = weight us :=
        Int.zero_add (weight us)
      refine ⟨found, ?_, hfound.trans (operatorsAt_plain rfl rfl depth us).symm⟩
      rw [hword]
      exact hstep
  | literal body escaped =>
    cases escaped with
    | true =>
      cases h
      rw [hnone]
      exact ⟨none, rfl, rfl⟩
    | false =>
      rw [TokenState.step] at h
      split at h
      · rename_i hquote
        obtain ⟨value, _, heq⟩ := Option.map_eq_some_iff.mp h
        cases heq
        have hliteral : weight [.literal (String.ofList value)] = 0 := rfl
        rw [hquote, hliteral, Int.add_zero]
        exact ⟨none, rfl, (operatorsAt_plain rfl rfl depth []).symm⟩
      · rename_i hquote
        cases h
        rw [hnone]
        refine ⟨none, ?_, rfl⟩
        by_cases hslash : c = '\\'
        · rw [hslash]
          rfl
        · simp [ScanState.step, TokenState.scan, hquote, hslash]

end

/-- **A text moves the scan as its tokens do**, and the start of a text as some of the first
ones. -/
theorem tokensFrom_scan {s : TokenState} {text : List Char} {ts : List Token}
    (h : tokensFrom s text = some ts) (depth : Int) :
    operatorsFrom (s.scan depth) text = operatorsAt depth ts ∧
      (s.scan depth).after text = ⟨depth + weight ts, false, false⟩ ∧
      ∀ start, start <+: text → ∃ us, us <+: ts ∧
        ((s.scan depth).after start).depth = depth + weight us := by
  induction text generalizing s ts depth with
  | nil =>
    have hstart : ∀ start : List Char, start <+: [] → ∃ us, us <+: ts ∧
        ((s.scan depth).after start).depth = depth + weight us := by
      intro start hstart
      rw [List.prefix_nil.mp hstart]
      exact ⟨[], List.nil_prefix, s.depth_after_nil depth⟩
    cases s with
    | between =>
      cases h
      refine ⟨rfl, ?_, hstart⟩
      show (⟨depth, false, false⟩ : ScanState) = ⟨depth + 0, false, false⟩
      rw [Int.add_zero]
    | word run =>
      cases h
      refine ⟨(operatorsAt_plain rfl rfl depth []).symm, ?_, hstart⟩
      show (⟨depth, false, false⟩ : ScanState) = ⟨depth + (0 + 0), false, false⟩
      rw [Int.add_zero, Int.add_zero]
    | literal body escaped => cases h
  | cons c rest ih =>
    rw [tokensFrom] at h
    split at h
    · rename_i first next hstep
      obtain ⟨more, hmore, rfl⟩ := Option.map_eq_some_iff.mp h
      obtain ⟨found, hscan, hfound⟩ := step_scan depth hstep
      obtain ⟨hoperators, hafter, hstarts⟩ := ih hmore (depth + weight first)
      have hnext : ∀ start, (s.scan depth).after (c :: start) =
          (next.scan (depth + weight first)).after start := by
        intro start
        rw [ScanState.after, List.foldl_cons, hscan, ScanState.after]
      refine ⟨?_, ?_, ?_⟩
      · rw [operatorsFrom_cons hscan, hfound, hoperators, operatorsAt_append]
      · rw [hnext, hafter, weight_append, Int.add_assoc]
      · intro start hstart
        rcases List.prefix_cons_iff.mp hstart with rfl | ⟨tail, rfl, htail⟩
        · exact ⟨[], List.nil_prefix, s.depth_after_nil depth⟩
        · obtain ⟨us, hus, hdepth⟩ := hstarts tail htail
          refine ⟨first ++ us, (List.prefix_append_right_inj first).mpr hus, ?_⟩
          rw [hnext, hdepth, weight_append, Int.add_assoc]
    · cases h

/-! ## balanced tokens -/

/-- tokens in which all brackets are closed, and the operators that are in none of them -/
inductive Balanced : List Token → List Operator → Prop
  | nil : Balanced [] []
  | plain {t : Token} (h : t.weight = 0) : Balanced [t] t.operator?.toList
  | append {ts us : List Token} {found more : List Operator} (h : Balanced ts found)
      (h' : Balanced us more) : Balanced (ts ++ us) (found ++ more)
  | bracketed {t t' : Token} {ts : List Token} {found : List Operator} (ht : t.weight = 1)
      (h : Balanced ts found) (ht' : t'.weight = -1) : Balanced (t :: (ts ++ [t'])) []

namespace Balanced

variable {ts : List Token} {found : List Operator}

theorem weight_eq (h : Balanced ts found) : weight ts = 0 := by
  induction h with
  | nil => rfl
  | plain h =>
    rw [weight, h]
    rfl
  | append _ _ ih ih' =>
    rw [weight_append, ih, ih']
    rfl
  | bracketed ht _ ht' ih =>
    rw [weight, weight_append, weight, ht, ih, ht']
    rfl

/-- on the way the depth is never less than at the start -/
theorem weight_nonneg (h : Balanced ts found) {us : List Token} (hus : us <+: ts) :
    0 ≤ weight us := by
  have hnil : 0 ≤ weight [] := Int.le_refl 0
  induction h generalizing us with
  | nil =>
    rw [List.prefix_nil.mp hus]
    exact hnil
  | plain h =>
    rcases List.prefix_cons_iff.mp hus with rfl | ⟨vs, rfl, hvs⟩
    · exact hnil
    · rw [List.prefix_nil.mp hvs, weight, h]
      exact hnil
  | @append ts _ _ _ h _ ih ih' =>
    rcases List.prefix_or_prefix_of_prefix hus (List.prefix_append ts _) with hus' | ⟨vs, rfl⟩
    · exact ih hus'
    · rw [weight_append, h.weight_eq, Int.zero_add]
      exact ih' ((List.prefix_append_right_inj ts).mp hus)
  | bracketed ht h ht' ih =>
    rcases List.prefix_cons_iff.mp hus with rfl | ⟨vs, rfl, hvs⟩
    · exact hnil
    · rw [weight, ht]
      rcases List.prefix_concat_iff.mp hvs with rfl | hvs
      · rw [weight_append, h.weight_eq, weight, ht']
        exact hnil
      · have := ih hvs
        omega

/-- at the top level the operators are found, deeper none is -/
theorem operatorsAt_eq (h : Balanced ts found) {depth : Int} (hdepth : 0 ≤ depth) :
    operatorsAt depth ts = if depth = 0 then found else [] := by
  induction h generalizing depth with
  | nil => exact (ite_self _).symm
  | plain h => rw [operatorsAt, operatorsAt, List.append_nil]
  | append h _ ih ih' =>
    rw [operatorsAt_append, h.weight_eq, Int.add_zero, ih hdepth, ih' hdepth]
    split <;> rfl
  | @bracketed t t' ts found ht h ht' ih =>
    have hopening : t.operator? = none := by cases t <;> first | rfl | cases ht
    have hclosing : t'.operator? = none := by cases t' <;> first | rfl | cases ht'
    have hinside : depth + 1 ≠ 0 := by omega
    rw [operatorsAt, hopening, operatorsAt_append, ht, ih (Int.le_add_one hdepth), if_neg hinside,
      operatorsAt, hclosing, operatorsAt, Option.toList_none, ite_self, ite_self]
    rfl

end Balanced

/-! ## the tokens of types -/

def factorOperators : TypeExpr → List Operator
  | .compound _ factors => [.intersection].intercalate (factors.map fun _ => [])
  | _ => []

/-- the operators of a union of intersections, without those inside of factors -/
def rootOperators : TypeExpr → List Operator
  | .compound _ summands => [.union].intercalate (summands.map factorOperators)
  | _ => []

/-- phrases of at most `k` tokens are balanced -/
def BalancedTo {α : Type} (k : Nat) (P : List Token → α → Prop) (operators : α → List Operator) :
    Prop :=
  ∀ ts x, ts.length ≤ k → P ts x → Balanced ts (operators x)

theorem balanced_separated {α : Type} {k : Nat} {P : List Token → α → Prop}
    {operators : α → List Operator} (hP : BalancedTo k P operators) (separator : Token)
    (hseparator : separator.weight = 0) : BalancedTo k (Separated P separator) fun xs =>
      separator.operator?.toList.intercalate (xs.map operators) := by
  intro ts xs hlen h
  induction h with
  | @single ts x h =>
    dsimp only
    rw [List.map_singleton, List.intercalate_singleton]
    exact hP ts x hlen h
  | @cons ts us x xs h hs ih =>
    rw [List.length_append, List.length_cons] at hlen
    obtain ⟨y, ys, rfl⟩ := List.exists_cons_of_ne_nil hs.ne_nil
    dsimp only at ih ⊢
    rw [List.map_cons, List.map_cons, List.intercalate_cons_cons, List.append_assoc]
    exact (hP ts x (by omega) h).append ((Balanced.plain hseparator).append (ih (by omega)))

theorem balanced_brackets (n : Nat) : Balanced (brackets n) [] := by
  induction n with
  | zero => exact .nil
  | succ n ih =>
    have hpair : Balanced [.openBracket, .closeBracket] [] := .bracketed rfl .nil rfl
    exact hpair.append ih

section
variable {k : Nat} (hP : BalancedTo k Primary fun _ => [])
include hP

theorem balanced_arrayed : BalancedTo k Arrayed fun _ => [] := by
  intro ts e hlen h
  obtain ⟨n, h⟩ := h
  rw [List.length_append] at hlen
  exact (hP _ _ (by omega) h).append (balanced_brackets n)

theorem balanced_intersected : BalancedTo k Intersected factorOperators := by
  intro ts e hlen h
  obtain ⟨h⟩ := h
  exact balanced_separated (balanced_arrayed hP) .ampersand rfl ts _ hlen h

theorem balanced_united : BalancedTo k United rootOperators := by
  intro ts e hlen h
  obtain ⟨h⟩ := h
  exact balanced_separated (balanced_intersected hP) .bar rfl ts _ hlen h

theorem balanced_field : BalancedTo k Field fun field => rootOperators field.2.2 := by
  intro ts field hlen h
  obtain ⟨key, optional, h⟩ := h
  rw [List.length_append] at hlen
  have hhead : Balanced (fieldHead key optional) [] := by
    have hkey : Balanced [key.token] [] := by cases key <;> exact .plain rfl
    have hcolon : Balanced [.colon] [] := .plain rfl
    have hmark : Balanced [.question] [] := .plain rfl
    cases optional with
    | false => exact hkey.append hcolon
    | true => exact hkey.append (hmark.append hcolon)
  exact hhead.append (balanced_united hP _ _ (by omega) h)

end

theorem balanced_primary (k : Nat) : BalancedTo k Primary fun _ => [] := by
  -- on the number of tokens, as every layer holds types of the outermost one
  induction k with
  | zero =>
    intro ts e hlen h
    cases h <;> simp [indexHead] at hlen
  | succ k ih =>
    intro ts e hlen h
    cases h with
    | word text => exact .plain rfl
    | literal value => exact .plain rfl
    | group h =>
      simp only [List.length_cons, List.length_append] at hlen
      exact .bracketed rfl (balanced_united ih _ _ (by omega) h) rfl
    | empty => exact .bracketed rfl .nil rfl
    | record h =>
      simp only [List.length_cons, List.length_append] at hlen
      exact .bracketed rfl
        (balanced_separated (balanced_field ih) .semicolon rfl _ _ (by omega) h) rfl
    | @index ts e parameter h =>
      simp only [indexHead, List.length_cons, List.length_append] at hlen
      have hcolon : Balanced [.colon] [] := .plain rfl
      have hkey : Balanced [.word parameter, .colon, .word "string"] [] :=
        (Balanced.plain rfl).append (hcolon.append (.plain rfl))
      have hhead : Balanced ([.openBracket, .word parameter, .colon, .word "string",
          .closeBracket] ++ [.colon]) [] := (Balanced.bracketed rfl hkey rfl).append hcolon
      exact .bracketed rfl (hhead.append (balanced_united ih _ _ (by omega) h)) rfl

/-! ## types -/

theorem mem_intercalate_singleton {α : Type} {separator a : α} {parts : List (List α)} :
    a ∈ [separator].intercalate parts ↔
      a = separator ∧ 2 ≤ parts.length ∨ ∃ part ∈ parts, a ∈ part := by
  induction parts with
  | nil => simp
  | cons part parts ih =>
    cases parts with
    | nil => simp
    | cons next parts =>
      have htwo : 2 ≤ (part :: next :: parts).length := Nat.le_add_left 2 parts.length
      rw [List.intercalate_cons_cons, List.append_assoc, List.mem_append, List.mem_append,
        List.mem_singleton, ih, List.exists_mem_cons_iff _ part]
      tauto

theorem mem_factorOperators {operator : Operator} {factors : List TypeExpr} :
    operator ∈ factorOperators (.compound .intersection factors) ↔
      operator = .intersection ∧ 2 ≤ factors.length := by
  rw [factorOperators, mem_intercalate_singleton, List.length_map]
  simp

/-- the operators of a type are a bar if it has two summands, and an ampersand if one of them has
two factors -/
theorem mem_rootOperators {operator : Operator} {summands : List (List TypeExpr)} :
    operator ∈ rootOperators (ofSummands summands) ↔
      operator = .union ∧ 2 ≤ summands.length ∨
        operator = .intersection ∧ ∃ factors ∈ summands, 2 ≤ factors.length := by
  rw [rootOperators.eq_def, ofSummands]
  dsimp only
  rw [mem_intercalate_singleton, List.length_map, List.length_map, List.map_map]
  simp only [List.mem_map, Function.comp_apply, exists_exists_and_eq_and, mem_factorOperators]
  tauto

/-- **A scan goes through a type as the grammar does**: it is never less deep than at the start, it
ends as it began, and it finds the operators of the type itself. -/
theorem Reads.scan {text : String} {e : TypeExpr} (h : Reads text e) :
    topLevelOperators text = rootOperators e ∧ ScanState.after {} text.toList = {} ∧
      ∀ start, start <+: text.toList → 0 ≤ (ScanState.after {} start).depth := by
  obtain ⟨ts, hts, hunited⟩ := h
  have hbalanced : Balanced ts (rootOperators e) :=
    balanced_united (balanced_primary ts.length) ts e (Nat.le_refl _) hunited
  obtain ⟨hoperators, hafter, hstarts⟩ := tokensFrom_scan hts 0
  refine ⟨?_, ?_, ?_⟩
  · rw [hbalanced.operatorsAt_eq (Int.le_refl 0), if_pos rfl] at hoperators
    exact hoperators
  · rw [hbalanced.weight_eq] at hafter
    exact hafter
  · intro start hstart
    obtain ⟨us, hus, hdepth⟩ := hstarts start hstart
    have hnonneg := hbalanced.weight_nonneg hus
    rw [← Int.zero_add (weight us), ← hdepth] at hnonneg
    exact hnonneg

end ApiBindings.TypeScript
