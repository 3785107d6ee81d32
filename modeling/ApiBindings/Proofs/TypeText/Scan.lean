import ApiBindings.Proofs.Text.Literal
import ApiBindings.TypeScript.Expression
import ApiBindings.TypeScript.Name

/-!
# What the scan for operators finds

`Scans text operators` says what a scan that reaches a text outside of string literals finds in it:
the operators, if it is at the top level, and nothing deeper in brackets; it leaves the text as deep
as it was before.  Texts that scan like this can be put together.

* `Scans.append`       one text behind another;
* `Scans.bracketed`    in brackets nothing is at the top level;
* `scans_quoted`       nothing in a string literal counts;
* `scans_identifier`   nor does anything in a word.
-/

namespace ApiBindings.TypeScript

/-- a scan outside of literals finds these operators in the text, at the top level only -/
def Scans (text : List Char) (operators : List Operator) : Prop :=
  ∀ depth : Int, 0 ≤ depth → ∀ rest, operatorsFrom ⟨depth, false, false⟩ (text ++ rest) =
    (if depth = 0 then operators else []) ++ operatorsFrom ⟨depth, false, false⟩ rest

/-- a character that a scan outside of literals passes over -/
def isInert (c : Char) : Bool :=
  !(['"', '{', '[', '(', '<', '}', ']', ')', '>', '|', '&'].contains c)

/-! ## single steps -/

theorem operatorsFrom_cons {s s' : ScanState} {c : Char} {found : Option Operator}
    (h : s.step c = (s', found)) (rest : List Char) :
    operatorsFrom s (c :: rest) = found.toList ++ operatorsFrom s' rest := by
  rw [operatorsFrom, h]
  cases found with
  | none => rfl
  | some operator => rfl

theorem step_inert {c : Char} (h : isInert c = true) (depth : Int) :
    ScanState.step ⟨depth, false, false⟩ c = (⟨depth, false, false⟩, none) := by
  simp only [isInert, List.contains_eq_mem, List.mem_cons, List.not_mem_nil, or_false,
    Bool.not_eq_true', decide_eq_false_iff_not, not_or] at h
  simp [ScanState.step, h]

/-! ## texts -/

theorem scans_nil : Scans [] [] := by
  intro depth _ rest
  rw [List.nil_append, ite_self, List.nil_append]

theorem Scans.append {s t : List Char} {found more : List Operator} (hs : Scans s found)
    (ht : Scans t more) : Scans (s ++ t) (found ++ more) := by
  intro depth hdepth rest
  rw [List.append_assoc, hs depth hdepth, ht depth hdepth, ← List.append_assoc]
  by_cases h : depth = 0
  · rw [if_pos h, if_pos h, if_pos h]
  · rw [if_neg h, if_neg h, if_neg h, List.append_nil]

theorem scans_inert {w : List Char} (hw : ∀ c ∈ w, isInert c = true) : Scans w [] := by
  induction w with
  | nil => exact scans_nil
  | cons c w ih =>
    intro depth hdepth rest
    have hc := step_inert (hw c List.mem_cons_self) depth
    rw [List.cons_append, operatorsFrom_cons hc,
      ih (fun d hd => hw d (List.mem_cons_of_mem _ hd)) depth hdepth]
    rfl

theorem scans_bar : Scans ['|'] [.union] := by
  intro depth hdepth rest
  by_cases h : depth = 0
  · rw [h]
    rfl
  · have hc : ScanState.step ⟨depth, false, false⟩ '|' = (⟨depth, false, false⟩, none) := by
      simp [ScanState.step, h]
    rw [List.singleton_append, operatorsFrom_cons hc, if_neg h]
    rfl

theorem scans_ampersand : Scans ['&'] [.intersection] := by
  intro depth hdepth rest
  by_cases h : depth = 0
  · rw [h]
    rfl
  · have hc : ScanState.step ⟨depth, false, false⟩ '&' = (⟨depth, false, false⟩, none) := by
      simp [ScanState.step, h]
    rw [List.singleton_append, operatorsFrom_cons hc, if_neg h]
    rfl

/-- the characters between two brackets are one level deeper, where nothing is found -/
theorem Scans.bracketed {text : List Char} {found : List Operator} (h : Scans text found)
    {opening closing : Char} (hopening : opening ∈ ['{', '[', '(', '<'])
    (hclosing : closing ∈ ['}', ']', ')', '>']) : Scans (opening :: (text ++ [closing])) [] := by
  intro depth hdepth rest
  have hin : ScanState.step ⟨depth, false, false⟩ opening = (⟨depth + 1, false, false⟩, none) := by
    simp only [List.mem_cons, List.not_mem_nil, or_false] at hopening
    rcases hopening with rfl | rfl | rfl | rfl <;> simp [ScanState.step]
  have hout : ScanState.step ⟨depth + 1, false, false⟩ closing =
      (⟨depth + 1 - 1, false, false⟩, none) := by
    simp only [List.mem_cons, List.not_mem_nil, or_false] at hclosing
    rcases hclosing with rfl | rfl | rfl | rfl <;> simp [ScanState.step]
  rw [List.cons_append, operatorsFrom_cons hin, List.append_assoc, h (depth + 1) (by omega),
    if_neg (by omega), List.singleton_append, operatorsFrom_cons hout, ite_self,
    Int.add_sub_cancel]
  rfl

/-! ## literals -/

/-- inside of a literal a scan finds nothing and stays inside -/
theorem operatorsFrom_body {body : List Char} (h : Text.LiteralBody body) (depth : Int)
    (rest : List Char) :
    operatorsFrom ⟨depth, true, false⟩ (body ++ rest) =
      operatorsFrom ⟨depth, true, false⟩ rest := by
  induction h with
  | nil => rfl
  | @plain c body hquote hslash _ ih =>
    have hc : ScanState.step ⟨depth, true, false⟩ c = (⟨depth, true, false⟩, none) := by
      simp [ScanState.step, hquote, hslash]
    rw [List.cons_append, operatorsFrom_cons hc, ih]
    rfl
  | @escape c body _ ih =>
    have hslash : ScanState.step ⟨depth, true, false⟩ '\\' = (⟨depth, true, true⟩, none) := rfl
    have hc : ScanState.step ⟨depth, true, true⟩ c = (⟨depth, true, false⟩, none) := rfl
    rw [List.cons_append, List.cons_append, operatorsFrom_cons hslash, operatorsFrom_cons hc, ih]
    rfl

theorem scans_quoted (s : List Char) : Scans (Text.quotedChars s) [] := by
  intro depth _ rest
  have hopen : ScanState.step ⟨depth, false, false⟩ '"' = (⟨depth, true, false⟩, none) := rfl
  have hclose : ScanState.step ⟨depth, true, false⟩ '"' = (⟨depth, false, false⟩, none) := rfl
  rw [Text.quotedChars, List.cons_append, List.append_assoc, operatorsFrom_cons hopen,
    operatorsFrom_body (Text.LiteralBody.flatMap s), List.singleton_append,
    operatorsFrom_cons hclose, ite_self]
  rfl

/-! ## words -/

theorem continuesIdentifier_of_startsIdentifier {c : Char} (h : startsIdentifier c = true) :
    continuesIdentifier c = true := by
  unfold startsIdentifier at h
  unfold continuesIdentifier Char.isAlphanum
  cases hdigit : c.isDigit <;> simp_all

theorem isInert_of_continues {c : Char} (h : continuesIdentifier c = true) : isInert c = true := by
  cases hi : isInert c with
  | true => rfl
  | false =>
    simp only [isInert, List.contains_eq_mem, List.mem_cons, List.not_mem_nil, or_false,
      Bool.not_eq_false', decide_eq_true_eq] at hi
    rcases hi with rfl | rfl | rfl | rfl | rfl | rfl | rfl | rfl | rfl | rfl | rfl <;>
      exact absurd h (by decide)

theorem scans_identifier {w : List Char} (hw : ∀ c ∈ w, continuesIdentifier c = true) :
    Scans w [] :=
  scans_inert fun c hc => isInert_of_continues (hw c hc)

/-! ## whole expressions -/

theorem Scans.topLevelOperators_eq {text : String} {found : List Operator}
    (h : Scans text.toList found) : topLevelOperators text = found := by
  have h := h 0 (by decide) []
  rw [if_pos rfl, List.append_nil] at h
  rw [topLevelOperators]
  show operatorsFrom ⟨0, false, false⟩ text.toList = found
  rw [h, operatorsFrom, List.append_nil]

theorem Scans.isCompound_iff {text : String} {found : List Operator}
    (h : Scans text.toList found) : isCompound text = true ↔ found ≠ [] := by
  rw [isCompound, h.topLevelOperators_eq, Bool.not_eq_true', List.isEmpty_eq_false_iff]

theorem Scans.isUnion_iff {text : String} {found : List Operator}
    (h : Scans text.toList found) : isUnion text = true ↔ .union ∈ found := by
  rw [isUnion, h.topLevelOperators_eq, List.contains_eq_mem, decide_eq_true_eq]

end ApiBindings.TypeScript
