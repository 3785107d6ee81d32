import ApiBindings.Proofs.Json.Literal
import ApiBindings.Proofs.Synthesis.Enumeration
import ApiBindings.Proofs.TypeText.Written

/-!
# Enumerations read back

The type of an enumeration is a union of string literals.  A value may hold anything, bars, quotes
and backslashes too, so where one literal ends and the next begins is found by the scan for
operators alone: what it passes over inside of a literal separates nothing.

* `unionParts`             a text taken apart at the ` | ` at its top level;
* `unionParts_join`        the union of literals falls apart into these literals;
* `isCompound_join_quoted` it is compound if there are two;
* `enumType_reads_back`    and each of them is read as the value that it was written for.
-/

namespace ApiBindings

namespace TypeScript

/-! ## taking a union apart -/

/-- whether a scan is outside of all brackets and literals -/
def ScanState.isTop (s : ScanState) : Bool := s.depth == 0 && !s.inText

/-- the parts of a union from a place on, with the part under way in reverse -/
def unionPartsFrom (s : ScanState) (part : List Char) : List Char → List (List Char)
  | [] => [part.reverse]
  | ' ' :: '|' :: ' ' :: rest =>
    if s.isTop then part.reverse :: unionPartsFrom s [] rest
    else unionPartsFrom (s.step ' ').1 (' ' :: part) ('|' :: ' ' :: rest)
  | c :: rest => unionPartsFrom (s.step c).1 (c :: part) rest

/-- the parts of a text between the ` | ` at its top level -/
def unionParts (text : String) : List (List Char) := unionPartsFrom {} [] text.toList

/-- where nothing is separated, the part goes on -/
theorem unionPartsFrom_cons {s : ScanState} {c : Char} (h : s.inText = true ∨ c ≠ ' ')
    (part rest : List Char) :
    unionPartsFrom s part (c :: rest) = unionPartsFrom (s.step c).1 (c :: part) rest := by
  rw [unionPartsFrom.eq_def]
  split
  · rename_i heq
    cases heq
  · rename_i heq
    cases heq
    have hinside : s.isTop = false := by
      rw [ScanState.isTop, h.resolve_right (absurd rfl), Bool.not_true, Bool.and_false]
    rw [hinside]
    rfl
  · rename_i heq
    cases heq
    rfl

theorem unionPartsFrom_body {body : List Char} (h : Text.LiteralBody body)
    (part rest : List Char) :
    unionPartsFrom ⟨0, true, false⟩ part (body ++ rest) =
      unionPartsFrom ⟨0, true, false⟩ (body.reverse ++ part) rest := by
  induction h generalizing part with
  | nil => rfl
  | @plain c body hquote hslash _ ih =>
    have hc : ScanState.step ⟨0, true, false⟩ c = (⟨0, true, false⟩, none) := by
      simp [ScanState.step, hquote, hslash]
    rw [List.cons_append, unionPartsFrom_cons (.inl rfl), hc, ih, List.reverse_cons,
      List.append_assoc]
    rfl
  | @escape c body _ ih =>
    rw [List.cons_append, List.cons_append, unionPartsFrom_cons (.inl rfl),
      unionPartsFrom_cons (.inl rfl), List.reverse_cons, List.reverse_cons, List.append_assoc,
      List.append_assoc]
    exact ih _

/-- a literal is passed over as a whole -/
theorem unionPartsFrom_quotedChars (s part rest : List Char) :
    unionPartsFrom {} part (Text.quotedChars s ++ rest) =
      unionPartsFrom {} ((Text.quotedChars s).reverse ++ part) rest := by
  have hopen : (ScanState.step {} '"').1 = ⟨0, true, false⟩ := rfl
  have hclose : (ScanState.step ⟨0, true, false⟩ '"').1 = {} := rfl
  have hreverse : (Text.quotedChars s).reverse ++ part =
      '"' :: ((s.flatMap Text.quotedChar).reverse ++ '"' :: part) := by
    simp [Text.quotedChars]
  rw [Text.quotedChars, List.cons_append, unionPartsFrom_cons (.inr (by decide)), hopen,
    List.append_assoc, unionPartsFrom_body (Text.LiteralBody.flatMap s), List.singleton_append,
    unionPartsFrom_cons (.inl rfl), hclose, ← hreverse, Text.quotedChars]

/-- **A union of literals falls apart into these literals.** -/
theorem unionParts_join {values : List String} (hne : values ≠ []) :
    unionParts (Text.join " | " (values.map Text.quoted)) =
      values.map fun value => Text.quotedChars value.toList := by
  have hlast (value : String) : unionPartsFrom {} [] (Text.quotedChars value.toList) =
      [Text.quotedChars value.toList] := by
    have h := unionPartsFrom_quotedChars value.toList [] []
    rw [List.append_nil, List.append_nil] at h
    rw [h, unionPartsFrom, List.reverse_reverse]
  induction values with
  | nil => exact absurd rfl hne
  | cons value values ih =>
    -- behind the literal the scan is at the top again, where the bar separates
    cases values with
    | nil =>
      rw [unionParts, List.map_singleton, Text.join_singleton, Text.quoted, String.toList_ofList,
        hlast, List.map_singleton]
    | cons next values =>
      have htext : (Text.join " | " ((value :: next :: values).map Text.quoted)).toList =
          Text.quotedChars value.toList ++ ' ' :: '|' :: ' ' ::
            (Text.join " | " ((next :: values).map Text.quoted)).toList := by
        rw [List.map_cons, List.map_cons, Text.join_cons_cons, String.toList_append,
          String.toList_append, List.append_assoc, Text.quoted, String.toList_ofList]
        rfl
      have ih := ih (List.cons_ne_nil _ _)
      rw [unionParts] at ih
      rw [unionParts, htext, unionPartsFrom_quotedChars, List.append_nil, unionPartsFrom,
        if_pos (by decide), List.reverse_reverse, ih, List.map_cons, List.map_cons, List.map_cons]

/-! ## operators of a union of literals -/

theorem written_join_quoted {values : List String} (hne : values ≠ []) :
    Written (Text.join " | " (values.map Text.quoted))
      (values.map fun value => [.literal value]) := by
  have hparts : List.Forall₂ Written (values.map Text.quoted)
      (values.map fun value => [[.literal value]]) := by
    rw [List.forall₂_map_left_iff, List.forall₂_map_right_iff, List.forall₂_same]
    exact fun value _ => .literal value
  have hflat : (values.map fun value => [[TypeExpr.literal value]]).flatten =
      values.map fun value => [.literal value] := by
    rw [← List.flatMap_def, List.map_eq_flatMap]
  rw [← hflat]
  exact Written.join_bar hparts (mt List.map_eq_nil_iff.mp hne)

/-- the scan finds an operator if there is more than one literal -/
theorem isCompound_join_quoted {values : List String} (hne : values ≠ []) :
    isCompound (Text.join " | " (values.map Text.quoted)) = true ↔ 2 ≤ values.length := by
  rw [(written_join_quoted hne).isCompound_iff, List.length_map]
  refine ⟨fun h => h.resolve_right ?_, .inl⟩
  rintro ⟨factors, hmem, htwo⟩
  obtain ⟨_, _, rfl⟩ := List.mem_map.mp hmem
  exact absurd htwo (Nat.lt_irrefl 1)

end TypeScript

open TypeScript

/-! ## enumerations -/

theorem enumType_texts (values : List String) (site : Option String) :
    enumType (values.map Value.text) site = .ok (Text.join " | " (values.map Text.quoted)) := by
  have hliterals : (values.map Value.text).filterMap enumLiteral? = values.map Text.quoted := by
    rw [List.filterMap_map]
    exact congrFun List.filterMap_eq_map values
  rw [enumType_eq, hliterals, if_pos (by rw [List.length_map, List.length_map])]

/-- **The values of an enumeration are read back from its type**, each from the part at its place,
and the type is a compound of operators if and only if there are two values or more. -/
theorem enumType_reads_back {values : List String} (hne : values ≠ []) (site : Option String) :
    ∃ text, enumType (values.map Value.text) site = .ok text ∧
      (unionParts text).map Json.read = values.map (fun value => .ok (Value.text value)) ∧
      (isCompound text = true ↔ 2 ≤ values.length) := by
  refine ⟨_, enumType_texts values site, ?_, isCompound_join_quoted hne⟩
  rw [unionParts_join hne, List.map_map]
  refine List.map_congr_left fun value _ => ?_
  have hread := Json.read_quotedChars value.toList
  rw [String.ofList_toList] at hread
  exact hread

/-- values that look like the end of a literal, like a bar or like a bracket -/
theorem enumType_barsAndQuotes_reads_back :
    ["\" | \"", "trailing\\", "", "\x7b|&>", "\n\x01é😀"] ≠ [] ∧
      ∃ text, enumType (["\" | \"", "trailing\\", "", "\x7b|&>", "\n\x01é😀"].map Value.text)
          (some "components.schemas.Mark") = .ok text ∧
        (unionParts text).map Json.read =
          ["\" | \"", "trailing\\", "", "\x7b|&>", "\n\x01é😀"].map
            (fun value => .ok (Value.text value)) ∧
        isCompound text = true := by
  have hne : ["\" | \"", "trailing\\", "", "\x7b|&>", "\n\x01é😀"] ≠ [] := by decide
  obtain ⟨text, htext, hparts, hcompound⟩ := enumType_reads_back hne "components.schemas.Mark"
  exact ⟨hne, text, htext, hparts, hcompound.mpr (by decide)⟩

end ApiBindings
