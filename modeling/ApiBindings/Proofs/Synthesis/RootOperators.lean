import ApiBindings.Proofs.Synthesis.Pointers
import ApiBindings.Proofs.TypeText.Depth

/-!
# The operators of synthesized types

Whether a type needs parentheses, and whether it can become an interface, is decided on its text by
the scan for operators.  On the texts of the synthesis the scan is right: it finds the operators of
the type itself, and none that stand in brackets or in a literal.

* `IsTypeText`                 the texts that the synthesis gives for schemas and for payloads;
* `ScannedAsRead`              a text on which the scan and the grammar agree;
* `IsTypeText.scannedAsRead`   they agree on all texts of the synthesis.
-/

namespace ApiBindings

open TypeScript

/-- the type of a schema, or the union of the types of payloads -/
inductive IsTypeText : String → Prop
  | schema {node : SchemaNode} {site : Option String} {text : String}
      (h : nodeType node site = .ok text) : IsTypeText text
  | payloads {entries : List (String × Option (Referable Payload))} {text : String}
      (h : payloadUnion entries = .ok text) : IsTypeText text

/-- only the union of no types at all is empty -/
theorem IsTypeText.written {text : String} (h : IsTypeText text) :
    text = "" ∨ ∃ summands, Written text summands := by
  cases h with
  | schema h =>
    obtain ⟨_, _, hrenders⟩ := nodeType_renders _ h
    obtain ⟨summands, hwritten, _⟩ := hrenders.written
    exact .inr ⟨summands, hwritten⟩
  | @payloads entries _ h =>
    by_cases hnone : entries = []
    · subst hnone
      cases h
      exact .inl rfl
    · obtain ⟨_, hrenders, _⟩ := payloadUnion_namedBy hnone h
      obtain ⟨summands, hwritten, _⟩ := hrenders.written
      exact .inr ⟨summands, hwritten⟩

/-! ## what stands outside of parentheses -/

/-- the text is a union of at least two members, without parentheses around it -/
def IsBareUnion (text : String) : Prop :=
  ∃ summands, Reads text (ofSummands summands) ∧ 2 ≤ summands.length

/-- The text, or one of the members if it is a union, is an intersection of at least two members
without parentheses around it. -/
def HasBareIntersection (text : String) : Prop :=
  ∃ summands, Reads text (ofSummands summands) ∧ ∃ factors ∈ summands, 2 ≤ factors.length

/-- The scan of a text is never less deep than at the start, it ends as it began, outside of all
brackets and literals, and it finds an operator if and only if the type that the text is read as has
it outside of parentheses. -/
structure ScannedAsRead (text : String) : Prop where
  reading : text = "" ∨ ∃ e, Reads text e ∧ ∀ e', Reads text e' → e' = e
  nonneg : ∀ start, start <+: text.toList → 0 ≤ (ScanState.after {} start).depth
  ends : ScanState.after {} text.toList = {}
  union : .union ∈ topLevelOperators text ↔ IsBareUnion text
  intersection : .intersection ∈ topLevelOperators text ↔ HasBareIntersection text

theorem scannedAsRead_empty : ScannedAsRead "" := by
  have hnone : ∀ {e}, ¬ Reads "" e := fun h => h.ne_empty rfl
  constructor
  · exact .inl rfl
  · intro start hstart
    rw [String.toList_empty, List.prefix_nil] at hstart
    rw [hstart]
    exact Int.le_refl 0
  · rfl
  · exact iff_of_false List.not_mem_nil fun ⟨_, h, _⟩ => hnone h
  · exact iff_of_false List.not_mem_nil fun ⟨_, h, _⟩ => hnone h

theorem scannedAsRead_of_reads {text : String} {summands : List (List TypeExpr)}
    (h : Reads text (ofSummands summands)) : ScannedAsRead text := by
  obtain ⟨hoperators, hends, hnonneg⟩ := h.scan
  constructor
  · exact .inr ⟨_, h, fun e' h' => reads_unique h' h⟩
  · exact hnonneg
  · exact hends
  · constructor
    · intro hmem
      rw [hoperators, mem_rootOperators] at hmem
      rcases hmem with ⟨_, htwo⟩ | ⟨hother, _⟩
      · exact ⟨summands, h, htwo⟩
      · cases hother
    · rintro ⟨_, hreads, htwo⟩
      rw [hreads.scan.1]
      exact mem_rootOperators.mpr (.inl ⟨rfl, htwo⟩)
  · constructor
    · intro hmem
      rw [hoperators, mem_rootOperators] at hmem
      rcases hmem with ⟨hother, _⟩ | ⟨_, htwo⟩
      · cases hother
      · exact ⟨summands, h, htwo⟩
    · rintro ⟨_, hreads, htwo⟩
      rw [hreads.scan.1]
      exact mem_rootOperators.mpr (.inr ⟨rfl, htwo⟩)

/-- **The scan is right on every text of the synthesis.** -/
theorem IsTypeText.scannedAsRead {text : String} (h : IsTypeText text) : ScannedAsRead text := by
  rcases h.written with rfl | ⟨_, hwritten⟩
  · exact scannedAsRead_empty
  · exact scannedAsRead_of_reads hwritten.reads

/-- the only member of an intersection, a union with brackets and quotes in its literals -/
def groupedUnion : Schema :=
  { Schema.empty with
    allOf := .value [.inline { Schema.empty with
      oneOf := .value [.ref "#/components/schemas/pet",
        .inline { Schema.empty with
          type := .value "string"
          enum := .value [.atom (.string "|)"), .atom (.string "\\\"& [")] }] }] }

/-- an intersection with a record whose key looks like an open bracket -/
def bracketedKey : Schema :=
  { Schema.empty with
    allOf := .value [.ref "#/components/schemas/pet",
      .inline { Schema.empty with
        properties := .value [("(|", .inline { Schema.empty with
          type := .value "array"
          items := .value (.inline { Schema.empty with
            type := .value "integer", nullable := .value true }) })] }] }

def groupedUnionText : String := "(Pet | \"|)\" | \"\\\\\\\"& [\")"

def bracketedKeyText : String := "Pet & \x7b\"(|\"?: (number | null)[]\x7d"

def jsonPayload (schema : Schema) : Payload :=
  ⟨.value [("application/json", ⟨.value (.inline schema), []⟩)], []⟩

/-- a union in parentheses has no operators, and has one as a member of a union of payloads -/
theorem groupedUnion_scannedAsRead : nodeType (.inline groupedUnion) none = .ok groupedUnionText ∧
    payloadUnion [("200", some (.inline (jsonPayload groupedUnion))), ("204", none),
        ("400", some (.inline (jsonPayload bracketedKey)))] =
      .ok (groupedUnionText ++ " | void | " ++ bracketedKeyText) ∧
    ScannedAsRead groupedUnionText ∧
    ScannedAsRead (groupedUnionText ++ " | void | " ++ bracketedKeyText) ∧
    topLevelOperators groupedUnionText = [] ∧
    topLevelOperators (groupedUnionText ++ " | void | " ++ bracketedKeyText) =
      [.union, .union, .intersection] := by
  have hschema : nodeType (.inline groupedUnion) none = .ok groupedUnionText :=
    toOption_eq_some.mp (by decide +kernel)
  have hpayloads : payloadUnion [("200", some (.inline (jsonPayload groupedUnion))), ("204", none),
      ("400", some (.inline (jsonPayload bracketedKey)))] =
        .ok (groupedUnionText ++ " | void | " ++ bracketedKeyText) :=
    toOption_eq_some.mp (by decide +kernel)
  exact ⟨hschema, hpayloads, (IsTypeText.schema hschema).scannedAsRead,
    (IsTypeText.payloads hpayloads).scannedAsRead, by decide +kernel, by decide +kernel⟩

end ApiBindings
