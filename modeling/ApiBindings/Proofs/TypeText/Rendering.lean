import ApiBindings.Proofs.Outcome
import ApiBindings.Proofs.Pointwise
import ApiBindings.Proofs.Synthesis.Enumeration
import ApiBindings.Proofs.TypeText.Meaning
import ApiBindings.Proofs.TypeText.Written

/-!
# The type of a schema as text

The text that the synthesis gives for a schema is read as the type that the schema denotes, and as
no other.

* `Renders`                  what is kept of a text and the type it stands for;
* `nodeType_renders`         every text of the synthesis renders the meaning of its node;
* `nodeType_reads_unique`    so it has one reading, which is the meaning but for nesting.
-/

namespace ApiBindings

open TypeScript

/-! ## texts that render a type -/

/-- a text that is read as a type, but for nesting, and is `null` if the type is -/
structure Renders (text : String) (e : TypeExpr) : Prop where
  written : ∃ summands, Written text summands ∧ (ofSummands summands).normal = e.normal
  null : e.normal = .keyword .null → text = "null"
  proper : e.normal.Proper

def RendersField (text : String) (field : Key × Bool × TypeExpr) : Prop :=
  ∃ e, WrittenField text (field.1, field.2.1, e) ∧ e.normal = field.2.2.normal

namespace Renders

variable {text : String} {e : TypeExpr}

/-- a type that is one factor and not null -/
theorem of_factor {e' : TypeExpr} (h : Written text [[e']]) (hnormal : e'.normal = e.normal)
    (hne : ∀ operator members, e.normal ≠ .compound operator members)
    (hnull : e.normal ≠ .keyword .null) : Renders text e := by
  refine ⟨⟨[[e']], h, ?_⟩, fun hn => absurd hn hnull, fun operator => hne operator []⟩
  rw [normal_ofSummands_factor]
  exact hnormal

theorem keyword {k : Keyword} (hk : k ≠ .null) : Renders k.text (.keyword k) := by
  refine of_factor (.keyword k) rfl ?_ ?_
  · intro _ _ h
    cases h
  · intro h
    cases h
    exact hk rfl

theorem null_text : Renders "null" (.keyword .null) := by
  refine ⟨⟨[[.keyword .null]], .keyword .null, ?_⟩, fun _ => rfl, ?_⟩
  · exact normal_ofSummands_factor _
  · intro _ h
    cases h

theorem named {name : String} (h : IsTypeName name.toList) : Renders name (.named name) := by
  refine of_factor (.named h) rfl ?_ ?_
  · intro _ _ h
    cases h
  · intro h
    cases h

theorem literal (value : String) : Renders (Text.quoted value) (.literal value) := by
  refine of_factor (.literal value) rfl ?_ ?_
  · intro _ _ h
    cases h
  · intro h
    cases h

theorem arrayOf (h : Renders text e) : Renders (arrayOf text) (.array e) := by
  obtain ⟨summands, hw, hnormal⟩ := h.written
  obtain ⟨e', hw, he⟩ := hw.arrayOf
  refine of_factor hw ?_ ?_ ?_
  · rw [TypeExpr.normal, he, hnormal, TypeExpr.normal]
  · intro _ _ h
    cases h
  · intro h
    cases h

theorem indexOf (h : Renders text e) : Renders (indexOf text) (.index e) := by
  obtain ⟨summands, hw, hnormal⟩ := h.written
  refine of_factor hw.indexOf ?_ ?_ ?_
  · rw [TypeExpr.normal, hnormal, TypeExpr.normal]
  · intro _ _ h
    cases h
  · intro h
    cases h

theorem ne_empty (h : Renders text e) : text ≠ "" := by
  obtain ⟨summands, hw, _⟩ := h.written
  exact hw.reads.ne_empty

/-- the text is `null` if and only if the type is -/
theorem eq_null_iff (h : Renders text e) : text = "null" ↔ e.normal = .keyword .null := by
  refine ⟨?_, h.null⟩
  rintro rfl
  obtain ⟨summands, hw, hnormal⟩ := h.written
  have hnull : Written "null" [[.keyword .null]] := .keyword .null
  rw [← hnormal, reads_unique hw.reads hnull.reads]
  exact normal_ofSummands_factor _

/-! ## compounds -/

theorem proper_of_forall₂ {texts : List String} {es : List TypeExpr}
    (h : List.Forall₂ Renders texts es) : ∀ e ∈ es, e.normal.Proper := by
  intro e he
  have hflip : List.Forall₂ (flip Renders) es texts := h.flip
  obtain ⟨text, hrenders⟩ := exists_of_forall₂ hflip e he
  exact hrenders.proper

theorem proper_compound {texts : List String} {es : List TypeExpr}
    (h : List.Forall₂ Renders texts es) (hne : texts ≠ []) (operator : Operator) :
    (TypeExpr.compound operator es).normal.Proper := by
  refine TypeExpr.proper_normal_compound (proper_of_forall₂ h) ?_
  rintro rfl
  cases h
  exact hne rfl

/-- a compound is null only if its one member is -/
theorem null_compound {texts : List String} {es : List TypeExpr} {operator : Operator}
    (h : List.Forall₂ Renders texts es)
    (hnull : (TypeExpr.compound operator es).normal = .keyword .null) : texts = ["null"] := by
  obtain ⟨e, rfl, he⟩ := TypeExpr.singleton_of_normal_keyword (proper_of_forall₂ h) hnull
  obtain ⟨text, _, hrenders, hrest, rfl⟩ := List.forall₂_cons_right_iff.mp h
  rw [List.forall₂_nil_right_iff.mp hrest, hrenders.null he]

theorem exists_summands {texts : List String} {es : List TypeExpr}
    (h : List.Forall₂ Renders texts es) :
    ∃ parts, List.Forall₂ Written texts parts ∧ List.Forall₂ (fun group e =>
      (TypeExpr.compound .union group).normal = e.normal)
      (parts.map fun summands => summands.map (.compound .intersection)) es := by
  obtain ⟨parts, hparts, hnormals⟩ := forall₂_through (Q := Written)
    (R := fun summands e => (ofSummands summands).normal = e.normal) h
    fun _ _ _ hrenders => hrenders.written
  exact ⟨parts, hparts, List.forall₂_map_left_iff.mpr hnormals⟩

theorem exists_factors {texts : List String} {es : List TypeExpr}
    (h : List.Forall₂ Renders texts es) :
    ∃ parts, List.Forall₂ (fun text factors => Written text [factors])
        (texts.map intersectionMember) parts ∧
      List.Forall₂ (fun group e => (TypeExpr.compound .intersection group).normal = e.normal)
        parts es := by
  obtain ⟨parts, hparts, hnormals⟩ := forall₂_through
    (Q := fun text factors => Written (intersectionMember text) [factors])
    (R := fun factors e => (TypeExpr.compound .intersection factors).normal = e.normal) h (by
      intro text _ e hrenders
      obtain ⟨summands, hw, hnormal⟩ := hrenders.written
      obtain ⟨factors, hw, hfactors⟩ := hw.intersectionMember
      exact ⟨factors, hw, hfactors.trans hnormal⟩)
  exact ⟨parts, List.forall₂_map_left_iff.mpr hparts, hnormals⟩

theorem union {texts : List String} {es : List TypeExpr} (h : List.Forall₂ Renders texts es)
    (hne : texts ≠ []) : Renders (Text.join " | " texts) (.compound .union es) := by
  obtain ⟨parts, hparts, hnormals⟩ := exists_summands h
  refine ⟨⟨parts.flatten, .join_bar hparts hne, ?_⟩, ?_, proper_compound h hne .union⟩
  · rw [ofSummands, List.map_flatten]
    exact TypeExpr.normal_flatten hnormals
  · intro hnull
    rw [null_compound h hnull]
    rfl

theorem intersection {texts : List String} {es : List TypeExpr}
    (h : List.Forall₂ Renders texts es) (hne : texts ≠ []) :
    Renders (Text.join " & " (texts.map intersectionMember)) (.compound .intersection es) := by
  obtain ⟨parts, hparts, hnormals⟩ := exists_factors h
  have hne' : texts.map intersectionMember ≠ [] := by
    rw [Ne, List.map_eq_nil_iff]
    exact hne
  refine ⟨⟨[parts.flatten], .join_ampersand hparts hne', ?_⟩, ?_,
    proper_compound h hne .intersection⟩
  · rw [normal_ofSummands_single]
    exact TypeExpr.normal_flatten hnormals
  · intro hnull
    rw [null_compound h hnull]
    decide

theorem withNull (h : Renders text e) (nullable : Given Bool) :
    Renders (withNull nullable text) (orNull nullable e) := by
  unfold orNull
  split
  · rename_i heq
    rw [ApiBindings.withNull, h.null heq]
    rw [h.null heq] at h
    exact h
  · rename_i hne
    have htext : (text != "null") = true := by
      rw [bne_iff_ne, Ne, h.eq_null_iff]
      exact hne
    have htexts : List.Forall₂ Renders [text, "null"] [e, .keyword .null] :=
      .cons h (.cons null_text .nil)
    have hunion := union htexts (List.cons_ne_nil _ _)
    rw [Text.join_cons_cons, Text.join_singleton, String.append_assoc] at hunion
    rw [ApiBindings.withNull, htext]
    exact hunion
  · rename_i given _ _ hne _
    have hfalse : given.getD false = false := by
      cases given with
      | value b =>
        cases b with
        | false => rfl
        | true => exact (hne rfl).elim
      | _ => rfl
    rw [ApiBindings.withNull, hfalse]
    exact h

/-! ## enumerations and records -/

theorem enumLiterals {values : List Value}
    (h : (values.filterMap enumLiteral?).length = values.length) :
    ∃ es, literals? values = some es ∧
      List.Forall₂ Renders (values.filterMap enumLiteral?) es := by
  induction values with
  | nil => exact ⟨[], rfl, .nil⟩
  | cons value rest ih =>
    have hle := List.length_filterMap_le enumLiteral? rest
    cases hvalue : enumLiteral? value with
    | none =>
      rw [List.filterMap_cons_none hvalue, List.length_cons] at h
      omega
    | some text =>
      rw [List.filterMap_cons_some hvalue] at h ⊢
      obtain ⟨es, hes, hrenders⟩ := ih (Nat.succ.inj h)
      obtain ⟨s, rfl, rfl⟩ := enumLiteral?_eq_some hvalue
      refine ⟨.literal s :: es, ?_, .cons (literal s) hrenders⟩
      rw [literals?, hes, Option.map_some]

theorem enumType {values : List Value} {site : Option String} {text : String}
    (hne : values ≠ []) (h : enumType values site = .ok text) :
    ∃ es, literals? values = some es ∧ Renders text (.compound .union es) := by
  rw [enumType_eq] at h
  split at h
  · rename_i hlen
    cases h
    obtain ⟨es, hes, hrenders⟩ := enumLiterals hlen
    refine ⟨es, hes, union hrenders ?_⟩
    intro hnil
    rw [hnil] at hlen
    exact hne (List.length_eq_zero_iff.mp hlen.symm)
  · cases h

theorem stringType {plain : Bool} {enum : Given (List Value)} {site : Option String}
    {text : String} (h : stringType plain enum site = .ok text) :
    ∃ e, (if plain then stringMeaning enum else some (.keyword .string)) = some e ∧
      Renders text e := by
  unfold ApiBindings.stringType at h
  split at h
  · obtain ⟨es, hes, hrenders⟩ := enumType (List.cons_ne_nil _ _) h
    refine ⟨.compound .union es, ?_, hrenders⟩
    rw [if_pos rfl, stringMeaning, hes, Option.map_some]
  · rename_i hother
    cases h
    refine ⟨.keyword .string, ?_, keyword (k := .string) (by decide)⟩
    cases plain with
    | false => rfl
    | true =>
      rw [if_pos rfl]
      unfold stringMeaning
      split
      · exact (hother _ _ rfl rfl).elim
      · rfl

theorem recordField (h : Renders text e) (name : String) (required : Bool) :
    RendersField (recordField name required text) (Key.ofName name, !required, e) := by
  obtain ⟨summands, hw, hnormal⟩ := h.written
  exact ⟨ofSummands summands, hw.recordField name required, hnormal⟩

theorem recordOf {texts : List String} {fields : List (Key × Bool × TypeExpr)}
    (h : List.Forall₂ RendersField texts fields) : Renders (recordOf texts) (.record fields) := by
  have hread : ∃ read, List.Forall₂ WrittenField texts read ∧ List.Forall₂ (fun f g =>
      f.1 = g.1 ∧ f.2.1 = g.2.1 ∧ f.2.2.normal = g.2.2.normal) read fields := by
    refine forall₂_through h ?_
    intro text _ field hfield
    obtain ⟨e, hw, hnormal⟩ := hfield
    exact ⟨(field.1, field.2.1, e), hw, rfl, rfl, hnormal⟩
  obtain ⟨read, hws, hnormals⟩ := hread
  refine of_factor (.recordOf hws) ?_ ?_ ?_
  · rw [TypeExpr.normal, TypeExpr.normal, TypeExpr.normalFields_eq hnormals]
  · intro _ _ h
    cases h
  · intro h
    cases h

end Renders

/-! ## objects -/

/-- the texts of the members of a composition that is filled -/
theorem ne_nil_of_isFilled {members : Given (List SchemaNode)} {texts : List String}
    {es : List TypeExpr} (hfilled : Schema.isFilled members = true)
    (h : membersMeaning members = some es) (hrenders : List.Forall₂ Renders texts es) :
    texts ≠ [] := by
  obtain ⟨node, rest, rfl⟩ := exists_of_isFilled hfilled
  have hne := ne_nil_of_membersMeaning h
  rintro rfl
  cases hrenders
  exact hne rfl

theorem objectType_renders {s : Schema} {site : Option String}
    (hmembers : ∀ texts, membersType "allOf" s.allOf site = .ok texts →
      ∃ es, membersMeaning s.allOf = some es ∧ List.Forall₂ Renders texts es)
    (hunion : ∀ texts, membersType "oneOf" s.oneOf site = .ok texts →
      ∃ es, membersMeaning s.oneOf = some es ∧ List.Forall₂ Renders texts es)
    (hfields : ∀ texts, propertiesType (s.required.getD []) s.properties site = .ok texts →
      ∃ fields, propertiesMeaning (s.required.getD []) s.properties = some fields ∧
        List.Forall₂ RendersField texts fields)
    (hvalue : ∀ text, additionalType s.additional site = .ok text →
      ∃ e, additionalMeaning s.additional = some e ∧ Renders text e)
    {text : String} (h : bodyType .object s.shape s site = .ok text) :
    ∃ e, bodyMeaning .object s = some e ∧ Renders text e := by
  rw [bodyMeaning_object]
  obtain ⟨type, enum, items, properties, required, additional, allOf, oneOf, nullable, extras⟩ := s
  unfold Schema.shape at h
  split at h
  · rename_i hfilled
    obtain ⟨texts, htexts, rfl⟩ := map_eq_ok.mp h
    obtain ⟨es, hes, hrenders⟩ := hmembers texts htexts
    refine ⟨.compound .intersection es, ?_,
      .intersection hrenders (ne_nil_of_isFilled hfilled hes hrenders)⟩
    rw [if_pos hfilled, hes, Option.map_some]
  · rename_i hallOf
    rw [if_neg hallOf]
    split at h
    · rename_i hfilled
      obtain ⟨texts, htexts, rfl⟩ := map_eq_ok.mp h
      obtain ⟨es, hes, hrenders⟩ := hunion texts htexts
      refine ⟨.compound .union es, ?_,
        .union hrenders (ne_nil_of_isFilled hfilled hes hrenders)⟩
      rw [if_pos hfilled, hes, Option.map_some]
    · rename_i honeOf
      rw [if_neg honeOf]
      split at h
      · rename_i hgiven
        obtain ⟨texts, htexts, rfl⟩ := map_eq_ok.mp h
        obtain ⟨fields, hread, hrenders⟩ := hfields texts htexts
        refine ⟨.record fields, ?_, .recordOf hrenders⟩
        rw [if_pos hgiven, hread, Option.map_some]
      · rename_i hproperties
        rw [if_neg hproperties]
        split at h
        · rename_i hopen
          obtain ⟨value, hread, rfl⟩ := map_eq_ok.mp h
          obtain ⟨e, he, hrenders⟩ := hvalue value hread
          refine ⟨.index e, ?_, hrenders.indexOf⟩
          rw [if_pos hopen, he, Option.map_some]
        · rename_i hclosed
          rw [if_neg hclosed]
          split at h
          · rename_i htype
            cases h
            refine ⟨.record [], ?_, .recordOf .nil⟩
            rw [looseMeaning, if_pos htype]
          · rename_i htype
            cases h
            refine ⟨.keyword .any, ?_, .keyword (k := .any) (by decide)⟩
            rw [looseMeaning, if_neg htype]

/-! ## every text of the synthesis -/

mutual

theorem nodeType_renders : ∀ (node : SchemaNode) {site : Option String} {text : String},
    nodeType node site = .ok text → ∃ e, meaning node = some e ∧ Renders text e
  | .ref target, site, text, h => by
    have hname := isTypeName_reference h
    rw [nodeType, referenceType] at h
    rw [meaning]
    cases hsplit : splitReference? target with
    | none =>
      rw [hsplit] at h
      cases h
    | some named =>
      rw [hsplit] at h
      have htext : pascal named.1 ++ named.2 = text := Except.ok.inj h
      subst htext
      exact ⟨_, rfl, .named hname⟩
  | .inline schema, site, text, h => by
    rw [nodeType] at h
    obtain ⟨body, hbody, rfl⟩ := map_eq_ok.mp h
    obtain ⟨e, he, hrenders⟩ := bodyType_renders schema schema.kind hbody
    refine ⟨orNull schema.nullable e, ?_, hrenders.withNull schema.nullable⟩
    rw [meaning, he, Option.map_some]
termination_by structural node => node

theorem bodyType_renders : ∀ (schema : Schema) (kind : Kind) {site : Option String}
    {text : String}, bodyType kind schema.shape schema site = .ok text →
      ∃ e, bodyMeaning kind schema = some e ∧ Renders text e
  | ⟨type, enum, items, properties, required, additional, allOf, oneOf, nullable, extras⟩,
    kind, site, text, h => by
    cases kind with
    | null =>
      cases h
      exact ⟨.keyword .null, rfl, .null_text⟩
    | number =>
      cases h
      exact ⟨.keyword .number, rfl, .keyword (k := .number) (by decide)⟩
    | boolean =>
      cases h
      exact ⟨.keyword .boolean, rfl, .keyword (k := .boolean) (by decide)⟩
    | string =>
      obtain ⟨e, he, hrenders⟩ := Renders.stringType h
      refine ⟨e, ?_, hrenders⟩
      simp only [beq_iff_eq] at he
      exact he
    | array => exact itemsType_renders items h
    | object =>
      exact objectType_renders (membersType_renders "allOf" allOf site)
        (membersType_renders "oneOf" oneOf site)
        (propertiesType_renders (required.getD []) properties site)
        (additionalType_renders additional site) h
termination_by structural schema => schema

theorem itemsType_renders : ∀ (items : Given SchemaNode) {site : Option String} {text : String},
    itemsType items site = .ok text → ∃ e, itemsMeaning items = some e ∧ Renders text e
  | .value node, site, text, h => by
    rw [itemsType] at h
    obtain ⟨item, hitem, rfl⟩ := map_eq_ok.mp h
    obtain ⟨e, he, hrenders⟩ := nodeType_renders node hitem
    refine ⟨.array e, ?_, hrenders.arrayOf⟩
    rw [itemsMeaning, he, Option.map_some]
  | .absent, _, _, h => by cases h
  | .null, _, _, h => by cases h
termination_by structural items => items

theorem membersType_renders : ∀ (composition : String) (members : Given (List SchemaNode))
    (site : Option String) (texts : List String),
    membersType composition members site = .ok texts →
      ∃ es, membersMeaning members = some es ∧ List.Forall₂ Renders texts es
  | composition, .value members, site, texts, h =>
    memberTypes_renders composition 0 members site texts h
  | _, .absent, _, _, h => by
    cases h
    exact ⟨[], rfl, .nil⟩
  | _, .null, _, _, h => by
    cases h
    exact ⟨[], rfl, .nil⟩
termination_by structural _ members => members

theorem memberTypes_renders : ∀ (composition : String) (index : Nat) (members : List SchemaNode)
    (site : Option String) (texts : List String),
    memberTypes composition index members site = .ok texts →
      ∃ es, memberMeanings members = some es ∧ List.Forall₂ Renders texts es
  | _, _, [], _, _, h => by
    cases h
    exact ⟨[], rfl, .nil⟩
  | composition, index, node :: rest, site, texts, h => by
    rw [memberTypes] at h
    obtain ⟨text, htext, h⟩ := bind_eq_ok.mp h
    obtain ⟨more, hmore, h⟩ := bind_eq_ok.mp h
    cases h
    obtain ⟨e, he, hrenders⟩ := nodeType_renders node htext
    obtain ⟨es, hes, hrest⟩ := memberTypes_renders composition (index + 1) rest site more hmore
    refine ⟨e :: es, ?_, .cons hrenders hrest⟩
    rw [memberMeanings, he, hes]
    rfl
termination_by structural _ _ members => members

theorem propertiesType_renders : ∀ (required : List String)
    (properties : Given (List (String × SchemaNode))) (site : Option String)
    (texts : List String), propertiesType required properties site = .ok texts →
      ∃ fields, propertiesMeaning required properties = some fields ∧
        List.Forall₂ RendersField texts fields
  | required, .value properties, site, texts, h =>
    fieldTypes_renders required properties site texts h
  | _, .absent, _, _, h => by
    cases h
    exact ⟨[], rfl, .nil⟩
  | _, .null, _, _, h => by
    cases h
    exact ⟨[], rfl, .nil⟩
termination_by structural _ properties => properties

theorem fieldTypes_renders : ∀ (required : List String) (properties : List (String × SchemaNode))
    (site : Option String) (texts : List String),
    fieldTypes required properties site = .ok texts →
      ∃ fields, fieldMeanings required properties = some fields ∧
        List.Forall₂ RendersField texts fields
  | _, [], _, _, h => by
    cases h
    exact ⟨[], rfl, .nil⟩
  | required, (name, node) :: rest, site, texts, h => by
    rw [fieldTypes] at h
    obtain ⟨text, htext, h⟩ := bind_eq_ok.mp h
    obtain ⟨more, hmore, h⟩ := bind_eq_ok.mp h
    cases h
    obtain ⟨e, he, hrenders⟩ := nodeType_renders node htext
    obtain ⟨fields, hfields, hrest⟩ := fieldTypes_renders required rest site more hmore
    refine ⟨(Key.ofName name, !required.contains name, e) :: fields, ?_,
      .cons (hrenders.recordField name (required.contains name)) hrest⟩
    rw [fieldMeanings, he, hfields]
    rfl
termination_by structural _ properties => properties

theorem additionalType_renders : ∀ (additional : Given (Additional SchemaNode))
    (site : Option String) (text : String), additionalType additional site = .ok text →
      ∃ e, additionalMeaning additional = some e ∧ Renders text e
  | .value (.node node), site, text, h => nodeType_renders node h
  | .value (.flag _), _, _, h => by
    cases h
    exact ⟨_, rfl, .keyword (k := .any) (by decide)⟩
  | .absent, _, _, h => by
    cases h
    exact ⟨_, rfl, .keyword (k := .any) (by decide)⟩
  | .null, _, _, h => by
    cases h
    exact ⟨_, rfl, .keyword (k := .any) (by decide)⟩
termination_by structural additional => additional

end

/-- **The text of a schema has exactly one reading, the type that the schema denotes.** -/
theorem nodeType_reads_unique {node : SchemaNode} {site : Option String} {text : String}
    (h : nodeType node site = .ok text) :
    ∃ d e, meaning node = some d ∧ Reads text e ∧ (∀ e', Reads text e' → e' = e) ∧
      e.normal = d.normal := by
  obtain ⟨d, hd, hrenders⟩ := nodeType_renders node h
  obtain ⟨summands, hw, hnormal⟩ := hrenders.written
  exact ⟨d, ofSummands summands, hd, hw.reads, fun e' he' => reads_unique he' hw.reads, hnormal⟩

/-- the literals of an enumeration may hold operators and brackets -/
def bracketedLiterals : Schema :=
  { Schema.empty with
    type := .value "string", enum := .value [.atom (.string "a|b"), .atom (.string "c\"&[")] }

/-- an array of a union that may be null, one member of which is an intersection -/
def nestedArray : SchemaNode :=
  .inline { Schema.empty with
    type := .value "array"
    items := .value (.inline { Schema.empty with
      nullable := .value true
      oneOf := .value [.inline bracketedLiterals,
        .inline { Schema.empty with
          allOf := .value [.ref "#/components/schemas/pet",
            .inline { Schema.empty with
              oneOf := .value [.inline { Schema.empty with type := .value "integer" },
                .inline { Schema.empty with type := .value "boolean" }] }] }] }) }

def nestedArrayText : String :=
  "(\"a|b\" | \"c\\\"&[\" | Pet & (number | boolean) | null)[]"

theorem nodeType_nestedArray_reads_unique : nodeType nestedArray none = .ok nestedArrayText ∧
    ∃ d e, meaning nestedArray = some d ∧ Reads nestedArrayText e ∧
      (∀ e', Reads nestedArrayText e' → e' = e) ∧ e.normal = d.normal := by
  have h : nodeType nestedArray none = .ok nestedArrayText :=
    toOption_eq_some.mp (by decide +kernel)
  exact ⟨h, nodeType_reads_unique h⟩

end ApiBindings
