import ApiBindings.Proofs.Synthesis.PayloadType
import ApiBindings.Proofs.TypeText.ObjectLiteral
import ApiBindings.Proofs.TypeText.Rendering
import ApiBindings.Source.File
import ApiBindings.Synthesis.ComponentDeclarations

/-!
# Which components become interfaces

The form of a declaration is decided on the text of its type.  What it comes to is a rule on the
schemas themselves: a schema becomes an interface if it describes objects by their properties alone
and is not nullable.  A response or a request body becomes one if its type is one object literal.

* `nodeType_snug`                   no blanks stand around the type of a schema;
* `Schema.DescribesObject`          the rule for schemas;
* `isRecordLiteral_nodeType`        it decides on the text, if the schema may be an interface at all;
* `declarations_interface_iff`      both rules for all declarations of components.
-/

namespace ApiBindings

open TypeScript (Declaration IsObjectLiteral Snug Written isRecordLiteral)

/-! ## no blanks around types -/

theorem snug_enumType {values : List Value} {site : Option String} {text : String}
    (hne : values ≠ []) (h : enumType values site = .ok text) : Snug text := by
  rw [enumType_eq] at h
  split at h
  · rename_i hlen
    cases h
    refine .join " | " ?_ ?_
    · intro t ht
      obtain ⟨value, _, hvalue⟩ := List.mem_filterMap.mp ht
      obtain ⟨s, _, rfl⟩ := enumLiteral?_eq_some hvalue
      exact .quoted s
    · intro hnil
      rw [hnil] at hlen
      exact hne (List.length_eq_zero_iff.mp hlen.symm)
  · cases h

theorem snug_word {text : String} (hne : text ≠ "")
    (h : text.toList.all (fun c => !TypeScript.isGap c) = true) : Snug text :=
  .of_chars hne fun c hc => by simpa using List.all_eq_true.mp h c hc

theorem snug_stringType {plain : Bool} {enum : Given (List Value)} {site : Option String}
    {text : String} (h : stringType plain enum site = .ok text) : Snug text := by
  unfold stringType at h
  split at h
  · exact snug_enumType (List.cons_ne_nil _ _) h
  · cases h
    exact snug_word (by decide) (by decide)

theorem snug_arrayOf {item : String} (h : Snug item) : Snug (arrayOf item) := by
  unfold arrayOf
  split
  · exact .of_ends ⟨'(', rfl, by decide⟩ item ⟨']', rfl, by decide⟩
  · exact h.append ⟨']', rfl, by decide⟩

theorem snug_intersectionMember {member : String} (h : Snug member) :
    Snug (intersectionMember member) := by
  unfold intersectionMember
  split
  · exact .of_ends ⟨'(', rfl, by decide⟩ member ⟨')', rfl, by decide⟩
  · exact h

theorem snug_recordOf (fields : List String) : Snug (recordOf fields) :=
  .of_ends ⟨'{', rfl, by decide⟩ _ ⟨'}', rfl, by decide⟩

theorem snug_indexOf (valueType : String) : Snug (indexOf valueType) :=
  .of_ends ⟨'{', rfl, by decide⟩ _ ⟨'}', rfl, by decide⟩

theorem snug_withNull {text : String} (h : Snug text) (nullable : Given Bool) :
    Snug (withNull nullable text) := by
  unfold withNull
  split
  · exact h.append ⟨'l', rfl, by decide⟩
  · exact h

theorem ne_nil_of_membersType {composition : String} {members : Given (List SchemaNode)}
    {site : Option String} {texts : List String} (hfilled : Schema.isFilled members = true)
    (h : membersType composition members site = .ok texts) : texts ≠ [] := by
  obtain ⟨node, rest, rfl⟩ := exists_of_isFilled hfilled
  rw [membersType, memberTypes] at h
  obtain ⟨text, _, h⟩ := bind_eq_ok.mp h
  obtain ⟨more, _, h⟩ := bind_eq_ok.mp h
  cases h
  exact List.cons_ne_nil _ _

/-! ## how the type of an object comes about -/

theorem bodyType_object_cases {shape : Shape} {s : Schema} {site : Option String} {text : String}
    (h : bodyType .object shape s site = .ok text) :
    (shape = .allOf ∧ ∃ texts, membersType "allOf" s.allOf site = .ok texts ∧
        Text.join " & " (texts.map intersectionMember) = text) ∨
      (shape = .oneOf ∧ ∃ texts, membersType "oneOf" s.oneOf site = .ok texts ∧
        Text.join " | " texts = text) ∨
      (shape = .properties ∧
        ∃ fields, propertiesType (s.required.getD []) s.properties site = .ok fields ∧
          recordOf fields = text) ∨
      (shape = .additionalProperties ∧
        ∃ value, additionalType s.additional site = .ok value ∧ indexOf value = text) ∨
      (shape = .empty ∧ recordOf [] = text) ∨ (shape = .unknown ∧ "any" = text) := by
  obtain ⟨type, enum, items, properties, required, additional, allOf, oneOf, nullable, extras⟩ := s
  cases shape with
  | allOf => exact .inl ⟨rfl, map_eq_ok.mp h⟩
  | oneOf => exact .inr (.inl ⟨rfl, map_eq_ok.mp h⟩)
  | properties => exact .inr (.inr (.inl ⟨rfl, map_eq_ok.mp h⟩))
  | additionalProperties => exact .inr (.inr (.inr (.inl ⟨rfl, map_eq_ok.mp h⟩)))
  | empty => exact .inr (.inr (.inr (.inr (.inl ⟨rfl, Except.ok.inj h⟩))))
  | unknown => exact .inr (.inr (.inr (.inr (.inr ⟨rfl, Except.ok.inj h⟩))))

theorem isFilled_of_shape_allOf {s : Schema} (h : s.shape = .allOf) :
    Schema.isFilled s.allOf = true := by
  by_contra hempty
  rw [Schema.shape, if_neg hempty] at h
  split_ifs at h

theorem isFilled_of_shape_oneOf {s : Schema} (h : s.shape = .oneOf) :
    Schema.isFilled s.oneOf = true := by
  by_contra hempty
  rw [Schema.shape, if_neg hempty] at h
  split_ifs at h

theorem snug_objectType {s : Schema} {site : Option String}
    (hallOf : ∀ texts, membersType "allOf" s.allOf site = .ok texts → ∀ t ∈ texts, Snug t)
    (honeOf : ∀ texts, membersType "oneOf" s.oneOf site = .ok texts → ∀ t ∈ texts, Snug t)
    {text : String} (h : bodyType .object s.shape s site = .ok text) : Snug text := by
  rcases bodyType_object_cases h with ⟨hshape, texts, htexts, rfl⟩ | ⟨hshape, texts, htexts, rfl⟩ |
    ⟨_, fields, _, rfl⟩ | ⟨_, value, _, rfl⟩ | ⟨_, rfl⟩ | ⟨_, rfl⟩
  · have hne := ne_nil_of_membersType (isFilled_of_shape_allOf hshape) htexts
    refine .join " & " (fun t ht => ?_) (mt List.map_eq_nil_iff.mp hne)
    obtain ⟨member, hmember, rfl⟩ := List.mem_map.mp ht
    exact snug_intersectionMember (hallOf texts htexts member hmember)
  · have hne := ne_nil_of_membersType (isFilled_of_shape_oneOf hshape) htexts
    exact .join " | " (honeOf texts htexts) hne
  · exact snug_recordOf fields
  · exact snug_indexOf value
  · exact snug_recordOf []
  · exact snug_word (by decide) (by decide)

mutual

/-- No blanks stand around the type of a schema. -/
theorem nodeType_snug : ∀ (node : SchemaNode) {site : Option String} {text : String},
    nodeType node site = .ok text → Snug text
  | .ref _, _, _, h => .of_isTypeName (TypeScript.isTypeName_reference h)
  | .inline schema, _, _, h => by
    rw [nodeType] at h
    obtain ⟨body, hbody, rfl⟩ := map_eq_ok.mp h
    exact snug_withNull (bodyType_snug schema schema.kind hbody) schema.nullable
termination_by structural node => node

theorem bodyType_snug : ∀ (schema : Schema) (kind : Kind) {site : Option String} {text : String},
    bodyType kind schema.shape schema site = .ok text → Snug text
  | ⟨type, enum, items, properties, required, additional, allOf, oneOf, nullable, extras⟩,
    kind, site, text, h => by
    cases kind with
    | null =>
      cases h
      exact snug_word (by decide) (by decide)
    | number =>
      cases h
      exact snug_word (by decide) (by decide)
    | boolean =>
      cases h
      exact snug_word (by decide) (by decide)
    | string => exact snug_stringType h
    | array => exact itemsType_snug items h
    | object =>
      exact snug_objectType (membersType_snug "allOf" allOf site)
        (membersType_snug "oneOf" oneOf site) h
termination_by structural schema => schema

theorem itemsType_snug : ∀ (items : Given SchemaNode) {site : Option String} {text : String},
    itemsType items site = .ok text → Snug text
  | .value node, _, _, h => by
    rw [itemsType] at h
    obtain ⟨item, hitem, rfl⟩ := map_eq_ok.mp h
    exact snug_arrayOf (nodeType_snug node hitem)
  | .absent, _, _, h => by cases h
  | .null, _, _, h => by cases h
termination_by structural items => items

theorem membersType_snug : ∀ (composition : String) (members : Given (List SchemaNode))
    (site : Option String) (texts : List String),
    membersType composition members site = .ok texts → ∀ t ∈ texts, Snug t
  | composition, .value members, site, texts, h =>
    memberTypes_snug composition 0 members site texts h
  | _, .absent, _, _, h => by
    cases h
    exact List.forall_mem_nil _
  | _, .null, _, _, h => by
    cases h
    exact List.forall_mem_nil _
termination_by structural _ members => members

theorem memberTypes_snug : ∀ (composition : String) (index : Nat) (members : List SchemaNode)
    (site : Option String) (texts : List String),
    memberTypes composition index members site = .ok texts → ∀ t ∈ texts, Snug t
  | _, _, [], _, _, h => by
    cases h
    exact List.forall_mem_nil _
  | composition, index, node :: rest, site, _, h => by
    rw [memberTypes] at h
    obtain ⟨text, htext, h⟩ := bind_eq_ok.mp h
    obtain ⟨more, hmore, h⟩ := bind_eq_ok.mp h
    cases h
    exact List.forall_mem_cons.mpr ⟨nodeType_snug node htext,
      memberTypes_snug composition (index + 1) rest site more hmore⟩
termination_by structural _ _ members => members

end

/-! ## schemas that describe objects -/

/-- A schema that describes objects by their properties alone: it has no other type than that of
objects, is neither composed nor nullable, and says which properties there are, what the other
properties are like, or just that it is of objects. -/
structure Schema.DescribesObject (s : Schema) : Prop where
  type : s.type.getD "" = "" ∨ s.typeWord = "object"
  notNullable : s.nullable ≠ .value true
  noAllOf : s.allOf.getD [] = []
  noOneOf : s.oneOf.getD [] = []
  said : (∃ properties, s.properties = .value properties) ∨
    (∃ additional, s.additional = .value additional ∧ additional ≠ .flag false) ∨
    s.typeWord = "object"

/-- a schema, not a pointer, that describes objects by their properties alone -/
def DescribesObject : SchemaNode → Prop
  | .ref _ => False
  | .inline schema => schema.DescribesObject

namespace Schema

variable {s : Schema}

theorem typeWord_eq_empty_iff : s.typeWord = "" ↔ s.type.getD "" = "" := by
  show (s.type.getD "").map Char.toLower = "" ↔ _
  simp

theorem isFilled_eq_false_iff {α : Type} {given : Given (List α)} :
    isFilled given = false ↔ given.getD [] = [] := by
  unfold isFilled
  split
  · exact iff_of_false Bool.noConfusion (List.cons_ne_nil _ _)
  · rename_i hother
    refine iff_of_true rfl ?_
    cases given with
    | value members =>
      cases members with
      | nil => rfl
      | cons a rest => exact (hother a rest rfl).elim
    | _ => rfl

theorem isOpen_iff {α : Type} {given : Given (Additional α)} :
    isOpen given = true ↔ ∃ additional, given = .value additional ∧ additional ≠ .flag false := by
  cases given with
  | value additional =>
    cases additional with
    | flag allowed => cases allowed <;> simp [isOpen]
    | node node => simp [isOpen]
  | _ => simp [isOpen]

theorem allowsInterface_iff : s.allowsInterface = true ↔
    (s.type.getD "" = "" ∨ s.typeWord = "object") ∧ s.allOf.getD [] = [] ∧ s.oneOf.getD [] = [] := by
  rw [allowsInterface, Bool.and_eq_true, Bool.and_eq_true, Bool.or_eq_true, beq_iff_eq, beq_iff_eq,
    typeWord_eq_empty_iff, Bool.not_eq_true', Bool.not_eq_true', isFilled_eq_false_iff,
    isFilled_eq_false_iff, and_assoc]

theorem kind_of_allowsInterface (h : s.allowsInterface = true) : s.kind = .object := by
  rw [allowsInterface_iff, ← typeWord_eq_empty_iff] at h
  unfold kind
  rcases h.1 with hword | hword
  · rw [hword]
    decide
  · rw [hword]
    decide

/-- Without a composition the shape is known if the schema says anything of objects. -/
theorem shape_ne_unknown_iff (hallOf : isFilled s.allOf = false)
    (honeOf : isFilled s.oneOf = false) : s.shape ≠ .unknown ↔
      (∃ properties, s.properties = .value properties) ∨
        (∃ additional, s.additional = .value additional ∧ additional ≠ .flag false) ∨
        s.typeWord = "object" := by
  have hproperties : s.properties.toOption.isSome = true ↔
      ∃ properties, s.properties = .value properties := by
    cases s.properties <;> simp
  rw [← hproperties, ← isOpen_iff, shape, hallOf, honeOf, if_neg (by decide), if_neg (by decide)]
  split
  · simp_all
  · split
    · simp_all
    · split <;> simp_all

/-- The rule is that the schema may become an interface, adds no null, and has a known shape. -/
theorem describesObject_iff : s.DescribesObject ↔
    s.allowsInterface = true ∧ s.nullable ≠ .value true ∧ s.shape ≠ .unknown := by
  rw [allowsInterface_iff]
  constructor
  · rintro ⟨htype, hnullable, hallOf, honeOf, hsaid⟩
    have hshape := shape_ne_unknown_iff (isFilled_eq_false_iff.mpr hallOf)
      (isFilled_eq_false_iff.mpr honeOf)
    exact ⟨⟨htype, hallOf, honeOf⟩, hnullable, hshape.mpr hsaid⟩
  · rintro ⟨⟨htype, hallOf, honeOf⟩, hnullable, hknown⟩
    have hshape := shape_ne_unknown_iff (isFilled_eq_false_iff.mpr hallOf)
      (isFilled_eq_false_iff.mpr honeOf)
    exact ⟨htype, hnullable, hallOf, honeOf, hshape.mp hknown⟩

end Schema

/-! ## types of schemas that may become interfaces -/

theorem isRecordLiteral_recordOf {required : List String}
    {properties : Given (List (String × SchemaNode))} {site : Option String} {fields : List String}
    (h : propertiesType required properties site = .ok fields) :
    isRecordLiteral (recordOf fields) = true := by
  obtain ⟨_, _, hrenders⟩ := propertiesType_renders required properties site fields h
  have hfields : ∀ text ∈ fields, ∃ field, TypeScript.WrittenField text field := by
    intro text htext
    obtain ⟨_, e, hwritten, _⟩ := exists_of_forall₂ hrenders text htext
    exact ⟨_, hwritten⟩
  obtain ⟨read, hread⟩ := exists_forall₂ hfields
  have hwritten := Written.recordOf hread
  exact (hwritten.isRecordLiteral_iff (snug_recordOf fields)).mpr ⟨_, rfl, hwritten.reads⟩

theorem isRecordLiteral_indexOf {additional : Given (Additional SchemaNode)} {site : Option String}
    {value : String} (h : additionalType additional site = .ok value) :
    isRecordLiteral (indexOf value) = true := by
  obtain ⟨_, _, hrenders⟩ := additionalType_renders additional site value h
  obtain ⟨_, hvalue, _⟩ := hrenders.written
  have hwritten := hvalue.indexOf
  exact (hwritten.isRecordLiteral_iff (snug_indexOf value)).mpr ⟨_, rfl, hwritten.reads⟩

/-- with null behind it a type has no brace at the end -/
theorem isRecordLiteral_withNull (text : String) :
    isRecordLiteral (withNull (.value true) text) = false := by
  have hlast : (withNull (.value true) text).toList.getLast? = some 'l' := by
    by_cases hnull : text = "null"
    · rw [hnull]
      rfl
    · rw [withNull, if_pos (by simpa [Given.getD] using hnull), String.toList_append]
      exact List.mem_getLast?_append_of_mem_getLast? rfl
  rw [← Bool.not_eq_true, TypeScript.isRecordLiteral_iff, hlast]
  rintro ⟨_, hbrace, _⟩
  cases hbrace

/-- **The marks of a record on the text agree with the rule**, for a schema that may become an
interface. -/
theorem isRecordLiteral_nodeType {s : Schema} {site : Option String} {text : String}
    (hallows : s.allowsInterface = true) (h : nodeType (.inline s) site = .ok text) :
    isRecordLiteral text = true ↔ s.nullable ≠ .value true ∧ s.shape ≠ .unknown := by
  obtain ⟨_, hallOf, honeOf⟩ := Schema.allowsInterface_iff.mp hallows
  rw [nodeType, Schema.kind_of_allowsInterface hallows] at h
  obtain ⟨body, hbody, rfl⟩ := map_eq_ok.mp h
  by_cases hnull : s.nullable = .value true
  · -- the braces may be there, but not at the end
    rw [hnull, isRecordLiteral_withNull]
    simp
  · have htext : withNull s.nullable body = body := by
      cases hn : s.nullable with
      | value b =>
        cases b with
        | true => exact absurd hn hnull
        | false => rfl
      | _ => rfl
    rw [htext]
    rcases bodyType_object_cases hbody with ⟨hshape, _⟩ | ⟨hshape, _⟩ |
      ⟨hshape, fields, hfields, rfl⟩ | ⟨hshape, value, hvalue, rfl⟩ | ⟨hshape, rfl⟩ | ⟨hshape, rfl⟩
    · rw [← Schema.isFilled_eq_false_iff, isFilled_of_shape_allOf hshape] at hallOf
      cases hallOf
    · rw [← Schema.isFilled_eq_false_iff, isFilled_of_shape_oneOf hshape] at honeOf
      cases honeOf
    · simp [isRecordLiteral_recordOf hfields, hnull, hshape]
    · simp [isRecordLiteral_indexOf hvalue, hnull, hshape]
    · have hempty : isRecordLiteral (recordOf []) = true := by decide
      simp [hempty, hnull, hshape]
    · have hany : isRecordLiteral "any" = false := by decide
      simp [hany, hshape]

/-! ## declarations -/

def WrittenAsInterface (d : Declaration) : Prop :=
  Source.declarationText d = "export interface " ++ d.name ++ " " ++ d.expression

theorem writtenAsInterface_iff {d : Declaration} :
    WrittenAsInterface d ↔ d.interface = true := by
  unfold WrittenAsInterface Source.declarationText
  cases d.interface with
  | true => simp
  | false =>
    refine iff_of_false (fun h => ?_) Bool.noConfusion
    have hlist := congrArg String.toList h
    simp only [String.append_assoc, String.toList_append, Bool.false_eq_true, if_false] at hlist
    have htake := congrArg (List.take 8) hlist
    cases htake

/-- the expression of a declared schema is its type -/
theorem schemaDeclaration_eq_ok {name : String} {node : SchemaNode} {d : Declaration}
    (h : schemaDeclaration name node = .ok d) :
    nodeType node (some ("components.schemas." ++ name)) = .ok d.expression ∧
      (WrittenAsInterface d ↔ DescribesObject node) ∧
      (WrittenAsInterface d → IsObjectLiteral d.expression) := by
  obtain ⟨expression, hexpression, rfl⟩ := map_eq_ok.mp h
  obtain ⟨_, _, hrenders⟩ := nodeType_renders node hexpression
  obtain ⟨_, hwritten, _⟩ := hrenders.written
  rw [writtenAsInterface_iff]
  show _ ∧ ((allowsInterface node && isRecordLiteral expression) = true ↔ _) ∧
    ((allowsInterface node && isRecordLiteral expression) = true → _)
  rw [Bool.and_eq_true]
  refine ⟨hexpression, ?_, fun hinterface => hwritten.isObjectLiteral hinterface.2⟩
  cases node with
  | ref target => exact iff_of_false (fun hinterface => by cases hinterface.1) id
  | inline s =>
    show s.allowsInterface = true ∧ _ ↔ s.DescribesObject
    rw [Schema.describesObject_iff]
    exact and_congr_right fun hallows => isRecordLiteral_nodeType hallows hexpression

theorem payloadType_written {label : String} {payload : Option (Referable Payload)} {text : String}
    (h : payloadType label payload = .ok text) :
    (∃ summands, Written text summands) ∧ Snug text := by
  have hvoid : (∃ summands, Written "void" summands) ∧ Snug "void" :=
    ⟨⟨_, .keyword .void⟩, snug_word (by decide) (by decide)⟩
  unfold payloadType at h
  split at h
  · cases h
    exact hvoid
  · have hname := TypeScript.isTypeName_reference h
    exact ⟨⟨_, .named hname⟩, .of_isTypeName hname⟩
  · split at h
    · obtain ⟨_, _, hrenders⟩ := nodeType_renders _ h
      obtain ⟨summands, hwritten, _⟩ := hrenders.written
      exact ⟨⟨summands, hwritten⟩, nodeType_snug _ h⟩
    · cases h
      exact hvoid

theorem payloadDeclaration_eq_ok {suffix name : String} {payload : Referable Payload}
    {d : Declaration} (h : payloadDeclaration suffix name payload = .ok d) :
    payloadUnion [(name, some payload)] = .ok d.expression ∧
      (WrittenAsInterface d ↔ IsObjectLiteral d.expression) := by
  obtain ⟨expression, hexpression, rfl⟩ := map_eq_ok.mp h
  refine ⟨hexpression, ?_⟩
  rw [writtenAsInterface_iff]
  show (true && isRecordLiteral expression) = true ↔ IsObjectLiteral expression
  obtain ⟨⟨_, hwritten⟩, hsnug⟩ := payloadType_written (payloadUnion_singleton.mp hexpression)
  rw [Bool.true_and, hwritten.isRecordLiteral_iff hsnug]

/-- **Which components become interfaces.**  A schema does if and only if it describes objects by
their properties alone, and then its type is one object literal; a response or a request body does
if and only if its type is one object literal. -/
theorem declarations_interface_iff {schemas : List (String × SchemaNode)}
    {suffix : String} {payloads : List (String × Referable Payload)}
    {declared declaredPayloads : List Declaration}
    (hschemas : schemaDeclarations schemas = .ok declared)
    (hpayloads : payloadDeclarations suffix payloads = .ok declaredPayloads) :
    List.Forall₂ (fun entry d =>
        nodeType entry.2 (some ("components.schemas." ++ entry.1)) = .ok d.expression ∧
          (WrittenAsInterface d ↔ DescribesObject entry.2) ∧
          (WrittenAsInterface d → IsObjectLiteral d.expression)) schemas declared ∧
      List.Forall₂ (fun entry d =>
        payloadUnion [(entry.1, some entry.2)] = .ok d.expression ∧
          (WrittenAsInterface d ↔ IsObjectLiteral d.expression)) payloads declaredPayloads :=
  ⟨(schemaDeclarations_eq_ok.mp hschemas).imp fun _ _ => schemaDeclaration_eq_ok,
    (payloadDeclarations_eq_ok.mp hpayloads).imp fun _ _ => payloadDeclaration_eq_ok⟩

/-- an object with one property -/
def numbered : Schema :=
  { Schema.empty with
    properties := .value [("id \x7d", .inline { Schema.empty with type := .value "integer" })] }

/-- two schemas that describe objects, and four whose types are records in part or by composition -/
def petSchemas : List (String × SchemaNode) :=
  [("Pet", .inline { numbered with type := .value "Object" }),
    ("pet-map", .inline { Schema.empty with additional := .value (.flag true) }),
    ("Lost", .inline { numbered with nullable := .value true }),
    ("Copy", .inline { Schema.empty with allOf := .value [.inline numbered] }),
    ("Either", .inline { Schema.empty with oneOf := .value [.inline numbered, .inline numbered] }),
    ("Pets", .inline { Schema.empty with
      type := .value "array", items := .value (.ref "#/components/schemas/Pet") })]

def petDeclarations : List Declaration :=
  [⟨"Pet", "\x7b\"id \x7d\"?: number\x7d", true⟩,
    ⟨"PetMap", "\x7b[key: string]: any\x7d", true⟩,
    ⟨"Lost", "\x7b\"id \x7d\"?: number\x7d | null", false⟩,
    ⟨"Copy", "\x7b\"id \x7d\"?: number\x7d", false⟩,
    ⟨"Either", "\x7b\"id \x7d\"?: number\x7d | \x7b\"id \x7d\"?: number\x7d", false⟩,
    ⟨"Pets", "Pet[]", false⟩]

def petResponses : List (String × Referable Payload) :=
  [("not-found", .inline ⟨.value [("application/json", ⟨.value (.inline numbered), []⟩)], []⟩),
    ("Generic", .ref "#/components/responses/not-found")]

def petResponseDeclarations : List Declaration :=
  [⟨"NotFoundResponse", "\x7b\"id \x7d\"?: number\x7d", true⟩,
    ⟨"GenericResponse", "NotFoundResponse", false⟩]

theorem declarations_pets_interface_iff :
    schemaDeclarations petSchemas = .ok petDeclarations ∧
      payloadDeclarations "Response" petResponses = .ok petResponseDeclarations ∧
      List.Forall₂ (fun entry d =>
          nodeType entry.2 (some ("components.schemas." ++ entry.1)) = .ok d.expression ∧
            (WrittenAsInterface d ↔ DescribesObject entry.2) ∧
            (WrittenAsInterface d → IsObjectLiteral d.expression)) petSchemas petDeclarations ∧
      List.Forall₂ (fun entry d =>
          payloadUnion [(entry.1, some entry.2)] = .ok d.expression ∧
            (WrittenAsInterface d ↔ IsObjectLiteral d.expression))
        petResponses petResponseDeclarations := by
  have hschemas : schemaDeclarations petSchemas = .ok petDeclarations :=
    toOption_eq_some.mp (by decide +kernel)
  have hpayloads : payloadDeclarations "Response" petResponses = .ok petResponseDeclarations :=
    toOption_eq_some.mp (by decide +kernel)
  exact ⟨hschemas, hpayloads, declarations_interface_iff hschemas hpayloads⟩

end ApiBindings
