import ApiBindings.Proofs.OpenApi.ReadSchema
import ApiBindings.Proofs.Synthesis.Enumeration

/-!
# Schemas that have the same type

Two schemas have the same type at every site if their parts have.  The synthesis looks at the keys
of a schema only, so it is enough to compare them one by one.

* `Failure.Alike`         failures of one kind, at one place;
* `SameOutcome`           one result, or failures that are alike;
* `SchemaNode.Agree`      nodes whose types are the same at every site;
* `Schema.Agree.inline`   schemas that agree in every key have the same type.
-/

namespace ApiBindings

/-- the same failure, but for the values that its message shows -/
inductive Failure.Alike : Failure → Failure → Prop
  | refl (f : Failure) : Alike f f
  | mixedEnum (values values' : List Value) (site : Option String) :
      Alike (.mixedEnum values site) (.mixedEnum values' site)

/-- one result, or failures that are alike -/
inductive SameOutcome {α : Type} : Except Failure α → Except Failure α → Prop
  | ok (a : α) : SameOutcome (.ok a) (.ok a)
  | error {f g : Failure} (h : f.Alike g) : SameOutcome (.error f) (.error g)

namespace SameOutcome

variable {α β : Type} {x y : Except Failure α}

theorem refl (x : Except Failure α) : SameOutcome x x := by
  cases x with
  | ok a => exact .ok a
  | error f => exact .error (.refl f)

theorem map (h : SameOutcome x y) (f : α → β) : SameOutcome (x.map f) (y.map f) := by
  cases h with
  | ok a => exact .ok (f a)
  | error hfg => exact .error hfg

theorem bind {f g : α → Except Failure β} (h : SameOutcome x y)
    (hfg : ∀ a, SameOutcome (f a) (g a)) : SameOutcome (x >>= f) (y >>= g) := by
  cases h with
  | ok a => exact hfg a
  | error hfail => exact .error hfail

theorem eq_ok {a : α} (h : SameOutcome x y) (hx : x = .ok a) : y = .ok a := by
  subst hx
  cases h
  rfl

theorem eq_error {f : Failure} (h : SameOutcome x y) (hx : x = .error f) :
    ∃ g, y = .error g ∧ f.Alike g := by
  subst hx
  cases h with
  | error hfg => exact ⟨_, rfl, hfg⟩

end SameOutcome

/-! ## enumerations -/

def SameLiteral (v w : Value) : Prop := enumLiteral? v = enumLiteral? w

theorem filterMap_enumLiteral? {values values' : List Value}
    (h : List.Forall₂ SameLiteral values values') :
    values.filterMap enumLiteral? = values'.filterMap enumLiteral? := by
  induction h with
  | nil => rfl
  | cons hvalue _ ih => rw [List.filterMap_cons, List.filterMap_cons, hvalue, ih]

theorem enumType_same {values values' : List Value} (h : List.Forall₂ SameLiteral values values')
    (site : Option String) : SameOutcome (enumType values site) (enumType values' site) := by
  rw [enumType_eq, enumType_eq, filterMap_enumLiteral? h, h.length_eq]
  split
  · exact .ok _
  · exact .error (.mixedEnum values values' site)

theorem stringType_same {enum enum' : Given (List Value)}
    (h : Given.Rel (List.Forall₂ SameLiteral) enum enum') (plain : Bool) (site : Option String) :
    SameOutcome (stringType plain enum site) (stringType plain enum' site) := by
  cases plain with
  | false => exact .ok "string"
  | true =>
    cases h with
    | absent => exact .ok "string"
    | null => exact .ok "string"
    | value hvalues =>
      cases hvalues with
      | nil => exact .ok "string"
      | cons hvalue hrest => exact enumType_same (.cons hvalue hrest) site

/-! ## nodes -/

/-- nodes whose types are the same at every site -/
def SchemaNode.Agree (n n' : SchemaNode) : Prop :=
  ∀ site, SameOutcome (nodeType n site) (nodeType n' site)

/-- the same flag, or related schemas for the properties that are not listed -/
inductive Additional.Rel {α β : Type} (R : α → β → Prop) : Additional α → Additional β → Prop
  | flag (allowed : Bool) : Rel R (.flag allowed) (.flag allowed)
  | node {a : α} {b : β} (h : R a b) : Rel R (.node a) (.node b)

/-- the same in every key that the synthesis looks at -/
structure Schema.Agree (s s' : Schema) : Prop where
  type : s.type = s'.type
  enum : Given.Rel (List.Forall₂ SameLiteral) s.enum s'.enum
  items : Given.Rel SchemaNode.Agree s.items s'.items
  properties : Given.Rel (List.Forall₂ (EntryRel SchemaNode.Agree)) s.properties s'.properties
  required : s.required = s'.required
  additional : Given.Rel (Additional.Rel SchemaNode.Agree) s.additional s'.additional
  allOf : Given.Rel (List.Forall₂ SchemaNode.Agree) s.allOf s'.allOf
  oneOf : Given.Rel (List.Forall₂ SchemaNode.Agree) s.oneOf s'.oneOf
  nullable : s.nullable = s'.nullable

/-! ## parts of a schema -/

theorem itemsType_same {items items' : Given SchemaNode}
    (h : Given.Rel SchemaNode.Agree items items') (site : Option String) :
    SameOutcome (itemsType items site) (itemsType items' site) := by
  cases h with
  | absent => exact .refl _
  | null => exact .refl _
  | value hnode => exact (hnode _).map arrayOf

theorem memberTypes_same {members members' : List SchemaNode}
    (h : List.Forall₂ SchemaNode.Agree members members') (composition : String) (index : Nat)
    (site : Option String) :
    SameOutcome (memberTypes composition index members site)
      (memberTypes composition index members' site) := by
  induction h generalizing index with
  | nil => exact .ok []
  | cons hnode _ ih =>
    rw [memberTypes, memberTypes]
    exact (hnode _).bind fun type => (ih (index + 1)).bind fun types => .ok (type :: types)

theorem membersType_same {members members' : Given (List SchemaNode)}
    (h : Given.Rel (List.Forall₂ SchemaNode.Agree) members members') (composition : String)
    (site : Option String) :
    SameOutcome (membersType composition members site)
      (membersType composition members' site) := by
  cases h with
  | absent => exact .ok []
  | null => exact .ok []
  | value hmembers => exact memberTypes_same hmembers composition 0 site

theorem fieldTypes_same {properties properties' : List (String × SchemaNode)}
    (h : List.Forall₂ (EntryRel SchemaNode.Agree) properties properties')
    (required : List String) (site : Option String) :
    SameOutcome (fieldTypes required properties site)
      (fieldTypes required properties' site) := by
  induction h with
  | nil => exact .ok []
  | @cons x y _ _ hentry _ ih =>
    obtain ⟨name, node⟩ := x
    obtain ⟨name', node'⟩ := y
    obtain ⟨hname, hnode⟩ := hentry
    cases hname
    rw [fieldTypes, fieldTypes]
    exact (hnode _).bind fun type => ih.bind fun fields =>
      .ok (recordField name (required.contains name) type :: fields)

theorem propertiesType_same {properties properties' : Given (List (String × SchemaNode))}
    (h : Given.Rel (List.Forall₂ (EntryRel SchemaNode.Agree)) properties properties')
    (required : List String) (site : Option String) :
    SameOutcome (propertiesType required properties site)
      (propertiesType required properties' site) := by
  cases h with
  | absent => exact .ok []
  | null => exact .ok []
  | value hproperties => exact fieldTypes_same hproperties required site

theorem additionalType_same {additional additional' : Given (Additional SchemaNode)}
    (h : Given.Rel (Additional.Rel SchemaNode.Agree) additional additional')
    (site : Option String) :
    SameOutcome (additionalType additional site) (additionalType additional' site) := by
  cases h with
  | absent => exact .ok "any"
  | null => exact .ok "any"
  | value hother =>
    cases hother with
    | flag allowed => exact .ok "any"
    | node hnode => exact hnode _

/-! ## schemas -/

namespace Schema

theorem isFilled_congr {α β : Type} {R : α → β → Prop} {x : Given (List α)} {y : Given (List β)}
    (h : Given.Rel (List.Forall₂ R) x y) : isFilled x = isFilled y := by
  cases h with
  | absent => rfl
  | null => rfl
  | value hlist => cases hlist <;> rfl

theorem isOpen_congr {α β : Type} {R : α → β → Prop} {x : Given (Additional α)}
    {y : Given (Additional β)} (h : Given.Rel (Additional.Rel R) x y) : isOpen x = isOpen y := by
  cases h with
  | absent => rfl
  | null => rfl
  | value hother => cases hother <;> rfl

namespace Agree

variable {s s' : Schema}

theorem typeWord (h : s.Agree s') : s.typeWord = s'.typeWord := by
  rw [Schema.typeWord, Schema.typeWord, h.type]

theorem kind (h : s.Agree s') : s.kind = s'.kind := by
  rw [Schema.kind, Schema.kind, h.typeWord]

theorem shape (h : s.Agree s') : s.shape = s'.shape := by
  rw [Schema.shape, Schema.shape, isFilled_congr h.allOf, isFilled_congr h.oneOf,
    h.properties.isSome_eq, isOpen_congr h.additional, h.typeWord]

theorem body (h : s.Agree s') (kind : Kind) (shape : Shape) (site : Option String) :
    SameOutcome (bodyType kind shape s site) (bodyType kind shape s' site) := by
  obtain ⟨htype, henum, hitems, hproperties, hrequired, hadditional, hallOf, honeOf, -⟩ := h
  cases s
  cases s'
  cases htype
  cases hrequired
  cases kind with
  | string => exact stringType_same henum _ site
  | array => exact itemsType_same hitems site
  | object =>
    cases shape with
    | allOf => exact (membersType_same hallOf "allOf" site).map _
    | oneOf => exact (membersType_same honeOf "oneOf" site).map _
    | properties => exact (propertiesType_same hproperties _ site).map _
    | additionalProperties => exact (additionalType_same hadditional site).map _
    | _ => exact .ok _
  | _ => exact .ok _

theorem inline (h : s.Agree s') : SchemaNode.Agree (.inline s) (.inline s') := by
  intro site
  rw [nodeType, nodeType, h.kind, h.shape, h.nullable]
  exact (h.body s'.kind s'.shape site).map _

end Agree

end Schema

end ApiBindings
