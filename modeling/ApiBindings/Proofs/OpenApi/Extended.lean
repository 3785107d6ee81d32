import ApiBindings.Proofs.OpenApi.Carries

/-!
# Documents with more keys

A typed object is read from a few keys of a mapping.  `Model.fields` lists these keys and what each
of them is read as, and `Extended place v v'` says that `v'` is `v` with keys that are not listed,
inserted into any of the mappings that are read as objects, however deep they stand.

* `FieldsExtended.lookup`      a listed key has the value that it had, or an extended one;
* `FieldsExtended.has_ref`     a mapping that is a pointer stays one, and no other becomes one;
* `Extended.object_cases`, `Extended.referable_cases`, `Extended.listOf_cases`,
  `Extended.mapOf_cases`       what stands at a place of each kind.
-/

namespace ApiBindings

/-! ## objects and places -/

/-- the typed objects of a document; a payload is a response or a request body -/
inductive Model where
  | document
  | info
  | components
  | pathItem
  | operation
  | parameter
  | payload
  | mediaType
  | schema
  | pointer

/-- what a value is read as: nothing that is typed, an object, an object or a pointer to one, and
the lists and mappings of those -/
inductive Place where
  | plain
  | object (m : Model)
  | referable (m : Model)
  | listOf (p : Place)
  | mapOf (p : Place)

namespace Model

/-- the keys of an object, second spellings included, and the places of their values -/
def fields : Model → List (String × Place)
  | document =>
    [("openapi", .plain), ("info", .object info), ("servers", .plain),
      ("paths", .mapOf (.object pathItem)), ("components", .object components)]
  | info => [("title", .plain), ("version", .plain)]
  | components =>
    [("schemas", .mapOf (.referable schema)), ("responses", .mapOf (.referable payload)),
      ("parameters", .mapOf (.referable parameter)),
      ("requestBodies", .mapOf (.referable payload))]
  | pathItem =>
    ("parameters", .listOf (.referable parameter)) ::
      Method.all.map fun m => (m.name, .object operation)
  | operation =>
    [("operationId", .plain), ("summary", .plain), ("description", .plain),
      ("parameters", .listOf (.referable parameter)), ("requestBody", .referable payload),
      ("responses", .mapOf (.referable payload))]
  | parameter =>
    [("name", .plain), ("in", .plain), ("in_", .plain), ("description", .plain),
      ("required", .plain), ("schema", .referable schema), ("schema_", .referable schema)]
  | payload => [("content", .mapOf (.object mediaType))]
  | mediaType => [("schema", .referable schema), ("schema_", .referable schema)]
  | schema =>
    [("type", .plain), ("enum", .plain), ("items", .referable schema),
      ("properties", .mapOf (.referable schema)), ("required", .plain),
      ("additionalProperties", .referable schema), ("allOf", .listOf (.referable schema)),
      ("oneOf", .listOf (.referable schema)), ("nullable", .plain)]
  | pointer => [("$ref", .plain), ("ref", .plain)]

def keys (m : Model) : List String := m.fields.map (·.1)

def place (m : Model) (key : String) : Place := (m.fields.lookup key).getD .plain

end Model

/-! ## inserted keys -/

mutual

/-- the same value, with keys inserted into the objects at this place and below -/
inductive Extended : Place → Value → Value → Prop
  | same (p : Place) (v : Value) : Extended p v v
  | object {m : Model} {fields fields' : Fields} (h : FieldsExtended m fields fields') :
      Extended (.object m) (.map fields) (.map fields')
  | inline {m : Model} {fields fields' : Fields} (href : fields.has "$ref" = false)
      (h : FieldsExtended m fields fields') : Extended (.referable m) (.map fields) (.map fields')
  | pointer {m : Model} {fields fields' : Fields} (href : fields.has "$ref" = true)
      (h : FieldsExtended .pointer fields fields') :
      Extended (.referable m) (.map fields) (.map fields')
  | list {p : Place} {items items' : List Value} (h : ItemsExtended p items items') :
      Extended (.listOf p) (.list items) (.list items')
  | map {p : Place} {fields fields' : Fields} (h : EntriesExtended p fields fields') :
      Extended (.mapOf p) (.map fields) (.map fields')

/-- the entries of an object, and among them new ones under keys that are not the object's own and
make no pointer of it -/
inductive FieldsExtended : Model → Fields → Fields → Prop
  | same (m : Model) (fields : Fields) : FieldsExtended m fields fields
  | kept {m : Model} (key : String) {v v' : Value} {fields fields' : Fields}
      (hv : Extended (m.place key) v v') (h : FieldsExtended m fields fields') :
      FieldsExtended m ((.string key, v) :: fields) ((.string key, v') :: fields')
  | inserted {m : Model} (key : String) (v : Value) {fields fields' : Fields}
      (hkey : key ∉ m.keys) (href : key ≠ "$ref") (h : FieldsExtended m fields fields') :
      FieldsExtended m fields ((.string key, v) :: fields')

/-- the items of a list, one by one -/
inductive ItemsExtended : Place → List Value → List Value → Prop
  | nil (p : Place) : ItemsExtended p [] []
  | cons {p : Place} {v v' : Value} {items items' : List Value} (hv : Extended p v v')
      (h : ItemsExtended p items items') : ItemsExtended p (v :: items) (v' :: items')

/-- the entries of a mapping that is no object: no key is new -/
inductive EntriesExtended : Place → Fields → Fields → Prop
  | nil (p : Place) : EntriesExtended p [] []
  | cons {p : Place} (key : Atom) {v v' : Value} {fields fields' : Fields} (hv : Extended p v v')
      (h : EntriesExtended p fields fields') :
      EntriesExtended p ((key, v) :: fields) ((key, v') :: fields')

end

/-! ## keys of an object -/

namespace FieldsExtended

variable {m : Model} {p : Place} {name : String}

theorem get?_inserted {key : String} (v : Value) (fields : Fields) (h : key ≠ name) :
    Fields.get? ((.string key, v) :: fields) name = fields.get? name := by
  have hne : Atom.string key ≠ .string name := fun heq => h (Atom.string.inj heq)
  rw [Fields.get?_cons, if_neg hne]

theorem mem_keys (hname : m.fields.lookup name = some p) : name ∈ m.keys := by
  obtain ⟨before, after, hfields, _⟩ := List.lookup_eq_some_iff.mp hname
  rw [Model.keys, hfields, List.map_append, List.map_cons]
  exact List.mem_append_right _ List.mem_cons_self

theorem lookup (hname : m.fields.lookup name = some p) : ∀ {fields fields' : Fields},
    FieldsExtended m fields fields' →
      Option.Rel (Extended p) (fields.get? name) (fields'.get? name)
  | fields, _, .same _ _ => by
    cases fields.get? name with
    | none => exact .none
    | some v => exact .some (.same p v)
  | _, _, .kept key hv h => by
    rw [Fields.get?_cons, Fields.get?_cons]
    by_cases hkey : Atom.string key = .string name
    · rw [if_pos hkey, if_pos hkey]
      cases hkey
      rw [Model.place, hname] at hv
      exact .some hv
    · rw [if_neg hkey, if_neg hkey]
      exact h.lookup hname
  | _, _, .inserted key v hkey _ h => by
    have hne : key ≠ name := by
      rintro rfl
      exact hkey (mem_keys hname)
    rw [get?_inserted v _ hne]
    exact h.lookup hname

theorem get?_eq (hname : m.fields.lookup name = some .plain) {fields fields' : Fields}
    (h : FieldsExtended m fields fields') : fields'.get? name = fields.get? name := by
  have hrel := h.lookup hname
  revert hrel
  generalize fields.get? name = found
  generalize fields'.get? name = found'
  intro hrel
  cases hrel with
  | none => rfl
  | some hv =>
    cases hv
    rfl

/-- A mapping that is a pointer stays one, and no other becomes one. -/
theorem has_ref : ∀ {fields fields' : Fields}, FieldsExtended m fields fields' →
    fields'.has "$ref" = fields.has "$ref"
  | _, _, .same _ _ => rfl
  | _, _, .kept key hv h => by
    have hrest := h.has_ref
    unfold Fields.has at hrest ⊢
    rw [Fields.get?_cons, Fields.get?_cons]
    by_cases hkey : Atom.string key = .string "$ref"
    · rw [if_pos hkey, if_pos hkey]
      rfl
    · rw [if_neg hkey, if_neg hkey, hrest]
  | _, _, .inserted _ v _ href h => by
    have hrest := h.has_ref
    unfold Fields.has at hrest ⊢
    rw [get?_inserted v _ href, hrest]

theorem textKeys : ∀ {fields fields' : Fields}, FieldsExtended m fields fields' →
    fields.TextKeys → fields'.TextKeys
  | _, _, .same _ _, htext => htext
  | _, _, .kept key _ h, htext => by
    have hrest := h.textKeys fun entry hentry => htext entry (List.mem_cons_of_mem _ hentry)
    intro entry hentry
    rcases List.mem_cons.mp hentry with rfl | hentry
    · exact ⟨key, rfl⟩
    · exact hrest entry hentry
  | _, _, .inserted key _ _ _ h, htext => by
    have hrest := h.textKeys htext
    intro entry hentry
    rcases List.mem_cons.mp hentry with rfl | hentry
    · exact ⟨key, rfl⟩
    · exact hrest entry hentry

/-- The listed keys stand in the order in which they stood. -/
theorem filterMap_keys {α : Type} {f : Atom → Option α}
    (hf : ∀ key, key ∉ m.keys → f (.string key) = none) : ∀ {fields fields' : Fields},
    FieldsExtended m fields fields' →
      (fields'.filterMap fun entry => f entry.1) = fields.filterMap fun entry => f entry.1
  | _, _, .same _ _ => rfl
  | _, _, .kept _ _ h => by
    rw [List.filterMap_cons, List.filterMap_cons, h.filterMap_keys hf]
  | _, _, .inserted _ _ hkey _ h => by
    rw [List.filterMap_cons, hf _ hkey]
    exact h.filterMap_keys hf

end FieldsExtended

/-! ## what stands at a place -/

theorem ItemsExtended.forall₂ {p : Place} : ∀ {items items' : List Value},
    ItemsExtended p items items' → List.Forall₂ (Extended p) items items'
  | _, _, .nil _ => .nil
  | _, _, .cons hv h => .cons hv h.forall₂

def EntryExtended (p : Place) (entry entry' : Atom × Value) : Prop :=
  entry.1 = entry'.1 ∧ Extended p entry.2 entry'.2

theorem EntriesExtended.forall₂ {p : Place} : ∀ {fields fields' : Fields},
    EntriesExtended p fields fields' → List.Forall₂ (EntryExtended p) fields fields'
  | _, _, .nil _ => .nil
  | _, _, .cons _ hv h => .cons ⟨rfl, hv⟩ h.forall₂

namespace Extended

variable {m : Model} {p : Place} {v v' : Value}

theorem object_cases (h : Extended (.object m) v v') :
    (v' = v ∧ ∀ fields, v ≠ .map fields) ∨
      ∃ fields fields', v = .map fields ∧ v' = .map fields' ∧ FieldsExtended m fields fields' := by
  cases h with
  | object h => exact .inr ⟨_, _, rfl, rfl, h⟩
  | same =>
    cases v with
    | map fields => exact .inr ⟨fields, fields, rfl, rfl, .same m fields⟩
    | _ => exact .inl ⟨rfl, fun _ heq => by cases heq⟩

theorem referable_cases (h : Extended (.referable m) v v') :
    (v' = v ∧ ∀ fields, v ≠ .map fields) ∨
      ∃ fields fields', v = .map fields ∧ v' = .map fields' ∧
        ((Fields.has fields "$ref" = false ∧ FieldsExtended m fields fields') ∨
          (Fields.has fields "$ref" = true ∧ FieldsExtended .pointer fields fields')) := by
  cases h with
  | inline href h => exact .inr ⟨_, _, rfl, rfl, .inl ⟨href, h⟩⟩
  | pointer href h => exact .inr ⟨_, _, rfl, rfl, .inr ⟨href, h⟩⟩
  | same =>
    cases v with
    | map fields =>
      refine .inr ⟨fields, fields, rfl, rfl, ?_⟩
      cases Fields.has fields "$ref" with
      | false => exact .inl ⟨rfl, .same m fields⟩
      | true => exact .inr ⟨rfl, .same .pointer fields⟩
    | _ => exact .inl ⟨rfl, fun _ heq => by cases heq⟩

theorem listOf_cases (h : Extended (.listOf p) v v') :
    (v' = v ∧ ∀ items, v ≠ .list items) ∨
      ∃ items items', v = .list items ∧ v' = .list items' ∧
        List.Forall₂ (Extended p) items items' := by
  cases h with
  | list h => exact .inr ⟨_, _, rfl, rfl, h.forall₂⟩
  | same =>
    cases v with
    | list items =>
      exact .inr ⟨items, items, rfl, rfl, List.forall₂_same.mpr fun v _ => .same p v⟩
    | _ => exact .inl ⟨rfl, fun _ heq => by cases heq⟩

theorem mapOf_cases (h : Extended (.mapOf p) v v') :
    (v' = v ∧ ∀ fields, v ≠ .map fields) ∨
      ∃ fields fields', v = .map fields ∧ v' = .map fields' ∧
        List.Forall₂ (EntryExtended p) fields fields' := by
  cases h with
  | map h => exact .inr ⟨_, _, rfl, rfl, h.forall₂⟩
  | same =>
    cases v with
    | map fields =>
      exact .inr ⟨fields, fields, rfl, rfl,
        List.forall₂_same.mpr fun entry _ => ⟨rfl, .same p entry.2⟩⟩
    | _ => exact .inl ⟨rfl, fun _ heq => by cases heq⟩

/-- A null is not extended, and nothing else becomes one. -/
theorem null_iff (h : Extended p v v') : v = .null ↔ v' = .null := by
  cases h <;> simp

end Extended

end ApiBindings
