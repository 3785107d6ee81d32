import ApiBindings.Proofs.Swagger.DirectReading
import ApiBindings.Proofs.Swagger.LostParameters
import ApiBindings.Proofs.Swagger.Places

/-!
# Which parameters survive the conversion

A parameter applies to an operation if it is listed there or in its path item, as it stands or by a
pointer to a component.  Whatever is no part of a body stays in its list.  Bodies and parts of forms
survive only in the list of the operation itself: from the list of a path item they vanish without
a warning, so that the document is converted as if they had never been there.

* `plain_survives`, `body_survives`, `form_survives`   what is kept of a list;
* `StandsFor`                                          the parameter behind an entry of a list;
* `parameters_survive`                                 all of it, for every document.
-/

namespace ApiBindings.Swagger

open Conversion

/-! ## parameters behind pointers -/

/-- the parameter that an entry of a list stands for, with the name of the component if it is a
pointer to one -/
inductive StandsFor (document : Value) : Value → Option String → Fields → Prop
  | inline {fields : Fields} (hinline : fields.present? "$ref" = none) :
      StandsFor document (.map fields) none fields
  | pointer {fields parameter : Fields} {name : String}
      (href : fields.present? "$ref" = some (.text ("#/parameters/" ++ name)))
      (hname : '/' ∉ name.toList)
      (hfound : document.at? ["parameters", name] = some (.map parameter)) :
      StandsFor document (.map fields) (some name) parameter

/-! ## lists -/

theorem listOrNone_of_mem {items : List Value} {v : Value} (h : v ∈ items) :
    listOrNone items = some (.list items) := by
  cases items with
  | nil => cases h
  | cons w rest => rfl

/-- what a plain parameter leaves: itself, or the pointer to the component that it becomes -/
def PlainKept (out : Value) (listed : List Value) (origin : Option String) (parameter : Fields) :
    Prop :=
  match origin with
  | none => ∃ kept ∈ listed, Survives parameter kept
  | some name => Value.object [("$ref", .text ("#/components/parameters/" ++ name))] ∈ listed ∧
      ∃ kept, out.at? ["components", "parameters", name] = some kept ∧ Survives parameter kept

/-- every parameter of a list that is no part of a body stays in the list at this place -/
def PlainSurvive (document out : Value) (place : List String) (holder : Fields) : Prop :=
  ∀ entry ∈ parameterList holder, ∀ origin parameter, StandsFor document entry origin parameter →
    hasText parameter "in" "body" = false →
    (origin = none → hasText parameter "in" "formData" = false) →
    ∃ listed, out.at? (place ++ ["parameters"]) = some (.list listed) ∧
      PlainKept out listed origin parameter

variable {document : Fields} {out : Value} {consumes : Option Value}

theorem mem_listed_of_mem {converted : List ConvertedParameter} {v : Value}
    (h : .listed v ∈ converted) : v ∈ converted.filterMap ConvertedParameter.listed? :=
  List.mem_filterMap.mpr ⟨_, h, rfl⟩

/-- **A parameter that is no part of a body stays in its list.** -/
theorem plain_survives (h : DocumentTo document out)
    (hkeyed : (Value.map document).isKeyed = true) {place : List String} {holder : Fields}
    (hlist : ∀ v, holder.get? "parameters" = some v → ∃ consumes converted,
      List.Forall₂ (ConvertsTo (bodyNames document) consumes) (itemsOf v) converted ∧
        out.at? (place ++ ["parameters"]) =
          listOrNone (converted.filterMap ConvertedParameter.listed?)) :
    PlainSurvive (.map document) out place holder := by
  intro entry hentry origin parameter hstands hbody hform
  obtain ⟨v, hv, hitems⟩ := exists_list_of_mem hentry
  obtain ⟨consumes, converted, hall, hout⟩ := hlist v hv
  rw [hitems] at hentry
  obtain ⟨c, hc, hto⟩ := exists_mem_of_forall₂ hall hentry
  cases hstands with
  | inline hinline =>
    rw [hto.of_plain hinline hbody (hform rfl)] at hc
    have hkept := mem_listed_of_mem hc
    exact ⟨_, hout.trans (listOrNone_of_mem hkept), _, hkept, plainFields_survives parameter⟩
  | @pointer fields _ name href hname hfound =>
    have hpointer := isBodyPointer_parameter hkeyed hname hfound
    rw [hbody] at hpointer
    rw [hto.of_pointer href, convertPointer_eq, hpointer, if_neg Bool.false_ne_true,
      movePointer_naming.parameter] at hc
    have hkept := mem_listed_of_mem hc
    exact ⟨_, hout.trans (listOrNone_of_mem hkept), hkept, _,
      (componentsFound h hkeyed).parameter name parameter hfound hbody,
      plainFields_survives parameter⟩

/-! ## bodies -/

/-- what a body leaves: a body made of it, or the pointer to the component that it becomes -/
def BodyKept (document : Fields) (out : Value) (operation : Fields) (body : Value)
    (origin : Option String) (parameter : Fields) : Prop :=
  match origin with
  | none => BodyOf parameter (consumedTypes (settingOf document) operation) body
  | some name => body = .object [("$ref", .text ("#/components/requestBodies/" ++ name))] ∧
      ∃ component, out.at? ["components", "requestBodies", name] = some component ∧
        BodyOf parameter (document.get? "consumes") component

/-- the last body in the list of an operation is its body, unless another one follows the list -/
def BodySurvives (document : Fields) (out : Value) (place : List String) (operation : Fields) :
    Prop :=
  ∀ earlier entry later, parameterList operation = earlier ++ entry :: later →
    (∀ v ∈ later, role (bodyNames document) v ≠ .body) →
    (behindParameters operation).has "requestBody" = false →
    ∀ origin parameter, StandsFor (.map document) entry origin parameter →
      hasText parameter "in" "body" = true →
      ∃ body, out.at? (place ++ ["requestBody"]) = some body ∧
        BodyKept document out operation body origin parameter

/-- without a body in the list, a part of a form is a property of the body; of parts with one name
the last one -/
def FormSurvives (document : Fields) (out : Value) (place : List String) (operation : Fields) :
    Prop :=
  ∀ earlier (parameter : Fields) later,
    parameterList operation = earlier ++ .map parameter :: later →
    role (bodyNames document) (.map parameter) = .formPart →
    (∀ v ∈ parameterList operation, role (bodyNames document) v ≠ .body) →
    (behindParameters operation).has "requestBody" = false →
    ∀ name, parameter.get? "name" = some (.text name) →
      (∀ other : Fields, .map other ∈ later → role (bodyNames document) (.map other) = .formPart →
        other.get? "name" ≠ some (.text name)) →
      ∃ mediaType ∈ [multipart, urlEncoded],
        out.at? (place ++ ["requestBody", "content", mediaType, "schema", "properties", name]) =
          some (valueSchema parameter)

/-- **The last body of a list is the body of the operation.** -/
theorem body_survives (h : DocumentTo document out)
    (hkeyed : (Value.map document).isKeyed = true) {place : List String} {operation : Fields}
    {result : Value} (hplace : out.at? place = some result)
    (hresult : OperationTo (settingOf document) operation result)
    (hkeys : operation.Distinct) : BodySurvives document out place operation := by
  intro earlier entry later hsplit hlater hbehind origin parameter hstands hin
  obtain ⟨c, hto, hchild⟩ := hresult.last_body hkeys hsplit hlater hbehind
  -- whatever body the entry becomes is the one that is found
  have hlast : ∀ b, c = .body b → out.at? (place ++ ["requestBody"]) = some b := by
    intro b hb
    rw [Value.at?_of_at? hplace, Value.at?_singleton, hchild b hb]
  cases hstands with
  | inline hinline =>
    obtain ⟨b, rfl, hof⟩ := hto.of_body hinline hin
    exact ⟨b, hlast b rfl, hof⟩
  | @pointer fields _ name href hname hfound =>
    have hpointer : isBodyPointer (settingOf document).bodies ("#/parameters/" ++ name) = true :=
      (isBodyPointer_parameter hkeyed hname hfound).trans hin
    have hc := hto.of_pointer href
    rw [convertPointer_eq, if_pos hpointer, pointerName_parameter hname] at hc
    exact ⟨_, hlast _ hc, rfl, (componentsFound h hkeyed).body name parameter hfound hin⟩

/-! ## forms -/

/-- the last of several entries with one key is the one that is found -/
theorem get?_ofEntries_append {before after : List (Atom × Value)} {name : String} {v : Value}
    (h : Lacks after name) :
    (Fields.ofEntries (before ++ (.string name, v) :: after)).get? name = some v := by
  rw [Fields.get?_ofEntries, List.reverse_append, List.reverse_cons, List.append_assoc, get?_append,
    h.reverse.get?, Option.none_or, List.singleton_append, Fields.get?_cons, if_pos rfl]

/-- the property of the last part with a name -/
theorem FormOf.property {parts : List Fields} {body : Value} (h : FormOf parts body)
    {before after : List Fields} {parameter : Fields}
    (hparts : parts = before ++ parameter :: after) {name : String}
    (hname : parameter.get? "name" = some (.text name))
    (hlast : ∀ other ∈ after, other.get? "name" ≠ some (.text name)) :
    ∃ mediaType ∈ [multipart, urlEncoded],
      body.at? ["content", mediaType, "schema", "properties", name] =
        some (valueSchema parameter) := by
  obtain ⟨mediaType, properties, hmedia, hall, rfl⟩ := h.exists_properties
  rw [hparts] at hall
  obtain ⟨before', ⟨key, v⟩, after', rfl, _, ⟨hkey, hv⟩, hafter⟩ := forall₂_split hall
  rw [hname] at hkey
  cases hkey
  have hlacks : Lacks after' name := by
    intro entry hentry heq
    obtain ⟨other, hother, hown, _⟩ := exists_mem_of_forall₂ hafter.flip hentry
    rw [heq] at hown
    exact hlast other hother hown
  have hproperty : (Fields.ofEntries (before' ++ (.string name, v) :: after')).get? name = some v :=
    get?_ofEntries_append hlacks
  refine ⟨mediaType, hmedia, ?_⟩
  have hform : (formSchema parts (before' ++ (.string name, v) :: after')).at?
      ["properties", name] = some v := by
    rw [Value.at?, formSchema, Value.child?_object]
    show Value.at? [name] _ = _
    rw [Value.at?_singleton]
    exact hproperty
  rw [Value.at?, Value.child?_object, List.lookup_cons_self, Option.bind_some, Value.at?,
    Value.child?_object, List.lookup_cons_self, Option.bind_some, Value.at?, Value.child?_object,
    List.lookup_cons_self, Option.bind_some]
  exact hform.trans (congrArg some hv)

/-- **A part of a form is a property of the body, if there is no other body.** -/
theorem form_survives {place : List String} {operation : Fields} {result : Value}
    (hplace : out.at? place = some result)
    (hresult : OperationTo (settingOf document) operation result)
    (hkeys : operation.Distinct) : FormSurvives document out place operation := by
  intro earlier parameter later hsplit hrole hnone hbehind name hname hlast
  obtain ⟨v, hv, hitems⟩ := exists_list_of_mem (hsplit ▸ List.mem_append_right _ List.mem_cons_self :
    .map parameter ∈ parameterList operation)
  obtain ⟨converted, body, hall, hleaves, _, hbody⟩ := hresult.parameters hkeys hv
  rw [← hitems] at hall
  have hnobody := filterMap_body_eq_nil hall hnone
  rw [hsplit] at hall
  obtain ⟨before', c, after', rfl, h₁, hto, h₂⟩ := forall₂_split hall
  cases hto.of_formPart hrole
  have hparts : (before' ++ .formPart parameter :: after').filterMap ConvertedParameter.formPart? =
      before'.filterMap ConvertedParameter.formPart? ++
        parameter :: after'.filterMap ConvertedParameter.formPart? := by
    rw [List.filterMap_append]
    rfl
  cases hleaves with
  | last hlast =>
    rw [hnobody] at hlast
    cases hlast
  | none _ hempty =>
    rw [hparts] at hempty
    exact (List.append_ne_nil_of_right_ne_nil _ (List.cons_ne_nil _ _) hempty).elim
  | form _ _ hform =>
    have hother : ∀ other ∈ after'.filterMap ConvertedParameter.formPart?,
        other.get? "name" ≠ some (.text name) := by
      intro other hmem
      obtain ⟨hitem, hpart⟩ := mem_formPart h₂ hmem
      exact hlast other hitem hpart
    obtain ⟨mediaType, hmedia, hproperty⟩ := hform.property hparts hname hother
    refine ⟨mediaType, hmedia, ?_⟩
    rw [Value.at?_of_at? hplace, Value.at?, hbody hbehind _ rfl]
    exact hproperty

/-! ## documents -/

/-- what survives of all parameters of a document -/
structure ParametersSurvive (document : Fields) (out : Value) : Prop where
  inherited : ∀ path item, Text.startsWith "x-" path = false →
    (Value.map document).at? ["paths", path] = some (.map item) →
    PlainSurvive (.map document) out ["paths", path] item
  own : ∀ path method operation, Text.startsWith "x-" path = false → method ∈ methods →
    (Value.map document).at? ["paths", path, method] = some (.map operation) →
    PlainSurvive (.map document) out ["paths", path, method] operation ∧
      BodySurvives document out ["paths", path, method] operation ∧
      FormSurvives document out ["paths", path, method] operation

/-- **Which parameters survive.**  A parameter that is no part of a body stays in its list, and so
does its component.  In the list of an operation the last body is the body of the operation, and
without a body the parts of a form are its properties.  Everything else, and with it every body that
is inherited from a path item, gets lost without a warning: the document is converted as if it had
never been there. -/
theorem parameters_survive {document : Fields} {out : Value} {warnings : List String}
    (hkeyed : (Value.map document).isKeyed = true)
    (h : convert (.map document) = .ok ⟨out, warnings⟩) :
    ParametersSurvive document out ∧
      convert (withoutLost (.map document)) = .ok ⟨out, warnings⟩ := by
  obtain ⟨own, hown, hto⟩ := convert_gives ⟨warnings, h⟩
  cases hown
  refine ⟨⟨?_, ?_⟩, convert_withoutLost h⟩
  · intro path item hpath hitem
    obtain ⟨result, hresult, hitemTo⟩ := hto.item hkeyed hpath hitem
    have hkeys := Value.distinct_of_isKeyed (Value.everywhere_at hkeyed hitem)
    refine plain_survives hto hkeyed fun v hv => ?_
    obtain ⟨converted, hall, hout⟩ := hitemTo.parameters hkeys hv
    refine ⟨_, converted, hall, ?_⟩
    rw [Value.at?_of_at? hresult, Value.at?_singleton, hout]
  · intro path method operation hpath hmethod hoperation
    obtain ⟨item, hitem, hget⟩ := Value.at?_snoc ["paths", path] hoperation
    obtain ⟨result, hresult, hitemTo⟩ := hto.item hkeyed hpath hitem
    have hkeys := Value.distinct_of_isKeyed (Value.everywhere_at hkeyed hitem)
    obtain ⟨resultOp, hresultOp, hoperationTo⟩ := hitemTo.operation hkeys hmethod hget
    have hplace : out.at? ["paths", path, method] = some resultOp := by
      rw [← hresultOp, ← Value.at?_singleton, ← Value.at?_of_at? hresult]
      rfl
    have hopKeys := Value.distinct_of_isKeyed (Value.everywhere_at hkeyed hoperation)
    refine ⟨?_, body_survives hto hkeyed hplace hoperationTo hopKeys,
      form_survives hplace hoperationTo hopKeys⟩
    refine plain_survives hto hkeyed fun v hv => ?_
    obtain ⟨converted, body, hall, _, hout, _⟩ := hoperationTo.parameters hopKeys hv
    refine ⟨_, converted, hall, ?_⟩
    rw [Value.at?_of_at? hplace, Value.at?_singleton, hout]

/-- a path item with a body for all its operations -/
def sharedBody : Fields :=
  [(.string "swagger", .text "2.0"), (.string "host", .text "pets.example"),
    (.string "parameters", .object [("Limit", .object [("in", .text "query"),
      ("name", .text "limit"), ("type", .text "integer")])]),
    (.string "paths", .object [("/pets", .object [
      ("parameters", .list [.object [("$ref", .text "#/parameters/Limit")],
        .object [("in", .text "body"), ("name", .text "pet"),
          ("schema", .object [("type", .text "object")])]]),
      ("post", .object [("operationId", .text "addPet"), ("parameters", .list [
        .object [("in", .text "header"), ("name", .text "trace"), ("type", .text "string")]])])])])]

/-- the parameters survive, but the shared body does not -/
theorem parameters_survive_sharedBody : (Value.map sharedBody).isKeyed = true ∧ ∃ out,
    convert (.map sharedBody) = .ok ⟨out, []⟩ ∧
      (ParametersSurvive sharedBody out ∧
        convert (withoutLost (.map sharedBody)) = .ok ⟨out, []⟩) ∧
      out.at? ["paths", "/pets", "post", "requestBody"] = none := by
  have hkeyed : (Value.map sharedBody).isKeyed = true := by decide +kernel
  refine ⟨hkeyed, _, rfl, parameters_survive hkeyed rfl, rfl⟩

end ApiBindings.Swagger
