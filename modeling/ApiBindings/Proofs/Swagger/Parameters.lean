import ApiBindings.Proofs.Document.Lookup
import ApiBindings.Proofs.Pointwise
import ApiBindings.Proofs.Swagger.Steps
import ApiBindings.Swagger.Parameters

/-!
# What parameters become

Every parameter of a list becomes an entry of the new list, a body or a part of a form; the same
decision is made for all of them by `role`.

* `Survives`, `BodyOf`, `FormOf`   what is left of a parameter, a body and a form;
* `ConvertsTo`                     what a single parameter becomes;
* `LeavesBody`                     the body that a list leaves;
* `convertParameters_gives`        what becomes of a whole list.
-/

namespace ApiBindings.Swagger

open Conversion

/-! ## values that count as present -/

theorem orElse_some {v fallback : Value} : Value.orElse (some v) fallback =
    if v.truthy then v else fallback := rfl

theorem asText_eq_ok {v : Value} {s : String} (h : v.asText = .ok s) : v = .text s := by
  unfold Value.asText at h
  split at h
  · cases h
    rfl
  · cases h
  · cases h

theorem entries_eq_ok {v : Value} {fields : Fields} (h : v.entries = .ok fields) :
    v = .map fields := by
  unfold Value.entries at h
  split at h
  · cases h
    rfl
  · cases h

theorem asKey_eq_ok {v : Value} {key : Atom} (h : v.asKey = .ok key) : v = .atom key := by
  unfold Value.asKey at h
  split at h
  · cases h
    rfl
  · cases h

/-! ## plain parameters -/

/-- a parameter that is no part of a body, converted -/
def plainFields (parameter : Fields) : Fields :=
  Fields.insert (.string "schema") (valueSchema parameter)
    (parameter.filter fun entry => !isTextIn valueKeys entry.1 && !isTextIn droppedKeys entry.1)

theorem convertPlain_gives {parameter : Fields} {v : Value}
    (h : (convertPlain parameter).Gives v) : v = .map (plainFields parameter) := by
  unfold convertPlain at h
  split at h
  · split at h
    · exact (gives_pure.mp h).symm
    · obtain ⟨_, _, h⟩ := gives_bind.mp h
      exact (gives_pure.mp h).symm
  · exact (gives_pure.mp h).symm

theorem get?_filter {fields : Fields} {keep : Atom × Value → Bool} {name : String}
    (hkeep : ∀ v, keep (.string name, v) = true) :
    Fields.get? (fields.filter keep) name = Fields.get? fields name := by
  induction fields with
  | nil => rfl
  | cons entry rest ih =>
    obtain ⟨key, v⟩ := entry
    rw [List.filter_cons, Fields.get?_cons]
    by_cases hkey : key = .string name
    · rw [if_pos hkey, if_pos (by rw [hkey]; exact hkeep v), Fields.get?_cons, if_pos hkey]
    · rw [if_neg hkey]
      split
      · rw [Fields.get?_cons, if_neg hkey, ih]
      · exact ih

/-- A plain parameter keeps every key that does not describe its value, and its value gets a schema
made from those that do. -/
structure Survives (parameter : Fields) (kept : Value) : Prop where
  keys : ∀ name, name ≠ "schema" → name ∉ valueKeys → name ∉ droppedKeys →
    kept.child? name = parameter.get? name
  schema : kept.child? "schema" = some (valueSchema parameter)

theorem plainFields_survives (parameter : Fields) :
    Survives parameter (.map (plainFields parameter)) where
  keys := by
    intro name hschema hvalue hdropped
    have hkept : ∀ v : Value, (!isTextIn valueKeys (Atom.string name, v).1 &&
        !isTextIn droppedKeys (Atom.string name, v).1) = true := by
      intro v
      simp [isTextIn, hvalue, hdropped]
    rw [Value.child?, plainFields, Fields.get?_insert,
      if_neg fun h => hschema (Atom.string.inj h).symm, get?_filter hkept]
  schema := by
    rw [Value.child?, plainFields, Fields.get?_insert, if_pos rfl]

/-! ## contents -/

/-- writing entries adds no values of its own -/
theorem mem_ofEntries {entries : List (Atom × Value)} {entry : Atom × Value}
    (h : entry ∈ Fields.ofEntries entries) : ∃ other ∈ entries, other.2 = entry.2 :=
  let ⟨other, hother, hvalue, _⟩ := Fields.exists_of_mem_ofEntries h
  ⟨other, hother, hvalue⟩

/-- the content of a body: the same schema for every media type -/
structure ContentOf (schema mediaTypes content : Value) : Prop where
  exists_keys : ∃ keys : List Atom, mediaTypes.iterated = .ok (keys.map .atom) ∧
    content = .map (Fields.ofEntries (keys.map fun key => (key, .object [("schema", schema)])))

theorem eq_map_atom_of_asKey {values : List Value} {keys : List Atom}
    (h : List.Forall₂ (fun v key => v.asKey = .ok key) values keys) :
    values = keys.map Value.atom := by
  induction h with
  | nil => rfl
  | cons hkey _ ih => rw [asKey_eq_ok hkey, ih, List.map_cons]

theorem contentOf_gives {schema mediaTypes content : Value}
    (h : (contentOf schema mediaTypes).Gives content) : ContentOf schema mediaTypes content := by
  obtain ⟨types, htypes, hrest⟩ := gives_bind.mp h
  obtain ⟨keys, hkeys, hcontent⟩ := gives_bind.mp hrest
  rw [gives_ofExcept] at htypes
  have hatoms : types = keys.map Value.atom :=
    eq_map_atom_of_asKey ((gives_each.mp hkeys).imp fun _ _ hkey => gives_ofExcept.mp hkey)
  exact ⟨keys, hatoms ▸ htypes, (gives_pure.mp hcontent).symm⟩

theorem ContentOf.value_eq {schema mediaTypes : Value} {fields : Fields}
    (h : ContentOf schema mediaTypes (.map fields)) {entry : Atom × Value}
    (hentry : entry ∈ fields) : entry.2 = .object [("schema", schema)] := by
  obtain ⟨keys, _, hcontent⟩ := h.exists_keys
  cases hcontent
  obtain ⟨other, hother, heq⟩ := mem_ofEntries hentry
  obtain ⟨key, _, rfl⟩ := List.mem_map.mp hother
  exact heq.symm

/-! ## bodies -/

def bodySchema (parameter : Fields) : Value :=
  convertSchema (Value.orElse (parameter.get? "schema") (.map []))

/-- a body with its content; its description is kept, and whether it is required -/
structure BodyOf (parameter : Fields) (consumes : Option Value) (body : Value) : Prop where
  exists_fields : ∃ content fields,
    ContentOf (bodySchema parameter) (Value.orElse consumes defaultMediaTypes) content ∧
      body = .object (("content", content) :: fields) ∧
      ∀ entry ∈ fields, entry = ("required", .bool true) ∨
        (entry.1 = "description" ∧ parameter.get? "description" = some entry.2)

theorem convertBody_gives {parameter : Fields} {consumes : Option Value} {body : Value}
    (h : (convertBody parameter consumes).Gives body) : BodyOf parameter consumes body := by
  obtain ⟨content, hcontent, h⟩ := gives_bind.mp h
  rw [gives_pure] at h
  subst h
  refine ⟨content, _, contentOf_gives hcontent, rfl, ?_⟩
  intro entry hentry
  rcases List.mem_append.mp hentry with hentry | hentry
  · right
    split at hentry
    · rename_i v hv
      cases List.mem_singleton.mp hentry
      exact ⟨rfl, (Option.filter_eq_some_iff.mp hv).1⟩
    · cases hentry
  · left
    split at hentry
    · exact List.mem_singleton.mp hentry
    · cases hentry

theorem BodyOf.content {parameter : Fields} {consumes : Option Value} {body : Value}
    (h : BodyOf parameter consumes body) : ∃ content, body.child? "content" = some content ∧
      ContentOf (bodySchema parameter) (Value.orElse consumes defaultMediaTypes) content := by
  obtain ⟨content, fields, hcontent, rfl, _⟩ := h.exists_fields
  exact ⟨content, Value.child?_object _ _, hcontent⟩

/-! ## forms -/

def requiredParts (parts : List Fields) : List Value :=
  parts.filterMap fun p => if (p.present? "required").isSome then p.get? "name" else none

def formSchema (parts : List Fields) (properties : List (Atom × Value)) : Value :=
  .object ([("type", .text "object"), ("properties", .map (Fields.ofEntries properties))] ++
    (if (requiredParts parts).isEmpty then [] else
      [("required", .list (requiredParts parts))]))

structure FormOf (parts : List Fields) (body : Value) : Prop where
  exists_properties : ∃ mediaType properties, mediaType ∈ [multipart, urlEncoded] ∧
    List.Forall₂ (fun p entry => p.get? "name" = some (.atom entry.1) ∧ entry.2 = valueSchema p)
      parts properties ∧
    body = .object [("content", .object [(mediaType, .object [("schema",
      formSchema parts properties)])])]

theorem formMediaType_gives {hasFile : Bool} {consumes : Option Value} {mediaType : String}
    (h : (formMediaType hasFile consumes).Gives mediaType) :
    mediaType ∈ [multipart, urlEncoded] := by
  have hmultipart : ∀ {m : String}, (pure multipart : Conversion String).Gives m →
      m ∈ [multipart, urlEncoded] := by
    intro m hm
    rw [← gives_pure.mp hm]
    exact List.mem_cons_self
  unfold formMediaType at h
  split at h
  · obtain ⟨allowed, _, h⟩ := gives_bind.mp h
    split at h
    · split at h
      · exact hmultipart h
      · obtain ⟨_, _, h⟩ := gives_bind.mp h
        exact hmultipart h
    · exact hmultipart h
  · obtain ⟨allowed, _, h⟩ := gives_bind.mp h
    rw [← gives_pure.mp h]
    cases allowed <;> decide

theorem formProperty_eq_ok {p : Fields} {entry : Atom × Value} (h : formProperty p = .ok entry) :
    p.get? "name" = some (.atom entry.1) ∧ entry.2 = valueSchema p := by
  unfold formProperty formName at h
  cases hname : p.get? "name" with
  | none =>
    rw [hname] at h
    cases h
  | some name =>
    rw [hname] at h
    obtain ⟨key, hkey, rfl⟩ := map_eq_ok.mp h
    rw [asKey_eq_ok hkey]
    exact ⟨rfl, rfl⟩

theorem convertForm_gives {parts : List Fields} {consumes : Option Value} {body : Value}
    (h : (convertForm parts consumes).Gives body) : FormOf parts body := by
  obtain ⟨mediaType, hmedia, h⟩ := gives_bind.mp h
  obtain ⟨properties, hproperties, h⟩ := gives_bind.mp h
  rw [gives_each] at hproperties
  refine ⟨mediaType, properties, formMediaType_gives hmedia, ?_, (gives_pure.mp h).symm⟩
  exact hproperties.imp fun p entry hentry => formProperty_eq_ok (gives_ofExcept.mp hentry)

/-! ## single parameters -/

/-- what becomes of a parameter of a list -/
inductive Role where
  | listed
  | body
  | formPart
deriving DecidableEq, Repr

def ConvertedParameter.role : ConvertedParameter → Role
  | .listed _ => .listed
  | .body _ => .body
  | .formPart _ => .formPart

def isBodyPointer (bodies : List Atom) (target : String) : Bool :=
  Text.startsWith "#/parameters/" target && bodies.contains (.string (pointerName target))

/-- the role of a parameter; `bodies` are the names of the parameters that are bodies -/
def role (bodies : List Atom) : Value → Role
  | .map fields =>
    match Fields.present? fields "$ref" with
    | some pointer =>
      match pointer with
      | .text target => if isBodyPointer bodies target then .body else .listed
      | _ => .listed
    | none =>
      if hasText fields "in" "body" then .body
      else if hasText fields "in" "formData" then .formPart
      else .listed
  | _ => .listed

/-- a parameter and what it becomes -/
inductive ConvertsTo (bodies : List Atom) (consumes : Option Value) :
    Value → ConvertedParameter → Prop
  | pointer {fields : Fields} {target : String}
      (href : fields.present? "$ref" = some (.text target)) :
      ConvertsTo bodies consumes (.map fields) (convertPointer bodies target)
  | body {fields : Fields} {body : Value} (hinline : fields.present? "$ref" = none)
      (hin : hasText fields "in" "body" = true) (hbody : BodyOf fields consumes body) :
      ConvertsTo bodies consumes (.map fields) (.body body)
  | formPart {fields : Fields} (hinline : fields.present? "$ref" = none)
      (hbody : hasText fields "in" "body" = false) (hin : hasText fields "in" "formData" = true) :
      ConvertsTo bodies consumes (.map fields) (.formPart fields)
  | plain {fields : Fields} (hinline : fields.present? "$ref" = none)
      (hbody : hasText fields "in" "body" = false)
      (hform : hasText fields "in" "formData" = false) :
      ConvertsTo bodies consumes (.map fields) (.listed (.map (plainFields fields)))

variable {bodies : List Atom} {consumes : Option Value}

theorem convertParameter_gives {p : Value} {c : ConvertedParameter}
    (h : (convertParameter bodies consumes p).Gives c) : ConvertsTo bodies consumes p c := by
  obtain ⟨fields, hfields, hrest⟩ := gives_bind.mp h
  rw [entries_eq_ok (gives_ofExcept.mp hfields)]
  cases href : fields.present? "$ref" with
  | some pointer =>
    rw [href] at hrest
    obtain ⟨target, htarget, hc⟩ := gives_bind.mp hrest
    rw [asText_eq_ok (gives_ofExcept.mp htarget)] at href
    rw [← gives_pure.mp hc]
    exact .pointer href
  | none =>
    rw [href] at hrest
    dsimp only at hrest
    cases hbody : hasText fields "in" "body" with
    | true =>
      rw [hbody, if_pos rfl] at hrest
      obtain ⟨body, hgives, hc⟩ := gives_bind.mp hrest
      rw [← gives_pure.mp hc]
      exact .body href hbody (convertBody_gives hgives)
    | false =>
      rw [hbody, if_neg Bool.false_ne_true] at hrest
      cases hform : hasText fields "in" "formData" with
      | true =>
        rw [hform, if_pos rfl] at hrest
        rw [← gives_pure.mp hrest]
        exact .formPart href hbody hform
      | false =>
        rw [hform, if_neg Bool.false_ne_true] at hrest
        obtain ⟨plain, hplain, hc⟩ := gives_bind.mp hrest
        rw [← gives_pure.mp hc, convertPlain_gives hplain]
        exact .plain href hbody hform

theorem convertPointer_eq (bodies : List Atom) (target : String) : convertPointer bodies target =
    if isBodyPointer bodies target then
      .body (.object [("$ref", .text ("#/components/requestBodies/" ++ pointerName target))])
    else .listed (.object [("$ref", .text (movePointer target))]) := rfl

theorem ConvertsTo.role_eq {p : Value} {c : ConvertedParameter}
    (h : ConvertsTo bodies consumes p c) : c.role = role bodies p := by
  cases h with
  | @pointer fields target href =>
    rw [convertPointer_eq, role, href]
    dsimp only
    cases isBodyPointer bodies target <;> rfl
  | body hinline hin _ =>
    rw [role, hinline, hin]
    rfl
  | formPart hinline hbody hin =>
    rw [role, hinline, hbody, hin]
    rfl
  | plain hinline hbody hform =>
    rw [role, hinline, hbody, hform]
    rfl

namespace ConvertsTo

variable {fields : Fields} {c : ConvertedParameter} (h : ConvertsTo bodies consumes (.map fields) c)
include h

theorem of_pointer {target : String} (href : fields.present? "$ref" = some (.text target)) :
    c = convertPointer bodies target := by
  cases h with
  | pointer href' =>
    rw [href] at href'
    cases href'
    rfl
  | body hinline | formPart hinline | plain hinline =>
    rw [href] at hinline
    cases hinline

theorem of_body (hinline : fields.present? "$ref" = none)
    (hin : hasText fields "in" "body" = true) : ∃ body, c = .body body ∧
      BodyOf fields consumes body := by
  cases h with
  | pointer href =>
    rw [hinline] at href
    cases href
  | @body _ body _ _ hbody => exact ⟨body, rfl, hbody⟩
  | formPart _ hnot | plain _ hnot =>
    rw [hin] at hnot
    cases hnot

theorem of_plain (hinline : fields.present? "$ref" = none)
    (hbody : hasText fields "in" "body" = false)
    (hform : hasText fields "in" "formData" = false) : c = .listed (.map (plainFields fields)) := by
  cases h with
  | pointer href =>
    rw [hinline] at href
    cases href
  | body _ hin =>
    rw [hbody] at hin
    cases hin
  | formPart _ _ hin =>
    rw [hform] at hin
    cases hin
  | plain => rfl

theorem of_formPart (hrole : role bodies (.map fields) = .formPart) : c = .formPart fields := by
  have hc := h.role_eq.trans hrole
  cases h with
  | @pointer _ target href =>
    rw [convertPointer_eq] at hc
    split at hc <;> cases hc
  | body | plain => cases hc
  | formPart => rfl

end ConvertsTo

/-! ## lists -/

namespace ConvertedParameter

def listed? : ConvertedParameter → Option Value
  | listed v => some v
  | _ => none

def body? : ConvertedParameter → Option Value
  | body v => some v
  | _ => none

def formPart? : ConvertedParameter → Option Fields
  | formPart fields => some fields
  | _ => none

end ConvertedParameter

theorem mem_formPart {items : List Value}
    {converted : List ConvertedParameter}
    (hall : List.Forall₂ (ConvertsTo bodies consumes) items converted) {fields : Fields}
    (h : fields ∈ converted.filterMap ConvertedParameter.formPart?) :
    .map fields ∈ items ∧ role bodies (.map fields) = .formPart := by
  obtain ⟨c, hc, hpart⟩ := List.mem_filterMap.mp h
  obtain ⟨v, hv, hto⟩ := exists_mem_of_forall₂ hall.flip hc
  have hrole := hto.role_eq
  cases hto with
  | @pointer _ target href =>
    rw [convertPointer_eq] at hpart
    split at hpart <;> cases hpart
  | body | plain => cases hpart
  | formPart =>
    cases hpart
    exact ⟨hv, hrole.symm⟩

/-- the body that a converted list leaves: the last one, else a form if there are parts of one -/
inductive LeavesBody (converted : List ConvertedParameter) : Option Value → Prop
  | last {body : Value}
      (hlast : (converted.filterMap ConvertedParameter.body?).getLast? = some body) :
      LeavesBody converted (some body)
  | form {body : Value} (hnone : converted.filterMap ConvertedParameter.body? = [])
      (hparts : converted.filterMap ConvertedParameter.formPart? ≠ [])
      (hform : FormOf (converted.filterMap ConvertedParameter.formPart?) body) :
      LeavesBody converted (some body)
  | none (hnone : converted.filterMap ConvertedParameter.body? = [])
      (hparts : converted.filterMap ConvertedParameter.formPart? = []) : LeavesBody converted none

theorem filterMap_body_cons (v : Value) (rest : List ConvertedParameter) :
    (ConvertedParameter.body v :: rest).filterMap ConvertedParameter.body? =
      v :: rest.filterMap ConvertedParameter.body? := rfl

theorem body?_eq_none {c : ConvertedParameter} (h : c.role ≠ .body) : c.body? = none := by
  cases c with
  | body v => exact (h rfl).elim
  | _ => rfl

theorem filterMap_body_eq_nil {items : List Value} {converted : List ConvertedParameter}
    (hall : List.Forall₂ (ConvertsTo bodies consumes) items converted)
    (hnone : ∀ v ∈ items, role bodies v ≠ .body) :
    converted.filterMap ConvertedParameter.body? = [] := by
  refine List.filterMap_eq_nil_iff.mpr fun c hc => ?_
  obtain ⟨v, hv, hto⟩ := exists_mem_of_forall₂ hall.flip hc
  exact body?_eq_none (hto.role_eq ▸ hnone v hv)

theorem LeavesBody.eq_of_last {before after : List ConvertedParameter} {b : Value}
    {body : Option Value} (h : LeavesBody (before ++ .body b :: after) body)
    (hafter : after.filterMap ConvertedParameter.body? = []) : body = some b := by
  have hlast : ((before ++ .body b :: after).filterMap ConvertedParameter.body?).getLast? =
      some b := by
    rw [List.filterMap_append, filterMap_body_cons, hafter, List.getLast?_append,
      List.getLast?_singleton, Option.some_or]
  cases h with
  | last hown => rw [← hown, hlast]
  | form hnone | none hnone =>
    rw [hnone] at hlast
    cases hlast

def itemsOf : Value → List Value
  | .list items => items
  | _ => []

/-- only a list has mappings for items -/
theorem eq_list_of_iterated {v : Value} {items : List Value} (h : v.iterated = .ok items)
    (htruthy : v.truthy = true) (hmaps : ∀ item ∈ items, ∃ fields, item = .map fields) :
    v = .list items := by
  have hfirst : ∀ {a : Atom} {rest : List Value}, items = .atom a :: rest → False := by
    rintro a rest rfl
    obtain ⟨fields, hfields⟩ := hmaps (.atom a) List.mem_cons_self
    cases hfields
  cases v with
  | list own =>
    cases h
    rfl
  | map fields =>
    cases h
    cases fields with
    | nil => cases htruthy
    | cons entry rest => exact (hfirst rfl).elim
  | set members =>
    cases h
    cases members with
    | nil => cases htruthy
    | cons a rest => exact (hfirst rfl).elim
  | atom a =>
    cases a with
    | string s =>
      cases h
      cases hs : s.toList with
      | nil => exact (bne_iff_ne.mp htruthy (String.toList_eq_nil_iff.mp hs)).elim
      | cons c rest =>
        rw [hs] at hfirst
        exact (hfirst rfl).elim
    | bytes content =>
      cases h
      cases content with
      | nil => cases htruthy
      | cons b rest => exact (hfirst rfl).elim
    | _ => cases h

theorem iterated_orElse {v : Value} {items : List Value}
    (h : (Value.orElse (some v) (.list [])).iterated = .ok items)
    (hmaps : ∀ item ∈ items, ∃ fields, item = .map fields) : items = itemsOf v := by
  rw [orElse_some] at h
  by_cases htruthy : v.truthy = true
  · rw [if_pos htruthy] at h
    rw [eq_list_of_iterated h htruthy hmaps]
    rfl
  · rw [if_neg htruthy] at h
    cases h
    cases v with
    | list own =>
      cases own with
      | nil => rfl
      | cons v rest => exact (htruthy rfl).elim
    | _ => rfl

/-- the last step for a list: the listed ones, and the last body or else a form -/
def assemble (consumes : Option Value) (converted : List ConvertedParameter) :
    Conversion (List Value × Option Value) :=
  match (converted.filterMap ConvertedParameter.body?).getLast?,
    converted.filterMap ConvertedParameter.formPart? with
  | none, _ :: _ => do
    let form ← convertForm (converted.filterMap ConvertedParameter.formPart?) consumes
    return (converted.filterMap ConvertedParameter.listed?, some form)
  | _, _ => return (converted.filterMap ConvertedParameter.listed?,
      (converted.filterMap ConvertedParameter.body?).getLast?)

theorem convertParameters_eq (bodies : List Atom) (consumes : Option Value) (v : Value) :
    convertParameters bodies consumes v = (do
      let items ← Conversion.ofExcept v.iterated
      let converted ← Conversion.each (convertParameter bodies consumes) items
      assemble consumes converted) := rfl

theorem assemble_gives {converted : List ConvertedParameter} {result : List Value × Option Value}
    (h : (assemble consumes converted).Gives result) :
    result.1 = converted.filterMap ConvertedParameter.listed? ∧ LeavesBody converted result.2 := by
  unfold assemble at h
  cases hbody : (converted.filterMap ConvertedParameter.body?).getLast? with
  | some body =>
    rw [hbody] at h
    rw [← gives_pure.mp h]
    exact ⟨rfl, .last hbody⟩
  | none =>
    have hnone := List.getLast?_eq_none_iff.mp hbody
    rw [hbody] at h
    cases hparts : converted.filterMap ConvertedParameter.formPart? with
    | nil =>
      rw [hparts] at h
      rw [← gives_pure.mp h]
      exact ⟨rfl, .none hnone hparts⟩
    | cons part rest =>
      rw [hparts] at h
      obtain ⟨form, hform, hpair⟩ := gives_bind.mp h
      rw [← gives_pure.mp hpair]
      have hne : converted.filterMap ConvertedParameter.formPart? ≠ [] := by
        rw [hparts]
        exact List.cons_ne_nil part rest
      exact ⟨rfl, .form hnone hne (hparts ▸ convertForm_gives hform)⟩

theorem convertParameter_isMap {items : List Value} {converted : List ConvertedParameter}
    (h : List.Forall₂ (ConvertsTo bodies consumes) items converted) :
    ∀ item ∈ items, ∃ fields, item = .map fields := by
  intro item hitem
  obtain ⟨c, hc⟩ := exists_of_forall₂ h item hitem
  cases hc <;> exact ⟨_, rfl⟩

/-- **What becomes of a parameter list: every item is converted, the listed ones stay listed, and
the others leave a body.** -/
theorem convertParameters_gives {v : Value} {result : List Value × Option Value}
    (h : (convertParameters bodies consumes (Value.orElse (some v) (.list []))).Gives result) :
    ∃ converted, List.Forall₂ (ConvertsTo bodies consumes) (itemsOf v) converted ∧
      result.1 = converted.filterMap ConvertedParameter.listed? ∧
      LeavesBody converted result.2 := by
  rw [convertParameters_eq] at h
  obtain ⟨items, hitems, hrest⟩ := gives_bind.mp h
  obtain ⟨converted, hconverted, hresult⟩ := gives_bind.mp hrest
  have hall := (gives_each.mp hconverted).imp fun _ _ hp => convertParameter_gives hp
  rw [iterated_orElse (gives_ofExcept.mp hitems) (convertParameter_isMap hall)] at hall
  exact ⟨converted, hall, assemble_gives hresult⟩

end ApiBindings.Swagger
