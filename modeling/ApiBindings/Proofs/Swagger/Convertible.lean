import ApiBindings.Proofs.Swagger.Document

/-!
# Documents that can be converted

A document is converted before its structure is checked, and the conversion stumbles over parts that
have not the form that it needs.  These are the forms, from parameters up to whole documents.  A
part that does not count as present may be anything.

* `ListFits`, `ResponseFits`, `PathItemFits`   what the parts of a document have to be;
* `Convertible`                                what a document has to be;
* `goesThrough_convert_iff`                    the conversion goes through just these documents.
-/

namespace ApiBindings.Swagger

open Conversion

/-! ## parts that may be missing -/

def IfPresent (v : Option Value) (fits : Value → Prop) : Prop :=
  ∀ w, v.filter Value.truthy = some w → fits w

def MappingOf (fits : Fields → Prop) (v : Value) : Prop := ∃ fields, v = .map fields ∧ fits fields

def ListOf (fits : List Value → Prop) (v : Value) : Prop := ∃ items, v = .list items ∧ fits items

theorem ifPresent_none (fits : Value → Prop) : IfPresent none fits := fun _ h => nomatch h

theorem ifPresent_truthy {v : Value} {fits : Value → Prop} (h : v.truthy = true) :
    IfPresent (some v) fits ↔ fits v := by
  unfold IfPresent
  rw [Option.filter_some, if_pos h]
  exact ⟨fun hall => hall v rfl, fun hfits w hw => Option.some.inj hw ▸ hfits⟩

theorem ifPresent_falsy {v : Value} (fits : Value → Prop) (h : ¬ v.truthy = true) :
    IfPresent (some v) fits := by
  intro w hw
  rw [Option.filter_some, if_neg h] at hw
  cases hw

variable {β : Type}

theorem goesThrough_entries {v : Value} {fits : Fields → Prop} {f : Fields → Conversion β}
    (hf : ∀ fields, (f fields).GoesThrough ↔ fits fields) :
    (ofExcept v.entries >>= f).GoesThrough ↔ MappingOf fits v := by
  rw [goesThrough_ofExcept_bind]
  constructor
  · rintro ⟨fields, hfields, hrest⟩
    exact ⟨fields, entries_eq_ok hfields, (hf fields).mp hrest⟩
  · rintro ⟨fields, rfl, hfits⟩
    exact ⟨fields, rfl, (hf fields).mpr hfits⟩

theorem goesThrough_orElse_entries {v : Option Value} {fits : Fields → Prop}
    {f : Fields → Conversion β} (hf : ∀ fields, (f fields).GoesThrough ↔ fits fields)
    (hnil : fits []) :
    (ofExcept (Value.orElse v (.map [])).entries >>= f).GoesThrough ↔
      IfPresent v (MappingOf fits) := by
  rw [goesThrough_entries hf]
  have hempty : MappingOf fits (.map []) := ⟨[], rfl, hnil⟩
  cases v with
  | none => exact iff_of_true hempty (ifPresent_none _)
  | some v =>
    rw [orElse_some]
    by_cases h : v.truthy = true
    · rw [if_pos h, ifPresent_truthy h]
    · rw [if_neg h]
      exact iff_of_true hempty (ifPresent_falsy _ h)

/-- a step that is left out if nothing counts as present under a key -/
theorem goesThrough_present {fields : Fields} {key : String} {left : β} {fits : Value → Prop}
    {step : Value → Conversion β} (hstep : ∀ v, (step v).GoesThrough ↔ fits v) :
    (match fields.present? key with
      | none => pure left
      | some v => step v : Conversion β).GoesThrough ↔ IfPresent (fields.get? key) fits := by
  unfold Fields.present? IfPresent
  cases (fields.get? key).filter Value.truthy with
  | none => exact iff_of_true (goesThrough_pure _) fun _ h => nomatch h
  | some v => exact (hstep v).trans ⟨fun h w hw => Option.some.inj hw ▸ h, fun h => h v rfl⟩

/-! ## media types and bodies -/

def MediaTypes (v : Value) : Prop := ∃ keys : List Atom, v.iterated = .ok (keys.map .atom)

theorem goesThrough_contentOf {schema mediaTypes : Value} :
    (contentOf schema mediaTypes).GoesThrough ↔ MediaTypes mediaTypes := by
  constructor
  · rintro ⟨content, h⟩
    obtain ⟨keys, hkeys, _⟩ := (contentOf_gives h).exists_keys
    exact ⟨keys, hkeys⟩
  · rintro ⟨keys, hkeys⟩
    refine goesThrough_ofExcept_bind.mpr ⟨_, hkeys, (goesThrough_bind_of ?_).mpr ?_⟩
    · exact fun _ _ => goesThrough_pure _
    · refine goesThrough_each.mpr fun v hv => ?_
      obtain ⟨key, _, rfl⟩ := List.mem_map.mp hv
      exact ⟨key, gives_ofExcept.mpr rfl⟩

theorem goesThrough_convertBody {parameter : Fields} {consumes : Option Value} :
    (convertBody parameter consumes).GoesThrough ↔
      MediaTypes (Value.orElse consumes defaultMediaTypes) :=
  goesThrough_bind_pure.trans goesThrough_contentOf

/-! ## forms -/

/-- a form: multipart can be looked for among the media types, and every part has a name that can be
a key -/
structure FormFits (consumes : Option Value) (parts : List Fields) : Prop where
  searched : IfPresent consumes fun v => ∃ found, v.holds multipart = .ok found
  named : ∀ part ∈ parts, ∃ name : Atom, part.get? "name" = some (.atom name)

theorem allowsMultipart_iff {consumes : Option Value} :
    (∃ found, allowsMultipart consumes = .ok found) ↔
      IfPresent consumes fun v => ∃ found, v.holds multipart = .ok found := by
  cases consumes with
  | none => exact iff_of_true ⟨false, rfl⟩ (ifPresent_none _)
  | some v =>
    rw [allowsMultipart]
    by_cases h : v.truthy = true
    · rw [if_pos h, ifPresent_truthy h]
    · rw [if_neg h]
      exact iff_of_true ⟨false, rfl⟩ (ifPresent_falsy _ h)

theorem goesThrough_formMediaType {hasFile : Bool} {consumes : Option Value} :
    (formMediaType hasFile consumes).GoesThrough ↔
      IfPresent consumes fun v => ∃ found, v.holds multipart = .ok found := by
  rw [← allowsMultipart_iff]
  have hstep : ∀ {f : Bool → Conversion String}, (∀ found, (f found).GoesThrough) →
      ((ofExcept (allowsMultipart consumes) >>= f).GoesThrough ↔
        ∃ found, allowsMultipart consumes = .ok found) := by
    intro f hf
    rw [goesThrough_ofExcept_bind]
    exact exists_congr fun found => and_iff_left (hf found)
  unfold formMediaType
  split
  · refine hstep fun allowed => ?_
    split
    · split
      · exact goesThrough_pure _
      · exact goesThrough_bind_pure.mpr (goesThrough_warn _)
    · exact goesThrough_pure _
  · exact hstep fun allowed => goesThrough_pure _

theorem goesThrough_formProperty {part : Fields} :
    (ofExcept (formProperty part)).GoesThrough ↔
      ∃ name : Atom, part.get? "name" = some (.atom name) := by
  constructor
  · rintro ⟨entry, h⟩
    exact ⟨entry.1, (formProperty_eq_ok (gives_ofExcept.mp h)).1⟩
  · rintro ⟨name, hname⟩
    refine ⟨(name, valueSchema part), gives_ofExcept.mpr ?_⟩
    rw [formProperty, formName, hname]
    rfl

theorem goesThrough_convertForm {parts : List Fields} {consumes : Option Value} :
    (convertForm parts consumes).GoesThrough ↔ FormFits consumes parts := by
  have hrest : ∀ mediaType : String, (do
      let properties ← Conversion.each (fun p => ofExcept (formProperty p)) parts
      return Value.object [("content", .object [(mediaType, .object
        [("schema", formSchema parts properties)])])] : Conversion Value).GoesThrough ↔
      ∀ part ∈ parts, ∃ name : Atom, part.get? "name" = some (.atom name) := by
    intro mediaType
    rw [goesThrough_bind_pure, goesThrough_each]
    exact forall₂_congr fun part _ => goesThrough_formProperty
  constructor
  · intro h
    obtain ⟨mediaType, hmedia, hparts⟩ := goesThrough_bind.mp h
    exact ⟨goesThrough_formMediaType.mp ⟨mediaType, hmedia⟩, (hrest mediaType).mp hparts⟩
  · intro h
    obtain ⟨mediaType, hmedia⟩ := goesThrough_formMediaType.mpr h.searched
    exact goesThrough_bind.mpr ⟨mediaType, hmedia, (hrest mediaType).mpr h.named⟩

/-! ## parameters -/

/-- a parameter of a list: it points somewhere, or it has media types if it is a body -/
inductive ParameterFits (consumes : Option Value) : Value → Prop
  | pointer {fields : Fields} {target : String}
      (href : fields.present? "$ref" = some (.text target)) : ParameterFits consumes (.map fields)
  | inline {fields : Fields} (hinline : fields.present? "$ref" = none)
      (hbody : hasText fields "in" "body" = true →
        MediaTypes (Value.orElse consumes defaultMediaTypes)) :
      ParameterFits consumes (.map fields)

theorem goesThrough_convertPlain (parameter : Fields) : (convertPlain parameter).GoesThrough := by
  unfold convertPlain
  dsimp only
  split
  · split
    · exact goesThrough_pure _
    · exact goesThrough_bind_pure.mpr (goesThrough_warn _)
  · exact goesThrough_pure _

variable {bodies : List Atom} {consumes : Option Value}

theorem goesThrough_convertParameter {p : Value} :
    (convertParameter bodies consumes p).GoesThrough ↔ ParameterFits consumes p := by
  constructor
  · rintro ⟨c, h⟩
    cases convertParameter_gives h with
    | pointer href => exact .pointer href
    | body hinline _ hbody =>
      obtain ⟨content, _, hcontent, _⟩ := hbody.exists_fields
      obtain ⟨keys, hkeys, _⟩ := hcontent.exists_keys
      exact .inline hinline fun _ => ⟨keys, hkeys⟩
    | formPart hinline hbody | plain hinline hbody =>
      exact .inline hinline fun hin => absurd hin (hbody ▸ Bool.false_ne_true)
  · intro h
    cases h with
    | pointer href =>
      refine goesThrough_ofExcept_bind.mpr ⟨_, rfl, ?_⟩
      rw [href]
      exact goesThrough_ofExcept_bind.mpr ⟨_, rfl, goesThrough_pure _⟩
    | inline hinline hbody =>
      refine goesThrough_ofExcept_bind.mpr ⟨_, rfl, ?_⟩
      rw [hinline]
      dsimp only
      split
      · rename_i hin
        exact goesThrough_bind_pure.mpr
          (goesThrough_convertBody.mpr (hbody hin))
      · split
        · exact goesThrough_pure _
        · exact goesThrough_bind_pure.mpr (goesThrough_convertPlain _)

/-! ## parameter lists -/

def formPart? (bodies : List Atom) : Value → Option Fields
  | .map fields => if role bodies (.map fields) = .formPart then some fields else none
  | _ => none

/-- a parameter list: its items fit, and so does the form that they are if none of them is a body -/
structure ListFits (bodies : List Atom) (consumes : Option Value) (items : List Value) : Prop where
  parameters : ∀ item ∈ items, ParameterFits consumes item
  form : (∀ item ∈ items, role bodies item ≠ .body) → items.filterMap (formPart? bodies) ≠ [] →
    FormFits consumes (items.filterMap (formPart? bodies))

theorem ConvertsTo.formPart?_eq {p : Value} {c : ConvertedParameter}
    (h : ConvertsTo bodies consumes p c) : c.formPart? = formPart? bodies p := by
  have hrole := h.role_eq
  cases h with
  | @pointer fields target href =>
    rw [formPart?, ← hrole, convertPointer_eq]
    cases isBodyPointer bodies target <;> rfl
  | body | formPart | plain =>
    rw [formPart?, ← hrole]
    rfl

theorem filterMap_formPart {items : List Value} {converted : List ConvertedParameter}
    (hall : List.Forall₂ (ConvertsTo bodies consumes) items converted) :
    converted.filterMap ConvertedParameter.formPart? = items.filterMap (formPart? bodies) := by
  induction hall with
  | nil => rfl
  | cons hto _ ih => rw [List.filterMap_cons, List.filterMap_cons, hto.formPart?_eq, ih]

theorem filterMap_body_eq_nil_iff {items : List Value} {converted : List ConvertedParameter}
    (hall : List.Forall₂ (ConvertsTo bodies consumes) items converted) :
    converted.filterMap ConvertedParameter.body? = [] ↔ ∀ v ∈ items, role bodies v ≠ .body := by
  refine ⟨fun hnone v hv hrole => ?_, filterMap_body_eq_nil hall⟩
  obtain ⟨c, hc, hto⟩ := exists_mem_of_forall₂ hall hv
  have hbody := List.filterMap_eq_nil_iff.mp hnone c hc
  have hc := hto.role_eq.trans hrole
  cases c with
  | body b => cases hbody
  | listed | formPart => cases hc

theorem goesThrough_assemble {converted : List ConvertedParameter} :
    (assemble consumes converted).GoesThrough ↔
      (converted.filterMap ConvertedParameter.body? = [] →
        converted.filterMap ConvertedParameter.formPart? ≠ [] →
        FormFits consumes (converted.filterMap ConvertedParameter.formPart?)) := by
  unfold assemble
  cases hbody : (converted.filterMap ConvertedParameter.body?).getLast? with
  | some body =>
    refine iff_of_true (goesThrough_pure _) fun hnone => ?_
    rw [hnone] at hbody
    cases hbody
  | none =>
    cases hparts : converted.filterMap ConvertedParameter.formPart? with
    | nil => exact iff_of_true (goesThrough_pure _) fun _ hne => (hne rfl).elim
    | cons part rest =>
      dsimp only
      rw [goesThrough_bind_pure, goesThrough_convertForm]
      exact ⟨fun h _ _ => h, fun h => h (List.getLast?_eq_none_iff.mp hbody)
        (List.cons_ne_nil part rest)⟩

theorem goesThrough_items {items : List Value} :
    (Conversion.each (convertParameter bodies consumes) items >>= assemble consumes).GoesThrough ↔
      ListFits bodies consumes items := by
  have hrelated : ∀ {converted}, (each (convertParameter bodies consumes) items).Gives converted →
      List.Forall₂ (ConvertsTo bodies consumes) items converted := fun h =>
    (gives_each.mp h).imp fun _ _ hp => convertParameter_gives hp
  constructor
  · intro h
    obtain ⟨converted, hgives, hrest⟩ := goesThrough_bind.mp h
    have hform := goesThrough_assemble.mp hrest
    rw [filterMap_formPart (hrelated hgives), filterMap_body_eq_nil_iff (hrelated hgives)] at hform
    refine ⟨fun item hitem => ?_, hform⟩
    exact goesThrough_convertParameter.mp (goesThrough_each.mp ⟨converted, hgives⟩ item hitem)
  · intro h
    obtain ⟨converted, hgives⟩ := goesThrough_each.mpr fun item hitem =>
      goesThrough_convertParameter.mpr (h.parameters item hitem)
    refine goesThrough_bind.mpr ⟨converted, hgives, goesThrough_assemble.mpr ?_⟩
    rw [filterMap_formPart (hrelated hgives), filterMap_body_eq_nil_iff (hrelated hgives)]
    exact h.form

theorem goesThrough_convertParameters {v : Value} :
    (convertParameters bodies consumes (Value.orElse (some v) (.list []))).GoesThrough ↔
      IfPresent (some v) (ListOf (ListFits bodies consumes)) := by
  rw [convertParameters_eq, goesThrough_ofExcept_bind, orElse_some]
  by_cases htruthy : v.truthy = true
  · rw [if_pos htruthy, ifPresent_truthy htruthy]
    constructor
    · rintro ⟨items, hitems, hrest⟩
      have hfits := goesThrough_items.mp hrest
      have hmaps : ∀ item ∈ items, ∃ fields, item = .map fields := by
        intro item hitem
        cases hfits.parameters item hitem with
        | pointer | inline => exact ⟨_, rfl⟩
      exact ⟨items, eq_list_of_iterated hitems htruthy hmaps, hfits⟩
    · rintro ⟨items, rfl, hfits⟩
      exact ⟨items, rfl, goesThrough_items.mpr hfits⟩
  · rw [if_neg htruthy]
    exact iff_of_true ⟨[], rfl, goesThrough_pure _⟩ (ifPresent_falsy _ htruthy)

/-! ## responses -/

/-- a response: nothing, a pointer, or with media types if it has a schema -/
inductive ResponseFits (produces : Value) : Value → Prop
  | null : ResponseFits produces .null
  | pointer {fields : Fields} {target : String} (href : fields.get? "$ref" = some (.text target)) :
      ResponseFits produces (.map fields)
  | inline {fields : Fields} (href : fields.get? "$ref" = none)
      (hcontent : IfPresent (fields.get? "schema") fun _ => MediaTypes produces)
      (hheaders : IfPresent (fields.get? "headers") (MappingOf fun headers =>
        ∀ entry ∈ headers, MappingOf (fun _ => True) entry.2)) :
      ResponseFits produces (.map fields)

theorem goesThrough_responseContent {fields : Fields} {produces : Value} :
    (responseContent fields produces).GoesThrough ↔
      IfPresent (fields.get? "schema") fun _ => MediaTypes produces :=
  goesThrough_present fun _ =>
    goesThrough_bind_pure.trans goesThrough_contentOf

theorem goesThrough_responseHeaders {fields : Fields} :
    (responseHeaders fields).GoesThrough ↔
      IfPresent (fields.get? "headers") (MappingOf fun headers =>
        ∀ entry ∈ headers, MappingOf (fun _ => True) entry.2) := by
  refine goesThrough_present fun headers => goesThrough_entries fun entries => ?_
  rw [goesThrough_bind_pure, goesThrough_each]
  exact forall₂_congr fun entry _ =>
    goesThrough_entries fun _ => iff_of_true (goesThrough_pure _) trivial

theorem goesThrough_inlineResponse {fields : Fields} {produces : Value}
    (href : fields.get? "$ref" = none) :
    (convertResponse produces (.map fields)).GoesThrough ↔
      (responseContent fields produces).GoesThrough ∧ (responseHeaders fields).GoesThrough := by
  have hholds : (Value.map fields).holds "$ref" = .ok false := by
    rw [Value.holds, Fields.has, href]
    rfl
  have heq : convertResponse produces (.map fields) = (do
      let content ← responseContent fields produces
      let headers ← responseHeaders fields
      return .object ([("description", (fields.get? "description").getD (.text ""))] ++ content ++
        headers)) := by
    show ofExcept _ >>= _ = _
    rw [hholds, ofExcept_ok_bind]
    exact ofExcept_ok_bind fields _
  rw [heq, goesThrough_bind]
  constructor
  · rintro ⟨content, hcontent, hrest⟩
    exact ⟨⟨content, hcontent⟩, goesThrough_bind_pure.mp hrest⟩
  · rintro ⟨⟨content, hcontent⟩, hheaders⟩
    exact ⟨content, hcontent, goesThrough_bind_pure.mpr hheaders⟩

theorem goesThrough_convertResponse {produces v : Value} :
    (convertResponse produces v).GoesThrough ↔ ResponseFits produces v := by
  constructor
  · rintro ⟨response, h⟩
    cases convertResponse_gives h with
    | null => exact .null
    | pointer href => exact .pointer href
    | inline href =>
      obtain ⟨hcontent, hheaders⟩ := (goesThrough_inlineResponse href).mp ⟨_, h⟩
      exact .inline href (goesThrough_responseContent.mp hcontent)
        (goesThrough_responseHeaders.mp hheaders)
  · intro h
    cases h with
    | null => exact goesThrough_pure _
    | @pointer fields target href =>
      have hholds : (Value.map fields).holds "$ref" = .ok true := by
        rw [Value.holds, Fields.has, href]
        rfl
      refine goesThrough_ofExcept_bind.mpr ⟨true, hholds, ?_⟩
      dsimp only
      rw [href]
      exact goesThrough_ofExcept_bind.mpr ⟨_, rfl, goesThrough_pure _⟩
    | inline href hcontent hheaders =>
      exact (goesThrough_inlineResponse href).mpr ⟨goesThrough_responseContent.mpr hcontent,
        goesThrough_responseHeaders.mpr hheaders⟩

/-- responses of an operation; extensions do not count -/
def ResponsesFit (produces : Value) (responses : Fields) : Prop :=
  ∀ entry ∈ responses, Text.startsWith "x-" entry.1.plain = false → ResponseFits produces entry.2

theorem goesThrough_convertResponses {produces responses : Value} :
    (convertResponses produces responses).GoesThrough ↔
      IfPresent (some responses) (MappingOf (ResponsesFit produces)) := by
  refine goesThrough_orElse_entries (fun fields => ?_) fun entry hentry => nomatch hentry
  rw [goesThrough_bind_pure, goesThrough_each]
  unfold ResponsesFit
  refine forall_congr' fun entry => ?_
  rw [List.mem_filter, and_imp, Bool.not_eq_true']
  refine imp_congr_right fun _ => imp_congr_right fun _ => ?_
  exact goesThrough_bind_pure.trans goesThrough_convertResponse

/-! ## operations and path items -/

/-- an operation: its parameters and its responses fit -/
structure OperationFits (setting : Setting) (operation : Fields) : Prop where
  parameters : ∀ v, (.string "parameters", v) ∈ operation →
    IfPresent (some v) (ListOf (ListFits setting.bodies (consumedTypes setting operation)))
  responses : ∀ v, (.string "responses", v) ∈ operation →
    IfPresent (some v) (MappingOf (ResponsesFit (producedTypes setting operation)))

/-- a path item: its operations and its parameters fit, and its pointer is a text -/
structure PathItemFits (setting : Setting) (item : Fields) : Prop where
  operations : ∀ name ∈ methods, ∀ v, (.string name, v) ∈ item →
    IfPresent (some v) (MappingOf (OperationFits setting))
  parameters : ∀ v, (.string "parameters", v) ∈ item →
    IfPresent (some v) (ListOf (ListFits setting.bodies none))
  pointer : ∀ v, (.string "$ref", v) ∈ item → ∃ target, v = .text target

variable {setting : Setting}

section operation

variable {operation : Fields}

theorem goesThrough_ownParameters {v : Value} :
    (convertOperationEntry setting operation (.string "parameters", v)).GoesThrough ↔
      IfPresent (some v) (ListOf (ListFits setting.bodies (consumedTypes setting operation))) :=
  goesThrough_bind_pure.trans goesThrough_convertParameters

theorem goesThrough_ownResponses {v : Value} :
    (convertOperationEntry setting operation (.string "responses", v)).GoesThrough ↔
      IfPresent (some v) (MappingOf (ResponsesFit (producedTypes setting operation))) :=
  goesThrough_bind_pure.trans goesThrough_convertResponses

theorem goesThrough_otherEntry {key : Atom} {v : Value} (hparameters : key ≠ .string "parameters")
    (hresponses : key ≠ .string "responses") :
    (convertOperationEntry setting operation (key, v)).GoesThrough := by
  unfold convertOperationEntry
  split
  · exact goesThrough_pure _
  · exact goesThrough_pure _
  · exact goesThrough_pure _
  · exact absurd ‹_› hparameters
  · exact absurd ‹_› hresponses
  · exact goesThrough_pure _

theorem goesThrough_operationEntries :
    (Conversion.each (convertOperationEntry setting operation) operation).GoesThrough ↔
      OperationFits setting operation := by
  rw [goesThrough_each]
  constructor
  · intro h
    exact ⟨fun v hv => goesThrough_ownParameters.mp (h _ hv),
      fun v hv => goesThrough_ownResponses.mp (h _ hv)⟩
  · rintro h ⟨key, v⟩ hentry
    by_cases hparameters : key = .string "parameters"
    · subst hparameters
      exact goesThrough_ownParameters.mpr (h.parameters v hentry)
    · by_cases hresponses : key = .string "responses"
      · subst hresponses
        exact goesThrough_ownResponses.mpr (h.responses v hentry)
      · exact goesThrough_otherEntry hparameters hresponses

end operation

theorem goesThrough_convertOperation {v : Value} :
    (convertOperation setting (Value.orElse (some v) (.map []))).GoesThrough ↔
      IfPresent (some v) (MappingOf (OperationFits setting)) := by
  refine goesThrough_orElse_entries (fun fields => ?_)
    ⟨fun _ h => (nomatch h), fun _ h => (nomatch h)⟩
  rw [goesThrough_bind_of, goesThrough_operationEntries]
  intro entries _
  dsimp only
  split
  · exact goesThrough_bind_pure.mpr (goesThrough_warn _)
  · exact goesThrough_pure _

theorem goesThrough_pathOperation {name : String} (hname : name ∈ methods) {v : Value} :
    (convertPathEntry setting (.string name, v)).GoesThrough ↔
      IfPresent (some v) (MappingOf (OperationFits setting)) := by
  unfold convertPathEntry
  rw [if_pos (show isTextIn methods (.string name) = true from decide_eq_true hname)]
  exact goesThrough_bind_pure.trans goesThrough_convertOperation

theorem goesThrough_sharedParameters {v : Value} :
    (convertPathEntry setting (.string "parameters", v)).GoesThrough ↔
      IfPresent (some v) (ListOf (ListFits setting.bodies none)) :=
  goesThrough_bind_pure.trans goesThrough_convertParameters

theorem goesThrough_pathPointer {v : Value} :
    (convertPathEntry setting (.string "$ref", v)).GoesThrough ↔ ∃ target, v = .text target := by
  refine goesThrough_ofExcept_bind.trans ⟨?_, ?_⟩
  · rintro ⟨target, htarget, _⟩
    exact ⟨target, asText_eq_ok htarget⟩
  · rintro ⟨target, rfl⟩
    exact ⟨target, rfl, goesThrough_pure _⟩

theorem goesThrough_otherPathEntry {key : Atom} {v : Value}
    (hkey : ∀ name ∈ "parameters" :: "$ref" :: methods, key ≠ .string name) :
    (convertPathEntry setting (key, v)).GoesThrough := by
  unfold convertPathEntry
  split
  · rename_i hmethod
    cases key with
    | string name =>
      have hname := List.mem_cons_of_mem "parameters"
        (List.mem_cons_of_mem "$ref" (of_decide_eq_true hmethod))
      exact absurd rfl (hkey name hname)
    | _ => cases hmethod
  · rw [if_neg (hkey _ (by decide)), if_neg (hkey _ (by decide))]
    exact goesThrough_pure _

theorem goesThrough_convertPathItem {v : Value} :
    (convertPathItem setting (Value.orElse (some v) (.map []))).GoesThrough ↔
      IfPresent (some v) (MappingOf (PathItemFits setting)) := by
  refine goesThrough_orElse_entries (fun item => ?_)
    ⟨fun _ _ _ h => (nomatch h), fun _ h => (nomatch h), fun _ h => (nomatch h)⟩
  rw [goesThrough_bind_pure, goesThrough_each]
  constructor
  · intro h
    exact ⟨fun name hname v hv => (goesThrough_pathOperation hname).mp (h _ hv),
      fun v hv => goesThrough_sharedParameters.mp (h _ hv),
      fun v hv => goesThrough_pathPointer.mp (h _ hv)⟩
  · rintro h ⟨key, v⟩ hentry
    by_cases hkey : ∃ name ∈ "parameters" :: "$ref" :: methods, key = .string name
    · obtain ⟨name, hname, rfl⟩ := hkey
      rcases List.mem_cons.mp hname with rfl | hname
      · exact goesThrough_sharedParameters.mpr (h.parameters v hentry)
      · rcases List.mem_cons.mp hname with rfl | hname
        · exact goesThrough_pathPointer.mpr (h.pointer v hentry)
        · exact (goesThrough_pathOperation hname).mpr (h.operations name hname v hentry)
    · exact goesThrough_otherPathEntry fun name hname heq => hkey ⟨name, hname, heq⟩

/-! ## documents -/

/-- a document that can be converted -/
structure Convertible (document : Fields) : Prop where
  schemes : (document.present? "host").isSome →
    IfPresent (document.get? "schemes") fun v => ∃ items, v.iterated = .ok items
  definitions : IfPresent (document.get? "definitions") (MappingOf fun _ => True)
  parameters : IfPresent (document.get? "parameters") (MappingOf fun parameters =>
    ∀ entry ∈ parameters, MappingOf (fun fields => hasText fields "in" "body" = true →
      MediaTypes (Value.orElse (document.get? "consumes") defaultMediaTypes)) entry.2)
  responses : IfPresent (document.get? "responses") (MappingOf fun responses =>
    ∀ entry ∈ responses, ResponseFits (documentProduces document) entry.2)
  paths : IfPresent (document.get? "paths") (MappingOf fun paths =>
    ∀ entry ∈ paths, ∃ path, entry.1 = .string path ∧ (Text.startsWith "x-" path = false →
      IfPresent (some entry.2) (MappingOf (PathItemFits (settingOf document)))))

theorem iterated_orElse_iff {v : Option Value} (fallback : List Value) :
    (∃ items, (Value.orElse v (.list fallback)).iterated = .ok items) ↔
      IfPresent v fun v => ∃ items, v.iterated = .ok items := by
  cases v with
  | none => exact iff_of_true ⟨fallback, rfl⟩ (ifPresent_none _)
  | some v =>
    rw [orElse_some]
    by_cases h : v.truthy = true
    · rw [if_pos h, ifPresent_truthy h]
    · rw [if_neg h]
      exact iff_of_true ⟨fallback, rfl⟩ (ifPresent_falsy _ h)

theorem goesThrough_convertServers {document : Fields} : (convertServers document).GoesThrough ↔
    ((document.present? "host").isSome →
      IfPresent (document.get? "schemes") fun v => ∃ items, v.iterated = .ok items) := by
  unfold convertServers
  cases document.present? "host" with
  | none =>
    refine iff_of_true ?_ fun h => nomatch h
    dsimp only
    split
    · exact goesThrough_bind_pure.mpr (goesThrough_warn _)
    · exact goesThrough_pure _
  | some host =>
    refine Iff.trans ?_ ⟨fun h _ => h, fun h => h rfl⟩
    refine goesThrough_ofExcept_bind.trans (Iff.trans ?_ (iterated_orElse_iff [.text "http"]))
    exact exists_congr fun items => and_iff_left (goesThrough_pure _)

theorem goesThrough_convertDefinitions {document : Fields} :
    (convertDefinitions document).GoesThrough ↔
      IfPresent (document.get? "definitions") (MappingOf fun _ => True) :=
  goesThrough_present fun _ => goesThrough_entries fun _ =>
    iff_of_true (goesThrough_pure _) trivial

theorem goesThrough_convertComponentParameter {entry : Atom × Value} :
    (convertComponentParameter consumes entry).GoesThrough ↔
      MappingOf (fun fields => hasText fields "in" "body" = true →
        MediaTypes (Value.orElse consumes defaultMediaTypes)) entry.2 := by
  refine goesThrough_entries fun fields => ?_
  split
  · rename_i hin
    rw [goesThrough_bind_pure, goesThrough_convertBody]
    exact ⟨fun h _ => h, fun h => h hin⟩
  · rename_i hin
    rw [goesThrough_bind_pure]
    exact iff_of_true (goesThrough_convertPlain fields) fun h => absurd h hin

theorem goesThrough_convertComponentResponses {document : Fields} :
    (convertComponentResponses document).GoesThrough ↔
      IfPresent (document.get? "responses") (MappingOf fun responses =>
        ∀ entry ∈ responses, ResponseFits (documentProduces document) entry.2) := by
  refine goesThrough_present fun _ => goesThrough_entries fun responses => ?_
  rw [goesThrough_bind_pure, goesThrough_each]
  exact forall₂_congr fun entry _ =>
    goesThrough_bind_pure.trans goesThrough_convertResponse

theorem goesThrough_convertPath {setting : Setting} {entry : Atom × Value} :
    (convertPath setting entry).GoesThrough ↔
      ∃ path, entry.1 = .string path ∧ (Text.startsWith "x-" path = false →
        IfPresent (some entry.2) (MappingOf (PathItemFits setting))) := by
  have hrest : ∀ path, (if Text.startsWith "x-" path then return [] else do
      let item ← convertPathItem setting (Value.orElse (some entry.2) (.map []))
      return [(entry.1, item)] : Conversion (List (Atom × Value))).GoesThrough ↔
      (Text.startsWith "x-" path = false →
        IfPresent (some entry.2) (MappingOf (PathItemFits setting))) := by
    intro path
    cases Text.startsWith "x-" path with
    | true => exact iff_of_true (goesThrough_pure _) fun h => nomatch h
    | false =>
      rw [if_neg Bool.false_ne_true, goesThrough_bind_pure,
        goesThrough_convertPathItem, forall_prop_of_true rfl]
  refine goesThrough_ofExcept_bind.trans (exists_congr fun path => ?_)
  rw [hrest path]
  refine and_congr_left' ⟨fun h => ?_, fun h => ?_⟩
  · exact Value.atom.inj (asText_eq_ok h)
  · rw [h]
    rfl

theorem goesThrough_convertPaths {setting : Setting} {document : Fields} :
    (convertPaths setting document).GoesThrough ↔
      IfPresent (document.get? "paths") (MappingOf fun paths => ∀ entry ∈ paths,
        ∃ path, entry.1 = .string path ∧ (Text.startsWith "x-" path = false →
          IfPresent (some entry.2) (MappingOf (PathItemFits setting)))) := by
  refine goesThrough_orElse_entries (fun paths => ?_) fun entry hentry => nomatch hentry
  rw [goesThrough_bind_pure, goesThrough_each]
  exact forall₂_congr fun entry _ => goesThrough_convertPath

theorem goesThrough_componentParameters {document : Fields} :
    (ofExcept (mappingOr document "parameters") >>= fun entries =>
      Conversion.each (convertComponentParameter consumes) entries).GoesThrough ↔
      IfPresent (document.get? "parameters") (MappingOf fun parameters =>
        ∀ entry ∈ parameters, MappingOf (fun fields => hasText fields "in" "body" = true →
          MediaTypes (Value.orElse consumes defaultMediaTypes)) entry.2) := by
  refine goesThrough_orElse_entries (fun parameters => ?_) fun entry hentry => nomatch hentry
  rw [goesThrough_each]
  exact forall₂_congr fun entry _ => goesThrough_convertComponentParameter

theorem goesThrough_convertComponents {document : Fields} :
    (convertComponents document).GoesThrough ↔
      IfPresent (document.get? "definitions") (MappingOf fun _ => True) ∧
        IfPresent (document.get? "parameters") (MappingOf fun parameters =>
          ∀ entry ∈ parameters, MappingOf (fun fields => hasText fields "in" "body" = true →
            MediaTypes (Value.orElse (document.get? "consumes") defaultMediaTypes)) entry.2) ∧
        IfPresent (document.get? "responses") (MappingOf fun responses =>
          ∀ entry ∈ responses, ResponseFits (documentProduces document) entry.2) := by
  rw [← goesThrough_convertDefinitions, ← goesThrough_componentParameters,
    ← goesThrough_convertComponentResponses]
  constructor
  · intro h
    obtain ⟨schemas, hschemas, h⟩ := goesThrough_bind.mp h
    obtain ⟨entries, hentries, h⟩ := goesThrough_ofExcept_bind.mp h
    obtain ⟨parameters, hparameters, h⟩ := goesThrough_bind.mp h
    exact ⟨⟨schemas, hschemas⟩,
      goesThrough_ofExcept_bind.mpr ⟨entries, hentries, parameters, hparameters⟩,
      goesThrough_bind_pure.mp h⟩
  · rintro ⟨⟨schemas, hschemas⟩, hparameters, hresponses⟩
    obtain ⟨entries, hentries, parameters, hparameters⟩ :=
      goesThrough_ofExcept_bind.mp hparameters
    refine goesThrough_bind.mpr ⟨schemas, hschemas, ?_⟩
    refine goesThrough_ofExcept_bind.mpr ⟨entries, hentries, ?_⟩
    refine goesThrough_bind.mpr ⟨parameters, hparameters, ?_⟩
    exact goesThrough_bind_pure.mpr hresponses

/-- **The conversion goes through a document if and only if the parts of it that count as present
have the form that is needed.** -/
theorem goesThrough_convert_iff {document : Fields} :
    (convert (.map document)).GoesThrough ↔ Convertible document := by
  unfold convert convertKnowing
  rw [goesThrough_ofExcept_bind]
  constructor
  · rintro ⟨fields, hfields, h⟩
    cases hfields
    obtain ⟨servers, hservers, h⟩ := goesThrough_bind.mp h
    obtain ⟨components, hcomponents, h⟩ := goesThrough_bind.mp h
    obtain ⟨hdefinitions, hparameters, hresponses⟩ :=
      goesThrough_convertComponents.mp ⟨components, hcomponents⟩
    have hpaths := goesThrough_bind_pure.mp h
    exact ⟨goesThrough_convertServers.mp ⟨servers, hservers⟩, hdefinitions, hparameters, hresponses,
      goesThrough_convertPaths.mp hpaths⟩
  · intro h
    obtain ⟨servers, hservers⟩ := goesThrough_convertServers.mpr h.schemes
    obtain ⟨components, hcomponents⟩ := goesThrough_convertComponents.mpr
      ⟨h.definitions, h.parameters, h.responses⟩
    refine ⟨document, rfl, goesThrough_bind.mpr ⟨servers, hservers, ?_⟩⟩
    refine goesThrough_bind.mpr ⟨components, hcomponents, ?_⟩
    exact goesThrough_bind_pure.mpr
      (goesThrough_convertPaths.mpr h.paths)

theorem convert_gives_map {v out : Value} (h : (convert v).Gives out) :
    ∃ fields : Fields, out = .map fields ∧ fields.present? "openapi" = some (.text "3.0.3") := by
  obtain ⟨_, _, h⟩ := gives_bind.mp h
  obtain ⟨_, _, h⟩ := gives_bind.mp h
  obtain ⟨_, _, h⟩ := gives_bind.mp h
  obtain ⟨_, _, h⟩ := gives_bind.mp h
  exact ⟨_, (gives_pure.mp h).symm, rfl⟩

end ApiBindings.Swagger
