import ApiBindings.Proofs.Swagger.Places
import ApiBindings.Proofs.Swagger.Pointers

/-!
# Pointers in a converted document

The parts of a document that pointers lead to become components under their names, and the pointers
in a converted document lead there.  Only a component parameter that is itself a pointer keeps its
pointer as it was.

* `ResponseMoved`, `BodyMoved`, `ListedMoved`   pointers in the parts of a document;
* `PointersMoved`                               those in every place where one can stand;
* `pointers_preserved`                          what they are, for every document.
-/

namespace ApiBindings.Swagger

open Conversion

/-! ## contents -/

/-- The schemas of a content have the pointers of the source at `place`. -/
def ContentMoved (source : Value) (place : List Step) (holder : Value) : Prop :=
  ∀ entry ∈ entriesUnder holder ["content"], ∀ schema, entry.2.child? "schema" = some schema →
    MovedFrom source place schema

theorem MovedFrom.under {v : Value} {place : List Step} {schema : Value}
    (h : MovedFrom v place schema) {fields : Fields} {entry : Atom × Value}
    (hmem : entry ∈ fields) (hv : entry.2 = v) :
    MovedFrom (.map fields) (.key entry.1 :: place) schema := by
  intro path target hpointer
  obtain ⟨old, hold, hmoved⟩ := h path target hpointer
  exact ⟨old, .key hmem (hv ▸ hold), hmoved⟩

theorem ContentOf.moved {schema mediaTypes content source holder : Value} {place : List Step}
    (h : ContentOf schema mediaTypes content) (hmoved : MovedFrom source place schema)
    (hcontent : holder.child? "content" = some content) : ContentMoved source place holder := by
  intro entry hentry own hown
  rw [entriesUnder, Value.at?_singleton, hcontent] at hentry
  cases content with
  | map fields =>
    rw [h.value_eq hentry, Value.child?_object, List.lookup_cons_self] at hown
    cases hown
    exact hmoved
  | _ => cases hentry

/-! ## bodies -/

theorem bodySchema_movedFrom {parameter : Fields}
    (hkeyed : (Value.map parameter).isKeyed = true) :
    MovedFrom (.map parameter) [.key (.string "schema")] (bodySchema parameter) := by
  have hempty : MovedFrom (.map parameter) [.key (.string "schema")] (convertSchema (.map [])) := by
    have hnone : (Value.map []).NoPointers := noPointers_map (by simp) (by simp)
    exact fun path target h => (hnone path target h).elim
  unfold bodySchema
  cases hschema : parameter.get? "schema" with
  | none => exact hempty
  | some v =>
    rw [orElse_some]
    split
    · have hmem := Fields.mem_of_get? hschema
      exact (convertSchema_movedFrom (isKeyed_of_get? hkeyed hschema)).under hmem rfl
    · exact hempty

/-- a body that is made of a parameter: it is no pointer, and its schema is that of the parameter -/
structure BodyMoved (parameter : Fields) (body : Value) : Prop where
  inline : ∀ target, ¬ PointerAt [] body target
  content : ContentMoved (.map parameter) [.key (.string "schema")] body

theorem BodyOf.moved {parameter : Fields} {consumes : Option Value} {body : Value}
    (h : BodyOf parameter consumes body) (hkeyed : (Value.map parameter).isKeyed = true) :
    BodyMoved parameter body where
  inline := by
    intro target hpointer
    obtain ⟨content, fields, _, rfl, hfields⟩ := h.exists_fields
    have hnames : ∀ entry ∈ ("content", content) :: fields, entry.1 ≠ "$ref" := by
      intro entry hentry
      rcases List.mem_cons.mp hentry with rfl | hentry
      · simp
      · rcases hfields entry hentry with rfl | ⟨hname, _⟩
        · simp
        · rw [hname]
          decide
    obtain ⟨_, _, _, hpath, _⟩ := pointerAt_object hnames hpointer
    cases hpath
  content := by
    obtain ⟨content, hcontent, hof⟩ := h.content
    exact hof.moved (bodySchema_movedFrom hkeyed) hcontent

/-- a body that is made of the parameters of a list: a pointer among them that leads to a body, or a
content with the schema of a body or the parts of a form -/
structure BodyFrom (bodies : List Atom) (list : List Value) (body : Value) : Prop where
  pointer : ∀ target, PointerAt [] body target → ∃ p ∈ list, ∃ old, PointerAt [] p old ∧
    isBodyPointer bodies old = true ∧ target = "#/components/requestBodies/" ++ pointerName old
  content : ∀ entry ∈ entriesUnder body ["content"], ∀ schema,
    entry.2.child? "schema" = some schema →
      (∃ p ∈ list, MovedFrom p [.key (.string "schema")] schema) ∨
        ∃ parts : List Fields, (∀ part ∈ parts, .map part ∈ list) ∧ FormMovedFrom parts schema

theorem pointerAt_here {fields : Fields} {target : String} :
    PointerAt [] (.map fields) target ↔ fields.present? "$ref" = some (.text target) := by
  constructor
  · intro h
    cases h
    assumption
  · exact .here

theorem pointer_object {target found : String}
    (h : PointerAt [] (.object [("$ref", .text target)]) found) : found = target := by
  have hget := (Option.filter_eq_some_iff.mp (pointerAt_here.mp h)).1
  cases hget
  rfl

theorem entriesUnder_pointer (target name : String) (hname : name ≠ "$ref") :
    entriesUnder (.object [("$ref", .text target)]) [name] = [] := by
  rw [entriesUnder, Value.at?_singleton, Value.child?_object, List.lookup_cons,
    beq_eq_false_iff_ne.mpr hname]
  rfl

variable {bodies : List Atom} {consumes : Option Value}

theorem bodyFrom_body {items : List Value} {converted : List ConvertedParameter}
    (hall : List.Forall₂ (ConvertsTo bodies consumes) items converted)
    (hkeyed : ∀ v ∈ items, v.isKeyed = true) {body : Value} (hbody : .body body ∈ converted) :
    BodyFrom bodies items body := by
  obtain ⟨p, hp, hto⟩ := exists_mem_of_forall₂ hall.flip hbody
  generalize hc : ConvertedParameter.body body = c at hto
  cases hto with
  | @pointer fields old href =>
    rw [convertPointer_eq] at hc
    split at hc
    · rename_i hpointer
      cases hc
      constructor
      · intro target h
        exact ⟨_, hp, old, .here href, hpointer, pointer_object h⟩
      · intro entry hentry
        rw [entriesUnder_pointer _ _ (by decide)] at hentry
        cases hentry
    · cases hc
  | @body fields own hinline hin hof =>
    cases hc
    have hmoved := hof.moved (hkeyed _ hp)
    constructor
    · intro target h
      exact (hmoved.inline target h).elim
    · intro entry hentry schema hschema
      exact .inl ⟨_, hp, hmoved.content entry hentry schema hschema⟩
  | formPart => cases hc
  | plain => cases hc

theorem bodyFrom_form {items : List Value} {converted : List ConvertedParameter}
    (hall : List.Forall₂ (ConvertsTo bodies consumes) items converted)
    (hkeyed : ∀ v ∈ items, v.isKeyed = true) {body : Value}
    (hform : FormOf (converted.filterMap ConvertedParameter.formPart?) body) :
    BodyFrom bodies items body := by
  obtain ⟨mediaType, properties, _, hparts, rfl⟩ := hform.exists_properties
  have hitem : ∀ part ∈ converted.filterMap ConvertedParameter.formPart?, .map part ∈ items :=
    fun part hpart => (mem_formPart hall hpart).1
  constructor
  · intro target h
    obtain ⟨_, _, _, hpath, _⟩ := pointerAt_object (by simp) h
    cases hpath
  · intro entry hentry schema hschema
    rw [entriesUnder, Value.at?_singleton, Value.child?_object, List.lookup_cons_self] at hentry
    cases List.mem_singleton.mp hentry
    rw [Value.child?_object, List.lookup_cons_self] at hschema
    cases hschema
    exact .inr ⟨_, hitem, formSchema_movedFrom (fun part hpart => hkeyed _ (hitem part hpart)) hparts⟩

theorem LeavesBody.from {items : List Value} {converted : List ConvertedParameter}
    (hall : List.Forall₂ (ConvertsTo bodies consumes) items converted)
    (hkeyed : ∀ v ∈ items, v.isKeyed = true) {body : Value}
    (h : LeavesBody converted (some body)) : BodyFrom bodies items body := by
  cases h with
  | last hlast =>
    obtain ⟨c, hc, hbody⟩ := List.mem_filterMap.mp (List.mem_of_getLast? hlast)
    cases c with
    | body own =>
      cases hbody
      exact bodyFrom_body hall hkeyed hc
    | _ => cases hbody
  | form _ _ hform => exact bodyFrom_form hall hkeyed hform

/-! ## lists -/

/-- a parameter that stays in a list: it is a pointer if it was one, and its schema is made of it -/
structure ListedMoved (bodies : List Atom) (p kept : Value) : Prop where
  pointer : ∀ target, PointerAt [] kept target → ∃ old, PointerAt [] p old ∧
    isBodyPointer bodies old = false ∧ target = movePointer old
  schema : ∀ schema, kept.child? "schema" = some schema → MovedFrom p [] schema

theorem present?_plainFields (parameter : Fields) :
    (plainFields parameter).present? "$ref" = parameter.present? "$ref" := by
  have hkeys := (plainFields_survives parameter).keys "$ref" (by decide) (by decide) (by decide)
  rw [Fields.present?, Fields.present?, ← hkeys]
  rfl

theorem plainFields_movedFrom {parameter : Fields} (hkeyed : (Value.map parameter).isKeyed = true)
    {schema : Value} (h : (Value.map (plainFields parameter)).child? "schema" = some schema) :
    MovedFrom (.map parameter) [] schema := by
  rw [(plainFields_survives parameter).schema] at h
  cases h
  exact valueSchema_movedFrom hkeyed

theorem listedMoved {p : Value} {kept : Value} (hto : ConvertsTo bodies consumes p (.listed kept))
    (hkeyed : p.isKeyed = true) : ListedMoved bodies p kept := by
  generalize hc : ConvertedParameter.listed kept = c at hto
  cases hto with
  | @pointer fields old href =>
    rw [convertPointer_eq] at hc
    split at hc
    · cases hc
    · rename_i hpointer
      cases hc
      constructor
      · intro target h
        exact ⟨old, .here href, Bool.eq_false_iff.mpr hpointer, pointer_object h⟩
      · intro schema h
        rw [Value.child?_object, List.lookup_cons, beq_eq_false_iff_ne.mpr (by decide)] at h
        cases h
  | body => cases hc
  | formPart => cases hc
  | @plain fields hinline =>
    cases hc
    constructor
    · intro target h
      rw [pointerAt_here, present?_plainFields, hinline] at h
      cases h
    · intro schema h
      exact plainFields_movedFrom hkeyed h

/-! ## responses -/

/-- a response: it is a pointer if it was one, and its schemas are those of the response and of its
headers -/
structure ResponseMoved (v response : Value) : Prop where
  pointer : ∀ target, PointerAt [] response target → ∃ old, PointerAt [] v old ∧
    target = movePointer old
  content : ContentMoved v [.key (.string "schema")] response
  headers : ∀ entry ∈ entriesUnder response ["headers"], ∀ schema,
    entry.2.child? "schema" = some schema →
      MovedFrom v [.key (.string "headers"), .key entry.1] schema

theorem ResponseTo.moved {produces v response : Value} (h : ResponseTo produces v response)
    (hkeyed : v.isKeyed = true) : ResponseMoved v response := by
  cases h with
  | null =>
    constructor
    · intro target h
      cases h
    · intro entry hentry
      cases hentry
    · intro entry hentry
      cases hentry
  | @pointer fields old href =>
    constructor
    · intro target h
      have htruthy := (Option.filter_eq_some_iff.mp (pointerAt_here.mp h)).2
      cases pointer_object h
      exact ⟨old, .here (Option.filter_eq_some_iff.mpr ⟨href, truthy_movePointer htruthy⟩), rfl⟩
    · intro entry hentry
      rw [entriesUnder_pointer _ _ (by decide)] at hentry
      cases hentry
    · intro entry hentry
      rw [entriesUnder_pointer _ _ (by decide)] at hentry
      cases hentry
  | @inline fields content headers href hcontent hheaders =>
    have hnames : ∀ entry ∈ [("description", (fields.get? "description").getD (.text ""))] ++
        content ++ headers, entry.1 ≠ "$ref" := by
      cases hcontent <;> cases hheaders <;> simp
    have hkeyed' : ∀ {name : String} {w : Value}, fields.get? name = some w → w.isKeyed = true :=
      isKeyed_of_get? hkeyed
    constructor
    · intro target h
      obtain ⟨_, _, _, hpath, _⟩ := pointerAt_object hnames h
      cases hpath
    · cases hcontent with
      | none =>
        intro entry hentry
        cases hheaders <;> cases hentry
      | @some schema content hschema hof =>
        have hget := (Option.filter_eq_some_iff.mp hschema).1
        have hmoved := (convertSchema_movedFrom (hkeyed' hget)).under (Fields.mem_of_get? hget) rfl
        exact hof.moved hmoved (Value.child?_object _ _)
    · cases hheaders with
      | none =>
        intro entry hentry
        cases hcontent <;> cases hentry
      | @some entries converted hget hall =>
        intro entry hentry schema hschema
        have hunder : entry ∈ converted := by
          cases hcontent <;> exact hentry
        obtain ⟨own, hown, fs, hfs, rfl⟩ := exists_mem_of_forall₂ hall.flip hunder
        rw [Value.child?_object] at hschema
        cases hschema
        have hown' : own.2.isKeyed = true := (Value.isKeyed_map.mp (hkeyed' hget)).2 own hown
        rw [hfs] at hown'
        exact ((valueSchema_movedFrom hown').under hown hfs).under (Fields.mem_of_get? hget) rfl

/-! ## operations -/

/-- the pointers in an operation -/
structure OperationMoved (bodies : List Atom) (operation : Fields) (out : Value) : Prop where
  listed : ∀ kept ∈ parameterList (entriesOf out), ∃ p ∈ parameterList operation,
    ListedMoved bodies p kept
  body : ∀ body, out.child? "requestBody" = some body →
    operation.get? "requestBody" = some body ∨ BodyFrom bodies (parameterList operation) body
  responses : ∀ response ∈ entriesUnder out ["responses"], ∃ entry ∈ entriesAt operation "responses",
    response.1 = .string entry.1.plain ∧ ResponseMoved entry.2 response.2

theorem parameterList_eq {holder : Fields} {v : Value} (h : holder.get? "parameters" = some v) :
    parameterList holder = itemsOf v := by
  rw [parameterList, h]
  rfl

/-- the parameters that are listed afterwards, if the list comes from the one that was there -/
theorem listed_of_list {bodies : List Atom} {consumes : Option Value} {holder : Fields}
    (hkeyed : (Value.map holder).isKeyed = true) {v : Value}
    (hget : holder.get? "parameters" = some v) {converted : List ConvertedParameter}
    (hall : List.Forall₂ (ConvertsTo bodies consumes) (itemsOf v) converted) :
    ∀ kept ∈ converted.filterMap ConvertedParameter.listed?, ∃ p ∈ parameterList holder,
      ListedMoved bodies p kept := by
  intro kept hkept
  obtain ⟨c, hc, hlisted⟩ := List.mem_filterMap.mp hkept
  cases c with
  | listed own =>
    cases hlisted
    obtain ⟨p, hp, hto⟩ := exists_mem_of_forall₂ hall.flip hc
    rw [← parameterList_eq hget] at hp
    exact ⟨p, hp, listedMoved hto (isKeyed_parameterList hkeyed p hp)⟩
  | _ => cases hlisted

theorem ResponsesTo.moved {produces responses out : Value} (h : ResponsesTo produces responses out)
    (hkeyed : responses.isKeyed = true) : ∀ response ∈ entriesOf out, ∃ entry ∈ entriesOf responses,
      response.1 = .string entry.1.plain ∧ ResponseMoved entry.2 response.2 := by
  cases h with
  | @mk converted hall =>
    have htext : ∀ response ∈ converted, ∃ entry ∈ keptResponses responses,
        response.1 = .string entry.1.plain ∧ ResponseTo produces entry.2 response.2 :=
      fun response hresponse => exists_mem_of_forall₂ hall.flip hresponse
    have hsame : ∀ entry ∈ converted, ∀ other ∈ converted,
        entry.1.same other.1 = true → entry.1 = other.1 := by
      intro entry _ other hother hsame
      obtain ⟨_, _, hkey, _⟩ := htext other hother
      rw [hkey] at hsame ⊢
      exact Atom.same_string.mp hsame
    intro response hresponse
    obtain ⟨entry, hentry, hkey, hto⟩ := htext response (Fields.mem_of_mem_ofEntries hsame hresponse)
    have hmem := (List.mem_filter.mp hentry).1
    exact ⟨entry, hmem, hkey,
      hto.moved ((Value.isKeyed_map.mp (isKeyed_entriesOf hkeyed)).2 entry hmem)⟩

theorem OperationTo.moved {setting : Setting} {operation : Fields} {out : Value}
    (h : OperationTo setting operation out) (hkeyed : (Value.map operation).isKeyed = true) :
    OperationMoved setting.bodies operation out := by
  have hkeys := Value.distinct_of_isKeyed hkeyed
  cases h with
  | @mk outs hall =>
    constructor
    · intro kept hkept
      obtain ⟨u, hu, hitems⟩ := exists_list_of_mem hkept
      rw [hitems] at hkept
      obtain ⟨⟨key, v⟩, hmem, out, hout, hin⟩ := exists_of_get?_flatten hall hu
      rcases hout.of_mem hin with ⟨rfl, converted, body, hconverted, _, hcases⟩ | ⟨_, hname, _⟩ |
        ⟨_, hname, _⟩
      · rcases hcases with ⟨_, rfl⟩ | ⟨hname, _⟩
        · exact listed_of_list hkeyed (Fields.get?_of_mem hkeys hmem) hconverted kept hkept
        · exact absurd hname (by decide)
      · exact absurd hname (by decide)
      · exact (hname rfl).elim
    · intro body hbody
      obtain ⟨⟨key, v⟩, hmem, out, hout, hin⟩ := exists_of_get?_flatten hall hbody
      rcases hout.of_mem hin with ⟨rfl, converted, _, hconverted, hleaves, hcases⟩ |
        ⟨_, hname, _⟩ | ⟨heq, _, _⟩
      · rcases hcases with ⟨hname, _⟩ | ⟨_, rfl⟩
        · exact absurd hname (by decide)
        · have hget := Fields.get?_of_mem hkeys hmem
          have hitems := isKeyed_parameterList hkeyed
          rw [parameterList_eq hget] at hitems ⊢
          exact .inr (hleaves.from hconverted hitems)
      · exact absurd hname (by decide)
      · cases heq
        exact .inl (Fields.get?_of_mem hkeys hmem)
    · intro response hresponse
      rw [entriesUnder, Value.at?_singleton] at hresponse
      cases hget : (Value.map (Fields.ofEntries outs.flatten)).child? "responses" with
      | none =>
        rw [hget] at hresponse
        cases hresponse
      | some u =>
        rw [hget] at hresponse
        obtain ⟨v, hv, hresponses⟩ := (OperationTo.mk hall).exists_responses hkeys hget
        rw [entriesAt, hv]
        exact hresponses.moved (isKeyed_of_get? hkeyed hv) response hresponse

/-! ## path items -/

/-- the pointers in a path item -/
structure ItemMoved (bodies : List Atom) (item : Fields) (out : Value) : Prop where
  listed : ∀ kept ∈ parameterList (entriesOf out), ∃ p ∈ parameterList item,
    ListedMoved bodies p kept
  operations : ∀ method ∈ methods, ∀ operation, out.child? method = some operation →
    ∃ v, item.get? method = some v ∧ OperationMoved bodies (entriesOf v) operation

theorem PathEntryTo.of_mem {setting : Setting} {entry : Atom × Value} {out : Fields}
    (h : PathEntryTo setting entry out) {name : String} {u : Value} (hu : (.string name, u) ∈ out) :
    entry.1 = .string name ∧
      ((name ∈ methods ∧ OperationTo setting (entriesOf entry.2) u) ∨
        (name = "parameters" ∧ ∃ converted,
          List.Forall₂ (ConvertsTo setting.bodies none) (itemsOf entry.2) converted ∧
          u = .list (converted.filterMap ConvertedParameter.listed?)) ∨
        name ∉ "parameters" :: methods) := by
  cases h with
  | operation hname hall =>
    cases List.mem_singleton.mp hu
    exact ⟨rfl, .inl ⟨hname, hall⟩⟩
  | @parameters v converted hall =>
    obtain ⟨hname, hlist⟩ := mem_listedEntry hu
    exact ⟨hname.symm, .inr (.inl ⟨Atom.string.inj hname, converted, hall, hlist⟩)⟩
  | pointer target =>
    cases List.mem_singleton.mp hu
    exact ⟨rfl, .inr (.inr (by decide))⟩
  | other v hkey =>
    cases List.mem_singleton.mp hu
    refine ⟨rfl, .inr (.inr fun hname => ?_)⟩
    rcases List.mem_cons.mp hname with rfl | hname
    · exact hkey _ List.mem_cons_self rfl
    · exact hkey _ (List.mem_cons_of_mem _ (List.mem_cons_of_mem _ hname)) rfl

theorem PathItemTo.moved {setting : Setting} {item : Fields} {out : Value}
    (h : PathItemTo setting item out) (hkeyed : (Value.map item).isKeyed = true) :
    ItemMoved setting.bodies item out := by
  have hkeys := Value.distinct_of_isKeyed hkeyed
  cases h with
  | @mk outs hall =>
    constructor
    · intro kept hkept
      obtain ⟨u, hu, hitems⟩ := exists_list_of_mem hkept
      rw [hitems] at hkept
      obtain ⟨⟨key, v⟩, hmem, out, hout, hin⟩ := exists_of_get?_flatten hall hu
      obtain ⟨rfl, hcases⟩ := hout.of_mem hin
      rcases hcases with ⟨hname, _⟩ | ⟨_, converted, hconverted, rfl⟩ | hname
      · exact absurd hname (by decide)
      · exact listed_of_list hkeyed (Fields.get?_of_mem hkeys hmem) hconverted kept hkept
      · exact (hname List.mem_cons_self).elim
    · intro method hmethod operation hget
      obtain ⟨⟨key, v⟩, hmem, out, hout, hin⟩ := exists_of_get?_flatten hall hget
      obtain ⟨rfl, hcases⟩ := hout.of_mem hin
      have hv := Fields.get?_of_mem hkeys hmem
      rcases hcases with ⟨_, hoperation⟩ | ⟨rfl, _⟩ | hname
      · exact ⟨v, hv, hoperation.moved (isKeyed_entriesOf (isKeyed_of_get? hkeyed hv))⟩
      · exact absurd hmethod (by decide)
      · exact (hname (List.mem_cons_of_mem _ hmethod)).elim

/-! ## documents -/

/-- The pointers in a converted document.  Those in schemas, lists, bodies and responses have moved;
one in place of a component parameter has not. -/
structure PointersMoved (document : Fields) (out : Value) : Prop where
  schemas : ∀ schema ∈ entriesUnder out ["components", "schemas"],
    ∃ entry ∈ entriesAt document "definitions", schema.1 = entry.1 ∧
      MovedFrom entry.2 [] schema.2
  bodies : ∀ body ∈ entriesUnder out ["components", "requestBodies"],
    ∃ parameter : Fields, (body.1, .map parameter) ∈ entriesAt document "parameters" ∧
      BodyMoved parameter body.2
  parameters : ∀ kept ∈ entriesUnder out ["components", "parameters"],
    ∃ parameter : Fields, (kept.1, .map parameter) ∈ entriesAt document "parameters" ∧
      (∀ target, PointerAt [] kept.2 target ↔ PointerAt [] (.map parameter) target) ∧
      ∀ schema, kept.2.child? "schema" = some schema → MovedFrom (.map parameter) [] schema
  responses : ∀ response ∈ entriesUnder out ["components", "responses"],
    ∃ entry ∈ entriesAt document "responses", response.1 = entry.1 ∧
      ResponseMoved entry.2 response.2
  items : ∀ item ∈ entriesUnder out ["paths"], ∃ entry ∈ entriesAt document "paths",
    item.1 = entry.1 ∧ ItemMoved (bodyNames document) (entriesOf entry.2) item.2

theorem pointersMoved {document : Fields} {out : Value} (h : DocumentTo document out)
    (hkeyed : (Value.map document).isKeyed = true) : PointersMoved document out := by
  have hvalue : ∀ {name : String} {entry : Atom × Value}, entry ∈ entriesAt document name →
      entry.2.isKeyed = true :=
    fun hentry => (Value.isKeyed_map.mp (isKeyed_entriesAt hkeyed _)).2 _ hentry
  obtain ⟨parameters, hparameters, hkinds⟩ := h.parameters
  have hkind : ∀ kind ∈ ["requestBodies", "parameters"], ∀ component ∈
      entriesUnder out ["components", kind], ∃ entry ∈ entriesAt document "parameters",
        ComponentParameterTo (document.get? "consumes") entry (kind, component) := by
    intro kind hkind component hcomponent
    -- the kind of a component is recorded with it, so the parameter behind it can be told
    rw [entriesUnder_mapOrNone (hkinds kind hkind)] at hcomponent
    obtain ⟨⟨own, result⟩, hresult, rfl⟩ := List.mem_map.mp hcomponent
    obtain ⟨hmem, hown⟩ := List.mem_filter.mp hresult
    obtain ⟨entry, hentry, hto⟩ := exists_mem_of_forall₂ hparameters.flip hmem
    exact ⟨entry, hentry, beq_iff_eq.mp hown ▸ hto⟩
  constructor
  · intro schema hschema
    rw [entriesUnder_mapOrNone h.schemas] at hschema
    obtain ⟨entry, hentry, rfl⟩ := List.mem_map.mp hschema
    exact ⟨entry, hentry, rfl, convertSchema_movedFrom (hvalue hentry)⟩
  · intro body hbody
    obtain ⟨entry, hentry, hto⟩ := hkind "requestBodies" (by decide) body hbody
    generalize hresult : ("requestBodies", body) = result at hto
    cases hto with
    | @body key fields own _ hof =>
      cases hresult
      exact ⟨fields, hentry, hof.moved (hvalue hentry)⟩
    | plain =>
      exact absurd (show "requestBodies" = "parameters" from congrArg Prod.fst hresult) (by decide)
  · intro kept hkept
    obtain ⟨entry, hentry, hto⟩ := hkind "parameters" (by decide) kept hkept
    generalize hresult : ("parameters", kept) = result at hto
    cases hto with
    | body =>
      exact absurd (show "parameters" = "requestBodies" from congrArg Prod.fst hresult) (by decide)
    | @plain key fields _ =>
      cases hresult
      refine ⟨fields, hentry, fun target => ?_, fun schema h => ?_⟩
      · rw [pointerAt_here, pointerAt_here, present?_plainFields]
      · exact plainFields_movedFrom (hvalue hentry) h
  · intro response hresponse
    obtain ⟨converted, hall, hout⟩ := h.responses
    rw [entriesUnder_mapOrNone hout] at hresponse
    obtain ⟨entry, hentry, hkey, hto⟩ := exists_mem_of_forall₂ hall.flip hresponse
    exact ⟨entry, hentry, hkey, hto.moved (hvalue hentry)⟩
  · intro item hitem
    obtain ⟨path, v, hentry, hkey, hto⟩ := h.exists_item hitem
    exact ⟨_, hentry, hkey, hto.moved (isKeyed_entriesOf (hvalue hentry))⟩

/-- Where the pointers of a converted document lead: to what became of the part that they led to,
under the new name; a pointer to a parameter that is a body, to the body that it became. -/
structure PointersPreserved (document : Fields) (out : Value) : Prop where
  found : ComponentsFound document out
  moved : PointersMoved document out
  naming : PointerNaming movePointer
  noneOld : ∀ target, isOld (movePointer target) = false
  bodies : ∀ name parameter, '/' ∉ name.toList →
    (Value.map document).at? ["parameters", name] = some (.map parameter) →
    isBodyPointer (bodyNames document) ("#/parameters/" ++ name) = hasText parameter "in" "body" ∧
      pointerName ("#/parameters/" ++ name) = name

/-- **Pointers are preserved.**  Every pointer has moved with the component that it leads to, and
none is left to an old place; but the pointer of a component parameter is still the one that it
was. -/
theorem pointers_preserved {document : Fields} {out : Value} {warnings : List String}
    (hkeyed : (Value.map document).isKeyed = true)
    (h : convert (.map document) = .ok ⟨out, warnings⟩) : PointersPreserved document out := by
  obtain ⟨own, hown, hto⟩ := convert_gives ⟨warnings, h⟩
  cases hown
  exact
    { found := componentsFound hto hkeyed
      moved := pointersMoved hto hkeyed
      naming := movePointer_naming
      noneOld := movePointer_isOld
      bodies := fun name parameter hname hparameter =>
        ⟨isBodyPointer_parameter hkeyed hname hparameter, pointerName_parameter hname⟩ }

/-- a document with pointers of all kinds -/
def pointingDocument : Fields :=
  [(.string "swagger", .text "2.0"), (.string "host", .text "pets.example"),
    (.string "definitions", .object [("Pet", .object [("type", .text "object"),
      ("properties", .object [("mother", .object [("$ref", .text "#/definitions/Pet")])])])]),
    (.string "parameters", .object [
      ("Limit", .object [("in", .text "query"), ("name", .text "limit"),
        ("type", .text "integer")]),
      ("Alias", .object [("$ref", .text "#/parameters/Limit")]),
      ("NewPet", .object [("in", .text "body"), ("name", .text "pet"),
        ("schema", .object [("$ref", .text "#/definitions/Pet")])])]),
    (.string "responses", .object [("Found", .object [("description", .text "a pet"),
      ("schema", .object [("$ref", .text "#/definitions/Pet")])])]),
    (.string "paths", .object [("/pets", .object [("post", .object [
      ("operationId", .text "addPet"),
      ("parameters", .list [.object [("$ref", .text "#/parameters/Limit")],
        .object [("$ref", .text "#/parameters/NewPet")]]),
      ("responses", .object [("200", .object [("$ref", .text "#/responses/Found")])])])])])]

/-- all its pointers move but that of the component parameter -/
theorem pointers_preserved_pointingDocument : (Value.map pointingDocument).isKeyed = true ∧
    ∃ out, convert (.map pointingDocument) = .ok ⟨out, []⟩ ∧
      PointersPreserved pointingDocument out ∧
      (out.at? ["components", "parameters", "Alias", "$ref"]).any
        (Value.isText "#/parameters/Limit") = true := by
  have hkeyed : (Value.map pointingDocument).isKeyed = true := by decide +kernel
  exact ⟨hkeyed, _, rfl, pointers_preserved hkeyed rfl, rfl⟩

end ApiBindings.Swagger
