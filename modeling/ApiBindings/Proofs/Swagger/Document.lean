import ApiBindings.Proofs.Swagger.Parameters
import ApiBindings.Swagger.Document

/-!
# Where the parts of a document go

A document is converted entry by entry; an entry of a path item or of an operation becomes entries
under its own key, but for the parameters of an operation, which can leave a request body too.

* `ResponseTo`, `OperationTo`, `PathItemTo`   a part of a document and what it becomes;
* `DocumentTo`                                a document and what it becomes, part by part;
* `convert_gives`                             a conversion that goes through gives that.
-/

namespace ApiBindings.Swagger

open Conversion

/-! ## entries made of entries -/

section
variable {R : Atom × Value → List (Atom × Value) → Prop} {fields : Fields}
  {outs : List (List (Atom × Value))} {name source : String}

def Lacks (fields : Fields) (name : String) : Prop := ∀ entry ∈ fields, entry.1 ≠ .string name

theorem get?_append (s t : Fields) (name : String) :
    Fields.get? (s ++ t) name = (Fields.get? s name).or (Fields.get? t name) := by
  unfold Fields.get?
  rw [List.find?_append]
  cases s.find? fun entry => entry.1 == .string name <;> rfl

theorem Lacks.get? {fields : Fields} {name : String} (h : Lacks fields name) :
    fields.get? name = none := by
  refine Fields.get?_eq_none ?_
  intro hmem
  obtain ⟨entry, hentry, heq⟩ := List.mem_map.mp hmem
  exact h entry hentry heq

theorem Lacks.reverse {fields : Fields} {name : String} (h : Lacks fields name) :
    Lacks fields.reverse name :=
  fun entry hentry => h entry (List.mem_reverse.mp hentry)

/-- an entry that is found has the others before and behind it -/
theorem exists_split {v : Value} (hkeys : fields.Distinct)
    (hv : fields.get? source = some v) : ∃ before after,
      fields = before ++ (.string source, v) :: after ∧ Lacks before source ∧
        Lacks after source := by
  obtain ⟨before, after, rfl⟩ := List.append_of_mem (Fields.mem_of_get? hv)
  have hpair := List.pairwise_append.mp hkeys
  refine ⟨before, after, rfl, ?_, ?_⟩
  · intro entry hentry heq
    exact hpair.2.2 entry hentry _ List.mem_cons_self (Atom.same_string.mpr heq)
  · intro entry hentry heq
    exact (List.pairwise_cons.mp hpair.2.1).1 entry hentry (Atom.string_same.mpr heq.symm)

theorem lacks_flatten (h : List.Forall₂ R fields outs)
    (hown : ∀ entry ∈ fields, ∀ out, R entry out → Lacks out name) :
    Lacks outs.flatten name := by
  induction h with
  | nil =>
    intro entry hentry
    cases hentry
  | cons hout _ ih =>
    intro entry hentry
    rw [List.flatten_cons] at hentry
    rcases List.mem_append.mp hentry with hentry | hentry
    · exact hown _ List.mem_cons_self _ hout entry hentry
    · exact ih (fun other hother => hown other (List.mem_cons_of_mem _ hother)) entry hentry

theorem forall₂_split {α β : Type} {R : α → β → Prop} {before after : List α} {a : α}
    {bs : List β} (h : List.Forall₂ R (before ++ a :: after) bs) : ∃ before' b after',
      bs = before' ++ b :: after' ∧ List.Forall₂ R before before' ∧ R a b ∧
        List.Forall₂ R after after' := by
  induction before generalizing bs with
  | nil =>
    obtain ⟨b, after', hb, hafter, rfl⟩ := List.forall₂_cons_left_iff.mp h
    exact ⟨[], b, after', rfl, .nil, hb, hafter⟩
  | cons x before ih =>
    obtain ⟨y, rest, hy, hrest, rfl⟩ := List.forall₂_cons_left_iff.mp h
    obtain ⟨before', b, after', rfl, hbefore, hb, hafter⟩ := ih hrest
    exact ⟨y :: before', b, after', rfl, .cons hy hbefore, hb, hafter⟩

/-- If the entries under a key come from one entry only, they are found where this one was. -/
theorem get?_flatten (hkeys : fields.Distinct) (h : List.Forall₂ R fields outs)
    (hown : ∀ entry out, R entry out → entry.1 ≠ .string source → Lacks out name) {v : Value}
    (hv : fields.get? source = some v) : ∃ out, R (.string source, v) out ∧
      Fields.get? outs.flatten name = Fields.get? out name ∧
      (Fields.ofEntries outs.flatten).get? name = Fields.get? out.reverse name := by
  obtain ⟨before, after, rfl, hbefore, hafter⟩ := exists_split hkeys hv
  obtain ⟨outs₁, out, outs₂, rfl, h₁, hout, h₂⟩ := forall₂_split h
  have hlacks₁ := lacks_flatten h₁ fun entry hentry o ho => hown entry o ho (hbefore entry hentry)
  have hlacks₂ := lacks_flatten h₂ fun entry hentry o ho => hown entry o ho (hafter entry hentry)
  refine ⟨out, hout, ?_, ?_⟩
  · rw [List.flatten_append, List.flatten_cons, get?_append, get?_append, hlacks₁.get?,
      hlacks₂.get?, Option.none_or, Option.or_none]
  · rw [Fields.get?_ofEntries, List.flatten_append, List.flatten_cons, List.reverse_append,
      List.reverse_append, get?_append, get?_append, hlacks₁.reverse.get?, hlacks₂.reverse.get?,
      Option.none_or, Option.or_none]

end

/-! ## mappings that may be missing -/

def entriesOf : Value → Fields
  | .map fields => fields
  | _ => []

def entriesAt (fields : Fields) (name : String) : Fields :=
  entriesOf ((fields.get? name).getD .null)

/-- a mapping unless it is empty -/
def mapOrNone (fields : Fields) : Option Value :=
  if fields.isEmpty then none else some (.map fields)

theorem entries_orElse {v : Value} {fields : Fields}
    (h : (Value.orElse (some v) (.map [])).entries = .ok fields) : fields = entriesOf v := by
  rw [orElse_some] at h
  by_cases htruthy : v.truthy = true
  · rw [if_pos htruthy] at h
    rw [entries_eq_ok h]
    rfl
  · rw [if_neg htruthy] at h
    cases h
    cases v with
    | map own =>
      cases own with
      | nil => rfl
      | cons entry rest => exact (htruthy rfl).elim
    | _ => rfl

theorem mappingOr_eq_ok {fields entries : Fields} {name : String}
    (h : mappingOr fields name = .ok entries) : entries = entriesAt fields name := by
  unfold mappingOr at h
  unfold entriesAt
  cases hget : fields.get? name with
  | none =>
    rw [hget] at h
    cases h
    rfl
  | some v =>
    rw [hget] at h
    exact entries_orElse h

theorem entriesAt_of_present? {fields entries : Fields} {name : String}
    (h : fields.present? name = some (.map entries)) : entriesAt fields name = entries := by
  rw [entriesAt, (Option.filter_eq_some_iff.mp h).1]
  rfl

/-- under a key that does not count as present there is no entry, if the others are a mapping's -/
theorem entriesAt_of_absent {fields : Fields} {name : String}
    (h : fields.present? name = none) : entriesAt fields name = [] := by
  unfold entriesAt
  cases hget : fields.get? name with
  | none => rfl
  | some v =>
    rw [Fields.present?, hget, Option.filter_some] at h
    cases v with
    | map own =>
      cases own with
      | nil => rfl
      | cons entry rest => cases h
    | _ => rfl

theorem get?_mapOrNone (fields : Fields) (name : String) :
    (mapOrNone fields).bind (Value.child? name) = fields.get? name := by
  cases fields <;> rfl

/-! ## responses -/

/-- the content of a response with a schema -/
inductive ResponseContent (fields : Fields) (produces : Value) : List (String × Value) → Prop
  | none (habsent : fields.present? "schema" = none) : ResponseContent fields produces []
  | some {schema content : Value} (hschema : fields.present? "schema" = some schema)
      (hcontent : ContentOf (convertSchema schema) produces content) :
      ResponseContent fields produces [("content", content)]

/-- a header of a response and what it becomes -/
def HeaderTo (entry converted : Atom × Value) : Prop :=
  ∃ fields : Fields, entry.2 = .map fields ∧ converted = (entry.1, .object
    [("description", (fields.get? "description").getD (.text "")), ("schema", valueSchema fields)])

inductive ResponseHeaders (fields : Fields) : List (String × Value) → Prop
  | none : ResponseHeaders fields []
  | some {entries converted : Fields} (hheaders : fields.get? "headers" = some (.map entries))
      (hall : List.Forall₂ HeaderTo entries converted) :
      ResponseHeaders fields [("headers", .map converted)]

theorem responseContent_gives {fields : Fields} {produces : Value} {part : List (String × Value)}
    (h : (responseContent fields produces).Gives part) : ResponseContent fields produces part := by
  unfold responseContent at h
  split at h
  · rename_i habsent
    rw [← gives_pure.mp h]
    exact .none habsent
  · rename_i schema hschema
    obtain ⟨content, hcontent, hpart⟩ := gives_bind.mp h
    rw [← gives_pure.mp hpart]
    exact .some hschema (contentOf_gives hcontent)

theorem responseHeaders_gives {fields : Fields} {part : List (String × Value)}
    (h : (responseHeaders fields).Gives part) : ResponseHeaders fields part := by
  unfold responseHeaders at h
  split at h
  · rw [← gives_pure.mp h]
    exact .none
  · rename_i headers hheaders
    obtain ⟨entries, hentries, hrest⟩ := gives_bind.mp h
    obtain ⟨converted, hconverted, hpart⟩ := gives_bind.mp hrest
    rw [← gives_pure.mp hpart]
    rw [entries_eq_ok (gives_ofExcept.mp hentries)] at hheaders
    refine .some (Option.filter_eq_some_iff.mp hheaders).1 ?_
    refine (gives_each.mp hconverted).imp ?_
    intro entry header hheader
    obtain ⟨own, hown, hresult⟩ := gives_bind.mp hheader
    exact ⟨own, entries_eq_ok (gives_ofExcept.mp hown), (gives_pure.mp hresult).symm⟩

/-- a response and what it becomes; a null one stays null -/
inductive ResponseTo (produces : Value) : Value → Value → Prop
  | null : ResponseTo produces .null .null
  | pointer {fields : Fields} {target : String} (href : fields.get? "$ref" = some (.text target)) :
      ResponseTo produces (.map fields) (.object [("$ref", .text (movePointer target))])
  | inline {fields : Fields} {content headers : List (String × Value)}
      (href : fields.get? "$ref" = none) (hcontent : ResponseContent fields produces content)
      (hheaders : ResponseHeaders fields headers) :
      ResponseTo produces (.map fields) (.object
        ([("description", (fields.get? "description").getD (.text ""))] ++ content ++ headers))

theorem convertResponse_gives {produces v response : Value}
    (h : (convertResponse produces v).Gives response) : ResponseTo produces v response := by
  unfold convertResponse at h
  split at h
  · rw [← gives_pure.mp h]
    exact .null
  · obtain ⟨isPointer, hholds, hrest⟩ := gives_bind.mp h
    rw [gives_ofExcept] at hholds
    split at hrest
    · rename_i fields _
      obtain ⟨target, htarget, hresponse⟩ := gives_bind.mp hrest
      have htext := asText_eq_ok (gives_ofExcept.mp htarget)
      rw [← gives_pure.mp hresponse]
      refine .pointer ?_
      cases href : Fields.get? fields "$ref" with
      | none =>
        rw [href] at htext
        cases htext
      | some pointer =>
        rw [href] at htext
        exact congrArg some htext
    · exact (not_gives_stop hrest).elim
    · obtain ⟨fields, hfields, hmore⟩ := gives_bind.mp hrest
      obtain ⟨content, hcontent, hlast⟩ := gives_bind.mp hmore
      obtain ⟨headers, hheaders, hresponse⟩ := gives_bind.mp hlast
      rw [entries_eq_ok (gives_ofExcept.mp hfields)] at hholds ⊢
      rw [← gives_pure.mp hresponse]
      have hhas : (fields.get? "$ref").isSome = false := Except.ok.inj hholds
      exact .inline (Option.isSome_eq_false_iff.mp hhas |> Option.isNone_iff_eq_none.mp)
        (responseContent_gives hcontent) (responseHeaders_gives hheaders)

def keptResponses (responses : Value) : Fields :=
  (entriesOf responses).filter fun entry => !Text.startsWith "x-" entry.1.plain

/-- the responses of an operation under text keys -/
inductive ResponsesTo (produces responses : Value) : Value → Prop
  | mk {converted : Fields}
      (hall : List.Forall₂ (fun entry response =>
        response.1 = .string entry.1.plain ∧ ResponseTo produces entry.2 response.2)
        (keptResponses responses) converted) :
      ResponsesTo produces responses (.map (Fields.ofEntries converted))

theorem convertResponses_gives {produces responses v : Value}
    (h : (convertResponses produces responses).Gives v) : ResponsesTo produces responses v := by
  obtain ⟨entries, hentries, hrest⟩ := gives_bind.mp h
  obtain ⟨converted, hconverted, hv⟩ := gives_bind.mp hrest
  rw [entries_orElse (gives_ofExcept.mp hentries)] at hconverted
  rw [← gives_pure.mp hv]
  refine .mk ((gives_each.mp hconverted).imp ?_)
  intro entry response hentry
  obtain ⟨own, hown, hpair⟩ := gives_bind.mp hentry
  rw [← gives_pure.mp hpair]
  exact ⟨rfl, convertResponse_gives hown⟩

/-! ## operations -/

def consumedTypes (setting : Setting) (operation : Fields) : Option Value :=
  mediaTypesOr (operation.get? "consumes") setting.consumes

def producedTypes (setting : Setting) (operation : Fields) : Value :=
  Value.orElse (mediaTypesOr (operation.get? "produces") setting.produces) defaultMediaTypes

/-- the list of parameters unless it is empty -/
def listedEntry (converted : List ConvertedParameter) : Fields :=
  let listed := converted.filterMap ConvertedParameter.listed?
  if listed.isEmpty then [] else [(.string "parameters", .list listed)]

def droppedOperationKeys : List String := ["consumes", "produces", "schemes"]

/-- an entry of an operation and the entries that it becomes -/
inductive OperationEntryTo (setting : Setting) (operation : Fields) :
    Atom × Value → Fields → Prop
  | dropped {name : String} (v : Value) (hname : name ∈ droppedOperationKeys) :
      OperationEntryTo setting operation (.string name, v) []
  | parameters {v : Value} {converted : List ConvertedParameter} {body : Option Value}
      (hall : List.Forall₂ (ConvertsTo setting.bodies (consumedTypes setting operation))
        (itemsOf v) converted)
      (hbody : LeavesBody converted body) :
      OperationEntryTo setting operation (.string "parameters", v)
        (listedEntry converted ++ (body.map fun b => (Atom.string "requestBody", b)).toList)
  | responses {v responses : Value}
      (hall : ResponsesTo (producedTypes setting operation) v responses) :
      OperationEntryTo setting operation (.string "responses", v)
        [(.string "responses", responses)]
  | other {key : Atom} (v : Value)
      (hkey : ∀ name ∈ "parameters" :: "responses" :: droppedOperationKeys, key ≠ .string name) :
      OperationEntryTo setting operation (key, v) [(key, v)]

theorem convertOperationEntry_gives {setting : Setting} {operation : Fields} {entry : Atom × Value}
    {out : Fields} (h : (convertOperationEntry setting operation entry).Gives out) :
    OperationEntryTo setting operation entry out := by
  obtain ⟨key, v⟩ := entry
  unfold convertOperationEntry at h
  split at h
  · rename_i hkey
    cases hkey
    rw [← gives_pure.mp h]
    exact .dropped v (by decide)
  · rename_i hkey
    cases hkey
    rw [← gives_pure.mp h]
    exact .dropped v (by decide)
  · rename_i hkey
    cases hkey
    rw [← gives_pure.mp h]
    exact .dropped v (by decide)
  · rename_i hkey
    cases hkey
    obtain ⟨⟨listed, body⟩, hresult, hout⟩ := gives_bind.mp h
    obtain ⟨converted, hall, hlisted, hbody⟩ := convertParameters_gives hresult
    rw [← gives_pure.mp hout, show listed = _ from hlisted]
    exact .parameters hall hbody
  · rename_i hkey
    cases hkey
    obtain ⟨responses, hresponses, hout⟩ := gives_bind.mp h
    rw [← gives_pure.mp hout]
    exact .responses (convertResponses_gives hresponses)
  · rename_i hconsumes hproduces hschemes hparameters hresponses
    rw [← gives_pure.mp h]
    refine .other v ?_
    intro name hname
    simp only [droppedOperationKeys, List.mem_cons, List.not_mem_nil, or_false] at hname
    rcases hname with rfl | rfl | rfl | rfl | rfl
    · exact hparameters
    · exact hresponses
    · exact hconsumes
    · exact hproduces
    · exact hschemes

/-- an operation and what it becomes -/
inductive OperationTo (setting : Setting) (operation : Fields) : Value → Prop
  | mk {outs : List Fields} (hall : List.Forall₂ (OperationEntryTo setting operation) operation outs) :
      OperationTo setting operation (.map (Fields.ofEntries outs.flatten))

theorem convertOperation_gives {setting : Setting} {operation v : Value}
    (h : (convertOperation setting (Value.orElse (some operation) (.map []))).Gives v) :
    OperationTo setting (entriesOf operation) v := by
  obtain ⟨fields, hfields, hrest⟩ := gives_bind.mp h
  obtain ⟨outs, houts, hresult⟩ := gives_bind.mp hrest
  rw [← entries_orElse (gives_ofExcept.mp hfields)]
  have hv : v = .map (Fields.ofEntries outs.flatten) := by
    split at hresult
    · obtain ⟨_, _, hresult⟩ := gives_bind.mp hresult
      exact (gives_pure.mp hresult).symm
    · exact (gives_pure.mp hresult).symm
  rw [hv]
  exact .mk ((gives_each.mp houts).imp fun _ _ hout => convertOperationEntry_gives hout)

/-! ## path items -/

/-- an entry of a path item and the entries that it becomes -/
inductive PathEntryTo (setting : Setting) : Atom × Value → Fields → Prop
  | operation {name : String} {v operation : Value} (hname : name ∈ methods)
      (hall : OperationTo setting (entriesOf v) operation) :
      PathEntryTo setting (.string name, v) [(.string name, operation)]
  | parameters {v : Value} {converted : List ConvertedParameter}
      (hall : List.Forall₂ (ConvertsTo setting.bodies none) (itemsOf v) converted) :
      PathEntryTo setting (.string "parameters", v) (listedEntry converted)
  | pointer (target : String) :
      PathEntryTo setting (.string "$ref", .text target)
        [(.string "$ref", .text (movePointer target))]
  | other {key : Atom} (v : Value)
      (hkey : ∀ name ∈ "parameters" :: "$ref" :: methods, key ≠ .string name) :
      PathEntryTo setting (key, v) [(key, v)]

theorem convertPathEntry_gives {setting : Setting} {entry : Atom × Value} {out : Fields}
    (h : (convertPathEntry setting entry).Gives out) : PathEntryTo setting entry out := by
  obtain ⟨key, v⟩ := entry
  unfold convertPathEntry at h
  split at h
  · rename_i hmethod
    obtain ⟨operation, hoperation, hout⟩ := gives_bind.mp h
    rw [← gives_pure.mp hout]
    cases key with
    | string name => exact .operation (of_decide_eq_true hmethod) (convertOperation_gives hoperation)
    | _ => cases hmethod
  · rename_i hmethod
    split at h
    · rename_i hkey
      cases hkey
      obtain ⟨⟨listed, body⟩, hresult, hout⟩ := gives_bind.mp h
      obtain ⟨converted, hall, hlisted, _⟩ := convertParameters_gives hresult
      rw [← gives_pure.mp hout, show listed = _ from hlisted]
      exact .parameters hall
    · rename_i hparameters
      split at h
      · rename_i hkey
        cases hkey
        obtain ⟨target, htarget, hout⟩ := gives_bind.mp h
        have htext : v = .text target := asText_eq_ok (gives_ofExcept.mp htarget)
        rw [← gives_pure.mp hout, htext]
        exact .pointer target
      · rename_i hpointer
        rw [← gives_pure.mp h]
        refine .other v ?_
        intro name hname
        rcases List.mem_cons.mp hname with rfl | hname
        · exact hparameters
        · rcases List.mem_cons.mp hname with rfl | hname
          · exact hpointer
          · rintro rfl
            exact hmethod (decide_eq_true hname)

/-- a path item and what it becomes -/
inductive PathItemTo (setting : Setting) (item : Fields) : Value → Prop
  | mk {outs : List Fields} (hall : List.Forall₂ (PathEntryTo setting) item outs) :
      PathItemTo setting item (.map (Fields.ofEntries outs.flatten))

/-- a path and what it becomes; extensions are left out -/
inductive PathTo (setting : Setting) : Atom × Value → Fields → Prop
  | extension {path : String} (v : Value) (hpath : Text.startsWith "x-" path = true) :
      PathTo setting (.string path, v) []
  | item {path : String} {v item : Value} (hpath : Text.startsWith "x-" path = false)
      (hall : PathItemTo setting (entriesOf v) item) :
      PathTo setting (.string path, v) [(.string path, item)]

theorem convertPath_gives {setting : Setting} {entry : Atom × Value} {out : Fields}
    (h : (convertPath setting entry).Gives out) : PathTo setting entry out := by
  obtain ⟨key, v⟩ := entry
  obtain ⟨path, hpath, hrest⟩ := gives_bind.mp h
  cases asText_eq_ok (gives_ofExcept.mp hpath)
  split at hrest
  · rename_i hextension
    rw [← gives_pure.mp hrest]
    exact .extension v hextension
  · rename_i hextension
    obtain ⟨item, hitem, hout⟩ := gives_bind.mp hrest
    rw [← gives_pure.mp hout]
    obtain ⟨fields, hfields, hmore⟩ := gives_bind.mp hitem
    obtain ⟨outs, houts, hresult⟩ := gives_bind.mp hmore
    rw [← gives_pure.mp hresult, entries_orElse (gives_ofExcept.mp hfields)] at *
    exact .item (Bool.not_eq_true _ ▸ hextension)
      (.mk ((gives_each.mp houts).imp fun _ _ h => convertPathEntry_gives h))

/-! ## components -/

/-- a component parameter and what it becomes, with the kind of component that it then is -/
inductive ComponentParameterTo (consumes : Option Value) :
    Atom × Value → String × Atom × Value → Prop
  | body {key : Atom} {fields : Fields} {body : Value} (hin : hasText fields "in" "body" = true)
      (hbody : BodyOf fields consumes body) :
      ComponentParameterTo consumes (key, .map fields) ("requestBodies", key, body)
  | plain {key : Atom} {fields : Fields} (hin : hasText fields "in" "body" = false) :
      ComponentParameterTo consumes (key, .map fields)
        ("parameters", key, .map (plainFields fields))

theorem convertComponentParameter_gives {consumes : Option Value} {entry : Atom × Value}
    {result : String × Atom × Value} (h : (convertComponentParameter consumes entry).Gives result) :
    ComponentParameterTo consumes entry result := by
  obtain ⟨key, v⟩ := entry
  obtain ⟨fields, hfields, hrest⟩ := gives_bind.mp h
  have hv : v = .map fields := entries_eq_ok (gives_ofExcept.mp hfields)
  rw [hv]
  split at hrest
  · rename_i hin
    obtain ⟨body, hbody, hresult⟩ := gives_bind.mp hrest
    rw [← gives_pure.mp hresult]
    exact .body hin (convertBody_gives hbody)
  · rename_i hin
    obtain ⟨plain, hplain, hresult⟩ := gives_bind.mp hrest
    rw [← gives_pure.mp hresult, convertPlain_gives hplain]
    exact .plain (Bool.not_eq_true _ ▸ hin)

def optionEntry (name : String) (v : Option Value) : List (String × Value) :=
  (v.map fun v => (name, v)).toList

theorem lookup_optionEntry (name key : String) (v : Option Value) :
    (optionEntry name v).lookup key = if key = name then v else none := by
  cases v with
  | none =>
    split <;> rfl
  | some v =>
    show ((name, v) :: []).lookup key = _
    rw [List.lookup_cons]
    by_cases hkey : key = name
    · rw [if_pos hkey, beq_iff_eq.mpr hkey]
    · rw [if_neg hkey, beq_eq_false_iff_ne.mpr hkey]
      rfl

theorem lookup_map_self (f : String → Value) (names : List String) (key : String) :
    (names.map fun name => (name, f name)).lookup key =
      if key ∈ names then some (f key) else none := by
  induction names with
  | nil => rfl
  | cons name rest ih =>
    rw [List.map_cons, List.lookup_cons, ih]
    by_cases hkey : key = name
    · subst hkey
      rw [beq_self_eq_true, if_pos List.mem_cons_self]
    · rw [beq_eq_false_iff_ne.mpr hkey]
      simp only [List.mem_cons, hkey, false_or]

theorem lookup_groupByKind (parameters : List (String × Atom × Value)) (kind : String) :
    (groupByKind parameters).lookup kind = mapOrNone (ofKind kind parameters) := by
  have hempty : (ofKind kind parameters).isEmpty = true ↔
      kind ∉ (parameters.map (·.1)).eraseDups := by
    rw [List.isEmpty_iff, ofKind, List.map_eq_nil_iff, List.filter_eq_nil_iff, List.mem_eraseDups,
      List.mem_map]
    constructor
    · rintro h ⟨p, hp, rfl⟩
      exact h p hp (beq_self_eq_true _)
    · intro h p hp heq
      exact h ⟨p, hp, beq_iff_eq.mp heq⟩
  rw [groupByKind, lookup_map_self fun kind => .map (ofKind kind parameters), mapOrNone]
  by_cases hmem : kind ∈ (parameters.map (·.1)).eraseDups
  · rw [if_pos hmem, if_neg (mt hempty.mp (not_not_intro hmem))]
  · rw [if_neg hmem, if_pos (hempty.mpr hmem)]

theorem convertDefinitions_gives {document : Fields} {part : List (String × Value)}
    (h : (convertDefinitions document).Gives part) : part = optionEntry "schemas"
      (mapOrNone ((entriesAt document "definitions").map fun entry =>
        (entry.1, convertSchema entry.2))) := by
  unfold convertDefinitions at h
  split at h
  · rename_i habsent
    rw [← gives_pure.mp h, entriesAt_of_absent habsent]
    rfl
  · rename_i definitions hpresent
    obtain ⟨entries, hentries, hpart⟩ := gives_bind.mp h
    rw [entries_eq_ok (gives_ofExcept.mp hentries)] at hpresent
    rw [← gives_pure.mp hpart, entriesAt_of_present? hpresent]
    cases entries with
    | nil => cases (Option.filter_eq_some_iff.mp hpresent).2
    | cons entry rest => rfl

def documentProduces (document : Fields) : Value :=
  Value.orElse (document.get? "produces") defaultMediaTypes

theorem convertComponentResponses_gives {document : Fields} {part : List (String × Value)}
    (h : (convertComponentResponses document).Gives part) : ∃ converted : Fields,
      List.Forall₂ (fun entry response => response.1 = entry.1 ∧
        ResponseTo (documentProduces document) entry.2 response.2)
        (entriesAt document "responses") converted ∧
      part = optionEntry "responses" (mapOrNone converted) := by
  unfold convertComponentResponses at h
  split at h
  · rename_i habsent
    refine ⟨[], ?_, (gives_pure.mp h).symm⟩
    rw [entriesAt_of_absent habsent]
    exact .nil
  · rename_i responses hpresent
    obtain ⟨entries, hentries, hrest⟩ := gives_bind.mp h
    obtain ⟨converted, hconverted, hpart⟩ := gives_bind.mp hrest
    rw [entries_eq_ok (gives_ofExcept.mp hentries)] at hpresent
    have hall : List.Forall₂ (fun entry response => response.1 = entry.1 ∧
        ResponseTo (documentProduces document) entry.2 response.2) entries converted := by
      refine (gives_each.mp hconverted).imp ?_
      intro entry response hentry
      obtain ⟨own, hown, hpair⟩ := gives_bind.mp hentry
      rw [← gives_pure.mp hpair]
      exact ⟨rfl, convertResponse_gives hown⟩
    rw [← gives_pure.mp hpart, entriesAt_of_present? hpresent]
    refine ⟨converted, hall, ?_⟩
    cases hall with
    | nil => cases (Option.filter_eq_some_iff.mp hpresent).2
    | cons _ _ => rfl

/-! ## whole documents -/

def settingOf (document : Fields) : Setting :=
  ⟨bodyNames document, document.get? "consumes", document.get? "produces"⟩

/-- a document and what it becomes, part by part -/
structure DocumentTo (document : Fields) (out : Value) : Prop where
  version : out.child? "openapi" = some (.text "3.0.3")
  paths : ∃ converted, List.Forall₂ (PathTo (settingOf document)) (entriesAt document "paths")
    converted ∧ out.child? "paths" = some (.map converted.flatten)
  schemas : out.at? ["components", "schemas"] = mapOrNone
    ((entriesAt document "definitions").map fun entry => (entry.1, convertSchema entry.2))
  parameters : ∃ converted, List.Forall₂ (ComponentParameterTo (document.get? "consumes"))
    (entriesAt document "parameters") converted ∧
      ∀ kind ∈ ["requestBodies", "parameters"],
        out.at? ["components", kind] = mapOrNone (ofKind kind converted)
  responses : ∃ converted : Fields, List.Forall₂ (fun entry response =>
      response.1 = entry.1 ∧ ResponseTo (documentProduces document) entry.2 response.2)
      (entriesAt document "responses") converted ∧
    out.at? ["components", "responses"] = mapOrNone converted

theorem convertComponents_gives {document : Fields} {components : List (String × Value)}
    (h : (convertComponents document).Gives components) :
    components.lookup "schemas" = mapOrNone ((entriesAt document "definitions").map fun entry =>
        (entry.1, convertSchema entry.2)) ∧
      (∃ converted, List.Forall₂ (ComponentParameterTo (document.get? "consumes"))
        (entriesAt document "parameters") converted ∧ ∀ kind ∈ ["requestBodies", "parameters"],
          components.lookup kind = mapOrNone (ofKind kind converted)) ∧
      ∃ converted : Fields, List.Forall₂ (fun entry response =>
          response.1 = entry.1 ∧ ResponseTo (documentProduces document) entry.2 response.2)
          (entriesAt document "responses") converted ∧
        components.lookup "responses" = mapOrNone converted := by
  obtain ⟨schemas, hschemas, hrest⟩ := gives_bind.mp h
  obtain ⟨entries, hentries, hrest⟩ := gives_bind.mp hrest
  obtain ⟨parameters, hparameters, hrest⟩ := gives_bind.mp hrest
  obtain ⟨responses, hresponses, hall⟩ := gives_bind.mp hrest
  rw [mappingOr_eq_ok (gives_ofExcept.mp hentries)] at hparameters
  have hconverted := (gives_each.mp hparameters).imp fun _ _ hp => convertComponentParameter_gives hp
  obtain ⟨converted, hresponse, hpart⟩ := convertComponentResponses_gives hresponses
  have hkinds : ∀ kind, kind ∉ ["requestBodies", "parameters"] →
      mapOrNone (ofKind kind parameters) = none := by
    intro kind hkind
    have hnil : ofKind kind parameters = [] := by
      rw [ofKind, List.map_eq_nil_iff, List.filter_eq_nil_iff]
      intro p hp heq
      obtain ⟨entry, hentry⟩ := exists_of_forall₂ hconverted.flip p hp
      rw [← beq_iff_eq.mp heq] at hkind
      cases hentry with
      | body => exact hkind List.mem_cons_self
      | plain => exact hkind (List.mem_cons_of_mem _ List.mem_cons_self)
    rw [hnil]
    rfl
  rw [← gives_pure.mp hall, convertDefinitions_gives hschemas, hpart]
  have hlookup : ∀ kind, (optionEntry "schemas" (mapOrNone
      ((entriesAt document "definitions").map fun entry => (entry.1, convertSchema entry.2))) ++
        groupByKind parameters ++ optionEntry "responses" (mapOrNone converted)).lookup kind =
      ((if kind = "schemas" then mapOrNone ((entriesAt document "definitions").map fun entry =>
          (entry.1, convertSchema entry.2)) else none).or
        (mapOrNone (ofKind kind parameters))).or
        (if kind = "responses" then mapOrNone converted else none) := by
    intro kind
    rw [List.lookup_append, List.lookup_append, lookup_optionEntry, lookup_optionEntry,
      lookup_groupByKind]
  refine ⟨?_, ⟨parameters, hconverted, ?_⟩, converted, hresponse, ?_⟩
  · rw [hlookup, if_pos rfl, if_neg (by decide), hkinds "schemas" (by decide), Option.or_none,
      Option.or_none]
  · intro kind hkind
    have hne : kind ≠ "schemas" ∧ kind ≠ "responses" := by
      simp only [List.mem_cons, List.not_mem_nil, or_false] at hkind
      rcases hkind with rfl | rfl <;> decide
    rw [hlookup, if_neg hne.1, if_neg hne.2, Option.none_or, Option.or_none]
  · rw [hlookup, if_neg (by decide), if_pos rfl, hkinds "responses" (by decide), Option.none_or,
      Option.none_or]

theorem lookup_filterMap_none {names : List String} {f : String → Option Value} {key : String}
    (hkey : key ∉ names) :
    (names.filterMap fun name => (f name).map fun v => (name, v)).lookup key = none := by
  rw [List.lookup_eq_none_iff]
  intro entry hentry
  obtain ⟨name, hname, heq⟩ := List.mem_filterMap.mp hentry
  obtain ⟨v, _, rfl⟩ := Option.map_eq_some_iff.mp heq
  exact bne_iff_ne.mpr fun heq => hkey (heq ▸ hname)

/-- **What becomes of a document, part by part.** -/
theorem convert_gives {v out : Value} (h : (convert v).Gives out) :
    ∃ document, v = .map document ∧ DocumentTo document out := by
  obtain ⟨document, hdocument, hrest⟩ := gives_bind.mp h
  obtain ⟨servers, _, hrest⟩ := gives_bind.mp hrest
  obtain ⟨components, hcomponents, hrest⟩ := gives_bind.mp hrest
  obtain ⟨paths, hpaths, hout⟩ := gives_bind.mp hrest
  obtain ⟨entries, hentries, hmore⟩ := gives_bind.mp hpaths
  obtain ⟨converted, hconverted, hpathsOut⟩ := gives_bind.mp hmore
  rw [mappingOr_eq_ok (gives_ofExcept.mp hentries)] at hconverted
  rw [← gives_pure.mp hpathsOut] at hout
  have hkept : (keptKeys.filterMap fun key => (document.get? key).map fun v => (key, v)).lookup
      "components" = none := lookup_filterMap_none (by decide)
  have hcomponent : ∀ kind, out.at? ["components", kind] = components.lookup kind := by
    intro kind
    rw [← gives_pure.mp hout, Value.at?, Value.child?_object, List.lookup_append, hkept,
      Option.or_none]
    cases components with
    | nil => rfl
    | cons entry rest => exact (Value.at?_singleton kind _).trans (Value.child?_object _ _)
  obtain ⟨hschemas, hparameters, hresponses⟩ := convertComponents_gives hcomponents
  refine ⟨document, entries_eq_ok (gives_ofExcept.mp hdocument), ?_, ?_, ?_, ?_, ?_⟩
  · rw [← gives_pure.mp hout, Value.child?_object]
    rfl
  · refine ⟨converted, (gives_each.mp hconverted).imp fun _ _ hp => convertPath_gives hp, ?_⟩
    rw [← gives_pure.mp hout, Value.child?_object]
    rfl
  · rw [hcomponent, hschemas]
  · obtain ⟨parameters, hall, hkinds⟩ := hparameters
    exact ⟨parameters, hall, fun kind hkind => (hcomponent kind).trans (hkinds kind hkind)⟩
  · obtain ⟨responses, hall, hlookup⟩ := hresponses
    exact ⟨responses, hall, (hcomponent "responses").trans hlookup⟩

end ApiBindings.Swagger
