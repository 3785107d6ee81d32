import ApiBindings.Proofs.Swagger.Document

/-!
# What is found in a converted document

Under the keys that lead to an entry of a document, the converted document has what became of this
entry.  A document has no two entries under one key, so there is nothing else that it could be.

* `DocumentTo.item`, `PathItemTo.operation`           path items and their operations;
* `OperationTo.parameters`, `OperationTo.responses`   the parts of an operation;
* `DocumentTo.exists_item`, `OperationTo.exists_responses`
                                                      what was there of what is found;
* `ComponentsFound`                                   components.
-/

namespace ApiBindings.Swagger

open Conversion

/-! ## entries of a keyed document -/

theorem at?_entriesAt (document : Fields) (name key : String) :
    (Value.map document).at? [name, key] = (entriesAt document name).get? key := by
  rw [Value.at?, entriesAt]
  show ((document.get? name).bind fun v => v.at? [key]) = _
  cases document.get? name with
  | none => rfl
  | some v =>
    rw [Option.bind_some, Value.at?_singleton]
    cases v <;> rfl

theorem isKeyed_entriesOf {v : Value} (h : v.isKeyed = true) :
    (Value.map (entriesOf v)).isKeyed = true := by
  cases v with
  | map fields => exact h
  | _ => rfl

theorem isKeyed_entriesAt {document : Fields} (h : (Value.map document).isKeyed = true)
    (name : String) : (Value.map (entriesAt document name)).isKeyed = true := by
  refine isKeyed_entriesOf ?_
  cases hget : document.get? name with
  | none => rfl
  | some v => exact (Value.isKeyed_map.mp h).2 _ (Fields.mem_of_get? hget)

theorem isKeyed_of_get? {fields : Fields} (h : (Value.map fields).isKeyed = true) {name : String}
    {v : Value} (hv : fields.get? name = some v) : v.isKeyed = true :=
  (Value.isKeyed_map.mp h).2 _ (Fields.mem_of_get? hv)

theorem lacks_singleton {key : Atom} {v : Value} {name : String} (h : key ≠ .string name) :
    Lacks [(key, v)] name := by
  intro entry hentry
  rw [List.mem_singleton.mp hentry]
  exact h

theorem lacks_nil (name : String) : Lacks [] name := fun _ hentry => nomatch hentry

theorem get?_singleton (name : String) (v : Value) :
    Fields.get? [(.string name, v)] name = some v := by
  rw [Fields.get?_cons, if_pos rfl]

theorem lacks_of_has {fields : Fields} {name : String} (h : fields.has name = false) :
    Lacks fields name := by
  rintro ⟨key, v⟩ hentry heq
  cases (show key = .string name from heq)
  have hfound : (fields.find? fun entry => entry.1 == .string name).isSome = true :=
    List.find?_isSome.mpr ⟨_, hentry, beq_self_eq_true _⟩
  rw [Fields.has, Fields.get?, Option.isSome_map, hfound] at h
  cases h

def entriesUnder (v : Value) (path : List String) : Fields := entriesOf ((v.at? path).getD .null)

theorem entriesUnder_mapOrNone {v : Value} {path : List String} {fields : Fields}
    (h : v.at? path = mapOrNone fields) : entriesUnder v path = fields := by
  rw [entriesUnder, h]
  cases fields <;> rfl

/-- what is found among the entries that others became comes from one of them -/
theorem exists_of_get?_flatten {R : Atom × Value → List (Atom × Value) → Prop} {fields : Fields}
    {outs : List (List (Atom × Value))} (h : List.Forall₂ R fields outs) {name : String} {u : Value}
    (hget : (Fields.ofEntries outs.flatten).get? name = some u) :
    ∃ entry ∈ fields, ∃ out, R entry out ∧ (.string name, u) ∈ out := by
  rw [Fields.get?_ofEntries] at hget
  have hmem := List.mem_reverse.mp (Fields.mem_of_get? hget)
  obtain ⟨out, hout, hentry⟩ := List.mem_flatten.mp hmem
  obtain ⟨entry, hin, hrel⟩ := exists_mem_of_forall₂ h.flip hout
  exact ⟨entry, hin, out, hrel, hentry⟩

/-! ## lists of parameters -/

def parameterList (holder : Fields) : List Value := itemsOf ((holder.get? "parameters").getD .null)

theorem exists_list_of_mem {holder : Fields} {entry : Value} (h : entry ∈ parameterList holder) :
    ∃ v, holder.get? "parameters" = some v ∧ parameterList holder = itemsOf v := by
  unfold parameterList at h ⊢
  cases hget : holder.get? "parameters" with
  | none =>
    rw [hget] at h
    cases h
  | some v => exact ⟨v, rfl, rfl⟩

theorem isKeyed_parameterList {holder : Fields} (hkeyed : (Value.map holder).isKeyed = true) :
    ∀ v ∈ parameterList holder, v.isKeyed = true := by
  intro v hv
  obtain ⟨w, hget, hitems⟩ := exists_list_of_mem hv
  rw [hitems] at hv
  have hw := isKeyed_of_get? hkeyed hget
  cases w with
  | list items => exact (Value.everywhere_list.mp hw).2 v hv
  | _ => cases hv

theorem takeWhile_append_of_not {α : Type} {p : α → Bool} {s rest : List α} {a : α}
    (hs : ∀ x ∈ s, p x = true) (ha : p a = false) : (s ++ a :: rest).takeWhile p = s := by
  induction s with
  | nil => rw [List.nil_append, List.takeWhile_cons, ha]; rfl
  | cons x s ih =>
    rw [List.cons_append, List.takeWhile_cons, hs x List.mem_cons_self, if_pos rfl,
      ih fun y hy => hs y (List.mem_cons_of_mem _ hy)]

theorem pointerName_parameter {name : String} (h : '/' ∉ name.toList) :
    pointerName ("#/parameters/" ++ name) = name := by
  have hchars : ∀ c ∈ name.toList.reverse, (c != '/') = true := by
    intro c hc
    refine bne_iff_ne.mpr ?_
    rintro rfl
    exact h (List.mem_reverse.mp hc)
  have hreverse : ("#/parameters/" ++ name).toList.reverse =
      name.toList.reverse ++ '/' :: "sretemarap/#".toList := by
    rw [String.toList_append, List.reverse_append]
    rfl
  rw [pointerName, Text.afterLastChar, hreverse, takeWhile_append_of_not hchars (by decide),
    List.reverse_reverse, String.ofList_toList]

theorem mappingOr_entriesAt {document : Fields} {name key : String} {v : Value}
    (h : (entriesAt document name).get? key = some v) :
    mappingOr document name = .ok (entriesAt document name) := by
  unfold entriesAt at h ⊢
  unfold mappingOr
  cases hget : document.get? name with
  | none =>
    rw [hget] at h
    cases h
  | some w =>
    rw [hget] at h
    cases w with
    | map fields =>
      cases fields with
      | nil => cases h
      | cons entry rest => rfl
    | _ => cases h

/-- a name is one of those of the bodies exactly if the parameter under it is a body -/
theorem contains_bodyNames {document : Fields} (hkeyed : (Value.map document).isKeyed = true)
    {name : String} {parameter : Fields}
    (h : (Value.map document).at? ["parameters", name] = some (.map parameter)) :
    (bodyNames document).contains (.string name) = hasText parameter "in" "body" := by
  rw [at?_entriesAt] at h
  rw [bodyNames, mappingOr_entriesAt h]
  refine Bool.eq_iff_iff.mpr ?_
  rw [List.contains_iff_mem, List.mem_filterMap]
  constructor
  · rintro ⟨⟨key, v⟩, hmem, heq⟩
    split at heq
    · rename_i fields hfields
      split at heq
      · rename_i hin
        cases heq
        have hv : v = .map fields := hfields
        subst hv
        obtain ⟨before, after, hsplit, hbefore, hafter⟩ :=
          exists_split (Value.distinct_of_isKeyed (isKeyed_entriesAt hkeyed "parameters")) h
        rw [hsplit] at hmem
        rcases List.mem_append.mp hmem with hmem | hmem
        · exact (hbefore _ hmem rfl).elim
        · rcases List.mem_cons.mp hmem with heq | hmem
          · cases heq
            exact hin
          · exact (hafter _ hmem rfl).elim
      · cases heq
    · cases heq
  · intro hin
    refine ⟨_, Fields.mem_of_get? h, ?_⟩
    dsimp only
    rw [if_pos hin]

theorem isBodyPointer_parameter {document : Fields}
    (hkeyed : (Value.map document).isKeyed = true) {name : String} (hname : '/' ∉ name.toList)
    {parameter : Fields}
    (h : (Value.map document).at? ["parameters", name] = some (.map parameter)) :
    isBodyPointer (bodyNames document) ("#/parameters/" ++ name) =
      hasText parameter "in" "body" := by
  have hstart : Text.startsWith "#/parameters/" ("#/parameters/" ++ name) = true := by
    rw [Text.startsWith, String.toList_append, List.isPrefixOf_iff_prefix]
    exact List.prefix_append _ _
  rw [isBodyPointer, hstart, pointerName_parameter hname, contains_bodyNames hkeyed h,
    Bool.true_and]

/-! ## path items -/

theorem DocumentTo.item {document : Fields} {out : Value} (h : DocumentTo document out)
    (hkeyed : (Value.map document).isKeyed = true) {path : String}
    (hpath : Text.startsWith "x-" path = false) {v : Value}
    (hv : (Value.map document).at? ["paths", path] = some v) :
    ∃ item, out.at? ["paths", path] = some item ∧
      PathItemTo (settingOf document) (entriesOf v) item := by
  obtain ⟨converted, hall, hpaths⟩ := h.paths
  rw [at?_entriesAt] at hv
  have hown : ∀ entry out, PathTo (settingOf document) entry out →
      entry.1 ≠ .string path → Lacks out path := by
    intro entry out hentry hne
    cases hentry with
    | extension v hx => exact lacks_nil path
    | item hx hall => exact lacks_singleton hne
  obtain ⟨out', hout, hget, _⟩ := get?_flatten
    (Value.distinct_of_isKeyed (isKeyed_entriesAt hkeyed "paths")) hall hown hv
  cases hout with
  | extension v hx =>
    rw [hpath] at hx
    cases hx
  | @item _ _ item hx hitem =>
    refine ⟨item, ?_, hitem⟩
    rw [Value.at?, hpaths, Option.bind_some, Value.at?_singleton, Value.child?, hget,
      get?_singleton]

/-- an item of a converted document is what became of the one under the same path -/
theorem DocumentTo.exists_item {document : Fields} {out : Value} (h : DocumentTo document out)
    {entry : Atom × Value} (hentry : entry ∈ entriesUnder out ["paths"]) : ∃ path v,
      (.string path, v) ∈ entriesAt document "paths" ∧ entry.1 = .string path ∧
        PathItemTo (settingOf document) (entriesOf v) entry.2 := by
  obtain ⟨converted, hall, hpaths⟩ := h.paths
  rw [entriesUnder, Value.at?_singleton, hpaths] at hentry
  obtain ⟨out', hout', hmem⟩ := List.mem_flatten.mp hentry
  obtain ⟨own, hown, hto⟩ := exists_mem_of_forall₂ hall.flip hout'
  cases hto with
  | extension => cases hmem
  | item _ hitem =>
    cases List.mem_singleton.mp hmem
    exact ⟨_, _, hown, rfl, hitem⟩

/-- the list of parameters unless it is empty -/
def listOrNone (items : List Value) : Option Value :=
  if items.isEmpty then none else some (.list items)

theorem get?_listedEntry (converted : List ConvertedParameter) :
    Fields.get? (listedEntry converted) "parameters" =
      listOrNone (converted.filterMap ConvertedParameter.listed?) := by
  unfold listedEntry listOrNone
  dsimp only
  split
  · rfl
  · exact get?_singleton _ _

theorem lacks_listedEntry (converted : List ConvertedParameter) {name : String}
    (hname : name ≠ "parameters") : Lacks (listedEntry converted) name := by
  unfold listedEntry
  dsimp only
  split
  · exact lacks_nil name
  · exact lacks_singleton fun h => hname (Atom.string.inj h).symm

theorem mem_listedEntry {converted : List ConvertedParameter} {key : Atom} {v : Value}
    (h : (key, v) ∈ listedEntry converted) : key = .string "parameters" ∧
      v = .list (converted.filterMap ConvertedParameter.listed?) := by
  unfold listedEntry at h
  dsimp only at h
  split at h
  · cases h
  · cases List.mem_singleton.mp h
    exact ⟨rfl, rfl⟩

theorem listedEntry_reverse (converted : List ConvertedParameter) :
    (listedEntry converted).reverse = listedEntry converted := by
  unfold listedEntry
  dsimp only
  split <;> rfl

namespace PathItemTo

variable {setting : Setting} {item : Fields} {out : Value}

/-- an entry of a path item becomes entries under its own key only -/
theorem lacks_of_ne {name : String} {entry : Atom × Value} {out : Fields}
    (h : PathEntryTo setting entry out) (hne : entry.1 ≠ .string name) : Lacks out name := by
  cases h with
  | operation hname hall => exact lacks_singleton hne
  | parameters hall => exact lacks_listedEntry _ fun h => hne (congrArg Atom.string h.symm)
  | pointer target => exact lacks_singleton hne
  | other v hkey => exact lacks_singleton hne

theorem operation (h : PathItemTo setting item out) (hkeys : item.Distinct) {name : String}
    (hname : name ∈ methods) {v : Value} (hv : item.get? name = some v) :
    ∃ operation, out.child? name = some operation ∧
      OperationTo setting (entriesOf v) operation := by
  cases h with
  | mk hall =>
    obtain ⟨out', hout, _, hget⟩ :=
      get?_flatten hkeys hall (fun entry o ho hne => lacks_of_ne ho hne) hv
    cases hout with
    | operation _ hoperation =>
      exact ⟨_, hget.trans (get?_singleton _ _), hoperation⟩
    | parameters => exact absurd hname (by decide)
    | pointer => exact absurd hname (by decide)
    | other _ hkey =>
      exact (hkey name (List.mem_cons_of_mem _ (List.mem_cons_of_mem _ hname)) rfl).elim

theorem parameters (h : PathItemTo setting item out) (hkeys : item.Distinct) {v : Value}
    (hv : item.get? "parameters" = some v) : ∃ converted,
      List.Forall₂ (ConvertsTo setting.bodies none) (itemsOf v) converted ∧
        out.child? "parameters" =
          listOrNone (converted.filterMap ConvertedParameter.listed?) := by
  cases h with
  | mk hall =>
    obtain ⟨out', hout, _, hget⟩ :=
      get?_flatten hkeys hall (fun entry o ho hne => lacks_of_ne ho hne) hv
    generalize hentry : (Atom.string "parameters", v) = entry at hout
    have hown := congrArg Prod.fst hentry
    cases hout with
    | operation hname _ => exact absurd (Atom.string.inj hown ▸ hname) (by decide)
    | @parameters w converted hconverted =>
      cases hentry
      refine ⟨converted, hconverted, hget.trans ?_⟩
      rw [listedEntry_reverse, get?_listedEntry]
    | pointer => exact absurd (Atom.string.inj hown) (by decide)
    | other _ hkey => exact (hkey "parameters" List.mem_cons_self hown.symm).elim

end PathItemTo

/-! ## operations -/

def behindParameters (operation : Fields) : Fields :=
  (operation.dropWhile fun entry => entry.1 != .string "parameters").tail

theorem behindParameters_append {before after : Fields} {v : Value}
    (h : Lacks before "parameters") :
    behindParameters (before ++ (.string "parameters", v) :: after) = after := by
  have hbefore : ∀ entry ∈ before, (entry.1 != .string "parameters") = true :=
    fun entry hentry => bne_iff_ne.mpr (h entry hentry)
  rw [behindParameters, List.dropWhile_append_of_pos hbefore, List.dropWhile_cons_of_neg]
  · rfl
  · simp

/-- where an entry of a converted operation comes from: the list, the responses, or a copy -/
theorem OperationEntryTo.of_mem {setting : Setting} {operation : Fields} {entry : Atom × Value}
    {out : Fields} (h : OperationEntryTo setting operation entry out) {name : String} {u : Value}
    (hu : (.string name, u) ∈ out) :
    (entry.1 = .string "parameters" ∧ ∃ converted body,
      List.Forall₂ (ConvertsTo setting.bodies (consumedTypes setting operation)) (itemsOf entry.2)
        converted ∧ LeavesBody converted body ∧
      ((name = "parameters" ∧ u = .list (converted.filterMap ConvertedParameter.listed?)) ∨
        (name = "requestBody" ∧ body = some u))) ∨
    (entry.1 = .string "responses" ∧ name = "responses" ∧
      ResponsesTo (producedTypes setting operation) entry.2 u) ∨
    (entry = (.string name, u) ∧ name ≠ "parameters" ∧ name ≠ "responses") := by
  cases h with
  | dropped => cases hu
  | @parameters v converted body hall hbody =>
    refine .inl ⟨rfl, converted, body, hall, hbody, ?_⟩
    rcases List.mem_append.mp hu with hu | hu
    · obtain ⟨hname, hlist⟩ := mem_listedEntry hu
      exact .inl ⟨Atom.string.inj hname, hlist⟩
    · cases body with
      | none => cases hu
      | some b =>
        cases List.mem_singleton.mp hu
        exact .inr ⟨rfl, rfl⟩
  | responses hall =>
    cases List.mem_singleton.mp hu
    exact .inr (.inl ⟨rfl, rfl, hall⟩)
  | other v hkey =>
    cases List.mem_singleton.mp hu
    refine .inr (.inr ⟨rfl, ?_, ?_⟩)
    · rintro rfl
      exact hkey _ List.mem_cons_self rfl
    · rintro rfl
      exact hkey _ (List.mem_cons_of_mem _ List.mem_cons_self) rfl

namespace OperationTo

variable {setting : Setting} {operation : Fields} {out : Value}

/-- the entries that an entry of an operation becomes, which can be a body for `parameters` -/
theorem lacks_of_ne {name : String} {entry : Atom × Value} {out : Fields}
    (h : OperationEntryTo setting operation entry out) (hne : entry.1 ≠ .string name)
    (hbody : name = "requestBody" → entry.1 ≠ .string "parameters") : Lacks out name := by
  cases h with
  | dropped v hname => exact lacks_nil name
  | @parameters v converted body hall hleaves =>
    intro other hother
    rcases List.mem_append.mp hother with hother | hother
    · exact lacks_listedEntry _ (fun h => hne (congrArg Atom.string h.symm)) other hother
    · cases body with
      | none => cases hother
      | some b =>
        rw [List.mem_singleton.mp hother]
        intro h
        exact hbody (Atom.string.inj h).symm rfl
  | responses hall => exact lacks_singleton hne
  | other v hkey => exact lacks_singleton hne

theorem responses (h : OperationTo setting operation out) (hkeys : operation.Distinct) {v : Value}
    (hv : operation.get? "responses" = some v) : ∃ responses,
      out.child? "responses" = some responses ∧
        ResponsesTo (producedTypes setting operation) v responses := by
  cases h with
  | mk hall =>
    obtain ⟨out', hout, _, hget⟩ := get?_flatten hkeys hall
      (fun entry o ho hne => lacks_of_ne ho hne fun h => absurd h (by decide)) hv
    generalize hentry : (Atom.string "responses", v) = entry at hout
    have hown := congrArg Prod.fst hentry
    cases hout with
    | dropped _ hname => exact absurd (Atom.string.inj hown ▸ hname) (by decide)
    | parameters => exact absurd (Atom.string.inj hown) (by decide)
    | responses hresponses =>
      cases hentry
      exact ⟨_, hget.trans (get?_singleton _ _), hresponses⟩
    | other _ hkey =>
      exact (hkey "responses" (List.mem_cons_of_mem _ List.mem_cons_self) hown.symm).elim

theorem exists_responses (h : OperationTo setting operation out) (hkeys : operation.Distinct)
    {u : Value} (hu : out.child? "responses" = some u) : ∃ v, operation.get? "responses" = some v ∧
      ResponsesTo (producedTypes setting operation) v u := by
  cases h with
  | mk hall =>
    obtain ⟨⟨key, v⟩, hmem, out, hout, hin⟩ := exists_of_get?_flatten hall hu
    rcases hout.of_mem hin with ⟨_, _, _, _, _, hcases⟩ | ⟨rfl, _, hresponses⟩ | ⟨_, _, hname⟩
    · rcases hcases with ⟨hname, _⟩ | ⟨hname, _⟩ <;> exact absurd hname (by decide)
    · exact ⟨v, Fields.get?_of_mem hkeys hmem, hresponses⟩
    · exact (hname rfl).elim

/-- **The parameters of an operation: those that stay listed, and the body that the others leave,
unless the operation has a body of its own behind them.** -/
theorem parameters (h : OperationTo setting operation out) (hkeys : operation.Distinct) {v : Value}
    (hv : operation.get? "parameters" = some v) : ∃ converted body,
      List.Forall₂ (ConvertsTo setting.bodies (consumedTypes setting operation)) (itemsOf v)
        converted ∧ LeavesBody converted body ∧
        out.child? "parameters" = listOrNone (converted.filterMap ConvertedParameter.listed?) ∧
        ((behindParameters operation).has "requestBody" = false →
          ∀ b, body = some b → out.child? "requestBody" = some b) := by
  obtain ⟨before, after, hsplit, hbefore, hafter⟩ := exists_split hkeys hv
  cases h with
  | @mk outs hall =>
    have hall' := hall
    rw [hsplit] at hall'
    obtain ⟨outs₁, out', outs₂, rfl, h₁, hout, h₂⟩ := forall₂_split hall'
    have hflat : ∀ name, (Fields.ofEntries (outs₁ ++ out' :: outs₂).flatten).get? name =
        ((Fields.get? outs₂.flatten.reverse name).or (Fields.get? out'.reverse name)).or
          (Fields.get? outs₁.flatten.reverse name) := by
      intro name
      rw [Fields.get?_ofEntries, List.flatten_append, List.flatten_cons, List.reverse_append,
        List.reverse_append, get?_append, get?_append]
    have hlacks₁ : Lacks outs₁.flatten "parameters" := lacks_flatten h₁ fun entry hentry o ho =>
      lacks_of_ne (hsplit ▸ ho) (hbefore entry hentry) fun h => absurd h (by decide)
    have hlacks₂ : Lacks outs₂.flatten "parameters" := lacks_flatten h₂ fun entry hentry o ho =>
      lacks_of_ne (hsplit ▸ ho) (hafter entry hentry) fun h => absurd h (by decide)
    rw [← hsplit] at hout
    generalize hentry : (Atom.string "parameters", v) = entry at hout
    have hown := congrArg Prod.fst hentry
    cases hout with
    | dropped _ hname => exact absurd (Atom.string.inj hown ▸ hname) (by decide)
    | responses => exact absurd (Atom.string.inj hown) (by decide)
    | @parameters _ converted body hconverted hleaves =>
      cases hentry
      refine ⟨converted, body, hconverted, hleaves, ?_, ?_⟩
      · rw [Value.child?, hflat, hlacks₁.reverse.get?, hlacks₂.reverse.get?, Option.none_or,
          Option.or_none, List.reverse_append, get?_append, listedEntry_reverse, get?_listedEntry]
        have hnone : Fields.get?
            (body.map fun b => (Atom.string "requestBody", b)).toList.reverse "parameters" = none := by
          cases body <;> rfl
        rw [hnone, Option.none_or]
      · -- of several bodies the last one counts, and behind the list there is none
        rintro hbehind b rfl
        rw [hsplit, behindParameters_append hbefore] at hbehind
        have hbody₂ : Lacks outs₂.flatten "requestBody" := lacks_flatten h₂ fun entry hentry o ho =>
          lacks_of_ne (hsplit ▸ ho) (lacks_of_has hbehind entry hentry) fun _ => hafter entry hentry
        rw [Value.child?, hflat, hbody₂.reverse.get?, Option.none_or, List.reverse_append,
          get?_append]
        rfl
    | other _ hkey => exact (hkey "parameters" List.mem_cons_self hown.symm).elim

/-- the last body in the list of an operation is its body, unless another one follows the list -/
theorem last_body (h : OperationTo setting operation out) (hkeys : operation.Distinct)
    {earlier later : List Value} {entry : Value}
    (hsplit : parameterList operation = earlier ++ entry :: later)
    (hlater : ∀ v ∈ later, role setting.bodies v ≠ .body)
    (hbehind : (behindParameters operation).has "requestBody" = false) : ∃ c,
      ConvertsTo setting.bodies (consumedTypes setting operation) entry c ∧
        ∀ b, c = .body b → out.child? "requestBody" = some b := by
  have hmem : entry ∈ parameterList operation :=
    hsplit ▸ List.mem_append_right _ List.mem_cons_self
  obtain ⟨v, hv, hitems⟩ := exists_list_of_mem hmem
  obtain ⟨converted, body, hall, hleaves, _, hbody⟩ := h.parameters hkeys hv
  rw [← hitems, hsplit] at hall
  obtain ⟨before', c, after', rfl, h₁, hto, h₂⟩ := forall₂_split hall
  refine ⟨c, hto, ?_⟩
  rintro b rfl
  exact hbody hbehind b (hleaves.eq_of_last (filterMap_body_eq_nil h₂ hlater))

end OperationTo

/-! ## components -/

namespace DocumentTo

variable {document : Fields} {out : Value}

theorem at?_component (kind name : String) :
    out.at? ["components", kind, name] = (out.at? ["components", kind]).bind (Value.child? name) := by
  have happend := Value.at?_append ["components", kind] [name] out
  rw [List.cons_append, List.cons_append, List.nil_append] at happend
  rw [happend]
  congr 1
  funext v
  exact Value.at?_singleton name v

theorem schema (h : DocumentTo document out) (name : String) :
    out.at? ["components", "schemas", name] =
      ((Value.map document).at? ["definitions", name]).map convertSchema := by
  rw [at?_component, h.schemas, get?_mapOrNone, Fields.get?_map fun _ => convertSchema,
    at?_entriesAt]

/-- a component parameter becomes a component of one kind, under the same name -/
theorem parameter (h : DocumentTo document out) (hkeyed : (Value.map document).isKeyed = true)
    {name : String} {v : Value} (hv : (Value.map document).at? ["parameters", name] = some v) :
    ∃ fields, v = .map fields ∧
      ((hasText fields "in" "body" = true ∧ ∃ body, BodyOf fields (document.get? "consumes") body ∧
          out.at? ["components", "requestBodies", name] = some body) ∨
        (hasText fields "in" "body" = false ∧
          out.at? ["components", "parameters", name] = some (.map (plainFields fields)))) := by
  obtain ⟨converted, hall, hkinds⟩ := h.parameters
  rw [at?_entriesAt] at hv
  obtain ⟨before, after, hsplit, hbefore, hafter⟩ :=
    exists_split (Value.distinct_of_isKeyed (isKeyed_entriesAt hkeyed "parameters")) hv
  rw [hsplit] at hall
  obtain ⟨before', result, after', rfl, h₁, hresult, h₂⟩ := forall₂_split hall
  have hlacks : ∀ (kind : String) {entries : Fields} {results : List (String × Atom × Value)},
      List.Forall₂ (ComponentParameterTo (document.get? "consumes")) entries results →
      Lacks entries name → Lacks (ofKind kind results) name := by
    intro kind entries results hrel hentries entry hentry
    obtain ⟨p, hp, rfl⟩ := List.mem_map.mp hentry
    obtain ⟨own, hmem, hown⟩ := exists_mem_of_forall₂ hrel.flip (List.mem_filter.mp hp).1
    have hne := hentries own hmem
    cases hown with
    | body => exact hne
    | plain => exact hne
  have hfound : ∀ kind ∈ ["requestBodies", "parameters"], result.1 = kind →
      result.2.1 = .string name → out.at? ["components", kind, name] = some result.2.2 := by
    intro kind hkind hown hname
    rw [at?_component, hkinds kind hkind, get?_mapOrNone, ofKind, List.filter_append,
      List.map_append, List.filter_cons, if_pos (beq_iff_eq.mpr hown), List.map_cons, get?_append,
      ← ofKind, (hlacks kind h₁ hbefore).get?, Option.none_or, Fields.get?_cons, if_pos hname]
  cases hresult with
  | @body _ fields body hin hbody =>
    exact ⟨fields, rfl, .inl ⟨hin, body, hbody, hfound _ List.mem_cons_self rfl rfl⟩⟩
  | @plain _ fields hin =>
    exact ⟨fields, rfl, .inr ⟨hin, hfound _ (List.mem_cons_of_mem _ List.mem_cons_self) rfl rfl⟩⟩

theorem response (h : DocumentTo document out) (hkeyed : (Value.map document).isKeyed = true)
    {name : String} {v : Value} (hv : (Value.map document).at? ["responses", name] = some v) :
    ∃ response, ResponseTo (documentProduces document) v response ∧
      out.at? ["components", "responses", name] = some response := by
  obtain ⟨converted, hall, hresponses⟩ := h.responses
  rw [at?_entriesAt] at hv
  obtain ⟨before, after, hsplit, hbefore, hafter⟩ :=
    exists_split (Value.distinct_of_isKeyed (isKeyed_entriesAt hkeyed "responses")) hv
  rw [hsplit] at hall
  obtain ⟨before', result, after', rfl, h₁, ⟨hkey, hresult⟩, h₂⟩ := forall₂_split hall
  have hlacks : Lacks before' name := by
    intro entry hentry
    obtain ⟨own, hmem, hown, _⟩ := exists_mem_of_forall₂ h₁.flip hentry
    rw [hown]
    exact hbefore own hmem
  refine ⟨result.2, hresult, ?_⟩
  rw [at?_component, hresponses, get?_mapOrNone, get?_append, hlacks.get?, Option.none_or,
    Fields.get?_cons, if_pos hkey]

end DocumentTo

/-- Definitions, parameters and responses are found under their names, converted. -/
structure ComponentsFound (document : Fields) (out : Value) : Prop where
  schema : ∀ name, out.at? ["components", "schemas", name] =
    ((Value.map document).at? ["definitions", name]).map convertSchema
  body : ∀ name parameter, (Value.map document).at? ["parameters", name] = some (.map parameter) →
    hasText parameter "in" "body" = true →
    ∃ body, out.at? ["components", "requestBodies", name] = some body ∧
      BodyOf parameter (document.get? "consumes") body
  parameter : ∀ name parameter,
    (Value.map document).at? ["parameters", name] = some (.map parameter) →
    hasText parameter "in" "body" = false →
    out.at? ["components", "parameters", name] = some (.map (plainFields parameter))
  response : ∀ name v, (Value.map document).at? ["responses", name] = some v →
    ∃ response, out.at? ["components", "responses", name] = some response ∧
      ResponseTo (documentProduces document) v response

theorem componentsFound {document : Fields} {out : Value} (h : DocumentTo document out)
    (hkeyed : (Value.map document).isKeyed = true) : ComponentsFound document out where
  schema := h.schema
  body := by
    intro name parameter hparameter hin
    obtain ⟨own, hown, hcases⟩ := h.parameter hkeyed hparameter
    cases hown
    rcases hcases with ⟨_, body, hof, hbody⟩ | ⟨hnot, _⟩
    · exact ⟨body, hbody, hof⟩
    · rw [hin] at hnot
      cases hnot
  parameter := by
    intro name parameter hparameter hin
    obtain ⟨own, hown, hcases⟩ := h.parameter hkeyed hparameter
    cases hown
    rcases hcases with ⟨hbody, _⟩ | ⟨_, hplain⟩
    · rw [hin] at hbody
      cases hbody
    · exact hplain
  response := by
    intro name v hv
    obtain ⟨response, hresponse, hout⟩ := h.response hkeyed hv
    exact ⟨response, hout, hresponse⟩

end ApiBindings.Swagger
