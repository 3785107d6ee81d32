import ApiBindings.Proofs.Swagger.Document

/-!
# Which parameters get lost

A body or a part of a form leaves no warning when it is converted.  So it gets lost without a trace
wherever its list has no use for it: in the list of a path item, before another body, and a part of
a form beside a body.

* `convertParameter_quiet`        what leaves no warning;
* `ownList`, `inheritedList`      a list without the parameters that get lost;
* `convert_withoutLost`           the document is converted as if they had never been there.
-/

namespace ApiBindings.Swagger

open Conversion

variable {bodies : List Atom} {consumes : Option Value}

/-! ## warnings of single parameters -/

theorem contentOf_quiet (schema mediaTypes : Value) : Quiet (contentOf schema mediaTypes) := by
  refine (quiet_ofExcept _).bind fun types _ => ?_
  exact (quiet_each (fun v => quiet_ofExcept _) types).bind fun keys _ => quiet_pure _

theorem convertBody_quiet (parameter : Fields) : Quiet (convertBody parameter consumes) :=
  (contentOf_quiet _ _).bind fun _ _ => quiet_pure _

/-- only what stays in the list can leave a warning -/
theorem convertParameter_quiet {p : Value} (hrole : role bodies p ≠ .listed) :
    Quiet (convertParameter bodies consumes p) := by
  refine (quiet_ofExcept _).bind fun fields hfields => ?_
  rw [entries_eq_ok (gives_ofExcept.mp hfields)] at hrole
  cases href : fields.present? "$ref" with
  | some pointer => exact (quiet_ofExcept _).bind fun target _ => quiet_pure _
  | none =>
    dsimp only
    cases hbody : hasText fields "in" "body" with
    | true =>
      rw [if_pos rfl]
      exact (convertBody_quiet fields).bind fun body _ => quiet_pure _
    | false =>
      rw [if_neg Bool.false_ne_true]
      cases hform : hasText fields "in" "formData" with
      | true => exact quiet_pure _
      | false =>
        rw [role, href, hbody, hform] at hrole
        exact (hrole rfl).elim

/-- without media types to choose from, a form leaves no warning either -/
theorem convertForm_quiet (parts : List Fields) : Quiet (convertForm parts none) := by
  have hmedia : ∀ hasFile, Quiet (formMediaType hasFile none) := by
    intro hasFile
    cases hasFile <;> exact (quiet_ofExcept _).bind fun allowed _ => quiet_pure _
  refine (hmedia _).bind fun mediaType _ => ?_
  exact (quiet_each (fun p => quiet_ofExcept _) parts).bind fun properties _ => quiet_pure _

/-! ## lists without what gets lost -/

/-- Whether a parameter of an operation leaves anything.  `beside` tells if there is a body in its
list, `later` are the roles behind it. -/
def ownKept (beside : Bool) : Role → List Role → Bool
  | .listed, _ => true
  | .body, later => !later.contains .body
  | .formPart, _ => !beside

/-- whether a parameter of a path item leaves anything -/
def inheritedKept : Role → List Role → Bool
  | .listed, _ => true
  | _, _ => false

def keptItems (bodies : List Atom) (keep : Role → List Role → Bool) (items : List Value) :
    List Value :=
  sift (fun v later => keep (role bodies v) (later.map (role bodies))) items

def keptConverted (keep : Role → List Role → Bool) (converted : List ConvertedParameter) :
    List ConvertedParameter :=
  sift (fun c later => keep c.role (later.map ConvertedParameter.role)) converted

theorem map_role_eq {items : List Value} {converted : List ConvertedParameter}
    (h : List.Forall₂ (ConvertsTo bodies consumes) items converted) :
    items.map (role bodies) = converted.map ConvertedParameter.role :=
  (map_eq_of_forall₂ (h.imp fun _ _ hto => hto.role_eq)).symm

theorem each_keptItems (keep : Role → List Role → Bool)
    (hkeep : ∀ later, keep .listed later = true) {items : List Value}
    {converted : List ConvertedParameter} {ws : List String}
    (h : each (convertParameter bodies consumes) items = .ok ⟨converted, ws⟩) :
    each (convertParameter bodies consumes) (keptItems bodies keep items) =
      .ok ⟨keptConverted keep converted, ws⟩ := by
  refine each_eq_ok_sift ?_ ?_ h
  · intro v c later others hc hothers
    have hall := (gives_each.mp hothers).imp fun _ _ hp => convertParameter_gives hp
    rw [map_role_eq hall, (convertParameter_gives hc).role_eq]
  · intro v later hdropped
    refine convertParameter_quiet ?_
    intro hlisted
    rw [hlisted, hkeep] at hdropped
    cases hdropped

theorem listed_keptConverted {keep : Role → List Role → Bool}
    (hkeep : ∀ later, keep .listed later = true) (converted : List ConvertedParameter) :
    (keptConverted keep converted).filterMap ConvertedParameter.listed? =
      converted.filterMap ConvertedParameter.listed? := by
  refine filterMap_sift ?_ converted
  intro c later hdropped
  cases c with
  | listed v =>
    rw [ConvertedParameter.role, hkeep] at hdropped
    cases hdropped
  | body v => rfl
  | formPart fields => rfl

theorem contains_body_role (converted : List ConvertedParameter) :
    (converted.map ConvertedParameter.role).contains .body =
      !(converted.filterMap ConvertedParameter.body?).isEmpty := by
  induction converted with
  | nil => rfl
  | cons c rest ih =>
    rw [List.map_cons, List.contains_cons, ih]
    cases c <;> rfl

theorem body_keptConverted (beside : Bool) (converted : List ConvertedParameter) :
    ((keptConverted (ownKept beside) converted).filterMap ConvertedParameter.body?).getLast? =
      (converted.filterMap ConvertedParameter.body?).getLast? := by
  unfold keptConverted
  induction converted with
  | nil => rfl
  | cons c rest ih =>
    rw [sift]
    cases c with
    | listed v => exact ih
    | formPart fields =>
      cases beside <;> exact ih
    | body v =>
      -- the body is dropped just when there is one behind it, which then is the last one
      rw [ConvertedParameter.role, ownKept, contains_body_role, Bool.not_not, filterMap_body_cons]
      cases hrest : rest.filterMap ConvertedParameter.body? with
      | nil =>
        rw [hrest] at ih
        rw [List.isEmpty_nil, if_pos rfl, filterMap_body_cons, List.getLast?_eq_none_iff.mp ih]
      | cons other others =>
        rw [List.isEmpty_cons, if_neg Bool.false_ne_true, ih, hrest, List.getLast?_cons_cons]

theorem form_keptConverted (converted : List ConvertedParameter) :
    (keptConverted (ownKept false) converted).filterMap ConvertedParameter.formPart? =
      converted.filterMap ConvertedParameter.formPart? := by
  refine filterMap_sift ?_ converted
  intro c later hdropped
  cases c with
  | listed v => cases hdropped
  | body v => rfl
  | formPart fields => cases hdropped

/-! ## the lists of operations and path items -/

/-- the list of an operation without what gets lost there -/
def ownList (bodies : List Atom) : Value → Value
  | .list items =>
    .list (keptItems bodies (ownKept ((items.map (role bodies)).contains .body)) items)
  | v => v

/-- the list of a path item without what gets lost there -/
def inheritedList (bodies : List Atom) : Value → Value
  | .list items => .list (keptItems bodies inheritedKept items)
  | v => v

theorem assemble_congr {converted converted' : List ConvertedParameter}
    (hlisted : converted'.filterMap ConvertedParameter.listed? =
      converted.filterMap ConvertedParameter.listed?)
    (hbody : (converted'.filterMap ConvertedParameter.body?).getLast? =
      (converted.filterMap ConvertedParameter.body?).getLast?)
    (hform : converted.filterMap ConvertedParameter.body? = [] →
      converted'.filterMap ConvertedParameter.formPart? =
        converted.filterMap ConvertedParameter.formPart?) :
    assemble consumes converted' = assemble consumes converted := by
  unfold assemble
  rw [hlisted, hbody]
  cases hlast : (converted.filterMap ConvertedParameter.body?).getLast? with
  | some body => rfl
  | none => rw [hform (List.getLast?_eq_none_iff.mp hlast)]

/-- without media types, what a list leaves comes without warnings -/
theorem assemble_quiet (converted : List ConvertedParameter) :
    Quiet (assemble none converted) := by
  unfold assemble
  split
  · exact (convertForm_quiet _).bind fun form _ => quiet_pure _
  · exact quiet_pure _

theorem assemble_inherited (converted : List ConvertedParameter) :
    assemble consumes (keptConverted inheritedKept converted) =
      pure (converted.filterMap ConvertedParameter.listed?, none) := by
  have hlisted : ∀ c ∈ keptConverted inheritedKept converted, ∃ v, c = .listed v := by
    intro c hc
    obtain ⟨later, hkept⟩ := exists_keep_of_mem_sift hc
    cases c with
    | listed v => exact ⟨v, rfl⟩
    | body v => cases hkept
    | formPart fields => cases hkept
  have hbody : (keptConverted inheritedKept converted).filterMap ConvertedParameter.body? = [] := by
    refine List.filterMap_eq_nil_iff.mpr fun c hc => ?_
    obtain ⟨v, rfl⟩ := hlisted c hc
    rfl
  have hform :
      (keptConverted inheritedKept converted).filterMap ConvertedParameter.formPart? = [] := by
    refine List.filterMap_eq_nil_iff.mpr fun c hc => ?_
    obtain ⟨v, rfl⟩ := hlisted c hc
    rfl
  rw [assemble, hbody, hform, listed_keptConverted (fun _ => rfl)]
  rfl

theorem iterated_list (items : List Value) :
    (Value.orElse (some (.list items)) (.list [])).iterated = .ok items := by
  cases items <;> rfl

theorem convertParameters_list (items : List Value) :
    convertParameters bodies consumes (Value.orElse (some (.list items)) (.list [])) =
      Conversion.each (convertParameter bodies consumes) items >>= assemble consumes := by
  rw [convertParameters_eq, iterated_list, ofExcept_ok_bind]

theorem convertParameters_own (bodies : List Atom) (consumes : Option Value) (v : Value) :
    Follows (convertParameters bodies consumes (Value.orElse (some v) (.list [])))
      (convertParameters bodies consumes (Value.orElse (some (ownList bodies v)) (.list []))) := by
  cases v with
  | list items =>
    intro result ws h
    rw [ownList, convertParameters_list]
    rw [convertParameters_list] at h
    obtain ⟨converted, us, vs, hconverted, hresult, rfl⟩ := bind_eq_ok_iff.mp h
    have hkept := each_keptItems (ownKept ((items.map (role bodies)).contains .body))
      (fun _ => rfl) hconverted
    refine bind_eq_ok_iff.mpr ⟨_, us, vs, hkept, ?_, rfl⟩
    have hall := (gives_each.mp ⟨us, hconverted⟩).imp fun _ _ hp => convertParameter_gives hp
    rw [map_role_eq hall, contains_body_role]
    rw [assemble_congr (listed_keptConverted (fun _ => rfl) converted) (body_keptConverted _ _)]
    · exact hresult
    · intro hnone
      rw [hnone]
      exact form_keptConverted converted
  | _ => exact Follows.refl _

theorem convertParameters_inherited {v : Value} {listed : List Value} {body : Option Value}
    {ws : List String} (h : convertParameters bodies none (Value.orElse (some v) (.list [])) =
      .ok ⟨(listed, body), ws⟩) :
    ∃ body', convertParameters bodies none (Value.orElse (some (inheritedList bodies v)) (.list [])) =
      .ok ⟨(listed, body'), ws⟩ := by
  cases v with
  | list items =>
    rw [inheritedList, convertParameters_list]
    rw [convertParameters_list] at h
    obtain ⟨converted, us, vs, hconverted, hresult, rfl⟩ := bind_eq_ok_iff.mp h
    have hkept := each_keptItems inheritedKept (fun _ => rfl) hconverted
    refine ⟨none, bind_eq_ok_iff.mpr ⟨_, us, vs, hkept, ?_, rfl⟩⟩
    rw [assemble_quiet converted _ vs hresult, assemble_inherited,
      ← (assemble_gives ⟨vs, hresult⟩).1]
    rfl
  | _ => exact ⟨body, h⟩

/-! ## whole documents -/

/-- the value under `name` changed, and every other one left as it is -/
def changedAt (name : String) (f : Value → Value) (key : Atom) (v : Value) : Value :=
  if key = .string name then f v else v

theorem get?_map_changedAt {name other : String} (h : other ≠ name) (f : Value → Value)
    (fields : Fields) :
    Fields.get? (fields.map fun entry => (entry.1, changedAt name f entry.1 entry.2)) other =
      fields.get? other := by
  rw [Fields.get?_map]
  have hid : changedAt name f (.string other) = id := by
    funext v
    exact if_neg fun heq => h (Atom.string.inj heq)
  rw [hid, Option.map_id_fun, id]

def keptOperation (bodies : List Atom) : Value → Value :=
  Value.mapEntries (changedAt "parameters" (ownList bodies))

/-- an entry of a path item without the parameters that get lost -/
def keptItemEntry (bodies : List Atom) (key : Atom) (v : Value) : Value :=
  if isTextIn methods key then keptOperation bodies v
  else changedAt "parameters" (inheritedList bodies) key v

def withoutLost (document : Value) : Value :=
  document.mapEntries (changedAt "paths" (Value.mapEntries fun _ item =>
    item.mapEntries (keptItemEntry (bodyNames (entriesOf document)))))

variable {setting : Setting}

theorem convertOperationEntry_congr {operation operation' : Fields}
    (hconsumes : operation'.get? "consumes" = operation.get? "consumes")
    (hproduces : operation'.get? "produces" = operation.get? "produces") (entry : Atom × Value) :
    convertOperationEntry setting operation' entry =
      convertOperationEntry setting operation entry := by
  unfold convertOperationEntry
  rw [hconsumes, hproduces]

theorem convertOperationEntry_follows (operation : Fields) (entry : Atom × Value) :
    Follows (convertOperationEntry setting operation entry) (convertOperationEntry setting operation
      (entry.1, changedAt "parameters" (ownList setting.bodies) entry.1 entry.2)) := by
  obtain ⟨key, v⟩ := entry
  rw [changedAt]
  by_cases hkey : key = .string "parameters"
  · subst hkey
    exact (convertParameters_own _ _ v).bind fun result => Follows.refl _
  · rw [if_neg hkey]
    exact Follows.refl _

/-- the last step for an operation: its schemes are ignored with a warning -/
def finishOperation (operation : Fields) (entries : List (List (Atom × Value))) :
    Conversion Value :=
  if operation.has "schemes" then do
    Conversion.warn ("Operation level schemes of '" ++ shown (operation.get? "operationId") ++
      "' are ignored")
    return .map (Fields.ofEntries entries.flatten)
  else return .map (Fields.ofEntries entries.flatten)

theorem convertOperation_map (setting : Setting) (operation : Fields) :
    convertOperation setting (.map operation) =
      each (convertOperationEntry setting operation) operation >>= finishOperation operation :=
  ofExcept_ok_bind operation _

theorem convertOperation_follows (setting : Setting) (v : Value) :
    Follows (convertOperation setting v)
      (convertOperation setting (keptOperation setting.bodies v)) := by
  cases v with
  | map fields =>
    generalize hkept : (fields.map fun entry =>
      (entry.1, changedAt "parameters" (ownList setting.bodies) entry.1 entry.2)) = kept
    have hget : ∀ name, name ≠ "parameters" → Fields.get? kept name = Fields.get? fields name :=
      fun name hname => hkept ▸ get?_map_changedAt hname _ fields
    have hvalue : keptOperation setting.bodies (.map fields) = .map kept := by
      rw [← hkept]
      rfl
    rw [hvalue, convertOperation_map, convertOperation_map]
    refine Follows.bind ?_ fun entries => ?_
    · rw [← hkept]
      refine follows_each_map ?_ fields
      intro entry
      rw [hkept, convertOperationEntry_congr (hget _ (by decide)) (hget _ (by decide))]
      exact convertOperationEntry_follows fields entry
    · have hfinish : finishOperation kept entries = finishOperation fields entries := by
        rw [finishOperation, Fields.has, hget _ (by decide), hget _ (by decide)]
        rfl
      rw [hfinish]
      exact Follows.refl _
  | _ => exact Follows.refl _

theorem convertPathEntry_follows (entry : Atom × Value) :
    Follows (convertPathEntry setting entry)
      (convertPathEntry setting (entry.1, keptItemEntry setting.bodies entry.1 entry.2)) := by
  obtain ⟨key, v⟩ := entry
  unfold convertPathEntry
  dsimp only
  rw [keptItemEntry]
  by_cases hmethod : isTextIn methods key = true
  · rw [if_pos hmethod, if_pos hmethod, if_pos hmethod]
    refine Follows.bind ?_ fun operation => Follows.refl _
    rw [orElse_some, orElse_some, keptOperation, Value.truthy_mapEntries]
    split
    · exact convertOperation_follows setting v
    · exact Follows.refl _
  · rw [if_neg hmethod, if_neg hmethod, if_neg hmethod, changedAt]
    by_cases hkey : key = .string "parameters"
    · rw [if_pos hkey, if_pos hkey, if_pos hkey]
      intro out ws h
      obtain ⟨⟨listed, body⟩, us, vs, hconverted, hout, rfl⟩ := bind_eq_ok_iff.mp h
      obtain ⟨body', hkept⟩ := convertParameters_inherited hconverted
      exact bind_eq_ok_iff.mpr ⟨(listed, body'), us, vs, hkept, hout, rfl⟩
    · rw [if_neg hkey, if_neg hkey, if_neg hkey]
      exact Follows.refl _

theorem convertPathItem_follows (setting : Setting) (item : Value) :
    Follows (convertPathItem setting item)
      (convertPathItem setting (item.mapEntries (keptItemEntry setting.bodies))) := by
  cases item with
  | map fields =>
    have hmap : ∀ fields : Fields, convertPathItem setting (.map fields) =
        each (convertPathEntry setting) fields >>= fun entries =>
          pure (.map (Fields.ofEntries entries.flatten)) := fun fields => ofExcept_ok_bind fields _
    rw [Value.mapEntries, hmap, hmap]
    exact (follows_each_map convertPathEntry_follows fields).bind fun entries => Follows.refl _
  | _ => exact Follows.refl _

theorem convertPath_follows (entry : Atom × Value) :
    Follows (convertPath setting entry)
      (convertPath setting (entry.1, entry.2.mapEntries (keptItemEntry setting.bodies))) := by
  refine (Follows.refl _).bind fun path => ?_
  split
  · exact Follows.refl _
  · refine Follows.bind ?_ fun item => Follows.refl _
    dsimp only
    rw [orElse_some, orElse_some, Value.truthy_mapEntries]
    split
    · exact convertPathItem_follows setting entry.2
    · exact Follows.refl _

section
variable {document kept : Fields}

theorem present?_congr {name : String} (h : kept.get? name = document.get? name) :
    kept.present? name = document.present? name := by
  rw [Fields.present?, Fields.present?, h]

variable (hget : ∀ name, name ≠ "paths" → kept.get? name = document.get? name)
include hget

theorem convertServers_congr : convertServers kept = convertServers document := by
  unfold convertServers
  rw [present?_congr (hget "host" (by decide)), present?_congr (hget "basePath" (by decide)),
    hget "schemes" (by decide)]

theorem mappingOr_congr {name : String} (h : name ≠ "paths") :
    mappingOr kept name = mappingOr document name := by
  rw [mappingOr, mappingOr, hget name h]

theorem convertComponents_congr : convertComponents kept = convertComponents document := by
  unfold convertComponents convertDefinitions convertComponentResponses
  rw [present?_congr (hget "definitions" (by decide)),
    present?_congr (hget "responses" (by decide)), mappingOr_congr hget (by decide),
    hget "consumes" (by decide), hget "produces" (by decide)]

theorem bodyNames_congr : bodyNames kept = bodyNames document := by
  rw [bodyNames, bodyNames, mappingOr_congr hget (by decide)]

end

theorem convertPaths_follows {document kept : Fields}
    (hpaths : kept.get? "paths" = (document.get? "paths").map (Value.mapEntries fun _ item =>
      item.mapEntries (keptItemEntry setting.bodies))) :
    Follows (convertPaths setting document) (convertPaths setting kept) := by
  unfold convertPaths mappingOr
  rw [hpaths]
  cases document.get? "paths" with
  | none => exact Follows.refl _
  | some v =>
    rw [Option.map_some, orElse_some, orElse_some, Value.truthy_mapEntries]
    split
    · cases v with
      | map fields =>
        show Follows (ofExcept (.ok fields) >>= _) (ofExcept (.ok (fields.map _)) >>= _)
        rw [ofExcept_ok_bind, ofExcept_ok_bind]
        exact (follows_each_map convertPath_follows fields).bind fun converted => Follows.refl _
      | _ => exact Follows.refl _
    · exact Follows.refl _

/-- **The document is converted as if the parameters that get lost had never been there**, to the
same document and with the same warnings. -/
theorem convert_withoutLost {document out : Value} {warnings : List String}
    (h : convert document = .ok ⟨out, warnings⟩) :
    convert (withoutLost document) = .ok ⟨out, warnings⟩ := by
  revert out warnings
  suffices hfollows : Follows (convert document) (convert (withoutLost document)) from
    fun {out warnings} h => hfollows out warnings h
  cases document with
  | map document =>
    generalize hkept : (document.map fun entry => (entry.1, changedAt "paths" (Value.mapEntries
      fun _ item => item.mapEntries (keptItemEntry (bodyNames document))) entry.1 entry.2)) = kept
    have hget : ∀ name, name ≠ "paths" → Fields.get? kept name = Fields.get? document name :=
      fun name hname => hkept ▸ get?_map_changedAt hname _ document
    have hpaths : Fields.get? kept "paths" = (Fields.get? document "paths").map
        (Value.mapEntries fun _ item => item.mapEntries (keptItemEntry (bodyNames document))) := by
      rw [← hkept, Fields.get?_map]
      rfl
    have hvalue : withoutLost (.map document) = .map kept := by
      rw [← hkept]
      rfl
    rw [hvalue]
    show Follows (ofExcept (.ok document) >>= _) (ofExcept (.ok kept) >>= _)
    rw [ofExcept_ok_bind, ofExcept_ok_bind, convertServers_congr hget, convertComponents_congr hget,
      bodyNames_congr hget, hget "consumes" (by decide), hget "produces" (by decide),
      hget "info" (by decide)]
    have hlast : (keptKeys.filterMap fun key => (Fields.get? kept key).map fun v => (key, v)) =
        keptKeys.filterMap fun key => (Fields.get? document key).map fun v => (key, v) := by
      refine List.filterMap_congr fun key hkey => ?_
      rw [hget key fun heq => absurd (heq ▸ hkey) (by decide)]
    rw [hlast]
    refine Follows.bind (Follows.refl _) fun servers => ?_
    refine Follows.bind (Follows.refl _) fun components => ?_
    refine Follows.bind ?_ fun paths => Follows.refl _
    exact convertPaths_follows hpaths
  | _ => exact Follows.refl _

end ApiBindings.Swagger
