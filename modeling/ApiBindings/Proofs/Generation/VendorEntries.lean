import ApiBindings.Generate
import ApiBindings.Proofs.Bindings.Sequence
import ApiBindings.Proofs.OpenApi.VendorEntries

/-!
# When vendor entries go unseen

An entry that a vendor adds to the paths of a document is a path like any other, and one in the
responses of an operation is the response to a failure.  So a document with such entries is refused
if one of them cannot be read, and its bindings change if one of them has an operation or another
type.

* `Description.MoreEntries.supportedEndpoints`   which operations are bound;
* `Description.MoreEntries.bind_eq`              what one of them is bound to;
* `vendorEntries_unseen_iff`                     when the bindings are the same.
-/

namespace ApiBindings

/-! ## operations -/

namespace Endpoint

/-- the union of the types of the responses that are no success -/
def errorType (e : Endpoint) : Except Failure String :=
  payloadUnionOr "unknown" ((e.operation.responses.getD []).filter fun entry => !isSuccess entry.1)

/-- the same operation with more responses under vendor keys -/
structure MoreResponses (e e' : Endpoint) : Prop where
  path : e'.path = e.path
  method : e'.method = e.method
  shared : e'.shared = e.shared
  operation : Operation.MoreResponses e.operation e'.operation

end Endpoint

/-- the same operations with the same types of failures, one by one -/
def SameErrors (d d' : Description) : Prop :=
  List.Forall₂ (fun e e' : Endpoint => e'.errorType = e.errorType) d.supportedEndpoints
    d'.supportedEndpoints

theorem isSuccess_of_isVendorKey {name : String} (h : IsVendorKey name) :
    isSuccess name = false := by
  obtain ⟨rest, hrest⟩ := List.isPrefixOf_iff_prefix.mp h
  have hname : name.toList = 'x' :: '-' :: rest := hrest.symm
  unfold isSuccess
  rw [hname]
  rfl

namespace PathItem

theorem MoreResponses.operations {item item' : PathItem} (h : MoreResponses item item') :
    List.Forall₂ (fun x y => x.1 = y.1 ∧ Operation.MoreResponses x.2 y.2) item.operations
      item'.operations := by
  refine List.rel_filterMap ?_ h.methods
  rintro ⟨m, o⟩ ⟨m', o'⟩ ⟨hm, ho⟩
  cases (show m = m' from hm)
  cases ho with
  | none => exact .none
  | some ho => exact .some ⟨rfl, ho⟩

end PathItem

namespace Description

variable {d d' : Description}

theorem MoreEntries.supportedEndpoints (h : MoreEntries d d') :
    Grown Endpoint.MoreResponses (fun _ => True) d.supportedEndpoints d'.supportedEndpoints := by
  rw [supportedEndpoints_eq, supportedEndpoints_eq]
  refine h.paths.flatMap ?_
  rintro ⟨path, item⟩ ⟨path', item'⟩ ⟨hpath, hitem⟩
  cases (show path = path' from hpath)
  have hoperations : List.Forall₂ (fun x y => x.1 = y.1 ∧ Operation.MoreResponses x.2 y.2)
      (item.operations.filter fun found => found.1.isSupported)
      (item'.operations.filter fun found => found.1.isSupported) := by
    refine List.rel_filter ?_ hitem.operations
    rintro ⟨m, o⟩ ⟨m', o'⟩ ⟨hm, _⟩
    cases (show m = m' from hm)
    exact Iff.rfl
  refine List.rel_map ?_ hoperations
  rintro ⟨m, o⟩ ⟨m', o'⟩ ⟨hm, ho⟩
  exact ⟨rfl, hm.symm, hitem.parameters, ho⟩

theorem MoreEntries.parameters (h : MoreEntries d d') : d'.parameters = d.parameters := by
  rw [Description.parameters, Description.parameters, h.components]

/-- An operation is bound to the same, if the types of its failures are the same. -/
theorem MoreEntries.bind_eq (h : MoreEntries d d') {e e' : Endpoint}
    (he : e.MoreResponses e') (herror : e'.errorType = e.errorType) (seen : List String) :
    d'.bind e' seen = d.bind e seen := by
  have hresolve : ∀ ps, d'.resolveParameters ps = d.resolveParameters ps := by
    intro ps
    induction ps with
    | nil => rfl
    | cons p rest ih =>
      rw [resolveParameters, resolveParameters, ih, resolveParameter, resolveParameter,
        h.parameters]
  have hsuccess : (e'.operation.responses.getD []).filter (fun entry => isSuccess entry.1) =
      (e.operation.responses.getD []).filter fun entry => isSuccess entry.1 :=
    he.operation.responses.filter_eq fun _ hentry => isSuccess_of_isVendorKey hentry
  have hplaceholders : placeholderParameters e' = placeholderParameters e := by
    funext id sorted names
    exact placeholderParameters_congr he.path he.method fun _ _ => rfl
  obtain ⟨path, method, o, shared⟩ := e
  obtain ⟨path', method', o', shared'⟩ := e'
  obtain ⟨hpath, hmethod, hshared, ⟨hrest, _⟩⟩ := he
  cases hpath
  cases hmethod
  cases hshared
  obtain ⟨id, summary, description, parameters, body, responses, extras⟩ := o
  obtain ⟨id', summary', description', parameters', body', responses', extras'⟩ := o'
  cases hrest
  have hsort : d'.sortParameters shared parameters = d.sortParameters shared parameters := by
    rw [sortParameters, sortParameters, hresolve]
  unfold bind
  dsimp only
  rw [hsuccess, hsort, hplaceholders]
  unfold Endpoint.errorType at herror
  rw [herror]
  rfl

theorem MoreEntries.bindingsFrom_eq (h : MoreEntries d d') {es es' : List Endpoint}
    (hes : List.Forall₂ Endpoint.MoreResponses es es')
    (herrors : List.Forall₂ (fun e e' : Endpoint => e'.errorType = e.errorType) es es')
    (seen : List String) : d'.bindingsFrom seen es' = d.bindingsFrom seen es := by
  induction hes generalizing seen with
  | nil => rfl
  | cons he _ ih =>
    cases herrors with
    | cons herror hrest =>
      rw [bindingsFrom, bindingsFrom, h.bind_eq he herror]
      congr 1
      funext b
      rw [ih hrest]

/-- If there are no more operations, and none fails with another type, the bindings are the same. -/
theorem MoreEntries.bindings_eq (h : MoreEntries d d') (hsame : SameErrors d d') :
    d'.bindings = d.bindings := by
  have hes := h.supportedEndpoints.forall₂ hsame.length_eq
  exact h.bindingsFrom_eq hes hsame []

theorem errorType_of_bind {e : Endpoint} {seen : List String} {b : Binding}
    (h : d.bind e seen = .ok b) : e.errorType = .ok b.errorType := by
  obtain ⟨_, hbuilt⟩ := bind_eq_ok_iff_parts.mp h
  exact hbuilt.error

/-- And only then. -/
theorem sameErrors_of_bindings {bs : List Binding} (h : d.bindings = .ok bs)
    (h' : d'.bindings = .ok bs) : SameErrors d d' := by
  have hbs := (bindingsFrom_eq_ok_iff.mp h).1
  have hbs' := (bindingsFrom_eq_ok_iff.mp h').1
  refine forall₂_comp hbs hbs'.flip fun e _ b e' hb hb' => ?_
  rw [errorType_of_bind hb, errorType_of_bind hb']

theorem MoreEntries.declarationBlocks_eq (h : MoreEntries d d') (includeResponses : Bool) :
    d'.declarationBlocks includeResponses = d.declarationBlocks includeResponses := by
  unfold declarationBlocks componentsOrEmpty
  rw [h.components]

end Description

/-- **When vendor entries go unseen.**  A JSON document with more entries under vendor keys, in its
paths or in the responses of its operations, can be read exactly if each of these entries can be
read as a path item or a response.  Its declarations are then those of the document without them;
its bindings are the same exactly if no operation was added and no operation fails with another
type, and then the whole text is the same. -/
theorem vendorEntries_unseen_iff {v v' : Value} {d : Description} (hjson : v.IsJson)
    (hjson' : v'.IsJson) (h : WithVendorEntries v v') (hread : Description.read v = .ok d) :
    ((∃ d', Description.read v' = .ok d') ↔ VendorEntriesRead v') ∧
      ∀ d', Description.read v' = .ok d' →
        (∀ includeResponses,
          d'.declarationBlocks includeResponses = d.declarationBlocks includeResponses) ∧
        (SameErrors d d' → ∀ options includeResponses,
          d'.generate options includeResponses = d.generate options includeResponses) ∧
        ∀ bs, d.bindings = .ok bs → (d'.bindings = .ok bs ↔ SameErrors d d') := by
  have hcarries : VendorEntriesRead v' → ∃ d', Description.read v' = .ok d' ∧ d.MoreEntries d' :=
    fun hentries => Description.read_grown hjson hjson' h hentries d hread
  refine ⟨⟨?_, ?_⟩, ?_⟩
  · rintro ⟨d', hd'⟩
    exact Description.vendorEntriesRead hjson' hd'
  · intro hentries
    obtain ⟨d', hd', _⟩ := hcarries hentries
    exact ⟨d', hd'⟩
  · intro d' hd'
    have hmore : d.MoreEntries d' := by
      obtain ⟨d'', hd'', hmore⟩ := hcarries (Description.vendorEntriesRead hjson' hd')
      rw [hd'] at hd''
      cases hd''
      exact hmore
    refine ⟨hmore.declarationBlocks_eq, ?_, ?_⟩
    · intro hsame options includeResponses
      rw [Description.generate, Description.generate, hmore.openapi, hmore.declarationBlocks_eq,
        hmore.bindings_eq hsame]
    · intro bs hbs
      refine ⟨Description.sameErrors_of_bindings hbs, fun hsame => ?_⟩
      rw [hmore.bindings_eq hsame, hbs]

/-- a document with vendor entries in its paths and in the responses of an operation -/
def shopWith (pathEntries responseEntries : List (String × Value)) : Value :=
  .object [("openapi", .text "3.0.3"),
    ("paths", .object (pathEntries ++ [("/pets", .object [
      ("get", .object [("operationId", .text "listPets"),
        ("responses", .object (responseEntries ++ [("default", .object [])]))])])]))]

theorem shopWith_isJson {pathEntries responseEntries : List (String × Value)}
    (hpaths : ((pathEntries.map (·.1)) ++ ["/pets"]).Nodup)
    (hresponses : ((responseEntries.map (·.1)) ++ ["default"]).Nodup)
    (hpath : ∀ entry ∈ pathEntries, entry.2.IsJson)
    (hresponse : ∀ entry ∈ responseEntries, entry.2.IsJson) :
    (shopWith pathEntries responseEntries).IsJson := by
  have hempty : (Value.object []).IsJson := .object (by decide) (by simp)
  have hmap : (Value.object (responseEntries ++ [("default", .object [])])).IsJson := by
    refine .object (by simpa using hresponses) ?_
    simp only [List.forall_mem_append, List.forall_mem_singleton]
    exact ⟨hresponse, hempty⟩
  have hoperation : (Value.object [("operationId", .text "listPets"),
      ("responses", .object (responseEntries ++ [("default", .object [])]))]).IsJson :=
    .object (by simp) (by simp [Value.IsJson.text, hmap])
  have hitem : (Value.object [("get", .object [("operationId", .text "listPets"),
      ("responses", .object (responseEntries ++ [("default", .object [])]))])]).IsJson :=
    .object (by simp) (by simp [hoperation])
  refine .object (by simp) ?_
  simp only [List.forall_mem_cons, List.not_mem_nil, false_implies, implies_true, and_true]
  refine ⟨.text _, .object (by simpa using hpaths) ?_⟩
  simp only [List.forall_mem_append, List.forall_mem_singleton]
  exact ⟨hpath, hitem⟩

theorem shopWith_withVendorEntries : WithVendorEntries (shopWith [] [])
    (shopWith [("x-owner", .object [])] [("x-limit", .null)]) := by
  have hresponses : OnMappings (VendorEntries Eq) (.object [("default", .object [])])
      (.object [("x-limit", .null), ("default", .object [])]) :=
    .map (.added ⟨_, rfl, rfl⟩ (.kept ⟨rfl, rfl⟩ .nil))
  have hoperation : WithVendorResponses
      (.object [("operationId", .text "listPets"),
        ("responses", .object [("default", .object [])])])
      (.object [("operationId", .text "listPets"),
        ("responses", .object [("x-limit", .null), ("default", .object [])])]) :=
    .map (.cons ⟨rfl, rfl⟩ (.cons ⟨rfl, hresponses⟩ .nil))
  have hitem : WithVendorOperations
      (.object [("get", .object [("operationId", .text "listPets"),
        ("responses", .object [("default", .object [])])])])
      (.object [("get", .object [("operationId", .text "listPets"),
        ("responses", .object [("x-limit", .null), ("default", .object [])])])]) :=
    .map (.cons ⟨rfl, .inl ⟨.get, rfl, hoperation⟩⟩ .nil)
  exact .map (.cons ⟨rfl, rfl⟩ (.cons ⟨rfl,
    .map (.added ⟨_, rfl, rfl⟩ (.kept ⟨rfl, hitem⟩ .nil))⟩ .nil))

theorem vendorEntries_unseen_shop :
    (shopWith [] []).IsJson ∧ (shopWith [("x-owner", .object [])] [("x-limit", .null)]).IsJson ∧
      WithVendorEntries (shopWith [] []) (shopWith [("x-owner", .object [])] [("x-limit", .null)]) ∧
      ∃ d d', Description.read (shopWith [] []) = .ok d ∧
        Description.read (shopWith [("x-owner", .object [])] [("x-limit", .null)]) = .ok d' ∧
        SameErrors d d' ∧ ∀ options includeResponses,
          d'.generate options includeResponses = d.generate options includeResponses := by
  have hempty : (Value.object []).IsJson := .object (by decide) (by simp)
  have hplain : (shopWith [] []).IsJson :=
    shopWith_isJson (by decide) (by decide) (by simp) (by simp)
  have hvendor : (shopWith [("x-owner", .object [])] [("x-limit", .null)]).IsJson :=
    shopWith_isJson (by decide) (by decide) (by simp [hempty]) (by simp [Value.IsJson.null])
  obtain ⟨d, d', bs, hd, hd', hbs, hbs'⟩ : ∃ d d' bs, Description.read (shopWith [] []) = .ok d ∧
      Description.read (shopWith [("x-owner", .object [])] [("x-limit", .null)]) = .ok d' ∧
      d.bindings = .ok bs ∧ d'.bindings = .ok bs :=
    ⟨_, _, _, rfl, rfl, rfl, rfl⟩
  obtain ⟨_, hunseen⟩ := vendorEntries_unseen_iff hplain hvendor shopWith_withVendorEntries hd
  obtain ⟨_, htext, hiff⟩ := hunseen d' hd'
  have hsame := (hiff bs hbs).mp hbs'
  exact ⟨hplain, hvendor, shopWith_withVendorEntries, d, d', hd, hd', hsame, htext hsame⟩

/-- a flag among the paths is no path item -/
example : (Description.read (shopWith [("x-internal", .bool true)] [])).toOption.isNone = true := by
  decide +kernel

/-- a vendor's response adds its type to those of failures -/
example :
    ((Description.read (shopWith [] [("x-limit", .object [("$ref", .text
        "#/components/responses/Limit")])])).toOption.bind fun d =>
      d.bindings.toOption.map fun bs => bs.map Binding.errorType) =
        some ["LimitResponse | void"] := by
  decide +kernel

end ApiBindings
