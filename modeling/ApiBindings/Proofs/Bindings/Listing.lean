import ApiBindings.Proofs.Bindings.Sequence
import ApiBindings.Proofs.OpenApi.Checked
import Mathlib.Data.List.Nodup

/-!
# The operations that a document lists

Which operations accessors are generated for, taken from the document itself: the paths in the
order of their keys, and in each path the supported methods in the order of their keys, but for
those given as null.

* `supportedEndpoints_listed`       reading keeps exactly these, in this order;
* `bindings_in_document_order`      and they are bound in this order, or the first failure is given.
-/

namespace ApiBindings

/-- an operation as it stands in a document -/
structure ListedOperation where
  path : String
  item : Fields
  method : Method
  operation : Value

/-- the paths of a document with their items, in order -/
def listedPaths : Value → List (String × Value)
  | .map fields =>
    match Fields.get? fields "paths" with
    | some (.map items) =>
      mergeEntries (items.filterMap fun entry => (keyText? entry.1).map fun path => (path, entry.2))
    | _ => []
  | _ => []

def supportedOperation? (m : Method) : Value → Option (Method × Value)
  | .null => none
  | v => if m.isSupported then some (m, v) else none

/-- the operation of a key of a path item, if the key is a supported method and not null -/
def listedMethod? (item : Fields) : Atom → Option (Method × Value)
  | .string key =>
    (Method.ofName? key).bind fun m => (Fields.get? item key).bind (supportedOperation? m)
  | _ => none

/-- the supported operations of a path item, in the order of its keys -/
def listedMethods (item : Fields) : List (Method × Value) :=
  item.filterMap fun entry => listedMethod? item entry.1

/-- the supported operations of a document, in order -/
def listedOperations (document : Value) : List ListedOperation :=
  (listedPaths document).flatMap fun entry =>
    match entry.2 with
    | .map item => (listedMethods item).map fun found => ⟨entry.1, item, found.1, found.2⟩
    | _ => []

/-- what was read of an operation that a document lists -/
structure ReadAs (l : ListedOperation) (e : Endpoint) : Prop where
  path : e.path = l.path
  method : e.method = l.method
  operation : Operation.read l.operation = .ok e.operation
  shared : optionalField (readList (readReferable Parameter.read)) l.item "parameters" =
    .ok e.shared

/-! ## the methods of a path -/

theorem name_of_ofName? {key : String} {m : Method} (h : Method.ofName? key = some m) :
    m.name = key := by
  have h := List.find?_some h
  exact beq_iff_eq.mp h

theorem supportedOperation?_of_ne (m : Method) {v : Value} (h : v ≠ .null) :
    supportedOperation? m v = if m.isSupported then some (m, v) else none := by
  unfold supportedOperation?
  split
  · exact absurd rfl h
  · rfl

namespace PathItem

variable {fields : Fields}

theorem readMethod_eq_ok {m : Method} {found : List (Method × Option Operation)}
    (h : readMethod fields m = .ok found) : (Fields.get? fields m.name = none ∧ found = []) ∨
      ∃ v operation, Fields.get? fields m.name = some v ∧
        readNullable Operation.read v = .ok operation ∧ found = [(m, operation)] := by
  unfold readMethod at h
  split at h
  · rename_i hnone
    cases h
    exact .inl ⟨hnone, rfl⟩
  · rename_i v hv
    obtain ⟨operation, hread, rfl⟩ := Checked.map_eq_ok.mp (Checked.at_eq_ok.mp h)
    exact .inr ⟨v, operation, hv, hread, rfl⟩

theorem find_method_none {ms : List Method} {found : List (List (Method × Option Operation))}
    (h : List.Forall₂ (fun m part => readMethod fields m = .ok part) ms found) {m : Method}
    (hnone : Fields.get? fields m.name = none) :
    (found.flatten.find? fun entry => entry.1 == m) = none := by
  induction h with
  | nil => rfl
  | @cons x part ms found hpart _ ih =>
    rw [List.flatten_cons, List.find?_append, ih, Option.or_none]
    rcases readMethod_eq_ok hpart with ⟨_, rfl⟩ | ⟨v, operation, hv, _, rfl⟩
    · rfl
    · have hne : x ≠ m := by
        rintro rfl
        rw [hnone] at hv
        cases hv
      rw [List.find?_cons_of_neg (by simpa using hne)]
      rfl

theorem find_method_some {ms : List Method} {found : List (List (Method × Option Operation))}
    (h : List.Forall₂ (fun m part => readMethod fields m = .ok part) ms found) {m : Method}
    (hm : m ∈ ms) {v : Value} (hv : Fields.get? fields m.name = some v) :
    ∃ operation, (found.flatten.find? fun entry => entry.1 == m) = some (m, operation) ∧
      readNullable Operation.read v = .ok operation := by
  induction h with
  | nil => cases hm
  | @cons x part ms found hpart _ ih =>
    rw [List.flatten_cons, List.find?_append]
    by_cases hx : x = m
    · subst hx
      rcases readMethod_eq_ok hpart with ⟨hnone, _⟩ | ⟨v', operation, hv', hread, rfl⟩
      · rw [hnone] at hv
        cases hv
      · rw [hv] at hv'
        cases hv'
        refine ⟨operation, ?_, hread⟩
        rw [List.find?_cons_of_pos (by simp)]
        rfl
    · have hskip : (part.find? fun entry => entry.1 == m) = none := by
        rcases readMethod_eq_ok hpart with ⟨_, rfl⟩ | ⟨_, _, _, _, rfl⟩
        · rfl
        · rw [List.find?_cons_of_neg (by simpa using hx)]
          rfl
      rw [hskip, Option.none_or]
      exact ih (List.mem_of_ne_of_mem (Ne.symm hx) hm)

def ReadOperation (listed : Method × Value) (entry : Method × Operation) : Prop :=
  entry.1 = listed.1 ∧ Operation.read listed.2 = .ok entry.2

/-- what was read of a path item, part by part -/
theorem read_eq_ok {item : PathItem} (h : read (.map fields) = .ok item) :
    optionalField (readList (readReferable Parameter.read)) fields "parameters" =
        .ok item.parameters ∧
      ∃ found, List.Forall₂ (fun m part => readMethod fields m = .ok part) Method.all found ∧
        item.methods = inOrder (methodOrder fields) found.flatten := by
  obtain ⟨_, hfields, hparts⟩ := readObject_eq_ok.mp h
  cases hfields
  obtain ⟨_, extras, hthree, _, hitem⟩ := Checked.seq_eq_ok.mp hparts
  obtain ⟨_, methods, htwo, hmethods, rfl⟩ := Checked.seq_eq_ok.mp hthree
  obtain ⟨parameters, hparameters, rfl⟩ := Checked.fmap_eq_ok.mp htwo
  obtain ⟨found, hfound, rfl⟩ := Checked.map_eq_ok.mp hmethods
  rw [← hitem]
  exact ⟨hparameters, found, List.forall₂_map_left_iff.mp (Checked.all_eq_ok.mp hfound), rfl⟩

theorem mem_all (m : Method) : m ∈ Method.all := by
  cases m <;> decide

/-- **The operations of a path item are those that the document lists, in its order.** -/
theorem operations_listed {item : PathItem} (h : read (.map fields) = .ok item) :
    List.Forall₂ ReadOperation (listedMethods fields)
      (item.operations.filter fun entry => entry.1.isSupported) := by
  obtain ⟨_, found, hfound, hmethods⟩ := read_eq_ok h
  rw [operations, hmethods, inOrder, methodOrder, listedMethods, List.filterMap_filterMap,
    List.filterMap_filterMap, List.filter_filterMap]
  have hsame : List.Forall₂ (· = ·) fields fields := List.forall₂_refl fields
  refine List.rel_filterMap ?_ hsame
  rintro ⟨key, value⟩ _ rfl
  cases key with
  | string key =>
    dsimp only [listedMethod?]
    cases hkey : Method.ofName? key with
    | none => exact .none
    | some m =>
      have hname := name_of_ofName? hkey
      rw [Option.bind_some, Option.bind_some, ← hname]
      cases hv : Fields.get? fields m.name with
      | none =>
        rw [find_method_none hfound hv]
        exact .none
      | some v =>
        obtain ⟨operation, hfind, hread⟩ := find_method_some hfound (mem_all m) hv
        rw [hfind, Option.bind_some, Option.bind_some]
        rcases readNullable_eq_ok hread with ⟨rfl, rfl⟩ | ⟨result, hne, hresult, rfl⟩
        · exact .none
        · rw [supportedOperation?_of_ne m hne, Option.map_some, Option.filter_some]
          by_cases hsupported : m.isSupported = true
          · rw [if_pos hsupported, if_pos hsupported]
            exact .some ⟨rfl, hresult⟩
          · rw [if_neg hsupported, if_neg hsupported]
            exact .none
  | _ => exact .none

end PathItem

/-! ## the paths of a document -/

namespace Description

open Endpoint

variable {v : Value} {d : Description}

theorem read_paths (h : read v = .ok d) : ∃ fields, v = .map fields ∧
    presentField (readMapping PathItem.read) fields "paths" = .ok d.paths := by
  obtain ⟨fields, rfl, hparts⟩ := readObject_eq_ok.mp h
  obtain ⟨_, extras, hfive, _, hd⟩ := Checked.seq_eq_ok.mp hparts
  obtain ⟨_, components, hfour, _, rfl⟩ := Checked.seq_eq_ok.mp hfive
  obtain ⟨_, paths, hthree, hpaths, rfl⟩ := Checked.seq_eq_ok.mp hfour
  obtain ⟨_, servers, htwo, _, rfl⟩ := Checked.seq_eq_ok.mp hthree
  obtain ⟨_, info, hone, _, rfl⟩ := Checked.seq_eq_ok.mp htwo
  obtain ⟨version, _, rfl⟩ := Checked.fmap_eq_ok.mp hone
  rw [← hd]
  exact ⟨fields, rfl, hpaths⟩

theorem readEntries_text {items : Fields} {entries : List (String × PathItem)}
    (h : List.Forall₂ (ReadEntry PathItem.read) items entries) :
    List.Forall₂ (EntryRel fun v item => PathItem.read v = .ok item)
      (items.filterMap fun entry => (keyText? entry.1).map fun path => (path, entry.2))
      entries := by
  induction h with
  | nil => exact .nil
  | @cons entry result items entries hentry _ ih =>
    obtain ⟨hkey, hread⟩ := hentry
    rw [List.filterMap_cons, hkey]
    exact .cons ⟨rfl, hread⟩ ih

/-- the paths of a description are those of the document, in its order -/
theorem paths_listed (h : read v = .ok d) :
    List.Forall₂ (EntryRel fun v item => PathItem.read v = .ok item) (listedPaths v)
      (d.paths.getD []) := by
  obtain ⟨fields, rfl, hpaths⟩ := read_paths h
  rcases presentField_eq_ok hpaths with ⟨hnone, hd⟩ | ⟨paths, results, hsome, hread, hd⟩
  · rw [hd, listedPaths, hnone]
    exact .nil
  · obtain ⟨items, entries, rfl, hentries, rfl⟩ := readMapping_eq_ok hread
    rw [hd, listedPaths, hsome]
    exact mergeEntries_rel (readEntries_text hentries)

theorem supportedEndpoints_eq (d : Description) : d.supportedEndpoints =
    (d.paths.getD []).flatMap fun entry =>
      (entry.2.operations.filter fun found => found.1.isSupported).map fun operation =>
        ⟨entry.1, operation.1, operation.2, entry.2.parameters⟩ := by
  rw [supportedEndpoints, endpoints, List.filter_flatMap]
  congr 1
  funext entry
  rw [List.filter_map]
  rfl

/-- **The operations of a description are those that the document lists, in its order.** -/
theorem supportedEndpoints_listed (h : read v = .ok d) :
    List.Forall₂ ReadAs (listedOperations v) d.supportedEndpoints := by
  rw [supportedEndpoints_eq]
  refine List.rel_flatMap (paths_listed h) ?_
  rintro ⟨path, value⟩ ⟨path', item⟩ ⟨hpath, hread⟩
  cases hpath
  obtain ⟨fields, rfl, _⟩ := readObject_eq_ok.mp hread
  have hshared := (PathItem.read_eq_ok hread).1
  refine List.rel_map ?_ (PathItem.operations_listed hread)
  intro listed entry hentry
  exact ⟨rfl, hentry.1, hentry.2, hshared⟩

/-! ## their bindings -/

theorem nodup_operationIds {es : List Endpoint} {bs : List Binding}
    (h : List.Forall₂ (fun e b => d.bind e [] = .ok b) es bs) :
    (es.map fun e => e.id?).Nodup ↔ (bs.map Binding.operationId).Nodup := by
  have hids : (es.map fun e => e.id?) = (bs.map Binding.operationId).map some := by
    induction h with
    | nil => rfl
    | cons hb _ ih => rw [List.map_cons, (bind_eq_ok_iff.mp hb).1, ih, List.map_cons, List.map_cons]
  rw [hids]
  exact List.nodup_map_iff fun _ _ h => Option.some.inj h

/-- All operations can be bound if and only if each can be on its own and no id occurs twice. -/
theorem bindings_isOk_iff : (∃ bs, d.bindings = .ok bs) ↔
    (∀ e ∈ d.supportedEndpoints, ∃ b, d.bind e [] = .ok b) ∧
      (d.supportedEndpoints.map fun e => e.id?).Nodup := by
  unfold bindings
  constructor
  · rintro ⟨bs, hbs⟩
    obtain ⟨hall, hnodup, _⟩ := bindingsFrom_eq_ok_iff.mp hbs
    exact ⟨exists_of_forall₂ hall, (nodup_operationIds hall).mpr hnodup⟩
  · rintro ⟨hall, hnodup⟩
    obtain ⟨bs, hbs⟩ := exists_forall₂ hall
    refine ⟨bs, bindingsFrom_eq_ok_iff.mpr ⟨hbs, (nodup_operationIds hbs).mp hnodup, ?_⟩⟩
    intro b _ hb
    cases hb

end Description

/-- **The bindings of a document are those of its operations in document order, one for each, if
every operation can be bound on its own and no id occurs twice; otherwise the failure is that of the
first operation that cannot be bound given the ids of those before it.** -/
theorem bindings_in_document_order {v : Value} {d : Description} (h : Description.read v = .ok d) :
    List.Forall₂ ReadAs (listedOperations v) d.supportedEndpoints ∧
      ((∃ bs, d.bindings = .ok bs) ↔
        (∀ e ∈ d.supportedEndpoints, ∃ b, d.bind e [] = .ok b) ∧
          (d.supportedEndpoints.map fun e => e.id?).Nodup) ∧
      (∀ bs, d.bindings = .ok bs →
        List.Forall₂ (fun e b => d.bind e [] = .ok b) d.supportedEndpoints bs) ∧
      ∀ f, d.bindings = .error f → ∃ before e after,
        d.supportedEndpoints = before ++ e :: after ∧ d.BindsInOrder [] before ∧
          d.bind e (Endpoint.ids before) = .error f := by
  refine ⟨Description.supportedEndpoints_listed h, Description.bindings_isOk_iff, ?_, ?_⟩
  · intro bs hbs
    exact (Description.bindingsFrom_eq_ok_iff.mp hbs).1
  · intro f hf
    exact Description.bindingsFrom_eq_error (fun _ => Iff.rfl) hf

/-- a document that lists the methods of a path in an order of its own, and repeats an id -/
def repeatedId : Value :=
  .object [("openapi", .text "3.0.3"),
    ("paths", .object [
      ("/pets/{id}", .object [
        ("put", .object [("operationId", .text "putPet"), ("parameters", .list [
          .object [("name", .text "id"), ("in", .text "path"), ("required", .bool true)]])]),
        ("delete", .null),
        ("get", .object [("operationId", .text "getPet"), ("parameters", .list [
          .object [("name", .text "id"), ("in", .text "path"), ("required", .bool true)]])])]),
      ("/pets", .object [("post", .object [("operationId", .text "putPet")])])])]

theorem bindings_repeatedId_in_document_order :
    ((listedOperations repeatedId).map fun l => (l.path, l.method)) =
        [("/pets/{id}", .put), ("/pets/{id}", .get), ("/pets", .post)] ∧
      ∃ d, Description.read repeatedId = .ok d ∧
        List.Forall₂ ReadAs (listedOperations repeatedId) d.supportedEndpoints ∧
        ((∃ bs, d.bindings = .ok bs) ↔
          (∀ e ∈ d.supportedEndpoints, ∃ b, d.bind e [] = .ok b) ∧
            (d.supportedEndpoints.map fun e => e.id?).Nodup) ∧
        (∀ bs, d.bindings = .ok bs →
          List.Forall₂ (fun e b => d.bind e [] = .ok b) d.supportedEndpoints bs) ∧
        ∀ f, d.bindings = .error f → ∃ before e after,
          d.supportedEndpoints = before ++ e :: after ∧ d.BindsInOrder [] before ∧
            d.bind e (Endpoint.ids before) = .error f :=
  ⟨by decide +kernel, _, rfl, bindings_in_document_order rfl⟩

end ApiBindings
