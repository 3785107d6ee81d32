import ApiBindings.Proofs.Document.Lookup
import ApiBindings.Proofs.OpenApi.Carries
import ApiBindings.Proofs.OpenApi.ReadOperation

/-!
# Vendor entries in mappings that are no objects

The paths of a document and the responses of an operation are mappings whose keys are data.  An
entry that a vendor adds there, under a key that begins with `x-`, is read like any other entry.

* `WithVendorEntries`               the same document with such entries in its paths and responses;
* `Operation.read_grown`, `PathItem.read_grown`, `Description.read_grown`
                                    what is read then, if the new entries can be read;
* `Description.vendorEntriesRead`   and that they can be is needed.
-/

namespace ApiBindings

open Checked (Carries)
open Relator

/-! ## lists with more elements -/

section
variable {α β γ δ : Type} {R : α → β → Prop} {N : β → Prop}

/-- elements that are related to those of a list one after the other, and more between them -/
inductive Grown (R : α → β → Prop) (N : β → Prop) : List α → List β → Prop
  | nil : Grown R N [] []
  | kept {a : α} {b : β} {as : List α} {bs : List β} (h : R a b) (hrest : Grown R N as bs) :
      Grown R N (a :: as) (b :: bs)
  | added {b : β} {as : List α} {bs : List β} (h : N b) (hrest : Grown R N as bs) :
      Grown R N as (b :: bs)

namespace Grown

variable {as : List α} {bs : List β}

theorem refl {R : α → α → Prop} {N : α → Prop} (hR : ∀ a, R a a) (as : List α) :
    Grown R N as as := by
  induction as with
  | nil => exact .nil
  | cons a as ih => exact .kept (hR a) ih

theorem length_le (h : Grown R N as bs) : as.length ≤ bs.length := by
  induction h with
  | nil => exact Nat.le_refl 0
  | kept _ _ ih =>
    rw [List.length_cons, List.length_cons]
    omega
  | added _ _ ih =>
    rw [List.length_cons]
    omega

/-- If there are not more, they are related one by one. -/
theorem forall₂ (h : Grown R N as bs) (hlength : as.length = bs.length) :
    List.Forall₂ R as bs := by
  induction h with
  | nil => exact .nil
  | kept hab _ ih => exact .cons hab (ih (by simpa using hlength))
  | added _ hrest _ =>
    have hle := hrest.length_le
    rw [List.length_cons] at hlength
    omega

theorem imp {S : α → β → Prop} (h : Grown R N as bs) (hRS : ∀ a b, R a b → S a b) :
    Grown S N as bs := by
  induction h with
  | nil => exact .nil
  | kept hab _ ih => exact .kept (hRS _ _ hab) ih
  | added hb _ ih => exact .added hb ih

theorem filter_eq {N : α → Prop} {as bs : List α} (h : Grown Eq N as bs) {p : α → Bool}
    (hp : ∀ a, N a → p a = false) : bs.filter p = as.filter p := by
  induction h with
  | nil => rfl
  | kept hab _ ih =>
    cases hab
    rw [List.filter_cons, List.filter_cons, ih]
  | added hb _ ih => rw [List.filter_cons_of_neg (by rw [hp _ hb]; decide), ih]

theorem append {as' : List α} {bs' : List β} (h : Grown R N as bs) (h' : Grown R N as' bs') :
    Grown R N (as ++ as') (bs ++ bs') := by
  induction h with
  | nil => exact h'
  | kept hab _ ih => exact .kept hab ih
  | added hb _ ih => exact .added hb ih

theorem of_forall₂ (h : List.Forall₂ R as bs) : Grown R N as bs := by
  induction h with
  | nil => exact .nil
  | cons hab _ ih => exact .kept hab ih

theorem of_added (h : ∀ b ∈ bs, N b) : Grown R N [] bs := by
  induction bs with
  | nil => exact .nil
  | cons b bs ih =>
    exact .added (h b List.mem_cons_self) (ih fun b hb => h b (List.mem_cons_of_mem _ hb))

theorem flatMap {S : γ → δ → Prop} {f : α → List γ} {g : β → List δ} (h : Grown R N as bs)
    (hfg : ∀ a b, R a b → List.Forall₂ S (f a) (g b)) :
    Grown S (fun _ => True) (as.flatMap f) (bs.flatMap g) := by
  induction h with
  | nil => exact .nil
  | kept hab _ ih => exact (of_forall₂ (hfg _ _ hab)).append ih
  | added _ _ ih => exact (of_added fun _ _ => trivial).append ih

/-- If all elements have a result, those of the longer list are grown from those of the shorter. -/
theorem results {P : α → γ → Prop} {Q : β → δ → Prop} {S : γ → δ → Prop} {M : δ → Prop}
    (h : Grown R N as bs) {cs : List γ} (hcs : List.Forall₂ P as cs)
    (hkept : ∀ a ∈ as, ∀ b ∈ bs, ∀ c, R a b → P a c → ∃ d, Q b d ∧ S c d)
    (hadded : ∀ b ∈ bs, N b → ∃ d, Q b d ∧ M d) :
    ∃ ds, List.Forall₂ Q bs ds ∧ Grown S M cs ds := by
  induction h generalizing cs with
  | nil =>
    cases hcs
    exact ⟨[], .nil, .nil⟩
  | @kept a b as bs hab _ ih =>
    cases hcs with
    | @cons _ c _ cs hc hcs =>
      obtain ⟨d, hd, hcd⟩ := hkept a List.mem_cons_self b List.mem_cons_self c hab hc
      obtain ⟨ds, hds, hgrown⟩ := ih hcs
        (fun a ha b hb => hkept a (List.mem_cons_of_mem _ ha) b (List.mem_cons_of_mem _ hb))
        (fun b hb => hadded b (List.mem_cons_of_mem _ hb))
      exact ⟨d :: ds, .cons hd hds, .kept hcd hgrown⟩
  | @added b as bs hb _ ih =>
    obtain ⟨d, hd, hM⟩ := hadded b List.mem_cons_self hb
    obtain ⟨ds, hds, hgrown⟩ := ih hcs
      (fun a ha b hb => hkept a ha b (List.mem_cons_of_mem _ hb))
      (fun b hb => hadded b (List.mem_cons_of_mem _ hb))
    exact ⟨d :: ds, .cons hd hds, .added hM hgrown⟩

end Grown

end

/-! ## documents with vendor entries -/

def IsVendorKey (name : String) : Prop := Text.startsWith "x-" name = true

/-- entries of the same keys with related values, and more under keys of vendors -/
def VendorEntries (E : Value → Value → Prop) : Fields → Fields → Prop :=
  Grown (fun entry entry' => entry.1 = entry'.1 ∧ E entry.2 entry'.2)
    fun entry => ∃ name, entry.1 = .string name ∧ IsVendorKey name

/-- the same value, or mappings that are related -/
inductive OnMappings (P : Fields → Fields → Prop) : Value → Value → Prop
  | same (v : Value) : OnMappings P v v
  | map {fields fields' : Fields} (h : P fields fields') : OnMappings P (.map fields) (.map fields')

def SameKeys (P : Atom → Value → Value → Prop) : Fields → Fields → Prop :=
  List.Forall₂ fun entry entry' => entry.1 = entry'.1 ∧ P entry.1 entry.2 entry'.2

/-- related values under one key, and equal ones under any other -/
def Under (name : String) (P : Value → Value → Prop) (key : Atom) : Value → Value → Prop :=
  if key = .string name then P else Eq

def WithVendorResponses : Value → Value → Prop :=
  OnMappings (SameKeys (Under "responses" (OnMappings (VendorEntries Eq))))

/-- the same path item with vendor entries in the responses of its operations -/
def WithVendorOperations : Value → Value → Prop :=
  OnMappings (SameKeys fun key v v' =>
    (∃ m : Method, key = .string m.name ∧ WithVendorResponses v v') ∨ v = v')

/-- the same document with vendor entries in its paths and in the responses of its operations -/
def WithVendorEntries : Value → Value → Prop :=
  OnMappings (SameKeys (Under "paths" (OnMappings (VendorEntries WithVendorOperations))))

/-- results under text keys, and more under keys of vendors -/
def VendorGrown {α : Type} (R : String × α → String × α → Prop) :
    List (String × α) → List (String × α) → Prop :=
  Grown R fun entry => IsVendorKey entry.1

/-! ## mappings of the same keys -/

namespace SameKeys

variable {P : Atom → Value → Value → Prop} {fields fields' : Fields}

theorem get?_rel (h : SameKeys P fields fields') (name : String) :
    Option.Rel (P (.string name)) (fields.get? name) (fields'.get? name) := by
  induction h with
  | nil => exact .none
  | @cons entry entry' _ _ hentry _ ih =>
    obtain ⟨key, v⟩ := entry
    obtain ⟨key', v'⟩ := entry'
    obtain ⟨hkey, hv⟩ := hentry
    cases hkey
    rw [Fields.get?_cons, Fields.get?_cons]
    by_cases hname : key = .string name
    · subst hname
      rw [if_pos rfl, if_pos rfl]
      exact .some hv
    · rw [if_neg hname, if_neg hname]
      exact ih

theorem keys_eq (h : SameKeys P fields fields') : fields'.map (·.1) = fields.map (·.1) :=
  map_eq_of_forall₂ (h.imp fun _ _ hentry => hentry.1.symm)

/-- Where values are equal, so is what is found. -/
theorem get?_eq (h : SameKeys P fields fields') {name : String}
    (heq : ∀ v v', P (.string name) v v' → v = v') : fields'.get? name = fields.get? name := by
  have hrel := h.get?_rel name
  revert hrel
  generalize fields.get? name = found
  generalize fields'.get? name = found'
  intro hrel
  cases hrel with
  | none => rfl
  | some hv => rw [heq _ _ hv]

theorem optionalField_carries {α : Type} (h : SameKeys P fields fields') {name : String}
    (heq : ∀ v v', P (.string name) v v' → v = v') (read : Value → Checked α) :
    Carries Eq (optionalField read fields name) (optionalField read fields' name) := by
  unfold optionalField Fields.given
  rw [h.get?_eq heq]
  exact .refl (fun _ => rfl) _

theorem requiredField_carries {α : Type} (h : SameKeys P fields fields') {name : String}
    (heq : ∀ v v', P (.string name) v v' → v = v') (read : Value → Checked α) :
    Carries Eq (requiredField read fields name) (requiredField read fields' name) := by
  unfold requiredField
  rw [h.get?_eq heq]
  exact .refl (fun _ => rfl) _

theorem readExtras_carries (h : SameKeys P fields fields') (known : List String) :
    Carries (fun _ _ => True) (readExtras fields known) (readExtras fields' known) := by
  intro extras hextras
  have htext : fields'.TextKeys := by
    intro entry hentry
    obtain ⟨entry', hentry', hkey, _⟩ := exists_mem_of_forall₂ h.flip hentry
    obtain ⟨name, hname⟩ := textKeys_of_readExtras hextras entry' hentry'
    exact ⟨name, hkey ▸ hname⟩
  obtain ⟨extras', hextras'⟩ := exists_readExtras htext known
  exact ⟨extras', hextras', trivial⟩

end SameKeys

theorem eq_of_under {key name : String} {P : Value → Value → Prop} (hne : name ≠ key) (v v' : Value)
    (h : Under key P (.string name) v v') : v = v' := by
  rwa [Under, if_neg fun heq => hne (Atom.string.inj heq)] at h

theorem of_under {key : String} {P : Value → Value → Prop} {v v' : Value}
    (h : Under key P (.string key) v v') : P v v' := by
  rwa [Under, if_pos rfl] at h

/-! ## mappings of a JSON document -/

theorem Value.IsJson.of_get? {fields : Fields} (h : (Value.map fields).IsJson) {name : String}
    {v : Value} (hv : fields.get? name = some v) : v.IsJson := by
  cases h with
  | map _ _ hvalues => exact hvalues _ (Fields.mem_of_get? hv)

theorem Value.IsJson.textKeys {fields : Fields} (h : (Value.map fields).IsJson) :
    fields.TextKeys := by
  cases h with
  | map htext _ _ => exact htext

theorem Value.IsJson.distinct {fields : Fields} (h : (Value.map fields).IsJson) :
    fields.Distinct := by
  cases h with
  | map htext hkeys _ => exact Fields.distinct_of_textKeys htext hkeys

section
variable {α : Type} {read : Value → Checked α} {fields : Fields}

def ReadAt (read : Value → Checked α) (entry : Atom × Value) (result : String × α) : Prop :=
  entry.1 = .string result.1 ∧ read entry.2 = .ok result.2

theorem readMapping_json_eq_ok (h : (Value.map fields).IsJson) {results : List (String × α)} :
    readMapping read (.map fields) = .ok results ↔ List.Forall₂ (ReadAt read) fields results := by
  have hmerge : ∀ {entries : List (String × α)}, List.Forall₂ (ReadAt read) fields entries →
      mergeEntries entries = entries := by
    intro entries hentries
    refine mergeEntries_eq ?_
    have hkeys : fields.map (·.1) = (entries.map (·.1)).map Atom.string := by
      rw [List.map_map]
      exact (map_eq_of_forall₂ (hentries.imp fun _ _ hentry => hentry.1.symm)).symm
    cases h with
    | map _ hnodup _ =>
      rw [hkeys] at hnodup
      exact hnodup.of_map
  constructor
  · intro hread
    obtain ⟨_, entries, hfields, hentries, rfl⟩ := readMapping_eq_ok hread
    cases hfields
    have hall : List.Forall₂ (ReadAt read) fields entries := by
      refine forall₂_comp (List.forall₂_same.mpr fun _ _ => rfl) hentries ?_
      intro entry hentry _ result heq hresult
      cases heq
      cases h with
      | map htext _ _ =>
        obtain ⟨name, hname⟩ := htext entry hentry
        obtain ⟨hkey, hvalue⟩ := hresult
        rw [hname] at hkey
        exact ⟨hname.trans (congrArg Atom.string (Option.some.inj hkey)), hvalue⟩
    rw [hmerge hall]
    exact hall
  · intro hall
    rw [readMapping, Checked.map_eq_ok]
    refine ⟨results, Checked.all_eq_ok.mpr (List.forall₂_map_left_iff.mpr ?_), hmerge hall⟩
    refine hall.imp fun entry result hentry => ?_
    obtain ⟨key, v⟩ := entry
    obtain ⟨name, a⟩ := result
    obtain ⟨hkey, hv⟩ := hentry
    cases hkey
    exact Checked.app_eq_ok.mpr ⟨Prod.mk name, a, rfl, Checked.at_eq_ok.mpr hv, rfl⟩

/-- A mapping with vendor entries that can be read is read with more entries. -/
theorem readMapping_grown {E : Value → Value → Prop} {R : α → α → Prop} {fields' : Fields}
    (hjson : (Value.map fields).IsJson) (hjson' : (Value.map fields').IsJson)
    (h : VendorEntries E fields fields')
    (hkept : ∀ name v v', fields.get? name = some v → fields'.get? name = some v' → E v v' →
      Carries R (read v) (read v'))
    (hadded : ∀ name v', IsVendorKey name → fields'.get? name = some v' → ∃ a, read v' = .ok a) :
    Carries (VendorGrown (EntryRel R)) (readMapping read (.map fields))
      (readMapping read (.map fields')) := by
  intro results hread
  have hresults := (readMapping_json_eq_ok hjson).mp hread
  obtain ⟨results', hresults', hgrown⟩ :
      ∃ results', List.Forall₂ (ReadAt read) fields' results' ∧
        VendorGrown (EntryRel R) results results' := by
    refine h.results hresults ?_ ?_
    · rintro ⟨key, v⟩ hmem ⟨key', v'⟩ hmem' ⟨name, a⟩ ⟨hkey, hv⟩ ⟨hname, ha⟩
      cases (show key = key' from hkey)
      cases (show key = .string name from hname)
      obtain ⟨a', ha', hrel⟩ := hkept name v v' (Fields.get?_of_mem hjson.distinct hmem)
        (Fields.get?_of_mem hjson'.distinct hmem') hv a ha
      exact ⟨(name, a'), ⟨rfl, ha'⟩, rfl, hrel⟩
    · rintro ⟨key, v'⟩ hmem ⟨name, hkey, hvendor⟩
      cases (show key = .string name from hkey)
      obtain ⟨a, ha⟩ := hadded name v' hvendor (Fields.get?_of_mem hjson'.distinct hmem)
      exact ⟨(name, a), ⟨rfl, ha⟩, hvendor⟩
  exact ⟨results', (readMapping_json_eq_ok hjson').mpr hresults', hgrown⟩

end

/-! ## reading -/

def ResponsesRead (operation : Value) : Prop :=
  ∀ name w, IsVendorKey name → operation.at? ["responses", name] = some w →
    ∃ r, readNullable Payload.readResponse w = .ok r

/-- what a vendor adds to a document can be read as what stands there -/
structure VendorEntriesRead (document : Value) : Prop where
  paths : ∀ name w, IsVendorKey name → document.at? ["paths", name] = some w →
    ∃ item, PathItem.read w = .ok item
  responses : ∀ path (m : Method) operation,
    document.at? ["paths", path, m.name] = some operation → ResponsesRead operation

theorem at?_of_get? {fields : Fields} {name : String} {v w : Value}
    (hv : fields.get? name = some v) {path : List String} (hw : v.at? path = some w) :
    (Value.map fields).at? (name :: path) = some w := by
  show (fields.get? name).bind (Value.at? path) = some w
  rw [hv]
  exact hw

/-- the same operation with more responses under vendor keys -/
structure Operation.MoreResponses (o o' : Operation) : Prop where
  rest : o' = { o with responses := o'.responses, extras := o'.extras }
  responses : VendorGrown Eq (o.responses.getD []) (o'.responses.getD [])

/-- the same path item with operations that have more responses under vendor keys -/
structure PathItem.MoreResponses (item item' : PathItem) : Prop where
  parameters : item'.parameters = item.parameters
  methods : List.Forall₂ (fun entry entry' => entry.1 = entry'.1 ∧
    Option.Rel Operation.MoreResponses entry.2 entry'.2) item.methods item'.methods

/-- the same description with more paths and responses under vendor keys -/
structure Description.MoreEntries (d d' : Description) : Prop where
  openapi : d'.openapi = d.openapi
  components : d'.components = d.components
  paths : VendorGrown (EntryRel PathItem.MoreResponses) (d.paths.getD []) (d'.paths.getD [])

namespace Operation

theorem MoreResponses.refl (o : Operation) : MoreResponses o o :=
  ⟨rfl, .refl (fun _ => rfl) _⟩

theorem mk_moreResponses : (Eq ⇒ Eq ⇒ Eq ⇒ Eq ⇒ Eq ⇒
    (fun x y => VendorGrown Eq (x.getD []) (y.getD [])) ⇒
    (fun _ _ => True) ⇒ MoreResponses) Operation.mk Operation.mk := by
  intro _ _ hid _ _ hsummary _ _ hdescription _ _ hparameters _ _ hbody _ _ hresponses _ _ _
  cases hid
  cases hsummary
  cases hdescription
  cases hparameters
  cases hbody
  exact ⟨rfl, hresponses⟩

variable {v v' : Value}

theorem readResponses_grown (hjson : v.IsJson) (hjson' : v'.IsJson)
    (h : OnMappings (VendorEntries Eq) v v')
    (hread : ∀ name w, IsVendorKey name → v'.at? [name] = some w →
      ∃ r, readNullable Payload.readResponse w = .ok r) :
    Carries (VendorGrown Eq) (readResponses v) (readResponses v') := by
  cases h with
  | same => exact .refl (.refl fun _ => rfl) _
  | @map fields fields' hentries =>
    rw [readResponses_of_textKeys hjson.textKeys hjson.distinct,
      readResponses_of_textKeys hjson'.textKeys hjson'.distinct]
    refine (readMapping_grown (R := Eq) hjson hjson' hentries ?_ ?_).imp ?_
    · rintro _ w _ _ _ rfl
      exact .refl (fun _ => rfl) _
    · exact fun name w hname hw => hread name w hname (at?_of_get? hw rfl)
    · exact fun _ _ hgrown => hgrown.imp fun _ _ hentry => Prod.ext hentry.1 hentry.2

theorem read_grown (hjson : v.IsJson) (hjson' : v'.IsJson) (h : WithVendorResponses v v')
    (hread : ResponsesRead v') : Carries MoreResponses (read v) (read v') := by
  cases h with
  | same => exact .refl MoreResponses.refl _
  | @map fields fields' hsame =>
    have hresponses : Carries (fun x y => VendorGrown Eq (x.getD []) (y.getD []))
        (presentField readResponses fields "responses")
        (presentField readResponses fields' "responses") := by
      refine (presentField_carries (R := VendorGrown Eq) (hsame.get?_rel "responses") ?_).imp ?_
      · intro w w' hw hw' hrel
        exact readResponses_grown (hjson.of_get? hw) (hjson'.of_get? hw') (of_under hrel)
          fun name r hname hr => hread name r hname (at?_of_get? hw' hr)
      · intro x y hxy
        cases hxy with
        | none => exact .nil
        | some hgrown => exact hgrown
    exact ((((((Carries.fmap mk_moreResponses
      (hsame.optionalField_carries (eq_of_under (by decide)) _)).seq
      (hsame.optionalField_carries (eq_of_under (by decide)) _)).seq
      (hsame.optionalField_carries (eq_of_under (by decide)) _)).seq
      (hsame.optionalField_carries (eq_of_under (by decide)) _)).seq
      (hsame.optionalField_carries (eq_of_under (by decide)) _)).seq hresponses).seq
      (hsame.readExtras_carries _)

end Operation

namespace PathItem

variable {v v' : Value}

theorem MoreResponses.refl (item : PathItem) : MoreResponses item item := by
  refine ⟨rfl, List.forall₂_same.mpr fun entry _ => ⟨rfl, ?_⟩⟩
  cases entry.2 with
  | none => exact .none
  | some o => exact .some (.refl o)

def MethodRel (entry entry' : Method × Option Operation) : Prop :=
  entry.1 = entry'.1 ∧ Option.Rel Operation.MoreResponses entry.2 entry'.2

theorem inOrder_rel {found found' : List (Method × Option Operation)}
    (h : List.Forall₂ MethodRel found found') (order : List Method) :
    List.Forall₂ MethodRel (inOrder order found) (inOrder order found') := by
  have hfind : ∀ m : Method, Option.Rel MethodRel (found.find? fun entry => entry.1 == m)
      (found'.find? fun entry => entry.1 == m) := by
    intro m
    induction h with
    | nil => exact .none
    | @cons entry entry' _ _ hentry _ ih =>
      rw [List.find?_cons, List.find?_cons, ← hentry.1]
      cases entry.1 == m with
      | true => exact .some hentry
      | false => exact ih
  unfold inOrder
  have hsame : List.Forall₂ Eq order order := List.forall₂_refl order
  refine List.rel_filterMap ?_ hsame
  rintro m _ rfl
  exact hfind m

theorem readMethod_grown {fields fields' : Fields} (hjson : (Value.map fields).IsJson)
    (hjson' : (Value.map fields').IsJson) {m : Method}
    (hrel : Option.Rel WithVendorResponses (fields.get? m.name) (fields'.get? m.name))
    (hread : ∀ operation, fields'.get? m.name = some operation → ResponsesRead operation) :
    Carries (List.Forall₂ MethodRel) (readMethod fields m) (readMethod fields' m) := by
  have hvalue : ∀ v, fields.get? m.name = some v → v.IsJson := fun v => hjson.of_get?
  have hvalue' : ∀ v, fields'.get? m.name = some v → v.IsJson := fun v => hjson'.of_get?
  unfold readMethod
  revert hrel hread hvalue hvalue'
  generalize fields.get? m.name = found
  generalize fields'.get? m.name = found'
  intro hrel hread hvalue hvalue'
  cases hrel with
  | none => exact .ok .nil
  | @some w w' hw =>
    have hnull : w = .null ↔ w' = .null := by
      cases hw <;> simp
    have hoperation := readNullable_carries hnull
      (Operation.read_grown (hvalue w rfl) (hvalue' w' rfl) hw (hread w' rfl))
    exact (hoperation.map fun _ _ ho => List.Forall₂.cons ⟨rfl, ho⟩ .nil).at_ _ _

theorem read_grown (hjson : v.IsJson) (hjson' : v'.IsJson) (h : WithVendorOperations v v')
    (hread : ∀ (m : Method) operation, v'.at? [m.name] = some operation →
      ResponsesRead operation) : Carries MoreResponses (read v) (read v') := by
  cases h with
  | same => exact .refl MoreResponses.refl _
  | @map fields fields' hsame =>
    have hmethod : ∀ m : Method, Option.Rel WithVendorResponses (fields.get? m.name)
        (fields'.get? m.name) := by
      intro m
      have hrel := hsame.get?_rel m.name
      revert hrel
      generalize fields.get? m.name = found
      generalize fields'.get? m.name = found'
      intro hrel
      cases hrel with
      | none => exact .none
      | some hw =>
        rcases hw with ⟨_, _, hw⟩ | rfl
        · exact .some hw
        · exact .some (.same _)
    have hparameters : ∀ w w', ((∃ m : Method, Atom.string "parameters" = .string m.name ∧
        WithVendorResponses w w') ∨ w = w') → w = w' := by
      rintro w w' (⟨m, hname, _⟩ | heq)
      · have hne : "parameters" ≠ m.name := by
          cases m <;> decide
        exact (hne (Atom.string.inj hname)).elim
      · exact heq
    have hfound : Carries (List.Forall₂ (List.Forall₂ MethodRel))
        (Checked.all (Method.all.map (readMethod fields)))
        (Checked.all (Method.all.map (readMethod fields'))) := by
      refine .all (List.forall₂_map_left_iff.mpr (List.forall₂_map_right_iff.mpr ?_))
      exact List.forall₂_same.mpr fun m _ => readMethod_grown hjson hjson' (hmethod m)
        fun operation hoperation => hread m operation (at?_of_get? hoperation rfl)
    have hmethods : Carries (List.Forall₂ MethodRel)
        ((Checked.all (Method.all.map (readMethod fields))).map
          fun found => inOrder (methodOrder fields) found.flatten)
        ((Checked.all (Method.all.map (readMethod fields'))).map
          fun found => inOrder (methodOrder fields') found.flatten) := by
      refine hfound.map fun found found' hall => ?_
      rw [methodOrder_eq, methodOrder_eq, hsame.keys_eq]
      exact inOrder_rel (List.rel_flatten hall) _
    have hmk : (Eq ⇒ List.Forall₂ MethodRel ⇒ (fun _ _ => True) ⇒ MoreResponses)
        PathItem.mk PathItem.mk := fun _ _ hparameters _ _ hmethods _ _ _ =>
      ⟨hparameters.symm, hmethods⟩
    exact ((Carries.fmap hmk (hsame.optionalField_carries hparameters _)).seq hmethods).seq
      (hsame.readExtras_carries _)

end PathItem

namespace Description

variable {v v' : Value}

theorem MoreEntries.refl (d : Description) : MoreEntries d d :=
  ⟨rfl, rfl, .refl (fun entry => ⟨rfl, .refl entry.2⟩) _⟩

theorem read_grown (hjson : v.IsJson) (hjson' : v'.IsJson) (h : WithVendorEntries v v')
    (hread : VendorEntriesRead v') : Carries MoreEntries (read v) (read v') := by
  cases h with
  | same => exact .refl MoreEntries.refl _
  | @map fields fields' hsame =>
    have hitems : ∀ w w', fields.get? "paths" = some w → fields'.get? "paths" = some w' →
        OnMappings (VendorEntries WithVendorOperations) w w' →
        Carries (VendorGrown (EntryRel PathItem.MoreResponses)) (readMapping PathItem.read w)
          (readMapping PathItem.read w') := by
      intro w w' hw hw' hrel
      cases hrel with
      | same => exact .refl (.refl fun entry => ⟨rfl, .refl entry.2⟩) _
      | @map items items' hitems =>
        refine readMapping_grown (hjson.of_get? hw) (hjson'.of_get? hw') hitems ?_ ?_
        · intro path item item' hitem hitem' hgrown
          refine PathItem.read_grown ((hjson.of_get? hw).of_get? hitem)
            ((hjson'.of_get? hw').of_get? hitem') hgrown fun m operation hoperation => ?_
          exact hread.responses path m operation
            (at?_of_get? hw' (at?_of_get? hitem' hoperation))
        · exact fun path item hpath hitem =>
            hread.paths path item hpath (at?_of_get? hw' (at?_of_get? hitem rfl))
    have hpaths : Carries
        (fun x y => VendorGrown (EntryRel PathItem.MoreResponses) (x.getD []) (y.getD []))
        (presentField (readMapping PathItem.read) fields "paths")
        (presentField (readMapping PathItem.read) fields' "paths") := by
      refine (presentField_carries (hsame.get?_rel "paths") fun w w' hw hw' hrel =>
        hitems w w' hw hw' (of_under hrel)).imp ?_
      intro x y hxy
      cases hxy with
      | none => exact .nil
      | some hgrown => exact hgrown
    have hmk : (Eq ⇒ Eq ⇒ Eq ⇒
        (fun x y => VendorGrown (EntryRel PathItem.MoreResponses) (x.getD []) (y.getD [])) ⇒ Eq ⇒
        (fun _ _ => True) ⇒ MoreEntries) Description.mk Description.mk :=
      fun _ _ hopenapi _ _ _ _ _ _ _ _ hpaths _ _ hcomponents _ _ _ =>
        ⟨hopenapi.symm, hcomponents.symm, hpaths⟩
    exact (((((Carries.fmap hmk (hsame.requiredField_carries (eq_of_under (by decide)) _)).seq
      (hsame.optionalField_carries (eq_of_under (by decide)) _)).seq
      (hsame.optionalField_carries (eq_of_under (by decide)) _)).seq hpaths).seq
      (hsame.optionalField_carries (eq_of_under (by decide)) _)).seq
      (hsame.readExtras_carries _)

/-! conversely, whatever is read was there to be read -/

theorem exists_readAt {α : Type} {read : Value → Checked α} {w u : Value} (hjson : w.IsJson)
    {results : List (String × α)} (hread : readMapping read w = .ok results) {name : String}
    (hu : w.at? [name] = some u) : ∃ a, read u = .ok a := by
  obtain ⟨fields, _, rfl, _⟩ := readMapping_eq_ok hread
  rw [Value.at?_singleton] at hu
  have hmem := Fields.mem_of_get? hu
  obtain ⟨result, _, _, hresult⟩ :=
    exists_mem_of_forall₂ ((readMapping_json_eq_ok hjson).mp hread) hmem
  exact ⟨result.2, hresult⟩

theorem exists_item (hjson : v.IsJson) {d : Description} (h : read v = .ok d) {path : String}
    {item : Value} (hitem : v.at? ["paths", path] = some item) :
    ∃ i, PathItem.read item = .ok i := by
  obtain ⟨fields, rfl, hpaths⟩ := read_paths h
  obtain ⟨w, hw, hitem⟩ := Option.bind_eq_some_iff.mp hitem
  rcases presentField_eq_ok hpaths with ⟨hnone, _⟩ | ⟨w', results, hsome, hread, _⟩
  · rw [Value.child?, hnone] at hw
    cases hw
  · rw [Value.child?, hsome] at hw
    cases hw
    exact exists_readAt (hjson.of_get? hsome) hread hitem

end Description

theorem Value.IsJson.of_at? {v w : Value} (h : v.IsJson) {path : List String}
    (hw : v.at? path = some w) : w.IsJson := by
  induction path generalizing v with
  | nil =>
    cases hw
    exact h
  | cons name rest ih =>
    obtain ⟨u, hu, hrest⟩ := Option.bind_eq_some_iff.mp hw
    cases v with
    | map fields => exact ih (h.of_get? hu) hrest
    | _ => cases hu

theorem Operation.responsesRead {v : Value} (hjson : v.IsJson) {o : Operation}
    (h : read v = .ok o) : ResponsesRead v := by
  intro name r _ hr
  obtain ⟨fields, rfl, _, hresponses⟩ := read_eq_ok h
  obtain ⟨w, hw, hr⟩ := Option.bind_eq_some_iff.mp hr
  rcases presentField_eq_ok hresponses with ⟨hnone, _⟩ | ⟨w', results, hsome, hread, _⟩
  · rw [Value.child?, hnone] at hw
    cases hw
  · rw [Value.child?, hsome] at hw
    cases hw
    have hjsonw := hjson.of_get? hsome
    cases w with
    | map entries =>
      rw [readResponses_of_textKeys hjsonw.textKeys hjsonw.distinct] at hread
      exact Description.exists_readAt hjsonw hread hr
    | _ => cases hr

/-- **What a vendor adds to a description that can be read can itself be read.** -/
theorem Description.vendorEntriesRead {v : Value} (hjson : v.IsJson) {d : Description}
    (h : read v = .ok d) : VendorEntriesRead v where
  paths _ _ _ hw := exists_item hjson h hw
  responses path m operation hoperation := by
    obtain ⟨item, hitem, hget⟩ := Value.at?_snoc ["paths", path] hoperation
    obtain ⟨i, hi⟩ := exists_item hjson h hitem
    obtain ⟨_, found, hfound, _⟩ := PathItem.read_eq_ok hi
    obtain ⟨o, _, ho⟩ := PathItem.find_method_some hfound (PathItem.mem_all m) hget
    rcases readNullable_eq_ok ho with ⟨rfl, _⟩ | ⟨o, _, ho, _⟩
    · intro _ _ _ hnone
      cases hnone
    · exact Operation.responsesRead (hjson.of_at? hoperation) ho

end ApiBindings
