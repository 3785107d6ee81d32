import ApiBindings.Proofs.Bindings.Pointers
import ApiBindings.Proofs.Generation.NamesApart

/-!
# Names that are used are declared

A name in a type comes from a pointer, which is cut at the beginnings that are known.  A declaration
is named after the key of its component and the kind that the key stands in.  The two give the same
name for every key, so a file in which no pointer leads nowhere declares all the names that it uses.

* `Description.pointers`               the pointers that the types of a document are made with;
* `pointerNames_componentPointers`     pointers to components have the names of the declarations;
* `generate_names_declared`            every name in a type of the file is declared in it.
-/

namespace ApiBindings

open TypeScript
open Source (Options Headings fileExports)

/-! ## the pointers of a document -/

namespace Description

/-- the pointers that the declarations of the components are made with -/
def declarationPointers (d : Description) : List String :=
  (d.componentsOrEmpty.schemas.getD []).flatMap (fun entry => nodePointers entry.2) ++
    (d.componentsOrEmpty.responses.getD []).flatMap (fun entry => payloadPointers (some entry.2)) ++
    (d.componentsOrEmpty.requestBodies.getD []).flatMap
      fun entry => payloadPointers (some entry.2)

/-- all pointers that the types of a document are made with -/
def pointers (d : Description) : List String :=
  d.declarationPointers ++ d.supportedEndpoints.flatMap d.endpointPointers

/-- the pointers to the components that types are declared for, by their keys -/
def componentPointers (d : Description) : List String :=
  (d.componentsOrEmpty.schemas.getD []).map (fun entry => "#/components/schemas/" ++ entry.1) ++
    (d.componentsOrEmpty.responses.getD []).map
      (fun entry => "#/components/responses/" ++ entry.1) ++
    (d.componentsOrEmpty.requestBodies.getD []).map
      fun entry => "#/components/requestBodies/" ++ entry.1

end Description

/-! ## names of declarations -/

def Apart (s t : String) : Prop := ¬ s.toList <+: t.toList ∧ ¬ t.toList <+: s.toList

instance (s t : String) : Decidable (Apart s t) := inferInstanceAs (Decidable (_ ∧ _))

theorem dropStart?_of_apart {other start : String} (h : Apart other start) (rest : String) :
    Text.dropStart? other (start ++ rest) = none := by
  rw [Text.dropStart?, Option.map_eq_none_iff]
  cases hafter : Text.afterStart? other.toList (start ++ rest).toList with
  | none => rfl
  | some after =>
    have heq := Text.afterStart?_eq_some_iff.mp hafter
    rw [String.toList_append] at heq
    rcases List.append_eq_append_iff.mp heq with ⟨middle, hother, _⟩ | ⟨middle, hstart, _⟩
    · exact absurd ⟨middle, hother.symm⟩ h.2
    · exact absurd ⟨middle, hstart.symm⟩ h.1

theorem referencePrefixes_apart :
    ∀ x ∈ referencePrefixes, ∀ y ∈ referencePrefixes, x = y ∨ Apart x.1 y.1 := by
  decide

/-- a pointer into components of one kind is cut behind their beginning, whatever follows -/
theorem splitReference?_append {start suffix : String} (h : (start, suffix) ∈ referencePrefixes)
    (key : String) : splitReference? (start ++ key) = some (key, suffix) := by
  cases hfound : splitReference? (start ++ key) with
  | none =>
    have hnone := List.findSome?_eq_none_iff.mp hfound (start, suffix) h
    rw [Text.dropStart?_append] at hnone
    cases hnone
  | some found =>
    obtain ⟨entry, hentry, hcut⟩ := List.exists_of_findSome?_eq_some hfound
    rcases referencePrefixes_apart entry hentry (start, suffix) h with rfl | hapart
    · rw [Text.dropStart?_append] at hcut
      exact hcut.symm
    · rw [dropStart?_of_apart hapart] at hcut
      cases hcut

theorem pointerName?_append {start suffix : String} (h : (start, suffix) ∈ referencePrefixes)
    (key : String) : pointerName? (start ++ key) = some (pascal key ++ suffix) := by
  rw [pointerName?, referenceType, splitReference?_append h]
  rfl

theorem pointerNames_map {α : Type} {start : String} (suffix : String)
    (h : (start, suffix) ∈ referencePrefixes) (entries : List (String × α)) :
    pointerNames (entries.map fun entry => start ++ entry.1) =
      entries.map fun entry => pascal entry.1 ++ suffix := by
  induction entries with
  | nil => rfl
  | cons entry rest ih =>
    rw [List.map_cons, pointerNames, List.filterMap_cons_some (pointerName?_append h entry.1)]
    exact congrArg (_ :: ·) ih

/-- **The names behind the pointers to components are those of the declarations.** -/
theorem Description.pointerNames_componentPointers {d : Description}
    {blocks : List (List Declaration)} (h : d.declarationBlocks true = .ok blocks) :
    pointerNames d.componentPointers = blocks.flatten.map Declaration.name := by
  have hempty : ∀ s : String, s ++ "" = s := fun s => String.append_empty
  rw [Description.declarationBlocks_names [] h, componentPointers, pointerNames_append,
    pointerNames_append, pointerNames_map "" (by decide),
    pointerNames_map "Response" (by decide), pointerNames_map "RequestBody" (by decide)]
  simp only [fileNames, componentNames, if_true, List.map_map, hempty]
  rfl

/-! ## types of declarations -/

theorem schemaDeclarations_namedBy {entries : List (String × SchemaNode)} {ds : List Declaration}
    (h : schemaDeclarations entries = .ok ds) : ∀ declaration ∈ ds,
      NamedBy (entries.flatMap fun entry => nodePointers entry.2) declaration.expression := by
  intro declaration hmem
  obtain ⟨entry, hentry, hdeclared⟩ :=
    exists_mem_of_forall₂ (schemaDeclarations_eq_ok.mp h).flip hmem
  obtain ⟨expression, hexpression, rfl⟩ := map_eq_ok.mp hdeclared
  exact (nodeType_namedBy hexpression).mono fun _ hx => List.mem_flatMap.mpr ⟨entry, hentry, hx⟩

theorem payloadDeclarations_namedBy {suffix : String}
    {entries : List (String × Referable Payload)} {ds : List Declaration}
    (h : payloadDeclarations suffix entries = .ok ds) : ∀ declaration ∈ ds,
      NamedBy (entries.flatMap fun entry => payloadPointers (some entry.2))
        declaration.expression := by
  intro declaration hmem
  obtain ⟨entry, hentry, hdeclared⟩ :=
    exists_mem_of_forall₂ (payloadDeclarations_eq_ok.mp h).flip hmem
  obtain ⟨expression, hexpression, rfl⟩ := map_eq_ok.mp hdeclared
  have htype := payloadUnion_singleton.mp hexpression
  exact (payloadType_namedBy htype).mono fun _ hx => List.mem_flatMap.mpr ⟨entry, hentry, hx⟩

theorem Description.declarationBlocks_namedBy {d : Description}
    {blocks : List (List Declaration)} (h : d.declarationBlocks true = .ok blocks) :
    ∀ declaration ∈ blocks.flatten, NamedBy d.declarationPointers declaration.expression := by
  obtain ⟨schemas, hschemas, h⟩ := bind_eq_ok.mp h
  obtain ⟨responses, hresponses, h⟩ := bind_eq_ok.mp h
  obtain ⟨bodies, hbodies, h⟩ := bind_eq_ok.mp h
  cases h
  have hschemas := schemaDeclarations_namedBy hschemas
  have hresponses := payloadDeclarations_namedBy hresponses
  have hbodies := payloadDeclarations_namedBy hbodies
  intro declaration hmem
  simp only [List.flatten_cons, List.flatten_nil, List.append_nil, List.mem_append] at hmem
  rcases hmem with hmem | hmem | hmem
  · refine (hschemas declaration hmem).mono fun target htarget => ?_
    exact List.mem_append_left _ (List.mem_append_left _ htarget)
  · refine (hresponses declaration hmem).mono fun target htarget => ?_
    exact List.mem_append_left _ (List.mem_append_right _ htarget)
  · refine (hbodies declaration hmem).mono fun target htarget => ?_
    exact List.mem_append_right _ htarget

/-! ## types of files -/

/-- the expressions of all declarations of a file, and the types of its accessors -/
def fileTypes (blocks : List (List Declaration)) (bs : List Binding) : List String :=
  (blocks.flatten ++ bs.flatMap fun b => b.responseDeclaration.toList).map Declaration.expression ++
    bs.flatMap Binding.types

theorem Description.fileTypes_namedBy {d : Description} {blocks : List (List Declaration)}
    {bs : List Binding} (hblocks : d.declarationBlocks true = .ok blocks)
    (hbs : d.bindings = .ok bs) : ∀ type ∈ fileTypes blocks bs, NamedBy d.pointers type := by
  have hbound : ∀ b ∈ bs, ∃ e ∈ d.supportedEndpoints, d.bind e [] = .ok b := fun b hb =>
    exists_mem_of_forall₂ (bindingsFrom_eq_ok_iff.mp hbs).1.flip hb
  have hbinding : ∀ b ∈ bs, ∀ type ∈ b.types, NamedBy d.pointers type := by
    intro b hb type htype
    obtain ⟨e, he, hbind⟩ := hbound b hb
    refine (bind_namedBy hbind type htype).mono fun target htarget => ?_
    exact List.mem_append_right _ (List.mem_flatMap.mpr ⟨e, he, htarget⟩)
  intro type htype
  rcases List.mem_append.mp htype with htype | htype
  · obtain ⟨declaration, hmem, rfl⟩ := List.mem_map.mp htype
    rcases List.mem_append.mp hmem with hmem | hmem
    · exact (declarationBlocks_namedBy hblocks declaration hmem).mono (List.subset_append_left _ _)
    · obtain ⟨b, hb, hmem⟩ := List.mem_flatMap.mp hmem
      obtain ⟨e, _, hbind⟩ := hbound b hb
      rw [expression_of_bind hbind declaration (Option.mem_toList.mp hmem)]
      exact hbinding b hb _ List.mem_cons_self
  · obtain ⟨b, hb, htype⟩ := List.mem_flatMap.mp htype
    exact hbinding b hb type htype

/-- **If every pointer that a type is made with leads to a component, every name in a type of the
file is the name of a declaration in it.**  The types are those of all declarations and accessors,
and each is read in one way only. -/
theorem generate_names_declared {d : Description} {options : Options} {text : String}
    (hpointers : ∀ target ∈ d.pointers, target ∈ d.componentPointers)
    (h : d.generate options true = .ok text) :
    ∃ blocks bs, d.declarationBlocks true = .ok blocks ∧ d.bindings = .ok bs ∧
      text = Source.file options blocks bs ∧ Headings (fileExports options blocks bs) text ∧
      ∀ type ∈ fileTypes blocks bs, ∃ e, Reads type e ∧ (∀ e', Reads type e' → e' = e) ∧
        ∀ name ∈ e.names, name ∈ blocks.flatten.map Declaration.name := by
  unfold Description.generate at h
  split at h
  · obtain ⟨blocks, hblocks, h⟩ := bind_eq_ok.mp h
    obtain ⟨bs, hbs, h⟩ := bind_eq_ok.mp h
    cases h
    refine ⟨blocks, bs, hblocks, hbs, rfl, Source.headings_file options blocks bs, ?_⟩
    intro type htype
    have hnamed := (Description.fileTypes_namedBy hblocks hbs type htype).mono hpointers
    obtain ⟨e', hrenders, hnames⟩ := hnamed
    obtain ⟨e, hreads, hunique, he⟩ := hrenders.names
    rw [Description.pointerNames_componentPointers hblocks, ← he] at hnames
    exact ⟨e, hreads, hunique, hnames⟩
  · cases h

/-- a document with pointers in all places, also in a parameter that is itself pointed at -/
def linkedPets : Value :=
  let pointer (target : String) : Value := .object [("$ref", .text target)]
  let json (schema : Value) : Value :=
    .object [("content", .object [("application/json", .object [("schema", schema)])])]
  .object [("openapi", .text "3.0.3"),
    ("paths", .object [("/owners/{owner}/pets/{pet}", .object [
      ("parameters", .list [pointer "#/components/parameters/owner",
        .object [("name", .text "pet"), ("in", .text "path"),
          ("schema", pointer "#/components/schemas/pet id")]]),
      ("get", .object [("operationId", .text "getPet"),
        ("parameters", .list [.object [("name", .text "tags"), ("in", .text "query"),
          ("schema", .object [("type", .text "array"),
            ("items", pointer "#/components/schemas/tag")])]]),
        ("responses", .object [("200", pointer "#/components/responses/pet"),
          ("default", json (.object [("oneOf", .list [pointer "#/components/schemas/tag",
            .object [("type", .text "string")]])]))])]),
      ("put", .object [("operationId", .text "putPet"),
        ("requestBody", pointer "#/components/requestBodies/pet")]),
      ("delete", .object [("operationId", .text "removePet")])])]),
    ("components", .object [
      ("schemas", .object [("pet", .object [("type", .text "object"),
          ("properties", .object [("id", pointer "#/components/schemas/pet id"),
            ("tags", .object [("type", .text "array"),
              ("items", pointer "#/components/schemas/tag")])])]),
        ("pet id", .object [("type", .text "integer")]),
        ("tag", .object [("type", .text "string")])]),
      ("parameters", .object [("owner", .object [("name", .text "owner"), ("in", .text "path"),
        ("schema", pointer "#/components/schemas/pet id")])]),
      ("responses", .object [("pet", json (pointer "#/components/schemas/pet"))]),
      ("requestBodies", .object [("pet", json (pointer "#/components/schemas/pet"))])])]

theorem generate_linkedPets_names_declared :
    ∃ d text, Description.read linkedPets = .ok d ∧ d.pointers.length = 14 ∧
      (∀ target ∈ d.pointers, target ∈ d.componentPointers) ∧ d.generate {} true = .ok text ∧
      ∃ blocks bs, d.declarationBlocks true = .ok blocks ∧ d.bindings = .ok bs ∧
        text = Source.file {} blocks bs ∧ Headings (fileExports {} blocks bs) text ∧
        ∀ type ∈ fileTypes blocks bs, ∃ e, Reads type e ∧ (∀ e', Reads type e' → e' = e) ∧
          ∀ name ∈ e.names, name ∈ blocks.flatten.map Declaration.name := by
  have hpets : ∃ d, Description.read linkedPets = .ok d ∧ d.pointers.length = 14 ∧
      (∀ target ∈ d.pointers, target ∈ d.componentPointers) ∧
      (d.generate {} true).toOption.isSome = true :=
    ⟨_, rfl, by decide +kernel, by decide +kernel, by decide +kernel⟩
  obtain ⟨d, hd, hlength, hpointers, htext⟩ := hpets
  obtain ⟨text, htext⟩ := Option.isSome_iff_exists.mp htext
  rw [toOption_eq_some] at htext
  exact ⟨d, text, hd, hlength, hpointers, htext, generate_names_declared hpointers htext⟩

end ApiBindings
