import ApiBindings.Generate
import ApiBindings.OpenApi.ReadDescription
import ApiBindings.Proofs.Bindings.Sequence
import ApiBindings.Proofs.Generation.Exports
import ApiBindings.Proofs.Synthesis.PayloadType
import ApiBindings.Proofs.TypeText.TypeName
import Mathlib.Data.List.Flatten
import Mathlib.Data.List.Nodup
import Mathlib.Data.List.Perm.Basic

/-!
# When exported names clash

Names are made from keys and ids by a Pascal case that forgets accents, separators and some capitals,
and then get affixes that tell their kinds apart.  Nothing compares the results: an id may be used
only once, but two ids that differ can have one name.  So exports clash exactly if names that are made
from the document are equal already, or differ by an affix only.

* `typeNames_nodup_iff`, `valueNames_nodup_iff`   when the names of a file are apart;
* `generate_exports_apart_iff`                    the same for a document.
-/

namespace ApiBindings

open TypeScript (Declaration pascal)
open Source (Export Options typeNames valueNames fileExports bindingExports componentExports
  hookExports declarationExport ExportForm Headings)

/-- the names that a file is made from, each already in Pascal case; `inline` and `polled` are the
operations whose response is declared with them and those that poll -/
structure FileNames where
  schemas : List String
  responses : List String
  bodies : List String
  operations : List String
  inline : List String
  polled : List String
  polled_sublist : polled.Sublist operations

namespace FileNames

def components (n : FileNames) : List String := n.operations ++ n.polled.map ("Poll" ++ ·)

/-- what the types of properties are called, but for the word at their end -/
def properties (hooks : Bool) (n : FileNames) : List String :=
  n.components ++ (if hooks then n.operations.map ("Use" ++ ·) else [])

/-- the types that a suffix tells apart from schemas -/
def suffixed (hooks : Bool) (n : FileNames) : List String :=
  (n.responses ++ n.inline).map (· ++ "Response") ++ n.bodies.map (· ++ "RequestBody") ++
    (n.properties hooks).map (· ++ "Props")

/-- no operation is called like another one, or like what another one polls with -/
structure ValuesApart (n : FileNames) : Prop where
  operations : n.operations.Nodup
  polled : ∀ a ∈ n.polled, "Poll" ++ a ∉ n.operations

/-- the same for types: within each kind, and between the kinds whose affixes do not differ enough -/
structure TypesApart (hooks : Bool) (n : FileNames) : Prop where
  schemas : n.schemas.Nodup
  responses : (n.responses ++ n.inline).Nodup
  bodies : n.bodies.Nodup
  values : n.ValuesApart
  used : hooks = true → ∀ a ∈ n.operations, "Use" ++ a ∉ n.operations
  schemas_suffixed : ∀ a ∈ n.schemas, a ∉ n.suffixed hooks

instance (n : FileNames) : Decidable n.ValuesApart :=
  decidable_of_iff (n.operations.Nodup ∧ ∀ a ∈ n.polled, "Poll" ++ a ∉ n.operations)
    ⟨fun h => ⟨h.1, h.2⟩, fun h => ⟨h.operations, h.polled⟩⟩

instance (hooks : Bool) (n : FileNames) : Decidable (n.TypesApart hooks) :=
  decidable_of_iff (n.schemas.Nodup ∧ (n.responses ++ n.inline).Nodup ∧ n.bodies.Nodup ∧
      n.ValuesApart ∧ (hooks = true → ∀ a ∈ n.operations, "Use" ++ a ∉ n.operations) ∧
      ∀ a ∈ n.schemas, a ∉ n.suffixed hooks)
    ⟨fun ⟨hs, hr, hb, hv, hu, ha⟩ => ⟨hs, hr, hb, hv, hu, ha⟩,
      fun h => ⟨h.schemas, h.responses, h.bodies, h.values, h.used, h.schemas_suffixed⟩⟩

end FileNames

/-! ## affixes -/

theorem append_right_injective (suffix : String) : Function.Injective (· ++ suffix) := by
  intro a b h
  have hlist := congrArg String.toList h
  simp only [String.toList_append, List.append_cancel_right_eq] at hlist
  exact String.toList_inj.mp hlist

theorem append_left_injective (start : String) : Function.Injective (start ++ ·) := by
  intro a b h
  have hlist := congrArg String.toList h
  simp only [String.toList_append, List.append_cancel_left_eq] at hlist
  exact String.toList_inj.mp hlist

/-- texts that begin differently are different, whatever follows -/
theorem append_ne_of_head {s t : String} {c d : Char} (hs : s.toList.head? = some c)
    (ht : t.toList.head? = some d) (hne : c ≠ d) (a b : String) : s ++ a ≠ t ++ b := by
  intro h
  have hhead := congrArg (fun x : String => x.toList.head?) h
  simp only [String.toList_append, List.head?_append, hs, ht, Option.some_or,
    Option.some.injEq] at hhead
  exact hne hhead

/-- texts that end differently are different, whatever is in front -/
theorem append_ne_of_last {s t : String} {c d : Char} (hs : s.toList.getLast? = some c)
    (ht : t.toList.getLast? = some d) (hne : c ≠ d) (a b : String) : a ++ s ≠ b ++ t := by
  intro h
  have hlast := congrArg (fun x : String => x.toList.getLast?) h
  simp only [String.toList_append, List.getLast?_append, hs, ht, Option.some_or,
    Option.some.injEq] at hlast
  exact hne hlast

/-- no type name begins with a small letter -/
theorem use_ne_pascal (a name : String) : "use" ++ a ≠ pascal name := by
  intro h
  obtain ⟨c, w, hname, hc, _⟩ := TypeScript.isTypeName_pascal name
  rw [← h, String.toList_append] at hname
  injection hname with hhead
  rw [← hhead] at hc
  exact absurd hc (by decide)

/-! ## names of files -/

namespace FileNames

variable {hooks : Bool} {n : FileNames}

theorem components_nodup_iff : n.components.Nodup ↔ n.ValuesApart := by
  have hpolled : n.operations.Nodup → (n.polled.map ("Poll" ++ ·)).Nodup :=
    fun h => (h.sublist n.polled_sublist).map (append_left_injective "Poll")
  rw [components, List.nodup_append]
  constructor
  · rintro ⟨hops, _, hne⟩
    refine ⟨hops, ?_⟩
    intro a ha hmem
    exact hne _ hmem _ (List.mem_map_of_mem ha) rfl
  · intro h
    refine ⟨h.operations, hpolled h.operations, ?_⟩
    rintro a ha b hb rfl
    obtain ⟨p, hp, rfl⟩ := List.mem_map.mp hb
    exact h.polled p hp ha

theorem properties_nodup_iff : (n.properties hooks).Nodup ↔ n.ValuesApart ∧
    (hooks = true → ∀ a ∈ n.operations, "Use" ++ a ∉ n.operations) := by
  rw [properties, List.nodup_append, components_nodup_iff]
  constructor
  · rintro ⟨hvalues, _, hne⟩
    refine ⟨hvalues, ?_⟩
    intro hhooks a ha hmem
    rw [if_pos hhooks] at hne
    exact hne _ (List.mem_append_left _ hmem) _ (List.mem_map_of_mem ha) rfl
  · rintro ⟨hvalues, huse⟩
    by_cases hhooks : hooks = true
    · rw [if_pos hhooks]
      refine ⟨hvalues, hvalues.operations.map (append_left_injective "Use"), ?_⟩
      rintro a ha b hb rfl
      obtain ⟨o, ho, rfl⟩ := List.mem_map.mp hb
      rcases List.mem_append.mp ha with ha | ha
      · exact huse hhooks o ho ha
      · obtain ⟨p, _, hp⟩ := List.mem_map.mp ha
        exact append_ne_of_head (s := "Poll") (t := "Use") rfl rfl (by decide) p o hp
    · rw [if_neg hhooks]
      exact ⟨hvalues, List.nodup_nil, fun _ _ _ hb => absurd hb List.not_mem_nil⟩

/-- the suffixes end differently, so a clash is one between types with the same suffix -/
theorem suffixed_nodup_iff : (n.suffixed hooks).Nodup ↔ (n.responses ++ n.inline).Nodup ∧
    n.bodies.Nodup ∧ (n.properties hooks).Nodup := by
  have hends : ∀ (xs ys : List String) {s t : String} {c d : Char},
      s.toList.getLast? = some c → t.toList.getLast? = some d → c ≠ d →
      ∀ a ∈ xs.map (· ++ s), ∀ b ∈ ys.map (· ++ t), a ≠ b := by
    intro xs ys s t c d hs ht hne a ha b hb
    obtain ⟨x, _, rfl⟩ := List.mem_map.mp ha
    obtain ⟨y, _, rfl⟩ := List.mem_map.mp hb
    exact append_ne_of_last hs ht hne x y
  rw [suffixed, List.nodup_append, List.nodup_append,
    List.nodup_map_iff (append_right_injective "Response"),
    List.nodup_map_iff (append_right_injective "RequestBody"),
    List.nodup_map_iff (append_right_injective "Props")]
  constructor
  · rintro ⟨⟨hresponses, hbodies, _⟩, hproperties, _⟩
    exact ⟨hresponses, hbodies, hproperties⟩
  · rintro ⟨hresponses, hbodies, hproperties⟩
    refine ⟨⟨hresponses, hbodies, ?_⟩, hproperties, ?_⟩
    · exact hends _ _ (c := 'e') (d := 'y') rfl rfl (by decide)
    · intro a ha b hb
      rcases List.mem_append.mp ha with ha | ha
      · exact hends _ _ (c := 'e') (d := 's') rfl rfl (by decide) a ha b hb
      · exact hends _ _ (c := 'y') (d := 's') rfl rfl (by decide) a ha b hb

theorem types_nodup_iff : (n.schemas ++ n.suffixed hooks).Nodup ↔ n.TypesApart hooks := by
  rw [List.nodup_append, suffixed_nodup_iff, properties_nodup_iff]
  constructor
  · rintro ⟨hschemas, ⟨hresponses, hbodies, hvalues, huse⟩, hne⟩
    refine ⟨hschemas, hresponses, hbodies, hvalues, huse, ?_⟩
    intro a ha hmem
    exact hne a ha a hmem rfl
  · intro h
    refine ⟨h.schemas, ⟨h.responses, h.bodies, h.values, h.used⟩, ?_⟩
    rintro a ha b hb rfl
    exact h.schemas_suffixed a ha hb

end FileNames

/-! ## names of bindings and declarations -/

def Binding.idName (b : Binding) : String := pascal b.operationId

/-- a binding has the names that its id gives -/
structure Binding.Named (b : Binding) : Prop where
  name : b.name = b.idName
  declaration : ∀ declaration ∈ b.responseDeclaration,
    declaration.name = b.idName ++ "Response"

theorem Description.bind_named {d : Description} {e : Endpoint} {seen : List String} {b : Binding}
    (h : d.bind e seen = .ok b) : b.Named := by
  obtain ⟨_, hbuilt⟩ := bind_eq_ok_iff_parts.mp h
  refine ⟨hbuilt.name, ?_⟩
  intro declaration hmem
  have hdecl := hbuilt.declaration
  rw [hmem] at hdecl
  split at hdecl
  · injection hdecl with hdecl
    rw [hdecl, hbuilt.name]
    rfl
  · cases hdecl

theorem Description.bindings_named {d : Description} {bs : List Binding}
    (h : d.bindings = .ok bs) : ∀ b ∈ bs, b.Named := by
  have hall := (bindingsFrom_eq_ok_iff.mp h).1
  intro b hb
  obtain ⟨e, he⟩ := exists_of_forall₂ hall.flip b hb
  exact bind_named he

/-- the bindings have the ids of the operations that they are made for -/
theorem Description.bindings_ids {d : Description} {bs : List Binding} (h : d.bindings = .ok bs) :
    Endpoint.ids d.supportedEndpoints = bs.map Binding.operationId := by
  have hall := (bindingsFrom_eq_ok_iff.mp h).1
  clear h
  generalize d.supportedEndpoints = es at hall
  induction hall with
  | nil => rfl
  | cons hb _ ih =>
    rw [Endpoint.ids, List.filterMap_cons_some (bind_eq_ok_iff.mp hb).1, List.map_cons, ← ih]
    rfl

theorem schemaDeclarations_names {entries : List (String × SchemaNode)} {ds : List Declaration}
    (h : schemaDeclarations entries = .ok ds) :
    ds.map Declaration.name = entries.map fun entry => pascal entry.1 := by
  refine map_eq_of_forall₂ ((schemaDeclarations_eq_ok.mp h).imp fun entry d hd => ?_)
  obtain ⟨_, _, rfl⟩ := map_eq_ok.mp hd
  rfl

theorem payloadDeclarations_names {suffix : String}
    {entries : List (String × Referable Payload)} {ds : List Declaration}
    (h : payloadDeclarations suffix entries = .ok ds) :
    ds.map Declaration.name = entries.map fun entry => pascal entry.1 ++ suffix := by
  refine map_eq_of_forall₂ ((payloadDeclarations_eq_ok.mp h).imp fun entry d hd => ?_)
  obtain ⟨_, _, rfl⟩ := map_eq_ok.mp hd
  rfl

/-! ## names of a document -/

namespace Description

/-- the names of the components of one kind, which may be left out of the file -/
def componentNames {α : Type} (wanted : Bool) (entries : Given (List (String × α))) :
    List String :=
  if wanted then (entries.getD []).map fun entry => pascal entry.1 else []

theorem map_filter_sublist {α β : Type} (p : α → Bool) (f : α → β) (as : List α) :
    ((as.filter p).map f).Sublist (as.map f) := List.filter_sublist.map f

/-- the names that the file of a document with these bindings is made from -/
def fileNames (d : Description) (includeResponses : Bool) (bs : List Binding) : FileNames where
  schemas := componentNames true d.componentsOrEmpty.schemas
  responses := componentNames includeResponses d.componentsOrEmpty.responses
  bodies := componentNames includeResponses d.componentsOrEmpty.requestBodies
  operations := bs.map Binding.idName
  inline := (bs.filter fun b => b.responseDeclaration.isSome).map Binding.idName
  polled := (bs.filter Binding.polling).map Binding.idName
  polled_sublist := map_filter_sublist _ _ bs

theorem declarationBlocks_names {d : Description} {includeResponses : Bool}
    {blocks : List (List Declaration)} (bs : List Binding) (h : d.declarationBlocks includeResponses = .ok blocks) :
    blocks.flatten.map Declaration.name = (d.fileNames includeResponses bs).schemas ++
      (d.fileNames includeResponses bs).responses.map (· ++ "Response") ++
      (d.fileNames includeResponses bs).bodies.map (· ++ "RequestBody") := by
  obtain ⟨schemas, hschemas, h⟩ := bind_eq_ok.mp h
  have hnames := schemaDeclarations_names hschemas
  cases includeResponses with
  | false =>
    cases h
    simp only [List.flatten_cons, List.flatten_nil, List.append_nil, hnames, fileNames,
      componentNames, Bool.false_eq_true, if_false, if_true, List.map_nil]
  | true =>
    obtain ⟨responses, hresponses, h⟩ := bind_eq_ok.mp h
    obtain ⟨bodies, hbodies, h⟩ := bind_eq_ok.mp h
    cases h
    have hresponses := payloadDeclarations_names hresponses
    have hbodies := payloadDeclarations_names hbodies
    simp only [List.flatten_cons, List.flatten_nil, List.append_nil, List.map_append, hnames,
      hresponses, hbodies, fileNames, componentNames, if_true, List.map_map, List.append_assoc]
    rfl

end Description

/-! ## the names of all exports -/

theorem typeNames_append (es fs : List Export) :
    typeNames (es ++ fs) = typeNames es ++ typeNames fs := by
  rw [typeNames, List.filter_append, List.map_append]
  rfl

theorem valueNames_append (es fs : List Export) :
    valueNames (es ++ fs) = valueNames es ++ valueNames fs := by
  rw [valueNames, List.filter_append, List.map_append]
  rfl

/-- declarations export types and nothing else -/
theorem names_declarations (ds : List Declaration) :
    typeNames (ds.map declarationExport) = ds.map Declaration.name ∧
      valueNames (ds.map declarationExport) = [] := by
  have hform : ∀ d : Declaration, (declarationExport d).form ≠ .constant := by
    intro d
    unfold declarationExport
    cases d.interface
    · exact ExportForm.noConfusion
    · exact ExportForm.noConfusion
  have htypes : (ds.map declarationExport).filter (fun e => e.form ≠ .constant) =
      ds.map declarationExport := by
    rw [List.filter_eq_self]
    intro e he
    obtain ⟨d, _, rfl⟩ := List.mem_map.mp he
    exact decide_eq_true (hform d)
  have hvalues : (ds.map declarationExport).filter (fun e => e.form = .constant) = [] := by
    rw [List.filter_eq_nil_iff]
    intro e he
    obtain ⟨d, _, rfl⟩ := List.mem_map.mp he
    exact fun h => hform d (of_decide_eq_true h)
  refine ⟨?_, ?_⟩
  · rw [typeNames, htypes, List.map_map]
    rfl
  · rw [valueNames, hvalues]
    rfl

variable {d : Description} {options : Options} {includeResponses : Bool}
  {blocks : List (List Declaration)} {bs : List Binding}

/-- the types of one binding, in families -/
theorem typeNames_binding (options : Options) {b : Binding} (h : b.Named) : typeNames (bindingExports options b) =
    (if b.responseDeclaration.isSome then [b.idName ++ "Response"] else []) ++
      [b.idName ++ "Props"] ++
      (if options.hooks then ["Use" ++ b.idName ++ "Props"] else []) ++
      (if b.polling then ["Poll" ++ b.idName ++ "Props"] else []) := by
  have hdecl : typeNames (b.responseDeclaration.toList.map declarationExport) =
      if b.responseDeclaration.isSome then [b.idName ++ "Response"] else [] := by
    rw [(names_declarations _).1]
    cases hopt : b.responseDeclaration with
    | none => rfl
    | some declaration =>
      show [declaration.name] = _
      rw [h.declaration declaration hopt]
      rfl
  rw [bindingExports, typeNames_append, typeNames_append, typeNames_append, hdecl, h.name]
  cases options.hooks <;> cases b.polling <;> rfl

theorem valueNames_binding (options : Options) {b : Binding} (h : b.Named) : valueNames (bindingExports options b) =
    [b.idName] ++
      (if options.hooks then ["use" ++ b.idName] else []) ++
      (if b.polling then ["Poll" ++ b.idName] else []) := by
  rw [bindingExports, valueNames_append, valueNames_append, valueNames_append,
    (names_declarations _).2, h.name]
  cases options.hooks <;> cases b.polling <;> rfl

/-- the types of all bindings are those of the inline responses and of the properties -/
theorem typeNames_bindings (d : Description) (options : Options) (includeResponses : Bool)
    (h : ∀ b ∈ bs, b.Named) :
    (typeNames (bs.flatMap (bindingExports options))).Perm
      ((d.fileNames includeResponses bs).inline.map (· ++ "Response") ++
        ((d.fileNames includeResponses bs).properties options.hooks).map (· ++ "Props")) := by
  rw [List.perm_iff_count]
  intro name
  simp only [Description.fileNames, FileNames.properties, FileNames.components]
  induction bs with
  | nil => cases options.hooks <;> rfl
  | cons b bs ih =>
    have hb := typeNames_binding options (h b List.mem_cons_self)
    have ih := ih fun b hb => h b (List.mem_cons_of_mem _ hb)
    rw [List.flatMap_cons, typeNames_append, List.count_append, hb, ih]
    cases options.hooks <;> cases hinline : b.responseDeclaration.isSome <;>
      cases hpolling : b.polling <;>
      simp only [List.filter_cons, hinline, hpolling, List.map_cons, List.map_append,
        List.count_append, List.count_cons, List.count_nil, List.append_nil, if_true,
        if_false, Bool.false_eq_true] <;> omega

theorem valueNames_bindings (d : Description) (options : Options) (includeResponses : Bool)
    (h : ∀ b ∈ bs, b.Named) :
    (valueNames (bs.flatMap (bindingExports options))).Perm
      ((d.fileNames includeResponses bs).components ++
        if options.hooks then (d.fileNames includeResponses bs).operations.map ("use" ++ ·)
        else []) := by
  rw [List.perm_iff_count]
  intro name
  simp only [Description.fileNames, FileNames.components]
  induction bs with
  | nil => cases options.hooks <;> rfl
  | cons b bs ih =>
    have hb := valueNames_binding options (h b List.mem_cons_self)
    have ih := ih fun b hb => h b (List.mem_cons_of_mem _ hb)
    rw [List.flatMap_cons, valueNames_append, List.count_append, hb, ih]
    cases options.hooks <;> cases hpolling : b.polling <;>
      simp only [List.filter_cons, hpolling, List.map_cons, List.append_nil,
        List.count_append, List.count_cons, List.count_nil, if_true, if_false,
        Bool.false_eq_true] <;> omega

/-- **The types of a file are apart exactly if the names it is made from are.** -/
theorem typeNames_nodup_iff (hblocks : d.declarationBlocks includeResponses = .ok blocks)
    (hbs : d.bindings = .ok bs) : (typeNames (fileExports options blocks bs)).Nodup ↔
      (d.fileNames includeResponses bs).TypesApart options.hooks := by
  have hbindings := typeNames_bindings d options includeResponses
    (Description.bindings_named hbs)
  have hperm : (typeNames (fileExports options blocks bs)).Perm
      ((d.fileNames includeResponses bs).schemas ++
        (d.fileNames includeResponses bs).suffixed options.hooks) := by
    rw [fileExports, typeNames_append, (names_declarations _).1,
      Description.declarationBlocks_names bs hblocks]
    refine (List.Perm.append_left _ hbindings).trans ?_
    rw [FileNames.suffixed, List.perm_iff_count]
    intro name
    simp only [List.map_append, List.count_append]
    omega
  rw [hperm.nodup_iff, FileNames.types_nodup_iff]

/-- **The values are apart exactly if the names of the operations are.** -/
theorem valueNames_nodup_iff (hbs : d.bindings = .ok bs) :
    (valueNames (fileExports options blocks bs)).Nodup ↔
      (d.fileNames includeResponses bs).ValuesApart := by
  have hbindings := valueNames_bindings d options includeResponses
    (Description.bindings_named hbs)
  rw [fileExports, valueNames_append, (names_declarations _).2, List.nil_append,
    hbindings.nodup_iff, List.nodup_append, FileNames.components_nodup_iff]
  constructor
  · exact fun h => h.1
  · intro h
    refine ⟨h, ?_, ?_⟩
    · cases options.hooks
      · exact List.nodup_nil
      · exact h.operations.map (append_left_injective "use")
    · intro a ha b hb
      by_cases hhooks : options.hooks = true
      · rw [if_pos hhooks] at hb
        obtain ⟨o, _, rfl⟩ := List.mem_map.mp hb
        rcases List.mem_append.mp ha with ha | ha
        · obtain ⟨binding, _, rfl⟩ := List.mem_map.mp ha
          exact (use_ne_pascal o binding.operationId).symm
        · obtain ⟨p, _, rfl⟩ := List.mem_map.mp ha
          exact append_ne_of_head (s := "Poll") (t := "use") rfl rfl (by decide) p o
      · rw [if_neg hhooks] at hb
        cases hb

/-- **Two exports of a generated file clash exactly if their names agree already in Pascal case.**
The headings of all exports stand in the text.  The operations are called after the ids of the
document, which are compared as they are and nowhere in Pascal case. -/
theorem generate_exports_apart_iff {text : String}
    (h : d.generate options includeResponses = .ok text) :
    ∃ blocks bs, d.declarationBlocks includeResponses = .ok blocks ∧ d.bindings = .ok bs ∧
      text = Source.file options blocks bs ∧ Headings (fileExports options blocks bs) text ∧
      (d.fileNames includeResponses bs).operations =
        (Endpoint.ids d.supportedEndpoints).map pascal ∧
      ((typeNames (fileExports options blocks bs)).Nodup ↔
        (d.fileNames includeResponses bs).TypesApart options.hooks) ∧
      ((valueNames (fileExports options blocks bs)).Nodup ↔
        (d.fileNames includeResponses bs).ValuesApart) := by
  unfold Description.generate at h
  split at h
  · obtain ⟨blocks, hblocks, h⟩ := bind_eq_ok.mp h
    obtain ⟨bs, hbs, h⟩ := bind_eq_ok.mp h
    cases h
    refine ⟨blocks, bs, hblocks, hbs, rfl, Source.headings_file options blocks bs, ?_,
      typeNames_nodup_iff hblocks hbs, valueNames_nodup_iff hbs⟩
    rw [Description.bindings_ids hbs, List.map_map]
    rfl
  · cases h

/-- a document with one component of each kind and an operation that polls -/
def petShop : Value :=
  .object [("openapi", .text "3.0.3"),
    ("paths", .object [
      ("/pets", .object [
        ("get", .object [("operationId", .text "listPets"),
          ("parameters", .list [.object [("name", .text "Prefer"), ("in", .text "header")]]),
          ("responses", .object [("200", .object [("content", .object [("application/json",
            .object [("schema", .object [("properties", .object [("total", .object [("type",
              .text "number")])])])])])])])]),
        ("post", .object [("operationId", .text "addPet")])])]),
    ("components", .object [
      ("schemas", .object [("pet", .object [("type", .text "string")])]),
      ("responses", .object [("pet", .object [])]),
      ("requestBodies", .object [("pet", .object [])])])]

theorem generate_petShop_exports_apart :
    ∃ d text, Description.read petShop = .ok d ∧ d.generate {} true = .ok text ∧
      ∃ blocks bs, d.declarationBlocks true = .ok blocks ∧ d.bindings = .ok bs ∧
        Headings (fileExports {} blocks bs) text ∧ (typeNames (fileExports {} blocks bs)).Nodup ∧
        (valueNames (fileExports {} blocks bs)).Nodup := by
  have hshop : ∃ d, Description.read petShop = .ok d ∧
      (d.generate {} true).toOption.isSome = true ∧
      (d.bindings.toOption.all fun bs => decide ((d.fileNames true bs).TypesApart true)) = true :=
    ⟨_, rfl, by decide +kernel, by decide +kernel⟩
  obtain ⟨d, hd, htext, hapart⟩ := hshop
  obtain ⟨text, htext⟩ := Option.isSome_iff_exists.mp htext
  rw [toOption_eq_some] at htext
  obtain ⟨blocks, bs, hblocks, hbs, _, hheadings, _, htypes, hvalues⟩ :=
    generate_exports_apart_iff htext
  rw [hbs] at hapart
  have hnames := of_decide_eq_true hapart
  exact ⟨d, text, hd, htext, blocks, bs, hblocks, hbs, hheadings, htypes.mpr hnames,
    hvalues.mpr hnames.values⟩

/-- two ids that differ, with one name in Pascal case -/
def sameName : Value :=
  .object [("openapi", .text "3.0.3"),
    ("paths", .object [
      ("/pets", .object [
        ("get", .object [("operationId", .text "getPet")]),
        ("post", .object [("operationId", .text "get-pet")])])])]

theorem generate_sameName_exports_clash :
    ∃ d blocks bs, Description.read sameName = .ok d ∧ d.declarationBlocks true = .ok blocks ∧
      d.bindings = .ok bs ∧ d.generate {} true = .ok (Source.file {} blocks bs) ∧
      bs.map Binding.operationId = ["getPet", "get-pet"] ∧
      bs.map Binding.name = ["GetPet", "GetPet"] ∧
      ¬ (typeNames (fileExports {} blocks bs)).Nodup ∧
      ¬ (valueNames (fileExports {} blocks bs)).Nodup :=
  ⟨_, _, _, rfl, rfl, rfl, rfl, by decide +kernel, by decide +kernel, by decide +kernel,
    by decide +kernel⟩

end ApiBindings
