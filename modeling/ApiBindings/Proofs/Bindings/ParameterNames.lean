import ApiBindings.Proofs.Bindings.PathParameters
import ApiBindings.Proofs.Generation.Exports
import ApiBindings.Proofs.Source.Renaming
import Mathlib.Data.List.Forall2

/-!
# The names of parameters in generated code

A parameter has one key and one variable.  The properties of an accessor have a field with the key,
the pattern and the query connect the two, and the path interpolates the variable.  All accessors of
an operation are written with the same pattern and the same path.

* `UsedAlike`                     what the texts of a binding have in common;
* `AccessorOf`                    the text of an accessor that is written with them;
* `bind_parameters_used_alike`    every binding that is built uses its parameters alike.
-/

namespace ApiBindings

open TypeScript
open Source

/-! ## keys and variables -/

/-- the key of a parameter together with its variable -/
def BindingParameter.entry (p : BindingParameter) : String :=
  keyedEntry (objectKey p.name) (bindingName p.name)

/-- a field with the key of a parameter and its type, which a comment may stand in front of -/
def BindingParameter.IsField (p : BindingParameter) (field : String) : Prop :=
  ∃ comment, (comment = "" ∨ ∃ text ∈ p.description, comment = inlineComment text ++ " ") ∧
    field = comment ++ (objectKey p.name ++ (if p.required then "" else "?") ++ ": " ++ p.type)

/-- The texts of a binding give every parameter one key and one variable.  The path is the route
with all path parameters renamed at once; in which order this is done does not matter. -/
structure UsedAlike (b : Binding) : Prop where
  fields : b.parameters ≠ [] → ∀ base mutation, ∃ fields,
    List.Forall₂ BindingParameter.IsField b.parameters fields ∧
      propsType b base mutation = applied "Omit" [base, omittedKeys mutation] ++ " & \x7b" ++
        Text.join "; " fields ++ "\x7d"
  pattern : destructured b =
    "\x7b" ++ Text.join ", " (b.parameters.map BindingParameter.entry ++ ["...props"]) ++ "\x7d"
  query : b.queryParameters ≠ [] → queryExpression b.queryParameters =
    "?$\x7bqs.stringify(\x7b" ++ Text.join ", " (b.queryParameters.map BindingParameter.entry) ++
      "\x7d)\x7d"
  path : ∃ f, Exchanges (b.pathParameters.map BindingParameter.name) f ∧
    (∀ ps : List BindingParameter, ps.Perm b.pathParameters →
      ps.foldl renameIn b.route = f b.route) ∧
      pathExpression b = f b.route ++ queryExpression b.queryParameters

theorem isField_propField (p : BindingParameter) : p.IsField (propField p) := by
  unfold propField BindingParameter.IsField
  cases hdescription : p.description with
  | none =>
    refine ⟨"", .inl rfl, ?_⟩
    rw [String.empty_append]
  | some text =>
    by_cases htext : text = ""
    · refine ⟨"", .inl rfl, ?_⟩
      rw [String.empty_append]
      exact if_pos htext
    · exact ⟨inlineComment text ++ " ", .inr ⟨text, rfl, rfl⟩, if_neg htext⟩

theorem entriesOf_eq (ps : List BindingParameter) :
    entriesOf ps = ps.map BindingParameter.entry :=
  List.map_congr_left fun p _ => bindingEntry_eq p.name

/-- a placeholder is a word, so its interpolation has an end of its own -/
theorem plain_of_mem_placeholders {route name : String} (h : name ∈ Route.placeholders route) :
    Plain name.toList := by
  intro c hc
  have hword := Route.isWordChar_of_mem_placeholders h c hc
  rw [isPlain, Bool.and_eq_true, bne_iff_ne, bne_iff_ne]
  constructor
  · rintro rfl
    exact absurd hword (by decide)
  · exact (Route.ne_of_isWordChar hword).2

theorem plain_of_mem_pathParameters {d : Description} {e : Endpoint} {seen : List String}
    {b : Binding} (h : d.bind e seen = .ok b) :
    ∀ name ∈ b.pathParameters.map BindingParameter.name, Plain name.toList := by
  intro name hname
  rw [names_of_pathParameters h, List.mem_eraseDups, List.mem_filter] at hname
  exact plain_of_mem_placeholders hname.1

theorem variableOf_perm {names others : List String} (h : names.Perm others) :
    variableOf names = variableOf others := by
  funext name
  simp only [variableOf, h.mem_iff]

theorem usedAlike_of_bind {d : Description} {e : Endpoint} {seen : List String} {b : Binding}
    (h : d.bind e seen = .ok b) : UsedAlike b := by
  have hplain := plain_of_mem_pathParameters h
  refine ⟨?_, ?_, ?_, _, exchanges_substitute hplain, ?_, ?_⟩
  · intro hne base mutation
    refine ⟨b.parameters.map propField, ?_, ?_⟩
    · exact List.forall₂_map_right_iff.mpr
        (List.forall₂_same.mpr fun p _ => isField_propField p)
    · rw [propsType, List.isEmpty_eq_false_iff.mpr hne]
      rfl
  · rw [destructured, entriesOf_eq]
  · intro hne
    rw [queryExpression, List.isEmpty_eq_false_iff.mpr hne, entriesOf_eq]
    rfl
  · intro ps hps
    have hnames := hps.map BindingParameter.name
    have hps' : ∀ p ∈ ps, Plain p.name.toList := fun p hp =>
      hplain p.name (hnames.mem_iff.mp (List.mem_map_of_mem hp))
    rw [foldl_renameIn hps']
    unfold variableChars
    rw [variableOf_perm hnames]
  · have hps : ∀ p ∈ b.pathParameters, Plain p.name.toList := fun p hp =>
      hplain p.name (List.mem_map_of_mem hp)
    rw [pathExpression, foldl_renameIn hps]

/-! ## accessors -/

def Stand : List String → String → Prop
  | [], _ => True
  | piece :: pieces, text => ∃ before after, text = before ++ piece ++ after ∧ Stand pieces after

theorem Stand.prepend {pieces : List String} {text : String} (h : Stand pieces text)
    (start : String) : Stand pieces (start ++ text) := by
  cases pieces with
  | nil => trivial
  | cons piece pieces =>
    obtain ⟨before, after, rfl, hrest⟩ := h
    refine ⟨start ++ before, after, ?_, hrest⟩
    simp only [String.append_assoc]

theorem Stand.append {pieces others : List String} {s t : String} (hs : Stand pieces s)
    (ht : Stand others t) : Stand (pieces ++ others) (s ++ t) := by
  induction pieces generalizing s with
  | nil => exact ht.prepend s
  | cons piece pieces ih =>
    obtain ⟨before, after, rfl, hrest⟩ := hs
    refine ⟨before, after ++ t, ?_, ih hrest⟩
    simp only [String.append_assoc]

/-- the pieces of some lines stand in the text that has these lines, among others -/
theorem stand_join {groups : List (List String)} {lines : List String}
    (h : List.SublistForall₂ Stand groups lines) (sep : String) :
    Stand groups.flatten (Text.join sep lines) := by
  induction h with
  | nil => trivial
  | @cons group line groups lines hline _ ih =>
    obtain ⟨start, hjoin⟩ := join_cons sep line lines
    rw [hjoin, List.flatten_cons]
    exact hline.append (ih.prepend start)
  | @cons_right line groups lines _ ih =>
    obtain ⟨start, hjoin⟩ := join_cons sep line lines
    rw [hjoin]
    exact (ih.prepend start).prepend line

theorem sublistForall₂_skip {groups : List (List String)} {lines : List String}
    (skipped : List String) (h : List.SublistForall₂ Stand groups lines) :
    List.SublistForall₂ Stand groups (skipped ++ lines) := by
  induction skipped with
  | nil => exact h
  | cons line skipped ih => exact .cons_right ih

/-- the text of an accessor: its properties, the pattern that takes them apart, and the path -/
def AccessorOf (b : Binding) (text : String) : Prop :=
  ∃ base mutation, Stand [" = " ++ propsType b base mutation ++ ";",
    " = (" ++ destructured b ++ ": ", pathLiteral b] text

theorem stand_props (name props : String) :
    Stand [" = " ++ props ++ ";"] ("export type " ++ name ++ " = " ++ props ++ ";") := by
  refine ⟨"export type " ++ name, "", ?_, trivial⟩
  simp only [String.append_assoc, String.append_empty]

theorem accessorOf_componentLines (b : Binding) (component name : String)
    (mutation polling : Bool) :
    AccessorOf b (Text.join "\n" (componentLines b component name mutation polling)) := by
  let base :=
    applied (component ++ "Props") (if mutation then b.typeArguments else b.readArguments)
  have hpattern : Stand [" = (" ++ destructured b ++ ": "]
      ("export const " ++ name ++ " = (" ++ destructured b ++ ": " ++ name ++ "Props) => (") := by
    refine ⟨"export const " ++ name, name ++ "Props) => (", ?_, trivial⟩
    simp only [String.append_assoc]
  have hpath : Stand [pathLiteral b] ("    path=\x7b" ++ pathLiteral b ++ "\x7d") :=
    ⟨"    path=\x7b", "\x7d", rfl, trivial⟩
  have hprops := stand_props (name ++ "Props") (propsType b base mutation)
  refine ⟨base, mutation, ?_⟩
  show Stand (List.flatten [[_], [_], [_]]) _
  refine stand_join ?_ "\n"
  unfold componentLines
  simp only [List.append_assoc, List.cons_append, List.nil_append]
  refine .cons_right (.cons ?_ (.cons_right ?_))
  · simp only [String.append_assoc] at hprops ⊢
    exact hprops
  · exact sublistForall₂_skip _ (.cons hpattern (.cons_right (sublistForall₂_skip _
      (.cons hpath .nil))))

theorem accessorOf_hook (b : Binding) : AccessorOf b (hook b) := by
  have hprops := stand_props ("Use" ++ b.name ++ "Props") (propsType b (hookProps b) b.isMutation)
  have hpath : Stand [pathLiteral b] (hookCall b) := by
    unfold hookCall
    split
    · refine ⟨applied "useMutate" b.typeArguments ++ "(\"" ++ verb b ++ "\", ", ", props)", ?_,
        trivial⟩
      simp only [String.append_assoc]
    · refine ⟨applied "useGet" b.typeArguments ++ "(", ", props)", ?_, trivial⟩
      simp only [String.append_assoc]
  have hconstant : Stand [" = (" ++ destructured b ++ ": ", pathLiteral b]
      ("export const use" ++ b.name ++ " = (" ++ destructured b ++ ": " ++
        ("Use" ++ b.name ++ "Props") ++ ") => " ++ hookCall b ++ ";") := by
    have hend : Stand [] ";" := trivial
    have hcall := (hpath.append hend).prepend (("Use" ++ b.name ++ "Props") ++ ") => ")
    refine ⟨"export const use" ++ b.name, _, ?_, hcall⟩
    simp only [String.append_assoc]
  refine ⟨hookProps b, b.isMutation, ?_⟩
  show Stand (List.flatten [[_], [_, _]]) _
  unfold hook
  simp only [List.cons_append, List.nil_append]
  refine stand_join ?_ "\n"
  exact .cons_right (.cons hprops (.cons_right (sublistForall₂_skip _ (.cons hconstant .nil))))

/-- **Every binding that is built writes each parameter with one key and one variable, and all its
accessors with the same pattern and the same path.** -/
theorem bind_parameters_used_alike {d : Description} {e : Endpoint} {seen : List String}
    {b : Binding} (h : d.bind e seen = .ok b) :
    UsedAlike b ∧ AccessorOf b (component b) ∧ AccessorOf b (hook b) ∧
      AccessorOf b (pollComponent b) :=
  ⟨usedAlike_of_bind h, accessorOf_componentLines b _ _ _ _, accessorOf_hook b,
    accessorOf_componentLines b _ _ _ _⟩

/-- placeholders that are renamed, one of them to the name of another one -/
def renamedPlaceholders : Endpoint where
  path := "/\x7bdefault\x7d/\x7bdefault_\x7d/\x7b2fa\x7d"
  method := .get
  operation :=
    { operationId := .value "getIt"
      summary := .absent
      description := .absent
      parameters := .value [.inline ⟨"default", "path", .absent, .value true, .absent, []⟩,
        .inline ⟨"default_", "path", .absent, .value true, .absent, []⟩,
        .inline ⟨"2fa", "path", .absent, .value true, .absent, []⟩,
        .inline ⟨"x-id", "query", .value "the id", .absent, .absent, []⟩]
      requestBody := .absent
      responses := some []
      extras := [] }
  shared := .absent

theorem bind_renamedPlaceholders_used_alike :
    ∃ b, bareDescription.bind renamedPlaceholders [] = .ok b ∧
      b.route = "/$\x7bdefault\x7d/$\x7bdefault_\x7d/$\x7b2fa\x7d" ∧
      pathExpression b = "/$\x7bdefault_\x7d/$\x7bdefault_\x7d/$\x7b_2fa\x7d" ++
        "?$\x7bqs.stringify(\x7b\"x-id\": xId\x7d)\x7d" ∧
      destructured b = "\x7bdefault: default_, default_, \"2fa\": _2fa, " ++
        "\"x-id\": xId, ...props\x7d" ∧
      UsedAlike b ∧ AccessorOf b (component b) ∧ AccessorOf b (hook b) ∧
        AccessorOf b (pollComponent b) := by
  have h : bareDescription.bind renamedPlaceholders [] = .ok
      { operationId := "getIt", name := "GetIt", method := "get"
        route := "/$\x7bdefault\x7d/$\x7bdefault_\x7d/$\x7b2fa\x7d"
        pathParameters := [⟨"default", "any", true, none⟩, ⟨"default_", "any", true, none⟩,
          ⟨"2fa", "any", true, none⟩]
        queryParameters := [⟨"x-id", "any", false, some "the id"⟩]
        responseType := "void", errorType := "unknown", bodyType := none, summary := none
        description := none, trailing := none, responseDeclaration := none, polling := false } :=
    toOption_eq_some.mp (by decide +kernel)
  exact ⟨_, h, rfl, by decide +kernel, by decide +kernel, bind_parameters_used_alike h⟩

end ApiBindings
