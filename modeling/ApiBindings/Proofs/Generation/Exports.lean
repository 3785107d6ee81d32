import ApiBindings.Source.File

/-!
# What a file exports

Every declaration exports a type.  Every accessor exports a type, that of its properties, and a
value.  The text of a file has the headings of all these exports, in the order in which they are
listed here.  The type `Omit` of the header, which is the same in every file, is not one of them.

* `Headings`               headings one behind another in a text;
* `headings_join`          a join of texts has the headings of each;
* `headings_file`          a file has the headings of all its exports.
-/

namespace ApiBindings.Source

open TypeScript (Declaration)

/-! ## exports -/

inductive ExportForm where
  | interface
  | alias
  | constant
deriving DecidableEq, Repr

/-- the words in front of the exported name -/
def ExportForm.opening : ExportForm → String
  | .interface => "export interface "
  | .alias => "export type "
  | .constant => "export const "

/-- a name that a file exports; types and values have names of their own -/
structure Export where
  form : ExportForm
  name : String
deriving DecidableEq, Repr

def Export.heading (e : Export) : String := e.form.opening ++ e.name ++ " "

def typeNames (es : List Export) : List String :=
  (es.filter fun e => e.form ≠ .constant).map Export.name

def valueNames (es : List Export) : List String :=
  (es.filter fun e => e.form = .constant).map Export.name

def declarationExport (d : Declaration) : Export :=
  ⟨if d.interface then .interface else .alias, d.name⟩

def componentExports (name : String) : List Export :=
  [⟨.alias, name ++ "Props"⟩, ⟨.constant, name⟩]

def hookExports (name : String) : List Export :=
  [⟨.alias, "Use" ++ name ++ "Props"⟩, ⟨.constant, "use" ++ name⟩]

def bindingExports (options : Options) (b : Binding) : List Export :=
  b.responseDeclaration.toList.map declarationExport ++ componentExports b.name ++
    (if options.hooks then hookExports b.name else []) ++
    (if b.polling then componentExports ("Poll" ++ b.name) else [])

def fileExports (options : Options) (declarations : List (List Declaration))
    (bindings : List Binding) : List Export :=
  declarations.flatten.map declarationExport ++ bindings.flatMap (bindingExports options)

/-! ## headings -/

/-- the headings of the exports stand in the text, one behind another -/
def Headings : List Export → String → Prop
  | [], _ => True
  | e :: es, text => ∃ before after, text = before ++ e.heading ++ after ∧ Headings es after

theorem Headings.prepend {es : List Export} {text : String} (h : Headings es text)
    (start : String) : Headings es (start ++ text) := by
  cases es with
  | nil => trivial
  | cons e es =>
    obtain ⟨before, after, rfl, hrest⟩ := h
    refine ⟨start ++ before, after, ?_, hrest⟩
    simp only [String.append_assoc]

theorem Headings.append {es fs : List Export} {s t : String} (hs : Headings es s)
    (ht : Headings fs t) : Headings (es ++ fs) (s ++ t) := by
  induction es generalizing s with
  | nil => exact ht.prepend s
  | cons e es ih =>
    obtain ⟨before, after, rfl, hrest⟩ := hs
    refine ⟨before, after ++ t, ?_, ih hrest⟩
    simp only [String.append_assoc]

theorem Headings.append_text {es : List Export} {s : String} (h : Headings es s) (t : String) :
    Headings es (s ++ t) := by
  have hnil : Headings [] t := trivial
  have happend := h.append hnil
  rwa [List.append_nil] at happend

/-- a line that is an opening, a name and something more -/
theorem headings_line {e : Export} {line : String} (after : String)
    (h : line = e.form.opening ++ e.name ++ (" " ++ after)) : Headings [e] line := by
  refine ⟨"", after, ?_, trivial⟩
  rw [h, Export.heading]
  simp only [String.append_assoc, String.empty_append]

theorem join_cons (sep line : String) (rest : List String) :
    ∃ start, Text.join sep (line :: rest) = line ++ (start ++ Text.join sep rest) := by
  cases rest with
  | nil => exact ⟨"", by simp only [Text.join_singleton, Text.join_nil, String.append_empty]⟩
  | cons next rest => exact ⟨sep, by rw [Text.join_cons_cons, String.append_assoc]⟩

theorem headings_join_cons {es fs : List Export} {sep line : String} {rest : List String}
    (hline : Headings es line) (hrest : Headings fs (Text.join sep rest)) :
    Headings (es ++ fs) (Text.join sep (line :: rest)) := by
  obtain ⟨start, hjoin⟩ := join_cons sep line rest
  rw [hjoin]
  exact hline.append (hrest.prepend start)

/-- lines behind do not matter -/
theorem headings_join_head {es : List Export} {sep line : String} (rest : List String)
    (h : Headings es line) : Headings es (Text.join sep (line :: rest)) := by
  obtain ⟨start, hjoin⟩ := join_cons sep line rest
  rw [hjoin]
  exact h.append_text _

theorem headings_join_tail {es : List Export} {sep : String} (line : String) {rest : List String}
    (h : Headings es (Text.join sep rest)) : Headings es (Text.join sep (line :: rest)) := by
  obtain ⟨start, hjoin⟩ := join_cons sep line rest
  rw [hjoin]
  exact (h.prepend start).prepend line

/-- lines in front do not matter -/
theorem headings_join_skip {es : List Export} {sep : String} {rest : List String}
    (lines : List String) (h : Headings es (Text.join sep rest)) :
    Headings es (Text.join sep (lines ++ rest)) := by
  induction lines with
  | nil => exact h
  | cons line lines ih => exact headings_join_tail line ih

theorem headings_join {α : Type} {exports : α → List Export} {text : α → String}
    (h : ∀ a, Headings (exports a) (text a)) (sep : String) (as : List α) :
    Headings (as.flatMap exports) (Text.join sep (as.map text)) := by
  induction as with
  | nil => trivial
  | cons a as ih => exact headings_join_cons (h a) ih

/-! ## the text of a file -/

theorem headings_declaration (d : Declaration) :
    Headings [declarationExport d] (declarationText d) := by
  unfold declarationText declarationExport
  by_cases hinterface : d.interface
  · rw [if_pos hinterface, if_pos hinterface]
    refine headings_line d.expression ?_
    simp only [ExportForm.opening, String.append_assoc]
  · rw [if_neg hinterface, if_neg hinterface]
    refine headings_line ("= " ++ d.expression ++ ";") ?_
    simp only [ExportForm.opening, String.append_assoc]
    rfl

theorem headings_declarationBlock (ds : List Declaration) :
    Headings (ds.map declarationExport) (declarationBlock ds) := by
  have hjoin := headings_join headings_declaration "\n\n" ds
  rw [← List.map_eq_flatMap] at hjoin
  unfold declarationBlock
  by_cases hempty : ds.isEmpty
  · rw [List.isEmpty_iff.mp hempty]
    trivial
  · rw [if_neg hempty]
    exact (hjoin.prepend "\n").append_text "\n"

theorem headings_componentLines (b : Binding) (component name : String)
    (mutation polling : Bool) : Headings (componentExports name)
      (Text.join "\n" (componentLines b component name mutation polling)) := by
  have hprops : ∀ props : String, Headings [⟨.alias, name ++ "Props"⟩]
      ("export type " ++ name ++ "Props = " ++ props ++ ";") := by
    intro props
    refine headings_line ("= " ++ props ++ ";") ?_
    simp only [ExportForm.opening, String.append_assoc]
    rfl
  have hvalue : ∀ rest : String, Headings [⟨.constant, name⟩]
      ("export const " ++ name ++ " = (" ++ rest) := by
    intro rest
    refine headings_line ("= (" ++ rest) ?_
    simp only [ExportForm.opening, String.append_assoc]
    rfl
  unfold componentLines
  simp only [List.append_assoc, List.cons_append, List.nil_append]
  refine headings_join_tail _ ?_
  refine headings_join_cons (hprops _) ?_
  refine headings_join_tail _ ?_
  refine headings_join_skip (docComment b.summary b.description polling) ?_
  refine headings_join_head _ ?_
  have h := hvalue (destructured b ++ ": " ++ name ++ "Props) => (")
  simp only [String.append_assoc] at h ⊢
  exact h

theorem headings_hook (b : Binding) : Headings (hookExports b.name) (hook b) := by
  have hprops : ∀ props : String, Headings [⟨.alias, "Use" ++ b.name ++ "Props"⟩]
      ("export type " ++ ("Use" ++ b.name ++ "Props") ++ " = " ++ props ++ ";") := by
    intro props
    refine headings_line ("= " ++ props ++ ";") ?_
    simp only [ExportForm.opening, String.append_assoc]
    rfl
  have hvalue : ∀ rest : String, Headings [⟨.constant, "use" ++ b.name⟩]
      ("export const use" ++ b.name ++ " = (" ++ rest) := by
    intro rest
    refine headings_line ("= (" ++ rest) ?_
    simp only [ExportForm.opening, String.append_assoc]
    rfl
  unfold hook
  simp only [List.cons_append, List.nil_append]
  refine headings_join_tail _ ?_
  refine headings_join_cons (hprops _) ?_
  refine headings_join_tail _ ?_
  refine headings_join_skip (docComment b.summary b.description false) ?_
  refine headings_join_head _ ?_
  have h := hvalue (destructured b ++ ": " ++ ("Use" ++ b.name ++ "Props") ++ ") => " ++
    hookCall b ++ ";")
  simp only [String.append_assoc] at h ⊢
  exact h

theorem headings_binding (options : Options) (b : Binding) :
    Headings (bindingExports options b) (bindingText options b) := by
  have hpart : ∀ {c : Bool} {es : List Export} {text : String}, Headings es text →
      Headings (if c then es else []) (if c then text else "") := by
    intro c es text h
    cases c
    · trivial
    · exact h
  unfold bindingExports bindingText
  refine Headings.append (Headings.append (Headings.append ?_ ?_) (hpart ?_)) (hpart ?_)
  · exact headings_declarationBlock _
  · exact headings_componentLines b _ _ _ _
  · exact headings_hook b
  · exact headings_componentLines b _ _ _ _

/-- **A file has the headings of all its exports, in order.** -/
theorem headings_file (options : Options) (declarations : List (List Declaration))
    (bindings : List Binding) : Headings (fileExports options declarations bindings)
      (file options declarations bindings) := by
  have hjoin_append : ∀ s t : List String, Text.join "" (s ++ t) =
      Text.join "" s ++ Text.join "" t := by
    intro s t
    have hcons : ∀ (line : String) (rest : List String),
        Text.join "" (line :: rest) = line ++ Text.join "" rest := by
      intro line rest
      cases rest with
      | nil => rw [Text.join_singleton, Text.join_nil, String.append_empty]
      | cons next rest => rw [Text.join_cons_cons, String.append_empty]
    induction s with
    | nil => rw [List.nil_append, Text.join_nil, String.empty_append]
    | cons line s ih => rw [List.cons_append, hcons, hcons, ih, String.append_assoc]
  unfold file fileExports
  refine headings_join_tail _ ?_
  rw [hjoin_append, List.map_flatten]
  refine Headings.append ?_ (headings_join (headings_binding options) "" bindings)
  exact headings_join headings_declarationBlock "" declarations

end ApiBindings.Source
