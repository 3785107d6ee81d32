import ApiBindings.Proofs.Source.Comment
import ApiBindings.Source.File

/-!
# What documentation adds to the accessors

The texts of a document are written into comments and nowhere else.  An accessor with documentation
is the accessor without it, with whole comments inserted, and each of these comments ends just where
it is closed.  So no text gets out of its comment, whatever it holds.

* `Binding.undocumented`     the same binding without summary and descriptions;
* `Commented`                a text with comments inserted;
* `commented_bindingText`    the text of a binding is that of the undocumented one with comments;
* `comments_close_once`      all of this, and what the comments look like.
-/

namespace ApiBindings

def BindingParameter.undocumented (p : BindingParameter) : BindingParameter :=
  { p with description := none }

/-- the binding without the texts that go into comments -/
def Binding.undocumented (b : Binding) : Binding :=
  { b with
    pathParameters := b.pathParameters.map .undocumented
    queryParameters := b.queryParameters.map .undocumented
    summary := none
    description := none }

theorem Binding.parameters_undocumented (b : Binding) :
    b.undocumented.parameters = b.parameters.map .undocumented :=
  List.map_append.symm

namespace Source

/-! ## texts with comments inserted -/

/-- the second text is the first with comments inserted, each with a blank or a line end behind -/
inductive Commented : String → String → Prop
  | nil : Commented "" ""
  | code (part : String) {code text : String} (h : Commented code text) :
      Commented (part ++ code) (part ++ text)
  | comment {comment blank code text : String} (hcomment : IsComment comment)
      (hblank : blank = " " ∨ blank = "\n") (h : Commented code text) :
      Commented code (comment ++ blank ++ text)

namespace Commented

theorem refl (code : String) : Commented code code := by
  have h := Commented.nil.code code
  rwa [String.append_empty] at h

theorem append {code code' text text' : String} (h : Commented code text)
    (h' : Commented code' text') : Commented (code ++ code') (text ++ text') := by
  induction h with
  | nil => rwa [String.empty_append, String.empty_append]
  | code part _ ih =>
    rw [String.append_assoc, String.append_assoc]
    exact ih.code part
  | comment hcomment hblank _ ih =>
    rw [String.append_assoc]
    exact ih.comment hcomment hblank

theorem append_text {code text : String} (h : Commented code text) (after : String) :
    Commented (code ++ after) (text ++ after) :=
  h.append (refl after)

/-- joined texts with comments in each -/
theorem join {α : Type} {code text : α → String} (h : ∀ a, Commented (code a) (text a))
    (sep : String) (as : List α) :
    Commented (Text.join sep (as.map code)) (Text.join sep (as.map text)) := by
  induction as with
  | nil => exact nil
  | cons a as ih =>
    cases as with
    | nil => exact h a
    | cons b as => exact ((h a).append_text sep).append ih

end Commented

/-! ## properties -/

/-- the field of a parameter, with its comment in front if it has a description -/
theorem propField_cases (p : BindingParameter) : propField p = propField p.undocumented ∨
    ∃ description, propField p = inlineComment description ++ " " ++ propField p.undocumented := by
  obtain ⟨name, type, required, description⟩ := p
  cases description with
  | none => exact .inl rfl
  | some description =>
    by_cases hempty : description = ""
    · rw [hempty]
      exact .inl rfl
    · refine .inr ⟨description, ?_⟩
      rw [propField]
      exact if_neg hempty

theorem commented_propField (p : BindingParameter) :
    Commented (propField p.undocumented) (propField p) := by
  rcases propField_cases p with h | ⟨description, h⟩
  · rw [h]
    exact .refl _
  · rw [h]
    exact (Commented.refl _).comment (isComment_inlineComment description) (.inl rfl)

theorem commented_propsType (b : Binding) (base : String) (mutation : Bool) :
    Commented (propsType b.undocumented base mutation) (propsType b base mutation) := by
  unfold propsType
  rw [Binding.parameters_undocumented, List.isEmpty_map, List.map_map]
  split
  · exact .refl _
  · exact ((Commented.join commented_propField "; " b.parameters).code _).append_text "\x7d"

/-! ## what has no documentation in it -/

theorem entriesOf_undocumented (parameters : List BindingParameter) :
    entriesOf (parameters.map .undocumented) = entriesOf parameters := by
  rw [entriesOf, List.map_map]
  rfl

theorem destructured_undocumented (b : Binding) :
    destructured b.undocumented = destructured b := by
  rw [destructured, Binding.parameters_undocumented, entriesOf_undocumented]
  rfl

theorem pathLiteral_undocumented (b : Binding) : pathLiteral b.undocumented = pathLiteral b := by
  have hroute : (b.pathParameters.map .undocumented).foldl renameIn b.route =
      b.pathParameters.foldl renameIn b.route := List.foldl_map
  have hquery : queryExpression (b.queryParameters.map .undocumented) =
      queryExpression b.queryParameters := by
    rw [queryExpression, List.isEmpty_map, entriesOf_undocumented]
    rfl
  unfold pathLiteral pathExpression
  show "`" ++ ((b.pathParameters.map .undocumented).foldl renameIn b.route ++
    queryExpression (b.queryParameters.map .undocumented)) ++ "`" = _
  rw [hroute, hquery]

/-! ## accessors -/

/-- the comment of an accessor stands on lines of its own -/
theorem commented_docComment (summary description : Option String) (polling : Bool)
    {lines : List String} (hlines : lines ≠ []) : Commented (Text.join "\n" lines)
      (Text.join "\n" (docComment summary description polling ++ lines)) := by
  by_cases h : docComment summary description polling = []
  · rw [h]
    exact .refl _
  · rw [Text.join_append "\n" h hlines]
    exact (Commented.refl _).comment (isComment_docComment h) (.inr rfl)

/-- an accessor is the type of its properties, its comment, and its code -/
theorem commented_accessor (heading : String) {props props' : String}
    (hprops : Commented props props') (summary description : Option String) (polling : Bool)
    {code : List String}
    (hcode : code ≠ []) :
    Commented (Text.join "\n" (["", heading ++ props ++ ";", ""] ++ code))
      (Text.join "\n" (["", heading ++ props' ++ ";", ""] ++
        (docComment summary description polling ++ code))) := by
  have hdocumented : docComment summary description polling ++ code ≠ [] :=
    List.append_ne_nil_of_right_ne_nil _ hcode
  have htype : Commented (heading ++ props ++ ";") (heading ++ props' ++ ";") :=
    (hprops.code heading).append_text ";"
  rw [Text.join_append "\n" (List.cons_ne_nil _ _) hcode,
    Text.join_append "\n" (List.cons_ne_nil _ _) hdocumented]
  refine Commented.append (.append_text ?_ "\n") (commented_docComment _ _ _ hcode)
  exact ((htype.code ("" ++ "\n")).append_text "\n").append_text ""

theorem docComment_undocumented (b : Binding) (polling : Bool) :
    docComment b.undocumented.summary b.undocumented.description polling = [] := by
  cases polling <;> rfl

theorem commented_componentLines (b : Binding) (component name : String) (mutation polling : Bool) :
    Commented (Text.join "\n" (componentLines b.undocumented component name mutation polling))
      (Text.join "\n" (componentLines b component name mutation polling)) := by
  unfold componentLines
  rw [destructured_undocumented, pathLiteral_undocumented, docComment_undocumented]
  simp only [List.append_assoc, List.nil_append]
  exact commented_accessor ("export type " ++ name ++ "Props = ")
    (commented_propsType b _ mutation) b.summary b.description polling (List.cons_ne_nil _ _)

theorem hookCall_undocumented (b : Binding) : hookCall b.undocumented = hookCall b := by
  rw [hookCall, pathLiteral_undocumented]
  rfl

theorem hookProps_undocumented (b : Binding) : hookProps b.undocumented = hookProps b := rfl

theorem commented_hook (b : Binding) : Commented (hook b.undocumented) (hook b) := by
  unfold hook
  rw [destructured_undocumented, hookCall_undocumented, hookProps_undocumented,
    docComment_undocumented]
  simp only [List.append_assoc, List.nil_append]
  exact commented_accessor ("export type " ++ ("Use" ++ b.name ++ "Props") ++ " = ")
    (commented_propsType b (hookProps b) b.isMutation) b.summary b.description false
    (List.cons_ne_nil _ _)

/-- **Documentation adds comments to the text of a binding, and nothing else.** -/
theorem commented_bindingText (options : Options) (b : Binding) :
    Commented (bindingText options b.undocumented) (bindingText options b) := by
  have hpart : ∀ {c : Bool} {code text : String}, Commented code text →
      Commented (if c then code else "") (if c then text else "") := by
    intro c code text h
    cases c
    · exact .refl ""
    · exact h
  unfold bindingText
  refine Commented.append (.append (.append (.refl _) ?_) (hpart (commented_hook b))) (hpart ?_)
  · exact commented_componentLines b _ b.name b.isMutation false
  · exact commented_componentLines b _ ("Poll" ++ b.name) false true

/-- **The comments of a binding hold `*/` once, as their last two characters.**  They are the only
place that a text of the document gets to. -/
theorem comments_close_once (options : Options) (b : Binding) :
    (∀ polling : Bool, if (b.summary.getD "").toList.all Text.isBlank ∧
          (b.description.getD "").toList.all Text.isBlank
        then docComment b.summary b.description polling = []
        else IsComment (Text.join "\n" (docComment b.summary b.description polling))) ∧
      (∀ description : String, IsComment (inlineComment description)) ∧
      Commented (bindingText options b.undocumented) (bindingText options b) := by
  refine ⟨fun polling => ?_, isComment_inlineComment, commented_bindingText options b⟩
  split
  · rename_i hblank
    exact docComment_eq_nil_iff.mpr hblank
  · rename_i hwords
    exact isComment_docComment (mt docComment_eq_nil_iff.mp hwords)

end Source

end ApiBindings
