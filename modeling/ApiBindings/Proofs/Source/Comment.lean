import ApiBindings.Proofs.Text.Blank
import ApiBindings.Source.Comment
import Mathlib.Data.List.Chain

/-!
# Comments end where they are closed

A comment goes on up to the first `*/` behind its opening.  Texts of a document that get into a
comment are escaped, and nothing that is done to them before or afterwards (trimming, taking apart
into lines or words, a note at the end) brings a star and a slash together again.

* `EndFree`                  no comment ends in a text;
* `endFree_escapeComment`    none ends in a text that was escaped;
* `IsComment`                a text that is opened as a comment and closed by its end alone;
* `isComment_docComment`, `isComment_inlineComment`
                             the comments of accessors and of properties;
* `afterComment?_append`     where a reader goes on behind a comment;
* `docComment_eq_nil_iff`    when there is none.
-/

namespace ApiBindings

/-! ## joined texts -/

theorem Text.join_append (sep : String) {s t : List String} (hs : s ≠ []) (ht : t ≠ []) :
    Text.join sep (s ++ t) = Text.join sep s ++ sep ++ Text.join sep t := by
  induction s with
  | nil => exact absurd rfl hs
  | cons a s ih =>
    cases s with
    | nil =>
      obtain ⟨b, t, rfl⟩ := List.exists_cons_of_ne_nil ht
      exact Text.join_cons_cons sep a b t
    | cons a' s =>
      rw [List.cons_append, List.cons_append, Text.join_cons_cons, ← List.cons_append,
        ih (List.cons_ne_nil _ _), Text.join_cons_cons]
      simp only [String.append_assoc]

namespace Source

/-! ## texts in which no comment ends -/

/-- no comment ends with these two characters -/
def Apart (a b : Char) : Prop := a = '*' → b ≠ '/'

def EndFree (s : List Char) : Prop := s.IsChain Apart

theorem endFree_of_no_slash {s : List Char} (h : '/' ∉ s) : EndFree s := by
  refine List.isChain_iff_forall_rel_of_append_cons_cons.mpr ?_
  rintro a b before after rfl _ rfl
  exact h (by simp)

theorem EndFree.cons {c : Char} {s : List Char} (hc : c ≠ '*') (hs : EndFree s) :
    EndFree (c :: s) :=
  List.IsChain.cons hs fun _ _ hstar => absurd hstar hc

theorem endFree_opening : EndFree "/**".toList :=
  (endFree_of_no_slash (by decide) : EndFree ['*', '*']).cons (by decide)

/-- two texts can be joined by anything but a slash -/
theorem EndFree.append_cons {c : Char} {s t : List Char} (hs : EndFree s) (hc : c ≠ '/')
    (ht : EndFree (c :: t)) : EndFree (s ++ c :: t) := by
  refine List.IsChain.append hs ht fun _ _ b hb _ => ?_
  cases hb
  exact hc

/-- what is written for a text begins with a slash only if the text does -/
theorem endFree_replaceFrom (s : List Char) (skip : Nat) :
    EndFree (Text.replaceAll.go ['*', '/'] ['*', '\\', '/'] skip s) ∧ (skip = 0 →
      (Text.replaceAll.go ['*', '/'] ['*', '\\', '/'] skip s).head? = some '/' →
        s.head? = some '/') := by
  induction s generalizing skip with
  | nil => exact ⟨.nil, fun _ h => by cases skip <;> exact h⟩
  | cons c s ih =>
    cases skip with
    | succ skip => exact ⟨(ih skip).1, fun h => by cases h⟩
    | zero =>
      rw [Text.replaceAll.go]
      split
      · have hslash : EndFree ('/' :: Text.replaceAll.go ['*', '/'] ['*', '\\', '/'] 1 s) :=
          (ih 1).1.cons (by decide)
        have hback := EndFree.cons (c := '\\') (by decide) hslash
        refine ⟨List.IsChain.cons hback ?_, fun _ h => by cases h⟩
        intro b hb _
        cases hb
        decide
      · rename_i hno
        obtain ⟨hrest, hhead⟩ := ih 0
        refine ⟨List.IsChain.cons hrest ?_, fun _ h => h⟩
        -- a slash behind a star would have been escaped with it
        rintro b hb rfl rfl
        obtain ⟨s, rfl⟩ := List.head?_eq_some_iff.mp (hhead rfl hb)
        exact hno rfl

theorem endFree_escapeComment (s : List Char) : EndFree (escapeComment s) :=
  (endFree_replaceFrom s 0).1

theorem endFree_commentLine (line : List Char) : EndFree (commentLine line).toList := by
  rw [commentLine, String.toList_ofList, Text.trimEnd_eq]
  refine List.IsChain.prefix ?_ (List.rdropWhile_prefix Text.isBlank _)
  have hgap : EndFree (' ' :: escapeComment line) := (endFree_escapeComment line).cons (by decide)
  have hstart : EndFree [' ', '*'] := endFree_of_no_slash (by decide)
  exact hstart.append_cons (by decide) hgap

theorem endFree_join {lines : List String} (h : ∀ line ∈ lines, EndFree line.toList) :
    EndFree (Text.join "\n" lines).toList := by
  induction lines with
  | nil => exact .nil
  | cons line lines ih =>
    obtain ⟨hline, hlines⟩ := List.forall_mem_cons.mp h
    cases lines with
    | nil => exact hline
    | cons next lines =>
      rw [Text.join_cons_cons, String.toList_append, String.toList_append, List.append_assoc]
      exact hline.append_cons (by decide) ((ih hlines).cons (by decide))

/-! ## comments -/

/-- A comment of documentation: `*/` stands in it exactly once, as its last two characters. -/
structure IsComment (text : String) : Prop where
  opened : ∃ rest, text = "/**" ++ rest
  closed : ∃ before, text = before ++ "*/"
  once : ∀ before after, text = before ++ "*/" ++ after → after = ""

theorem isComment_of_endFree {body : String} (hopen : ∃ rest, body = "/**" ++ rest)
    (h : EndFree (body.toList ++ ['*'])) : IsComment (body ++ "*/") := by
  refine ⟨?_, ⟨body, rfl⟩, fun before after heq => ?_⟩
  · obtain ⟨rest, rfl⟩ := hopen
    exact ⟨rest ++ "*/", String.append_assoc⟩
  · have heq : body.toList ++ ['*'] ++ ['/'] = before.toList ++ ['*', '/'] ++ after.toList := by
      have hlists := congrArg String.toList heq
      rw [String.toList_append, String.toList_append, String.toList_append] at hlists
      rw [List.append_assoc]
      exact hlists
    rcases List.eq_nil_or_concat after.toList with hnil | ⟨more, last, hmore⟩
    · rw [← String.toList_inj, hnil, String.toList_empty]
    · rw [hmore, List.concat_eq_append, ← List.append_assoc] at heq
      obtain ⟨hbody, _⟩ := List.append_inj' heq rfl
      rw [hbody, List.append_assoc] at h
      exact absurd rfl (List.isChain_iff_forall_rel_of_append_cons_cons.mp h rfl rfl)

/-- a block of lines in which no comment ends -/
theorem isComment_block {lines : List String} (h : ∀ line ∈ lines, EndFree line.toList) :
    IsComment (Text.join "\n" ("/**" :: (lines ++ [" */"]))) := by
  have hend : EndFree ['\n', ' ', '*'] := endFree_of_no_slash (by decide)
  have htext : Text.join "\n" ("/**" :: (lines ++ [" */"])) =
      (Text.join "\n" ("/**" :: lines) ++ "\n ") ++ "*/" := by
    rw [← List.cons_append, Text.join_append "\n" (List.cons_ne_nil _ _) (List.cons_ne_nil _ _),
      Text.join_singleton, String.append_assoc, String.append_assoc]
    rfl
  rw [htext]
  refine isComment_of_endFree ?_ ?_
  · obtain ⟨rest, hrest⟩ : ∃ rest, Text.join "\n" ("/**" :: lines) = "/**" ++ rest := by
      cases lines with
      | nil => exact ⟨"", rfl⟩
      | cons line lines =>
        exact ⟨"\n" ++ Text.join "\n" (line :: lines), by
          rw [Text.join_cons_cons, String.append_assoc]⟩
    exact ⟨rest ++ "\n ", by rw [hrest, String.append_assoc]⟩
  · rw [String.toList_append, List.append_assoc]
    exact (endFree_join (List.forall_mem_cons.mpr ⟨endFree_opening, h⟩)).append_cons (by decide) hend

theorem docComment_eq (summary description : Option String) (polling : Bool) :
    docComment summary description polling =
      if (commentLines summary description polling).isEmpty then []
      else "/**" :: ((commentLines summary description polling).map commentLine ++ [" */"]) := rfl

/-- **The comment of an accessor, if it has one.** -/
theorem isComment_docComment {summary description : Option String} {polling : Bool}
    (h : docComment summary description polling ≠ []) :
    IsComment (Text.join "\n" (docComment summary description polling)) := by
  rw [docComment_eq] at h ⊢
  split
  · rename_i hempty
    rw [if_pos hempty] at h
    exact absurd rfl h
  · refine isComment_block fun line hline => ?_
    obtain ⟨chars, _, rfl⟩ := List.mem_map.mp hline
    exact endFree_commentLine chars

/-- **The inline comment of a property.** -/
theorem isComment_inlineComment (description : String) : IsComment (inlineComment description) := by
  generalize hline : oneLine description = line
  have htext : inlineComment description =
      ("/**" ++ (" " ++ (String.ofList (escapeComment line) ++ " "))) ++ "*/" := by
    rw [inlineComment, hline]
    simp only [String.append_assoc]
    rfl
  have hend : EndFree [' ', '*'] := endFree_of_no_slash (by decide)
  have hinside : EndFree (' ' :: (escapeComment line ++ [' ', '*'])) :=
    ((endFree_escapeComment line).append_cons (by decide) hend).cons (by decide)
  rw [htext]
  refine isComment_of_endFree ⟨_, rfl⟩ ?_
  simp only [String.toList_append, String.toList_ofList, List.append_assoc]
  exact endFree_opening.append_cons (by decide) hinside

/-! ## reading on behind a comment -/

def behindEnd? : List Char → Option (List Char)
  | [] => none
  | '*' :: '/' :: rest => some rest
  | _ :: rest => behindEnd? rest

def afterComment? : List Char → Option (List Char)
  | '/' :: '*' :: rest => behindEnd? rest
  | _ => none

theorem behindEnd?_append {body : List Char} (h : EndFree (body ++ ['*'])) (rest : List Char) :
    behindEnd? (body ++ '*' :: '/' :: rest) = some rest := by
  induction body with
  | nil => rfl
  | cons c body ih =>
    have htail : EndFree (body ++ ['*']) := List.IsChain.tail h
    rw [List.cons_append, behindEnd?]
    · exact ih htail
    · rintro after rfl hslash
      cases body with
      | nil => cases hslash
      | cons d body =>
        cases hslash
        exact absurd rfl (List.IsChain.rel_head? h rfl rfl)

/-- A reader goes on behind a comment, whatever stands there. -/
theorem IsComment.afterComment?_append {text : String} (h : IsComment text) (rest : List Char) :
    afterComment? (text.toList ++ rest) = some rest := by
  obtain ⟨inside, hopened⟩ := h.opened
  obtain ⟨before, hclosed⟩ := h.closed
  have hstart : text.toList = '/' :: '*' :: '*' :: inside.toList := by
    rw [hopened, String.toList_append]
    rfl
  have hstop : text.toList = before.toList ++ ['*', '/'] := by
    rw [hclosed, String.toList_append]
    rfl
  obtain ⟨body, hbody⟩ : ∃ body, text.toList = '/' :: '*' :: (body ++ ['*', '/']) := by
    rw [hstart] at hstop ⊢
    match hb : before.toList, hstop with
    | [], hstop => cases hstop
    | [_], hstop => cases hstop
    | a :: b :: body, hstop =>
      injection hstop with _ hstop
      injection hstop with _ hstop
      exact ⟨body, by rw [hstop]; rfl⟩
  have hfree : EndFree (body ++ ['*']) := by
    refine List.isChain_iff_forall_rel_of_append_cons_cons.mpr ?_
    rintro a b s t heq rfl rfl
    have hlist : text.toList = ('/' :: '*' :: s) ++ ['*', '/'] ++ (t ++ ['/']) := by
      have hsplit : body ++ ['*', '/'] = (body ++ ['*']) ++ ['/'] := by simp
      rw [hbody, hsplit, heq]
      simp
    have hempty := h.once (String.ofList ('/' :: '*' :: s)) (String.ofList (t ++ ['/'])) (by
      rw [← String.toList_inj, hlist]
      simp)
    rw [← String.toList_inj, String.toList_ofList, String.toList_empty] at hempty
    exact absurd hempty (List.append_ne_nil_of_right_ne_nil _ (List.cons_ne_nil _ _))
  have htext : text.toList ++ rest = '/' :: '*' :: (body ++ '*' :: '/' :: rest) := by
    rw [hbody]
    simp
  rw [htext]
  exact behindEnd?_append hfree rest

/-! ## texts without comments -/

theorem textLines_eq_nil_iff {text : Option String} :
    textLines text = [] ↔ (text.getD "").toList.all Text.isBlank = true := by
  rw [textLines, Text.lines_eq_nil_iff, Text.trim_eq_nil_iff]

theorem noteLast_eq_nil_iff {note : List Char} {lines : List (List Char)} :
    noteLast note lines = [] ↔ lines = [] := by
  unfold noteLast
  split <;> simp

theorem paragraphs_eq_nil_iff {first second : List (List Char)} :
    paragraphs first second = [] ↔ first = [] ∧ second = [] := by
  cases first <;> cases second <;> simp [paragraphs]

/-- An accessor has no comment if neither text has a word. -/
theorem docComment_eq_nil_iff {summary description : Option String} {polling : Bool} :
    docComment summary description polling = [] ↔
      (summary.getD "").toList.all Text.isBlank = true ∧
        (description.getD "").toList.all Text.isBlank = true := by
  have hlines : docComment summary description polling = [] ↔
      commentLines summary description polling = [] := by
    rw [docComment_eq, ← List.isEmpty_iff]
    split <;> simp_all
  rw [hlines, ← textLines_eq_nil_iff, ← textLines_eq_nil_iff, commentLines, paragraphs_eq_nil_iff]
  cases polling with
  | true => rw [if_pos rfl, noteLast_eq_nil_iff]
  | false => rw [if_neg (by decide)]

end Source

end ApiBindings
