import ApiBindings.Proofs.Source.Documentation
import ApiBindings.Proofs.TypeScript.Variable
import ApiBindings.Proofs.TypeText.Written

/-!
# Keys read back

A name becomes a key in the record of a schema, in the properties of an accessor and in the pattern
that takes these apart.  A reader of any of them finds the same name: the word itself if the key is
bare, the value of the literal if it is quoted.  It is the name that was written, but for one kind
of name: an identifier with a line feed behind it is written bare, and there the line feed is just a
blank.

* `entryKey?`               the name that the key of an entry stands for, and what stands behind;
* `entryKey?_objectKey`     it is that of the `Key` that a name is written as;
* `LineFed`                 an identifier, and the name that is read as if it were that identifier;
* `name_ofName_eq_iff`, `name_ofName_inj_iff`
                            all other names are read as they are and told apart;
* `keys_read_back`          all of this for every place that a name becomes a key in.
-/

namespace ApiBindings

namespace Source

open TypeScript

/-! ## reading keys -/

/-- the text that a literal stands for, from its opening quote on, and what stands behind it -/
def closed? (body : List Char) : List Char → Option (List Char × List Char)
  | [] => none
  | '"' :: rest => (Text.unquote body.reverse).map (·, rest)
  | '\\' :: c :: rest => closed? (c :: '\\' :: body) rest
  | c :: rest => closed? (c :: body) rest

/-- the name that the key in front stands for, and what stands behind it -/
def key? : List Char → Option (List Char × List Char)
  | [] => none
  | '"' :: rest => closed? [] rest
  | c :: rest =>
    if startsIdentifier c then
      some (c :: rest.takeWhile continuesIdentifier, rest.dropWhile continuesIdentifier)
    else none

/-- The name that the key of an entry stands for, and what stands behind the key.  A comment in
front of it does not count, nor do blanks around it. -/
def entryKey? (entry : String) : Option (String × String) :=
  let text := (afterComment? entry.toList).getD entry.toList
  (key? (text.dropWhile isGap)).map fun found =>
    (String.ofList found.1, String.ofList (found.2.dropWhile isGap))

theorem closed?_body {body : List Char} (h : Text.LiteralBody body) (before rest : List Char) :
    closed? before (body ++ rest) = closed? (body.reverse ++ before) rest := by
  induction h generalizing before with
  | nil => rfl
  | @plain c body hquote hslash _ ih =>
    have hc : closed? before (c :: (body ++ rest)) = closed? (c :: before) (body ++ rest) := by
      rw [closed?.eq_def]
      split <;> simp_all
    rw [List.cons_append, hc, ih, List.reverse_cons, List.append_assoc]
    rfl
  | @escape c body _ ih =>
    rw [List.cons_append, List.cons_append, closed?, ih, List.reverse_cons, List.reverse_cons,
      List.append_assoc, List.append_assoc]
    rfl

theorem key?_quotedChars (s rest : List Char) :
    key? (Text.quotedChars s ++ rest) = some (s, rest) := by
  rw [Text.quotedChars, List.cons_append, key?, List.append_assoc,
    closed?_body (Text.LiteralBody.flatMap s), List.append_nil, List.singleton_append, closed?,
    List.reverse_reverse, Text.unquote_flatMap]
  rfl

theorem key?_word {c : Char} {w rest : List Char} (hc : startsIdentifier c = true)
    (hw : ∀ d ∈ w, continuesIdentifier d = true) (hrest : Fresh rest) :
    key? (c :: w ++ rest) = some (c :: w, rest) := by
  have hquote : c ≠ '"' := by
    rintro rfl
    exact absurd hc (by decide)
  have hend : rest.takeWhile continuesIdentifier = [] ∧
      rest.dropWhile continuesIdentifier = rest := by
    cases rest with
    | nil => exact ⟨rfl, rfl⟩
    | cons d rest =>
      have hd : ¬ continuesIdentifier d = true := by rw [hrest d rfl]; decide
      exact ⟨List.takeWhile_cons_of_neg hd, List.dropWhile_cons_of_neg hd⟩
  rw [List.cons_append, key?.eq_def]
  split
  · rename_i heq
    cases heq
  · rename_i heq
    cases heq
    exact absurd rfl hquote
  · rename_i heq
    cases heq
    rw [if_pos hc, List.takeWhile_append_of_pos hw, List.dropWhile_append_of_pos hw, hend.1, hend.2,
      List.append_nil]

/-! ## names written as keys -/

/-- A key is read as the name of its token; the line feed that may end a bare name is a blank. -/
theorem key?_objectKey (name : String) {rest : List Char} (hrest : Fresh rest) :
    ∃ behind, key? ((objectKey name).toList ++ rest) =
        some ((Key.ofName name).name.toList, behind) ∧
      behind.dropWhile isGap = rest.dropWhile isGap := by
  unfold objectKey Key.ofName
  cases h : isIdentifier name with
  | false =>
    rw [if_neg (by decide), if_neg (by decide), Text.quoted, String.toList_ofList]
    exact ⟨rest, key?_quotedChars name.toList rest, rfl⟩
  | true =>
    obtain ⟨c, w, hname, hc, hw⟩ := identifier_cases h
    rw [if_pos rfl, if_pos rfl, Key.name, String.toList_ofList, hname]
    rcases dropFinalLineFeed_cases name.toList with heq | heq
    · rw [heq, hname]
      exact ⟨rest, key?_word hc hw hrest, rfl⟩
    · -- the line feed ends the word and is skipped with the blanks behind it
      rw [heq, hname, List.append_assoc]
      exact ⟨'\n' :: rest, key?_word hc hw (fresh_cons (by decide) rest), rfl⟩

theorem objectKey_head (name : String) : ∃ c w, (objectKey name).toList = c :: w ∧
    isGap c = false ∧ c ≠ '/' := by
  unfold objectKey
  cases h : isIdentifier name with
  | false =>
    rw [if_neg (by decide), Text.quoted, String.toList_ofList]
    exact ⟨'"', _, rfl, by decide, by decide⟩
  | true =>
    obtain ⟨c, w, hname, hc, -⟩ := identifier_cases h
    have hslash : c ≠ '/' := by
      rintro rfl
      exact absurd hc (by decide)
    rw [if_pos rfl]
    rcases dropFinalLineFeed_cases name.toList with heq | heq
    · rw [heq, hname]
      exact ⟨c, w, rfl, isGap_of_startsIdentifier hc, hslash⟩
    · rw [heq, hname]
      exact ⟨c, w ++ ['\n'], rfl, isGap_of_startsIdentifier hc, hslash⟩

theorem afterComment?_objectKey (name : String) (behind : List Char) :
    afterComment? ((objectKey name).toList ++ behind) = none := by
  obtain ⟨c, w, hhead, -, hslash⟩ := objectKey_head name
  rw [hhead, List.cons_append, afterComment?.eq_def]
  split
  · rename_i heq
    exact absurd (List.cons.inj heq).1 hslash
  · rfl

def Marked (text : String) : Prop :=
  ∃ mark rest, text.toList = mark :: rest ∧ continuesIdentifier mark = false ∧ isGap mark = false

theorem Marked.append {text : String} (h : Marked text) (more : String) : Marked (text ++ more) := by
  obtain ⟨mark, rest, htext, hcontinues, hgap⟩ := h
  refine ⟨mark, rest ++ more.toList, ?_, hcontinues, hgap⟩
  rw [String.toList_append, htext, List.cons_append]

/-- **A key is read as the name of the key that its name is written as.** -/
theorem entryKey?_objectKey (name : String) {behind : String} (h : Marked behind) :
    entryKey? (objectKey name ++ behind) = some ((Key.ofName name).name, behind) := by
  obtain ⟨mark, after, hbehind, hcontinues, hmark⟩ := h
  have hfresh : Fresh behind.toList := by
    rw [hbehind]
    exact fresh_cons hcontinues after
  have hstop : behind.toList.dropWhile isGap = behind.toList := by
    rw [hbehind, List.dropWhile_cons_of_neg (by rw [hmark]; decide)]
  obtain ⟨rest, hkey, hrest⟩ := key?_objectKey name hfresh
  obtain ⟨c, w, hhead, hgap, -⟩ := objectKey_head name
  have hblank : ((objectKey name).toList ++ behind.toList).dropWhile isGap =
      (objectKey name).toList ++ behind.toList := by
    rw [hhead, List.cons_append, List.dropWhile_cons_of_neg (by rw [hgap]; decide)]
  rw [entryKey?, String.toList_append, afterComment?_objectKey, Option.getD_none, hblank, hkey,
    Option.map_some, String.ofList_toList, hrest, hstop, String.ofList_toList]

/-- An entry with a comment in front is read like the entry alone. -/
theorem entryKey?_comment {comment entry : String} (h : IsComment comment)
    (hentry : afterComment? entry.toList = none) :
    entryKey? (comment ++ " " ++ entry) = entryKey? entry := by
  have hspace : (" " ++ entry).toList.dropWhile isGap = entry.toList.dropWhile isGap := by
    rw [String.toList_append]
    exact List.dropWhile_cons_of_pos (by decide)
  rw [entryKey?, entryKey?, hentry, String.append_assoc, String.toList_append,
    h.afterComment?_append, Option.getD_some, Option.getD_none, hspace]

/-! ## the places of keys -/

def fieldRest (required : Bool) (type : String) : String :=
  (if required then "" else "?") ++ (": " ++ type)

/-- what stands behind the key of an entry that connects a parameter with its variable -/
def bindingRest (name : String) : String :=
  if bindingName name = name then "" else ": " ++ bindingName name

theorem marked_colon (text : String) : Marked (": " ++ text) :=
  ⟨':', ' ' :: text.toList, by rw [String.toList_append]; rfl, by decide, by decide⟩

theorem marked_question (text : String) : Marked ("?" ++ text) :=
  ⟨'?', text.toList, by rw [String.toList_append]; rfl, by decide, by decide⟩

theorem marked_comma (text : String) : Marked (", " ++ text) :=
  ⟨',', ' ' :: text.toList, by rw [String.toList_append]; rfl, by decide, by decide⟩

theorem marked_closeBrace (text : String) : Marked ("\x7d" ++ text) :=
  ⟨'}', text.toList, by rw [String.toList_append]; rfl, by decide, by decide⟩

theorem marked_fieldRest (required : Bool) (type : String) : Marked (fieldRest required type) := by
  cases required
  · exact marked_question _
  · rw [fieldRest, if_pos rfl, String.empty_append]
    exact marked_colon type

theorem recordField_eq (name : String) (required : Bool) (type : String) :
    recordField name required type = objectKey name ++ fieldRest required type := by
  rw [recordField, fieldRest, String.append_assoc, String.append_assoc]

theorem entryKey?_recordField (name : String) (required : Bool) (type : String) :
    entryKey? (recordField name required type) =
      some ((Key.ofName name).name, fieldRest required type) := by
  rw [recordField_eq, entryKey?_objectKey name (marked_fieldRest required type)]

theorem entryKey?_propField (p : BindingParameter) :
    entryKey? (propField p) = some ((Key.ofName p.name).name, fieldRest p.required p.type) := by
  have hplain : propField p.undocumented = recordField p.name p.required p.type := rfl
  have hkey := entryKey?_recordField p.name p.required p.type
  rcases propField_cases p with h | ⟨description, h⟩
  · rw [h, hplain, hkey]
  · have hnone : afterComment? (recordField p.name p.required p.type).toList = none := by
      rw [recordField_eq, String.toList_append, afterComment?_objectKey]
    rw [h, hplain, entryKey?_comment (isComment_inlineComment description) hnone, hkey]

/-- a short entry is a key, since only an identifier can be a variable -/
theorem bindingEntry_eq_objectKey_append (name : String) :
    bindingEntry name = objectKey name ++ bindingRest name := by
  unfold bindingEntry bindingRest
  split
  · rename_i hsame
    have hidentifier : isIdentifier name = true := by
      rw [← hsame]
      exact isIdentifier_bindingName name
    rw [objectKey, if_pos hidentifier, String.append_empty]
  · rw [String.append_assoc]

theorem entryKey?_bindingEntry (name : String) {behind : String} (h : Marked behind) :
    entryKey? (bindingEntry name ++ behind) =
      some ((Key.ofName name).name, bindingRest name ++ behind) := by
  have hmarked : Marked (bindingRest name ++ behind) := by
    unfold bindingRest
    split
    · rwa [String.empty_append]
    · exact (marked_colon _).append behind
  rw [bindingEntry_eq_objectKey_append, String.append_assoc, entryKey?_objectKey name hmarked]

/-! ## which names are read as they are -/

/-- whether a name is an ASCII identifier -/
def isBareWord (word : String) : Bool :=
  match word.toList with
  | [] => false
  | c :: rest => startsIdentifier c && rest.all continuesIdentifier

def LineFed (word name : String) : Prop := isBareWord word = true ∧ name = word ++ "\n"

theorem isIdentifier_eq (name : String) : isIdentifier name =
    isBareWord (String.ofList (dropFinalLineFeed name.toList)) := by
  cases h : dropFinalLineFeed name.toList with
  | nil => simp [isIdentifier, isBareWord, h]
  | cons c w => simp [isIdentifier, isBareWord, h]

theorem getLast?_of_isBareWord {word : String} (h : isBareWord word = true) :
    word.toList.getLast? ≠ some '\n' := by
  intro hlast
  have hmem : '\n' ∈ word.toList := List.mem_of_getLast? hlast
  unfold isBareWord at h
  split at h
  · cases h
  · rename_i c rest heq
    obtain ⟨hc, hrest⟩ := Bool.and_eq_true_iff.mp h
    rw [heq] at hmem
    rcases List.mem_cons.mp hmem with rfl | hmem
    · exact absurd hc (by decide)
    · exact absurd (List.all_eq_true.mp hrest _ hmem) (by decide)

theorem name_ofName_of_isBareWord {word : String} (h : isBareWord word = true) :
    (Key.ofName word).name = word :=
  Key.name_ofName (getLast?_of_isBareWord h)

theorem LineFed.name_ofName {word name : String} (h : LineFed word name) :
    (Key.ofName name).name = word := by
  obtain ⟨hword, rfl⟩ := h
  have hdrop : dropFinalLineFeed (word ++ "\n").toList = word.toList := by
    rw [String.toList_append]
    show dropFinalLineFeed (word.toList ++ ['\n']) = word.toList
    rw [dropFinalLineFeed, if_pos List.getLast?_concat, List.dropLast_concat]
  have hidentifier : isIdentifier (word ++ "\n") = true := by
    rw [isIdentifier_eq, hdrop, String.ofList_toList, hword]
  rw [Key.ofName, if_pos hidentifier, Key.name, hdrop, String.ofList_toList]

/-- A name is read as it is, unless it is an identifier with a line feed behind it. -/
theorem name_ofName_cases (name : String) :
    (Key.ofName name).name = name ∨ LineFed (Key.ofName name).name name := by
  unfold Key.ofName
  cases h : isIdentifier name with
  | false => exact .inl rfl
  | true =>
    rw [if_pos rfl, Key.name]
    rcases dropFinalLineFeed_cases name.toList with heq | heq
    · left
      rw [← heq, String.ofList_toList]
    · right
      refine ⟨by rw [← isIdentifier_eq, h], ?_⟩
      rw [← String.toList_inj, String.toList_append, String.toList_ofList]
      exact heq

theorem LineFed.ne {word name : String} (h : LineFed word name) : word ≠ name := by
  rintro rfl
  have hlength := congrArg String.length h.2
  rw [String.length_append] at hlength
  exact absurd hlength (Nat.ne_of_lt (Nat.lt_succ_self _))

theorem name_ofName_eq_iff {name : String} :
    (Key.ofName name).name = name ↔ ¬ ∃ word, LineFed word name := by
  constructor
  · rintro hname ⟨word, hword⟩
    exact hword.ne (hword.name_ofName.symm.trans hname)
  · intro hnone
    exact (name_ofName_cases name).resolve_right fun h => hnone ⟨_, h⟩

/-- Two names are read alike if they are the same, or if one is the other with a line feed. -/
theorem name_ofName_inj_iff {name other : String} :
    (Key.ofName name).name = (Key.ofName other).name ↔
      name = other ∨ LineFed name other ∨ LineFed other name := by
  constructor
  · intro hsame
    rcases name_ofName_cases name with hname | hname <;>
      rcases name_ofName_cases other with hother | hother
    · exact .inl (hname.symm.trans (hsame.trans hother))
    · rw [← hsame, hname] at hother
      exact .inr (.inl hother)
    · rw [hsame, hother] at hname
      exact .inr (.inr hname)
    · exact .inl (hname.2.trans (hsame ▸ hother.2.symm))
  · rintro (rfl | h | h)
    · rfl
    · rw [h.name_ofName, name_ofName_of_isBareWord h.1]
    · rw [h.name_ofName, name_ofName_of_isBareWord h.1]

/-- **Keys read back.**  In the records of schemas, in the properties of accessors and in the
patterns and queries that use these, a key stands for the name that it was written for, unless the
name is an identifier with a line feed behind it; and no two names have the same key, unless one is
the other with a line feed. -/
theorem keys_read_back (name : String) :
    (∀ required type, entryKey? (recordField name required type) =
        some ((Key.ofName name).name, fieldRest required type)) ∧
      (∀ type required description, entryKey? (propField ⟨name, type, required, description⟩) =
        some ((Key.ofName name).name, fieldRest required type)) ∧
      (∀ behind, entryKey? (bindingEntry name ++ (", " ++ behind)) =
        some ((Key.ofName name).name, bindingRest name ++ (", " ++ behind))) ∧
      (∀ behind, entryKey? (bindingEntry name ++ ("\x7d" ++ behind)) =
        some ((Key.ofName name).name, bindingRest name ++ ("\x7d" ++ behind))) ∧
      ((Key.ofName name).name = name ↔ ¬ ∃ word, LineFed word name) ∧
      ∀ other, (Key.ofName name).name = (Key.ofName other).name ↔
        name = other ∨ LineFed name other ∨ LineFed other name :=
  ⟨entryKey?_recordField name,
    fun type required description => entryKey?_propField ⟨name, type, required, description⟩,
    fun behind => entryKey?_bindingEntry name (marked_comma behind),
    fun behind => entryKey?_bindingEntry name (marked_closeBrace behind),
    name_ofName_eq_iff, fun _ => name_ofName_inj_iff⟩

example : (Key.ofName "pet\n").name = "pet" ∧ (Key.ofName "pet\n\n").name = "pet\n\n" := by decide

end Source

end ApiBindings
