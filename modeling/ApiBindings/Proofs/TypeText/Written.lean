import ApiBindings.Proofs.TypeText.Grammar
import ApiBindings.Proofs.TypeText.Scan
import ApiBindings.Proofs.TypeText.TypeName
import ApiBindings.Synthesis.SchemaType

/-!
# Texts of types

`Written text summands` says what a text must do so that others can be built from it: it is read as
the union of the summands, each of them the intersection of its factors, and the scan for operators
finds a bar if and only if there are two summands, an ampersand if and only if some summand has two
factors.  Every way in which the synthesis puts texts together keeps this.

* `Written.reads`                 a written text is read as the union;
* `Written.bar`                   `|` appends summands;
* `Written.ampersand`             `&` appends the factors of single summands;
* `Written.arrayOf`               the brackets of an array take the whole type;
* `Written.intersectionMember`    a union becomes one factor;
* `Written.recordOf`              fields keep their keys and flags;
* `Written.indexOf`               an index signature takes the whole type.
-/

namespace ApiBindings.TypeScript

/-- the union of intersections of these factors -/
def ofSummands (summands : List (List TypeExpr)) : TypeExpr :=
  .compound .union (summands.map (.compound .intersection))

/-- a text that is read as a union of intersections, and scanned as one -/
structure Written (text : String) (summands : List (List TypeExpr)) : Prop where
  spells : ∃ ts, Spells text.toList ts ∧
    Separated Intersected .bar ts (summands.map (.compound .intersection))
  scans : ∃ found, Scans text.toList found ∧ (.union ∈ found ↔ 2 ≤ summands.length) ∧
    (.intersection ∈ found ↔ ∃ factors ∈ summands, 2 ≤ factors.length)

theorem normal_ofSummands_single (factors : List TypeExpr) :
    (ofSummands [factors]).normal = (TypeExpr.compound .intersection factors).normal :=
  TypeExpr.normal_singleton .union _

theorem normal_ofSummands_factor (e : TypeExpr) : (ofSummands [[e]]).normal = e.normal := by
  rw [normal_ofSummands_single, TypeExpr.normal_singleton]

namespace Written

variable {text : String} {summands : List (List TypeExpr)}

theorem reads (h : Written text summands) : Reads text (ofSummands summands) := by
  obtain ⟨ts, hts, hs⟩ := h.spells
  exact ⟨ts, hts.tokens_eq, .mk hs⟩

theorem united (h : Written text summands) :
    ∃ ts, Spells text.toList ts ∧ United ts (ofSummands summands) := by
  obtain ⟨ts, hts, hs⟩ := h.spells
  exact ⟨ts, hts, .mk hs⟩

theorem ne_nil (h : Written text summands) : summands ≠ [] := by
  obtain ⟨ts, _, hs⟩ := h.spells
  intro hnil
  rw [hnil] at hs
  exact hs.ne_nil rfl

theorem factors {factors : List TypeExpr} (h : Written text [factors]) :
    ∃ ts, Spells text.toList ts ∧ Separated Arrayed .ampersand ts factors := by
  obtain ⟨ts, hts, hs⟩ := h.spells
  cases hs with
  | single hs =>
    obtain ⟨hs⟩ := hs
    exact ⟨ts, hts, hs⟩
  | cons _ hs => cases hs

theorem factor {e : TypeExpr} (h : Written text [[e]]) :
    ∃ ts, Spells text.toList ts ∧ Arrayed ts e := by
  obtain ⟨ts, hts, hs⟩ := h.factors
  cases hs with
  | single hs => exact ⟨ts, hts, hs⟩
  | cons _ hs => cases hs

theorem of_arrayed {ts : List Token} {e : TypeExpr} (hspells : Spells text.toList ts)
    (h : Arrayed ts e) (hscans : Scans text.toList []) : Written text [[e]] := by
  refine ⟨⟨ts, hspells, .single (.mk (.single h))⟩, [], hscans, ?_, ?_⟩
  · simp
  · simp

/-! ## words and literals -/

theorem word {c : Char} {w : List Char} (htext : text.toList = c :: w)
    (hc : startsIdentifier c = true) (hw : ∀ d ∈ w, continuesIdentifier d = true) :
    Written text [[.ofWord text]] := by
  have hspells := spells_word hc hw
  rw [← htext, String.ofList_toList] at hspells
  refine of_arrayed hspells (Primary.word text).arrayed (scans_identifier ?_)
  intro d hd
  rw [htext] at hd
  rcases List.mem_cons.mp hd with rfl | hd
  · exact continuesIdentifier_of_startsIdentifier hc
  · exact hw d hd

theorem keyword (k : Keyword) : Written k.text [[.keyword k]] := by
  have hword : ∃ c w, k.text.toList = c :: w ∧ startsIdentifier c = true ∧
      ∀ d ∈ w, continuesIdentifier d = true := by
    cases k <;> exact ⟨_, _, rfl, by decide, List.all_eq_true.mp (by decide)⟩
  obtain ⟨c, w, htext, hc, hw⟩ := hword
  have h := word htext hc hw
  rw [TypeExpr.ofWord, Keyword.ofText?_text] at h
  exact h

theorem named {name : String} (h : IsTypeName name.toList) : Written name [[.named name]] := by
  have hname := h.ofWord_eq
  rw [String.ofList_toList] at hname
  obtain ⟨c, w, htext, hc, hw⟩ := h
  have h := word htext (startsIdentifier_of_capital hc) hw
  rw [hname] at h
  exact h

theorem literal (value : String) : Written (Text.quoted value) [[.literal value]] := by
  have hspells := spells_quoted value.toList
  have hscans := scans_quoted value.toList
  rw [← String.toList_ofList (l := Text.quotedChars value.toList)] at hspells hscans
  rw [String.ofList_toList] at hspells
  exact of_arrayed hspells (Primary.literal value).arrayed hscans

/-! ## unions and intersections -/

theorem bar {s t : String} {a b : List (List TypeExpr)} (hs : Written s a) (ht : Written t b) :
    Written (s ++ " | " ++ t) (a ++ b) := by
  have htext : (s ++ " | " ++ t).toList = s.toList ++ ' ' :: '|' :: ' ' :: t.toList := by
    rw [String.toList_append, String.toList_append, List.append_assoc]
    rfl
  have ha := List.length_pos_iff.mpr hs.ne_nil
  have hb := List.length_pos_iff.mpr ht.ne_nil
  constructor
  · obtain ⟨ts, hts, hsa⟩ := hs.spells
    obtain ⟨us, hus, hsb⟩ := ht.spells
    refine ⟨ts ++ .bar :: us, ?_, ?_⟩
    · rw [htext]
      exact hts.append_cons rfl (.space (.punctuation rfl hus.space))
    · rw [List.map_append]
      exact hsa.append hsb
  · obtain ⟨found, hfound, hunion, hinter⟩ := hs.scans
    obtain ⟨more, hmore, hunion', hinter'⟩ := ht.scans
    have hgap : Scans [' '] [] := scans_inert (List.all_eq_true.mp (by decide))
    refine ⟨found ++ ([] ++ ([.union] ++ ([] ++ more))), ?_, ?_, ?_⟩
    · rw [htext]
      exact hfound.append (hgap.append (scans_bar.append (hgap.append hmore)))
    · rw [List.length_append]
      refine ⟨fun _ => by omega, fun _ => ?_⟩
      simp
    · simp only [List.nil_append, List.mem_append, List.mem_singleton, reduceCtorEq, false_or,
        hinter, hinter', or_and_right, exists_or]

theorem ampersand {s t : String} {a b : List TypeExpr} (hs : Written s [a])
    (ht : Written t [b]) : Written (s ++ " & " ++ t) [a ++ b] := by
  have htext : (s ++ " & " ++ t).toList = s.toList ++ ' ' :: '&' :: ' ' :: t.toList := by
    rw [String.toList_append, String.toList_append, List.append_assoc]
    rfl
  obtain ⟨ts, hts, hsa⟩ := hs.factors
  obtain ⟨us, hus, hsb⟩ := ht.factors
  have ha := List.length_pos_iff.mpr hsa.ne_nil
  have hb := List.length_pos_iff.mpr hsb.ne_nil
  constructor
  · refine ⟨ts ++ .ampersand :: us, ?_, .single (.mk (hsa.append hsb))⟩
    rw [htext]
    exact hts.append_cons rfl (.space (.punctuation rfl hus.space))
  · obtain ⟨found, hfound, hunion, _⟩ := hs.scans
    obtain ⟨more, hmore, hunion', _⟩ := ht.scans
    have hgap : Scans [' '] [] := scans_inert (List.all_eq_true.mp (by decide))
    refine ⟨found ++ ([] ++ ([.intersection] ++ ([] ++ more))), ?_, ?_, ?_⟩
    · rw [htext]
      exact hfound.append (hgap.append (scans_ampersand.append (hgap.append hmore)))
    · simp [hunion, hunion']
    · refine ⟨fun _ => ⟨a ++ b, List.mem_singleton.mpr rfl, ?_⟩, fun _ => ?_⟩
      · rw [List.length_append]
        omega
      · simp

theorem join_bar {texts : List String} {parts : List (List (List TypeExpr))}
    (h : List.Forall₂ Written texts parts) (hne : texts ≠ []) :
    Written (Text.join " | " texts) parts.flatten := by
  induction h with
  | nil => exact absurd rfl hne
  | @cons t a texts parts ht hrest ih =>
    cases hrest with
    | nil =>
      rw [List.flatten_cons, List.flatten_nil, List.append_nil]
      exact ht
    | cons _ _ => exact ht.bar (ih (List.cons_ne_nil _ _))

theorem join_ampersand {texts : List String} {parts : List (List TypeExpr)}
    (h : List.Forall₂ (fun t factors => Written t [factors]) texts parts) (hne : texts ≠ []) :
    Written (Text.join " & " texts) [parts.flatten] := by
  induction h with
  | nil => exact absurd rfl hne
  | @cons t a texts parts ht hrest ih =>
    cases hrest with
    | nil =>
      rw [List.flatten_cons, List.flatten_nil, List.append_nil]
      exact ht
    | cons _ _ => exact ht.ampersand (ih (List.cons_ne_nil _ _))

/-! ## parentheses and arrays -/

theorem toList_group (text : String) :
    ("(" ++ text ++ ")").toList = '(' :: (text.toList ++ [')']) := by
  rw [String.toList_append, String.toList_append]
  rfl

theorem group (h : Written text summands) :
    Written ("(" ++ text ++ ")") [[ofSummands summands]] := by
  obtain ⟨ts, hts, hunited⟩ := h.united
  obtain ⟨found, hfound, _⟩ := h.scans
  have hspells : Spells ("(" ++ text ++ ")").toList (.openParen :: (ts ++ [.closeParen])) := by
    rw [toList_group]
    exact .punctuation rfl (hts.append_cons rfl (.punctuation rfl spells_nil))
  refine of_arrayed hspells (Primary.group hunited).arrayed ?_
  rw [toList_group]
  exact hfound.bracketed (by decide) (by decide)

theorem brackets {e : TypeExpr} (h : Written text [[e]]) : Written (text ++ "[]") [[.array e]] := by
  obtain ⟨ts, hts, harrayed⟩ := h.factor
  obtain ⟨found, hfound, hunion, hinter⟩ := h.scans
  have hnone : found = [] := by
    cases found with
    | nil => rfl
    | cons operator found =>
      cases operator
      · have := hunion.mp List.mem_cons_self
        simp at this
      · have := hinter.mp List.mem_cons_self
        simp at this
  have htext : (text ++ "[]").toList = text.toList ++ '[' :: [']'] := String.toList_append
  have hbrackets : Scans ('[' :: ([] ++ [']'])) [] := scans_nil.bracketed (by decide) (by decide)
  rw [hnone] at hfound
  refine of_arrayed ?_ harrayed.array ?_
  · rw [htext]
    exact hts.append_cons rfl (.punctuation rfl (.punctuation rfl spells_nil))
  · rw [htext]
    exact hfound.append hbrackets

/-- the scan finds something if there are two summands, or two factors in one -/
theorem isCompound_iff (h : Written text summands) : isCompound text = true ↔
    2 ≤ summands.length ∨ ∃ factors ∈ summands, 2 ≤ factors.length := by
  obtain ⟨found, hfound, hunion, hinter⟩ := h.scans
  rw [hfound.isCompound_iff, ← hunion, ← hinter]
  constructor
  · intro hne
    obtain ⟨operator, rest, rfl⟩ := List.exists_cons_of_ne_nil hne
    cases operator
    · exact .inl List.mem_cons_self
    · exact .inr List.mem_cons_self
  · rintro (hmem | hmem) rfl <;> cases hmem

/-- a text in which the scan finds nothing is one factor -/
theorem single_of_scans (h : Written text summands) (hscan : isCompound text = false) :
    ∃ e, summands = [[e]] := by
  have hnone := mt h.isCompound_iff.mpr (Bool.not_eq_true _ ▸ hscan)
  obtain ⟨hsummands, hfactors⟩ := not_or.mp hnone
  have hpos := List.length_pos_iff.mpr h.ne_nil
  obtain ⟨m, rfl⟩ := List.length_eq_one_iff.mp (by omega : summands.length = 1)
  obtain ⟨_, _, hm⟩ := h.factors
  have hmpos := List.length_pos_iff.mpr hm.ne_nil
  have hfew : ¬ 2 ≤ m.length := fun htwo => hfactors ⟨m, List.mem_singleton.mpr rfl, htwo⟩
  obtain ⟨e, rfl⟩ := List.length_eq_one_iff.mp (by omega : m.length = 1)
  exact ⟨e, rfl⟩

theorem arrayOf (h : Written text summands) : ∃ e, Written (arrayOf text) [[.array e]] ∧
    e.normal = (ofSummands summands).normal := by
  unfold ApiBindings.arrayOf
  cases hscan : isCompound text with
  | true =>
    have hgroup := h.group.brackets
    rw [String.append_assoc] at hgroup
    exact ⟨ofSummands summands, hgroup, rfl⟩
  | false =>
    obtain ⟨e, rfl⟩ := h.single_of_scans hscan
    exact ⟨e, h.brackets, (normal_ofSummands_factor e).symm⟩

theorem intersectionMember (h : Written text summands) :
    ∃ factors, Written (intersectionMember text) [factors] ∧
      (TypeExpr.compound .intersection factors).normal = (ofSummands summands).normal := by
  obtain ⟨found, hfound, hunion, _⟩ := h.scans
  unfold ApiBindings.intersectionMember
  cases hscan : isUnion text with
  | true => exact ⟨[ofSummands summands], h.group, TypeExpr.normal_singleton _ _⟩
  | false =>
    have hfew : ¬ 2 ≤ summands.length := by
      intro htwo
      rw [hfound.isUnion_iff.mpr (hunion.mpr htwo)] at hscan
      cases hscan
    have hpos := List.length_pos_iff.mpr h.ne_nil
    obtain ⟨factors, rfl⟩ := List.length_eq_one_iff.mp (by omega : summands.length = 1)
    exact ⟨factors, h, (normal_ofSummands_single factors).symm⟩

end Written

/-! ## records -/

theorem identifier_cases {name : String} (h : isIdentifier name = true) :
    ∃ c w, dropFinalLineFeed name.toList = c :: w ∧ startsIdentifier c = true ∧
      ∀ d ∈ w, continuesIdentifier d = true := by
  unfold isIdentifier at h
  split at h
  · cases h
  · rename_i c w heq
    obtain ⟨hc, hw⟩ := Bool.and_eq_true_iff.mp h
    exact ⟨c, w, heq, hc, List.all_eq_true.mp hw⟩

/-- a line feed at the end is all that dropping one takes away -/
theorem dropFinalLineFeed_cases (s : List Char) :
    s = dropFinalLineFeed s ∨ s = dropFinalLineFeed s ++ ['\n'] := by
  unfold dropFinalLineFeed
  split
  · rename_i h
    right
    obtain ⟨t, rfl⟩ := List.getLast?_eq_some_iff.mp h
    rw [List.dropLast_concat]
  · exact .inl rfl

/-- a key is read as the token of its name, and the scan finds nothing in it -/
theorem spells_objectKey (name : String) :
    Spells (objectKey name).toList [(Key.ofName name).token] ∧
      Scans (objectKey name).toList [] := by
  unfold objectKey Key.ofName
  cases h : isIdentifier name with
  | false =>
    rw [if_neg (by decide), if_neg (by decide), Text.quoted, String.toList_ofList]
    refine ⟨?_, scans_quoted name.toList⟩
    have hspells := spells_quoted name.toList
    rw [String.ofList_toList] at hspells
    exact hspells
  | true =>
    obtain ⟨c, w, hname, hc, hw⟩ := identifier_cases h
    rw [if_pos rfl, if_pos rfl, hname]
    have hspells : Spells (c :: w) [.word (String.ofList (c :: w))] := spells_word hc hw
    have hscans : Scans (c :: w) [] := by
      refine scans_identifier fun d hd => ?_
      rcases List.mem_cons.mp hd with rfl | hd
      · exact continuesIdentifier_of_startsIdentifier hc
      · exact hw d hd
    rcases dropFinalLineFeed_cases name.toList with heq | heq
    · rw [heq, hname]
      exact ⟨hspells, hscans⟩
    · have hfeed : Spells ['\n'] [] := by
        intro rest _
        exact rfl
      rw [heq, hname]
      refine ⟨hspells.append_cons rfl hfeed, hscans.append ?_⟩
      exact scans_inert (List.all_eq_true.mp (by decide))

/-- a text that is read as a field, and in which brackets are closed -/
structure WrittenField (text : String) (field : Key × Bool × TypeExpr) : Prop where
  spells : ∃ ts, Spells text.toList ts ∧ Field ts field
  scans : ∃ found, Scans text.toList found

theorem Written.recordField {text : String} {summands : List (List TypeExpr)}
    (h : Written text summands) (name : String) (required : Bool) :
    WrittenField (recordField name required text)
      (Key.ofName name, !required, ofSummands summands) := by
  obtain ⟨ts, hts, hunited⟩ := h.united
  obtain ⟨found, hfound, _⟩ := h.scans
  obtain ⟨hkey, hscan⟩ := spells_objectKey name
  have hcolon : Spells (':' :: ' ' :: text.toList) (.colon :: ts) := .punctuation rfl hts.space
  have hinert : Scans [':', ' '] [] := scans_inert (List.all_eq_true.mp (by decide))
  cases required with
  | true =>
    have htext : (ApiBindings.recordField name true text).toList =
        (objectKey name).toList ++ ':' :: ' ' :: text.toList := by
      rw [ApiBindings.recordField, if_pos rfl, String.append_empty, String.toList_append,
        String.toList_append, List.append_assoc]
      rfl
    constructor
    · refine ⟨_, ?_, .mk (Key.ofName name) false hunited⟩
      rw [htext]
      exact hkey.append_cons rfl hcolon
    · rw [htext]
      exact ⟨_, hscan.append (hinert.append hfound)⟩
  | false =>
    have htext : (ApiBindings.recordField name false text).toList =
        (objectKey name).toList ++ '?' :: ':' :: ' ' :: text.toList := by
      rw [ApiBindings.recordField, if_neg (by decide), String.toList_append,
        String.toList_append, String.toList_append, List.append_assoc, List.append_assoc]
      rfl
    have hmark : Scans ['?'] [] := scans_inert (List.all_eq_true.mp (by decide))
    constructor
    · refine ⟨_, ?_, .mk (Key.ofName name) true hunited⟩
      rw [htext]
      exact hkey.append_cons rfl (.punctuation rfl hcolon)
    · rw [htext]
      exact ⟨_, hscan.append (hmark.append (hinert.append hfound))⟩

theorem join_semicolon {texts : List String} {fields : List (Key × Bool × TypeExpr)}
    (h : List.Forall₂ WrittenField texts fields) (hne : texts ≠ []) :
    (∃ ts, Spells (Text.join "; " texts).toList ts ∧ Separated Field .semicolon ts fields) ∧
      ∃ found, Scans (Text.join "; " texts).toList found := by
  induction h with
  | nil => exact absurd rfl hne
  | @cons text field texts fields hfield hrest ih =>
    obtain ⟨ts, hts, hread⟩ := hfield.spells
    obtain ⟨found, hfound⟩ := hfield.scans
    cases hrest with
    | nil => exact ⟨⟨ts, hts, .single hread⟩, found, hfound⟩
    | @cons next _ rest _ _ _ =>
      obtain ⟨⟨us, hus, hreads⟩, more, hmore⟩ := ih (List.cons_ne_nil _ _)
      have htext : (Text.join "; " (text :: next :: rest)).toList =
          text.toList ++ ';' :: ' ' :: (Text.join "; " (next :: rest)).toList := by
        rw [Text.join_cons_cons, String.toList_append, String.toList_append, List.append_assoc]
        rfl
      have hinert : Scans [';', ' '] [] := scans_inert (List.all_eq_true.mp (by decide))
      rw [htext]
      refine ⟨⟨ts ++ .semicolon :: us, ?_, .cons hread hreads⟩, _,
        hfound.append (hinert.append hmore)⟩
      exact hts.append_cons rfl (.punctuation rfl hus.space)

theorem Written.recordOf {texts : List String} {fields : List (Key × Bool × TypeExpr)}
    (h : List.Forall₂ WrittenField texts fields) :
    Written (recordOf texts) [[.record fields]] := by
  have htext : (ApiBindings.recordOf texts).toList =
      '{' :: ((Text.join "; " texts).toList ++ ['}']) := by
    rw [ApiBindings.recordOf, String.toList_append, String.toList_append]
    rfl
  cases h with
  | nil =>
    have hspells : Spells ('{' :: ([] ++ ['}'])) [.openBrace, .closeBrace] :=
      .punctuation rfl (.punctuation rfl spells_nil)
    refine of_arrayed ?_ Primary.empty.arrayed ?_
    · rw [htext]
      exact hspells
    · rw [htext]
      exact scans_nil.bracketed (by decide) (by decide)
  | cons hfield hrest =>
    obtain ⟨⟨ts, hts, hread⟩, found, hfound⟩ :=
      join_semicolon (.cons hfield hrest) (List.cons_ne_nil _ _)
    have hspells := Spells.punctuation (c := '{') rfl
      (hts.append_cons (c := '}') rfl (.punctuation rfl spells_nil))
    refine of_arrayed ?_ (Primary.record hread).arrayed ?_
    · rw [htext]
      exact hspells
    · rw [htext]
      exact hfound.bracketed (by decide) (by decide)

theorem Written.indexOf {text : String} {summands : List (List TypeExpr)}
    (h : Written text summands) : Written (indexOf text) [[.index (ofSummands summands)]] := by
  obtain ⟨ts, hts, hunited⟩ := h.united
  obtain ⟨found, hfound, _⟩ := h.scans
  have htext : (ApiBindings.indexOf text).toList =
      '{' :: '[' :: ("key".toList ++ ':' :: ' ' ::
        ("string".toList ++ ']' :: ':' :: ' ' :: (text.toList ++ ['}']))) := by
    show ("\x7b[key: string]: " ++ text ++ "\x7d").toList = _
    rw [String.toList_append, String.toList_append]
    rfl
  have hkey : Spells "key".toList [.word "key"] :=
    spells_word (by decide) (List.all_eq_true.mp (by decide))
  have hstring : Spells "string".toList [.word "string"] :=
    spells_word (by decide) (List.all_eq_true.mp (by decide))
  have hlast : Spells (text.toList ++ ['}']) (ts ++ [.closeBrace]) :=
    hts.append_cons rfl (.punctuation rfl spells_nil)
  have hvalue := hstring.append_cons rfl
    (.punctuation (c := ']') rfl (.punctuation (c := ':') rfl hlast.space))
  have hspells := hkey.append_cons rfl (.punctuation (c := ':') rfl hvalue.space)
  have hhead : Scans ('[' :: ("key: string".toList ++ [']'])) [] :=
    (scans_inert (List.all_eq_true.mp (by decide))).bracketed (by decide) (by decide)
  have hinert : Scans [':', ' '] [] := scans_inert (List.all_eq_true.mp (by decide))
  have hinside := hhead.append (hinert.append hfound)
  have hscans := hinside.bracketed (by decide : '{' ∈ _) (by decide : '}' ∈ _)
  refine of_arrayed ?_ (Primary.index "key" hunited).arrayed ?_
  · rw [htext]
    exact .punctuation rfl (.punctuation rfl hspells)
  · rw [htext]
    exact hscans

end ApiBindings.TypeScript
