import ApiBindings.Proofs.Bindings.ParameterNames
import ApiBindings.Proofs.Source.Cut
import ApiBindings.Proofs.TypeText.Scan

/-!
# Paths as template literals

The path of an accessor is written into a template literal as it stands in the document, with an
interpolation for every brace.  Read as a literal it gives the route back, with the variables of the
parameters in place of the placeholders, if and only if every brace of the path opens a placeholder
and the path has none of the three characters that a literal does not keep: the backtick, the
backslash and the carriage return.

* `Clean`                        templates of which nothing is lost;
* `body?_substitute_iff`         they are those that are read as they are meant to be;
* `readAsRoute_iff`              when the literal of a path is read as the route.
-/

namespace ApiBindings.Source

open Route (behind interpolationMark Encloses BracesClosed)
open Text (utf16)
open TemplatePart (text slot)

/-! ## variables -/

/-- a map of names that gives code for words, and changes nothing but words -/
structure Renames (σ : List Char → List Char) : Prop where
  passes : ∀ name, isWord name = true → Passes (σ name)
  kept : ∀ name, isWord name = false → σ name = name

variable {σ : List Char → List Char}

theorem weight_token (name : List Char) : weight (token name) = size [.code name] := by
  have hcode : size [.code name] = weight name + 3 := rfl
  have hone : weight ['$'] = 1 ∧ weight ['{'] = 1 ∧ weight ['}'] = 1 := by decide
  have hspelled : token name = ['$'] ++ (['{'] ++ (name ++ ['}'])) := rfl
  rw [hcode, hspelled, weight_append, weight_append, weight_append, hone.1, hone.2.1, hone.2.2]
  omega

theorem size_itemsOf (hσ : Renames σ) (s : List Char) :
    size (itemsOf σ s) = weight (substitute σ s) := by
  induction s using template_induction with
  | nil => rfl
  | slot name rest hname ih =>
    have hpart : size (TemplatePart.items σ (slot name)) = weight (token (σ name)) := by
      rw [TemplatePart.items]
      split
      · exact (weight_token (σ name)).symm
      · rename_i hword
        rw [size_literally, hσ.kept name (Bool.eq_false_iff.mpr hword)]
    rw [itemsOf_token σ hname, substitute_token σ hname, size_append, weight_append, hpart, ih]
  | text c rest hno ih =>
    rw [itemsOf_cons σ hno, substitute_cons σ hno, size_append, size_literally, ih,
      ← weight_append, List.singleton_append]

/-! ## templates that are kept -/

def isKept (c : Char) : Bool := c != '`' && c != '\\' && c != '\r'

theorem isKept_iff {c : Char} : isKept c = true ↔ c ≠ '`' ∧ c ≠ '\\' ∧ c ≠ '\r' := by
  rw [isKept, Bool.and_eq_true, Bool.and_eq_true, bne_iff_ne, bne_iff_ne, bne_iff_ne, and_assoc]

theorem isKept_of_isWordChar {c : Char} (h : Text.isWordChar c = true) : isKept c = true := by
  rw [isKept_iff]
  refine ⟨?_, ?_, ?_⟩ <;>
    · rintro rfl
      exact absurd h (by decide)

/-- a template of characters that a literal keeps, with a placeholder wherever an interpolation
begins -/
structure Clean (s : List Char) : Prop where
  kept : ∀ c ∈ s, isKept c = true
  closed : ∀ rest ∈ behind interpolationMark s, ∃ name, Encloses rest name

theorem clean_nil : Clean [] := ⟨nofun, nofun⟩

theorem clean_token_iff {name : List Char} (h : Plain name) (rest : List Char) :
    Clean (token name ++ rest) ↔ isWord name = true ∧ Clean rest := by
  constructor
  · rintro ⟨hkept, hclosed⟩
    rw [behind_token h, List.forall_mem_cons] at hclosed
    obtain ⟨⟨word, hword⟩, hclosed⟩ := hclosed
    have heq := Encloses.eq_name h hword
    refine ⟨isWord_iff.mpr (heq ▸ ⟨hword.1, hword.2.1⟩), ?_, hclosed⟩
    exact fun c hc => hkept c (List.mem_append_right _ hc)
  · rintro ⟨hword, hkept, hclosed⟩
    obtain ⟨hne, hall⟩ := isWord_iff.mp hword
    refine ⟨fun c hc => ?_, ?_⟩
    · simp only [token, braced, List.mem_append, List.mem_cons, List.not_mem_nil, or_false] at hc
      rcases hc with (rfl | rfl | hc | rfl) | hc
      · decide
      · decide
      · exact isKept_of_isWordChar (hall c hc)
      · decide
      · exact hkept c hc
    · rw [behind_token h, List.forall_mem_cons]
      exact ⟨⟨name, hne, hall, rest, rfl⟩, hclosed⟩

theorem clean_cons_iff {c : Char} {rest : List Char} (h : NoToken (c :: rest)) :
    Clean (c :: rest) ↔
      (isKept c = true ∧ ¬ (c = '$' ∧ rest.head? = some '{')) ∧ Clean rest := by
  constructor
  · rintro ⟨hkept, hclosed⟩
    obtain ⟨hc, hrest⟩ := List.forall_mem_cons.mp hkept
    rw [behind, List.forall_mem_append] at hclosed
    refine ⟨⟨hc, ?_⟩, hrest, hclosed.2⟩
    rintro ⟨rfl, hopen⟩
    obtain ⟨inside, rfl⟩ := List.head?_eq_some_iff.mp hopen
    obtain ⟨name, _, hall, after, rfl⟩ := hclosed.1 inside (List.mem_singleton_self inside)
    -- the word that is enclosed would make an interpolation here
    refine h name (plain_of_isWordChar hall) ⟨after, ?_⟩
    simp [token, braced]
  · rintro ⟨⟨hc, hopen⟩, hkept, hclosed⟩
    refine ⟨List.forall_mem_cons.mpr ⟨hc, hkept⟩, ?_⟩
    have hnone : Text.afterStart? interpolationMark (c :: rest) = none := by
      refine Option.eq_none_iff_forall_ne_some.mpr fun inside hinside => hopen ?_
      cases Text.afterStart?_eq_some_iff.mp hinside
      exact ⟨rfl, rfl⟩
    rw [behind, hnone]
    exact hclosed

/-! ## reading a template back -/

/-- where an interpolation begins, nothing stands for itself -/
theorem body?_code_ne (text : List Char) (c : Char) (more : List Char) (items : List Item)
    (r : Reading) :
    body? ('$' :: '{' :: text) ≠ some (r.prepend (literally (c :: more) ++ items)) := by
  intro h
  obtain ⟨unit, units, hunit⟩ := exists_unit c more
  rw [body?_code] at h
  obtain ⟨s, _, hs⟩ := Option.bind_eq_some_iff.mp h
  obtain ⟨r', _, heq⟩ := Option.map_eq_some_iff.mp hs
  have hitems := (Reading.mk.inj heq).1
  rw [hunit] at hitems
  cases hitems

/-- a character that is not kept is not read as itself, if what is to be read is as long as what is
written -/
theorem body?_unkept_ne {c : Char} (h : isKept c = false) {text : List Char} {items : List Item}
    {r : Reading} (hsize : (r.prepend (literally [c] ++ items)).size = weight (c :: text)) :
    body? (c :: text) ≠ some (r.prepend (literally [c] ++ items)) := by
  intro hread
  by_cases htick : c = '`'
  · subst htick
    rw [body?_closing] at hread
    cases hread
  · by_cases hslash : c = '\\'
    · subst hslash
      exact Nat.ne_of_lt (size_lt_of_escape hread) hsize
    · by_cases hreturn : c = '\r'
      · subst hreturn
        have hwritten : literally ['\r'] = [.unit 13] := by decide
        rw [body?_cons (by decide), front?, if_neg (by decide),
          if_neg fun h => absurd h.1 (by decide), if_pos rfl, Option.bind_some, hwritten] at hread
        obtain ⟨r', _, heq⟩ := Option.map_eq_some_iff.mp hread
        cases congrArg Reading.items heq
      · rw [isKept_iff.mpr ⟨htick, hslash, hreturn⟩] at h
        cases h

/-- a character is read as itself if and only if it is kept and begins no interpolation -/
theorem body?_text_iff {c : Char} {text : List Char} {items : List Item} {r : Reading}
    (hsize : (r.prepend items).size = weight text) :
    body? (c :: text) = some (r.prepend (literally [c] ++ items)) ↔
      (isKept c = true ∧ ¬ (c = '$' ∧ text.head? = some '{')) ∧
        body? text = some (r.prepend items) := by
  by_cases hkept : isKept c = true
  · by_cases hopen : c = '$' ∧ text.head? = some '{'
    · obtain ⟨inside, rfl⟩ := List.head?_eq_some_iff.mp hopen.2
      rw [hopen.1]
      exact iff_of_false (body?_code_ne _ _ _ _ _) fun h => h.1.2 ⟨rfl, rfl⟩
    · obtain ⟨htick, hslash, hreturn⟩ := isKept_iff.mp hkept
      rw [body?_char htick hslash hreturn hopen, Reading.prepend_append, map_prepend_eq_iff]
      exact (and_iff_right ⟨hkept, hopen⟩).symm
  · refine iff_of_false (body?_unkept_ne (Bool.eq_false_iff.mpr hkept) ?_) fun h => hkept h.1.1
    rw [Reading.prepend_append, Reading.size_prepend, size_literally, hsize, ← weight_append,
      List.singleton_append]

/-- an interpolation is read as its placeholder if and only if it encloses a word -/
theorem body?_slot_iff (hσ : Renames σ) (name text : List Char) (items : List Item)
    (r : Reading) :
    body? (token (σ name) ++ text) =
        some (r.prepend (TemplatePart.items σ (slot name) ++ items)) ↔
      isWord name = true ∧ body? text = some (r.prepend items) := by
  have hspelled : token (σ name) ++ text = '$' :: '{' :: (σ name ++ '}' :: text) := by
    simp [token, braced]
  rw [hspelled]
  cases hword : isWord name with
  | true =>
    have hitems : TemplatePart.items σ (slot name) = [.code (σ name)] := if_pos hword
    rw [hitems, body?_code, (hσ.passes name hword).substitution?_eq, Option.bind_some,
      Reading.prepend_append, map_prepend_eq_iff]
    exact (and_iff_right rfl).symm
  | false =>
    have hitems : TemplatePart.items σ (slot name) = literally (token name) :=
      if_neg (Bool.eq_false_iff.mp hword)
    rw [hitems]
    exact iff_of_false (body?_code_ne _ _ _ _ _) fun h => Bool.false_ne_true h.1

theorem head?_substitute_append (σ : List Char → List Char) (s : List Char) {t : List Char}
    (ht : t.head? ≠ some '{') :
    (substitute σ s ++ t).head? = some '{' ↔ s.head? = some '{' := by
  have hopens : ∀ l : List Char, l.head? = some '{' ↔ ['{'] <+: l := by
    intro l
    cases l <;> simp [List.cons_prefix_cons, eq_comm]
  rw [hopens s, ← prefix_substitute (by decide) s, ← hopens, List.head?_append]
  cases (substitute σ s).head? with
  | none => exact iff_of_false ht nofun
  | some c => rfl

/-- what follows a template: how it is read, and that no interpolation begins before it -/
structure Follows (t : List Char) (r : Reading) : Prop where
  read : body? t = some r
  size : r.size = weight t
  head : t.head? ≠ some '{'

/-- **A template is read as it is meant to be, whatever follows it, if and only if it is clean.** -/
theorem body?_substitute_iff (hσ : Renames σ) {t : List Char} {r : Reading} (ht : Follows t r)
    (s : List Char) :
    body? (substitute σ s ++ t) = some (r.prepend (itemsOf σ s)) ↔ Clean s := by
  induction s using template_induction with
  | nil => exact iff_of_true ht.read clean_nil
  | slot name rest hname ih =>
    rw [substitute_token σ hname, itemsOf_token σ hname, List.append_assoc, body?_slot_iff hσ, ih,
      clean_token_iff hname]
  | text c rest hno ih =>
    -- what is meant is as long as what is written
    have hsize : (r.prepend (itemsOf σ rest)).size = weight (substitute σ rest ++ t) := by
      rw [Reading.size_prepend, size_itemsOf hσ, ht.size, weight_append]
    rw [substitute_cons σ hno, itemsOf_cons σ hno, List.cons_append, body?_text_iff hsize,
      head?_substitute_append σ rest ht.head, ih, clean_cons_iff hno]

/-! ## code -/

theorem isCode_of_isWordChar {c : Char} (h : Text.isWordChar c = true) : isCode c = true := by
  refine isCode_iff.mpr ⟨?_, ?_, ?_, ?_, ?_, ?_⟩ <;>
    · rintro rfl
      exact absurd h (by decide)

theorem isCode_of_continuesIdentifier {c : Char}
    (h : TypeScript.continuesIdentifier c = true) : isCode c = true := by
  refine isCode_iff.mpr ⟨?_, ?_, ?_, ?_, ?_, ?_⟩ <;>
    · rintro rfl
      exact absurd h (by decide)

theorem passes_of_isIdentifier {name : String} (h : TypeScript.isIdentifier name = true) :
    Passes name.toList := by
  have hdrop : ∀ c ∈ TypeScript.dropFinalLineFeed name.toList, isCode c = true := by
    unfold TypeScript.isIdentifier at h
    split at h
    · cases h
    · rename_i c rest hname
      obtain ⟨hc, hrest⟩ := Bool.and_eq_true_iff.mp h
      rw [hname, List.forall_mem_cons]
      refine ⟨isCode_of_continuesIdentifier ?_, fun d hd => ?_⟩
      · exact TypeScript.continuesIdentifier_of_startsIdentifier hc
      · exact isCode_of_continuesIdentifier (List.all_eq_true.mp hrest d hd)
  refine passes_of_isCode (List.all_eq_true.mpr fun c hc => ?_)
  unfold TypeScript.dropFinalLineFeed at hdrop
  split at hdrop
  · rename_i hlast
    rw [← List.dropLast_append_getLast? _ hlast, List.mem_append, List.mem_singleton] at hc
    rcases hc with hc | rfl
    · exact hdrop c hc
    · decide
  · exact hdrop c hc

theorem passes_bindingEntry (name : String) : Passes (TypeScript.bindingEntry name).toList := by
  have hkey : Passes (TypeScript.objectKey name).toList := by
    unfold TypeScript.objectKey
    split
    · rename_i hidentifier
      exact passes_of_isIdentifier hidentifier
    · rw [Text.quoted, String.toList_ofList]
      exact passes_quotedChars _
  have hvariable := passes_of_isIdentifier (TypeScript.isIdentifier_bindingName name)
  rw [TypeScript.bindingEntry_eq, TypeScript.keyedEntry]
  split
  · exact hkey
  · rw [String.toList_append, String.toList_append]
    exact (hkey.append (passes_of_isCode (by decide))).append hvariable

theorem passes_join {texts : List String} (h : ∀ t ∈ texts, Passes t.toList) :
    Passes (Text.join ", " texts).toList := by
  induction texts with
  | nil => exact passes_nil
  | cons t texts ih =>
    obtain ⟨ht, htexts⟩ := List.forall_mem_cons.mp h
    cases texts with
    | nil => exact ht
    | cons t' texts =>
      rw [Text.join_cons_cons, String.toList_append, String.toList_append]
      exact (ht.append (passes_of_isCode (by decide))).append (ih htexts)

/-! ## queries -/

/-- the call that puts a query together -/
def queryCode (ps : List BindingParameter) : String :=
  "qs.stringify(" ++ ("\x7b" ++ Text.join ", " (entriesOf ps) ++ "\x7d") ++ ")"

theorem queryExpression_eq (ps : List BindingParameter) : queryExpression ps =
    if ps.isEmpty then "" else "?" ++ interpolation (queryCode ps) := by
  have hopen : "?" ++ "$\x7b" ++ "qs.stringify(" ++ "\x7b" = "?$\x7bqs.stringify(\x7b" := by
    decide +kernel
  have hclose : "\x7d" ++ ")" ++ "\x7d" = "\x7d)\x7d" := by decide +kernel
  unfold queryExpression interpolation queryCode
  rewrite [← hopen, ← hclose]
  simp only [String.append_assoc]

theorem passes_queryCode (ps : List BindingParameter) : Passes (queryCode ps).toList := by
  have hentries : Passes (Text.join ", " (entriesOf ps)).toList := by
    refine passes_join fun t ht => ?_
    obtain ⟨p, _, rfl⟩ := List.mem_map.mp ht
    exact passes_bindingEntry p.name
  have hbraced (entries : String) : ("\x7b" ++ entries ++ "\x7d").toList =
      '{' :: (entries.toList ++ ['}']) := by
    simp
  rewrite [queryCode, String.toList_append, String.toList_append, hbraced]
  exact ((passes_of_isCode (by decide +kernel)).append hentries.braced).append
    (passes_of_isCode (by decide +kernel))

def queryItems (ps : List BindingParameter) : List Item :=
  if ps.isEmpty then [] else literally ['?'] ++ [.code (queryCode ps).toList]

theorem follows_closing (rest : List Char) : Follows ('`' :: rest) ⟨[], rest⟩ := by
  refine ⟨body?_closing rest, ?_, ?_⟩
  · rw [weight_cons]
    rfl
  · intro h
    cases h

/-- the query is read as it is meant to be -/
theorem follows_queryExpression (ps : List BindingParameter) (rest : List Char) :
    Follows ((queryExpression ps).toList ++ '`' :: rest) ⟨queryItems ps, rest⟩ := by
  have hclosing := follows_closing rest
  rw [queryExpression_eq, queryItems]
  split
  · exact hclosing
  · have hspelled : ("?" ++ interpolation (queryCode ps)).toList ++ '`' :: rest =
        '?' :: (token (queryCode ps).toList ++ '`' :: rest) := by
      rw [String.toList_append, toList_interpolation]
      rfl
    have hcall : body? (token (queryCode ps).toList ++ '`' :: rest) =
        some ⟨[.code (queryCode ps).toList], rest⟩ := by
      have htoken : token (queryCode ps).toList ++ '`' :: rest =
          '$' :: '{' :: ((queryCode ps).toList ++ '}' :: '`' :: rest) := by
        simp [token, braced]
      rw [htoken, body?_code, (passes_queryCode ps).substitution?_eq, Option.bind_some,
        hclosing.read]
      rfl
    have hread : (⟨literally ['?'] ++ [.code (queryCode ps).toList], rest⟩ : Reading) =
        Reading.prepend (literally ['?'] ++ [.code (queryCode ps).toList]) ⟨[], rest⟩ := rfl
    rw [hspelled]
    refine ⟨?_, ?_, ?_⟩
    · rw [body?_char (by decide) (by decide) (by decide) fun h => absurd h.1 (by decide), hcall]
      rfl
    · have hmark : weight ['?'] = (utf16 '?').length := rfl
      rw [hread, Reading.size_prepend, size_append, size_literally, hclosing.size, hmark,
        weight_cons '?', weight_append, weight_token, Nat.add_assoc]
    · intro h
      cases h

/-! ## routes of bindings -/

/-- renaming gives variables, which are code, and leaves alone what is no placeholder -/
theorem renames_variableChars {names : List String}
    (h : ∀ name ∈ names, isWord name.toList = true) : Renames (variableChars names) := by
  constructor
  · intro name hword
    by_cases hmem : String.ofList name ∈ names
    · rw [variableChars, variableOf, if_pos hmem]
      exact passes_of_isIdentifier (TypeScript.isIdentifier_bindingName _)
    · rw [variableChars_of_not_mem hmem]
      exact passes_of_isCode (List.all_eq_true.mpr fun c hc =>
        isCode_of_isWordChar ((isWord_iff.mp hword).2 c hc))
  · intro name hother
    refine variableChars_of_not_mem fun hmem => ?_
    have hword := h _ hmem
    rw [String.toList_ofList, hother] at hword
    cases hword

theorem kept_template_iff {path : List Char} :
    (∀ c ∈ Route.templateChars path, isKept c = true) ↔ ∀ c ∈ path, isKept c = true := by
  induction path with
  | nil => exact Iff.rfl
  | cons c path ih =>
    rw [Route.templateChars_cons, List.forall_mem_append, ih, List.forall_mem_cons]
    refine and_congr_left fun _ => ?_
    split
    · rename_i hc
      subst hc
      exact iff_of_true (List.all_eq_true.mp (by decide)) (by decide)
    · exact List.forall_mem_singleton

/-- what is cut off a path is kept in any case -/
theorem kept_split_iff (e : Endpoint) :
    (∀ c ∈ e.split.1.toList, isKept c = true) ↔ ∀ c ∈ e.path.toList, isKept c = true := by
  have hwhole : (∀ c ∈ (Route.template e.path).toList, isKept c = true) ↔
      ∀ c ∈ e.path.toList, isKept c = true := by
    rw [Route.template, String.toList_ofList, kept_template_iff]
  unfold Endpoint.split
  split
  · dsimp only
    split
    · rename_i before name htrailing
      rw [Route.template, String.toList_ofList] at htrailing
      obtain ⟨first, ending, hending, hpath, rfl, _, hword⟩ := Route.exists_trailing htrailing
      have hsegment : ∀ c ∈ '/' :: '{' :: (name ++ '}' :: ending), isKept c = true := by
        have hend : ∀ c ∈ '}' :: ending, isKept c = true := by
          rcases hending with rfl | rfl <;> exact List.all_eq_true.mp (by decide)
        rw [List.forall_mem_cons, List.forall_mem_cons, List.forall_mem_append]
        exact ⟨by decide, by decide, fun c hc => isKept_of_isWordChar (hword c hc), hend⟩
      rw [String.toList_ofList, kept_template_iff, hpath, List.forall_mem_append]
      exact (and_iff_left hsegment).symm
    · exact hwhole
  · exact hwhole

variable {d : Description} {e : Endpoint} {seen : List String} {b : Binding}

theorem clean_route_iff (h : d.bind e seen = .ok b) : Clean b.route.toList ↔
    BracesClosed e.path.toList ∧ ∀ c ∈ e.path.toList, isKept c = true := by
  obtain ⟨_, hbuilt⟩ := Description.bind_eq_ok_iff_parts.mp h
  rw [bracesClosed_route_iff h, ← kept_split_iff, ← hbuilt.route]
  exact ⟨fun hclean => ⟨hclean.closed, hclean.kept⟩, fun hclean => ⟨hclean.2, hclean.1⟩⟩

theorem isWord_of_mem_pathParameters (h : d.bind e seen = .ok b) :
    ∀ name ∈ b.pathParameters.map BindingParameter.name, isWord name.toList = true := by
  intro name hname
  obtain ⟨hmem, _⟩ := (mem_pathParameters_iff h).mp hname
  obtain ⟨_, _, hword⟩ := (mem_placeholders_route h).mp hmem
  exact isWord_iff.mpr ⟨hword.1, hword.2.1⟩

/-- a cut at the placeholders of the route is one at all of its words -/
theorem names_eq_placeholders_iff (h : d.bind e seen = .ok b) (cut : Cut) :
    cut.names.map String.ofList = Route.placeholders b.route ↔
      cut.names = words b.route.toList := by
  obtain ⟨_, hbuilt⟩ := Description.bind_eq_ok_iff_parts.mp h
  obtain ⟨kept, hroute, _⟩ := e.exists_kept
  have hwords : Route.placeholders b.route = (words b.route.toList).map String.ofList := by
    rw [hbuilt.route, hroute, Route.placeholders_template]
    exact Route.placeholders_eq_enclosed kept
  rw [hwords, List.map_inj_right fun _ _ => String.ofList_inj.mp]

/-- The literal of a path, whatever follows it, ends at its own backtick.  It stands for the texts
between the placeholders of the route as they are, with the code of a variable between each two, and
for the query. -/
def ReadAsRoute (b : Binding) (rest : List Char) : Prop :=
  ∃ cut : Cut, cut.chars = b.route.toList ∧
    cut.names.map String.ofList = Route.placeholders b.route ∧
    template? ((pathLiteral b).toList ++ rest) =
      some ⟨cut.items (variableChars (b.pathParameters.map BindingParameter.name)) ++
        queryItems b.queryParameters, rest⟩

/-- **The literal of a path is read as its route, with a variable for each placeholder, and ends at
its own backtick, if and only if each brace of the path opens a placeholder and the path has no
backtick, no backslash and no carriage return.** -/
theorem readAsRoute_iff (h : d.bind e seen = .ok b) (rest : List Char) :
    ReadAsRoute b rest ↔
      BracesClosed e.path.toList ∧ ∀ c ∈ e.path.toList, c ≠ '`' ∧ c ≠ '\\' ∧ c ≠ '\r' := by
  have hσ := renames_variableChars (isWord_of_mem_pathParameters h)
  have hliteral : (pathLiteral b).toList ++ rest = '`' ::
      (substitute (variableChars (b.pathParameters.map BindingParameter.name)) b.route.toList ++
        ((queryExpression b.queryParameters).toList ++ '`' :: rest)) := by
    have hplain : ∀ p ∈ b.pathParameters, Plain p.name.toList := fun p hp =>
      plain_of_mem_pathParameters h p.name (List.mem_map_of_mem hp)
    rw [pathLiteral, pathExpression, foldl_renameIn hplain]
    simp [String.toList_append]
  have hread := body?_substitute_iff hσ (follows_queryExpression b.queryParameters rest)
    b.route.toList
  simp only [← isKept_iff]
  rw [← clean_route_iff h, ← hread, ReadAsRoute, hliteral, template?]
  constructor
  · rintro ⟨cut, hchars, hnames, htemplate⟩
    rw [names_eq_placeholders_iff h, ← hchars] at hnames
    rw [htemplate, cut.items_eq_itemsOf _ hnames, hchars]
    rfl
  · intro htemplate
    obtain ⟨cut, hchars, hnames⟩ := Cut.exists_cut b.route.toList
    refine ⟨cut, hchars, (names_eq_placeholders_iff h cut).mpr hnames, ?_⟩
    rw [htemplate, cut.items_eq_itemsOf _ (hchars ▸ hnames), hchars]
    rfl

/-- an operation with a placeholder and a query -/
def limitedPet (path : String) : Endpoint where
  path := path
  method := .get
  operation :=
    { operationId := .value "getPet"
      summary := .absent
      description := .absent
      parameters := .value [.inline ⟨"id", "path", .absent, .value true, .absent, []⟩,
        .inline ⟨"limit", "query", .absent, .absent, .absent, []⟩]
      requestBody := .absent
      responses := some []
      extras := [] }
  shared := .absent

/-- its path is read as the route it stands for, but with a backtick in it as one that ends there -/
theorem readAsRoute_limitedPet :
    (∃ b, bareDescription.bind (limitedPet "/pets/\x7bid\x7d") [] = .ok b ∧
      pathLiteral b = "`/pets/$\x7bid\x7d?$\x7bqs.stringify(\x7blimit\x7d)\x7d`" ∧
      ReadAsRoute b []) ∧
    ∃ b, bareDescription.bind (limitedPet "/pets`/\x7bid\x7d") [] = .ok b ∧
      pathLiteral b = "`/pets`/$\x7bid\x7d?$\x7bqs.stringify(\x7blimit\x7d)\x7d`" ∧
      ¬ ReadAsRoute b [] := by
  have hbound (path literal : String)
      (h : (bareDescription.bind (limitedPet path) []).toOption.map pathLiteral = some literal) :
      ∃ b, bareDescription.bind (limitedPet path) [] = .ok b ∧ pathLiteral b = literal := by
    obtain ⟨b, hb, hliteral⟩ := Option.map_eq_some_iff.mp h
    exact ⟨b, toOption_eq_some.mp hb, hliteral⟩
  constructor
  · obtain ⟨b, hb, hliteral⟩ := hbound "/pets/\x7bid\x7d"
      "`/pets/$\x7bid\x7d?$\x7bqs.stringify(\x7blimit\x7d)\x7d`" (by decide +kernel)
    have hkept : (limitedPet "/pets/\x7bid\x7d").path.toList.all isKept = true := by
      decide +kernel
    refine ⟨b, hb, hliteral, (readAsRoute_iff hb []).mpr ⟨?_, fun c hc => ?_⟩⟩
    · rw [Route.bracesClosed_iff]
      decide +kernel
    · exact isKept_iff.mp (List.all_eq_true.mp hkept c hc)
  · obtain ⟨b, hb, hliteral⟩ := hbound "/pets`/\x7bid\x7d"
      "`/pets`/$\x7bid\x7d?$\x7bqs.stringify(\x7blimit\x7d)\x7d`" (by decide +kernel)
    refine ⟨b, hb, hliteral, fun hread => ?_⟩
    have hkept := ((readAsRoute_iff hb []).mp hread).2
    exact absurd rfl (hkept '`' (by decide +kernel)).1

end ApiBindings.Source
