import ApiBindings.Proofs.Bindings.PathParameters
import Mathlib.Data.List.Forall2

/-!
# Interpolations and placeholders

A template gets an interpolation for every opening brace of its path, but a placeholder is looked up
only for a brace with a word and a closing brace behind it.  The two scans agree if and only if
every brace of the path opens such a word.

* `behind`, `Encloses`            the places behind a mark, and the word that stands there;
* `behind_template`               the interpolations of a template, one for every brace of its path;
* `placeholdersFrom_none`         the placeholders are the words that the braces open, in order;
* `interpolates_iff`              when each interpolation of a template encloses its placeholder;
* `all_lookedUp_iff`              when each one in the route of a binding was looked up;
* `interpolations_of_template`    what the interpolations of templates and routes enclose.
-/

namespace ApiBindings.Route

/-! ## marks -/

/-- what stands behind each occurrence of a mark, from left to right -/
def behind (mark : List Char) : List Char → List (List Char)
  | [] => []
  | c :: text => (Text.afterStart? mark (c :: text)).toList ++ behind mark text

def interpolationMark : List Char := ['$', '{']

def placeholderMark : List Char := ['{']

theorem mem_behind {mark text rest : List Char} (hmark : mark ≠ []) :
    rest ∈ behind mark text ↔ ∃ before, text = before ++ (mark ++ rest) := by
  induction text with
  | nil =>
    constructor
    · intro h
      cases h
    · rintro ⟨before, h⟩
      have hnil := (List.append_eq_nil_iff.mp h.symm).2
      exact absurd (List.append_eq_nil_iff.mp hnil).1 hmark
  | cons c text ih =>
    rw [behind, List.mem_append, Option.mem_toList, Text.afterStart?_eq_some_iff, ih]
    constructor
    · rintro (h | ⟨before, rfl⟩)
      · exact ⟨[], h⟩
      · exact ⟨c :: before, rfl⟩
    · rintro ⟨before, h⟩
      cases before with
      | nil => exact .inl h
      | cons b before =>
        injection h with _ h
        exact .inr ⟨before, h⟩

theorem behind_placeholderMark_cons (c : Char) (path : List Char) :
    behind placeholderMark (c :: path) =
      (if c = '{' then [path] else []) ++ behind placeholderMark path := by
  rw [behind]
  by_cases hc : c = '{'
  · rw [if_pos hc, hc]
    rfl
  · have hnone : Text.afterStart? placeholderMark (c :: path) = none := if_neg (Ne.symm hc)
    rw [if_neg hc, hnone]
    rfl

theorem length_behind_placeholderMark (path : List Char) :
    (behind placeholderMark path).length = path.count '{' := by
  induction path with
  | nil => rfl
  | cons c path ih =>
    rw [behind_placeholderMark_cons, List.length_append, ih, List.count_cons]
    by_cases hc : c = '{'
    · simp [hc]
      omega
    · simp [hc]

theorem behind_append_slash (first last : List Char) :
    behind placeholderMark (first ++ '/' :: last) =
      (behind placeholderMark first).map (· ++ '/' :: last) ++ behind placeholderMark last := by
  induction first with
  | nil =>
    show behind placeholderMark ('/' :: last) = [] ++ behind placeholderMark last
    rw [behind_placeholderMark_cons, if_neg (by decide)]
  | cons c first ih =>
    rw [List.cons_append, behind_placeholderMark_cons, behind_placeholderMark_cons, ih]
    by_cases hc : c = '{'
    · rw [if_pos hc, if_pos hc]
      rfl
    · rw [if_neg hc, if_neg hc]
      rfl

/-- **A template has an interpolation for every brace of its path, and no other one.** -/
theorem behind_template (path : List Char) :
    behind interpolationMark (templateChars path) =
      (behind placeholderMark path).map templateChars := by
  induction path with
  | nil => rfl
  | cons c path ih =>
    rw [templateChars_cons, behind_placeholderMark_cons, List.map_append, ← ih]
    by_cases hc : c = '{'
    · rw [if_pos hc, if_pos hc, List.cons_append, behind, List.singleton_append, behind]
      rfl
    · -- a dollar sign of the path itself has no brace behind it
      have hnone : Text.afterStart? interpolationMark (c :: templateChars path) = none := by
        refine Option.eq_none_iff_forall_ne_some.mpr fun rest hrest => ?_
        have heq := Text.afterStart?_eq_some_iff.mp hrest
        injection heq with _ heq
        exact templateChars_ne_brace path rest heq
      rw [if_neg hc, if_neg hc, List.singleton_append, behind, hnone]
      rfl

/-! ## words in braces -/

/-- a word stands here, with a closing brace behind it -/
def Encloses (rest name : List Char) : Prop :=
  name ≠ [] ∧ (∀ c ∈ name, Text.isWordChar c = true) ∧ ∃ after, rest = name ++ '}' :: after

/-- The word that stands here in front of a closing brace; `begun` is what was read of it already,
in reverse. -/
def enclosed? (begun : List Char) : List Char → Option (List Char)
  | [] => none
  | c :: rest =>
    if c = '}' then if begun.isEmpty then none else some begun.reverse
    else if Text.isWordChar c then enclosed? (c :: begun) rest
    else none

theorem enclosed?_eq_some {begun rest name : List Char} :
    enclosed? begun rest = some name ↔ ∃ word after, rest = word ++ '}' :: after ∧
      (∀ c ∈ word, Text.isWordChar c = true) ∧ name = begun.reverse ++ word ∧ name ≠ [] := by
  induction rest generalizing begun with
  | nil =>
    constructor
    · intro h
      cases h
    · rintro ⟨word, after, h, _⟩
      cases word <;> cases h
  | cons c rest ih =>
    rw [enclosed?]
    constructor
    · intro h
      by_cases hc : c = '}'
      · rw [if_pos hc] at h
        split at h
        · cases h
        · rename_i hbegun
          cases h
          rw [List.isEmpty_iff, ← List.reverse_eq_nil_iff] at hbegun
          exact ⟨[], rest, by rw [hc]; rfl, fun c hc => absurd hc List.not_mem_nil,
            (List.append_nil _).symm, hbegun⟩
      · rw [if_neg hc] at h
        split at h
        · rename_i hword
          obtain ⟨word, after, rfl, hall, rfl, hne⟩ := ih.mp h
          refine ⟨c :: word, after, rfl, List.forall_mem_cons.mpr ⟨hword, hall⟩, ?_, hne⟩
          rw [List.reverse_cons, List.append_assoc]
          rfl
        · cases h
    · rintro ⟨word, after, heq, hall, rfl, hne⟩
      cases word with
      | nil =>
        injection heq with hc hrest
        rw [List.append_nil, Ne, List.reverse_eq_nil_iff, ← List.isEmpty_iff] at hne
        rw [if_pos hc, if_neg hne, List.append_nil]
      | cons d word =>
        injection heq with hc hrest
        obtain ⟨hword, hmore⟩ := List.forall_mem_cons.mp hall
        rw [hc, if_neg (ne_of_isWordChar hword).2, if_pos hword]
        refine ih.mpr ⟨word, after, hrest, hmore, ?_, hne⟩
        rw [List.reverse_cons, List.append_assoc]
        rfl

theorem enclosed?_eq_some_iff {rest name : List Char} :
    enclosed? [] rest = some name ↔ Encloses rest name := by
  rw [enclosed?_eq_some]
  constructor
  · rintro ⟨word, after, hrest, hall, rfl, hne⟩
    exact ⟨hne, hall, after, hrest⟩
  · rintro ⟨hne, hall, after, hrest⟩
    exact ⟨name, after, hrest, hall, rfl, hne⟩

theorem Encloses.unique {rest name name' : List Char} (h : Encloses rest name)
    (h' : Encloses rest name') : name = name' := by
  rw [← enclosed?_eq_some_iff] at h h'
  exact Option.some.inj (h.symm.trans h')

/-- a word does not go on behind a dollar sign, as it does not behind a brace -/
theorem enclosed?_template (begun rest : List Char) :
    enclosed? begun (templateChars rest) = enclosed? begun rest := by
  induction rest generalizing begun with
  | nil => rfl
  | cons c rest ih =>
    rw [templateChars_cons]
    by_cases hc : c = '{'
    · rw [if_pos hc, hc]
      rfl
    · rw [if_neg hc, List.singleton_append, enclosed?, enclosed?]
      simp only [ih]

theorem enclosed?_append_slash (begun first last : List Char) :
    enclosed? begun (first ++ '/' :: last) = enclosed? begun first := by
  induction first generalizing begun with
  | nil => rfl
  | cons c first ih =>
    rw [List.cons_append, enclosed?, enclosed?]
    simp only [ih]

/-! ## what the braces of a path open -/

def opened (path : List Char) : List (Option (List Char)) :=
  (behind placeholderMark path).map (enclosed? [])

def BracesClosed (path : List Char) : Prop :=
  ∀ before rest, path = before ++ '{' :: rest → ∃ name, Encloses rest name

theorem bracesClosed_iff {path : List Char} :
    BracesClosed path ↔ ∀ word ∈ opened path, word.isSome = true := by
  rw [opened, List.forall_mem_map]
  constructor
  · intro h rest hrest
    obtain ⟨before, hbefore⟩ := (mem_behind (List.cons_ne_nil _ _)).mp hrest
    obtain ⟨name, hname⟩ := h before rest hbefore
    rw [enclosed?_eq_some_iff.mpr hname]
    rfl
  · intro h before rest hbefore
    have hrest : rest ∈ behind placeholderMark path :=
      (mem_behind (List.cons_ne_nil _ _)).mpr ⟨before, hbefore⟩
    obtain ⟨name, hname⟩ := Option.isSome_iff_exists.mp (h rest hrest)
    exact ⟨name, enclosed?_eq_some_iff.mp hname⟩

/-- the interpolations of a template enclose what the braces of its path open -/
theorem map_enclosed?_template (path : List Char) :
    (behind interpolationMark (templateChars path)).map (enclosed? []) = opened path := by
  rw [behind_template, List.map_map, opened]
  exact List.map_congr_left fun rest _ => enclosed?_template [] rest

theorem opened_append_slash (first last : List Char) :
    opened (first ++ '/' :: last) = opened first ++ opened last := by
  rw [opened, behind_append_slash, List.map_append, List.map_map]
  congr 1
  exact List.map_congr_left fun rest _ => enclosed?_append_slash [] rest last

/-- the segment that is cut off opens its own name and nothing else -/
theorem opened_segment {name ending : List Char} (hne : name ≠ [])
    (hword : ∀ c ∈ name, Text.isWordChar c = true) (hending : IsEnding ending) :
    opened ('{' :: (name ++ '}' :: ending)) = [some name] := by
  have hplain : ∀ text : List Char, '{' ∉ text → behind placeholderMark text = [] := by
    intro text htext
    rw [← List.length_eq_zero_iff, length_behind_placeholderMark]
    exact List.count_eq_zero.mpr htext
  rw [opened, behind_placeholderMark_cons, if_pos rfl,
    hplain _ (brace_not_mem_segment hword hending), List.append_nil, List.map_singleton,
    enclosed?_eq_some_iff.mpr ⟨hne, hword, ending, rfl⟩]

/-- inside a brace the scan has only the word more to read than outside of it -/
theorem placeholdersFrom_some (begun path : List Char) :
    placeholdersFrom (some begun) path =
      (enclosed? begun path).toList ++ placeholdersFrom none path := by
  induction path generalizing begun with
  | nil => rfl
  | cons c path ih =>
    by_cases hopen : c = '{'
    · rw [hopen]
      rfl
    · rw [placeholdersFrom, if_neg hopen, enclosed?, placeholdersFrom, if_neg hopen]
      by_cases hclose : c = '}'
      · rw [if_pos hclose, if_pos hclose]
        split <;> rfl
      · rw [if_neg hclose, if_neg hclose]
        split
        · exact ih _
        · rfl

/-- **The placeholders of a path are the words that its braces open, from left to right.** -/
theorem placeholdersFrom_none (path : List Char) :
    placeholdersFrom none path = (opened path).filterMap id := by
  induction path with
  | nil => rfl
  | cons c path ih =>
    rw [placeholdersFrom, opened, behind_placeholderMark_cons, List.map_append,
      List.filterMap_append]
    by_cases hc : c = '{'
    · rw [if_pos hc, if_pos hc, placeholdersFrom_some, ih, List.map_singleton]
      cases enclosed? [] path <;> rfl
    · rw [if_neg hc, if_neg hc]
      exact ih

/-! ## templates and their placeholders -/

/-- the interpolations of a text enclose these names, one each and in order, and there are no
others -/
def Interpolates (text : String) (names : List String) : Prop :=
  List.Forall₂ (fun rest name => Encloses rest name.toList) (behind interpolationMark text.toList)
    names

/-- the interpolations of a template that enclose words enclose the placeholders of its path -/
theorem placeholders_eq_enclosed (path : String) : placeholders path =
    ((behind interpolationMark (template path).toList).filterMap (enclosed? [])).map
      String.ofList := by
  rw [placeholders, placeholdersFrom_none, template, String.toList_ofList,
    ← map_enclosed?_template, List.filterMap_map]
  rfl

theorem mem_placeholders_iff {path name : String} : name ∈ placeholders path ↔
    ∃ rest ∈ behind interpolationMark (template path).toList, Encloses rest name.toList := by
  rw [placeholders_eq_enclosed, List.mem_map]
  simp only [List.mem_filterMap, enclosed?_eq_some_iff]
  constructor
  · rintro ⟨word, ⟨rest, hrest, hword⟩, rfl⟩
    rw [String.toList_ofList]
    exact ⟨rest, hrest, hword⟩
  · rintro ⟨rest, hrest, hname⟩
    exact ⟨name.toList, ⟨rest, hrest, hname⟩, String.ofList_toList⟩

theorem bracesClosed_iff_template {path : String} : BracesClosed path.toList ↔
    ∀ rest ∈ behind interpolationMark (template path).toList, ∃ name, Encloses rest name := by
  rw [bracesClosed_iff, ← map_enclosed?_template, List.forall_mem_map, template,
    String.toList_ofList]
  refine forall₂_congr fun rest _ => ?_
  rw [Option.isSome_iff_exists]
  exact exists_congr fun name => enclosed?_eq_some_iff

theorem forall₂_filterMap_iff {places : List (List Char)} :
    List.Forall₂ (fun rest name => Encloses rest name.toList) places
        ((places.filterMap (enclosed? [])).map String.ofList) ↔
      ∀ rest ∈ places, ∃ name, Encloses rest name := by
  constructor
  · intro h
    generalize (places.filterMap (enclosed? [])).map String.ofList = names at h
    induction h with
    | nil =>
      intro rest hrest
      cases hrest
    | cons hname _ ih => exact List.forall_mem_cons.mpr ⟨⟨_, hname⟩, ih⟩
  · intro h
    induction places with
    | nil => exact .nil
    | cons rest places ih =>
      obtain ⟨⟨name, hname⟩, hmore⟩ := List.forall_mem_cons.mp h
      rw [List.filterMap_cons_some (enclosed?_eq_some_iff.mpr hname), List.map_cons]
      refine .cons ?_ (ih hmore)
      rw [String.toList_ofList]
      exact hname

/-- **The interpolations of a template are its placeholders if and only if every brace of the path
opens one.** -/
theorem interpolates_iff (path : String) :
    Interpolates (template path) (placeholders path) ↔ BracesClosed path.toList := by
  rw [Interpolates, placeholders_eq_enclosed, forall₂_filterMap_iff, bracesClosed_iff_template]

end ApiBindings.Route

namespace ApiBindings

open Route

/-! ## routes of bindings -/

/-- the route is the template of the path or of its beginning, in which braces that open nothing are
kept -/
theorem Endpoint.exists_kept (e : Endpoint) : ∃ kept, e.split.1 = template kept ∧
    (BracesClosed kept.toList ↔ BracesClosed e.path.toList) := by
  unfold split
  split
  · dsimp only
    split
    · rename_i before name htrailing
      rw [template, String.toList_ofList] at htrailing
      obtain ⟨first, ending, hending, hpath, rfl, hne, hword⟩ := exists_trailing htrailing
      refine ⟨String.ofList first, ?_, ?_⟩
      · rw [template, String.toList_ofList]
      · rw [bracesClosed_iff, bracesClosed_iff, hpath, opened_append_slash,
          opened_segment hne hword hending, List.forall_mem_append, List.forall_mem_singleton,
          String.toList_ofList]
        exact (and_iff_left rfl).symm
    · exact ⟨e.path, rfl, Iff.rfl⟩
  · exact ⟨e.path, rfl, Iff.rfl⟩

section
variable {d : Description} {e : Endpoint} {seen : List String} {b : Binding}

/-- the words that are enclosed in a route are its placeholders -/
theorem mem_placeholders_route (h : d.bind e seen = .ok b) {name : String} :
    name ∈ placeholders b.route ↔
      ∃ rest ∈ behind interpolationMark b.route.toList, Encloses rest name.toList := by
  obtain ⟨_, hbuilt⟩ := Description.bind_eq_ok_iff_parts.mp h
  obtain ⟨kept, hroute, _⟩ := e.exists_kept
  rw [hbuilt.route, hroute, placeholders_template]
  exact mem_placeholders_iff

theorem bracesClosed_route_iff (h : d.bind e seen = .ok b) : BracesClosed e.path.toList ↔
    ∀ rest ∈ behind interpolationMark b.route.toList, ∃ name, Encloses rest name := by
  obtain ⟨_, hbuilt⟩ := Description.bind_eq_ok_iff_parts.mp h
  obtain ⟨kept, hroute, hclosed⟩ := e.exists_kept
  rw [← hclosed, bracesClosed_iff_template, hbuilt.route, hroute]

/-- a word that is enclosed was looked up or is the name that was cut off -/
theorem lookedUp_of_encloses (h : d.bind e seen = .ok b) {rest name : List Char}
    (hrest : rest ∈ behind interpolationMark b.route.toList) (hname : Encloses rest name) :
    String.ofList name ∈ b.pathParameters.map BindingParameter.name ∨
      ∃ t ∈ b.trailing, t.name = String.ofList name := by
  have hmem : String.ofList name ∈ placeholders b.route :=
    (mem_placeholders_route h).mpr ⟨rest, hrest, by rwa [String.toList_ofList]⟩
  by_cases htrailing : ∃ t ∈ b.trailing, t.name = String.ofList name
  · exact .inr htrailing
  · exact .inl ((mem_pathParameters_iff h).mpr ⟨hmem, fun t ht heq => htrailing ⟨t, ht, heq⟩⟩)

/-- **Every interpolation of a route encloses a name that was looked up if and only if each brace of
the path opens a placeholder and the name that was cut off does not stand in the route.** -/
theorem all_lookedUp_iff (h : d.bind e seen = .ok b) :
    (∀ rest ∈ behind interpolationMark b.route.toList,
        ∃ p ∈ b.pathParameters, Encloses rest p.name.toList) ↔
      BracesClosed e.path.toList ∧ ∀ t ∈ b.trailing, t.name ∉ placeholders b.route := by
  rw [bracesClosed_route_iff h]
  constructor
  · intro hall
    refine ⟨fun rest hrest => ?_, fun t ht hmem => ?_⟩
    · obtain ⟨p, _, hp⟩ := hall rest hrest
      exact ⟨_, hp⟩
    · -- where the name stands in the route, nothing else was looked up for it
      obtain ⟨rest, hrest, hname⟩ := (mem_placeholders_route h).mp hmem
      obtain ⟨p, hpath, hp⟩ := hall rest hrest
      have hsame : t.name = p.name := String.toList_inj.mp (hname.unique hp)
      have hlooked := (mem_pathParameters_iff h).mp (List.mem_map_of_mem hpath)
      exact hlooked.2 t ht hsame
  · rintro ⟨hnamed, hcut⟩ rest hrest
    obtain ⟨name, hname⟩ := hnamed rest hrest
    rcases lookedUp_of_encloses h hrest hname with hmem | ⟨t, ht, heq⟩
    · obtain ⟨p, hpath, hp⟩ := List.mem_map.mp hmem
      exact ⟨p, hpath, by rwa [hp, String.toList_ofList]⟩
    · have hword : Encloses rest t.name.toList := by rwa [heq, String.toList_ofList]
      exact absurd ((mem_placeholders_route h).mpr ⟨rest, hrest, hword⟩) (hcut t ht)

end

/-- **A template has as many interpolations as its path has braces.**  Those that enclose words
enclose the placeholders of the path, in order; there are no others if and only if every brace of
the path opens a placeholder.  In the route of a binding, a word that is enclosed was looked up
unless it is the name that was cut off; so every interpolation encloses a name that was looked up if
and only if every brace of the path opens one and the name that was cut off does not stand in the
route. -/
theorem interpolations_of_template (path : String) :
    (behind interpolationMark (template path).toList).length = path.toList.count '{' ∧
      placeholders path =
        ((behind interpolationMark (template path).toList).filterMap (enclosed? [])).map
          String.ofList ∧
      (Interpolates (template path) (placeholders path) ↔ BracesClosed path.toList) ∧
      ∀ (d : Description) (e : Endpoint) (seen : List String) (b : Binding), e.path = path →
        d.bind e seen = .ok b →
          (∀ rest ∈ behind interpolationMark b.route.toList, ∀ name, Encloses rest name →
            String.ofList name ∈ b.pathParameters.map BindingParameter.name ∨
              ∃ t ∈ b.trailing, t.name = String.ofList name) ∧
          ((∀ rest ∈ behind interpolationMark b.route.toList,
              ∃ p ∈ b.pathParameters, Encloses rest p.name.toList) ↔
            BracesClosed path.toList ∧ ∀ t ∈ b.trailing, t.name ∉ placeholders b.route) := by
  refine ⟨?_, placeholders_eq_enclosed path, interpolates_iff path, ?_⟩
  · rw [template, String.toList_ofList, behind_template, List.length_map,
      length_behind_placeholderMark]
  · rintro d e seen b rfl h
    exact ⟨fun rest hrest name => lookedUp_of_encloses h hrest, all_lookedUp_iff h⟩

/-- an operation at a path whose placeholder has a dash in its name -/
def dashedPlaceholder : Endpoint where
  path := "/pets/\x7bpet-id\x7d"
  method := .get
  operation :=
    { operationId := .value "getPet"
      summary := .absent
      description := .absent
      parameters := .value [.inline ⟨"pet-id", "path", .absent, .value true, .absent, []⟩]
      requestBody := .absent
      responses := some []
      extras := [] }
  shared := .absent

/-- the name with the dash is not looked up, though it is declared, but stands in the route -/
theorem interpolations_of_dashedPlaceholder :
    placeholders dashedPlaceholder.path = [] ∧
      (behind interpolationMark (template dashedPlaceholder.path).toList).length = 1 ∧
      ¬ Interpolates (template dashedPlaceholder.path) (placeholders dashedPlaceholder.path) ∧
      ∃ b, bareDescription.bind dashedPlaceholder [] = .ok b ∧
        b.route = "/pets/$\x7bpet-id\x7d" ∧ b.pathParameters = [] ∧
        ¬ ∀ rest ∈ behind interpolationMark b.route.toList,
          ∃ p ∈ b.pathParameters, Encloses rest p.name.toList := by
  obtain ⟨hcount, hplaceholders, hagree, hbound⟩ :=
    interpolations_of_template dashedPlaceholder.path
  have hnot : ¬ BracesClosed dashedPlaceholder.path.toList := by
    rw [bracesClosed_iff]
    decide +kernel
  have h : bareDescription.bind dashedPlaceholder [] = .ok
      { operationId := "getPet", name := "GetPet", method := "get",
        route := "/pets/$\x7bpet-id\x7d", pathParameters := [], queryParameters := [],
        responseType := "void", errorType := "unknown", bodyType := none, summary := none,
        description := none, trailing := none, responseDeclaration := none, polling := false } :=
    toOption_eq_some.mp (by decide +kernel)
  refine ⟨?_, ?_, fun h => hnot (hagree.mp h), _, h, rfl, rfl, fun hall => ?_⟩
  · rw [hplaceholders]
    decide +kernel
  · rw [hcount]
    decide +kernel
  · exact hnot ((hbound _ _ _ _ rfl h).2.mp hall).1

end ApiBindings
