import ApiBindings.Route

/-!
# Placeholders of paths and routes

A path and its template are looked through by two scans of their own.  They see the same
placeholders, and the end of a template that is cut off is one placeholder of the path.

* `placeholders_template`          a template has the placeholders of its path;
* `exists_trailing`                a template that ends with an interpolated segment is that of a
                                   path which ends with the placeholder;
* `placeholders_of_trailing`       so what is cut off is the last placeholder.
-/

namespace ApiBindings.Route

/-! ## templates -/

theorem templateChars_cons (c : Char) (path : List Char) :
    templateChars (c :: path) = (if c = '{' then ['$', '{'] else [c]) ++ templateChars path := by
  rw [templateChars, List.flatMap_cons]
  rfl

/-- the dollar sign only ends a name that is no word, as the brace behind it does -/
theorem placeholdersFrom_template (name : Option (List Char)) (path : List Char) :
    placeholdersFrom name (templateChars path) = placeholdersFrom name path := by
  induction path generalizing name with
  | nil => rfl
  | cons c path ih =>
    rw [templateChars_cons]
    by_cases hc : c = '{'
    · rw [if_pos hc, hc]
      cases name with
      | none =>
        show placeholdersFrom (some []) (templateChars path) = placeholdersFrom (some []) path
        exact ih _
      | some name =>
        show placeholdersFrom (some []) (templateChars path) = placeholdersFrom (some []) path
        exact ih _
    · rw [if_neg hc, List.singleton_append]
      cases name with
      | none => rw [placeholdersFrom, placeholdersFrom, ih]
      | some name =>
        rw [placeholdersFrom, placeholdersFrom]
        simp only [ih]

theorem placeholders_template (path : String) :
    placeholders (template path) = placeholders path := by
  rw [placeholders, template, String.toList_ofList, placeholdersFrom_template]
  rfl

/-- a template begins with no brace, for a dollar sign stands before each -/
theorem templateChars_ne_brace (path rest : List Char) : templateChars path ≠ '{' :: rest := by
  cases path with
  | nil =>
    intro h
    cases h
  | cons c path =>
    rw [templateChars_cons]
    by_cases hc : c = '{'
    · rw [if_pos hc]
      intro h
      cases h
    · rw [if_neg hc]
      intro h
      cases h
      exact hc rfl

theorem eq_brace_of_templateChars {path rest : List Char}
    (h : templateChars path = '$' :: '{' :: rest) :
    ∃ path', path = '{' :: path' ∧ rest = templateChars path' := by
  cases path with
  | nil => cases h
  | cons c path =>
    rw [templateChars_cons] at h
    by_cases hc : c = '{'
    · rw [if_pos hc] at h
      injection h with _ h
      injection h with _ h
      exact ⟨path, by rw [hc], h.symm⟩
    · rw [if_neg hc] at h
      injection h with _ h
      exact absurd h (templateChars_ne_brace path rest)

/-- an interpolation at the beginning of a segment is a placeholder there -/
theorem exists_segment {path before rest : List Char}
    (h : templateChars path = before ++ '/' :: '$' :: '{' :: rest) :
    ∃ first last, path = first ++ '/' :: '{' :: last ∧ before = templateChars first ∧
      rest = templateChars last := by
  induction path generalizing before with
  | nil => cases before <;> cases h
  | cons c path ih =>
    rw [templateChars_cons] at h
    by_cases hc : c = '{'
    · rw [if_pos hc] at h
      match before with
      | [] => cases h
      | [_] => cases h
      | a :: b :: before =>
        injection h with ha h
        injection h with hb h
        obtain ⟨first, last, rfl, rfl, rfl⟩ := ih h
        refine ⟨c :: first, last, rfl, ?_, rfl⟩
        rw [templateChars_cons, if_pos hc, ← ha, ← hb]
        rfl
    · rw [if_neg hc] at h
      cases before with
      | nil =>
        injection h with hslash h
        obtain ⟨last, rfl, rfl⟩ := eq_brace_of_templateChars h
        exact ⟨[], last, by rw [hslash]; rfl, rfl, rfl⟩
      | cons a before =>
        injection h with ha h
        obtain ⟨first, last, rfl, rfl, rfl⟩ := ih h
        refine ⟨c :: first, last, rfl, ?_, rfl⟩
        rw [templateChars_cons, if_neg hc, ← ha]
        rfl

/-- without a brace there is nothing to change -/
theorem templateChars_of_not_mem {path : List Char} (h : '{' ∉ path) :
    templateChars path = path := by
  induction path with
  | nil => rfl
  | cons c path ih =>
    have hc : c ≠ '{' := fun hc => h (by rw [hc]; exact List.mem_cons_self)
    rw [templateChars_cons, if_neg hc, ih fun hmem => h (List.mem_cons_of_mem _ hmem)]
    rfl

theorem not_mem_of_templateChars {path : List Char} (h : '{' ∉ templateChars path) :
    '{' ∉ path := by
  intro hmem
  refine h (List.mem_flatMap.mpr ⟨'{', hmem, ?_⟩)
  rw [if_pos rfl]
  exact List.mem_cons_of_mem _ List.mem_cons_self

/-! ## the end of a template -/

/-- the line feed at the end that does not count, if there is one -/
def IsEnding (ending : List Char) : Prop := ending = [] ∨ ending = ['\n']

/-- a reversed route without the line feed that does not count -/
def dropEnding : List Char → List Char
  | '\n' :: rest => rest
  | rest => rest

theorem exists_ending (reversed : List Char) :
    ∃ ending, IsEnding ending ∧ reversed = ending ++ dropEnding reversed := by
  unfold dropEnding
  split
  · exact ⟨['\n'], .inr rfl, rfl⟩
  · exact ⟨[], .inl rfl, rfl⟩

theorem IsEnding.reverse_eq {ending : List Char} (h : IsEnding ending) :
    ending.reverse = ending := by
  rcases h with rfl | rfl <;> rfl

theorem takeWhile_append_drop {α : Type} (p : α → Bool) (s : List α) :
    s.takeWhile p ++ s.drop (s.takeWhile p).length = s := by
  induction s with
  | nil => rfl
  | cons a s ih =>
    cases ha : p a with
    | true =>
      rw [List.takeWhile_cons_of_pos ha, List.length_cons, List.drop_succ_cons, List.cons_append,
        ih]
    | false =>
      rw [List.takeWhile_cons_of_neg (by rw [ha]; decide)]
      rfl

/-- the end of a route that is read backwards -/
def splitReversed? : List Char → Option (List Char × List Char)
  | '}' :: rest =>
    let name := rest.takeWhile Text.isWordChar
    if name.isEmpty then none
    else match rest.drop name.length with
      | '{' :: '$' :: '/' :: before => some (before.reverse, name.reverse)
      | _ => none
  | _ => none

theorem splitTrailing?_eq (route : List Char) :
    splitTrailing? route = splitReversed? (dropEnding route.reverse) := rfl

theorem splitReversed?_eq_some {reversed before name : List Char}
    (h : splitReversed? reversed = some (before, name)) :
    name ≠ [] ∧ (∀ c ∈ name, Text.isWordChar c = true) ∧
      reversed = '}' :: (name.reverse ++ '{' :: '$' :: '/' :: before.reverse) := by
  unfold splitReversed? at h
  split at h
  · rename_i rest
    dsimp only at h
    split at h
    · cases h
    · rename_i hne
      split at h
      · rename_i hdrop
        have hrest := takeWhile_append_drop Text.isWordChar rest
        rw [hdrop] at hrest
        cases h
        refine ⟨?_, ?_, ?_⟩
        · rw [Ne, List.reverse_eq_nil_iff, ← List.isEmpty_iff]
          exact hne
        · intro c hc
          exact List.all_eq_true.mp List.all_takeWhile c (List.mem_reverse.mp hc)
        · rw [List.reverse_reverse, List.reverse_reverse, hrest]
      · cases h
  · cases h

theorem splitTrailing?_eq_some {route before name : List Char}
    (h : splitTrailing? route = some (before, name)) :
    name ≠ [] ∧ (∀ c ∈ name, Text.isWordChar c = true) ∧ ∃ ending, IsEnding ending ∧
      route = before ++ '/' :: '$' :: '{' :: (name ++ '}' :: ending) := by
  rw [splitTrailing?_eq] at h
  obtain ⟨hne, hword, hreversed⟩ := splitReversed?_eq_some h
  obtain ⟨ending, hending, hroute⟩ := exists_ending route.reverse
  refine ⟨hne, hword, ending, hending, ?_⟩
  rw [hreversed] at hroute
  rw [← List.reverse_inj, hroute]
  simp [hending.reverse_eq]

/-! ## placeholders segment by segment -/

/-- a slash ends whatever was begun -/
theorem placeholdersFrom_slash (name : Option (List Char)) (first last : List Char) :
    placeholdersFrom name (first ++ '/' :: last) =
      placeholdersFrom name first ++ placeholdersFrom none last := by
  induction first generalizing name with
  | nil =>
    cases name with
    | none => rfl
    | some name =>
      have hslash : Text.isWordChar '/' = false := by decide
      rw [List.nil_append, placeholdersFrom]
      simp [hslash, placeholdersFrom]
  | cons c first ih =>
    cases name with
    | none => rw [List.cons_append, placeholdersFrom, placeholdersFrom, ih]
    | some name =>
      rw [List.cons_append, placeholdersFrom, placeholdersFrom]
      simp only [ih]
      split
      · rfl
      · split
        · split
          · rfl
          · rfl
        · split
          · rfl
          · rfl

theorem ne_of_isWordChar {c : Char} (h : Text.isWordChar c = true) : c ≠ '{' ∧ c ≠ '}' := by
  constructor
  · rintro rfl
    exact absurd h (by decide)
  · rintro rfl
    exact absurd h (by decide)

theorem placeholdersFrom_word {word : List Char} (hword : ∀ c ∈ word, Text.isWordChar c = true)
    (name rest : List Char) :
    placeholdersFrom (some name) (word ++ rest) =
      placeholdersFrom (some (word.reverse ++ name)) rest := by
  induction word generalizing name with
  | nil => rfl
  | cons c word ih =>
    have hc := hword c List.mem_cons_self
    obtain ⟨hopen, hclose⟩ := ne_of_isWordChar hc
    rw [List.cons_append, placeholdersFrom, if_neg hopen, if_neg hclose, if_pos hc,
      ih fun d hd => hword d (List.mem_cons_of_mem _ hd), List.reverse_cons, List.append_assoc]
    rfl

/-- the names of placeholders are words -/
theorem isWordChar_of_mem_placeholdersFrom {begun : Option (List Char)} {path : List Char}
    (hbegun : ∀ name ∈ begun, ∀ c ∈ name, Text.isWordChar c = true) :
    ∀ name ∈ placeholdersFrom begun path, ∀ c ∈ name, Text.isWordChar c = true := by
  have hnone : ∀ name ∈ (none : Option (List Char)), ∀ c ∈ name, Text.isWordChar c = true := by
    intro name hname
    cases hname
  have hempty : ∀ name ∈ some ([] : List Char), ∀ c ∈ name, Text.isWordChar c = true := by
    intro name hname c hc
    cases hname
    cases hc
  induction path generalizing begun with
  | nil =>
    intro name hname
    cases begun <;> cases hname
  | cons c path ih =>
    cases begun with
    | none =>
      rw [placeholdersFrom]
      split
      · exact ih hempty
      · exact ih hnone
    | some word =>
      have hword := hbegun word rfl
      rw [placeholdersFrom]
      split
      · exact ih hempty
      · split
        · split
          · exact ih hnone
          · intro name hname
            rcases List.mem_cons.mp hname with rfl | hname
            · exact fun d hd => hword d (List.mem_reverse.mp hd)
            · exact ih hnone name hname
        · split
          · rename_i hc
            refine ih fun name hname d hd => ?_
            cases hname
            rcases List.mem_cons.mp hd with rfl | hd
            · exact hc
            · exact hword d hd
          · exact ih hnone

theorem isWordChar_of_mem_placeholders {path name : String} (h : name ∈ placeholders path) :
    ∀ c ∈ name.toList, Text.isWordChar c = true := by
  obtain ⟨word, hword, rfl⟩ := List.mem_map.mp h
  rw [String.toList_ofList]
  refine isWordChar_of_mem_placeholdersFrom ?_ word hword
  intro begun hbegun
  cases hbegun

/-- behind its first brace a segment that is a placeholder has no other one -/
theorem brace_not_mem_segment {name ending : List Char}
    (hword : ∀ c ∈ name, Text.isWordChar c = true) (hending : IsEnding ending) :
    '{' ∉ name ++ '}' :: ending := by
  rw [List.mem_append, List.mem_cons]
  rintro (hmem | hmem | hmem)
  · exact (ne_of_isWordChar (hword _ hmem)).1 rfl
  · exact absurd hmem (by decide)
  · rcases hending with rfl | rfl <;> exact absurd hmem (by decide)

/-- a word in braces adds its name to the placeholders behind it -/
theorem placeholdersFrom_braces {name : List Char} (hne : name ≠ [])
    (hword : ∀ c ∈ name, Text.isWordChar c = true) (rest : List Char) :
    placeholdersFrom none ('{' :: (name ++ '}' :: rest)) =
      name :: placeholdersFrom none rest := by
  have hempty : name.reverse.isEmpty = false := by
    rw [List.isEmpty_eq_false_iff, Ne, List.reverse_eq_nil_iff]
    exact hne
  rw [placeholdersFrom, if_pos rfl, placeholdersFrom_word hword, List.append_nil,
    placeholdersFrom, if_neg (by decide), if_pos rfl, hempty, List.reverse_reverse]
  rfl

/-- a segment that is a placeholder adds its name -/
theorem placeholdersFrom_segment {name ending : List Char} (hne : name ≠ [])
    (hword : ∀ c ∈ name, Text.isWordChar c = true) (hending : IsEnding ending) :
    placeholdersFrom none ('{' :: (name ++ '}' :: ending)) = [name] := by
  have hrest : placeholdersFrom none ending = [] := by
    rcases hending with rfl | rfl <;> rfl
  rw [placeholdersFrom_braces hne hword, hrest]

/-- **If a template ends with an interpolated segment, its path ends with that placeholder.** -/
theorem exists_trailing {path before name : List Char}
    (h : splitTrailing? (templateChars path) = some (before, name)) :
    ∃ first ending, IsEnding ending ∧ path = first ++ '/' :: '{' :: (name ++ '}' :: ending) ∧
      before = templateChars first ∧ name ≠ [] ∧ ∀ c ∈ name, Text.isWordChar c = true := by
  obtain ⟨hne, hword, ending, hending, htemplate⟩ := splitTrailing?_eq_some h
  obtain ⟨first, last, hpath, hbefore, hlast⟩ := exists_segment htemplate
  have hplain : '{' ∉ templateChars last := hlast ▸ brace_not_mem_segment hword hending
  rw [templateChars_of_not_mem (not_mem_of_templateChars hplain)] at hlast
  refine ⟨first, ending, hending, ?_, hbefore, hne, hword⟩
  rw [hpath, ← hlast]

/-- what is cut off a template is the last placeholder of the path -/
theorem placeholders_of_trailing {path : String} {before name : List Char}
    (h : splitTrailing? (template path).toList = some (before, name)) :
    placeholders path = placeholders (String.ofList before) ++ [String.ofList name] := by
  rw [template, String.toList_ofList] at h
  obtain ⟨first, ending, hending, hpath, rfl, hne, hword⟩ := exists_trailing h
  rw [placeholders, placeholders, hpath, placeholdersFrom_slash, String.toList_ofList,
    placeholdersFrom_template, placeholdersFrom_segment hne hword hending, List.map_append]
  rfl

end ApiBindings.Route
