import ApiBindings.Text.Basic

/-!
# Interpolations in templates

A template is taken apart into its interpolations and the characters between them.  No interpolation
holds a dollar sign but at its start, so two of them never overlap, and one is not made up of what
another was replaced with.

* `template_induction`       an interpolation stands in front, or none does;
* `substitute`               the variables of all interpolations exchanged at once;
* `substitute_substitute`    one exchange after another is an exchange of its own;
* `replaceAll_token`         the replacement of one interpolation is an exchange.
-/

namespace ApiBindings.Source

/-! ## interpolations -/

/-- whether a character can stand inside an interpolation -/
def isPlain (c : Char) : Bool := c != '$' && c != '}'

def Plain (name : List Char) : Prop := ∀ c ∈ name, isPlain c = true

/-- the interpolation of a variable, without the dollar sign -/
def braced (name : List Char) : List Char := '{' :: (name ++ ['}'])

def token (name : List Char) : List Char := '$' :: braced name

theorem length_braced (name : List Char) : (braced name).length = name.length + 2 := by
  simp [braced]

theorem length_token (name : List Char) : (token name).length = name.length + 3 := by
  rw [token, List.length_cons, length_braced]

theorem ne_of_isPlain {c : Char} (h : isPlain c = true) : c ≠ '$' ∧ c ≠ '}' := by
  rw [isPlain, Bool.and_eq_true, bne_iff_ne, bne_iff_ne] at h
  exact h

theorem not_mem_braced {name : List Char} (h : Plain name) : '$' ∉ braced name := by
  intro hmem
  rcases List.mem_cons.mp hmem with hmem | hmem
  · exact absurd hmem (by decide)
  · rcases List.mem_append.mp hmem with hmem | hmem
    · exact (ne_of_isPlain (h _ hmem)).1 rfl
    · exact absurd hmem (by decide)

/-- a plain name ends at the first closing brace -/
theorem takeWhile_plain {name : List Char} (h : Plain name) (rest : List Char) :
    (name ++ '}' :: rest).takeWhile isPlain = name := by
  have hclose : isPlain '}' = false := by decide
  rw [List.takeWhile_append_of_pos h, List.takeWhile_cons, hclose, if_neg (by decide),
    List.append_nil]

/-- two interpolations at the same place are the same one -/
theorem eq_of_token_start {name other rest : List Char} (h : Plain name) (h' : Plain other)
    (hstart : token name <+: token other ++ rest) : name = other := by
  obtain ⟨after, hafter⟩ := hstart
  simp only [token, braced, List.cons_append, List.append_assoc, List.nil_append,
    List.cons.injEq, true_and] at hafter
  rw [← takeWhile_plain h after, hafter, takeWhile_plain h' rest]

/-! ## parts -/

/-- a part of a template: a character, or an interpolated variable -/
inductive TemplatePart where
  | text (c : Char)
  | slot (name : List Char)

namespace TemplatePart

def chars : TemplatePart → List Char
  | text c => [c]
  | slot name => token name

/-- the part with another variable -/
def rename (σ : List Char → List Char) : TemplatePart → TemplatePart
  | text c => text c
  | slot name => slot (σ name)

end TemplatePart

open TemplatePart (text slot)

def ofParts (ps : List TemplatePart) : List Char := ps.flatMap TemplatePart.chars

/-- the name of the interpolation that goes on behind a dollar sign -/
def slotName? : List Char → Option (List Char)
  | '{' :: rest =>
    match rest.drop (rest.takeWhile isPlain).length with
    | '}' :: _ => some (rest.takeWhile isPlain)
    | _ => none
  | _ => none

/-- The parts of a template.  What stands in an interpolation is taken apart as well, and then
dropped. -/
def parts : List Char → List TemplatePart
  | [] => []
  | c :: cs =>
    if c = '$' then
      match slotName? cs with
      | some name => slot name :: (parts cs).drop (name.length + 2)
      | none => text c :: parts cs
    else text c :: parts cs

theorem slotName?_braced {name : List Char} (h : Plain name) (rest : List Char) :
    slotName? (braced name ++ rest) = some name := by
  have hshape : braced name ++ rest = '{' :: (name ++ '}' :: rest) := by
    simp [braced]
  rw [hshape, slotName?, takeWhile_plain h, List.drop_left]
  rfl

theorem slotName?_eq_some {cs name : List Char} (h : slotName? cs = some name) :
    Plain name ∧ braced name <+: cs := by
  unfold slotName? at h
  split at h
  · rename_i rest
    split at h
    · rename_i after hdrop
      have hrest : rest.takeWhile isPlain ++ rest.drop (rest.takeWhile isPlain).length = rest :=
        List.prefix_iff_eq_append.mp (List.takeWhile_prefix isPlain)
      cases h
      refine ⟨fun c hc => List.all_eq_true.mp List.all_takeWhile c hc, after, ?_⟩
      rw [hdrop] at hrest
      simpa [braced] using hrest
    · cases h
  · cases h

theorem parts_of_plain {plain : List Char} (h : '$' ∉ plain) (rest : List Char) :
    parts (plain ++ rest) = plain.map text ++ parts rest := by
  induction plain with
  | nil => rfl
  | cons c plain ih =>
    rw [List.mem_cons, not_or] at h
    rw [List.cons_append, parts, if_neg (Ne.symm h.1), ih h.2]
    rfl

theorem parts_token {name : List Char} (h : Plain name) (rest : List Char) :
    parts (token name ++ rest) = slot name :: parts rest := by
  have hlength : (braced name).length = ((braced name).map text).length := by
    rw [List.length_map]
  rw [token, List.cons_append, parts, if_pos rfl, slotName?_braced h]
  show slot name :: (parts (braced name ++ rest)).drop (name.length + 2) = _
  rw [parts_of_plain (not_mem_braced h), ← length_braced, hlength, List.drop_left]

/-- no interpolation begins here -/
def NoToken (s : List Char) : Prop := ∀ name, Plain name → ¬ token name <+: s

theorem parts_cons {c : Char} {rest : List Char} (h : NoToken (c :: rest)) :
    parts (c :: rest) = text c :: parts rest := by
  rw [parts]
  split
  · rename_i hc
    split
    · rename_i name hname
      obtain ⟨hplain, hstart⟩ := slotName?_eq_some hname
      refine absurd ?_ (h name hplain)
      rw [hc, token]
      exact List.cons_prefix_cons.mpr ⟨rfl, hstart⟩
    · rfl
  · rfl

/-- An induction along the parts of a template. -/
theorem template_induction {P : List Char → Prop} (nil : P [])
    (slot : ∀ name rest, Plain name → P rest → P (token name ++ rest))
    (text : ∀ c rest, NoToken (c :: rest) → P rest → P (c :: rest)) : ∀ s, P s
  | [] => nil
  | c :: cs => by
    by_cases h : ∃ name, Plain name ∧ token name <+: c :: cs
    · obtain ⟨name, hname, rest, hrest⟩ := h
      have hshorter : rest.length < (c :: cs).length := by
        rw [← hrest, List.length_append, length_token]
        omega
      rw [← hrest]
      exact slot name rest hname (template_induction nil slot text rest)
    · have hno : NoToken (c :: cs) := fun name hname hstart => h ⟨name, hname, hstart⟩
      exact text c cs hno (template_induction nil slot text cs)
termination_by s => s.length
decreasing_by
  · exact hshorter
  · exact Nat.lt_succ_self cs.length

/-! ## exchanging variables -/

/-- the template with other variables, all exchanged at once -/
def substitute (σ : List Char → List Char) (s : List Char) : List Char :=
  ofParts ((parts s).map (TemplatePart.rename σ))

section
variable {σ τ : List Char → List Char}

theorem substitute_token (σ : List Char → List Char) {name : List Char} (h : Plain name)
    (rest : List Char) :
    substitute σ (token name ++ rest) = token (σ name) ++ substitute σ rest := by
  rw [substitute, parts_token h]
  rfl

theorem substitute_cons (σ : List Char → List Char) {c : Char} {rest : List Char}
    (h : NoToken (c :: rest)) : substitute σ (c :: rest) = c :: substitute σ rest := by
  rw [substitute, parts_cons h]
  rfl

/-- an exchange does not touch what stands in front of the first dollar sign -/
theorem prefix_substitute {plain : List Char} (h : '$' ∉ plain) (s : List Char) :
    plain <+: substitute σ s ↔ plain <+: s := by
  induction s using template_induction generalizing plain with
  | nil => exact Iff.rfl
  | slot name rest hname _ =>
    rw [substitute_token σ hname]
    cases plain with
    | nil => simp
    | cons c plain =>
      have hc : c ≠ '$' := fun heq => h (heq ▸ List.mem_cons_self)
      simp [token, List.cons_prefix_cons, hc]
  | text c rest hno ih =>
    rw [substitute_cons σ hno]
    cases plain with
    | nil => simp
    | cons d plain =>
      rw [List.cons_prefix_cons, List.cons_prefix_cons,
        ih fun hmem => h (List.mem_cons_of_mem d hmem)]

/-- the same in front of a dollar sign that is added behind -/
theorem prefix_append_dollar {plain : List Char} (h : '$' ∉ plain) (s rest : List Char) :
    plain <+: s ++ '$' :: rest ↔ plain <+: s := by
  induction s generalizing plain with
  | nil =>
    cases plain with
    | nil => simp
    | cons c plain =>
      have hc : c ≠ '$' := fun heq => h (heq ▸ List.mem_cons_self)
      simp [List.cons_prefix_cons, hc]
  | cons d s ih =>
    cases plain with
    | nil => simp
    | cons c plain =>
      rw [List.cons_append, List.cons_prefix_cons, List.cons_prefix_cons,
        ih fun hmem => h (List.mem_cons_of_mem c hmem)]

/-- whether an interpolation begins is seen from what stands in front of the next dollar sign -/
theorem NoToken.congr {c : Char} {s t : List Char} (h : NoToken (c :: s))
    (hst : ∀ plain, '$' ∉ plain → (plain <+: t ↔ plain <+: s)) : NoToken (c :: t) := by
  intro name hname hstart
  obtain ⟨hc, hstart⟩ := List.cons_prefix_cons.mp hstart
  have hstart := (hst _ (not_mem_braced hname)).mp hstart
  exact h name hname (List.cons_prefix_cons.mpr ⟨hc, hstart⟩)

theorem parts_substitute (hσ : ∀ name, Plain name → Plain (σ name)) (s : List Char) :
    parts (substitute σ s) = (parts s).map (TemplatePart.rename σ) := by
  induction s using template_induction with
  | nil => rfl
  | slot name rest hname ih =>
    rw [substitute_token σ hname, parts_token (hσ name hname), ih, parts_token hname]
    rfl
  | text c rest hno ih =>
    have hno' : NoToken (c :: substitute σ rest) :=
      hno.congr fun plain hplain => prefix_substitute hplain rest
    rw [substitute_cons σ hno, parts_cons hno', ih, parts_cons hno]
    rfl

/-- **One exchange after another is the exchange of both.** -/
theorem substitute_substitute (hσ : ∀ name, Plain name → Plain (σ name)) (s : List Char) :
    substitute τ (substitute σ s) = substitute (τ ∘ σ) s := by
  have hboth : ∀ part : TemplatePart, (part.rename σ).rename τ = part.rename (τ ∘ σ) := by
    intro part
    cases part <;> rfl
  rw [substitute, parts_substitute hσ, List.map_map, substitute]
  exact congrArg ofParts (List.map_congr_left fun part _ => hboth part)

/-- an interpolation in the middle is exchanged on its own -/
theorem substitute_append_token (σ : List Char → List Char) {name : List Char} (h : Plain name)
    (before after : List Char) : substitute σ (before ++ token name ++ after) =
      substitute σ before ++ token (σ name) ++ substitute σ after := by
  induction before using template_induction with
  | nil => exact substitute_token σ h after
  | slot other rest hother ih =>
    rw [List.append_assoc, List.append_assoc, substitute_token σ hother, ← List.append_assoc, ih,
      substitute_token σ hother]
    simp only [List.append_assoc]
  | text c rest hno ih =>
    have hno' : NoToken (c :: (rest ++ token name ++ after)) := by
      refine hno.congr fun plain hplain => ?_
      rw [List.append_assoc]
      exact prefix_append_dollar hplain rest (braced name ++ after)
    rw [List.cons_append, List.cons_append, substitute_cons σ hno', ih, substitute_cons σ hno]
    rfl

/-- a template is unchanged if all of its variables are -/
theorem substitute_eq_self {s : List Char} (h : ∀ name, Plain name → ∀ before after,
    s = before ++ token name ++ after → σ name = name) : substitute σ s = s := by
  induction s using template_induction with
  | nil => rfl
  | slot name rest hname ih =>
    rw [substitute_token σ hname, h name hname [] rest rfl]
    refine congrArg (token name ++ ·) (ih ?_)
    intro other hother before after hrest
    refine h other hother (token name ++ before) after ?_
    rw [hrest]
    simp only [List.append_assoc]
  | text c rest hno ih =>
    rw [substitute_cons σ hno]
    refine congrArg (c :: ·) (ih ?_)
    intro other hother before after hrest
    exact h other hother (c :: before) after (by rw [hrest]; rfl)

end

/-! ## replacing one interpolation -/

section
variable {name new : List Char}

/-- a replacement of interpolations goes past text without a dollar sign -/
theorem replaceFrom_of_plain {plain : List Char} (h : '$' ∉ plain) (rest : List Char) :
    Text.replaceAll.go (token name) new 0 (plain ++ rest) =
      plain ++ Text.replaceAll.go (token name) new 0 rest := by
  induction plain with
  | nil => rfl
  | cons c plain ih =>
    rw [List.mem_cons, not_or] at h
    have hc : (token name).isPrefixOf (c :: (plain ++ rest)) = false := by
      rw [token, List.isPrefixOf_cons_cons, beq_false_of_ne h.1]
      rfl
    rw [List.cons_append, Text.replaceAll.go, hc, ih h.2]
    rfl

theorem replaceFrom_skip (old : List Char) (skipped rest : List Char) :
    Text.replaceAll.go old new skipped.length (skipped ++ rest) =
      Text.replaceAll.go old new 0 rest := by
  induction skipped with
  | nil => rfl
  | cons c skipped ih =>
    rw [List.length_cons, List.cons_append, Text.replaceAll.go]
    exact ih

/-- **To replace one interpolation is to exchange its variable.** -/
theorem replaceAll_token (hname : Plain name) (new : List Char) (s : List Char) :
    Text.replaceAll (token name) (token new) s =
      substitute (fun other => if other = name then new else other) s := by
  unfold Text.replaceAll
  induction s using template_induction with
  | nil => rfl
  | slot other rest hother ih =>
    rw [substitute_token _ hother]
    by_cases heq : other = name
    · subst heq
      have hfound : (token other).isPrefixOf ('$' :: (braced other ++ rest)) = true :=
        List.isPrefixOf_iff_prefix.mpr ⟨rest, rfl⟩
      rw [if_pos rfl, ← ih]
      -- the whole interpolation is passed over, and what is written for it is not read again
      show Text.replaceAll.go (token other) (token new) 0 ('$' :: (braced other ++ rest)) = _
      rw [Text.replaceAll.go, hfound, if_pos rfl]
      exact congrArg (token new ++ ·) (replaceFrom_skip (token other) (braced other) rest)
    · have hmissed : (token name).isPrefixOf ('$' :: (braced other ++ rest)) = false := by
        rw [Bool.eq_false_iff, Ne, List.isPrefixOf_iff_prefix]
        exact fun hstart => heq (eq_of_token_start hname hother hstart).symm
      rw [if_neg heq, ← ih]
      show Text.replaceAll.go (token name) (token new) 0 ('$' :: (braced other ++ rest)) = _
      rw [Text.replaceAll.go, hmissed, if_neg (by decide),
        replaceFrom_of_plain (not_mem_braced hother)]
      rfl
  | text c rest hno ih =>
    have hmissed : (token name).isPrefixOf (c :: rest) = false := by
      rw [Bool.eq_false_iff, Ne, List.isPrefixOf_iff_prefix]
      exact hno name hname
    rw [substitute_cons _ hno, Text.replaceAll.go, hmissed, if_neg (by decide), ih]

end

end ApiBindings.Source
