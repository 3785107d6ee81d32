import ApiBindings.Proofs.Bindings.Interpolations
import ApiBindings.Proofs.Source.Template
import ApiBindings.Proofs.Source.TemplateLiteral

/-!
# Routes cut at their placeholders

A route is cut at the words that its interpolations enclose.  The texts between them and the names
of the placeholders determine the cut, so that there is only one way to say what the route is meant
to be read as: each text as it stands, with the code of a variable between each two.

* `words`                        the words that the interpolations of a text enclose;
* `itemsOf`                      what a text is meant to be read as;
* `Cut`                          a text that is cut at its placeholders;
* `Cut.exists_cut`               every text is cut at its words;
* `Cut.items_eq_itemsOf`         and each such cut is what the text is meant to be read as.
-/

namespace ApiBindings.Source

open Route (behind interpolationMark Encloses)
open TemplatePart (text slot)

/-! ## words in interpolations -/

def isWord (name : List Char) : Bool := !name.isEmpty && name.all Text.isWordChar

theorem isWord_iff {name : List Char} :
    isWord name = true ↔ name ≠ [] ∧ ∀ c ∈ name, Text.isWordChar c = true := by
  rw [isWord, Bool.and_eq_true, Bool.not_eq_true', List.isEmpty_eq_false_iff, List.all_eq_true]

theorem behind_of_plain {plain : List Char} (h : '$' ∉ plain) (rest : List Char) :
    behind interpolationMark (plain ++ rest) = behind interpolationMark rest := by
  induction plain with
  | nil => rfl
  | cons c plain ih =>
    rw [List.mem_cons, not_or] at h
    have hnone : Text.afterStart? interpolationMark (c :: (plain ++ rest)) = none := if_neg h.1
    rw [List.cons_append, behind, hnone, ih h.2]
    rfl

/-- behind the interpolation in front stands its name -/
theorem behind_token {name : List Char} (h : Plain name) (rest : List Char) :
    behind interpolationMark (token name ++ rest) =
      (name ++ '}' :: rest) :: behind interpolationMark rest := by
  have hfound : Text.afterStart? interpolationMark ('$' :: (braced name ++ rest)) =
      some (name ++ '}' :: rest) := by
    rw [Text.afterStart?_eq_some_iff]
    simp [interpolationMark, braced]
  rw [token, List.cons_append, behind, hfound, behind_of_plain (not_mem_braced h)]
  rfl

theorem plain_of_isWordChar {name : List Char} (h : ∀ c ∈ name, Text.isWordChar c = true) :
    Plain name := by
  intro c hc
  rw [isPlain, Bool.and_eq_true, bne_iff_ne, bne_iff_ne]
  refine ⟨?_, (Route.ne_of_isWordChar (h c hc)).2⟩
  rintro rfl
  exact absurd (h _ hc) (by decide)

/-- the word that stands in an interpolation is its name -/
theorem Encloses.eq_name {name word rest : List Char} (h : Plain name)
    (hword : Encloses (name ++ '}' :: rest) word) : word = name := by
  obtain ⟨_, hall, after, heq⟩ := hword
  rw [← takeWhile_plain (plain_of_isWordChar hall) after, ← heq, takeWhile_plain h]

theorem enclosed?_token {name : List Char} (h : Plain name) (rest : List Char) :
    Route.enclosed? [] (name ++ '}' :: rest) = if isWord name then some name else none := by
  split
  · rename_i hword
    obtain ⟨hne, hall⟩ := isWord_iff.mp hword
    exact Route.enclosed?_eq_some_iff.mpr ⟨hne, hall, rest, rfl⟩
  · rename_i hword
    refine Option.eq_none_iff_forall_ne_some.mpr fun word henclosed => hword ?_
    have hencloses := Route.enclosed?_eq_some_iff.mp henclosed
    have heq := Encloses.eq_name h hencloses
    exact isWord_iff.mpr (heq ▸ ⟨hencloses.1, hencloses.2.1⟩)

def words (s : List Char) : List (List Char) :=
  (behind interpolationMark s).filterMap (Route.enclosed? [])

theorem isWord_of_mem_words {s name : List Char} (h : name ∈ words s) : isWord name = true := by
  obtain ⟨rest, _, henclosed⟩ := List.mem_filterMap.mp h
  obtain ⟨hne, hall, _⟩ := Route.enclosed?_eq_some_iff.mp henclosed
  exact isWord_iff.mpr ⟨hne, hall⟩

theorem words_token {name : List Char} (h : Plain name) (rest : List Char) :
    words (token name ++ rest) = (if isWord name then [name] else []) ++ words rest := by
  rw [words, behind_token h, List.filterMap_cons, enclosed?_token h]
  cases isWord name <;> rfl

/-- a character that begins no interpolation encloses no word either -/
theorem words_cons {c : Char} {rest : List Char} (h : NoToken (c :: rest)) :
    words (c :: rest) = words rest := by
  rw [words, behind, List.filterMap_append]
  cases hopen : Text.afterStart? interpolationMark (c :: rest) with
  | none => rfl
  | some inside =>
    have hnone : Route.enclosed? [] inside = none := by
      refine Option.eq_none_iff_forall_ne_some.mpr fun name henclosed => ?_
      obtain ⟨_, hall, after, rfl⟩ := Route.enclosed?_eq_some_iff.mp henclosed
      refine h name (plain_of_isWordChar hall) ⟨after, ?_⟩
      rw [Text.afterStart?_eq_some_iff.mp hopen]
      simp [token, braced, interpolationMark]
    rw [Option.toList_some, List.filterMap_cons_none hnone]
    rfl

/-- no interpolation goes on behind a dollar sign -/
theorem NoToken.append_dollar {c : Char} {s : List Char} (h : NoToken (c :: s))
    (rest : List Char) : NoToken (c :: (s ++ '$' :: rest)) :=
  h.congr fun _ hplain => prefix_append_dollar hplain s rest

theorem words_append_dollar (s rest : List Char) :
    words (s ++ '$' :: rest) = words s ++ words ('$' :: rest) := by
  induction s using template_induction with
  | nil => rfl
  | slot name s hname ih =>
    rw [List.append_assoc, words_token hname, words_token hname, ih, List.append_assoc]
  | text c s hno ih =>
    rw [List.cons_append, words_cons (hno.append_dollar rest), words_cons hno, ih]

/-! ## what a text is meant to be read as -/

/-- the items that a part of a template is meant to be: a placeholder is the code of its variable,
all else stands for itself -/
def TemplatePart.items (σ : List Char → List Char) : TemplatePart → List Item
  | text c => literally [c]
  | slot name => if isWord name then [.code (σ name)] else literally (token name)

def itemsOf (σ : List Char → List Char) (s : List Char) : List Item :=
  (parts s).flatMap (TemplatePart.items σ)

variable (σ : List Char → List Char)

theorem itemsOf_token {name : List Char} (h : Plain name) (rest : List Char) :
    itemsOf σ (token name ++ rest) = TemplatePart.items σ (slot name) ++ itemsOf σ rest := by
  rw [itemsOf, parts_token h, List.flatMap_cons, itemsOf]

theorem itemsOf_cons {c : Char} {rest : List Char} (h : NoToken (c :: rest)) :
    itemsOf σ (c :: rest) = literally [c] ++ itemsOf σ rest := by
  rw [itemsOf, parts_cons h, List.flatMap_cons, itemsOf]
  rfl

theorem itemsOf_append_dollar (s rest : List Char) :
    itemsOf σ (s ++ '$' :: rest) = itemsOf σ s ++ itemsOf σ ('$' :: rest) := by
  induction s using template_induction with
  | nil => rfl
  | slot name s hname ih =>
    rw [List.append_assoc, itemsOf_token σ hname, itemsOf_token σ hname, ih, List.append_assoc]
  | text c s hno ih =>
    rw [List.cons_append, itemsOf_cons σ (hno.append_dollar rest), itemsOf_cons σ hno, ih,
      List.append_assoc]

/-- a text without placeholders stands for itself -/
theorem itemsOf_of_words_eq_nil {s : List Char} (h : words s = []) :
    itemsOf σ s = literally s := by
  induction s using template_induction with
  | nil => rfl
  | slot name s hname ih =>
    rw [words_token hname, List.append_eq_nil_iff] at h
    have hword : isWord name ≠ true := by
      intro hword
      rw [if_pos hword] at h
      exact List.cons_ne_nil _ _ h.1
    have hitems : TemplatePart.items σ (slot name) = literally (token name) := if_neg hword
    rw [itemsOf_token σ hname, hitems, ih h.2, literally_append]
  | text c s hno ih =>
    rw [words_cons hno] at h
    rw [itemsOf_cons σ hno, ih h, ← literally_append, List.singleton_append]

/-! ## cuts -/

/-- a text that is cut at its placeholders: each of them with the text in front of it, and the text
behind the last one -/
structure Cut where
  slots : List (List Char × List Char)
  last : List Char

namespace Cut

def chars (c : Cut) : List Char :=
  c.slots.flatMap (fun slot => slot.1 ++ token slot.2) ++ c.last

def names (c : Cut) : List (List Char) := c.slots.map Prod.snd

def items (c : Cut) : List Item :=
  c.slots.flatMap (fun slot => literally slot.1 ++ [.code (σ slot.2)]) ++ literally c.last

/-- the cut with a further text in front -/
def prepend (text : List Char) : Cut → Cut
  | ⟨[], last⟩ => ⟨[], text ++ last⟩
  | ⟨(first, name) :: slots, last⟩ => ⟨(text ++ first, name) :: slots, last⟩

theorem chars_prepend (text : List Char) (c : Cut) : (c.prepend text).chars = text ++ c.chars := by
  obtain ⟨_ | ⟨slot, slots⟩, last⟩ := c
  · rfl
  · simp only [prepend, chars, List.flatMap_cons, List.append_assoc]

theorem names_prepend (text : List Char) (c : Cut) : (c.prepend text).names = c.names := by
  obtain ⟨_ | ⟨slot, slots⟩, last⟩ := c <;> rfl

/-- every text is cut at the words that its interpolations enclose -/
theorem exists_cut (s : List Char) : ∃ c : Cut, c.chars = s ∧ c.names = words s := by
  induction s using template_induction with
  | nil => exact ⟨⟨[], []⟩, rfl, rfl⟩
  | slot name rest hname ih =>
    obtain ⟨c, hchars, hnames⟩ := ih
    rw [words_token hname]
    cases hword : isWord name with
    | true =>
      refine ⟨⟨([], name) :: c.slots, c.last⟩, ?_, ?_⟩
      · rw [← hchars]
        simp only [chars, List.flatMap_cons, List.nil_append, List.append_assoc]
      · rw [if_pos rfl, ← hnames]
        rfl
    | false =>
      refine ⟨c.prepend (token name), ?_, ?_⟩
      · rw [chars_prepend, hchars]
      · rw [names_prepend, hnames, if_neg Bool.false_ne_true, List.nil_append]
  | text d rest hno ih =>
    obtain ⟨c, hchars, hnames⟩ := ih
    refine ⟨c.prepend [d], ?_, ?_⟩
    · rw [chars_prepend, hchars, List.singleton_append]
    · rw [names_prepend, hnames, words_cons hno]

variable {slots : List (List Char × List Char)}

theorem chars_cons (first name last : List Char) :
    chars ⟨(first, name) :: slots, last⟩ = first ++ (token name ++ chars ⟨slots, last⟩) := by
  simp only [chars, List.flatMap_cons, List.append_assoc]

/-- the words of a text that is cut at words: those of the cut, and what is left between them -/
theorem words_chars (h : ∀ slot ∈ slots, isWord slot.2 = true) (last : List Char) :
    words (chars ⟨slots, last⟩) =
      slots.flatMap (fun slot => words slot.1 ++ [slot.2]) ++ words last := by
  induction slots with
  | nil => rfl
  | cons slot slots ih =>
    obtain ⟨first, name⟩ := slot
    obtain ⟨hword, hslots⟩ := List.forall_mem_cons.mp h
    have hname := plain_of_isWordChar (isWord_iff.mp hword).2
    rw [chars_cons, token, List.cons_append, words_append_dollar, ← List.cons_append, ← token,
      words_token hname, if_pos hword, ih hslots]
    simp only [List.flatMap_cons, List.append_assoc]

theorem itemsOf_chars (h : ∀ slot ∈ slots, isWord slot.2 = true) (last : List Char) :
    itemsOf σ (chars ⟨slots, last⟩) =
      slots.flatMap (fun slot => itemsOf σ slot.1 ++ [.code (σ slot.2)]) ++ itemsOf σ last := by
  induction slots with
  | nil => rfl
  | cons slot slots ih =>
    obtain ⟨first, name⟩ := slot
    obtain ⟨hword, hslots⟩ := List.forall_mem_cons.mp h
    have hname := plain_of_isWordChar (isWord_iff.mp hword).2
    have hcode : TemplatePart.items σ (slot name) = [.code (σ name)] := if_pos hword
    rw [chars_cons, token, List.cons_append, itemsOf_append_dollar, ← List.cons_append, ← token,
      itemsOf_token σ hname, hcode, ih hslots]
    simp only [List.flatMap_cons, List.append_assoc]

/-- a list with something added to each of its entries is longer unless nothing is added -/
theorem eq_nil_of_length {added : List Char × List Char → List (List Char)}
    {last : List (List Char)}
    (h : (slots.flatMap (fun slot => added slot ++ [slot.2]) ++ last).length = slots.length) :
    (∀ slot ∈ slots, added slot = []) ∧ last = [] := by
  have hsum : ∀ slots : List (List Char × List Char),
      (slots.flatMap fun slot => added slot ++ [slot.2]).length =
        (slots.flatMap added).length + slots.length := by
    intro slots
    induction slots with
    | nil => rfl
    | cons slot slots ih =>
      rw [List.flatMap_cons, List.flatMap_cons, List.length_append, List.length_append,
        List.length_append, List.length_singleton, List.length_cons, ih]
      omega
  rw [List.length_append, hsum] at h
  have hadded : slots.flatMap added = [] := List.length_eq_zero_iff.mp (by omega)
  exact ⟨List.flatMap_eq_nil_iff.mp hadded, List.length_eq_zero_iff.mp (by omega)⟩

/-- **A cut at all words of a text is what the text is meant to be read as.** -/
theorem items_eq_itemsOf {c : Cut} (h : c.names = words c.chars) :
    c.items σ = itemsOf σ c.chars := by
  obtain ⟨slots, last⟩ := c
  have hword : ∀ slot ∈ slots, isWord slot.2 = true := by
    intro slot hslot
    refine isWord_of_mem_words (s := chars ⟨slots, last⟩) ?_
    rw [← h]
    exact List.mem_map_of_mem hslot
  -- no word is left between the placeholders, as there are no more words than placeholders
  have hlength : (words (chars ⟨slots, last⟩)).length = slots.length := by
    rw [← h, names, List.length_map]
  rw [words_chars hword] at hlength
  obtain ⟨hfirst, hlast⟩ := eq_nil_of_length hlength
  rw [itemsOf_chars σ hword, itemsOf_of_words_eq_nil σ hlast, items]
  refine congrArg (· ++ literally last) (List.flatMap_congr fun slot hslot => ?_)
  rw [itemsOf_of_words_eq_nil σ (hfirst slot hslot)]

end Cut

end ApiBindings.Source
