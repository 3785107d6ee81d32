import ApiBindings.Proofs.TypeText.Written

/-!
# Object literals

Whether a type is one object literal is told by three marks of its text: the brace in front, the
brace at the end, and no operator outside of brackets.  For a text that can be read as a type, and
that has no blanks around it, this is right: a brace at the end is the last token of the text, since
a literal does not end with one, and with no operator outside it closes the brace in front.

* `head?_tokens_iff`, `getLast?_tokens_iff`
                                        the tokens at the ends of a text and the characters there;
* `Arrayed.isObject_iff`                an object is what stands in braces from end to end;
* `IsObjectLiteral`                     a text that is read as one object literal;
* `Written.isObjectLiteral`             what has the marks is an object literal;
* `Written.isRecordLiteral_iff`         and an object literal without blanks around it has the marks.
-/

namespace ApiBindings.TypeScript

/-! ## the first token -/

theorem tokensFrom_cons_eq_some {s : TokenState} {c : Char} {rest : List Char} {ts : List Token} :
    tokensFrom s (c :: rest) = some ts ↔ ∃ us s' vs, s.step c = some (us, s') ∧
      tokensFrom s' rest = some vs ∧ ts = us ++ vs := by
  rw [tokensFrom]
  cases hstep : s.step c with
  | none => simp
  | some next =>
    obtain ⟨us, s'⟩ := next
    simp only [Option.map_eq_some_iff, Option.some.injEq, Prod.mk.injEq]
    constructor
    · rintro ⟨vs, hvs, rfl⟩
      exact ⟨us, s', vs, ⟨rfl, rfl⟩, hvs, rfl⟩
    · rintro ⟨_, _, vs, ⟨rfl, rfl⟩, hvs, rfl⟩
      exact ⟨vs, hvs, rfl⟩

/-- what was begun as a word gives a word -/
theorem exists_word_of_tokensFrom {run rest : List Char} {ts : List Token}
    (h : tokensFrom (.word run) rest = some ts) : ∃ text us, ts = .word text :: us := by
  induction rest generalizing run ts with
  | nil =>
    cases h
    exact ⟨_, [], rfl⟩
  | cons c rest ih =>
    obtain ⟨us, s', vs, hstep, hrest, rfl⟩ := tokensFrom_cons_eq_some.mp h
    rw [TokenState.step] at hstep
    split at hstep
    · cases hstep
      exact ih hrest
    · obtain ⟨next, _, hnext⟩ := Option.map_eq_some_iff.mp hstep
      cases hnext
      exact ⟨_, _, rfl⟩

/-- what was begun as a literal gives a literal -/
theorem exists_literal_of_tokensFrom {body rest : List Char} {escaped : Bool} {ts : List Token}
    (h : tokensFrom (.literal body escaped) rest = some ts) :
    ∃ value us, ts = .literal value :: us := by
  induction rest generalizing body escaped ts with
  | nil => cases h
  | cons c rest ih =>
    obtain ⟨us, s', vs, hstep, hrest, rfl⟩ := tokensFrom_cons_eq_some.mp h
    cases escaped with
    | true =>
      cases hstep
      exact ih hrest
    | false =>
      rw [TokenState.step] at hstep
      split at hstep
      · obtain ⟨value, _, hvalue⟩ := Option.map_eq_some_iff.mp hstep
        cases hvalue
        exact ⟨_, _, rfl⟩
      · cases hstep
        exact ih hrest

theorem punctuation?_inj {c d : Char} {t : Token} (hc : punctuation? c = some t)
    (hd : punctuation? d = some t) : c = d := by
  unfold punctuation? at hc hd
  split at hc <;> cases hc <;> split at hd <;> first | rfl | cases hd

/-- What a reader between tokens makes of a character that is no blank. -/
theorem start_cases {c : Char} (hgap : isGap c = false) {us : List Token} {s : TokenState}
    (h : TokenState.start c = some (us, s)) :
    (us = [] ∧ s = .word [c] ∧ startsIdentifier c = true) ∨
      (us = [] ∧ s = .literal [] false ∧ c = '"') ∨
      ∃ t, punctuation? c = some t ∧ us = [t] ∧ s = .between := by
  rw [TokenState.start, if_neg (by rw [hgap]; decide)] at h
  split at h
  · rename_i hc
    cases h
    exact .inl ⟨rfl, rfl, hc⟩
  · split at h
    · rename_i hc
      cases h
      exact .inr (.inl ⟨rfl, rfl, hc⟩)
    · obtain ⟨t, ht, heq⟩ := Option.map_eq_some_iff.mp h
      cases heq
      exact .inr (.inr ⟨t, ht, rfl, rfl⟩)

/-- The first token is an opening brace if the first character is. -/
theorem head?_tokens_iff {c : Char} {rest : List Char} {ts : List Token} (hgap : isGap c = false)
    (h : tokens (c :: rest) = some ts) : ts.head? = some .openBrace ↔ c = '{' := by
  obtain ⟨us, s, vs, hstep, hrest, rfl⟩ := tokensFrom_cons_eq_some.mp h
  rcases start_cases hgap hstep with ⟨rfl, rfl, hc⟩ | ⟨rfl, rfl, rfl⟩ | ⟨t, ht, rfl, rfl⟩
  · obtain ⟨text, more, rfl⟩ := exists_word_of_tokensFrom hrest
    refine iff_of_false (fun hhead => by cases hhead) ?_
    rintro rfl
    exact absurd hc (by decide)
  · obtain ⟨value, more, rfl⟩ := exists_literal_of_tokensFrom hrest
    exact iff_of_false (fun hhead => by cases hhead) (by decide)
  · constructor
    · intro hhead
      cases hhead
      exact punctuation?_inj ht rfl
    · rintro rfl
      cases ht
      rfl

/-! ## the last token -/

theorem tokensFrom_concat {s : TokenState} {w : List Char} {c : Char} {ts : List Token}
    (h : tokensFrom s (w ++ [c]) = some ts) :
    ∃ (us vs last : List Token) (before after : TokenState), before.step c = some (vs, after) ∧
      after.finish = some last ∧ ts = us ++ (vs ++ last) := by
  induction w generalizing s ts with
  | nil =>
    obtain ⟨vs, after, last, hstep, hlast, rfl⟩ := tokensFrom_cons_eq_some.mp h
    exact ⟨[], vs, last, s, after, hstep, hlast, rfl⟩
  | cons d w ih =>
    obtain ⟨us, _, _, _, hrest, rfl⟩ := tokensFrom_cons_eq_some.mp h
    obtain ⟨us', vs, last, before, after, hstep, hlast, rfl⟩ := ih hrest
    exact ⟨us ++ us', vs, last, before, after, hstep, hlast, (List.append_assoc us us' _).symm⟩

/-- outside of words and literals the last character gives the last token -/
theorem exists_last_of_start {c : Char} (hgap : isGap c = false) {us last : List Token}
    {s : TokenState} (hstart : TokenState.start c = some (us, s)) (hlast : s.finish = some last) :
    ∃ front t, us ++ last = front ++ [t] ∧ (t = .closeBrace ↔ c = '}') := by
  rcases start_cases hgap hstart with ⟨rfl, rfl, hc⟩ | ⟨rfl, rfl, rfl⟩ | ⟨t, ht, rfl, rfl⟩
  · cases hlast
    refine ⟨[], _, rfl, iff_of_false Token.noConfusion ?_⟩
    rintro rfl
    exact absurd hc (by decide)
  · cases hlast
  · cases hlast
    refine ⟨[], t, rfl, ?_, ?_⟩
    · rintro rfl
      exact punctuation?_inj ht rfl
    · rintro rfl
      cases ht
      rfl

theorem exists_last_of_step {c : Char} (hgap : isGap c = false) {s s' : TokenState}
    {us last : List Token} (hstep : s.step c = some (us, s')) (hlast : s'.finish = some last) :
    ∃ front t, us ++ last = front ++ [t] ∧ (t = .closeBrace ↔ c = '}') := by
  cases s with
  | between => exact exists_last_of_start hgap hstep hlast
  | word run =>
    rw [TokenState.step] at hstep
    split at hstep
    · rename_i hc
      cases hstep
      cases hlast
      refine ⟨[], _, rfl, iff_of_false Token.noConfusion ?_⟩
      rintro rfl
      exact absurd hc (by decide)
    · obtain ⟨next, hnext, heq⟩ := Option.map_eq_some_iff.mp hstep
      cases heq
      obtain ⟨front, t, hfront, ht⟩ := exists_last_of_start hgap hnext hlast
      exact ⟨_ :: front, t, by rw [List.cons_append, hfront]; rfl, ht⟩
  | literal body escaped =>
    -- a text that ends inside of a literal has no tokens, so the character closes it
    cases escaped with
    | true =>
      cases hstep
      cases hlast
    | false =>
      rw [TokenState.step] at hstep
      split at hstep
      · rename_i hc
        obtain ⟨value, _, heq⟩ := Option.map_eq_some_iff.mp hstep
        cases heq
        cases hlast
        refine ⟨[], _, rfl, iff_of_false Token.noConfusion ?_⟩
        rintro rfl
        exact absurd hc (by decide)
      · cases hstep
        cases hlast

/-- The last token is a closing brace if the last character is. -/
theorem getLast?_tokens_iff {w : List Char} {c : Char} {ts : List Token} (hgap : isGap c = false)
    (h : tokens (w ++ [c]) = some ts) : ts.getLast? = some .closeBrace ↔ c = '}' := by
  obtain ⟨us, vs, last, before, after, hstep, hlast, rfl⟩ := tokensFrom_concat h
  obtain ⟨front, t, hfront, ht⟩ := exists_last_of_step hgap hstep hlast
  rw [hfront, ← List.append_assoc, List.getLast?_concat, Option.some.injEq, ht]

/-! ## objects -/

namespace TypeExpr

/-- whether a type is a record or an index signature -/
def isObject : TypeExpr → Bool
  | .record _ => true
  | .index _ => true
  | _ => false

end TypeExpr

/-- A factor is an object if and only if its braces stand at both ends. -/
theorem Arrayed.isObject_iff {ts : List Token} {e : TypeExpr} (h : Arrayed ts e) :
    e.isObject = true ↔ ts.head? = some .openBrace ∧ ts.getLast? = some .closeBrace := by
  obtain ⟨n, h⟩ := h
  cases n with
  | succ n =>
    -- an array ends with a bracket
    rw [arrays_succ, brackets_succ, ← List.append_assoc]
    simp [TypeExpr.isObject]
  | zero =>
    rw [brackets, List.append_nil, arrays]
    cases h with
    | word text =>
      have hword : (TypeExpr.ofWord text).isObject = false := by
        unfold TypeExpr.ofWord
        split <;> rfl
      simp [hword]
    | literal value => simp [TypeExpr.isObject]
    | group h =>
      obtain ⟨h⟩ := h
      simp [TypeExpr.isObject]
    | empty => simp [TypeExpr.isObject]
    | record h => simp [TypeExpr.isObject, List.getLast?_cons]
    | index parameter h =>
      simp [TypeExpr.isObject, indexHead, List.getLast?_cons]

def IsObjectLiteral (text : String) : Prop :=
  ∃ e : TypeExpr, e.isObject = true ∧ Reads text (ofSummands [[e]])

theorem ofSummands_injective : Function.Injective ofSummands := by
  intro a b h
  have hmap : a.map (TypeExpr.compound .intersection) = b.map (.compound .intersection) :=
    (TypeExpr.compound.inj h).2
  exact List.map_injective_iff.mpr (fun _ _ hcompound => (TypeExpr.compound.inj hcompound).2) hmap

/-! ## marks -/

theorem isRecordLiteral_iff {text : String} : isRecordLiteral text = true ↔
    text.toList.head? = some '{' ∧ text.toList.getLast? = some '}' ∧ isCompound text = false := by
  have hstart : Text.startsWith "\x7b" text = true ↔ text.toList.head? = some '{' := by
    rw [Text.startsWith, List.isPrefixOf_iff_prefix, List.head?_eq_some_iff]
    exact ⟨fun ⟨rest, h⟩ => ⟨rest, h.symm⟩, fun ⟨rest, h⟩ => ⟨rest, h.symm⟩⟩
  have hstop : Text.endsWith "\x7d" text = true ↔ text.toList.getLast? = some '}' := by
    rw [Text.endsWith, List.isSuffixOf_iff_suffix, List.getLast?_eq_some_iff]
    exact ⟨fun ⟨front, h⟩ => ⟨front, h.symm⟩, fun ⟨front, h⟩ => ⟨front, h.symm⟩⟩
  rw [isRecordLiteral, Bool.and_eq_true, Bool.and_eq_true, hstart, hstop, Bool.not_eq_true',
    and_assoc]

/-- no blank stands at the beginning or at the end -/
structure Snug (text : String) : Prop where
  first : ∃ c ∈ text.toList.head?, isGap c = false
  last : ∃ c ∈ text.toList.getLast?, isGap c = false

namespace Snug

variable {text : String}

theorem of_chars (hne : text ≠ "") (h : ∀ c ∈ text.toList, isGap c = false) : Snug text := by
  have hlist : text.toList ≠ [] := mt String.toList_eq_nil_iff.mp hne
  exact ⟨⟨_, List.head?_eq_some_head hlist, h _ (List.head_mem hlist)⟩,
    ⟨_, List.getLast?_eq_some_getLast hlist, h _ (List.getLast_mem hlist)⟩⟩

theorem of_isTypeName (h : IsTypeName text.toList) : Snug text := by
  obtain ⟨c, w, htext, hc, hw⟩ := h
  have hstart := isGap_of_startsIdentifier (startsIdentifier_of_capital hc)
  refine of_chars ?_ fun d hd => ?_
  · rintro rfl
    cases htext
  · rw [htext] at hd
    rcases List.mem_cons.mp hd with rfl | hd
    · exact hstart
    · exact isGap_of_continuesIdentifier (hw d hd)

theorem quoted (value : String) : Snug (Text.quoted value) := by
  have hlist : (Text.quoted value).toList =
      '"' :: (value.toList.flatMap Text.quotedChar ++ ['"']) := String.toList_ofList
  refine ⟨⟨'"', ?_, by decide⟩, ⟨'"', ?_, by decide⟩⟩
  · rw [hlist]
    rfl
  · rw [hlist, ← List.cons_append, List.getLast?_concat]
    rfl

theorem of_ends {s t : String} (hs : ∃ c ∈ s.toList.head?, isGap c = false) (between : String)
    (ht : ∃ c ∈ t.toList.getLast?, isGap c = false) : Snug (s ++ between ++ t) := by
  obtain ⟨c, hc, hcgap⟩ := hs
  obtain ⟨d, hd, hdgap⟩ := ht
  refine ⟨⟨c, ?_, hcgap⟩, ⟨d, ?_, hdgap⟩⟩
  · rw [String.append_assoc, String.toList_append]
    exact List.mem_head?_append_of_mem_head? hc
  · rw [String.toList_append]
    exact List.mem_getLast?_append_of_mem_getLast? hd

theorem append {s t : String} (hs : Snug s) (ht : ∃ c ∈ t.toList.getLast?, isGap c = false) :
    Snug (s ++ t) := by
  have h := of_ends hs.first "" ht
  rwa [String.append_empty] at h

theorem join (sep : String) {texts : List String} (h : ∀ t ∈ texts, Snug t) (hne : texts ≠ []) :
    Snug (Text.join sep texts) := by
  induction texts with
  | nil => exact absurd rfl hne
  | cons t texts ih =>
    cases texts with
    | nil => exact h t List.mem_cons_self
    | cons t' texts =>
      have hrest := ih (fun t ht => h t (List.mem_cons_of_mem _ ht)) (List.cons_ne_nil _ _)
      exact of_ends (h t List.mem_cons_self).first sep hrest.last

end Snug

namespace Written

variable {text : String} {summands : List (List TypeExpr)}

/-- **What is marked as a record is one object literal**: no union, intersection or array is. -/
theorem isObjectLiteral (h : Written text summands) (hmarks : isRecordLiteral text = true) :
    IsObjectLiteral text := by
  obtain ⟨hfirst, hlast, hscan⟩ := isRecordLiteral_iff.mp hmarks
  obtain ⟨e, rfl⟩ := h.single_of_scans hscan
  obtain ⟨ts, hspells, harrayed⟩ := h.factor
  obtain ⟨rest, hrest⟩ := List.head?_eq_some_iff.mp hfirst
  obtain ⟨front, hfront⟩ := List.getLast?_eq_some_iff.mp hlast
  have htokens := hspells.tokens_eq
  refine ⟨e, harrayed.isObject_iff.mpr ⟨?_, ?_⟩, h.reads⟩
  · rw [hrest] at htokens
    exact (head?_tokens_iff (by decide) htokens).mpr rfl
  · rw [hfront] at htokens
    exact (getLast?_tokens_iff (by decide) htokens).mpr rfl

/-- **The marks are those of object literals**, if no blanks stand around the text. -/
theorem isRecordLiteral_iff (h : Written text summands) (hsnug : Snug text) :
    isRecordLiteral text = true ↔ IsObjectLiteral text := by
  refine ⟨h.isObjectLiteral, ?_⟩
  rintro ⟨e, hobject, hreads⟩
  obtain rfl : summands = [[e]] := ofSummands_injective (reads_unique h.reads hreads)
  obtain ⟨ts, hspells, harrayed⟩ := h.factor
  obtain ⟨hopen, hclose⟩ := harrayed.isObject_iff.mp hobject
  obtain ⟨c, hc, hcgap⟩ := hsnug.first
  obtain ⟨d, hd, hdgap⟩ := hsnug.last
  obtain ⟨rest, hrest⟩ := List.head?_eq_some_iff.mp hc
  obtain ⟨front, hfront⟩ := List.getLast?_eq_some_iff.mp hd
  have htokens := hspells.tokens_eq
  refine TypeScript.isRecordLiteral_iff.mpr ⟨?_, ?_, ?_⟩
  · rw [hrest] at htokens ⊢
    rw [(head?_tokens_iff hcgap htokens).mp hopen]
    rfl
  · rw [hfront] at htokens ⊢
    rw [(getLast?_tokens_iff hdgap htokens).mp hclose, List.getLast?_concat]
  · rw [← Bool.not_eq_true, h.isCompound_iff]
    simp

end Written

end ApiBindings.TypeScript
