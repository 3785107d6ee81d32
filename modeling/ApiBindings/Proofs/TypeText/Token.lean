import ApiBindings.Proofs.Text.Literal
import ApiBindings.TypeScript.Name

/-!
# Tokens of a type expression

A type expression is read as words, string literals and punctuation.  A word goes on as long as its
characters do, a literal ends at the first quote that no backslash escapes, and blanks between
tokens do not count.

`Spells text ts` says that a text is read as the tokens `ts` wherever it stands in front of
something that does not go on with a word; texts are put together by that.

* `Spells.append_cons`    two texts, unless a word would go on from one into the other;
* `spells_word`           an identifier spells one word;
* `spells_quoted`         a quoted text spells one literal, with that text as its value.
-/

namespace ApiBindings.TypeScript

/-- a token of a type expression -/
inductive Token where
  | word (text : String)
  | literal (value : String)
  | bar
  | ampersand
  | openParen
  | closeParen
  | openBracket
  | closeBracket
  | openBrace
  | closeBrace
  | colon
  | semicolon
  | question
deriving DecidableEq, Repr

/-- the token of a punctuation mark -/
def punctuation? : Char → Option Token
  | '|' => some .bar
  | '&' => some .ampersand
  | '(' => some .openParen
  | ')' => some .closeParen
  | '[' => some .openBracket
  | ']' => some .closeBracket
  | '{' => some .openBrace
  | '}' => some .closeBrace
  | ':' => some .colon
  | ';' => some .semicolon
  | '?' => some .question
  | _ => none

def isGap (c : Char) : Bool := c == ' ' || c == '\n' || c == '\t' || c == '\r'

/-- Where a reader of tokens is: between tokens, in a word, or in a literal and perhaps right behind
a backslash.  What was read of the token is kept in reverse. -/
inductive TokenState where
  | between
  | word (run : List Char)
  | literal (body : List Char) (escaped : Bool)

namespace TokenState

/-- a character that begins something new -/
def start (c : Char) : Option (List Token × TokenState) :=
  if isGap c then some ([], between)
  else if startsIdentifier c then some ([], word [c])
  else if c = '"' then some ([], literal [] false)
  else (punctuation? c).map fun t => ([t], between)

/-- one character further, with the tokens that it completes -/
def step : TokenState → Char → Option (List Token × TokenState)
  | between, c => start c
  | word run, c =>
    if continuesIdentifier c then some ([], word (c :: run))
    else (start c).map fun next => (.word (String.ofList run.reverse) :: next.1, next.2)
  | literal body true, c => some ([], literal (c :: body) false)
  | literal body false, c =>
    if c = '"' then
      (Text.unquote body.reverse).map fun value => ([.literal (String.ofList value)], between)
    else some ([], literal (c :: body) (c == '\\'))

/-- the token that the end of the text completes -/
def finish : TokenState → Option (List Token)
  | between => some []
  | word run => some [.word (String.ofList run.reverse)]
  | literal _ _ => none

end TokenState

def tokensFrom (s : TokenState) : List Char → Option (List Token)
  | [] => s.finish
  | c :: rest =>
    match s.step c with
    | some (ts, s) => (tokensFrom s rest).map (ts ++ ·)
    | none => none

def tokens (text : List Char) : Option (List Token) := tokensFrom .between text

/-! ## single steps -/

theorem tokensFrom_cons {s s' : TokenState} {c : Char} {ts : List Token}
    (h : s.step c = some (ts, s')) (rest : List Char) :
    tokensFrom s (c :: rest) = (tokensFrom s' rest).map (ts ++ ·) := by
  rw [tokensFrom, h]

theorem map_nil_append (x : Option (List Token)) : x.map ([] ++ ·) = x := by
  cases x <;> rfl

theorem tokens_nil : tokens [] = some [] := rfl

theorem tokens_space (rest : List Char) : tokens (' ' :: rest) = tokens rest := by
  show (tokens rest).map ([] ++ ·) = tokens rest
  exact map_nil_append _

theorem start_punctuation {c : Char} {t : Token} (h : punctuation? c = some t) :
    TokenState.start c = some ([t], .between) := by
  unfold punctuation? at h
  split at h <;> cases h <;> rfl

theorem tokens_punctuation {c : Char} {t : Token} (h : punctuation? c = some t)
    (rest : List Char) : tokens (c :: rest) = (tokens rest).map (t :: ·) := by
  have hc : TokenState.step .between c = some ([t], .between) := start_punctuation h
  exact tokensFrom_cons hc rest

/-! ## words -/

/-- no character that goes on with a word stands in front -/
def Fresh (rest : List Char) : Prop := ∀ c ∈ rest.head?, continuesIdentifier c = false

theorem fresh_nil : Fresh [] := by
  intro c hc
  cases hc

theorem fresh_cons {c : Char} (h : continuesIdentifier c = false) (rest : List Char) :
    Fresh (c :: rest) := by
  intro d hd
  cases hd
  exact h

theorem tokensFrom_word (w : List Char) (hw : ∀ c ∈ w, continuesIdentifier c = true)
    (run rest : List Char) :
    tokensFrom (.word run) (w ++ rest) = tokensFrom (.word (w.reverse ++ run)) rest := by
  induction w generalizing run with
  | nil => rfl
  | cons c w ih =>
    have hc : TokenState.step (.word run) c = some ([], .word (c :: run)) := by
      rw [TokenState.step, if_pos (hw c List.mem_cons_self)]
    rw [List.cons_append, tokensFrom_cons hc, map_nil_append,
      ih (fun d hd => hw d (List.mem_cons_of_mem _ hd)), List.reverse_cons, List.append_assoc]
    rfl

theorem tokensFrom_word_fresh (run : List Char) {rest : List Char} (h : Fresh rest) :
    tokensFrom (.word run) rest =
      (tokens rest).map (.word (String.ofList run.reverse) :: ·) := by
  cases rest with
  | nil => rfl
  | cons c rest =>
    have hc : continuesIdentifier c = false := h c rfl
    show (match TokenState.step (.word run) c with
      | some (ts, s) => (tokensFrom s rest).map (ts ++ ·)
      | none => none) =
      (match TokenState.start c with
      | some (ts, s) => (tokensFrom s rest).map (ts ++ ·)
      | none => none).map _
    rw [TokenState.step, if_neg (by rw [hc]; decide)]
    cases TokenState.start c with
    | none => rfl
    | some next =>
      show Option.map _ (tokensFrom next.2 rest) = Option.map _ (Option.map _ _)
      rw [Option.map_map]
      rfl

/-! ## literals -/

theorem tokensFrom_body {body : List Char} (h : Text.LiteralBody body) (read rest : List Char) :
    tokensFrom (.literal read false) (body ++ rest) =
      tokensFrom (.literal (body.reverse ++ read) false) rest := by
  induction h generalizing read with
  | nil => rfl
  | @plain c body hquote hslash _ ih =>
    have hc : TokenState.step (.literal read false) c = some ([], .literal (c :: read) false) := by
      rw [TokenState.step, if_neg hquote, beq_false_of_ne hslash]
    rw [List.cons_append, tokensFrom_cons hc, map_nil_append, ih, List.reverse_cons,
      List.append_assoc]
    rfl
  | @escape c body _ ih =>
    have hslash : TokenState.step (.literal read false) '\\' =
        some ([], .literal ('\\' :: read) true) := rfl
    have hc : TokenState.step (.literal ('\\' :: read) true) c =
        some ([], .literal (c :: '\\' :: read) false) := rfl
    rw [List.cons_append, List.cons_append, tokensFrom_cons hslash, map_nil_append,
      tokensFrom_cons hc, map_nil_append, ih, List.reverse_cons, List.reverse_cons,
      List.append_assoc, List.append_assoc]
    rfl

theorem tokens_quotedChars (s rest : List Char) :
    tokens (Text.quotedChars s ++ rest) =
      (tokens rest).map (.literal (String.ofList s) :: ·) := by
  have hopen : TokenState.step .between '"' = some ([], .literal [] false) := rfl
  have hclose : TokenState.step (.literal (s.flatMap Text.quotedChar).reverse false) '"' =
      some ([.literal (String.ofList s)], .between) := by
    rw [TokenState.step, if_pos rfl, List.reverse_reverse, Text.unquote_flatMap]
    rfl
  show tokensFrom .between ('"' :: (s.flatMap Text.quotedChar ++ ['"'] ++ rest)) = _
  rw [tokensFrom_cons hopen, map_nil_append, List.append_assoc,
    tokensFrom_body (Text.LiteralBody.flatMap s), List.append_nil, List.singleton_append,
    tokensFrom_cons hclose]
  rfl

/-! ## texts in front of others -/

/-- a text is read as these tokens in front of whatever does not go on with a word -/
def Spells (text : List Char) (ts : List Token) : Prop :=
  ∀ rest, Fresh rest → tokens (text ++ rest) = (tokens rest).map (ts ++ ·)

theorem Spells.tokens_eq {text : List Char} {ts : List Token} (h : Spells text ts) :
    tokens text = some ts := by
  have h := h [] fresh_nil
  rw [List.append_nil, tokens_nil, Option.map_some, List.append_nil] at h
  exact h

theorem spells_nil : Spells [] [] := by
  intro rest _
  exact (map_nil_append (tokens rest)).symm

theorem Spells.append_cons {s t : List Char} {c : Char} {ts us : List Token} (hs : Spells s ts)
    (hc : continuesIdentifier c = false) (ht : Spells (c :: t) us) :
    Spells (s ++ c :: t) (ts ++ us) := by
  intro rest hrest
  have hfresh : Fresh (c :: t ++ rest) := fresh_cons hc (t ++ rest)
  rw [List.append_assoc, hs _ hfresh, ht rest hrest, Option.map_map]
  congr 1
  funext vs
  exact (List.append_assoc ts us vs).symm

theorem Spells.space {text : List Char} {ts : List Token} (h : Spells text ts) :
    Spells (' ' :: text) ts := by
  intro rest hrest
  rw [List.cons_append, tokens_space, h rest hrest]

theorem Spells.punctuation {c : Char} {t : Token} {text : List Char} {ts : List Token}
    (hc : punctuation? c = some t) (h : Spells text ts) : Spells (c :: text) (t :: ts) := by
  intro rest hrest
  rw [List.cons_append, tokens_punctuation hc, h rest hrest, Option.map_map]
  rfl

/-- a class of characters without the blanks holds no blank -/
theorem isGap_eq_false {p : Char → Bool} (hp : [' ', '\n', '\t', '\r'].any p = false) {c : Char}
    (h : p c = true) : isGap c = false := by
  cases hgap : isGap c with
  | false => rfl
  | true =>
    have hmem : c ∈ [' ', '\n', '\t', '\r'] := by
      simp only [isGap, Bool.or_eq_true, beq_iff_eq] at hgap
      rcases hgap with ((rfl | rfl) | rfl) | rfl <;> decide
    rw [List.any_eq_true.mpr ⟨c, hmem, h⟩] at hp
    cases hp

theorem isGap_of_startsIdentifier {c : Char} (h : startsIdentifier c = true) :
    isGap c = false :=
  isGap_eq_false (by decide) h

theorem isGap_of_continuesIdentifier {c : Char} (h : continuesIdentifier c = true) :
    isGap c = false :=
  isGap_eq_false (by decide) h

theorem spells_word {c : Char} {w : List Char} (hc : startsIdentifier c = true)
    (hw : ∀ d ∈ w, continuesIdentifier d = true) :
    Spells (c :: w) [.word (String.ofList (c :: w))] := by
  intro rest hrest
  have hstep : TokenState.step .between c = some ([], .word [c]) := by
    rw [TokenState.step, TokenState.start, isGap_of_startsIdentifier hc, hc]
    rfl
  show tokensFrom .between (c :: (w ++ rest)) = _
  rw [tokensFrom_cons hstep, map_nil_append, tokensFrom_word w hw, tokensFrom_word_fresh _ hrest,
    List.reverse_append, List.reverse_reverse]
  rfl

theorem spells_quoted (s : List Char) :
    Spells (Text.quotedChars s) [.literal (String.ofList s)] := by
  intro rest _
  exact tokens_quotedChars s rest

end ApiBindings.TypeScript
