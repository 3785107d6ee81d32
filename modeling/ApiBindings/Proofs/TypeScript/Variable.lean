import ApiBindings.Proofs.TypeText.TypeName

/-!
# Local variables and keys

The variable that holds a parameter is an identifier that is not reserved, so it is a variable for
itself: what was renamed once is not renamed again.

* `isIdentifier_bindingName`    a variable is an identifier;
* `bindingName_bindingName`     and the variable of a parameter that is called like it;
* `bindingEntry_eq`             an entry puts the key of a parameter and its variable together.
-/

namespace ApiBindings.TypeScript

/-! ## identifiers -/

theorem isIdentifier_ofList {c : Char} {w : List Char} (hc : startsIdentifier c = true)
    (hw : ∀ d ∈ w, continuesIdentifier d = true) :
    isIdentifier (String.ofList (c :: w)) = true := by
  have hline : ∀ d ∈ c :: w, d ≠ '\n' := by
    rintro d hd rfl
    rcases List.mem_cons.mp hd with rfl | hd
    · exact absurd hc (by decide)
    · exact absurd (hw _ hd) (by decide)
  have hlast : (c :: w).getLast? ≠ some '\n' := fun h => hline _ (List.mem_of_getLast? h) rfl
  rw [isIdentifier, String.toList_ofList, dropFinalLineFeed, if_neg hlast]
  show (startsIdentifier c && w.all continuesIdentifier) = true
  rw [hc, List.all_eq_true.mpr hw]
  rfl

theorem toLower_capital : ∀ n, n < 128 → (Char.ofNat n).isUpper = true →
    (Char.ofNat n).toLower.isAlpha = true := by
  decide

theorem isAlpha_toLower {c : Char} (h : c.isUpper = true) : c.toLower.isAlpha = true := by
  have hascii : c.toNat < 128 := toNat_of_isAlphanum (isAlphanum_of_capital (.inl h))
  have hlower := toLower_capital c.toNat hascii
  rw [Char.ofNat_toNat] at hlower
  exact hlower h

/-- Camel case gives a letter or an underscore, then letters and digits. -/
theorem camelChars_cases (name : List Char) : ∃ c w, camelChars name = c :: w ∧
    (c.isAlpha = true ∨ c = '_') ∧ ∀ d ∈ w, d.isAlphanum = true := by
  obtain ⟨c, w, h, hc, hw⟩ := pascalChars_cases name
  refine ⟨c.toLower, w, by rw [camelChars, h], ?_, hw⟩
  rcases hc with hc | rfl
  · exact .inl (isAlpha_toLower hc)
  · exact .inr (by decide)

theorem isIdentifier_camel (name : String) : isIdentifier (camel name) = true := by
  obtain ⟨c, w, h, hc, hw⟩ := camelChars_cases name.toList
  have hstart : startsIdentifier c = true := by
    rcases hc with hc | rfl
    · rw [startsIdentifier, hc]
      rfl
    · decide
  rw [camel, h]
  exact isIdentifier_ofList hstart fun d hd => continuesIdentifier_of_isAlphanum (hw d hd)

/-! ## variables -/

/-- a reserved word with an underscore behind it can be used -/
theorem reservedWords_underscore :
    ∀ word ∈ reservedWords, isIdentifier (word ++ "_") = true ∧ word ++ "_" ∉ reservedWords := by
  decide +kernel

/-- the variable before reserved words are told apart -/
def localName (name : String) : String := if isIdentifier name then name else camel name

theorem bindingName_eq (name : String) : bindingName name =
    if localName name ∈ reservedWords then localName name ++ "_" else localName name := rfl

theorem isIdentifier_localName (name : String) : isIdentifier (localName name) = true := by
  unfold localName
  split
  · assumption
  · exact isIdentifier_camel name

/-- a variable is an identifier that is not reserved -/
theorem bindingName_cases (name : String) :
    isIdentifier (bindingName name) = true ∧ bindingName name ∉ reservedWords := by
  rw [bindingName_eq]
  split
  · rename_i hreserved
    exact reservedWords_underscore _ hreserved
  · rename_i hfree
    exact ⟨isIdentifier_localName name, hfree⟩

theorem isIdentifier_bindingName (name : String) : isIdentifier (bindingName name) = true :=
  (bindingName_cases name).1

/-- **A variable is not renamed again.** -/
theorem bindingName_bindingName (name : String) :
    bindingName (bindingName name) = bindingName name := by
  obtain ⟨hidentifier, hfree⟩ := bindingName_cases name
  have hlocal : localName (bindingName name) = bindingName name := by
    rw [localName, if_pos hidentifier]
  rw [bindingName_eq (bindingName name), hlocal, if_neg hfree]

/-! ## entries -/

/-- the entry that connects a key with a variable, which is short if they are one word -/
def keyedEntry (key variableName : String) : String :=
  if variableName = key then key else key ++ ": " ++ variableName

theorem quoted_ne_bindingName (text name : String) : bindingName name ≠ Text.quoted text := by
  intro h
  have hidentifier := isIdentifier_bindingName name
  have hlist : (Text.quoted text).toList = '"' :: (text.toList.flatMap Text.quotedChar ++ ['"']) :=
    String.toList_ofList
  have hlast : (Text.quoted text).toList.getLast? ≠ some '\n' := by
    rw [hlist, ← List.cons_append, List.getLast?_concat]
    decide
  rw [h, isIdentifier, dropFinalLineFeed, if_neg hlast, hlist] at hidentifier
  cases hidentifier

/-- **An entry connects the key of a parameter with its variable.** -/
theorem bindingEntry_eq (name : String) :
    bindingEntry name = keyedEntry (objectKey name) (bindingName name) := by
  unfold bindingEntry keyedEntry objectKey
  by_cases hidentifier : isIdentifier name = true
  · rw [if_pos hidentifier]
  · have hother : bindingName name ≠ name := fun h =>
      hidentifier (h ▸ isIdentifier_bindingName name)
    rw [if_neg hidentifier, if_neg hother, if_neg (quoted_ne_bindingName name name)]

end ApiBindings.TypeScript
