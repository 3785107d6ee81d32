/-!
# Pieces of text

Joining, affixes, search and replacement.  The work is done on lists of characters by structural
recursion; the functions on `String` only convert.
-/

namespace ApiBindings.Text

def join (sep : String) : List String → String
  | [] => ""
  | [s] => s
  | s :: t :: rest => s ++ sep ++ join sep (t :: rest)

@[simp] theorem join_nil (sep : String) : join sep [] = "" := rfl

@[simp] theorem join_singleton (sep s : String) : join sep [s] = s := rfl

@[simp] theorem join_cons_cons (sep s t : String) (rest : List String) :
    join sep (s :: t :: rest) = s ++ sep ++ join sep (t :: rest) := rfl

/-! ## Affixes -/

/-- What follows a given beginning, if the text begins so. -/
def afterStart? : List Char → List Char → Option (List Char)
  | [], s => some s
  | _ :: _, [] => none
  | p :: ps, c :: cs => if p = c then afterStart? ps cs else none

/-- What follows `start` in `s`, if `s` begins with it. -/
def dropStart? (start s : String) : Option String :=
  (afterStart? start.toList s.toList).map String.ofList

def startsWith (start s : String) : Bool := start.toList.isPrefixOf s.toList

def endsWith (stop s : String) : Bool := stop.toList.isSuffixOf s.toList

theorem afterStart?_eq_some_iff {p s rest : List Char} :
    afterStart? p s = some rest ↔ s = p ++ rest := by
  induction p generalizing s with
  | nil => simp [afterStart?]
  | cons a p ih =>
    cases s with
    | nil => simp [afterStart?]
    | cons c s =>
      simp only [afterStart?, List.cons_append, List.cons.injEq]
      split
      · rename_i h; simp [ih, h]
      · rename_i h; simp [Ne.symm h]

theorem dropStart?_eq_some_iff {start s rest : String} :
    dropStart? start s = some rest ↔ s = start ++ rest := by
  rw [dropStart?, Option.map_eq_some_iff]
  constructor
  · rintro ⟨cs, hcs, rfl⟩
    rw [← String.toList_inj, String.toList_append, String.toList_ofList]
    exact afterStart?_eq_some_iff.mp hcs
  · rintro rfl
    refine ⟨rest.toList, afterStart?_eq_some_iff.mpr ?_, String.ofList_toList⟩
    rw [String.toList_append]

theorem dropStart?_append (start rest : String) : dropStart? start (start ++ rest) = some rest :=
  dropStart?_eq_some_iff.mpr rfl

theorem dropStart?_eq_none_iff {start s : String} :
    dropStart? start s = none ↔ ¬ start.toList <+: s.toList := by
  rw [dropStart?, Option.map_eq_none_iff, ← Option.not_isSome_iff_eq_none,
    Option.isSome_iff_exists, List.prefix_iff_exists_append_eq]
  refine not_congr (exists_congr fun rest => ?_)
  rw [afterStart?_eq_some_iff, eq_comm]

/-! ## Search and replacement -/

/-- whether `part` stands somewhere in the text -/
def occursIn (part : List Char) : List Char → Bool
  | [] => part.isEmpty
  | c :: cs => part.isPrefixOf (c :: cs) || occursIn part cs

/-- Replaces the occurrences of `old`, which is not empty, from left to right; they do not
overlap. -/
def replaceAll (old new : List Char) : List Char → List Char :=
  go 0
where
  /-- Goes on after `skip` characters that belong to an occurrence already replaced. -/
  go : Nat → List Char → List Char
    | _, [] => []
    | skip + 1, _ :: cs => go skip cs
    | 0, c :: cs =>
      if old.isPrefixOf (c :: cs) then new ++ go (old.length - 1) cs else c :: go 0 cs

/-- Replaces the occurrences of `old`, which is not empty, from left to right. -/
def replace (old new s : String) : String :=
  String.ofList (replaceAll old.toList new.toList s.toList)

def beforeChar (sep : Char) (s : List Char) : List Char := s.takeWhile (· != sep)

def afterLastChar (sep : Char) (s : List Char) : List Char :=
  (s.reverse.takeWhile (· != sep)).reverse

end ApiBindings.Text
