/-!
# Entries by name

Lists of entries in which a name stands once.  Writing an entry keeps the place of its name.
-/

namespace ApiBindings

variable {α : Type}

/-- Writes a value under a text key: a key that is present keeps its place. -/
def putEntry (key : String) (value : α) : List (String × α) → List (String × α)
  | [] => [(key, value)]
  | (k, v) :: rest =>
    if k = key then (k, value) :: rest else (k, v) :: putEntry key value rest

def mergeEntries (entries : List (String × α)) : List (String × α) :=
  entries.foldl (fun acc entry => putEntry entry.1 entry.2 acc) []

end ApiBindings
