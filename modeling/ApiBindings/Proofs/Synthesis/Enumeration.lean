import ApiBindings.Synthesis.SchemaType

/-!
# Enumerations

The type of an enumeration is made of the literals of its values that are texts.
-/

namespace ApiBindings

def enumLiteral? : Value → Option String
  | .atom (.string s) => some (Text.quoted s)
  | _ => none

theorem enumLiteral?_eq_some {value : Value} {text : String} (h : enumLiteral? value = some text) :
    ∃ s, value = .atom (.string s) ∧ text = Text.quoted s := by
  unfold enumLiteral? at h
  split at h
  · cases h
    exact ⟨_, rfl, rfl⟩
  · cases h

theorem enumType_eq (values : List Value) (site : Option String) : enumType values site =
    if (values.filterMap enumLiteral?).length = values.length then
      .ok (Text.join " | " (values.filterMap enumLiteral?))
    else .error (.mixedEnum values site) := rfl

end ApiBindings
