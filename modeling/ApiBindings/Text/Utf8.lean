/-!
# Reading UTF-8

Bytes are read as characters.  Where they are no UTF-8, the longest start of a character that can be
seen, or a single byte, is replaced by one replacement character.
-/

namespace ApiBindings.Text

def replacement : Char := Char.ofNat 0xFFFD

/-- How a character in UTF-8 begins: the bits in its first byte, and the range of each byte after
it. -/
structure Utf8Start where
  bits : Nat
  ranges : List (Nat × Nat)

/-- What a byte begins, if it begins a character. -/
def utf8Start? (b : Nat) : Option Utf8Start :=
  let any := (0x80, 0xBF)
  if b < 0x80 then some ⟨b, []⟩
  else if b < 0xC2 then none
  else if b < 0xE0 then some ⟨b - 0xC0, [any]⟩
  else if b = 0xE0 then some ⟨0, [(0xA0, 0xBF), any]⟩
  else if b = 0xED then some ⟨0xD, [(0x80, 0x9F), any]⟩
  else if b < 0xF0 then some ⟨b - 0xE0, [any, any]⟩
  else if b = 0xF0 then some ⟨0, [(0x90, 0xBF), any, any]⟩
  else if b < 0xF4 then some ⟨b - 0xF0, [any, any, any]⟩
  else if b = 0xF4 then some ⟨4, [(0x80, 0x8F), any, any]⟩
  else none

/-- Reads bytes, with a character under way: its bits so far and the ranges of the bytes that it
still needs. -/
def readUtf8 (under? : Option Utf8Start) : List UInt8 → List Char
  | [] => if under?.isSome then [replacement] else []
  | b :: rest =>
    let n := b.toNat
    let fresh : List Char :=
      match utf8Start? n with
      | none => replacement :: readUtf8 none rest
      | some ⟨bits, []⟩ => Char.ofNat bits :: readUtf8 none rest
      | some start => readUtf8 (some start) rest
    match under? with
    | none => fresh
    | some ⟨_, []⟩ => fresh
    | some ⟨bits, (low, high) :: more⟩ =>
      if low ≤ n ∧ n ≤ high then
        let bits := 64 * bits + (n - 0x80)
        if more.isEmpty then Char.ofNat bits :: readUtf8 none rest
        else readUtf8 (some ⟨bits, more⟩) rest
      else replacement :: fresh

def ofUtf8 (bytes : List UInt8) : List Char := readUtf8 none bytes

/-- The bytes of characters in UTF-8. -/
def toUtf8 (s : List Char) : List UInt8 := s.flatMap String.utf8EncodeChar

end ApiBindings.Text
