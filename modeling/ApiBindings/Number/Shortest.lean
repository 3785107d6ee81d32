import ApiBindings.Number.Binary64

/-!
# Shortest decimals

The text of a floating-point number has the fewest digits that read back as the same number, and of
those the digits nearest to it, on a tie the even ones.  They are selected in exact integer
arithmetic: for 1, 2, … 17 digits the two neighbours of the number on that decimal grid are tried.
-/

namespace ApiBindings.Binary64

/-- A decimal `digits * 10 ^ exponent`. -/
structure Decimal where
  digits : Nat
  exponent : Int
deriving DecidableEq, Repr

def compareScaled (a : Nat) (i : Int) (n : Nat) (j : Int) : Ordering :=
  compare (a * power 10 i.toNat * power 2 (-j).toNat) (n * power 2 j.toNat * power 10 (-i).toNat)

/-- whether the decimal lies among the reals that round to `m * 2 ^ e` -/
def readsBack (m : Nat) (e : Int) (d : Decimal) : Bool :=
  -- below a power of two the gap is half as wide
  let low := if m = power 2 52 ∧ -1074 < e then 4 * m - 1 else 4 * m - 2
  let even := m % 2 == 0
  let atLow := compareScaled d.digits d.exponent low (e - 2)
  let atHigh := compareScaled d.digits d.exponent (4 * m + 2) (e - 2)
  (atLow == .gt || (even && atLow == .eq)) && (atHigh == .lt || (even && atHigh == .eq))

/-- The least `k` with `m * 2 ^ e < 10 ^ k`, for `m` not zero. -/
def decimalScale (m : Nat) (e : Int) : Int :=
  let guess := (((m.log2 : Int) + e) * 30103).fdiv 100000 - 1
  match (List.range 5).find? fun (i : Nat) => compareScaled 1 (guess + i) m e == .gt with
  | some i => guess + i
  | none => guess + 5

/-- The nearer of the two neighbours on the grid `10 ^ g`, if one of them reads back. -/
def onGrid? (m : Nat) (e : Int) (g : Int) : Option Decimal :=
  let num := m * power 2 e.toNat * power 10 (-g).toNat
  let den := power 2 (-e).toNat * power 10 g.toNat
  let q := num / den
  let below := readsBack m e ⟨q, g⟩ && q != 0
  let above := readsBack m e ⟨q + 1, g⟩
  match below, above with
  | false, false => none
  | true, false => some ⟨q, g⟩
  | false, true => some ⟨q + 1, g⟩
  | true, true =>
    match compare (2 * (num % den)) den with
    | .lt => some ⟨q, g⟩
    | .gt => some ⟨q + 1, g⟩
    | .eq => some ⟨if q % 2 = 0 then q else q + 1, g⟩

/-- The shortest decimal of `m * 2 ^ e`, for `m` not zero.  Seventeen digits always suffice; the
last line keeps the exact value all the same. -/
def shortest (m : Nat) (e : Int) : Decimal :=
  let k := decimalScale m e
  match (List.range 17).findSome? fun (n : Nat) => onGrid? m e (k - (n + 1)) with
  | some d => d
  | none => ⟨m * power 2 e.toNat * power 5 (-e).toNat, min e 0⟩

/-! ## Text -/

def significantDigits (d : Decimal) : List Char :=
  ((toString d.digits).toList.reverse.dropWhile (· == '0')).reverse

/-- Digits whose point stands after the first `point` of them: positional when the first digit has
an exponent from -4 to 15, else with an exponent that has a sign and two digits at least. -/
def layOut (digits : List Char) (point : Int) : String :=
  let n := digits.length
  if -4 < point ∧ point ≤ 16 then
    if point ≤ 0 then
      "0." ++ String.ofList (List.replicate (-point).toNat '0' ++ digits)
    else if point.toNat < n then
      String.ofList (digits.take point.toNat ++ '.' :: digits.drop point.toNat)
    else
      String.ofList (digits ++ List.replicate (point.toNat - n) '0') ++ ".0"
  else
    let mantissa := match digits with
      | [d] => String.ofList [d]
      | d :: rest => String.ofList (d :: '.' :: rest)
      | [] => "0"
    let exponent := point - 1
    let size := toString exponent.natAbs
    mantissa ++ (if exponent < 0 then "e-" else "e+") ++
      (if size.length < 2 then "0" ++ size else size)

/-- The text of a number. -/
def text : Binary64 → String
  | .notANumber => "nan"
  | .infinite negative => if negative then "-inf" else "inf"
  | .finite negative m e =>
    let sign := if negative then "-" else ""
    if m = 0 then sign ++ "0.0"
    else
      let d := shortest m e
      let point := ((toString d.digits).length : Int) + d.exponent
      sign ++ layOut (significantDigits d) point

end ApiBindings.Binary64
