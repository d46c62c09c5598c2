import Criteria.JsonValue

namespace Criteria

namespace Precision

variable (p : Precision)

/-- The rank of a power of ten. -/
def powerOfTen (exponent : Nat) : Nat := p.nearest (Nat.pow 10 exponent <<< p.least) 1

/-- The rank of a magnitude times a power of ten. -/
def timesPowerOfTen (rank exponent : Nat) : Nat :=
  p.nearest (p.units rank * p.units (p.powerOfTen exponent)) (1 <<< p.least)

/-- The rank of a magnitude divided by a power of ten. -/
def overPowerOfTen (rank exponent : Nat) : Nat :=
  p.nearest (p.units rank <<< p.least) (p.units (p.powerOfTen exponent))

end Precision

/-- The parts of a number as written. -/
structure Numeral where
  negative : Bool
  whole : List Char
  fraction : List Char
  exponent : Option Int

namespace Numeral

/-- The number exactly as written. -/
def decimal (n : Numeral) : Decimal :=
  ⟨Decimal.ofDigits (n.whole ++ n.fraction), n.exponent.getD 0 - n.fraction.length⟩

/-- Appends digits to a number as long as it fits sixty-four bits, and counts them. -/
def appendFitting (significand : Nat) : List Char → Nat × Nat
  | [] => (significand, 0)
  | d :: ds =>
    let next := significand * 10 + Decimal.ofDigits [d]
    if next < UInt64.size then
      let (significand, count) := appendFitting next ds
      (significand, count + 1)
    else (significand, 0)

/-- The digits of a number that count: as many of the whole part as fit sixty-four bits, then as
many of the fraction as still do; every digit of the whole part that is left out counts for its
place. -/
def significant (n : Numeral) : Nat × Int :=
  let (significand, taken) := appendFitting 0 n.whole
  let (significand, behind) := appendFitting significand n.fraction
  (significand, (n.whole.length : Int) - taken - behind + n.exponent.getD 0)

/-- The largest power of ten that is computed with. -/
def maxPower : Nat := 308

/-- The rank of `significand * 10 ^ exponent`, none if it is too large. The significand, the power
of ten and their product or quotient are rounded each; a quotient by a larger power is taken in
two steps, after which nothing is left of it. -/
def scaled? (significand : Nat) (exponent : Int) : Option Nat :=
  let p := Precision.double
  let base := p.nearest (significand <<< p.least) 1
  let places := exponent.natAbs
  if 0 ≤ exponent then
    if maxPower < places then if significand = 0 then some 0 else none
    else
      let rank := p.timesPowerOfTen base places
      if rank < p.limit then some rank else none
  else if places ≤ maxPower then some (p.overPowerOfTen base places)
  else if places ≤ 2 * maxPower then
    some (p.overPowerOfTen (p.overPowerOfTen base maxPower) (places - maxPower))
  else some 0

/-- An integer within the range of integers is kept. Minus zero and every other number become
floating-point numbers, and a number too large for one is refused. -/
def value? (n : Numeral) : Option JsonNumber :=
  let magnitude := Decimal.ofDigits n.whole
  let integer := if n.negative then -(magnitude : Int) else magnitude
  if n.fraction = [] ∧ n.exponent = none ∧ ¬ (n.negative ∧ magnitude = 0) ∧
      Int64.minValue.toInt ≤ integer ∧ integer < UInt64.size then
    some (.integer integer)
  else
    (scaled? n.significant.1 n.significant.2).map fun rank =>
      .real (.ofRank .double n.negative rank)

def isExponentMark (c : Char) : Bool := c = 'e' || c = 'E'

/-- The digits behind a point at the start of a text, `[]` if there is no point. -/
def fraction? : List Char → Option (List Char)
  | '.' :: cs =>
    let digits := cs.takeWhile Char.isDigit
    if digits = [] then none else some digits
  | _ => some []

/-- The signed digits at the start of a text, and how many characters they take. -/
def signed? (cs : List Char) : Option (Int × Nat) :=
  let sign := match cs with
    | '+' :: _ => 1
    | '-' :: _ => 1
    | _ => 0
  let digits := (cs.drop sign).takeWhile Char.isDigit
  let magnitude : Int := Decimal.ofDigits digits
  if digits = [] then none
  else some (if cs.head? = some '-' then -magnitude else magnitude, sign + digits.length)

/-- The exponent at the start of a text, if there is one, and how many characters it takes. -/
def exponent? : List Char → Option (Option Int × Nat)
  | c :: cs =>
    if isExponentMark c then (signed? cs).map fun (e, taken) => (some e, taken + 1)
    else some (none, 0)
  | [] => some (none, 0)

/-- The number at the start of a text, and how many characters it takes. No digit may follow a
leading zero. -/
def scan? (cs : List Char) : Option (Numeral × Nat) := do
  let negative := cs.head? == some '-'
  let body := if negative then cs.drop 1 else cs
  let whole := body.takeWhile Char.isDigit
  guard (whole ≠ [] ∧ (whole.head? = some '0' → whole.length = 1))
  let fraction ← fraction? (body.drop whole.length)
  let fractionLength := if fraction = [] then 0 else fraction.length + 1
  let (exponent, taken) ← exponent? (body.drop (whole.length + fractionLength))
  some (⟨negative, whole, fraction, exponent⟩,
    negative.toNat + whole.length + fractionLength + taken)

end Numeral

end Criteria
