import Criteria.Binary

namespace Criteria

/-- The decimal number `digits * 10 ^ exponent`. -/
structure Decimal where
  digits : Nat
  exponent : Int
  deriving DecidableEq

namespace Decimal

/-- The number of decimal digits of `n`. -/
def digitCount (n : Nat) : Nat := (Nat.toDigits 10 n).length

/-- The place of the point: a number other than zero lies in `[10 ^ (point - 1), 10 ^ point)`. -/
def point (d : Decimal) : Int := digitCount d.digits + d.exponent

/-- The nearest floating-point number. Four hundred places on either side of the point lie outside
the range of both precisions, so no power of ten beyond them is computed. -/
def toBinary (p : Precision) (negative : Bool) (d : Decimal) : Binary p :=
  if d.digits = 0 ∨ d.point < -400 then .ofRank p negative 0
  else if 400 < d.point then .infinite negative
  else .ofRatio p negative (d.digits * Nat.pow 10 d.exponent.toNat)
    (Nat.pow 10 (-d.exponent).toNat)

/-- The value of decimal digits, most significant first. -/
def ofDigits (ds : List Char) : Nat :=
  ds.foldl (fun n d => n * 10 + (d.toNat - '0'.toNat)) 0

end Decimal

end Criteria
