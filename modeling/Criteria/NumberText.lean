import Criteria.ShortestDecimal

namespace Criteria

/-- How numbers are laid out: which of two equally near decimals stands for a number, which decimal
exponents of the first digit are written without an exponent mark, and whether a whole number
keeps a point. -/
structure NumberStyle where
  tie : Tie
  positional : Int → Bool
  pointed : Bool

namespace NumberStyle

/-- The significant digits, without the zeros at their end; none for zero. -/
def significant (d : Decimal) : List Char :=
  ((Nat.toDigits 10 d.digits).reverse.dropWhile (· = '0')).reverse

/-- Digits with the point after the first `point` of them, filled up with zeros. -/
def positionalText (pointed : Bool) (digits : List Char) (point : Int) : List Char :=
  if point ≤ 0 then '0' :: '.' :: List.replicate (-point).toNat '0' ++ digits
  else if digits.length ≤ point.toNat then
    digits ++ List.replicate (point.toNat - digits.length) '0' ++ if pointed then ['.', '0'] else []
  else digits.take point.toNat ++ '.' :: digits.drop point.toNat

/-- Digits with the point after the first one and a signed exponent. -/
def exponentText (digits : List Char) (exponent : Int) : List Char :=
  digits.take 1 ++ (if digits.length ≤ 1 then [] else '.' :: digits.drop 1) ++
    'e' :: (if exponent < 0 then '-' else '+') :: Nat.toDigits 10 exponent.natAbs

def decimalText (style : NumberStyle) (d : Decimal) : List Char :=
  if style.positional (d.point - 1) then positionalText style.pointed (significant d) d.point
  else exponentText (significant d) (d.point - 1)

/-- The text of the number of a sign and rank. -/
def finiteText (style : NumberStyle) (p : Precision) (negative : Bool) (rank : Nat) : List Char :=
  (if negative then ['-'] else []) ++
    style.decimalText (if rank = 0 then ⟨0, 0⟩ else .shortest p style.tie rank)

end NumberStyle

end Criteria
