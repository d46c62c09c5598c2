import Criteria.Decimal

namespace Criteria

/-- Which of two decimals equally near to a number stands for it. -/
inductive Tie where
  | even
  | up
  deriving DecidableEq

namespace Decimal

/-- The decimals with `count` digits next to `exact * 10 ^ -least`, the nearer one first. -/
def neighbours (tie : Tie) (exact least count : Nat) : List Decimal :=
  let places := digitCount exact - count
  let unit := Nat.pow 10 places
  let low : Decimal := ⟨exact / unit, (places : Int) - least⟩
  let high : Decimal := ⟨exact / unit + 1, (places : Int) - least⟩
  let twice := 2 * (exact % unit)
  if twice < unit ∨ (twice = unit ∧ tie = .even ∧ low.digits % 2 = 0) then [low, high]
  else [high, low]

/-- Whether a decimal reads back as the number of a rank. -/
def readsBack (p : Precision) (rank : Nat) (d : Decimal) : Bool :=
  d.toBinary p false = .ofRank p false rank

/-- The shortest decimal that reads back as the number of a rank, of those with as few digits the
nearest. Seventeen digits always suffice; the exact expansion stands behind them, so that reading
back needs no such bound. -/
def shortest (p : Precision) (tie : Tie) (rank : Nat) : Decimal :=
  let exact := p.units rank * Nat.pow 5 p.least
  ((List.range 17).findSome? fun n =>
    (neighbours tie exact p.least (n + 1)).find? (readsBack p rank)).getD ⟨exact, -p.least⟩

end Decimal

end Criteria
