namespace Criteria

/-- A binary floating-point layout: `fraction` bits behind the leading one, `binades` of finite
magnitudes, and least positive value `2 ^ -least`. -/
structure Precision where
  fraction : Nat
  binades : Nat
  least : Nat
  deriving DecidableEq

def Precision.double : Precision := ⟨52, 2047, 1074⟩

def Precision.single : Precision := ⟨23, 255, 149⟩

/-- The number of finite magnitudes. -/
def Precision.limit (p : Precision) : Nat := p.binades <<< p.fraction

/-- The exponent of the unit in the last place of the magnitude of a rank. -/
def Precision.shift (p : Precision) (rank : Nat) : Nat := (rank >>> p.fraction) - 1

/-- The magnitude of a rank in units of `2 ^ -least`; magnitudes grow with their ranks. -/
def Precision.units (p : Precision) (rank : Nat) : Nat :=
  (rank - (p.shift rank <<< p.fraction)) <<< p.shift rank

/-- The integer nearest to `num / den`, of two the even one. -/
def nearestEven (num den : Nat) : Nat :=
  let whole := num / den
  let twice := 2 * (num % den)
  if twice < den then whole else if den < twice then whole + 1 else whole + whole % 2

/-- The rank of the magnitude nearest to `num / den` units, of two the one with even significand. -/
def Precision.nearest (p : Precision) (num den : Nat) : Nat :=
  let shift := (num / den).log2 - p.fraction
  (shift <<< p.fraction) + nearestEven num (den <<< shift)

/-- A floating-point number, given by its sign and the rank of its magnitude. -/
inductive Binary (p : Precision) where
  | nan
  | infinite (negative : Bool)
  | finite (negative : Bool) (rank : Fin p.limit)
  deriving DecidableEq

abbrev Binary64 := Binary .double

abbrev Binary32 := Binary .single

namespace Binary

variable {p : Precision}

/-- The number of a rank; ranks past the finite ones are infinite. -/
def ofRank (p : Precision) (negative : Bool) (rank : Nat) : Binary p :=
  if h : rank < p.limit then .finite negative ⟨rank, h⟩ else .infinite negative

/-- The number nearest to `num / den`, negated if asked. -/
def ofRatio (p : Precision) (negative : Bool) (num den : Nat) : Binary p :=
  ofRank p negative (p.nearest (num <<< p.least) den)

/-- Equality as numbers: not-a-number differs from itself and the two zeros agree. -/
def same : Binary p → Binary p → Bool
  | .infinite a, .infinite b => a == b
  | .finite a m, .finite b n => m == n && (a == b || m.val == 0)
  | _, _ => false

def isFinite : Binary p → Bool
  | .finite _ _ => true
  | _ => false

/-- The same number in double precision. -/
def widen : Binary p → Binary64
  | .nan => .nan
  | .infinite negative => .infinite negative
  | .finite negative rank => ofRatio .double negative (p.units rank) (1 <<< p.least)

end Binary

end Criteria
