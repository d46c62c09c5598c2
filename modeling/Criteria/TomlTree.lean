import Criteria.TomlToken

namespace Criteria

/-- Tokens with everything between two brackets taken together. -/
inductive TomlTree where
  | token (t : TomlToken)
  | bracket (items : List TomlTree)
  | brace (items : List TomlTree)

namespace TomlTree

/-- Closes brackets over the rest of the tokens. `done` holds what stands behind the innermost
open bracket, last first, and `frames` what stands before each open one, which is a brace if so
marked. -/
def nest? (frames : List (Bool × List TomlTree)) (done : List TomlTree) :
    List TomlToken → Option (List TomlTree)
  | [] => if frames.isEmpty then some done.reverse else none
  | .openBracket :: rest => nest? ((false, done) :: frames) [] rest
  | .openBrace :: rest => nest? ((true, done) :: frames) [] rest
  | .closeBracket :: rest =>
    match frames with
    | (false, outer) :: frames => nest? frames (.bracket done.reverse :: outer) rest
    | _ => none
  | .closeBrace :: rest =>
    match frames with
    | (true, outer) :: frames => nest? frames (.brace done.reverse :: outer) rest
    | _ => none
  | t :: rest => nest? frames (.token t :: done) rest

def isLineEnd : TomlTree → Bool
  | .token .lineEnd => true
  | _ => false

def isComma : TomlTree → Bool
  | .token .comma => true
  | _ => false

/-- The lines between line ends that stand in no brackets. -/
def lines (trees : List TomlTree) : List (List TomlTree) := trees.splitOnP isLineEnd

/-- One part of a key: a bare word without a plus sign, or a string on one line. -/
def keyPart? : TomlToken → Option String
  | .bare word => if word.toList.all (· ≠ '+') then some word else none
  | .string s => some s
  | _ => none

/-- The parts of a key, with points between them. -/
def keyPath? : List TomlTree → Option (List String)
  | [.token part] => (keyPart? part).map fun p => [p]
  | .token part :: .token .dot :: rest => do
    let p ← keyPart? part
    let path ← keyPath? rest
    some (p :: path)
  | _ => none

def digit? (base : Nat) (c : Char) : Option Nat :=
  (JsonToken.hexDigit? c).filter (· < base)

/-- Digits of a base; underscores may stand between two digits. -/
def digits? (base : Nat) (cs : List Char) : Option Nat :=
  let groups := cs.splitOn '_'
  if groups.any List.isEmpty then none
  else groups.flatten.foldlM (fun n c => (digit? base c).map (n * base + ·)) 0

/-- Decimal digits without a leading zero. -/
def decimal? (cs : List Char) : Option Nat :=
  if cs.head? = some '0' ∧ cs ≠ ['0'] then none else digits? 10 cs

def integer? (word : String) : Option Int :=
  match word.toList with
  | '0' :: 'x' :: cs => (digits? 16 cs).map Int.ofNat
  | '0' :: 'o' :: cs => (digits? 8 cs).map Int.ofNat
  | '0' :: 'b' :: cs => (digits? 2 cs).map Int.ofNat
  | '+' :: cs => (decimal? cs).map Int.ofNat
  | '-' :: cs => (decimal? cs).map fun n => -Int.ofNat n
  | cs => (decimal? cs).map Int.ofNat

end TomlTree

end Criteria
