import Criteria.JsonValue

namespace Criteria

/-- Numbers of a JSON text: a point or an exponent mark tells them from integers, and decimal
exponents from -5 to 15 are written without the mark. -/
def JsonNumber.style : NumberStyle := ⟨.even, fun e => -5 ≤ e ∧ e ≤ 15, true⟩

def integerText (n : Int) : List Char :=
  (if n < 0 then ['-'] else []) ++ Nat.toDigits 10 n.natAbs

/-- The text of a number; one that is not finite has none and is written as null. -/
def JsonNumber.text : JsonNumber → List Char
  | .integer n => integerText n
  | .real (.finite negative rank) => style.finiteText .double negative rank
  | .real _ => ['n', 'u', 'l', 'l']

namespace Json

/-- A character inside a string: quotes, backslashes and control characters are escaped. -/
def escaped (c : Char) : List Char :=
  match c with
  | '"' => ['\\', '"']
  | '\\' => ['\\', '\\']
  | '\x08' => ['\\', 'b']
  | '\t' => ['\\', 't']
  | '\n' => ['\\', 'n']
  | '\x0c' => ['\\', 'f']
  | '\r' => ['\\', 'r']
  | c =>
    if c.toNat < 0x20 then
      ['\\', 'u', '0', '0', Nat.digitChar (c.toNat / 16), Nat.digitChar (c.toNat % 16)]
    else [c]

def stringText (s : String) : List Char := '"' :: s.toList.flatMap escaped ++ ['"']

def boolText (b : Bool) : List Char := if b then "true".toList else "false".toList

mutual

/-- The text without blanks. -/
def compactText : Json → List Char
  | .null => ['n', 'u', 'l', 'l']
  | .bool b => boolText b
  | .number n => n.text
  | .string s => stringText s
  | .array items => '[' :: [','].intercalate (compactItems items) ++ [']']
  | .object members => '{' :: [','].intercalate (compactMembers members) ++ ['}']

def compactItems : List Json → List (List Char)
  | [] => []
  | item :: rest => compactText item :: compactItems rest

def compactMembers : List (String × Json) → List (List Char)
  | [] => []
  | (key, value) :: rest => (stringText key ++ ':' :: compactText value) :: compactMembers rest

end

def compact (j : Json) : String := String.ofList j.compactText

/-- Parts between brackets, each on a line of its own, two blanks deeper than the brackets. -/
def indented (opening closing : Char) (depth : Nat) (parts : List (List Char)) : List Char :=
  if parts.isEmpty then [opening, closing]
  else
    let newline := fun depth => '\n' :: List.replicate (2 * depth) ' '
    opening :: [','].intercalate (parts.map (newline (depth + 1) ++ ·)) ++
      newline depth ++ [closing]

mutual

/-- The text with a line for every item and member. -/
def prettyText (depth : Nat) : Json → List Char
  | .array items => indented '[' ']' depth (prettyItems (depth + 1) items)
  | .object members => indented '{' '}' depth (prettyMembers (depth + 1) members)
  | .null => ['n', 'u', 'l', 'l']
  | .bool b => boolText b
  | .number n => n.text
  | .string s => stringText s

def prettyItems (depth : Nat) : List Json → List (List Char)
  | [] => []
  | item :: rest => prettyText depth item :: prettyItems depth rest

def prettyMembers (depth : Nat) : List (String × Json) → List (List Char)
  | [] => []
  | (key, value) :: rest =>
    (stringText key ++ ':' :: ' ' :: prettyText depth value) :: prettyMembers depth rest

end

def pretty (j : Json) : String := String.ofList (j.prettyText 0)

end Json

end Criteria
