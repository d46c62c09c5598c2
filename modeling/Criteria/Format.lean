import Criteria.JsonValue

namespace Criteria

/-- How the places of bound values are marked. -/
inductive Placeholder where
  | question
  | dollar
  deriving DecidableEq

/-- The mark of the value with a position in the statement, counted from 1. -/
def Placeholder.mark : Placeholder → Nat → String
  | .question, _ => "?"
  | .dollar, position => "$" ++ String.ofList (Nat.toDigits 10 position)

/-- How statements are written: the mark of bound values and the blanks per nesting level. -/
structure Format where
  placeholder : Placeholder := .question
  indent : Nat := 4
  deriving DecidableEq

namespace Format

instance : Inhabited Format := ⟨{}⟩

/-- The style that a name spells. -/
def placeholderOfName? : String → Option Placeholder
  | "question" => some .question
  | "dollar" => some .dollar
  | _ => none

/-- The style that a setting gives, by its name alone or as the name of a single member without
content. Notations differ in what holds no content. -/
def placeholderOf? (isVoid : Json → Bool) : Json → Option Placeholder
  | .string name => placeholderOfName? name
  | .object [(name, content)] => if isVoid content then placeholderOfName? name else none
  | _ => none

/-- An indent takes sixty-four bits at most. -/
def indentOf? : Json → Option Nat
  | .number (.integer n) => if 0 ≤ n ∧ n < UInt64.size then some n.toNat else none
  | _ => none

/-- One setting more; `seen` names those given before, and none is given twice. -/
def setMember? (isVoid : Json → Bool) (format : Format) (seen : List String) :
    String × Json → Option Format
  | ("placeholder", value) =>
    if "placeholder" ∈ seen then none
    else (placeholderOf? isVoid value).map fun style => { format with placeholder := style }
  | ("indent", value) =>
    if "indent" ∈ seen then none
    else (indentOf? value).map fun n => { format with indent := n }
  | _ => none

def setMembers? (isVoid : Json → Bool) (format : Format) (seen : List String) :
    List (String × Json) → Option Format
  | [] => some format
  | member :: rest => do
    setMembers? isVoid (← setMember? isVoid format seen member) (member.1 :: seen) rest

/-- The format that settings describe, by name or in the order of its fields; what is left out keeps
its default. -/
def ofSettings? (isVoid : Json → Bool) : Json → Option Format
  | .object members => setMembers? isVoid {} [] members
  | .array [] => some {}
  | .array [style] => setMembers? isVoid {} [] [("placeholder", style)]
  | .array [style, indent] =>
    setMembers? isVoid {} [] [("placeholder", style), ("indent", indent)]
  | _ => none

/-- In JSON only null holds no content. -/
def ofJson? (j : Json) : Option Format :=
  ofSettings? (fun content => match content with | .null => true | _ => false) j

end Format

end Criteria
