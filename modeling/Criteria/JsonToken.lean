import Criteria.Numeral

namespace Criteria

inductive JsonToken where
  | openArray
  | closeArray
  | openObject
  | closeObject
  | comma
  | colon
  | string (s : String)
  | literal (value : Json)
  /-- Text that starts no token. -/
  | bad

namespace JsonToken

def hexDigit? (c : Char) : Option Nat :=
  if c.isDigit then some (c.toNat - '0'.toNat)
  else if 'a' ≤ c ∧ c ≤ 'f' then some (c.toNat - 'a'.toNat + 10)
  else if 'A' ≤ c ∧ c ≤ 'F' then some (c.toNat - 'A'.toNat + 10)
  else none

/-- The number written by hexadecimal digits. -/
def hexNumber? (cs : List Char) : Option Nat :=
  cs.foldlM (fun n c => (hexDigit? c).map (n * 16 + ·)) 0

/-- The character that a letter behind a backslash stands for. -/
def escape? : Char → Option Char
  | '"' => some '"'
  | '\\' => some '\\'
  | '/' => some '/'
  | 'b' => some '\x08'
  | 'f' => some '\x0c'
  | 'n' => some '\n'
  | 'r' => some '\r'
  | 't' => some '\t'
  | _ => none

/-- What a code unit of sixteen bits does behind the leading half `lead` of a surrogate pair, if one
stands before it: it completes a character, or becomes the leading half itself. A half without its
partner is refused. -/
def joinUnit? (lead : Option Nat) (unit : Nat) : Option (Char ⊕ Nat) :=
  let leads := 0xD800 ≤ unit ∧ unit < 0xDC00
  let trails := 0xDC00 ≤ unit ∧ unit < 0xE000
  match lead with
  | none =>
    if leads then some (.inr unit) else if trails then none else some (.inl (Char.ofNat unit))
  | some lead =>
    if trails then some (.inl (Char.ofNat (0x10000 + (lead - 0xD800) * 0x400 + (unit - 0xDC00))))
    else none

/-- The rest of a string behind its opening quote, and how many characters it takes; `done` holds
the characters read, last first, and `lead` a leading half that waits for its partner. -/
def stringBody? (lead : Option Nat) (done : List Char) (taken : Nat) :
    List Char → Option (String × Nat)
  | [] => none
  | '\\' :: 'u' :: a :: b :: c :: d :: cs =>
    match (hexNumber? [a, b, c, d]).bind (joinUnit? lead) with
    | none => none
    | some (.inl char) => stringBody? none (char :: done) (taken + 6) cs
    | some (.inr unit) => stringBody? (some unit) done (taken + 6) cs
  | '\\' :: c :: cs =>
    match lead, escape? c with
    | none, some char => stringBody? none (char :: done) (taken + 2) cs
    | _, _ => none
  | c :: cs =>
    if lead.isSome ∨ c.toNat < 0x20 ∨ c = '\\' then none
    else if c = '"' then some (String.ofList done.reverse, taken + 1)
    else stringBody? none (c :: done) (taken + 1) cs

def isBlank (c : Char) : Bool := c = ' ' || c = '\t' || c = '\n' || c = '\r'

/-- A literal of fixed spelling at the start of a text. -/
def word? (spelling : String) (value : Json) (cs : List Char) : Option (JsonToken × Nat) :=
  if spelling.toList.isPrefixOf cs then some (.literal value, spelling.length) else none

/-- The token at the start of a text, and how many characters it takes. -/
def first? : List Char → Option (JsonToken × Nat)
  | '[' :: _ => some (.openArray, 1)
  | ']' :: _ => some (.closeArray, 1)
  | '{' :: _ => some (.openObject, 1)
  | '}' :: _ => some (.closeObject, 1)
  | ',' :: _ => some (.comma, 1)
  | ':' :: _ => some (.colon, 1)
  | '"' :: cs => (stringBody? none [] 1 cs).map fun (s, taken) => (.string s, taken)
  | 'n' :: cs => word? "null" .null ('n' :: cs)
  | 't' :: cs => word? "true" (.bool true) ('t' :: cs)
  | 'f' :: cs => word? "false" (.bool false) ('f' :: cs)
  | cs => do
    let (numeral, taken) ← Numeral.scan? cs
    let n ← numeral.value?
    some (.literal (.number n), taken)

/-- The tokens of a text whose first `skip` characters belong to the token before it. -/
def scan : Nat → List Char → List JsonToken
  | _, [] => []
  | skip + 1, _ :: cs => scan skip cs
  | 0, c :: cs =>
    if isBlank c then scan 0 cs
    else match first? (c :: cs) with
      | some (token, taken) => token :: scan (taken - 1) cs
      | none => [.bad]

def ofText (text : String) : List JsonToken := scan 0 text.toList

end JsonToken

end Criteria
