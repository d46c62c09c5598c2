import Criteria.JsonToken

namespace Criteria

inductive TomlToken where
  | lineEnd
  /-- A key or a number without quotes. -/
  | bare (s : String)
  | string (s : String)
  /-- A string that may run over several lines. -/
  | block (s : String)
  | equals
  | dot
  | comma
  | openBracket
  | closeBracket
  | openBrace
  | closeBrace
  /-- Text that starts no token. -/
  | bad
  deriving DecidableEq

namespace TomlToken

/-- A character that comments and strings may hold as it is. -/
def isPlain (c : Char) : Bool := c = '\t' || (0x20 ≤ c.toNat && c.toNat ≠ 0x7F)

def isBare (c : Char) : Bool := c.isAlphanum || c = '_' || c = '-' || c = '+'

/-- The character with a code point. -/
def charOf? (n : Nat) : Option Char :=
  if n < 0xD800 ∨ (0xE000 ≤ n ∧ n < 0x110000) then some (Char.ofNat n) else none

/-- The character that a letter behind a backslash stands for. -/
def escape? : Char → Option Char
  | '"' => some '"'
  | '\\' => some '\\'
  | 'b' => some '\x08'
  | 'e' => some '\x1b'
  | 'f' => some '\x0c'
  | 'n' => some '\n'
  | 'r' => some '\r'
  | 't' => some '\t'
  | _ => none

/-- The code point behind a backslash, and how many characters it takes. -/
def codePoint? : List Char → Option (Char × Nat)
  | mark :: cs =>
    let count := if mark = 'x' then 2 else if mark = 'u' then 4 else if mark = 'U' then 8 else 0
    let digits := cs.take count
    if count = 0 ∨ digits.length < count then none
    else ((JsonToken.hexNumber? digits).bind charOf?).map fun c => (c, count + 1)
  | [] => none

/-- What a backslash stands for together with the characters behind it, and how many it takes. -/
def unescape? (cs : List Char) : Option (Char × Nat) :=
  match cs with
  | c :: _ => ((escape? c).map fun char => (char, 1)).or (codePoint? cs)
  | [] => none

/-- The rest of a string on one line behind its opening quote, and how many characters it takes;
`skip` characters belong to the escape before them. -/
def lineBody? (quote : Char) (done : List Char) (taken : Nat) :
    Nat → List Char → Option (String × Nat)
  | _, [] => none
  | skip + 1, _ :: cs => lineBody? quote done (taken + 1) skip cs
  | 0, c :: cs =>
    if c = quote then some (String.ofList done.reverse, taken + 1)
    else if c = '\\' ∧ quote = '"' then
      match unescape? cs with
      | some (char, count) => lineBody? quote (char :: done) (taken + 1) count cs
      | none => none
    else if isPlain c then lineBody? quote (c :: done) (taken + 1) 0 cs
    else none

/-- The line break at the start of a text takes one or two characters. -/
def lineEnd? : List Char → Option Nat
  | '\n' :: _ => some 1
  | '\r' :: '\n' :: _ => some 2
  | _ => none

/-- Whether nothing but blanks stands before the end of the line. -/
def endsLine (cs : List Char) : Bool :=
  (lineEnd? (cs.dropWhile fun c => c = ' ' || c = '\t')).isSome

/-- The rest of a string over several lines behind its opening quotes, and how many characters it
takes. Up to two quotes may stand before the closing ones, and a backslash at the end of a line
joins the next text to what is before it (`joining`). -/
def blockBody? (quote : Char) (joining : Bool) (done : List Char) (taken : Nat) :
    Nat → List Char → Option (String × Nat)
  | _, [] => none
  | skip + 1, _ :: cs => blockBody? quote joining done (taken + 1) skip cs
  | 0, c :: cs =>
    let quotes := ((c :: cs).takeWhile (· = quote)).length
    if 3 ≤ quotes then
      some (String.ofList (List.replicate (min quotes 5 - 3) quote ++ done).reverse,
        taken + min quotes 5)
    else if joining ∧ (c = ' ' ∨ c = '\t' ∨ (lineEnd? (c :: cs)).isSome) then
      blockBody? quote true done (taken + 1) ((lineEnd? (c :: cs)).getD 1 - 1) cs
    else if c = '\\' ∧ quote = '"' then
      if endsLine cs then blockBody? quote true done (taken + 1) 0 cs
      else
        match unescape? cs with
        | some (char, count) => blockBody? quote false (char :: done) (taken + 1) count cs
        | none => none
    else
      match lineEnd? (c :: cs) with
      | some count => blockBody? quote false ('\n' :: done) (taken + 1) (count - 1) cs
      | none => if isPlain c then blockBody? quote false (c :: done) (taken + 1) 0 cs else none

/-- The string at the start of a text. A line break right behind three opening quotes does not
count. -/
def string? (quote : Char) (cs : List Char) : Option (TomlToken × Nat) :=
  if [quote, quote, quote].isPrefixOf cs then
    let skip := (lineEnd? (cs.drop 3)).getD 0
    (blockBody? quote false [] 3 skip (cs.drop 3)).map fun (s, taken) => (.block s, taken)
  else (lineBody? quote [] 1 0 (cs.drop 1)).map fun (s, taken) => (.string s, taken)

/-- The token at the start of a text, none for blanks and comments, and how many characters it
takes. -/
def first? (cs : List Char) : Option (Option TomlToken × Nat) :=
  match cs with
  | ' ' :: _ | '\t' :: _ => some (none, 1)
  | '#' :: rest => some (none, 1 + (rest.takeWhile isPlain).length)
  | '=' :: _ => some (some .equals, 1)
  | '.' :: _ => some (some .dot, 1)
  | ',' :: _ => some (some .comma, 1)
  | '[' :: _ => some (some .openBracket, 1)
  | ']' :: _ => some (some .closeBracket, 1)
  | '{' :: _ => some (some .openBrace, 1)
  | '}' :: _ => some (some .closeBrace, 1)
  | '"' :: _ => (string? '"' cs).map fun (token, taken) => (some token, taken)
  | '\'' :: _ => (string? '\'' cs).map fun (token, taken) => (some token, taken)
  | _ =>
    match lineEnd? cs with
    | some count => some (some .lineEnd, count)
    | none =>
      let word := cs.takeWhile isBare
      if word = [] then none else some (some (.bare (String.ofList word)), word.length)

/-- The tokens of a text whose first `skip` characters belong to the token before it. -/
def scan : Nat → List Char → List TomlToken
  | _, [] => []
  | skip + 1, _ :: cs => scan skip cs
  | 0, c :: cs =>
    match first? (c :: cs) with
    | some (token, taken) => token.toList ++ scan (taken - 1) cs
    | none => [.bad]

/-- A byte order mark before the text does not count. -/
def ofText (text : String) : List TomlToken :=
  match text.toList with
  | '\uFEFF' :: cs => scan 0 cs
  | cs => scan 0 cs

end TomlToken

end Criteria
