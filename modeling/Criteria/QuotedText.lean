import Criteria.Unprinted

namespace Criteria

namespace QuotedText

/-- A character between quotes: quotes, backslashes and the usual control characters have escapes of
one letter, other characters without a printed form are written by their code point. -/
def escaped (c : Char) : List Char :=
  match c with
  | '"' => ['\\', '"']
  | '\\' => ['\\', '\\']
  | '\x00' => ['\\', '0']
  | '\t' => ['\\', 't']
  | '\n' => ['\\', 'n']
  | '\r' => ['\\', 'r']
  | c =>
    if isUnprinted c then ['\\', 'u', '{'] ++ Nat.toDigits 16 c.toNat ++ ['}']
    else [c]

end QuotedText

/-- A text between quotes that shows every character. -/
def quoted (text : String) : String :=
  String.ofList ('"' :: text.toList.flatMap QuotedText.escaped ++ ['"'])

end Criteria
