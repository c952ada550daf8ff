import Exemplar.Unicode.Hidden

/-!
# Quoted text in messages

A text that is shown in a message stands between quotes, and whatever would not
be seen for what it is there is escaped: the quote and the backslash, controls
and formats, all blanks but the common one, and marks that would join with the
character in front of them.
-/

namespace Exemplar

def Quoted.escape (c : Char) : List Char :=
  match c with
  | '\x00' => ['\\', '0']
  | '\t' => ['\\', 't']
  | '\n' => ['\\', 'n']
  | '\r' => ['\\', 'r']
  | '"' => ['\\', '"']
  | '\\' => ['\\', '\\']
  | c =>
    if c = ' ' || !Unicode.hidden.has c then [c]
    else '\\' :: 'u' :: '{' :: Nat.toDigits 16 c.toNat ++ ['}']

def quoted (text : String) : String :=
  .ofList ('"' :: text.toList.flatMap Quoted.escape ++ ['"'])

end Exemplar
