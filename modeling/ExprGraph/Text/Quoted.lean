import ExprGraph.Text.Unprintable

/-!
Quoted text: a text between double quotes, with a backslash before every character that would end
the quotation or would not be seen.  A backslash in the quotation always starts an escape, so the
text can be read back from it.
-/

namespace ExprGraph.Text

def hexCode (character : Char) : List Char := Nat.toDigits 16 character.toNat

def escape (character : Char) : List Char :=
  match character with
  | '\x00' => ['\\', '0']
  | '\t' => ['\\', 't']
  | '\n' => ['\\', 'n']
  | '\r' => ['\\', 'r']
  | '"' => ['\\', '"']
  | '\\' => ['\\', '\\']
  | other =>
    if isUnprintable other then
      '\\' :: 'u' :: '\x7b' :: (hexCode other ++ ['\x7d'])
    else [other]

def quoted (text : String) : String :=
  String.ofList ('"' :: (text.toList.flatMap escape ++ ['"']))

end ExprGraph.Text
