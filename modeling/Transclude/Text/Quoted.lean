import Transclude.Text.Printable

namespace Transclude.Text

def hexDigits (n : Nat) : List Char :=
  Nat.toDigits 16 n

/-- How one character is spelled inside a quotation. -/
def spell (c : Char) : List Char :=
  match c with
  | '\x00' => ['\\', '0']
  | '\t' => ['\\', 't']
  | '\r' => ['\\', 'r']
  | '\n' => ['\\', 'n']
  | '\\' => ['\\', '\\']
  | '"' => ['\\', '"']
  | c => if isPrintable c then [c] else '\\' :: 'u' :: '\x7b' :: hexDigits c.toNat ++ ['\x7d']

def quoted (text : String) : String :=
  String.ofList ('"' :: text.toList.flatMap spell ++ ['"'])

end Transclude.Text
