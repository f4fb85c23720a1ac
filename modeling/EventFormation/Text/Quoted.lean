import EventFormation.Text.Hex
import EventFormation.Text.Printable

/-!
# Quoted texts

A text in a message of failure stands between quotes. Quotes and backslashes
are written with a backslash before them, the usual control characters by a
letter, and other characters that are not shown by their code.
-/

namespace EventFormation.Quoted

/-- The form of one character between quotes. -/
def escape (character : Char) : List Char :=
  match character with
  | '\x00' => ['\\', '0']
  | '\t' => ['\\', 't']
  | '\r' => ['\\', 'r']
  | '\n' => ['\\', 'n']
  | '\\' => ['\\', '\\']
  | '"' => ['\\', '"']
  | _ =>
    if Printable.isShown character then [character]
    else ['\\', 'u', '\x7b'] ++ Hex.digits character.toNat ++ ['\x7d']

def quote (text : String) : String :=
  "\"" ++ String.ofList (text.toList.flatMap escape) ++ "\""

end EventFormation.Quoted
