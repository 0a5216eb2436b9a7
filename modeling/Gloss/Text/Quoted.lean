import Gloss.Text.Ranges
import Gloss.Text.Quoted.Table

namespace Gloss.Quoted

def hex (n : Nat) : String := String.ofList (Nat.toDigits 16 n)

def visible (c : Char) : String :=
  match c with
  | '\x00' => "\\0"
  | '\t' => "\\t"
  | '\n' => "\\n"
  | '\r' => "\\r"
  | '\\' => "\\\\"
  | '"' => "\\\""
  | c =>
    if c < ' ' || c == '\x7f' || Ranges.has hidden c then "\\u\x7b" ++ hex c.toNat ++ "\x7d"
    else c.toString

def text (s : String) : String := "\"" ++ String.join (s.toList.map visible) ++ "\""

end Gloss.Quoted
