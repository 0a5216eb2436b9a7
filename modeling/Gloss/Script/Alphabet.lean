import Gloss.Text.Ranges
import Gloss.Script.Alphabet.Table

namespace Gloss.Script

def isLineBreak (c : Char) : Bool := c == '\n' || c == '\r' || c == '\u2028' || c == '\u2029'

def isBlank (c : Char) : Bool :=
  c == ' ' || c == '\t' || c == '\x0b' || c == '\x0c' || c == '\u00a0' || c == '\ufeff'
    || c == '\u1680' || ('\u2000' ≤ c && c ≤ '\u200a') || c == '\u202f' || c == '\u205f' || c == '\u3000'

def isDigit (c : Char) : Bool := '0' ≤ c && c ≤ '9'

def isOctalDigit (c : Char) : Bool := '0' ≤ c && c ≤ '7'

def isLatin (c : Char) : Bool := ('a' ≤ c && c ≤ 'z') || ('A' ≤ c && c ≤ 'Z')

def isWordStart (c : Char) : Bool :=
  if c.toNat < 128 then isLatin c || c == '$' || c == '_'
  else Ranges.has Alphabet.starts c

def isWordPart (c : Char) : Bool :=
  if c.toNat < 128 then isLatin c || isDigit c || c == '$' || c == '_'
  else isWordStart c || Ranges.has Alphabet.continues c

end Gloss.Script
