import Gloss.Text.Ranges
import Gloss.Text.Columns.Table

/-!
The columns that a text takes in a terminal. Most characters take none, one or two on their own;
emoji and ligatures of several characters take those of one. What a character adds depends on the
text after it, so that a text is measured from its end.
-/

namespace Gloss.Columns

inductive Joined
  | bare
  | keycap
  | tag
  | indicator
  | evenIndicators
  | oddIndicators
  deriving DecidableEq, Repr

inductive Ligature
  | alef
  | lamed (joined : Bool)
  | stacked
  | ya (joined : Bool)
  | vowelAndYa
  | tifinagh (joined : Bool)
  | tifinaghMark
  | tone
  | orkhon (joined : Bool)
  | signE
  | signAI
  deriving DecidableEq, Repr

inductive Lead
  | plain
  | lineFeed
  | emoji
  | skinTone
  | indicator
  | indicators
  | joined (j : Joined)
  | ligature (l : Ligature)
  deriving DecidableEq, Repr

inductive Look
  | asText
  | asWide
  | asEmoji
  deriving DecidableEq, Repr

structure Following where
  lead : Lead := .plain
  look : Option Look := none
  deriving DecidableEq, Repr

def within (c : Char) (first last : Nat) : Bool := first ≤ c.toNat && c.toNat ≤ last

def isJoiner (c : Char) : Bool := c.toNat == 0x200D

def isIndicator (c : Char) : Bool := within c 0x1F1E6 0x1F1FF

def isSkinTone (c : Char) : Bool := within c 0x1F3FB 0x1F3FF

def isTag (c : Char) : Bool := within c 0xE0030 0xE0039 || within c 0xE0061 0xE007A

def canBeEmoji (c : Char) : Bool :=
  c.isDigit || c == '#' || c == '*' || Ranges.has emoji c || Ranges.has chosen c

def isQuotation (c : Char) : Bool := within c 0x2018 0x2019 || within c 0x201C 0x201D

def isLam (c : Char) : Bool :=
  c.toNat == 0x644 || within c 0x6B5 0x6B8 || c.toNat == 0x76A || c.toNat == 0x8A6 || c.toNat == 0x8C7

def isAlef (c : Char) : Bool :=
  within c 0x622 0x623 || c.toNat == 0x625 || c.toNat == 0x627 || within c 0x671 0x673 || c.toNat == 0x675
    || within c 0x773 0x774 || within c 0x870 0x882

def isStackable (c : Char) : Bool :=
  within c 0x1780 0x1782 || within c 0x1784 0x1787 || within c 0x1789 0x178C
    || within c 0x178E 0x1793 || within c 0x1795 0x1798 || within c 0x179B 0x179D
    || c.toNat == 0x17A0 || c.toNat == 0x17A2 || c.toNat == 0x17A7 || within c 0x17AB 0x17AC
    || c.toNat == 0x17AF

def isTifinagh (c : Char) : Bool := within c 0x2D31 0x2D65 || c.toNat == 0x2D6F

def ligatureOf? (c : Char) : Option Ligature :=
  if isAlef c then some .alef
  else if isStackable c then some .stacked
  else if isTifinagh c then some (.tifinagh false)
  else if within c 0xA4FC 0xA4FD then some .tone
  else
    match c.toNat with
    | 0x5DC => some (.lamed false)
    | 0x1A10 => some (.ya false)
    | 0x10C03 => some (.orkhon false)
    | 0x16D67 => some .signE
    | 0x16D68 => some .signAI
    | _ => none

def leadOf (c : Char) : Lead :=
  if isIndicator c then .indicator
  else if isSkinTone c then .skinTone
  else if Ranges.has emoji c then .emoji
  else
    match ligatureOf? c with
    | some l => .ligature l
    | none => .plain

def isZero (c : Char) : Bool := Ranges.has zero c

def alone (c : Char) : Int :=
  if isZero c then 0 else if Ranges.has wide c then 2 else if c.toNat = 0x17D8 then 3 else 1

def Ligature.join : Ligature → Lead
  | alef => .plain
  | lamed _ => .ligature (lamed true)
  | ya _ => .ligature (ya true)
  | tifinagh _ => .ligature (tifinagh true)
  | orkhon _ => .ligature (orkhon true)
  | l => .ligature l

def Ligature.extend? (c : Char) : Ligature → Option (Int × Lead)
  | alef => if isLam c then some (0, .plain) else if isZero c then some (0, .ligature alef) else none
  | lamed true => if c.toNat = 0x5D0 then some (0, .plain) else none
  | stacked => if c.toNat = 0x17D2 then some (-1, .plain) else none
  | ya true => if c.toNat = 0x1A17 then some (0, .ligature vowelAndYa) else none
  | vowelAndYa => if c.toNat = 0x1A15 then some (0, .plain) else none
  | tifinagh joined =>
    if c.toNat = 0x2D7F then some (1, .ligature tifinaghMark)
    else if joined && isTifinagh c then some (0, .plain)
    else none
  | tifinaghMark => if isTifinagh c then some (-1, .plain) else none
  | tone => if within c 0xA4F8 0xA4FB then some (0, .plain) else none
  | orkhon true => if c.toNat = 0x10C32 then some (0, .plain) else none
  | signE =>
    match c.toNat with
    | 0x16D63 | 0x16D69 => some (0, .plain)
    | 0x16D67 => some (0, .ligature signAI)
    | 0x16D68 => some (1, .ligature signE)
    | _ => none
  | signAI => if c.toNat = 0x16D63 then some (0, .plain) else none
  | lamed false | ya false | orkhon false => none

def Joined.extend? (c : Char) : Joined → Option (Int × Lead)
  | bare =>
    if c.toNat = 0x20E3 then some (0, .joined keycap)
    else if isIndicator c then some (1, .joined indicator)
    else if isSkinTone c then some (0, .skinTone)
    else if c.toNat = 0xE007F then some (0, .joined tag)
    else if Ranges.has emoji c then some (0, .emoji)
    else none
  | keycap => none
  | tag => if isTag c then some (0, .joined tag) else if c.toNat = 0x1F3F4 then some (0, .emoji) else none
  | indicator | oddIndicators => if isIndicator c then some (-1, .joined evenIndicators) else none
  | evenIndicators => if isIndicator c then some (3, .joined oddIndicators) else none

def joins : Lead → Bool
  | .emoji | .skinTone | .indicators | .joined .evenIndicators | .joined .oddIndicators => true
  | _ => false

/-- What a character above ASCII adds before a text that begins so, unless it stands on its own. -/
def extend? (c : Char) : Lead → Option (Int × Lead)
  | .ligature l =>
    if isJoiner c then some (0, l.join)
    else if Ranges.has hiddenMarks c then some (0, .ligature l)
    else l.extend? c
  | lead =>
    if isJoiner c && joins lead then some (0, .joined .bare)
    else
      match lead with
      | .skinTone => if Ranges.has tinted c then some (0, .emoji) else none
      | .indicator | .indicators => if isIndicator c then some (1, .indicators) else none
      | .joined j => j.extend? c
      | _ => none

/-- What is left of a lead behind a selector that has no effect on the character before it. -/
def Lead.afterSelector : Lead → Lead
  | .ligature l => .ligature l
  | _ => .plain

def selector? (c : Char) : Option Look :=
  match c.toNat with
  | 0xFE01 => some .asWide
  | 0xFE0E => some .asText
  | 0xFE0F => some .asEmoji
  | _ => none

def select (look : Look) (lead : Lead) : Following :=
  match look, lead with
  | .asEmoji, .joined j => ⟨.joined j, some look⟩
  | _, lead => ⟨lead.afterSelector, some look⟩

def heeded? (c : Char) : Following → Option (Int × Lead)
  | ⟨lead, some .asEmoji⟩ =>
    if canBeEmoji c then some (if lead matches .joined _ then 0 else 2, .emoji) else none
  | ⟨_, some .asText⟩ => if Ranges.has plainable c then some (1, .plain) else none
  | ⟨_, some .asWide⟩ => if isQuotation c then some (2, .plain) else none
  | ⟨_, none⟩ => none

def step (c : Char) (next : Following) : Int × Following :=
  match heeded? c next with
  | some (n, lead) => (n, ⟨lead, none⟩)
  | none =>
    let lead := if next.look.isSome then next.lead.afterSelector else next.lead
    if c.toNat ≤ 0xA0 then
      if c = '\n' then (1, ⟨.lineFeed, none⟩)
      else (if c = '\x0d' && lead = .lineFeed then 0 else 1, {})
    else
      match selector? c with
      | some look => (0, select look lead)
      | none =>
        match extend? c lead with
        | some (n, lead) => (n, ⟨lead, none⟩)
        | none => (alone c, ⟨leadOf c, none⟩)

def measure (cs : List Char) : Int × Following :=
  cs.foldr (fun c (n, next) => let (k, now) := step c next; (k + n, now)) (0, {})

end Gloss.Columns

namespace Gloss

def columns (s : String) : Nat := (Columns.measure s.toList).1.toNat

end Gloss
