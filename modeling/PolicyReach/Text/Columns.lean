import PolicyReach.Text.Ligature
import PolicyReach.Text.Picture
import PolicyReach.Text.Wide

/-!
# Columns that a line of text fills on a terminal

A character's columns depend on what follows it: a selector can turn a digit into a picture, joiners
tie pictures into one, and some letters are drawn as one with the next. The line is therefore read
from its end, and of what has been read only its beginning matters.
-/
namespace PolicyReach.Text

/-- How the part of a line after a character begins. -/
inductive Tail where
  | plain
  | picture
  | skinTone
  | flagLetter
  | flagLetters
  /-- A joiner and a picture; before them perhaps the frame of a key. -/
  | joined (key : Bool)
  /-- Letters of flags, a joiner and a picture. -/
  | joinedFlagLetter
  | joinedFlag
  | joinedFlagLetters
  /-- So many tag letters, the closing tag, a joiner and a picture. -/
  | tagLetters (count : Nat)
  /-- So many tag digits in front of the same. -/
  | tagDigits (count : Nat)
  | alef
  | hebrewLamed (tied : Bool)
  | bugineseYa (tied : Bool)
  | bugineseVowelYa
  | tifinagh (tied : Bool)
  | tifinaghJoiner
  | lisuTone
  | oldTurkicI (tied : Bool)
  | khmerLetter
  deriving DecidableEq

namespace Tail

/-- Letters, which keep what they are when a selector stands before them. -/
def isLetter : Tail → Bool
  | .alef | .hebrewLamed _ | .bugineseYa _ | .bugineseVowelYa | .tifinagh _ | .tifinaghJoiner
  | .lisuTone | .oldTurkicI _ | .khmerLetter => true
  | _ => false

/-- Letters that invisible marks do not part. -/
def isSpared (t : Tail) : Bool := t.isLetter && t ≠ .alef

def isJoined : Tail → Bool
  | .joined _ => true
  | _ => false

/-- The tail behind a joiner. -/
def afterJoiner : Tail → Tail
  | .picture | .skinTone | .flagLetters | .joinedFlag | .joinedFlagLetters => .joined false
  | .hebrewLamed _ => .hebrewLamed true
  | .bugineseYa _ => .bugineseYa true
  | .tifinagh _ => .tifinagh true
  | .oldTurkicI _ => .oldTurkicI true
  | .alef => .plain
  | t => if t.isLetter then t else .plain

end Tail

/-- A tail with what the selectors in front of it ask for. -/
structure Ahead where
  tail : Tail
  asPicture : Bool
  asText : Bool

def isFlagLetter (c : Char) : Bool := 0x1F1E6 ≤ c.toNat && c.toNat ≤ 0x1F1FF

def isSkinTone (c : Char) : Bool := 0x1F3FB ≤ c.toNat && c.toNat ≤ 0x1F3FF

def isTagLetter (c : Char) : Bool := 0xE0061 ≤ c.toNat && c.toNat ≤ 0xE007A

def isTagDigit (c : Char) : Bool := 0xE0030 ≤ c.toNat && c.toNat ≤ 0xE0039

/-- Pictures with a form as text, apart from the framed ideographs. -/
def hasTextForm (c : Char) : Bool :=
  pictures.has c && selectable.has c && !(0x1F200 ≤ c.toNat && c.toNat ≤ 0x1F2FF)

/-- The columns of a character that stands by itself. -/
def charColumns (c : Char) : Nat :=
  if c = '\u17A4' then 2
  else if c = '\u17D8' then 3
  else if columnless.has c then 0
  else if wide.has c then 2
  else 1

/-- The tail that a character begins by itself. -/
def charTail (c : Char) : Tail :=
  if isFlagLetter c then .flagLetter
  else if isSkinTone c then .skinTone
  else if pictures.has c then .picture
  else if alefs.has c then .alef
  else if c = '\u05DC' then .hebrewLamed false
  else if c = '\u1A10' then .bugineseYa false
  else if tifinaghConsonants.has c then .tifinagh false
  else if c = '\uA4FC' || c = '\uA4FD' then .lisuTone
  else if c = Char.ofNat 0x10C03 then .oldTurkicI false
  else if khmerSubjoined.has c then .khmerLetter
  else .plain

/-- What a character adds to the columns of a tail that it is drawn as one with, and the tail of
both; `none` if the two do not go together. -/
def Tail.combine? (c : Char) : Tail → Option (Int × Tail)
  | .alef =>
    if lams.has c then some (0, .plain)
    else if columnless.has c && !barriers.has c then some (0, .alef)
    else none
  | .hebrewLamed true => if c = '\u05D0' then some (0, .plain) else none
  | .khmerLetter => if c = '\u17D2' then some (-1, .plain) else none
  | .bugineseYa true => if c = '\u1A17' then some (0, .bugineseVowelYa) else none
  | .bugineseVowelYa => if c = '\u1A15' then some (0, .plain) else none
  | .tifinagh tied =>
    if c = '\u2D7F' then some (1, .tifinaghJoiner)
    else if tied && tifinaghConsonants.has c then some (0, .plain)
    else none
  | .tifinaghJoiner => if tifinaghConsonants.has c then some (-1, .plain) else none
  | .lisuTone => if '\uA4F8' ≤ c && c ≤ '\uA4FB' then some (0, .plain) else none
  | .oldTurkicI true => if c = Char.ofNat 0x10C32 then some (0, .plain) else none
  | .skinTone => if toned.has c then some (0, .picture) else none
  | .flagLetter | .flagLetters => if isFlagLetter c then some (1, .flagLetters) else none
  | .joined key =>
    if key then none
    else if c = '\u20E3' then some (0, .joined true)
    else if isFlagLetter c then some (1, .joinedFlagLetter)
    else if isSkinTone c then some (0, .skinTone)
    else if c = Char.ofNat 0xE007F then some (0, .tagLetters 0)
    else if charTail c = .picture then some (0, .picture)
    else none
  | .joinedFlagLetter | .joinedFlagLetters =>
    if isFlagLetter c then some (-1, .joinedFlag) else none
  | .joinedFlag => if isFlagLetter c then some (3, .joinedFlagLetters) else none
  | .tagLetters n =>
    if isTagLetter c && n < 6 then some (0, .tagLetters (n + 1))
    else if isTagDigit c && n < 5 then some (0, .tagDigits 1)
    else if c = Char.ofNat 0x1F3F4 && 3 ≤ n then some (0, .picture)
    else none
  | .tagDigits n =>
    if isTagDigit c && n < 3 then some (0, .tagDigits (n + 1))
    else if c = Char.ofNat 0x1F3F4 && n = 3 then some (0, .picture)
    else none
  | _ => none

namespace Ahead

def of (t : Tail) : Ahead := ⟨t, false, false⟩

/-- A selector for pictures that cannot be met leaves letters alone and parts everything else. -/
def withoutPicture (a : Ahead) : Ahead :=
  if a.asPicture then
    if a.tail.isLetter then { a with asPicture := false } else .of .plain
  else a

def askPicture (a : Ahead) : Ahead :=
  if a.tail.isLetter then { a with asPicture := true }
  else if a.tail.isJoined then ⟨a.tail, true, false⟩
  else ⟨.plain, true, false⟩

def askText (a : Ahead) : Ahead :=
  if a.tail.isLetter then { a with asText := true } else ⟨.plain, false, true⟩

/-- The columns that a character adds in front of what follows it. -/
def step (c : Char) (next : Ahead) : Int × Ahead :=
  if next.asPicture && selectable.has c then (if next.tail.isJoined then 0 else 2, .of .picture)
  else
    let next := next.withoutPicture
    if c.toNat ≤ 0xA0 then (1, .of .plain)
    else if c = '\uFE0F' then (0, next.askPicture)
    else if c = '\uFE0E' then (0, next.askText)
    else if next.asText && hasTextForm c then (1, .of .plain)
    else if c = '\u200D' then (0, .of next.tail.afterJoiner)
    else if next.tail.isSpared && invisibleMarks.has c then (0, .of next.tail)
    else match next.tail.combine? c with
      | some (added, tail) => (added, .of tail)
      | none => (charColumns c, .of (charTail c))

end Ahead

def scanColumns : List Char → Int × Ahead
  | [] => (0, .of .plain)
  | c :: rest =>
    let (columns, next) := scanColumns rest
    let (added, ahead) := next.step c
    (added + columns, ahead)

/-- Drawing characters as one takes away no more columns than they fill apart. -/
def columns (line : List Char) : Nat := (scanColumns line).1.toNat

end PolicyReach.Text
