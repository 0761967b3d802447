import BackOfEnvelope.CharacterWidth
import BackOfEnvelope.LetterLigature
import BackOfEnvelope.Pictograph

/-!
# Display width

How many columns a line of text takes on a terminal.  A character counts by its
own width unless it forms something with what follows it: a pictograph with a
selector or a skin tone, pictographs tied together by joiners, a flag, or a
ligature of letters.  A line is therefore measured from its end, and a
`LineTail` holds what the part behind a place means for the character there.
-/

namespace BackOfEnvelope

/-- What a line begins with, as far as it matters for a character in front. -/
inductive WidthContext where
  | plain
  | skinTone
  | indicator
  | indicators
  | pictograph
  | tied
  /-- The mark of a key in front of a joiner and a coloured pictograph. -/
  | tiedKey
  | tiedIndicator
  | tiedFlags
  /-- A regional indicator and flags in front of a joiner and a coloured
  pictograph. -/
  | tiedIndicatorAndFlags
  /-- Tags in front of a joiner and a coloured pictograph: digits, which come first,
  and letters. -/
  | tiedTags (digits letters : Nat)
  | alef
  /-- The later part of a ligature; the flag tells that a joiner stands before
  it. -/
  | ligature (part : LigaturePart) (joined : Bool)
  | vowelSignE
  | vowelSignAi

/-- A selector in front of which a character takes a form of its own. -/
inductive WidthSelector where
  | emoji
  | text
  | wide
deriving DecidableEq

/-- The part of a line behind a place. -/
structure LineTail where
  /-- What it begins with, apart from a selector. -/
  context : WidthContext
  selector : Option WidthSelector

namespace WidthContext

/-- Whether letters go on to form a ligature in front of a selector. -/
def isOfLetters : WidthContext → Bool
  | .alef | .ligature _ _ => true
  | _ => false

/-- What remains in front of a selector. -/
def behindSelector (context : WidthContext) : WidthContext :=
  if context.isOfLetters then context else .plain

/-- What remains in front of a selector for coloured pictographs, which may stand
between pictographs that are tied together. -/
def behindEmojiSelector (context : WidthContext) : WidthContext :=
  match context with
  | .tied | .tiedKey => context
  | _ => context.behindSelector

/-- Whether a pictograph in front is tied to one that has been counted. -/
def isTied : WidthContext → Bool
  | .tied | .tiedKey => true
  | _ => false

/-- What a line begins with that begins with a character. -/
def ofCharacter (c : Char) : WidthContext :=
  if isSkinTone c then .skinTone
  else if isRegionalIndicator c then .indicator
  else if isColoured c then .pictograph
  else if inRanges alefRanges c.toNat then .alef
  else if c.toNat = 0x16D67 then .vowelSignE
  else if c.toNat = 0x16D68 then .vowelSignAi
  else
    match LigaturePart.ofCharacter? c with
    | some part => .ligature part false
    | none => .plain

/-- What the character in front of a joiner and a coloured pictograph adds. -/
def meltTied? (c : Char) : Option (Int × WidthContext) :=
  if c = keyMark then some (0, .tiedKey)
  else if isRegionalIndicator c then some (1, .tiedIndicator)
  else if isSkinTone c then some (0, .skinTone)
  else if c = tagEnd then some (0, .tiedTags 0 0)
  else if isColoured c then some (0, .pictograph)
  else none

/-- What the character in front of tags adds.  A region has three to six letters,
or three digits in front of up to four letters. -/
def meltTags? (digits letters : Nat) (c : Char) : Option (Int × WidthContext) :=
  if digits = 0 && letters < 6 && isTagLetter c then some (0, .tiedTags 0 (letters + 1))
  else if letters ≤ 4 && digits < 3 && isTagDigit c then some (0, .tiedTags (digits + 1) letters)
  else if (digits = 3 || (digits = 0 && 3 ≤ letters)) && c = blackFlag then some (0, .pictograph)
  else none

/-- What the character in front of a coloured pictograph or of flags adds, if it
is a joiner. -/
def tie? (c : Char) : Option (Int × WidthContext) :=
  if c = zeroWidthJoiner then some (0, .tied) else none

/-- The columns that a character adds if it forms something with what it stands in
front of, and what the line begins with then. -/
def melt? (context : WidthContext) (c : Char) : Option (Int × WidthContext) :=
  match context with
  | .plain | .tiedKey => none
  | .skinTone => if takesSkinTone c then some (0, .pictograph) else tie? c
  | .indicator => if isRegionalIndicator c then some (1, .indicators) else none
  | .indicators => if isRegionalIndicator c then some (1, .indicators) else tie? c
  | .pictograph => tie? c
  | .tied => meltTied? c
  | .tiedIndicator => if isRegionalIndicator c then some (-1, .tiedFlags) else none
  | .tiedFlags => if isRegionalIndicator c then some (3, .tiedIndicatorAndFlags) else tie? c
  | .tiedIndicatorAndFlags => if isRegionalIndicator c then some (-1, .tiedFlags) else tie? c
  | .tiedTags digits letters => meltTags? digits letters c
  | .alef =>
      if inRanges lamRanges c.toNat then some (0, .plain)
      else if isJoinedThrough c then some (0, .alef)
      else none
  | .ligature part joined =>
      if c = zeroWidthJoiner then some (0, .ligature part true)
      else if inRanges ignorableMarkRanges c.toNat then some (0, .ligature part joined)
      else
        (part.melt? joined c).map fun (columns, rest) =>
          (columns, (rest.map fun part => .ligature part false).getD .plain)
  | .vowelSignE =>
      if c.toNat = 0x16D63 || c.toNat = 0x16D69 then some (0, .plain)
      else if c.toNat = 0x16D67 then some (0, .vowelSignAi)
      else if c.toNat = 0x16D68 then some (1, .vowelSignE)
      else none
  | .vowelSignAi => if c.toNat = 0x16D63 then some (0, .plain) else none

end WidthContext

namespace WidthSelector

def ofCharacter? (c : Char) : Option WidthSelector :=
  if c = emojiSelector then some .emoji
  else if c = textSelector then some .text
  else if c = Char.ofNat 0xFE01 then some .wide
  else none

end WidthSelector

/-- Whether a character is a quotation mark that has a wide form. -/
def isWideningQuote (c : Char) : Bool :=
  inRanges #[(0x2018, 0x2019), (0x201C, 0x201D)] c.toNat

namespace LineTail

/-- The end of a line. -/
def empty : LineTail :=
  ⟨.plain, none⟩

/-- What a line begins with behind a selector that does not matter any more. -/
def settled (tail : LineTail) : WidthContext :=
  if tail.selector.isSome then tail.context.behindSelector else tail.context

/-- The columns that a character adds behind which no selector matters, and the
line that it begins. -/
def addSettled (context : WidthContext) (c : Char) : Int × LineTail :=
  match WidthSelector.ofCharacter? c with
  | some .emoji => (0, ⟨context.behindEmojiSelector, some .emoji⟩)
  | some selector => (0, ⟨context.behindSelector, some selector⟩)
  | none =>
      match context.melt? c with
      | some (columns, context) => (columns, ⟨context, none⟩)
      | none => (characterWidth c, ⟨.ofCharacter c, none⟩)

/-- The columns that a character adds in front of a line, and the line that it
begins. -/
def add (tail : LineTail) (c : Char) : Int × LineTail :=
  if tail.selector = some .emoji && takesSelector c then
    (if tail.context.isTied then 0 else 2, ⟨.pictograph, none⟩)
  else if c.toNat ≤ 0xA0 then (1, .empty)
  else if tail.selector = some .text && narrowsAsText c then (1, .empty)
  else if tail.selector = some .wide && isWideningQuote c then (2, .empty)
  else addSettled tail.settled c

end LineTail

/-- The columns of a line of text. -/
def lineWidth (line : String) : Nat :=
  let (columns, _) :=
    line.toList.foldr
      (fun c (columns, tail) =>
        let (added, tail) := tail.add c
        (columns + added, tail))
      ((0 : Int), LineTail.empty)
  columns.toNat

end BackOfEnvelope
