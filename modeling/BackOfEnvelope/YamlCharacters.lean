/-!
# Characters of YAML documents

Which characters a document may contain, how its line breaks are brought to one
form, and the classes of characters on which its tokens are built.  After
`unifyBreaks` a line break is a line feed, or one of the two separators that
Unicode reserves for lines and paragraphs, and it is always a single character.
-/

namespace BackOfEnvelope

namespace YamlText

/-- The characters that a document may contain. -/
def isAllowed (c : Char) : Bool :=
  let code := c.toNat
  code = 0x09 || code = 0x0A || code = 0x0D || (0x20 ≤ code && code ≤ 0x7E) || code = 0x85 ||
    (0xA0 ≤ code && code ≤ 0xD7FF) || (0xE000 ≤ code && code ≤ 0xFFFD) || 0x10000 ≤ code

/-- The line break that Unicode calls next line. -/
def nextLine : Char := Char.ofNat 0x85

/-- Write carriage returns, carriage returns with a line feed, and next lines as
line feeds. -/
def unifyBreaks : List Char → List Char
  | '\r' :: '\n' :: rest => '\n' :: unifyBreaks rest
  | c :: rest => (if c = '\r' || c = nextLine then '\n' else c) :: unifyBreaks rest
  | [] => []

/-- A line break. -/
def isBreak (c : Char) : Bool :=
  c = '\n' || c.toNat = 0x2028 || c.toNat = 0x2029

def isBlank (c : Char) : Bool :=
  c = ' ' || c = '\t'

/-- Whether a text starts with a blank or a line break, or is at its end. -/
def startsBlank : List Char → Bool
  | [] => true
  | c :: _ => isBlank c || isBreak c

/-- Whether a text starts with a line break or is at its end. -/
def startsBreak : List Char → Bool
  | [] => true
  | c :: _ => isBreak c

/-- The characters of the names of anchors, directives and tag handles. -/
def isNameCharacter (c : Char) : Bool :=
  c.isAlphanum || c = '_' || c = '-'

/-- The characters of a tag, apart from its percent escapes. -/
def isTagCharacter (c : Char) : Bool :=
  isNameCharacter c || ";/?:@&=+$.!~*'()".toList.contains c

/-- Whether a text starts with a marker of three characters that stands alone. -/
def startsMarker (mark : Char) : List Char → Bool
  | a :: b :: c :: rest => a = mark && b = mark && c = mark && startsBlank rest
  | _ => false

/-- Whether a text starts with a marker that begins or ends a document. -/
def startsDocumentMarker (text : List Char) : Bool :=
  startsMarker '-' text || startsMarker '.' text

def isFlowIndicator (c : Char) : Bool :=
  c = ',' || c = '[' || c = ']' || c = '{' || c = '}'

end YamlText

end BackOfEnvelope
