import BackOfEnvelope.NumberReading
import BackOfEnvelope.YamlFolding

/-!
# Single tokens of YAML

The tokens into which a document falls, and the readers of those tokens that
have an inside: names of anchors, tags, directives, and the three kinds of
scalars.  How tokens follow from the layout of a document is told in
`YamlLayout`.

A reader answers with what it read and the place behind it, or with nothing if
the document is not well-formed there.
-/

namespace BackOfEnvelope

/-- Where a character of a document stands. -/
structure YamlPosition where
  /-- How many lines have ended before. -/
  line : Nat
  /-- How many characters of the line come before. -/
  column : Nat
  /-- How many bytes of the line come before. -/
  offset : Nat

namespace YamlPosition

def start : YamlPosition :=
  ⟨0, 0, 0⟩

/-- The position behind a character of a line. -/
def pass (position : YamlPosition) (c : Char) : YamlPosition :=
  ⟨position.line, position.column + 1, position.offset + c.utf8Size⟩

/-- The position behind several characters of a line. -/
def passAll (position : YamlPosition) (passed : List Char) : YamlPosition :=
  passed.foldl pass position

/-- The beginning of the next line. -/
def nextLine (position : YamlPosition) : YamlPosition :=
  ⟨position.line + 1, 0, 0⟩

end YamlPosition

/-- A place in a document: the text from there on, and where it stands. -/
structure YamlCursor extends YamlPosition where
  text : List Char

namespace YamlCursor

/-- The place behind `count` characters of a line. -/
def skip (cursor : YamlCursor) (count : Nat) : YamlCursor :=
  ⟨cursor.passAll (cursor.text.take count), cursor.text.drop count⟩

/-- The place behind the characters of a line that belong to a class. -/
def skipWhile (cursor : YamlCursor) (belongs : Char → Bool) : YamlCursor :=
  let (passed, rest) := cursor.text.span belongs
  ⟨cursor.passAll passed, rest⟩

/-- The place behind a line break, if there is one here. -/
def skipBreak (cursor : YamlCursor) : YamlCursor :=
  match cursor.text with
  | c :: rest => if YamlText.isBreak c then ⟨cursor.nextLine, rest⟩ else cursor
  | [] => cursor

/-- The place at the end of the line. -/
def skipLine (cursor : YamlCursor) : YamlCursor :=
  cursor.skipWhile fun c => !YamlText.isBreak c

/-- The place behind blanks and a comment. -/
def skipBlanksAndComment (cursor : YamlCursor) : YamlCursor :=
  let behind := cursor.skipWhile YamlText.isBlank
  if behind.text.head? == some '#' then behind.skipLine else behind

end YamlCursor

/-- A tag as written: a handle and what follows it.  A tag without a handle is
written out in full. -/
structure YamlTag where
  handle : String
  /-- The bytes that follow the handle. -/
  suffix : List UInt8

namespace YamlTag

/-- The bytes of a text. -/
def bytesOf (text : String) : List UInt8 :=
  text.toUTF8.data.toList

/-- The bytes that count: those before the first zero. -/
def upToZero (bytes : List UInt8) : List UInt8 :=
  bytes.takeWhile (· != 0)

/-- The tag of an exclamation mark alone. -/
def mark : YamlTag :=
  ⟨"", bytesOf "!"⟩

end YamlTag

inductive YamlToken where
  /-- The beginning of a document, `---`. -/
  | documentStart
  /-- The end of a document, `...`. -/
  | documentEnd
  | versionDirective (major minor : Nat)
  | tagDirective (handle : String) (meaning : List UInt8)
  | blockSequenceStart
  | blockMappingStart
  | blockEnd
  | flowSequenceStart
  | flowSequenceEnd
  | flowMappingStart
  | flowMappingEnd
  | blockEntry
  | flowEntry
  | key
  | value
  | alias (name : String)
  | anchor (name : String)
  | tag (tag : YamlTag)
  /-- A scalar; the flag tells whether it is plain. -/
  | scalar (text : String) (plain : Bool)

namespace YamlToken

open YamlText

/-- Read the name behind the sign of an anchor or an alias. -/
def readAnchorName? (cursor : YamlCursor) : Option (String × YamlCursor) :=
  let name := cursor.text.takeWhile isNameCharacter
  let behind := cursor.skip name.length
  let closes := startsBlank behind.text ||
    (behind.text.head?.map fun c => "?:,]\x7d%@\x60".toList.contains c).getD false
  if name.isEmpty || !closes then none else some (String.ofList name, behind)

/-- Read `count` hexadecimal digits. -/
def readHex? : Nat → Nat → List Char → Option (Nat × List Char)
  | 0, number, text => some (number, text)
  | count + 1, number, c :: rest =>
      match hexDigitValue? c with
      | some digit => readHex? count (16 * number + digit) rest
      | none => none
  | _ + 1, _, [] => none

/-- Read a byte that a percent sign and two hexadecimal digits spell. -/
def readEscapedByte? : List Char → Option (Nat × List Char)
  | '%' :: text => readHex? 2 0 text
  | _ => none

/-- Read `count` bytes that percent signs spell, each of which continues a
character. -/
def readTrailingBytes? : Nat → List Char → Option (List UInt8 × List Char)
  | 0, text => some ([], text)
  | count + 1, text =>
      match readEscapedByte? text with
      | some (byte, rest) =>
          if byte / 64 = 2 then
            (readTrailingBytes? count rest).map fun (more, behind) => (byte.toUInt8 :: more, behind)
          else none
      | none => none

/-- How many bytes follow the first byte of a character. -/
def trailingCount? (byte : Nat) : Option Nat :=
  if byte < 0x80 then some 0
  else if byte / 32 = 6 then some 1
  else if byte / 16 = 14 then some 2
  else if byte / 8 = 30 then some 3
  else none

/-- Read the bytes of a character that percent signs spell.  That they begin and
continue a character shows in their first bits, and nothing else is asked. -/
def readEscapedCharacter? (text : List Char) : Option (List UInt8 × List Char) := do
  let (byte, rest) ← readEscapedByte? text
  let (more, behind) ← readTrailingBytes? (← trailingCount? byte) rest
  return (byte.toUInt8 :: more, behind)

/-- Read the bytes of a tag, as far as they go.  Brackets and commas belong to a
tag only where `allowsFlow` says so.  The first argument bounds the count of
characters. -/
def readTagBytes? (allowsFlow : Bool) : Nat → List Char → Option (List UInt8 × List Char)
  | 0, text => some ([], text)
  | _ + 1, [] => some ([], [])
  | bound + 1, c :: rest =>
      if c = '%' then
        match readEscapedCharacter? (c :: rest) with
        | some (escaped, behind) =>
            (readTagBytes? allowsFlow bound behind).map fun (more, behind) =>
              (escaped ++ more, behind)
        | none => none
      else if isTagCharacter c || (allowsFlow && (c = ',' || c = '[' || c = ']')) then
        (readTagBytes? allowsFlow bound rest).map fun (more, behind) =>
          (c.toNat.toUInt8 :: more, behind)
      else some ([], c :: rest)

/-- Read the bytes of a tag at a place. -/
def readTagText? (allowsFlow : Bool) (cursor : YamlCursor) : Option (List UInt8 × YamlCursor) :=
  (readTagBytes? allowsFlow cursor.text.length cursor.text).map fun (bytes, behind) =>
    (bytes, cursor.skip (cursor.text.length - behind.length))

/-- Read a tag handle: an exclamation mark, a name and maybe a second mark. -/
def readHandle (cursor : YamlCursor) : List Char × YamlCursor :=
  let name := (cursor.text.drop 1).takeWhile isNameCharacter
  let behind := cursor.skip (1 + name.length)
  if behind.text.head? == some '!' then ('!' :: (name ++ ['!']), behind.skip 1)
  else ('!' :: name, behind)

/-- Read a tag that is written out in full between angle brackets. -/
def readFullTag? (cursor : YamlCursor) : Option (YamlTag × YamlCursor) := do
  let (full, behind) ← readTagText? true (cursor.skip 2)
  if full.isEmpty || behind.text.head? ≠ some '>' then none
  else some (⟨"", YamlTag.upToZero full⟩, behind.skip 1)

/-- Read a tag with a handle.  If nothing counts behind the handle of a single
exclamation mark, the mark is the whole tag. -/
def readShortTag? (cursor : YamlCursor) : Option (YamlTag × YamlCursor) := do
  let (handle, behindHandle) := readHandle cursor
  let (bytes, behind) ← readTagText? false behindHandle
  if 1 < handle.length && handle.getLast? == some '!' then
    if bytes.isEmpty then none
    else some (⟨String.ofList handle, YamlTag.upToZero bytes⟩, behind)
  else
    let suffix := YamlTag.bytesOf (String.ofList (handle.drop 1)) ++ YamlTag.upToZero bytes
    some (if suffix.isEmpty then YamlTag.mark else ⟨"!", suffix⟩, behind)

/-- Read a tag, which starts with an exclamation mark. -/
def readTag? (inFlow : Bool) (cursor : YamlCursor) : Option (YamlTag × YamlCursor) := do
  let (found, behind) ←
    if cursor.text[1]? == some '<' then readFullTag? cursor else readShortTag? cursor
  if startsBlank behind.text || (inFlow && behind.text.head? == some ',') then
    some (found, behind)
  else none

/-- Read a number of a version, of at most nine digits. -/
def readVersionNumber? (cursor : YamlCursor) : Option (Nat × YamlCursor) :=
  let digits := cursor.text.takeWhile Char.isDigit
  if digits.isEmpty || 9 < digits.length then none
  else some (digitsValue digits, cursor.skip digits.length)

/-- Read the version behind the name of its directive. -/
def readVersion? (cursor : YamlCursor) : Option (YamlToken × YamlCursor) := do
  let (major, behindMajor) ← readVersionNumber? (cursor.skipWhile isBlank)
  if behindMajor.text.head? ≠ some '.' then none
  else
    let (minor, behind) ← readVersionNumber? (behindMajor.skip 1)
    return (.versionDirective major minor, behind)

/-- Read the handle and its meaning behind the name of their directive. -/
def readHandleMeaning? (cursor : YamlCursor) : Option (YamlToken × YamlCursor) := do
  let start := cursor.skipWhile isBlank
  if start.text.head? ≠ some '!' then none
  else
    let (handle, behindHandle) := readHandle start
    if 1 < handle.length && handle.getLast? ≠ some '!' then none
    else if !(behindHandle.text.head?.map isBlank).getD false then none
    else
      let (meaning, behind) ← readTagText? true (behindHandle.skipWhile isBlank)
      if meaning.isEmpty || !startsBlank behind.text then none
      else return (.tagDirective (String.ofList handle) (YamlTag.upToZero meaning), behind)

/-- Read a directive, which starts with a percent sign and takes a line. -/
def readDirective? (cursor : YamlCursor) : Option (YamlToken × YamlCursor) := do
  let start := cursor.skip 1
  let name := start.text.takeWhile isNameCharacter
  let behindName := start.skip name.length
  if name.isEmpty || !startsBlank behindName.text then none
  else
    let (token, behind) ←
      if name = "YAML".toList then readVersion? behindName
      else if name = "TAG".toList then readHandleMeaning? behindName
      else none
    let behind := behind.skipBlanksAndComment
    if startsBreak behind.text then some (token, behind.skipBreak) else none

/-- The character that stands behind a backslash for another one. -/
def simpleEscape? (c : Char) : Option Nat :=
  match c with
  | '0' => some 0x00
  | 'a' => some 0x07
  | 'b' => some 0x08
  | 't' => some 0x09
  | '\t' => some 0x09
  | 'n' => some 0x0A
  | 'v' => some 0x0B
  | 'f' => some 0x0C
  | 'r' => some 0x0D
  | 'e' => some 0x1B
  | ' ' => some 0x20
  | '"' => some 0x22
  | '/' => some 0x2F
  | '\\' => some 0x5C
  | 'N' => some 0x85
  | '_' => some 0xA0
  | 'L' => some 0x2028
  | 'P' => some 0x2029
  | _ => none

/-- How many hexadecimal digits follow the character behind a backslash. -/
def hexEscapeLength? (c : Char) : Option Nat :=
  match c with
  | 'x' => some 2
  | 'u' => some 4
  | 'U' => some 8
  | _ => none

def readEscape? : List Char → Option (Char × List Char)
  | [] => none
  | c :: rest =>
      match simpleEscape? c with
      | some code => some (Char.ofNat code, rest)
      | none =>
          match hexEscapeLength? c with
          | none => none
          | some count =>
              match readHex? count 0 rest with
              | none => none
              | some (code, behind) =>
                  if (0xD800 ≤ code && code ≤ 0xDFFF) || 0x10FFFF < code then none
                  else some (Char.ofNat code, behind)

/-- Read a quoted scalar behind its opening quotation mark.  The first argument
bounds the count of characters, escapes and breaks. -/
def readQuoted? (single : Bool) : Nat → LineFolding → YamlCursor → Option (String × YamlCursor)
  | 0, _, _ => none
  | bound + 1, folding, cursor =>
      if cursor.column = 0 && startsDocumentMarker cursor.text then none
      else
        match cursor.text with
        | [] => none
        | c :: rest =>
            if isBlank c then readQuoted? single bound (folding.addBlank c) (cursor.skip 1)
            else if isBreak c then readQuoted? single bound (folding.addBreak c) cursor.skipBreak
            else if single && c = '\'' then
              if rest.head? == some '\'' then
                readQuoted? single bound (folding.addContent c) (cursor.skip 2)
              else some (folding.settle.text, cursor.skip 1)
            else if !single && c = '"' then some (folding.settle.text, cursor.skip 1)
            else if !single && c = '\\' then
              if (rest.head?.map isBreak).getD false then
                readQuoted? single bound folding.joinLines (cursor.skip 1).skipBreak
              else
                match readEscape? rest with
                | none => none
                | some (escaped, behind) =>
                    readQuoted? single bound (folding.addContent escaped)
                      (cursor.skip (1 + (rest.length - behind.length)))
            else readQuoted? single bound (folding.addContent c) (cursor.skip 1)

/-- Read a plain scalar as far as it goes.  In a block it has to stay at or
behind the column `indent`.  The flag `behindBlank` tells that a blank or a
break was read last, where a comment or a document marker may follow. -/
def readPlain? (inFlow : Bool) (indent : Int) (behindBlank : Bool) (folding : LineFolding)
    (position : YamlPosition) : List Char → Option (LineFolding × YamlCursor)
  | [] => some (folding, ⟨position, []⟩)
  | c :: rest =>
      let here : YamlCursor := ⟨position, c :: rest⟩
      let column := position.column
      if isBlank c then
        if folding.crossedLine && (column : Int) < indent && c = '\t' then none
        else readPlain? inFlow indent true (folding.addBlank c) (position.pass c) rest
      else if isBreak c then
        readPlain? inFlow indent true (folding.addBreak c) position.nextLine rest
      else if behindBlank && !inFlow && (column : Int) < indent then some (folding, here)
      else if behindBlank && (c = '#' || (column = 0 && startsDocumentMarker (c :: rest))) then
        some (folding, here)
      else if inFlow && c = ':' &&
          (rest.head?.map fun next => isFlowIndicator next || next = '?').getD false then
        none
      else if (c = ':' && startsBlank rest) || (inFlow && isFlowIndicator c) then
        some (folding, here)
      else readPlain? inFlow indent false (folding.addContent c) (position.pass c) rest

/-- What happens to the line breaks at the end of a block scalar. -/
inductive Chomping where
  | strip
  /-- The first is kept. -/
  | clip
  | keep

/-- Read the sign for the breaks at the end, if there is one. -/
def readChomping (cursor : YamlCursor) : Option Chomping × YamlCursor :=
  match cursor.text.head? with
  | some '-' => (some .strip, cursor.skip 1)
  | some '+' => (some .keep, cursor.skip 1)
  | _ => (none, cursor)

/-- Read the digit for the indentation, if there is one; zero is refused. -/
def readIncrement? (cursor : YamlCursor) : Option (Option Nat × YamlCursor) :=
  match cursor.text.head? with
  | some c =>
      if c = '0' then none
      else if c.isDigit then some (some (digitsValue [c]), cursor.skip 1)
      else some (none, cursor)
  | none => some (none, cursor)

/-- Read the signs behind the indicator of a block scalar, in either order. -/
def readBlockHeader? (cursor : YamlCursor) : Option (Chomping × Option Nat × YamlCursor) := do
  match readChomping cursor with
  | (some chomping, behind) =>
      let (increment, behind) ← readIncrement? behind
      return (chomping, increment, behind)
  | (none, _) =>
      let (increment, behindIncrement) ← readIncrement? cursor
      if increment.isNone then return (.clip, none, cursor)
      else
        let (chomping, behind) := readChomping behindIncrement
        return (chomping.getD .clip, increment, behind)

/-- Read indentation and line breaks before a line with content.  The answer
holds the deepest indentation and the breaks, the last one first.  As long as
the indentation of the scalar is not known, all spaces count as indentation. -/
def readBlockBreaks? (indent : Option Nat) (deepest : Nat) (breaks : List Char)
    (position : YamlPosition) : List Char → Option (Nat × List Char × YamlCursor)
  | [] => some (max deepest position.column, breaks, ⟨position, []⟩)
  | c :: rest =>
      let isIndentation := indent.all fun indent => decide (position.column < indent)
      if c = ' ' && isIndentation then
        readBlockBreaks? indent deepest breaks (position.pass c) rest
      else if c = '\t' && isIndentation then none
      else if isBreak c then
        readBlockBreaks? indent (max deepest position.column) (c :: breaks) position.nextLine rest
      else some (max deepest position.column, breaks, ⟨position, c :: rest⟩)

/-- A block scalar that is being read. -/
structure BlockText where
  /-- What has been read for sure, the last character first. -/
  written : List Char
  /-- The break at the end of the last line with content. -/
  lineBreak : Option Char
  /-- The breaks after that one, the last one first. -/
  laterBreaks : List Char
  /-- The last line with content starts with a blank. -/
  startsWithBlank : Bool

/-- What the breaks before a line amount to, the last character first.  A folded
scalar turns a single line feed between two lines into a space, unless one of
them starts with a blank. -/
def BlockText.pending (read : BlockText) (folded nextStartsWithBlank : Bool) : List Char :=
  if folded && read.lineBreak == some '\n' && !read.startsWithBlank && !nextStartsWithBlank then
    if read.laterBreaks.isEmpty then [' '] else read.laterBreaks
  else read.laterBreaks ++ read.lineBreak.toList

/-- Read the lines of a block scalar that stand at the column `indent`.  The
first argument bounds their count. -/
def readBlockLines? (folded : Bool) (indent : Nat) :
    Nat → BlockText → YamlCursor → Option (BlockText × YamlCursor)
  | 0, read, cursor => some (read, cursor)
  | bound + 1, read, cursor =>
      if cursor.column ≠ indent then some (read, cursor)
      else
        match cursor.text with
        | [] => some (read, cursor)
        | first :: _ =>
            let (content, rest) := cursor.text.span fun c => !isBreak c
            let next := (⟨cursor.passAll content, rest⟩ : YamlCursor).skipBreak
            match readBlockBreaks? (some indent) 0 [] next.toYamlPosition next.text with
            | none => none
            | some (_, breaks, cursor) =>
                let written :=
                  content.reverse ++ (read.pending folded (isBlank first) ++ read.written)
                readBlockLines? folded indent bound
                  ⟨written, rest.head?, breaks, isBlank first⟩ cursor

/-- Read a block scalar behind its indicator.  Its lines are indented deeper
than the `parent` block, by as much as the header says or else as the first line
is. -/
def readBlockScalar? (folded : Bool) (parent : Int) (cursor : YamlCursor) :
    Option (String × YamlCursor) := do
  let (chomping, increment, behindHeader) ← readBlockHeader? cursor
  let lineEnd := behindHeader.skipBlanksAndComment
  if !startsBreak lineEnd.text then none
  else
    let start := lineEnd.skipBreak
    let given := increment.map fun increment => (max parent 0).toNat + increment
    let (deepest, breaks, first) ← readBlockBreaks? given 0 [] start.toYamlPosition start.text
    let indent := given.getD (max (max deepest (parent + 1).toNat) 1)
    let (read, behind) ←
      readBlockLines? folded indent first.text.length ⟨[], none, breaks, false⟩ first
    let ending :=
      match chomping with
      | .strip => []
      | .clip => read.lineBreak.toList
      | .keep => read.laterBreaks ++ read.lineBreak.toList
    return (String.ofList (ending ++ read.written).reverse, behind)

end YamlToken

end BackOfEnvelope
