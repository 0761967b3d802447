import BackOfEnvelope.YamlToken

/-!
# The layout of YAML documents

The tokens of a document follow from its indicators and its indentation.  A
deeper column opens a block sequence or mapping, and a less deep one closes it.

A mapping key carries no indicator of its own: that something was a key shows
only when a colon follows it on the same line.  Every place where a key may
begin therefore gets an empty slot among the tokens, and the colon fills the
slot.  The tokens of a document are its slots put one behind the other.
-/

namespace BackOfEnvelope

/-- A place where a key may have begun. -/
structure PossibleKey where
  /-- The empty slot before it. -/
  slot : Nat
  position : YamlPosition
  required : Bool

/-- How far a document has been divided into tokens. -/
structure YamlLayout where
  cursor : YamlCursor
  /-- The tokens before, in slots. -/
  slots : Array (List YamlToken)
  /-- The column of the innermost block, `-1` outside of all blocks. -/
  indent : Int
  /-- The columns of the blocks around it, the innermost first. -/
  outerIndents : List Int
  openKey : Option PossibleKey
  /-- The possible keys of the levels around it, the innermost first. -/
  outerKeys : List (Option PossibleKey)
  allowsKey : Bool

namespace YamlLayout

open YamlText

/-- Before the first token. -/
def start (text : List Char) : YamlLayout :=
  ⟨⟨.start, text⟩, #[], -1, [], none, [], true⟩

def inFlow (layout : YamlLayout) : Bool :=
  !layout.outerKeys.isEmpty

def push (layout : YamlLayout) (token : YamlToken) : YamlLayout :=
  { layout with slots := layout.slots.push [token] }

/-- Go on behind `count` characters. -/
def skip (layout : YamlLayout) (count : Nat) : YamlLayout :=
  { layout with cursor := layout.cursor.skip count }

/-- The mark that may stand at the beginning of a line. -/
def byteOrderMark : Char := Char.ofNat 0xFEFF

/-- Pass spaces, comments and line breaks, and a byte order mark at the beginning
of a line.  A tab counts as a space where no key may begin, and a line break
outside of brackets allows a key. -/
def passSpace (inFlow inComment allowsKey : Bool) (position : YamlPosition) :
    List Char → Bool × YamlCursor
  | [] => (allowsKey, ⟨position, []⟩)
  | c :: rest =>
      if inComment && !isBreak c then passSpace inFlow true allowsKey (position.pass c) rest
      else if c = ' ' || (c = '\t' && (inFlow || !allowsKey)) ||
          (c = byteOrderMark && position.column = 0) then
        passSpace inFlow false allowsKey (position.pass c) rest
      else if c = '#' then passSpace inFlow true allowsKey (position.pass c) rest
      else if isBreak c then passSpace inFlow false (allowsKey || !inFlow) position.nextLine rest
      else (allowsKey, ⟨position, c :: rest⟩)

def toNextToken (layout : YamlLayout) : YamlLayout :=
  let (allowsKey, cursor) :=
    passSpace layout.inFlow false layout.allowsKey layout.cursor.toYamlPosition
      layout.cursor.text
  { layout with cursor, allowsKey }

/-- A key has to end on its line, and within this many bytes. -/
def longestKey : Nat := 1024

/-- Drop a possible key for which a colon would come too late. -/
def dropStale? (cursor : YamlCursor) : Option PossibleKey → Option (Option PossibleKey)
  | none => some none
  | some key =>
      if key.position.line < cursor.line || key.position.offset + longestKey < cursor.offset then
        if key.required then none else some none
      else some (some key)

/-- Drop the possible keys for which a colon would come too late. -/
def dropStaleKeys? (layout : YamlLayout) : Option YamlLayout := do
  let openKey ← dropStale? layout.cursor layout.openKey
  let outerKeys ← layout.outerKeys.mapM (dropStale? layout.cursor)
  return { layout with openKey, outerKeys }

/-- Leave the blocks that are deeper than a column: how many they are, and the
columns of those that stay. -/
def leaveBlocks (column : Int) : Int → List Int → Nat × Int × List Int
  | indent, [] => (0, indent, [])
  | indent, outer :: others =>
      if column < indent then
        let (count, remaining) := leaveBlocks column outer others
        (count + 1, remaining)
      else (0, indent, outer :: others)

/-- Close the blocks that are deeper than a column.  Brackets and braces keep
all blocks open. -/
def closeBlocks (layout : YamlLayout) (column : Int) : YamlLayout :=
  if layout.inFlow then layout
  else
    let (count, indent, outerIndents) := leaveBlocks column layout.indent layout.outerIndents
    { layout with
      indent, outerIndents
      slots := layout.slots ++ (List.replicate count [YamlToken.blockEnd]).toArray }

/-- Open a block at a column, if the column is deeper than the blocks so far.
The answer tells whether it was opened. -/
def openBlock (layout : YamlLayout) (column : Nat) : Bool × YamlLayout :=
  if !layout.inFlow && layout.indent < column then
    (true, { layout with
      indent := column
      outerIndents := layout.indent :: layout.outerIndents })
  else (false, layout)

/-- Open a block at a column and add the token for it. -/
def openBlockWith (layout : YamlLayout) (column : Nat) (token : YamlToken) : YamlLayout :=
  let (opened, layout) := layout.openBlock column
  if opened then layout.push token else layout

/-- Give up the possible key of this level; a required one has to have its
colon. -/
def dropKey? (layout : YamlLayout) : Option YamlLayout :=
  if (layout.openKey.map PossibleKey.required).getD false then none
  else some { layout with openKey := none }

/-- Note that a key may begin here, if a key is allowed. -/
def noteKey? (layout : YamlLayout) : Option YamlLayout :=
  if layout.allowsKey then do
    let layout ← layout.dropKey?
    let required := !layout.inFlow && layout.indent == (layout.cursor.column : Int)
    return { layout with
      slots := layout.slots.push []
      openKey := some ⟨layout.slots.size, layout.cursor.toYamlPosition, required⟩ }
  else some layout

/-- Read a token that has an inside. -/
def readWith (layout : YamlLayout) (read : Option (YamlToken × YamlCursor)) :
    Option YamlLayout :=
  read.map fun (token, cursor) => { layout.push token with cursor }

/-- Read a token with which a key may begin. -/
def readNode? (layout : YamlLayout) (read : Option (YamlToken × YamlCursor)) :
    Option YamlLayout := do
  let layout ← layout.noteKey?
  ({ layout with allowsKey := false } : YamlLayout).readWith read

/-- End all blocks at a directive or a document marker. -/
def endBlocks? (layout : YamlLayout) : Option YamlLayout := do
  let layout ← (layout.closeBlocks (-1)).dropKey?
  return { layout with allowsKey := false }

/-- Read a marker that begins or ends a document. -/
def readMarker? (layout : YamlLayout) (token : YamlToken) : Option YamlLayout := do
  let layout ← layout.endBlocks?
  return (layout.push token).skip 3

def readOpening? (layout : YamlLayout) (token : YamlToken) : Option YamlLayout := do
  let layout ← layout.noteKey?
  return ({ layout with
    openKey := none
    outerKeys := layout.openKey :: layout.outerKeys
    allowsKey := true } : YamlLayout).push token |>.skip 1

def readClosing? (layout : YamlLayout) (token : YamlToken) : Option YamlLayout := do
  let layout ← layout.dropKey?
  let (openKey, outerKeys) :=
    match layout.outerKeys with
    | outer :: others => (outer, others)
    | [] => (none, [])
  return ({ layout with openKey, outerKeys, allowsKey := false } : YamlLayout).push token |>.skip 1

def readComma? (layout : YamlLayout) : Option YamlLayout := do
  let layout ← layout.dropKey?
  return ({ layout with allowsKey := true } : YamlLayout).push .flowEntry |>.skip 1

/-- Read the dash of an item.  Outside of brackets it opens a sequence, where a
key would be allowed as well. -/
def readDash? (layout : YamlLayout) : Option YamlLayout :=
  if !layout.inFlow && !layout.allowsKey then none
  else do
    let opened := layout.openBlockWith layout.cursor.column .blockSequenceStart
    let opened ← opened.dropKey?
    return ({ opened with allowsKey := true } : YamlLayout).push .blockEntry |>.skip 1

/-- Read the question mark before a key. -/
def readQuestionMark? (layout : YamlLayout) : Option YamlLayout :=
  if !layout.inFlow && !layout.allowsKey then none
  else do
    let opened := layout.openBlockWith layout.cursor.column .blockMappingStart
    let opened ← opened.dropKey?
    return ({ opened with allowsKey := !layout.inFlow } : YamlLayout).push .key |>.skip 1

/-- Read the colon before a value.  It makes a key of the possible key before
it; otherwise it has to stand where a key is allowed. -/
def readColon? (layout : YamlLayout) : Option YamlLayout :=
  match layout.openKey with
  | some key =>
      let (opened, layout) := layout.openBlock key.position.column
      let found := if opened then [YamlToken.blockMappingStart, .key] else [.key]
      some (({ layout with
        slots := layout.slots.set! key.slot found
        openKey := none
        allowsKey := false } : YamlLayout).push .value |>.skip 1)
  | none =>
      if !layout.inFlow && !layout.allowsKey then none
      else
        let opened := layout.openBlockWith layout.cursor.column .blockMappingStart
        some (({ opened with allowsKey := !layout.inFlow } : YamlLayout).push .value |>.skip 1)

def readBlock? (layout : YamlLayout) (folded : Bool) : Option YamlLayout := do
  let layout ← layout.dropKey?
  ({ layout with allowsKey := true } : YamlLayout).readWith
    ((YamlToken.readBlockScalar? folded layout.indent (layout.cursor.skip 1)).map
      fun (text, cursor) => (.scalar text false, cursor))

def readQuoted? (layout : YamlLayout) (single : Bool) : Option YamlLayout :=
  layout.readNode?
    ((YamlToken.readQuoted? single (layout.cursor.text.length + 1) LineFolding.start
        (layout.cursor.skip 1)).map
      fun (text, cursor) => (.scalar text false, cursor))

/-- Read a plain scalar.  Behind its last line break a key is allowed again. -/
def readPlain? (layout : YamlLayout) : Option YamlLayout := do
  let layout ← layout.noteKey?
  let (folding, cursor) ←
    YamlToken.readPlain? layout.inFlow (layout.indent + 1) false LineFolding.start
      layout.cursor.toYamlPosition layout.cursor.text
  return { layout.push (.scalar folding.text true) with
    cursor, allowsKey := folding.crossedLine }

/-- Whether a plain scalar may begin with a text. -/
def startsPlain (inFlow : Bool) : List Char → Bool
  | [] => false
  | c :: rest =>
      if isBlank c || isBreak c then false
      else if c = '-' then !(rest.head?.map isBlank).getD false
      else if c = '?' || c = ':' then !inFlow && !startsBlank rest
      else !",[]\x7b\x7d#&*!|>'\"%@\x60".toList.contains c

/-- Read the token at a place that is not the end of the text. -/
def readToken? (layout : YamlLayout) : Option YamlLayout :=
  let text := layout.cursor.text
  let inFlow := layout.inFlow
  let next := text.drop 1
  if layout.cursor.column = 0 && text.head? == some '%' then do
    let layout ← layout.endBlocks?
    layout.readWith (YamlToken.readDirective? layout.cursor)
  else if layout.cursor.column = 0 && startsMarker '-' text then layout.readMarker? .documentStart
  else if layout.cursor.column = 0 && startsMarker '.' text then layout.readMarker? .documentEnd
  else
    match text.head? with
    | none => none
    | some c =>
        if c = '[' then layout.readOpening? .flowSequenceStart
        else if c = '{' then layout.readOpening? .flowMappingStart
        else if c = ']' then layout.readClosing? .flowSequenceEnd
        else if c = '}' then layout.readClosing? .flowMappingEnd
        else if c = ',' then layout.readComma?
        else if c = '-' && startsBlank next then layout.readDash?
        else if c = '?' && (inFlow || startsBlank next) then layout.readQuestionMark?
        else if c = ':' && (inFlow || startsBlank next) then layout.readColon?
        else if c = '*' then
          layout.readNode? ((YamlToken.readAnchorName? (layout.cursor.skip 1)).map
            fun (name, cursor) => (.alias name, cursor))
        else if c = '&' then
          layout.readNode? ((YamlToken.readAnchorName? (layout.cursor.skip 1)).map
            fun (name, cursor) => (.anchor name, cursor))
        else if c = '!' then
          layout.readNode? ((YamlToken.readTag? inFlow layout.cursor).map
            fun (tag, cursor) => (.tag tag, cursor))
        else if c = '|' && !inFlow then layout.readBlock? false
        else if c = '>' && !inFlow then layout.readBlock? true
        else if c = '\'' then layout.readQuoted? true
        else if c = '"' then layout.readQuoted? false
        else if startsPlain inFlow text then layout.readPlain?
        else none

/-- Read all tokens.  The first argument bounds their count. -/
def readAll? : Nat → YamlLayout → Option YamlLayout
  | 0, layout => some layout
  | bound + 1, layout => do
      let layout ← layout.toNextToken.dropStaleKeys?
      let layout := layout.closeBlocks layout.cursor.column
      if layout.cursor.text.isEmpty then layout.endBlocks?
      else
        let layout ← layout.readToken?
        readAll? bound layout

end YamlLayout

/-- The tokens of a document.  Every token takes a character at least. -/
def YamlToken.ofText? (text : List Char) : Option (List YamlToken) :=
  if text.all YamlText.isAllowed then
    let unified := YamlText.unifyBreaks text
    (YamlLayout.readAll? (unified.length + 1) (YamlLayout.start unified)).map fun layout =>
      layout.slots.toList.flatten
  else none

end BackOfEnvelope
