import BackOfEnvelope.YamlLayout

/-!
# Nodes of YAML documents

The tokens of a document spell one node: a scalar, a sequence, a mapping or a
reference to a node with an anchor.  Anchors are numbered in the order in which
they occur; an anchor whose name occurred before takes the number that the next
new name will take too, and of nodes with one number the last one counts.
-/

namespace BackOfEnvelope

/-- What a tag says about its node. -/
inductive YamlTagMeaning where
  | boolean
  | integer
  | float
  | null
  | text
  /-- The tag is local and stays with the value, under a name that includes an
  exclamation mark. -/
  | named (name : String)

namespace YamlTagMeaning

/-- The exclamation mark of a local tag. -/
def markByte : UInt8 := 0x21

/-- What follows the exclamation mark of a tag, if anything does. -/
def behindMark (tag : List UInt8) : List UInt8 :=
  match tag with
  | mark :: byte :: rest => if mark = markByte then byte :: rest else tag
  | _ => tag

/-- What the tag of a standard kind starts with. -/
def standardTag (kind : String) : List UInt8 :=
  YamlTag.bytesOf ("tag:yaml.org,2002:" ++ kind)

/-- The name of a local tag, if its bytes are a text.  Of up to two exclamation
marks in front one is shown, and a mark alone is a name itself. -/
def nameOf? (tag : List UInt8) : Option String :=
  (String.fromUTF8? (behindMark (behindMark tag)).toByteArray).map fun name => "!" ++ name

/-- The meaning of a full tag.  A local tag starts with an exclamation mark; one
without a name means nothing. -/
def ofBytes? (tag : List UInt8) : Option YamlTagMeaning :=
  if tag.head? == some markByte then (nameOf? tag).map .named
  else if tag == standardTag "bool" then some .boolean
  else if tag == standardTag "int" then some .integer
  else if tag == standardTag "float" then some .float
  else if tag == standardTag "null" then some .null
  else some .text

end YamlTagMeaning

/-- A node of a document, with the number of its anchor and its tag. -/
inductive YamlNode where
  | reference (anchor : Nat)
  /-- A scalar; the flag tells whether it is plain. -/
  | scalar (anchor : Option Nat) (tag : Option YamlTagMeaning) (text : String) (plain : Bool)
  | sequence (anchor : Option Nat) (tag : Option YamlTagMeaning) (items : List YamlNode)
  | mapping (anchor : Option Nat) (tag : Option YamlTagMeaning)
      (entries : List (YamlNode × YamlNode))

namespace YamlNode

/-- What is known while the tokens of a document are read. -/
structure Reading where
  tokens : List YamlToken
  handles : List (String × List UInt8)
  /-- The numbers of the anchors so far, one for each name. -/
  anchors : List (String × Nat)

/-- A step of reading, which may fail. -/
abbrev Reader := StateT Reading Option

def peek : Reader (Option YamlToken) := do
  return (← get).tokens.head?

def advance : Reader Unit :=
  modify fun reading => { reading with tokens := reading.tokens.drop 1 }

def fail {α : Type} : Reader α :=
  fun _ => none

def absent : YamlNode :=
  .scalar none none "" true

/-- The meanings that tag handles have by themselves. -/
def defaultHandles : List (String × List UInt8) :=
  [("!", YamlTag.bytesOf "!"), ("!!", YamlTagMeaning.standardTag "")]

/-- The full tag of a tag as written. -/
def resolveTag (tag : YamlTag) : Reader (List UInt8) := do
  if tag.handle.isEmpty then return tag.suffix
  else
    match (← get).handles.lookup tag.handle with
    | some meaning => return meaning ++ tag.suffix
    | none => fail

def numberAnchor (name : String) : Reader Nat := do
  let anchors := (← get).anchors
  let number := anchors.length
  let others := anchors.filter fun anchor => anchor.1 ≠ name
  modify fun reading => { reading with anchors := (name, number) :: others }
  return number

/-- Read an anchor, if there is one. -/
def readAnchor : Reader (Option String) := do
  match ← peek with
  | some (.anchor name) => advance; return some name
  | _ => return none

/-- Read a tag, if there is one. -/
def readTag : Reader (Option YamlTag) := do
  match ← peek with
  | some (.tag tag) => advance; return some tag
  | _ => return none

/-- Read anchor and tag of a node, in either order. -/
def readProperties : Reader (Option String × Option YamlTag) := do
  match ← readAnchor with
  | some anchor => return (some anchor, ← readTag)
  | none =>
      let tag ← readTag
      if tag.isSome then return (← readAnchor, tag) else return (none, none)

/-- Whether a node is left out before a token of a block. -/
def endsBlockNode (afterDash : Bool) : Option YamlToken → Bool
  | some .blockEnd => true
  | some .key | some .value => !afterDash
  | some .blockEntry => afterDash
  | _ => false

/-- Whether an item is left out before a token of a sequence that is not indented
deeper than the mapping around it. -/
def endsFlushItem : Option YamlToken → Bool
  | some .blockEnd | some .key | some .value | some .blockEntry => true
  | _ => false

mutual

/-- Read a node.  Block sequences and mappings are read where `inBlock` says
so, and where `allowsFlush` says so a sequence may be indented as little as the
mapping around it.  The first argument bounds how deep and how far reading
goes. -/
def readNode (inBlock allowsFlush : Bool) : Nat → Reader YamlNode
  | 0 => fail
  | bound + 1 => do
      match ← peek with
      | some (.alias name) =>
          advance
          match (← get).anchors.lookup name with
          | some number => return .reference number
          | none => fail
      | _ =>
          let (anchorName, writtenTag) ← readProperties
          let fullTag ← writtenTag.mapM resolveTag
          let tag := fullTag.bind YamlTagMeaning.ofBytes?
          let next ← peek
          let isContent :=
            match next with
            | some (.scalar _ _) | some .flowSequenceStart | some .flowMappingStart => true
            | some .blockEntry => allowsFlush
            | some .blockSequenceStart | some .blockMappingStart => inBlock
            | _ => false
          if !isContent && anchorName.isNone && fullTag.isNone then fail
          else
            let anchor ← anchorName.mapM numberAnchor
            if !isContent then return .scalar anchor tag "" true
            else
              match next with
              | some (.scalar text plain) =>
                  advance
                  return .scalar anchor tag text plain
              | some .flowSequenceStart =>
                  advance
                  return .sequence anchor tag (← readFlowItems true bound)
              | some .flowMappingStart =>
                  advance
                  return .mapping anchor tag (← readFlowEntries true bound)
              | some .blockSequenceStart =>
                  advance
                  return .sequence anchor tag (← readBlockItems bound)
              | some .blockMappingStart =>
                  advance
                  return .mapping anchor tag (← readBlockEntries bound)
              | _ => return .sequence anchor tag (← readFlushItems bound)

/-- Read the items of a block sequence, up to its end. -/
def readBlockItems : Nat → Reader (List YamlNode)
  | 0 => fail
  | bound + 1 => do
      match ← peek with
      | some .blockEntry =>
          advance
          let item ←
            if endsBlockNode true (← peek) then pure absent else readNode true false bound
          return item :: (← readBlockItems bound)
      | some .blockEnd => advance; return []
      | _ => fail

/-- Read the items of a sequence that is indented as little as the mapping
around it. -/
def readFlushItems : Nat → Reader (List YamlNode)
  | 0 => fail
  | bound + 1 => do
      match ← peek with
      | some .blockEntry =>
          advance
          let item ← if endsFlushItem (← peek) then pure absent else readNode true false bound
          return item :: (← readFlushItems bound)
      | _ => return []

/-- Read the entries of a block mapping, up to its end. -/
def readBlockEntries : Nat → Reader (List (YamlNode × YamlNode))
  | 0 => fail
  | bound + 1 => do
      match ← peek with
      | some .key =>
          advance
          let key ←
            if endsBlockNode false (← peek) then pure absent else readNode true true bound
          let value ←
            match ← peek with
            | some .value =>
                advance
                if endsBlockNode false (← peek) then pure absent else readNode true true bound
            | _ => pure absent
          return (key, value) :: (← readBlockEntries bound)
      | some .blockEnd => advance; return []
      | _ => fail

/-- Read the items of a flow sequence, up to its bracket.  A key with a value is
an item as well, a mapping with one entry. -/
def readFlowItems (first : Bool) : Nat → Reader (List YamlNode)
  | 0 => fail
  | bound + 1 => do
      match ← peek with
      | some .flowSequenceEnd => advance; return []
      | next =>
          if !first then
            match next with
            | some .flowEntry => advance
            | _ => fail
          match ← peek with
          | some .flowSequenceEnd => advance; return []
          | some .key =>
              advance
              let entry ← readSingleEntry bound
              return .mapping none none [entry] :: (← readFlowItems false bound)
          | _ =>
              let item ← readNode false false bound
              return item :: (← readFlowItems false bound)

/-- Read the key and the value of an item of a flow sequence.  If the key is
left out, so is the token behind it. -/
def readSingleEntry : Nat → Reader (YamlNode × YamlNode)
  | 0 => fail
  | bound + 1 => do
      let key ←
        match ← peek with
        | some .value | some .flowEntry | some .flowSequenceEnd => advance; pure absent
        | _ => readNode false false bound
      match ← peek with
      | some .value =>
          advance
          match ← peek with
          | some .flowEntry | some .flowSequenceEnd => return (key, absent)
          | _ => return (key, ← readNode false false bound)
      | _ => return (key, absent)

/-- Read the entries of a flow mapping, up to its brace. -/
def readFlowEntries (first : Bool) : Nat → Reader (List (YamlNode × YamlNode))
  | 0 => fail
  | bound + 1 => do
      match ← peek with
      | some .flowMappingEnd => advance; return []
      | next =>
          if !first then
            match next with
            | some .flowEntry => advance
            | _ => fail
          match ← peek with
          | some .flowMappingEnd => advance; return []
          | some .key =>
              advance
              let key ←
                match ← peek with
                | some .value | some .flowEntry | some .flowMappingEnd => pure absent
                | _ => readNode false false bound
              let value ←
                match ← peek with
                | some .value =>
                    advance
                    match ← peek with
                    | some .flowEntry | some .flowMappingEnd => pure absent
                    | _ => readNode false false bound
                | _ => pure absent
              return (key, value) :: (← readFlowEntries false bound)
          | _ =>
              let key ← readNode false false bound
              return (key, absent) :: (← readFlowEntries false bound)

end

/-- Read the directives of a document.  A version has to be one of the known
ones, and no directive may be repeated. -/
def readDirectives (seenVersion : Bool) (handles : List (String × List UInt8)) :
    List YamlToken → Option (List (String × List UInt8) × List YamlToken)
  | .versionDirective major minor :: rest =>
      if seenVersion || major ≠ 1 || (minor ≠ 1 && minor ≠ 2) then none
      else readDirectives true handles rest
  | .tagDirective handle meaning :: rest =>
      if (handles.lookup handle).isSome then none
      else readDirectives seenVersion (handles ++ [(handle, meaning)]) rest
  | tokens => some (handles ++ defaultHandles, tokens)

/-- Whether the content of a document is left out before a token. -/
def endsDocument : Option YamlToken → Bool
  | none | some .documentStart | some .documentEnd => true
  | some (.versionDirective _ _) | some (.tagDirective _ _) => true
  | _ => false

/-- Whether tokens begin with a directive or a marker that begins a document. -/
def startsExplicitly : List YamlToken → Bool
  | .documentStart :: _ | .versionDirective _ _ :: _ | .tagDirective _ _ :: _ => true
  | _ => false

/-- The node of a text with at most one document; a text without a document
has the empty scalar. -/
def ofTokens? (tokens : List YamlToken) : Option YamlNode := do
  if tokens.isEmpty then return absent
  else
    let (handles, content, explicit) ←
      if startsExplicitly tokens then
        match ← readDirectives false [] tokens with
        | (handles, .documentStart :: content) => some (handles, content, true)
        | _ => none
      else some (defaultHandles, tokens, false)
    let (node, reading) ←
      if explicit && endsDocument content.head? then some (absent, ⟨content, handles, []⟩)
      else (readNode true false (2 * content.length + 2)).run ⟨content, handles, []⟩
    let behind := reading.tokens.dropWhile fun token =>
      match token with
      | .documentEnd => true
      | _ => false
    if behind.isEmpty then return node else none

def ofText? (text : String) : Option YamlNode :=
  (YamlToken.ofText? text.toList).bind ofTokens?

end YamlNode

end BackOfEnvelope
