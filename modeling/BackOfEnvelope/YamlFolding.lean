import BackOfEnvelope.YamlCharacters

/-!
# Folding of lines

Inside a scalar that is quoted or plain, blanks are kept if content follows on
the same line, and a line break between contents becomes a space.  With several
line breaks all but the first are kept.  `LineFolding` collects a scalar while
it is read: blanks and breaks stay pending until content follows.
-/

namespace BackOfEnvelope

structure LineFolding where
  /-- What has been read for sure, the last character first. -/
  written : List Char
  /-- Blanks that count if content follows on this line, the last one first. -/
  blanks : List Char
  /-- The line break behind the last content. -/
  firstBreak : Option Char
  /-- The line breaks after that one, the last one first. -/
  laterBreaks : List Char
  /-- The line with the last content has ended. -/
  crossedLine : Bool

namespace LineFolding

def start : LineFolding :=
  ⟨[], [], none, [], false⟩

/-- Read a blank; at the beginning of a line it is indentation. -/
def addBlank (folding : LineFolding) (c : Char) : LineFolding :=
  if folding.crossedLine then folding else { folding with blanks := c :: folding.blanks }

/-- Read a line break; it drops the blanks before it. -/
def addBreak (folding : LineFolding) (c : Char) : LineFolding :=
  if folding.crossedLine then { folding with laterBreaks := c :: folding.laterBreaks }
  else { folding with blanks := [], firstBreak := some c, crossedLine := true }

/-- What pending blanks and breaks amount to when content follows, the last
character first. -/
def pending (folding : LineFolding) : List Char :=
  if folding.crossedLine then
    match folding.firstBreak with
    | some '\n' => if folding.laterBreaks.isEmpty then [' '] else folding.laterBreaks
    | some other => folding.laterBreaks ++ [other]
    | none => folding.laterBreaks
  else folding.blanks

def settle (folding : LineFolding) : LineFolding :=
  ⟨folding.pending ++ folding.written, [], none, [], false⟩

def addContent (folding : LineFolding) (c : Char) : LineFolding :=
  let settled := folding.settle
  { settled with written := c :: settled.written }

/-- Read a line break that a backslash takes away. -/
def joinLines (folding : LineFolding) : LineFolding :=
  { folding.settle with crossedLine := true }

def text (folding : LineFolding) : String :=
  String.ofList folding.written.reverse

end LineFolding

end BackOfEnvelope
