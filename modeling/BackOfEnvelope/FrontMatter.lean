import BackOfEnvelope.Record
import BackOfEnvelope.Text
import BackOfEnvelope.YamlDocument

/-!
# Front matter

A Markdown document may begin with a block of YAML between two lines of three
dashes.  The block runs to the first such line behind it.  What follows, trimmed,
is the body; a document without a block is all body, as it stands.

Reading is strict or lenient: a block that is not a YAML mapping is an error, or
else counts as a block without fields.
-/

namespace BackOfEnvelope

namespace FrontMatter

/-- The text behind the end of a line that holds nothing more than spaces, tabs
and carriage returns. -/
def behindLineEnd? : List Char → Option (List Char)
  | '\n' :: rest => some rest
  | c :: rest => if c = ' ' || c = '\t' || c = '\r' then behindLineEnd? rest else none
  | [] => none

/-- The text behind a line of three dashes. -/
def behindDelimiter? : List Char → Option (List Char)
  | '-' :: '-' :: '-' :: rest => behindLineEnd? rest
  | _ => none

/-- Divide a text at the first line end with a line of dashes behind it. -/
def splitAtDelimiter? : List Char → Option (List Char × List Char)
  | [] => none
  | c :: rest =>
      match if c = '\n' then behindDelimiter? rest else none with
      | some behind => some ([], behind)
      | none => (splitAtDelimiter? rest).map fun (block, behind) => (c :: block, behind)

/-- The block of a document, if it has one, and the text behind. -/
def split? (document : List Char) : Option (List Char × List Char) :=
  (behindDelimiter? document).bind splitAtDelimiter?

end FrontMatter

/-- Why the front matter of a document cannot be read. -/
inductive FrontMatterError where
  | invalidYaml
  | sequence
  | scalar

namespace FrontMatterError

/-- The message of an error; what is not YAML has none of its own. -/
def message? : FrontMatterError → Option String
  | .invalidYaml => none
  | .sequence => some "front matter must be a mapping, got a sequence"
  | .scalar => some "front matter must be a mapping, got a scalar"

end FrontMatterError

/-- A document divided into front matter and body. -/
structure Document where
  /-- The fields of the front matter, none if there is none. -/
  frontMatter : Record
  body : String

namespace FrontMatter

/-- The fields of a value: those of a mapping, and none of null. -/
def ofYaml : Yaml → Except FrontMatterError Record
  | .null => .ok []
  | .mapping entries => .ok (Yaml.namedFields entries)
  | .sequence _ => .error .sequence
  | _ => .error .scalar

def ofBlock (block : String) : Except FrontMatterError Record :=
  match Yaml.ofText? block with
  | none => .error .invalidYaml
  | some value => ofYaml value

end FrontMatter

namespace Document

/-- The block of a document, if it has one, and the body. -/
def divide (text : String) : Option String × String :=
  match FrontMatter.split? text.toList with
  | some (block, behind) =>
      (some (String.ofList block), String.ofList (trimCharacters behind))
  | none => (none, text)

def parse (text : String) : Except FrontMatterError Document :=
  match divide text with
  | (none, body) => .ok ⟨[], body⟩
  | (some block, body) =>
      match FrontMatter.ofBlock block with
      | .ok fields => .ok ⟨fields, body⟩
      | .error error => .error error

def parseLeniently (text : String) : Document :=
  match parse text with
  | .ok document => document
  | .error _ => ⟨[], (divide text).2⟩

end Document

end BackOfEnvelope
