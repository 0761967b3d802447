import BackOfEnvelope.Content
import BackOfEnvelope.ContentIndex

/-!
# Loading content

The documents of a content directory are read in the order of its index.  A
document that is missing or malformed has no front matter.  Every document is a
scenario, and those whose front matter has a variable name are variables; a
later variable of the same name replaces the earlier one in its place.
-/

namespace BackOfEnvelope

structure LoadedDocument where
  /-- The category of its directory, empty at the root. -/
  category : String
  filename : String
  path : String
  document : Document

namespace LoadedDocument

/-- The documents of a directory in the order of its index. -/
def loadAll (files : FileSystem) (directory : String) : List LoadedDocument :=
  (ContentIndex.readLeniently files directory).entries.map fun (category, filename) =>
    let path := ContentIndex.entryPath directory category filename
    ⟨category, filename, path, Document.parseLeniently (files.readLeniently path)⟩

/-- The variable of a document, if its front matter names one. -/
def toVariable? (loaded : LoadedDocument) : Option Variable :=
  (loaded.document.frontMatter.text? "variable_name").map fun name =>
    ⟨name, loaded.document.frontMatter, loaded.document.body, loaded.category, loaded.path⟩

def scenario (loaded : LoadedDocument) : Scenario :=
  let fields := loaded.document.frontMatter
  ⟨fields, loaded.document.body, (fields.text? "category").getD loaded.category, loaded.path,
    loaded.filename⟩

end LoadedDocument

namespace VariableSet

def load (files : FileSystem) (directory : String) : VariableSet :=
  let found := (LoadedDocument.loadAll files directory).filterMap LoadedDocument.toVariable?
  OrderedDictionary.ofList (found.map fun item => (item.name, item))

end VariableSet

namespace Scenario

def load (files : FileSystem) (directory : String) : List Scenario :=
  (LoadedDocument.loadAll files directory).map LoadedDocument.scenario

end Scenario

end BackOfEnvelope
