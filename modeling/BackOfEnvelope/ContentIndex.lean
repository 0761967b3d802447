import BackOfEnvelope.FileSystem
import BackOfEnvelope.JsonReading
import BackOfEnvelope.JsonText
import BackOfEnvelope.OrderedDictionary

/-!
# Indexes of content directories

A content directory lists its documents in a file `index.json`: those at its
root, and those of each category in a directory of its own.  The index is an
object with named fields or a list of their values in order; fields with other
names are ignored, whatever they hold.
-/

namespace BackOfEnvelope

structure ContentIndex where
  files : List String
  /-- The documents of each category, in the order of the index. -/
  categories : OrderedDictionary String (List String)
  /-- The date of the index, if it is given. -/
  lastUpdated : Option String

inductive ContentIndexError where
  | unreadable (path : String)
  | malformed (path : String)

namespace ContentIndex

/-- An index without documents, which takes the place of one that cannot be used.  The date on
which it does so is left out. -/
def empty : ContentIndex :=
  ⟨[], OrderedDictionary.empty, none⟩

/-- The name of the file that holds the index. -/
def fileName : String := "index.json"

def readString? : JsonSyntax → Option String
  | .text units => JsonSyntax.toText? units
  | _ => none

def readStrings? : JsonSyntax → Option (List String)
  | .array items => items.mapM readString?
  | _ => none

/-- Lists of strings by name; of lists with one name the last counts. -/
def readCategories? : JsonSyntax → Option (OrderedDictionary String (List String))
  | .object fields =>
      (fields.mapM fun (units, value) => do
        let name ← JsonSyntax.toText? units
        let files ← readStrings? value
        return (name, files)).map OrderedDictionary.ofList
  | _ => none

def readDate? : JsonSyntax → Option (Option String)
  | .null => some none
  | value => (readString? value).map some

/-- Put an index together from its fields, some of which may be missing. -/
def ofFields? (files categories lastUpdated : Option JsonSyntax) : Option ContentIndex := do
  let files ← (files.map readStrings?).getD (some [])
  let categories ← (categories.map readCategories?).getD (some OrderedDictionary.empty)
  let lastUpdated ← (lastUpdated.map readDate?).getD (some none)
  return ⟨files, categories, lastUpdated⟩

/-- The field with a name, which must not occur twice. -/
def field? (name : String) (fields : List (String × JsonSyntax)) : Option (Option JsonSyntax) :=
  match fields.filter fun field => field.1 = name with
  | [] => some none
  | [field] => some (some field.2)
  | _ => none

def ofSyntax? : JsonSyntax → Option ContentIndex
  | .object fields => do
      let named ← fields.mapM fun (units, value) =>
        (JsonSyntax.toText? units).map fun name => (name, value)
      ofFields? (← field? "files" named) (← field? "categories" named)
        (← field? "last_updated" named)
  | .array [] => ofFields? none none none
  | .array [files] => ofFields? (some files) none none
  | .array [files, categories] => ofFields? (some files) (some categories) none
  | .array [files, categories, lastUpdated] =>
      ofFields? (some files) (some categories) (some lastUpdated)
  | _ => none

def toJson (index : ContentIndex) : Json :=
  .object [
    ("files", .array (index.files.map Json.text)),
    ("categories", .object (index.categories.entries.map fun entry =>
      (entry.1, .array (entry.2.map Json.text)))),
    ("last_updated", (index.lastUpdated.map Json.text).getD .null)]

def read (files : FileSystem) (directory : String) : Except ContentIndexError ContentIndex :=
  let path := Path.join directory fileName
  match files.readText path with
  | .error _ => .error (.unreadable path)
  | .ok text =>
      match (JsonSyntax.ofText? text).bind ofSyntax? with
      | some index => .ok index
      | none => .error (.malformed path)

/-- Read the index of a directory; one that cannot be used has no documents. -/
def readLeniently (files : FileSystem) (directory : String) : ContentIndex :=
  match read files directory with
  | .ok index => index
  | .error _ => empty

/-- Every document with its category, those at the root first and with an empty
category. -/
def entries (index : ContentIndex) : List (String × String) :=
  index.files.map (fun file => ("", file)) ++
    index.categories.entries.flatMap fun (category, files) =>
      files.map fun file => (category, file)

def entryPath (directory category filename : String) : String :=
  if category.isEmpty then Path.join directory filename
  else Path.join (Path.join directory category) filename

end ContentIndex

end BackOfEnvelope
