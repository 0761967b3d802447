import BackOfEnvelope.CharacterClasses

/-!
# Names of variables

A variable is named by its description, its entity and its units, with two
underscores between them.  A name with more underscores can be divided in
several ways; then the description is as long as possible, and after it the
entity.
-/

namespace BackOfEnvelope

structure VariableName where
  description : String
  entity : String
  units : String

namespace VariableName

/-- All ways to divide a text at two underscores, the shortest first part
first. -/
def divisions : List Char → List (List Char × List Char)
  | [] => []
  | c :: rest =>
      let later := (divisions rest).map fun (before, behind) => (c :: before, behind)
      match rest with
      | d :: behind => if c = '_' && d = '_' then ([], behind) :: later else later
      | [] => later

/-- The ways to divide a text at two underscores into two parts that are not
empty, the longest first part first. -/
def properDivisions (text : List Char) : List (List Char × List Char) :=
  (divisions text).reverse.filter fun (before, behind) => !before.isEmpty && !behind.isEmpty

def split? (name : List Char) : Option (List Char × List Char × List Char) :=
  if name.all isWordCharacter then
    (properDivisions name).findSome? fun (description, rest) =>
      (properDivisions rest).head?.map fun (entity, units) => (description, entity, units)
  else none

def ofText? (name : String) : Option VariableName :=
  (split? name.toList).map fun (description, entity, units) =>
    ⟨String.ofList description, String.ofList entity, String.ofList units⟩

end VariableName

end BackOfEnvelope
