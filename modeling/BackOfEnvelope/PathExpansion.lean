import BackOfEnvelope.CharacterClasses

/-!
# Expansion of paths

A path in a configuration may refer to variables of the environment and to the
home directory.  Variables are written `$NAME`, `${NAME}` or `${NAME:-default}`,
where the default stands for a variable that is not set; two dollar signs stand
for one.  A tilde in front stands for the home directory, unless it came from a
variable.
-/

namespace BackOfEnvelope

/-- The values of the variables that are set. -/
abbrev Environment := String → Option String

inductive PathPart where
  | text (characters : List Char)
  /-- A reference to a variable, with what stands for it if it is not set. -/
  | reference (name : String) (default : Option (List Char))

namespace PathPart

/-- What a part stands for.  A variable that is not set and has no default stands
for nothing. -/
def value? (environment : Environment) : PathPart → Option (List Char)
  | .text characters => some characters
  | .reference name default =>
      match environment name with
      | some value => some value.toList
      | none => default

/-- The name of the variable to which a part refers. -/
def variableName? : PathPart → Option String
  | .text _ => none
  | .reference name _ => some name

end PathPart

namespace PathExpansion

/-- The characters of the names of variables without braces. -/
def isNameCharacter (c : Char) : Bool :=
  isLetterOrNumeral c || c = '_'

/-- Divide a text at the first `:-`, if there is one. -/
def splitAtDefault : List Char → List Char × Option (List Char)
  | ':' :: '-' :: default => ([], some default)
  | c :: rest =>
      let (name, default) := splitAtDefault rest
      (c :: name, default)
  | [] => ([], none)

/-- The reference whose name and default stand between braces.  Without a name
there is no default either. -/
def bracedReference (inside : List Char) : PathPart :=
  let (name, default) := splitAtDefault inside
  if name.isEmpty then .reference (String.ofList inside) none
  else .reference (String.ofList name) default

/-- Read the part that begins with a dollar sign, of which the text behind the
sign is given.  The answer holds the text behind the part. -/
def readReference (text : List Char) : PathPart × List Char :=
  match text with
  | '{' :: rest =>
      if rest.contains '}' then
        (bracedReference (rest.takeWhile (· != '}')), (rest.dropWhile (· != '}')).drop 1)
      else (.text ['$', '{'], rest)
  | '$' :: rest => (.text ['$'], rest)
  | _ =>
      let name := text.takeWhile isNameCharacter
      if name.isEmpty then (.text ['$'], text)
      else (.reference (String.ofList name) none, text.drop name.length)

theorem length_dropWhile_le (p : Char → Bool) (text : List Char) :
    (text.dropWhile p).length ≤ text.length :=
  (List.dropWhile_sublist p).length_le

/-- Reading a part never adds to the text behind it. -/
theorem length_readReference_le (text : List Char) :
    (readReference text).2.length ≤ text.length := by
  unfold readReference
  split
  · rename_i rest
    have dropped := length_dropWhile_le (· != '}') rest
    split
    · simp only [List.length_drop, List.length_cons]
      omega
    · simp
  · simp
  · dsimp only
    split <;> simp

def parts : List Char → List PathPart
  | [] => []
  | c :: rest =>
      if c = '$' then
        (readReference rest).1 :: parts (readReference rest).2
      else .text [c] :: parts rest
termination_by text => text.length
decreasing_by
  · exact Nat.lt_succ_of_le (length_readReference_le rest)
  · exact Nat.lt_succ_self rest.length

/-- Put the values of variables in the place of references.  A variable that is
not set and has no default makes the expansion fail. -/
def expandVariables? (environment : Environment) (text : List Char) : Option (List Char) :=
  ((parts text).mapM (PathPart.value? environment)).map List.flatten

/-- The variable that holds the home directory. -/
def homeVariable : String := "HOME"

/-- Put the home directory in the place of a tilde that stands alone in front. -/
def expandTilde (environment : Environment) (text : List Char) : List Char :=
  match text with
  | '~' :: rest =>
      if rest.isEmpty || rest.head? = some '/' then
        match environment homeVariable with
        | some home => home.toList ++ rest
        | none => text
      else text
  | _ => text

def expand? (environment : Environment) (path : String) : Option String :=
  let written := path.toList
  (expandVariables? environment written).map fun expanded =>
    String.ofList
      (if written.head? = some '~' then expandTilde environment expanded else expanded)

/-- The variables to which a path refers. -/
def variableNames (path : String) : List String :=
  (parts path.toList).filterMap PathPart.variableName?

end PathExpansion

end BackOfEnvelope
