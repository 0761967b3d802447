import BackOfEnvelope.Record

/-!
# Placeholders

A text may name variables between braces.  `TextSegment.ofText` divides it into
placeholders and single characters, from the left: a brace opens a placeholder
if another brace closes it behind at least one character, and everything between
the two is the name.  Substitution puts the display text of a variable in place
of each placeholder that names one, and leaves all else as it is written.
-/

namespace BackOfEnvelope

/-- A piece of a text with placeholders. -/
inductive TextSegment where
  | character (c : Char)
  | placeholder (name : List Char)

namespace TextSegment

/-- Whether a brace with this text behind it opens a placeholder. -/
def opensPlaceholder (rest : List Char) : Bool :=
  rest.contains '}' && rest.head? != some '}'

/-- The name that the text behind an opening brace begins with. -/
def leadingName (rest : List Char) : List Char :=
  rest.takeWhile fun c => c != '}'

def behindName (rest : List Char) : List Char :=
  (rest.dropWhile fun c => c != '}').drop 1

theorem length_behindName (rest : List Char) : (behindName rest).length ≤ rest.length := by
  have bound : (rest.dropWhile fun c => c != '}').length ≤ rest.length :=
    (List.dropWhile_suffix _).length_le
  simp only [behindName, List.length_drop]
  omega

def ofCharacters (text : List Char) : List TextSegment :=
  match text with
  | [] => []
  | c :: rest =>
      if c = '{' && opensPlaceholder rest then
        .placeholder (leadingName rest) :: ofCharacters (behindName rest)
      else .character c :: ofCharacters rest
termination_by text.length
decreasing_by
  · have := length_behindName rest
    simp only [List.length_cons]
    omega
  · simp

def written : TextSegment → List Char
  | .character c => [c]
  | .placeholder name => '{' :: (name ++ ['}'])

/-- A piece with the display text of a variable in place of its placeholder. -/
def substituted (display : String → Option String) : TextSegment → List Char
  | .character c => [c]
  | .placeholder name =>
      match display (String.ofList name) with
      | some shown => shown.toList
      | none => written (.placeholder name)

end TextSegment

namespace Placeholder

/-- Put the display texts of variables in place of their placeholders. -/
def substitute (display : String → Option String) (text : String) : String :=
  String.ofList
    ((TextSegment.ofCharacters text.toList).flatMap (TextSegment.substituted display))

/-- The display text of a variable: its phrase for cards, or else its nice name,
or else its name. -/
def displayText (fields : Record) (name : String) : String :=
  ((fields.text? "phrase_for_card").orElse fun _ => fields.text? "nice_name").getD name

end Placeholder

end BackOfEnvelope
