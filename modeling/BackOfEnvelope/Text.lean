import BackOfEnvelope.CharacterClasses

/-!
# Text

The operations on text that the calculator needs beyond those of the standard
library: trimming in the Unicode sense, splitting at a character, replacing a
phrase, and turning pairs of line ends into single ones.
-/

namespace BackOfEnvelope

/-- A list without the white space at its two ends. -/
def trimCharacters (text : List Char) : List Char :=
  ((text.dropWhile isWhiteSpace).reverse.dropWhile isWhiteSpace).reverse

/-- A text without the white space at its two ends. -/
def trim (text : String) : String :=
  String.ofList (trimCharacters text.toList)

/-- Split at every occurrence of a separator; there is always one piece more
than there are separators. -/
def splitAtCharacter (separator : Char) : List Char → List (List Char)
  | [] => [[]]
  | c :: rest =>
      match splitAtCharacter separator rest with
      | piece :: pieces =>
          if c == separator then [] :: piece :: pieces else (c :: piece) :: pieces
      | [] => [[c]]

/-- The pieces of a text between the separators. -/
def splitText (separator : Char) (text : String) : List String :=
  (splitAtCharacter separator text.toList).map String.ofList

/-- Replace every occurrence of the phrase `first :: others`, from the left and
without overlap. -/
def replacePhrase (first : Char) (others replacement : List Char) (text : List Char) :
    List Char :=
  match text with
  | [] => []
  | c :: rest =>
      if c = first && others.isPrefixOf rest then
        replacement ++ replacePhrase first others replacement (rest.drop others.length)
      else c :: replacePhrase first others replacement rest
termination_by text.length
decreasing_by
  · simp only [List.length_drop, List.length_cons]
    omega
  · simp

/-- Turn every carriage return with a line feed behind it into the line feed. -/
def unifyLineEnds : List Char → List Char
  | '\r' :: '\n' :: rest => '\n' :: unifyLineEnds rest
  | c :: rest => c :: unifyLineEnds rest
  | [] => []

end BackOfEnvelope
