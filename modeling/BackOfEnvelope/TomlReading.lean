import BackOfEnvelope.NumberReading
import BackOfEnvelope.Toml

/-!
# Reading TOML

A document is a sequence of lines, each with a header, with a key and its value,
or with nothing, and maybe with a comment at the end.  Values that span lines are
strings between triple quotation marks, arrays and inline tables.  A reader
answers with what it read and the text behind, or with nothing if the text is
not well-formed.
-/

namespace BackOfEnvelope

namespace TomlReading

/-- The rest of a text behind spaces and tabs. -/
def skipBlanks (text : List Char) : List Char :=
  text.dropWhile fun c => c = ' ' || c = '\t'

/-- The rest of a text behind a line end. -/
def behindNewline? : List Char → Option (List Char)
  | '\n' :: rest => some rest
  | '\r' :: '\n' :: rest => some rest
  | _ => none

/-- Control characters other than the tab, which no line may contain. -/
def isControl (c : Char) : Bool :=
  (c.toNat < 32 && c ≠ '\t') || c.toNat = 127

/-- The rest of a text behind blanks and a comment, up to the end of the line.
The comment must not contain control characters. -/
def skipComment (text : List Char) : Option (List Char) :=
  match skipBlanks text with
  | '#' :: rest =>
      let behind := rest.dropWhile fun c => !isControl c
      if behind.isEmpty || (behindNewline? behind).isSome then some behind else none
  | rest => some rest

/-- The rest of a text behind blanks, comments and line ends.  The first argument
bounds the count of lines. -/
def skipLines : Nat → List Char → Option (List Char)
  | 0, text => skipComment text
  | bound + 1, text =>
      match skipComment text with
      | none => none
      | some behind =>
          match behindNewline? behind with
          | some rest => skipLines bound rest
          | none => some behind

/-- The rest of a text behind all blanks, comments and line ends. -/
def skipSpace (text : List Char) : Option (List Char) :=
  skipLines text.length text

/-- Read `count` hexadecimal digits. -/
def readHex? : Nat → Nat → List Char → Option (Nat × List Char)
  | 0, value, text => some (value, text)
  | count + 1, value, c :: rest =>
      match hexDigitValue? c with
      | some digit => readHex? count (16 * value + digit) rest
      | none => none
  | _ + 1, _, [] => none

def readEscape? : List Char → Option (Char × List Char)
  | [] => none
  | c :: rest =>
      let scalar (count : Nat) : Option (Char × List Char) :=
        match readHex? count 0 rest with
        | none => none
        | some (code, behind) =>
            if (0xD800 ≤ code && code ≤ 0xDFFF) || 0x10FFFF < code then none
            else some (Char.ofNat code, behind)
      match c with
      | 'b' => some (Char.ofNat 8, rest)
      | 't' => some ('\t', rest)
      | 'n' => some ('\n', rest)
      | 'f' => some (Char.ofNat 12, rest)
      | 'r' => some ('\r', rest)
      | 'e' => some (Char.ofNat 27, rest)
      | '"' => some ('"', rest)
      | '\\' => some ('\\', rest)
      | 'x' => scalar 2
      | 'u' => scalar 4
      | 'U' => scalar 8
      | _ => none

/-- Read a string between single quotation marks of one kind, behind the opening
one.  Escapes are read where `escapes` says so. -/
def readLine? (quote : Char) (escapes : Bool) :
    Nat → List Char → Option (List Char × List Char)
  | 0, _ => none
  | _ + 1, [] => none
  | bound + 1, c :: rest =>
      if c = quote then some ([], rest)
      else if isControl c then none
      else
        let read? := if escapes && c = '\\' then readEscape? rest else some (c, rest)
        match read? with
        | none => none
        | some (character, behind) =>
            (readLine? quote escapes bound behind).map fun (more, behind) =>
              (character :: more, behind)

/-- The rest of a text behind a backslash at the end of a line, and all blanks
and line ends after it. -/
def behindLineJoin? (text : List Char) : Option (List Char) :=
  match behindNewline? (skipBlanks text) with
  | none => none
  | some rest =>
      some (rest.dropWhile fun c => c = ' ' || c = '\t' || c = '\n' || c = '\r')

/-- Read a string between triple quotation marks of one kind, behind the opening
ones.  Up to two quotation marks may stand before the closing ones. -/
def readLines? (quote : Char) (escapes : Bool) :
    Nat → List Char → Option (List Char × List Char)
  | 0, _ => none
  | _ + 1, [] => none
  | bound + 1, c :: rest =>
      let marks := (c :: rest).takeWhile (· == quote)
      if 3 ≤ marks.length then
        let inside := min (marks.length - 3) 2
        some (List.replicate inside quote, (c :: rest).drop (3 + inside))
      else if escapes && c = '\\' then
        match behindLineJoin? rest with
        | some behind => readLines? quote escapes bound behind
        | none =>
            match readEscape? rest with
            | none => none
            | some (character, behind) =>
                (readLines? quote escapes bound behind).map fun (more, behind) =>
                  (character :: more, behind)
      else if isControl c && c ≠ '\n' && (behindNewline? (c :: rest)).isNone then none
      else
        (readLines? quote escapes bound rest).map fun (more, behind) => (c :: more, behind)

/-- Read a string at its opening quotation mark.  A line end right behind triple
marks does not count. -/
def readString? : List Char → Option (String × List Char)
  | a :: b :: c :: rest =>
      if (a = '"' || a = '\'') && b = a && c = a then
        let start := (behindNewline? rest).getD rest
        (readLines? a (a = '"') (start.length + 1) start).map fun (text, behind) =>
          (String.ofList text, behind)
      else if a = '"' || a = '\'' then
        (readLine? a (a = '"') (rest.length + 3) (b :: c :: rest)).map fun (text, behind) =>
          (String.ofList text, behind)
      else none
  | [a, b] => if (a = '"' || a = '\'') && b = a then some ("", []) else none
  | _ => none

/-- The characters of keys without quotation marks. -/
def isKeyCharacter (c : Char) : Bool :=
  c.isAlphanum || c = '_' || c = '-'

def readKeyPart? (text : List Char) : Option (String × List Char) :=
  match text with
  | a :: b :: c :: rest =>
      if (a = '"' || a = '\'') && b = a && c = a then none
      else if a = '"' || a = '\'' then readString? (a :: b :: c :: rest)
      else readBare text
  | [a, b] => if a = '"' || a = '\'' then readString? [a, b] else readBare text
  | _ => readBare text
where
  /-- Read a part without quotation marks. -/
  readBare (text : List Char) : Option (String × List Char) :=
    let (name, behind) := text.span isKeyCharacter
    if name.isEmpty then none else some (String.ofList name, behind)

/-- Read a key of at most `bound` parts with points between them. -/
def readKeyParts? : Nat → List Char → Option (List String × List Char)
  | 0, _ => none
  | bound + 1, text =>
      match readKeyPart? (skipBlanks text) with
      | none => none
      | some (part, behind) =>
          match skipBlanks behind with
          | '.' :: rest =>
              (readKeyParts? bound rest).map fun (parts, behind) => (part :: parts, behind)
          | rest => some ([part], rest)

/-- A key has at most this many parts. -/
def mostKeyParts : Nat := 80

def readKey? (text : List Char) : Option (List String × List Char) :=
  readKeyParts? mostKeyParts text

/-- Digits of a base in which an underscore may separate two of them. -/
def separatedDigits? (base : Nat) (behindDigit : Bool) : List Char → Option (List Char)
  | [] => if behindDigit then some [] else none
  | '_' :: rest => if behindDigit then separatedDigits? base false rest else none
  | c :: rest =>
      match hexDigitValue? c with
      | some digit =>
          if digit < base then (separatedDigits? base true rest).map (c :: ·) else none
      | none => none

/-- The value of digits in a base. -/
def valueOfDigits (base : Nat) (digits : List Char) : Nat :=
  digits.foldl (fun value c => base * value + (hexDigitValue? c).getD 0) 0

def wholeDigits? (text : List Char) : Option (List Char) :=
  match separatedDigits? 10 false text with
  | some ('0' :: c :: rest) => if (c :: rest).isEmpty then some ['0'] else none
  | found => found

def integer? (text : List Char) : Option Int :=
  let value? : Option Int :=
    match text with
    | '0' :: 'x' :: rest => (separatedDigits? 16 false rest).map (valueOfDigits 16 ·)
    | '0' :: 'o' :: rest => (separatedDigits? 8 false rest).map (valueOfDigits 8 ·)
    | '0' :: 'b' :: rest => (separatedDigits? 2 false rest).map (valueOfDigits 2 ·)
    | '-' :: rest => (wholeDigits? rest).map fun digits => -(valueOfDigits 10 digits : Int)
    | '+' :: rest => (wholeDigits? rest).map (valueOfDigits 10 ·)
    | _ => (wholeDigits? text).map (valueOfDigits 10 ·)
  value?.bind fun value =>
    if -(powerOfTwo 127 : Int) ≤ value && value < (powerOfTwo 128 : Int) then some value else none

/-- The number with a fraction or an exponent that a text spells, within the
range of binary64. -/
def float? (text : List Char) : Option Float :=
  let (negative, unsigned) := splitSign text
  if unsigned = "inf".toList then some (Binary64.infinity negative)
  else if unsigned = "nan".toList then some Binary64.notANumber
  else do
    let isMark (c : Char) : Bool := c = '.' || c = 'e' || c = 'E'
    let (wholeText, behindWhole) := unsigned.span fun c => !isMark c
    let whole ← wholeDigits? wholeText
    let (fraction, behindFraction) ←
      match behindWhole with
      | '.' :: rest =>
          let (digits, behind) := rest.span fun c => !isMark c
          (separatedDigits? 10 false digits).map fun digits => (digits, behind)
      | rest => some ([], rest)
    let exponent ←
      match behindFraction with
      | [] => if fraction.isEmpty then none else some 0
      | mark :: rest =>
          if mark = '.' then none
          else
            let (negativeExponent, digits) := splitSign rest
            (separatedDigits? 10 false digits).map fun digits =>
              if negativeExponent then -(digitsValue digits : Int) else digitsValue digits
    let value := (DecimalLiteral.mk whole fraction exponent).toFloat negative
    if value.isInf then none else some value

/-- The value of `count` decimal digits. -/
def fixedDigits? (count : Nat) (text : List Char) : Option (Nat × List Char) :=
  let digits := text.take count
  if digits.length = count && digits.all Char.isDigit then
    some (digitsValue digits, text.drop count)
  else none

def daysOfMonth (year month : Nat) : Nat :=
  if month = 2 then
    if year % 4 = 0 && (year % 100 ≠ 0 || year % 400 = 0) then 29 else 28
  else if month = 4 || month = 6 || month = 9 || month = 11 then 30
  else 31

def behindDate? (text : List Char) : Option (List Char) := do
  let (year, text) ← fixedDigits? 4 text
  let (month, text) ← if text.head? = some '-' then fixedDigits? 2 (text.drop 1) else none
  let (day, text) ← if text.head? = some '-' then fixedDigits? 2 (text.drop 1) else none
  if 1 ≤ month && month ≤ 12 && 1 ≤ day && day ≤ daysOfMonth year month then some text
  else none

/-- The text behind a time, whose seconds may be left out. -/
def behindTime? (text : List Char) : Option (List Char) := do
  let (hour, text) ← fixedDigits? 2 text
  let (minute, text) ← if text.head? = some ':' then fixedDigits? 2 (text.drop 1) else none
  if 23 < hour || 59 < minute then none
  else if text.head? = some ':' then
    let (second, text) ← fixedDigits? 2 (text.drop 1)
    if 60 < second then none
    else if text.head? = some '.' then
      let (digits, behind) := (text.drop 1).span Char.isDigit
      if digits.isEmpty then none else some behind
    else some text
  else some text

/-- Whether a text is an offset from universal time. -/
def isOffset : List Char → Bool
  | ['Z'] | ['z'] => true
  | [sign, a, b, ':', c, d] =>
      (sign = '+' || sign = '-') && [a, b, c, d].all Char.isDigit &&
        decide (digitsValue [a, b] ≤ 23) && decide (digitsValue [c, d] ≤ 59)
  | _ => false

/-- Whether a text is a date, a time or both. -/
def isMoment (text : List Char) : Bool :=
  match behindDate? text with
  | some [] => true
  | some (separator :: rest) =>
      (separator = 'T' || separator = 't' || separator = ' ') &&
        (match behindTime? rest with
        | some behind => behind.isEmpty || isOffset behind
        | none => false)
  | none =>
      match behindTime? text with
      | some behind => behind.isEmpty
      | none => false

/-- The value of a text without quotation marks. -/
def ofWord? (text : List Char) : Option Toml :=
  if text = "true".toList then some (.boolean true)
  else if text = "false".toList then some (.boolean false)
  else if isMoment text then some (.moment (String.ofList text))
  else
    match integer? text with
    | some value => some (.integer value)
    | none => (float? text).map .float

/-- The characters of values without quotation marks. -/
def isWordCharacter (c : Char) : Bool :=
  c.isAlphanum || c = '+' || c = '-' || c = '_' || c = '.' || c = ':'

/-- Read a value without quotation marks.  A space may separate a date from a
time. -/
def readWord? (text : List Char) : Option (Toml × List Char) :=
  let (word, behind) := text.span isWordCharacter
  let (longer, behindLonger) :=
    match behind with
    | ' ' :: c :: rest =>
        if c.isDigit && (behindDate? word) = some [] then
          let (time, behind) := (c :: rest).span isWordCharacter
          (word ++ ' ' :: time, behind)
        else (word, behind)
    | _ => (word, behind)
  (ofWord? longer).map fun value => (value, behindLonger)

/-- Read the items of an array behind its opening bracket or a comma.  The second
argument bounds their count. -/
def readItems? (read : List Char → Option (Toml × List Char)) :
    Nat → List Char → Option (List Toml × List Char)
  | 0, _ => none
  | bound + 1, text => do
      let start ← skipSpace text
      if start.head? = some ']' then some ([], start.drop 1)
      else
        let (item, behind) ← read start
        let behind ← skipSpace behind
        match behind with
        | ']' :: rest => some ([item], rest)
        | ',' :: rest => (readItems? read bound rest).map fun (items, rest) => (item :: items, rest)
        | _ => none

def readKeyValue? (read : List Char → Option (Toml × List Char)) (text : List Char) :
    Option ((List String × Toml) × List Char) := do
  let (key, behind) ← readKey? text
  match behind with
  | '=' :: rest =>
      let (value, behind) ← read (skipBlanks rest)
      return ((key, value), behind)
  | _ => none

/-- Read the entries of an inline table behind its opening brace or a comma. -/
def readEntries? (read : List Char → Option (Toml × List Char)) :
    Nat → Toml → List Char → Option (Toml × List Char)
  | 0, _, _ => none
  | bound + 1, table, text => do
      let start ← skipSpace text
      if start.head? = some '}' then some (table, start.drop 1)
      else
        let ((key, value), behind) ← readKeyValue? read start
        let table ← Toml.assign false key value table
        let behind ← skipSpace behind
        match behind with
        | '}' :: rest => some (table, rest)
        | ',' :: rest => readEntries? read bound table rest
        | _ => none

/-- Read a value in which `levels` further levels of arrays and inline tables
are allowed. -/
def readValue? : Nat → List Char → Option (Toml × List Char)
  | levels, text =>
      match text with
      | '"' :: _ | '\'' :: _ => (readString? text).map fun (value, behind) => (.text value, behind)
      | '[' :: rest =>
          match levels with
          | 0 => none
          | inner + 1 =>
              (readItems? (readValue? inner) (rest.length + 1) rest).map fun (items, behind) =>
                (.array items, behind)
      | '{' :: rest =>
          match levels with
          | 0 => none
          | inner + 1 =>
              readEntries? (readValue? inner) (rest.length + 1) (.table .inline []) rest
      | _ => readWord? text

/-- Arrays and inline tables stand at most this deep inside each other. -/
def deepestNesting : Nat := 80

structure Reading where
  document : Toml
  /-- The keys of the last header. -/
  header : List String

/-- Begin a table at its header, given the keys of the header. -/
def Reading.open? (reading : Reading) (several : Bool) (keys : List String) :
    Option Reading := do
  let last ← keys.getLast?
  let define := if several then Toml.defineElement last else Toml.defineTable last
  let document ← Toml.changeAt define keys.dropLast reading.document
  return ⟨document, keys⟩

/-- Read a header, behind its first bracket. -/
def Reading.readHeader? (reading : Reading) (text : List Char) : Option (Reading × List Char) := do
  let (several, start) :=
    match text with
    | '[' :: rest => (true, rest)
    | rest => (false, rest)
  let (keys, behind) ← readKey? start
  let behind ←
    match several, behind with
    | true, ']' :: ']' :: rest => some rest
    | false, ']' :: rest => some rest
    | _, _ => none
  return (← reading.open? several keys, behind)

/-- Read what a line holds. -/
def Reading.readContent? (reading : Reading) (text : List Char) : Option (Reading × List Char) :=
  match text with
  | '[' :: rest => reading.readHeader? rest
  | _ => do
      let ((key, value), behind) ← readKeyValue? (readValue? deepestNesting) text
      let document ← Toml.changeAt (Toml.assign false key value) reading.header reading.document
      return ({ reading with document }, behind)

/-- Read line after line.  The first argument bounds their count. -/
def Reading.readAll? : Nat → Reading → List Char → Option Reading
  | 0, _, _ => none
  | bound + 1, reading, text => do
      let start ← skipSpace text
      if start.isEmpty then some reading
      else
        let (reading, behind) ← reading.readContent? start
        let lineEnd ← skipComment behind
        if lineEnd.isEmpty then some reading
        else
          let rest ← behindNewline? lineEnd
          readAll? bound reading rest

/-- The entries of a document.  A byte order mark in front does not count. -/
def read? (text : String) : Option (List (String × Toml)) :=
  let characters :=
    match text.toList with
    | c :: rest => if c.toNat = 0xFEFF then rest else c :: rest
    | [] => []
  match Reading.readAll? (characters.length + 1) ⟨.table .header [], []⟩ characters with
  | some ⟨.table _ entries, _⟩ => some entries
  | _ => none

end TomlReading

end BackOfEnvelope
