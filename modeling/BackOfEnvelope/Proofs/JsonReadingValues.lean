import BackOfEnvelope.JsonReading
import BackOfEnvelope.Text
import BackOfEnvelope.Proofs.Binary64Range
import BackOfEnvelope.Proofs.FieldSorting
import BackOfEnvelope.Proofs.TextPieces
import Mathlib.Data.List.TakeDrop
import Mathlib.Data.List.TakeWhile

/-!
# What reading JSON yields

Every number that is read is finite: the significand has at most 64 bits, a quotient by a
power of ten is finite with its dividend, and a product by one is checked.  Together with
the order of the fields that makes every value that is read a regular one.  A text that is
read has a value in it, so it is not blank.
-/

namespace BackOfEnvelope

namespace JsonNumeral

theorem accumulate_le {significand : Nat} (digits : List Char)
    (small : significand ≤ largestSignificand) :
    (accumulate significand digits).1 ≤ largestSignificand := by
  induction digits generalizing significand with
  | nil => exact small
  | cons digit rest ih =>
      simp only [accumulate]
      split
      · next longer => exact ih longer
      · exact small

open Binary64 in
theorem isFinite_scaleByPowersOfTen {steps : Nat} {value scaled : Float} {exponent : Int}
    (finite : value.isFinite) (inRange : scaleByPowersOfTen steps value exponent = some scaled) :
    scaled.isFinite := by
  induction steps generalizing value exponent with
  | zero =>
      cases inRange
      exact finite
  | succ steps ih =>
      simp only [scaleByPowersOfTen] at inRange
      split at inRange
      · next bounded =>
          split at inRange
          · split at inRange
            · cases inRange
            · next notInfinite =>
                cases inRange
                refine isFinite_mul finite ?_ (Bool.eq_false_iff.mpr notInfinite)
                exact isFinite_powerOfTen bounded
          · next negative =>
              cases inRange
              exact isFinite_div_powerOfTen finite (by omega) bounded
      · split at inRange
        · cases inRange
          exact finite
        · split at inRange
          · cases inRange
          · exact ih (isFinite_div_powerOfTen finite (by decide) (Nat.le_refl 308)) inRange

open Binary64 in
/-- A numeral is never read as an infinite number or as one that is none. -/
theorem isFinite_toFloat? {numeral : JsonNumeral} {value : Float}
    (read : numeral.toFloat? = some value) : value.isFinite := by
  have small : (accumulate (accumulate 0 numeral.whole).1 numeral.fraction).1 ≤
      largestSignificand :=
    accumulate_le numeral.fraction (accumulate_le numeral.whole (Nat.zero_le _))
  have start := isFinite_nearest (Nat.lt_of_le_of_lt small (by decide))
  obtain ⟨unsigned, inRange, rfl⟩ := Option.map_eq_some_iff.mp read
  have finite : unsigned.isFinite := by
    -- Only an exponent beyond 31 bits is not scaled by: then the number is zero or out of range.
    revert inRange
    simp only
    cases numeral.exponent with
    | none => exact isFinite_scaleByPowersOfTen start
    | some mark =>
        simp only
        split
        · split
          · exact fun inRange => nomatch inRange
          · intro inRange
            cases inRange
            exact isFinite_nearest (by decide)
        · exact isFinite_scaleByPowersOfTen start
  split
  · exact isFinite_neg finite
  · exact finite

end JsonNumeral

/-- A JSON value as reading yields it: its numbers are finite, and the fields of its objects
are sorted by name, no name twice. -/
inductive Json.IsRegular : Json → Prop
  | null : IsRegular .null
  | boolean (value : Bool) : IsRegular (.boolean value)
  | integer (value : Int) : IsRegular (.integer value)
  | float {value : Float} (finite : value.isFinite) : IsRegular (.float value)
  | text (value : String) : IsRegular (.text value)
  | array {items : List Json} (each : ∀ item ∈ items, IsRegular item) : IsRegular (.array items)
  | object {fields : Fields Json} (sorted : fields.Sorted)
      (each : ∀ field ∈ fields, IsRegular field.2) : IsRegular (.object fields)

namespace JsonNumeral

theorem isRegular_of_toJson? {numeral : JsonNumeral} {value : Json}
    (read : numeral.toJson? = some value) : value.IsRegular := by
  simp only [toJson?] at read
  generalize (if numeral.negative then _ else _ : Int) = integer at read
  split at read
  · cases read
    exact .integer integer
  · obtain ⟨number, readNumber, rfl⟩ := Option.map_eq_some_iff.mp read
    exact .float (isFinite_toFloat? readNumber)

end JsonNumeral

namespace JsonSyntax

theorem isRegular_of_toJsonWithin? (tree : JsonSyntax) :
    ∀ {levels : Nat} {value : Json}, tree.toJsonWithin? levels = some value →
      value.IsRegular := by
  refine @JsonSyntax.rec
    (fun tree => ∀ {levels value}, tree.toJsonWithin? levels = some value → value.IsRegular)
    (fun items => ∀ {levels values}, itemsToJson? levels items = some values →
      ∀ value ∈ values, value.IsRegular)
    (fun fields => ∀ {levels values}, fieldsToJson? levels fields = some values →
      ∀ field ∈ values, field.2.IsRegular)
    (fun field => ∀ {levels value}, field.2.toJsonWithin? levels = some value → value.IsRegular)
    ?null ?boolean ?number ?text ?array ?object ?noItems ?items ?noFields ?fields ?field tree
  case null =>
    intro levels value read
    cases read
    exact .null
  case boolean =>
    intro truth levels value read
    cases read
    exact .boolean truth
  case number =>
    intro numeral levels value read
    exact JsonNumeral.isRegular_of_toJson? read
  case text =>
    intro units levels value read
    obtain ⟨text, -, rfl⟩ := Option.map_eq_some_iff.mp read
    exact .text text
  case array =>
    intro items ofItems levels value read
    simp only [toJsonWithin?] at read
    split at read
    · cases read
    · obtain ⟨values, readItems, rfl⟩ := Option.map_eq_some_iff.mp read
      exact .array (ofItems readItems)
  case object =>
    intro fields ofFields levels value read
    simp only [toJsonWithin?] at read
    split at read
    · cases read
    · obtain ⟨values, readFields, rfl⟩ := Option.map_eq_some_iff.mp read
      refine .object (Fields.sorted_sortFields values) fun field member => ?_
      exact ofFields readFields field (Fields.mem_of_mem_sortFields member)
  case noItems =>
    intro levels values read
    cases read
    exact List.forall_mem_nil _
  case items =>
    intro item rest ofItem ofRest levels values read
    simp only [itemsToJson?, Option.bind_eq_bind, Option.bind_eq_some_iff, Option.pure_def,
      Option.some.injEq] at read
    obtain ⟨value, readItem, others, readRest, rfl⟩ := read
    exact List.forall_mem_cons.mpr ⟨ofItem readItem, ofRest readRest⟩
  case noFields =>
    intro levels values read
    cases read
    exact List.forall_mem_nil _
  case fields =>
    intro field rest ofField ofRest levels values read
    simp only [fieldsToJson?, Option.bind_eq_bind, Option.bind_eq_some_iff, Option.pure_def,
      Option.some.injEq] at read
    obtain ⟨name, -, value, readValue, others, readRest, rfl⟩ := read
    exact List.forall_mem_cons.mpr ⟨ofField readValue, ofRest readRest⟩
  case field => exact fun _ _ ofValue => ofValue

end JsonSyntax

theorem Json.isRegular_of_ofText? {text : String} {value : Json}
    (read : Json.ofText? text = some value) : value.IsRegular := by
  obtain ⟨tree, -, readTree⟩ := Option.bind_eq_some_iff.mp read
  exact tree.isRegular_of_toJsonWithin? readTree

theorem trimCharacters_eq_nil_iff {text : List Char} :
    trimCharacters text = [] ↔ ∀ c ∈ text, isWhiteSpace c = true := by
  rw [trimCharacters, List.reverse_eq_nil_iff, List.dropWhile_eq_nil_iff]
  simp only [List.mem_reverse]
  constructor
  · intro whiteEnd c member
    rw [← @List.takeWhile_append_dropWhile _ isWhiteSpace text] at member
    rcases List.mem_append.mp member with front | behind
    · exact List.mem_takeWhile_imp front
    · exact whiteEnd c behind
  · exact fun white c member => white c ((List.dropWhile_sublist _).subset member)

theorem isDigit_of_isWhiteSpace {c : Char} (white : isWhiteSpace c = true) :
    c.isDigit = false := by
  rw [Bool.eq_false_iff]
  intro digit
  rw [isWhiteSpace_of_isDigit digit] at white
  cases white

namespace JsonSyntax

theorem readNumeral?_of_white {c : Char} {rest : List Char} (white : isWhiteSpace c = true) :
    readNumeral? (c :: rest) = none := by
  have noDigits : (c :: rest).takeWhile Char.isDigit = [] := by
    rw [List.takeWhile_cons, isDigit_of_isWhiteSpace white]
    rfl
  rw [readNumeral?, List.span_eq_takeWhile_dropWhile, noDigits]
  · rfl
  · intro _ signed
    cases signed
    exact absurd white (by decide)

/-- White space is no value. -/
theorem readValue?_of_white {bound : Nat} {input : List Char}
    (white : ∀ c ∈ input, isWhiteSpace c = true) : readValue? bound input = none := by
  cases bound with
  | zero => rfl
  | succ bound =>
      have whiteRest : ∀ c ∈ skipSpaces input, isWhiteSpace c = true := fun c member =>
        white c ((List.dropWhile_sublist _).subset member)
      rw [readValue?]
      generalize skipSpaces input = start at whiteRest
      cases start with
      | nil => rfl
      | cons c rest =>
          have whiteHead := whiteRest c List.mem_cons_self
          split
          case h_7 =>
            rw [readNumeral?_of_white whiteHead]
            rfl
          all_goals
            next begins =>
              cases begins
              exact absurd whiteHead (by decide)

end JsonSyntax

/-- A text that is read as a value is not blank. -/
theorem Json.trim_ne_empty_of_ofText? {text : String} {value : Json}
    (read : Json.ofText? text = some value) : (trim text).isEmpty = false := by
  rw [Bool.eq_false_iff]
  intro blank
  have white : ∀ c ∈ text.toList, isWhiteSpace c = true := by
    rw [← trimCharacters_eq_nil_iff]
    simpa [trim] using blank
  have noValue : Json.ofText? text = none := by
    rw [Json.ofText?, JsonSyntax.ofText?, JsonSyntax.readValue?_of_white white]
    rfl
  exact absurd (noValue.symm.trans read) (by simp)

end BackOfEnvelope
