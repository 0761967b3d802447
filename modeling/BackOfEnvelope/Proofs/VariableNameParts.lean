import BackOfEnvelope.VariableName

/-!
# Parts of variable names

A name in words that is written as three parts with two underscores between them is divided, and
no other name is.  Of all its divisions the one with the longest description is taken, and of
those the one with the longest entity.  So a name is read back as it was written if its entity and
its units neither begin with an underscore nor hold two in a row, whatever its description holds.
-/

namespace BackOfEnvelope

/-- In a list of decreasing sizes the first element with a result is the greatest one. -/
theorem findSome?_eq_some_iff_greatest {α β : Type} {size : α → Nat} {elements : List α}
    (decreasing : elements.Pairwise fun first second => size second < size first)
    {result? : α → Option β} {result : β} :
    elements.findSome? result? = some result ↔
      ∃ element ∈ elements, result? element = some result ∧
        ∀ other ∈ elements, (result? other).isSome → size other ≤ size element := by
  rw [List.findSome?_eq_some_iff]
  constructor
  · rintro ⟨earlier, element, later, rfl, found, without⟩
    refine ⟨element, by simp, found, ?_⟩
    intro other member hasResult
    obtain isEarlier | isRest := List.mem_append.mp member
    · simp [without other isEarlier] at hasResult
    · obtain rfl | isLater := List.mem_cons.mp isRest
      · exact Nat.le_refl _
      · have smaller := (List.pairwise_append.mp decreasing).2.1
        exact Nat.le_of_lt ((List.pairwise_cons.mp smaller).1 other isLater)
  · rintro ⟨element, member, found, greatest⟩
    obtain ⟨earlier, later, rfl⟩ := List.append_of_mem member
    refine ⟨earlier, element, later, rfl, found, ?_⟩
    intro other isEarlier
    have greater := (List.pairwise_append.mp decreasing).2.2 other isEarlier element (by simp)
    cases hasResult : result? other with
    | none => rfl
    | some value =>
        have bound := greatest other (List.mem_append_left _ isEarlier) (by simp [hasResult])
        omega

namespace VariableName

variable {text before behind front part : List Char}

theorem divisions_cons (c : Char) (rest : List Char) :
    divisions (c :: rest) =
      (if c = '_' ∧ rest.head? = some '_' then [([], rest.tail)] else []) ++
        (divisions rest).map fun part => (c :: part.1, part.2) := by
  cases rest with
  | nil => simp [divisions]
  | cons second behind =>
      simp only [divisions, Bool.and_eq_true, decide_eq_true_eq, List.head?_cons,
        Option.some.injEq, List.tail_cons]
      split <;> rfl

theorem mem_divisions_iff :
    (before, behind) ∈ divisions text ↔ text = before ++ '_' :: '_' :: behind := by
  induction text generalizing before with
  | nil => simp [divisions]
  | cons c rest ih =>
      have here : (before, behind) ∈
          (if c = '_' ∧ rest.head? = some '_' then [([], rest.tail)] else []) ↔
            before = [] ∧ c = '_' ∧ rest = '_' :: behind := by
        cases rest with
        | nil => simp
        | cons second others => split <;> simp_all [eq_comm]
      rw [divisions_cons, List.mem_append, here]
      cases before with
      | nil => simp
      | cons first others =>
          rw [List.mem_map]
          constructor
          · rintro (⟨same, -⟩ | ⟨⟨later, rest⟩, member, same⟩)
            · cases same
            · cases same
              exact congrArg (c :: ·) (ih.mp member)
          · intro same
            obtain ⟨rfl, divided⟩ := List.cons.inj same
            exact .inr ⟨(others, behind), ih.mpr divided, rfl⟩

/-- The divisions come in the order of their first parts. -/
theorem pairwise_divisions (text : List Char) :
    (divisions text).Pairwise fun first second => first.1.length < second.1.length := by
  induction text with
  | nil => exact .nil
  | cons c rest ih =>
      have later : ((divisions rest).map fun part => (c :: part.1, part.2)).Pairwise
          fun first second => first.1.length < second.1.length := by
        simpa [List.pairwise_map] using ih
      rw [divisions_cons]
      split
      · rw [List.singleton_append, List.pairwise_cons]
        refine ⟨?_, later⟩
        intro part member
        obtain ⟨division, -, rfl⟩ := List.mem_map.mp member
        exact Nat.succ_pos _
      · exact later

/-- A text is written as two parts with two underscores between them. -/
structure DividesInto (text before behind : List Char) : Prop where
  whole : text = before ++ '_' :: '_' :: behind
  before_ne_nil : before ≠ []
  behind_ne_nil : behind ≠ []

/-- No division has a longer first part. -/
structure DividesLast (text before behind : List Char) : Prop where
  divides : DividesInto text before behind
  longest : ∀ other rest, DividesInto text other rest → other.length ≤ before.length

theorem mem_properDivisions_iff :
    (before, behind) ∈ properDivisions text ↔ DividesInto text before behind := by
  simp only [properDivisions, List.mem_filter, List.mem_reverse, mem_divisions_iff,
    Bool.and_eq_true, Bool.not_eq_true', List.isEmpty_eq_false_iff]
  exact ⟨fun ⟨whole, first, second⟩ => ⟨whole, first, second⟩,
    fun ⟨whole, first, second⟩ => ⟨whole, first, second⟩⟩

theorem pairwise_properDivisions (text : List Char) :
    (properDivisions text).Pairwise fun first second => second.1.length < first.1.length :=
  (List.pairwise_reverse.mpr (pairwise_divisions text)).filter _

theorem head?_properDivisions_eq_some_iff :
    (properDivisions text).head? = some (before, behind) ↔ DividesLast text before behind := by
  rw [← List.filterMap_some (l := properDivisions text), List.head?_filterMap,
    findSome?_eq_some_iff_greatest (pairwise_properDivisions text)]
  constructor
  · rintro ⟨division, member, same, greatest⟩
    obtain rfl : division = (before, behind) := Option.some.inj same
    refine ⟨mem_properDivisions_iff.mp member, ?_⟩
    intro other rest divides
    exact greatest (other, rest) (mem_properDivisions_iff.mpr divides) rfl
  · rintro ⟨divides, longest⟩
    refine ⟨(before, behind), mem_properDivisions_iff.mpr divides, rfl, ?_⟩
    intro other member _
    exact longest other.1 other.2 (mem_properDivisions_iff.mp member)

theorem exists_dividesLast (divides : DividesInto text before behind) :
    ∃ first second, DividesLast text first second := by
  cases head : (properDivisions text).head? with
  | none =>
      rw [List.head?_eq_none_iff] at head
      have member := mem_properDivisions_iff.mpr divides
      simp [head] at member
  | some division => exact ⟨_, _, head?_properDivisions_eq_some_iff.mp head⟩

/-- A part in which no two underscores follow each other, even with one in front of it. -/
structure IsSimple (part : List Char) : Prop where
  not_infix : ¬ ['_', '_'] <:+: part
  head?_ne : part.head? ≠ some '_'

theorem IsSimple.ne_append (simple : IsSimple part) (before behind : List Char) :
    '_' :: part ≠ before ++ '_' :: '_' :: behind := by
  intro same
  cases before with
  | nil =>
      obtain rfl := (List.cons.inj same).2
      exact simple.head?_ne rfl
  | cons first others =>
      obtain rfl := (List.cons.inj same).2
      exact simple.not_infix (List.infix_append' others ['_', '_'] behind)

/-- The underscores in front of a simple part are the last two in a row. -/
theorem IsSimple.length_le (simple : IsSimple part)
    (same : front ++ '_' :: '_' :: part = before ++ '_' :: '_' :: behind) :
    before.length ≤ front.length := by
  obtain ⟨more, rfl, inPart⟩ | ⟨more, rfl, -⟩ := List.append_eq_append_iff.mp same
  · cases more with
    | nil => simp
    | cons first others =>
        exact absurd (List.cons.inj inPart).2 (simple.ne_append others behind)
  · simp

theorem split?_eq_some_iff {name description entity units : List Char} :
    split? name = some (description, entity, units) ↔
      (∀ c ∈ name, isWordCharacter c) ∧
        ∃ rest, DividesInto name description rest ∧ DividesLast rest entity units ∧
          ∀ other behind, DividesInto name other behind →
            (∃ first second, DividesInto behind first second) →
            other.length ≤ description.length := by
  rw [split?, ← List.all_eq_true, Option.ite_none_right_eq_some]
  refine and_congr_right fun _ => ?_
  rw [findSome?_eq_some_iff_greatest (pairwise_properDivisions name)]
  constructor
  · rintro ⟨⟨front, rest⟩, member, divided, greatest⟩
    obtain ⟨⟨first, second⟩, last, same⟩ := Option.map_eq_some_iff.mp divided
    cases same
    refine ⟨rest, mem_properDivisions_iff.mp member, head?_properDivisions_eq_some_iff.mp last, ?_⟩
    intro other behind divides further
    refine greatest (other, behind) (mem_properDivisions_iff.mpr divides) ?_
    obtain ⟨first, second, furtherDivides⟩ := further
    obtain ⟨_, _, last⟩ := exists_dividesLast furtherDivides
    simp [head?_properDivisions_eq_some_iff.mpr last]
  · rintro ⟨rest, divides, last, longest⟩
    refine ⟨(description, rest), mem_properDivisions_iff.mpr divides, ?_, ?_⟩
    · simp [head?_properDivisions_eq_some_iff.mpr last]
    · rintro ⟨other, behind⟩ member further
      refine longest other behind (mem_properDivisions_iff.mp member) ?_
      obtain ⟨⟨first, second⟩, head⟩ :
          ∃ division, (properDivisions behind).head? = some division := by
        simpa [Option.isSome_iff_exists] using further
      exact ⟨first, second, (head?_properDivisions_eq_some_iff.mp head).divides⟩

theorem ofText?_eq_some_iff_split? {name : String} {parts : VariableName} :
    ofText? name = some parts ↔
      split? name.toList =
        some (parts.description.toList, parts.entity.toList, parts.units.toList) := by
  rw [ofText?, Option.map_eq_some_iff]
  constructor
  · rintro ⟨⟨description, entity, units⟩, divided, rfl⟩
    simpa using divided
  · intro divided
    exact ⟨_, divided, by simp⟩

/-- A word that is not empty. -/
def IsWord (text : String) : Prop :=
  text ≠ "" ∧ ∀ c ∈ text.toList, isWordCharacter c

theorem isWord_of_all {text : String} (notEmpty : text ≠ "")
    (all : text.toList.all isWordCharacter) : IsWord text :=
  ⟨notEmpty, List.all_eq_true.mp all⟩

/-- The three parts with two underscores between them. -/
def joined (parts : VariableName) : String :=
  parts.description ++ "__" ++ parts.entity ++ "__" ++ parts.units

/-- A name in words is written as three parts that are not empty. -/
structure IsWrittenAs (name : String) (parts : VariableName) : Prop where
  word : ∀ c ∈ name.toList, isWordCharacter c
  whole : name = parts.joined
  description_ne_empty : parts.description ≠ ""
  entity_ne_empty : parts.entity ≠ ""
  units_ne_empty : parts.units ≠ ""

/-- The parts with the longest description, and of those the ones with the longest entity. -/
structure IsWrittenLast (name : String) (parts : VariableName) : Prop where
  isWritten : IsWrittenAs name parts
  longest_description : ∀ other, IsWrittenAs name other →
    other.description.length ≤ parts.description.length
  longest_entity : ∀ other, IsWrittenAs name other → other.description = parts.description →
    other.entity.length ≤ parts.entity.length

variable {name : String} {parts : VariableName}

theorem toList_joined (parts : VariableName) :
    parts.joined.toList = parts.description.toList ++ '_' :: '_' ::
      (parts.entity.toList ++ '_' :: '_' :: parts.units.toList) := by
  simp [joined]

theorem isWrittenAs_iff :
    IsWrittenAs name parts ↔
      (∀ c ∈ name.toList, isWordCharacter c) ∧
        ∃ rest, DividesInto name.toList parts.description.toList rest ∧
          DividesInto rest parts.entity.toList parts.units.toList := by
  constructor
  · rintro ⟨word, rfl, description, entity, units⟩
    refine ⟨word, _, ⟨toList_joined parts, ?_, by simp⟩, ⟨rfl, ?_, ?_⟩⟩
    all_goals simpa
  · rintro ⟨word, rest, ⟨whole, description, -⟩, ⟨rfl, entity, units⟩⟩
    refine ⟨word, String.toList_injective (whole.trans (toList_joined parts).symm), ?_, ?_, ?_⟩
    · simpa using description
    · simpa using entity
    · simpa using units

theorem isWrittenAs_ofList {description rest entity units : List Char}
    (word : ∀ c ∈ name.toList, isWordCharacter c)
    (divides : DividesInto name.toList description rest)
    (further : DividesInto rest entity units) :
    IsWrittenAs name
      ⟨String.ofList description, String.ofList entity, String.ofList units⟩ := by
  refine isWrittenAs_iff.mpr ⟨word, rest, ?_, ?_⟩
  · rwa [String.toList_ofList]
  · rwa [String.toList_ofList, String.toList_ofList]

theorem ofText?_eq_some_iff : ofText? name = some parts ↔ IsWrittenLast name parts := by
  rw [ofText?_eq_some_iff_split?, split?_eq_some_iff]
  constructor
  · rintro ⟨word, rest, divides, last, longest⟩
    refine ⟨isWrittenAs_iff.mpr ⟨word, rest, divides, last.divides⟩, ?_, ?_⟩
    · intro other isWritten
      obtain ⟨-, behind, otherDivides, further⟩ := isWrittenAs_iff.mp isWritten
      simpa [String.length_toList] using longest _ behind otherDivides ⟨_, _, further⟩
    · intro other isWritten same
      obtain ⟨-, behind, otherDivides, further⟩ := isWrittenAs_iff.mp isWritten
      obtain rfl : rest = behind := by
        simpa [same] using divides.whole.symm.trans otherDivides.whole
      simpa [String.length_toList] using last.longest _ _ further
  · rintro ⟨isWritten, longestDescription, longestEntity⟩
    obtain ⟨word, rest, divides, further⟩ := isWrittenAs_iff.mp isWritten
    refine ⟨word, rest, divides, ⟨further, ?_⟩, ?_⟩
    · intro entity units otherFurther
      have isOther := isWrittenAs_ofList word divides otherFurther
      simpa [String.length_toList] using longestEntity _ isOther (by simp)
    · rintro description behind otherDivides ⟨entity, units, otherFurther⟩
      have isOther := isWrittenAs_ofList word otherDivides otherFurther
      simpa [String.length_toList] using longestDescription _ isOther

/-- A name that is written in parts is divided. -/
theorem exists_ofText? (isWritten : IsWrittenAs name parts) :
    ∃ taken, ofText? name = some taken := by
  obtain ⟨word, rest, divides, further⟩ := isWrittenAs_iff.mp isWritten
  cases taken : ofText? name with
  | some parts => exact ⟨parts, rfl⟩
  | none =>
      rw [ofText?, Option.map_eq_none_iff, split?, if_pos (List.all_eq_true.mpr word),
        List.findSome?_eq_none_iff] at taken
      have undivided := taken _ (mem_properDivisions_iff.mpr divides)
      obtain ⟨entity, units, last⟩ := exists_dividesLast further
      simp [head?_properDivisions_eq_some_iff.mpr last] at undivided

theorem isWordCharacter_of_mem_joined (description : IsWord parts.description)
    (entity : IsWord parts.entity) (units : IsWord parts.units) :
    ∀ c ∈ parts.joined.toList, isWordCharacter c := by
  intro c member
  have underscore : isWordCharacter '_' := by decide
  simp only [toList_joined, List.mem_append, List.mem_cons] at member
  obtain inside | rfl | rfl | inside | rfl | rfl | inside := member
  · exact description.2 c inside
  · exact underscore
  · exact underscore
  · exact entity.2 c inside
  · exact underscore
  · exact underscore
  · exact units.2 c inside

/-- In front of a simple entity and simple units nothing is left that the description could
take. -/
theorem isWrittenLast_joined (description : IsWord parts.description)
    (entity : IsWord parts.entity) (units : IsWord parts.units)
    (simpleEntity : IsSimple parts.entity.toList) (simpleUnits : IsSimple parts.units.toList) :
    IsWrittenLast parts.joined parts := by
  refine ⟨⟨isWordCharacter_of_mem_joined description entity units, rfl, description.1, entity.1,
    units.1⟩, ?_, ?_⟩
  · intro other isWritten
    have whole := congrArg String.toList isWritten.whole
    rw [toList_joined, toList_joined] at whole
    let front := parts.description.toList ++ '_' :: '_' :: parts.entity.toList
    let otherFront := other.description.toList ++ '_' :: '_' :: other.entity.toList
    have same : front ++ '_' :: '_' :: parts.units.toList =
        otherFront ++ '_' :: '_' :: other.units.toList := by
      simpa [front, otherFront] using whole
    -- The units are simple, so no other writing reaches further before its units.
    have inFront : otherFront <+: front :=
      List.prefix_of_prefix_length_le (List.prefix_append _ _) ⟨_, same⟩
        (simpleUnits.length_le same)
    obtain ⟨more, sameFront⟩ := inFront
    have divided : parts.description.toList ++ '_' :: '_' :: parts.entity.toList =
        other.description.toList ++ '_' :: '_' :: (other.entity.toList ++ more) := by
      simpa [front, otherFront] using sameFront.symm
    simpa [String.length_toList] using simpleEntity.length_le divided
  · intro other isWritten sameDescription
    have whole := congrArg String.toList isWritten.whole
    rw [toList_joined, toList_joined, sameDescription] at whole
    have same := (List.cons.inj (List.cons.inj (List.append_cancel_left whole)).2).2
    simpa [String.length_toList] using simpleUnits.length_le same

/-- A name is divided just if it is in words and can be written as three parts that are not empty.
It is divided as it is written, into the parts with the longest description, and of those into
the ones with the longest entity.  So three words come back from the name in which they are
joined if entity and units neither hold two underscores in a row nor begin with one. -/
theorem ofText?_takes_longest_parts :
    (∀ name, (∃ parts, ofText? name = some parts) ↔ ∃ parts, IsWrittenAs name parts) ∧
    (∀ name parts, ofText? name = some parts ↔ IsWrittenLast name parts) ∧
    ∀ parts : VariableName, IsWord parts.description → IsWord parts.entity →
      IsWord parts.units → IsSimple parts.entity.toList → IsSimple parts.units.toList →
      ofText? (parts.description ++ "__" ++ parts.entity ++ "__" ++ parts.units) =
        some parts := by
  refine ⟨?divided, fun name parts => ofText?_eq_some_iff, ?joined⟩
  case divided =>
    intro name
    constructor
    · rintro ⟨parts, divided⟩
      exact ⟨parts, (ofText?_eq_some_iff.mp divided).isWritten⟩
    · rintro ⟨parts, isWritten⟩
      exact exists_ofText? isWritten
  case joined =>
    intro parts description entity units simpleEntity simpleUnits
    exact ofText?_eq_some_iff.mpr
      (isWrittenLast_joined description entity units simpleEntity simpleUnits)

/-- A description with underscores at both its ends and in its middle, and an entity and units
that end in one. -/
theorem ofText?_of_many_underscores :
    let parts : VariableName := ⟨"_gdp___per__", "us_", "usd_"⟩
    IsWord parts.description ∧ IsWord parts.entity ∧ IsWord parts.units ∧
      IsSimple parts.entity.toList ∧ IsSimple parts.units.toList ∧
      ofText? ("_gdp___per__" ++ "__" ++ "us_" ++ "__" ++ "usd_") = some parts := by
  intro parts
  have description : IsWord parts.description := isWord_of_all (by decide) (by decide)
  have entity : IsWord parts.entity := isWord_of_all (by decide) (by decide)
  have units : IsWord parts.units := isWord_of_all (by decide) (by decide)
  have simpleEntity : IsSimple parts.entity.toList := ⟨by decide +kernel, by decide⟩
  have simpleUnits : IsSimple parts.units.toList := ⟨by decide +kernel, by decide⟩
  exact ⟨description, entity, units, simpleEntity, simpleUnits,
    ofText?_takes_longest_parts.2.2 parts description entity units simpleEntity simpleUnits⟩

end VariableName

end BackOfEnvelope
