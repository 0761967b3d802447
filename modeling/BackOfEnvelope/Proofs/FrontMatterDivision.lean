import BackOfEnvelope.FrontMatter
import BackOfEnvelope.Proofs.TextPieces

/-!
# Division of documents

A document with front matter is a delimiter line, a block, a line end, a second delimiter line
and a rest, and of all such divisions the one with the shortest block is taken.  A block that
is written between two delimiter lines is read back, if it does not hold such a line itself.
But two delimiter lines that follow each other do not enclose an empty block: the second is the
first line of a block that runs on to a third one, or there is no block at all.
-/

namespace BackOfEnvelope

namespace FrontMatter

variable {c : Char} {text block rest line document : List Char}

def IsBlank (c : Char) : Prop :=
  c = ' ' ∨ c = '\t' ∨ c = '\r'

/-- A line of three dashes with nothing but blanks behind them, without its line end. -/
def IsDelimiter (line : List Char) : Prop :=
  ∃ blanks, line = '-' :: '-' :: '-' :: blanks ∧ ∀ c ∈ blanks, IsBlank c

/-- A block ends where a delimiter line follows, with a rest behind it. -/
def ClosesAt (text block rest : List Char) : Prop :=
  ∃ closing, IsDelimiter closing ∧ text = block ++ '\n' :: (closing ++ '\n' :: rest)

/-- The first delimiter line is the one that ends the block. -/
structure ClosesFirstAt (text block rest : List Char) : Prop where
  closes : ClosesAt text block rest
  shortest : ∀ other behind, ClosesAt text other behind → block.length ≤ other.length

/-- A document is a delimiter line, a block, a second delimiter line and a rest. -/
def Encloses (document block rest : List Char) : Prop :=
  ∃ opening closing, IsDelimiter opening ∧ IsDelimiter closing ∧
    document = opening ++ '\n' :: (block ++ '\n' :: (closing ++ '\n' :: rest))

/-- No shorter block is enclosed. -/
structure EnclosesFirst (document block rest : List Char) : Prop where
  encloses : Encloses document block rest
  shortest : ∀ other behind, Encloses document other behind → block.length ≤ other.length

theorem IsBlank.ne_lineEnd (blank : IsBlank c) : c ≠ '\n' := by
  rcases blank with rfl | rfl | rfl <;> decide

theorem IsDelimiter.lineEnd_notMem (isDelimiter : IsDelimiter line) : '\n' ∉ line := by
  obtain ⟨blanks, rfl, areBlank⟩ := isDelimiter
  intro member
  simp only [List.mem_cons, Char.reduceEq, false_or] at member
  exact (areBlank _ member).ne_lineEnd rfl

theorem IsDelimiter.visibleCount_pos (isDelimiter : IsDelimiter line) : 0 < visibleCount line := by
  obtain ⟨blanks, rfl, -⟩ := isDelimiter
  exact List.countP_pos_iff.mpr ⟨'-', List.mem_cons_self, by decide⟩

theorem behindLineEnd?_of_blanks {blanks : List Char} (areBlank : ∀ c ∈ blanks, IsBlank c)
    (rest : List Char) : behindLineEnd? (blanks ++ '\n' :: rest) = some rest := by
  induction blanks with
  | nil => rfl
  | cons c others ih =>
      obtain ⟨blank, othersBlank⟩ := List.forall_mem_cons.mp areBlank
      rcases blank with rfl | rfl | rfl <;> exact ih othersBlank

theorem blanks_of_behindLineEnd? (passed : behindLineEnd? text = some rest) :
    ∃ blanks, text = blanks ++ '\n' :: rest ∧ ∀ c ∈ blanks, IsBlank c := by
  fun_induction behindLineEnd? text with
  | case1 rest =>
      cases passed
      exact ⟨[], rfl, by simp⟩
  | case2 c text _ blank ih =>
      obtain ⟨blanks, rfl, areBlank⟩ := ih passed
      refine ⟨c :: blanks, rfl, List.forall_mem_cons.mpr ⟨?_, areBlank⟩⟩
      simpa [IsBlank, or_assoc] using blank
  | case3 => cases passed
  | case4 => cases passed

theorem behindDelimiter?_eq_some_iff :
    behindDelimiter? text = some rest ↔
      ∃ line, IsDelimiter line ∧ text = line ++ '\n' :: rest := by
  constructor
  · intro passed
    unfold behindDelimiter? at passed
    split at passed
    · obtain ⟨blanks, rfl, areBlank⟩ := blanks_of_behindLineEnd? passed
      exact ⟨_, ⟨blanks, rfl, areBlank⟩, rfl⟩
    · cases passed
  · rintro ⟨line, ⟨blanks, rfl, areBlank⟩, rfl⟩
    exact behindLineEnd?_of_blanks areBlank rest

theorem closesAt_cons_iff :
    ClosesAt (c :: text) block rest ↔
      (c = '\n' ∧ behindDelimiter? text = some rest ∧ block = []) ∨
        ∃ others, block = c :: others ∧ ClosesAt text others rest := by
  rw [behindDelimiter?_eq_some_iff]
  constructor
  · rintro ⟨closing, isClosing, same⟩
    cases block with
    | nil =>
        cases same
        exact .inl ⟨rfl, ⟨closing, isClosing, rfl⟩, rfl⟩
    | cons first others =>
        cases same
        exact .inr ⟨others, rfl, closing, isClosing, rfl⟩
  · rintro (⟨rfl, ⟨closing, isClosing, rfl⟩, rfl⟩ | ⟨others, rfl, closing, isClosing, rfl⟩)
    · exact ⟨closing, isClosing, rfl⟩
    · exact ⟨closing, isClosing, rfl⟩

theorem not_closesAt_nil : ¬ ClosesAt [] block rest := by
  rintro ⟨closing, -, same⟩
  simp at same

/-- At a line end with a delimiter line behind it the block is empty. -/
theorem closesFirstAt_of_delimiter {behind : List Char}
    (delimited : behindDelimiter? text = some behind) :
    ClosesFirstAt ('\n' :: text) block rest ↔ block = [] ∧ rest = behind := by
  have closesHere : ClosesAt ('\n' :: text) [] behind :=
    closesAt_cons_iff.mpr (.inl ⟨rfl, delimited, rfl⟩)
  constructor
  · rintro ⟨closes, shortest⟩
    obtain rfl : block = [] := List.eq_nil_of_length_eq_zero
      (Nat.le_zero.mp (shortest [] behind closesHere))
    refine ⟨rfl, ?_⟩
    obtain ⟨-, same, -⟩ | ⟨others, same, -⟩ := closesAt_cons_iff.mp closes
    · rw [delimited] at same
      exact (Option.some.inj same).symm
    · cases same
  · rintro ⟨rfl, rfl⟩
    exact ⟨closesHere, fun other _ _ => Nat.zero_le other.length⟩

/-- Elsewhere the block takes the first character. -/
theorem closesFirstAt_of_not_delimiter
    (inside : ∀ behind, ¬ (c = '\n' ∧ behindDelimiter? text = some behind)) :
    ClosesFirstAt (c :: text) block rest ↔
      ∃ others, block = c :: others ∧ ClosesFirstAt text others rest := by
  have closes_iff (other behind : List Char) : ClosesAt (c :: text) other behind ↔
      ∃ others, other = c :: others ∧ ClosesAt text others behind := by
    rw [closesAt_cons_iff, or_iff_right]
    rintro ⟨isEnd, delimited, -⟩
    exact inside behind ⟨isEnd, delimited⟩
  constructor
  · rintro ⟨closes, shortest⟩
    obtain ⟨others, rfl, closesBehind⟩ := (closes_iff _ _).mp closes
    refine ⟨others, rfl, closesBehind, ?_⟩
    intro other behind otherCloses
    have longer := shortest (c :: other) behind ((closes_iff _ _).mpr ⟨other, rfl, otherCloses⟩)
    simpa using longer
  · rintro ⟨others, rfl, closes, shortest⟩
    refine ⟨(closes_iff _ _).mpr ⟨others, rfl, closes⟩, ?_⟩
    intro other behind otherCloses
    obtain ⟨tail, rfl, tailCloses⟩ := (closes_iff _ _).mp otherCloses
    simpa using shortest tail behind tailCloses

theorem splitAtDelimiter?_eq_some_iff :
    splitAtDelimiter? text = some (block, rest) ↔ ClosesFirstAt text block rest := by
  induction text generalizing block rest with
  | nil =>
      simp only [splitAtDelimiter?, reduceCtorEq, false_iff]
      exact fun first => not_closesAt_nil first.closes
  | cons c text ih =>
      rw [splitAtDelimiter?]
      split
      · next behind delimited =>
          obtain ⟨rfl, passed⟩ := Option.ite_none_right_eq_some.mp delimited
          rw [closesFirstAt_of_delimiter passed]
          simp only [Option.some.injEq, Prod.mk.injEq, eq_comm]
      · next inside =>
          have notDelimited : ∀ behind, ¬ (c = '\n' ∧ behindDelimiter? text = some behind) := by
            intro behind delimited
            rw [Option.ite_none_right_eq_some.mpr delimited] at inside
            cases inside
          rw [closesFirstAt_of_not_delimiter notDelimited]
          simp only [Option.map_eq_some_iff, Prod.exists, Prod.mk.injEq, ih]
          constructor
          · rintro ⟨others, behind, first, rfl, rfl⟩
            exact ⟨others, rfl, first⟩
          · rintro ⟨others, rfl, first⟩
            exact ⟨others, rest, first, rfl, rfl⟩

theorem splitAtDelimiter?_eq_none_iff :
    splitAtDelimiter? text = none ↔ ∀ block rest, ¬ ClosesAt text block rest := by
  induction text with
  | nil => simp [splitAtDelimiter?, not_closesAt_nil]
  | cons c text ih =>
      rw [splitAtDelimiter?]
      split
      · next behind delimited =>
          obtain ⟨isEnd, passed⟩ := Option.ite_none_right_eq_some.mp delimited
          have closesHere : ClosesAt (c :: text) [] behind :=
            closesAt_cons_iff.mpr (.inl ⟨isEnd, passed, rfl⟩)
          simp only [reduceCtorEq, false_iff]
          exact fun never => never [] behind closesHere
      · next inside =>
          rw [Option.map_eq_none_iff, ih]
          constructor
          · intro never block rest closes
            obtain ⟨isEnd, passed, -⟩ | ⟨others, -, closesBehind⟩ := closesAt_cons_iff.mp closes
            · rw [if_pos isEnd, passed] at inside
              cases inside
            · exact never others rest closesBehind
          · intro never block rest closes
            exact never (c :: block) rest (closesAt_cons_iff.mpr (.inr ⟨block, rfl, closes⟩))

theorem encloses_iff :
    Encloses document block rest ↔
      ∃ text, behindDelimiter? document = some text ∧ ClosesAt text block rest := by
  simp only [behindDelimiter?_eq_some_iff]
  constructor
  · rintro ⟨opening, closing, isOpening, isClosing, same⟩
    exact ⟨_, ⟨opening, isOpening, same⟩, closing, isClosing, rfl⟩
  · rintro ⟨text, ⟨opening, isOpening, rfl⟩, closing, isClosing, rfl⟩
    exact ⟨opening, closing, isOpening, isClosing, rfl⟩

/-- A document is divided at the first delimiter line behind the one that opens it. -/
theorem split?_eq_some_iff :
    split? document = some (block, rest) ↔ EnclosesFirst document block rest := by
  rw [split?, Option.bind_eq_some_iff]
  simp only [splitAtDelimiter?_eq_some_iff]
  constructor
  · rintro ⟨text, opened, closes, shortest⟩
    refine ⟨encloses_iff.mpr ⟨text, opened, closes⟩, ?_⟩
    intro other behind encloses
    obtain ⟨same, openedSame, otherCloses⟩ := encloses_iff.mp encloses
    obtain rfl : text = same := Option.some.inj (opened.symm.trans openedSame)
    exact shortest other behind otherCloses
  · rintro ⟨encloses, shortest⟩
    obtain ⟨text, opened, closes⟩ := encloses_iff.mp encloses
    refine ⟨text, opened, closes, ?_⟩
    intro other behind otherCloses
    exact shortest other behind (encloses_iff.mpr ⟨text, opened, otherCloses⟩)

theorem split?_eq_none_iff :
    split? document = none ↔ ∀ block rest, ¬ Encloses document block rest := by
  simp only [split?, Option.bind_eq_none_iff, splitAtDelimiter?_eq_none_iff, encloses_iff,
    not_exists, not_and]
  exact ⟨fun never block rest text opened => never text opened block rest,
    fun never text opened block rest => never block rest text opened⟩

theorem exists_enclosesFirst (encloses : Encloses document block rest) :
    ∃ block rest, EnclosesFirst document block rest := by
  cases divided : split? document with
  | none => exact absurd encloses (split?_eq_none_iff.mp divided block rest)
  | some parts => exact ⟨parts.1, parts.2, split?_eq_some_iff.mp divided⟩

/-- A block ends at the first delimiter line if none of its own lines is one.  Its first line may
be, as no line end stands in front of it. -/
theorem closesFirstAt_of_lines {closing : List Char}
    (inside : ∀ line ∈ (splitAtCharacter '\n' block).tail, ¬ IsDelimiter line)
    (isClosing : IsDelimiter closing) (rest : List Char) :
    ClosesFirstAt (block ++ '\n' :: (closing ++ '\n' :: rest)) block rest := by
  refine ⟨⟨closing, isClosing, rfl⟩, ?_⟩
  rintro other behind ⟨earlier, isEarlier, same⟩
  apply Nat.le_of_not_lt
  intro shorter
  -- Then a line of the block begins behind the other one.
  obtain ⟨late, rfl, sameBehind⟩ | ⟨late, rfl, sameBehind⟩ := List.append_eq_append_iff.mp same
  · simp only [List.length_append] at shorter
    omega
  · cases late with
    | nil => simp at shorter
    | cons first lines =>
        obtain rfl : '\n' = first := (List.cons.inj sameBehind).1
        have sameLines : earlier ++ '\n' :: behind = lines ++ '\n' :: (closing ++ '\n' :: rest) :=
          (List.cons.inj sameBehind).2
        have isLine := mem_splitAtCharacter_of_append isEarlier.lineEnd_notMem sameLines
        exact inside earlier (mem_tail_splitAtCharacter_append isLine other) isEarlier

theorem split?_of_opening {opening : List Char} (isOpening : IsDelimiter opening)
    (text : List Char) : split? (opening ++ '\n' :: text) = splitAtDelimiter? text := by
  rw [split?, behindDelimiter?_eq_some_iff.mpr ⟨opening, isOpening, rfl⟩]
  rfl

/-- What stands in front of the first line end belongs to the block. -/
theorem splitAtDelimiter?_append (noLineEnd : '\n' ∉ line) (text : List Char) :
    splitAtDelimiter? (line ++ text) =
      (splitAtDelimiter? text).map fun (block, rest) => (line ++ block, rest) := by
  induction line with
  | nil => simp
  | cons c others ih =>
      rw [List.mem_cons, not_or] at noLineEnd
      rw [List.cons_append, splitAtDelimiter?, if_neg (Ne.symm noLineEnd.1), ih noLineEnd.2]
      cases splitAtDelimiter? text <;> rfl

/-- Of two delimiter lines in a row the second is the first line of what may be a block. -/
theorem split?_of_adjacent_delimiters {opening second : List Char}
    (isOpening : IsDelimiter opening) (isSecond : IsDelimiter second) (behind : List Char) :
    split? (opening ++ '\n' :: (second ++ '\n' :: behind)) =
      (splitAtDelimiter? ('\n' :: behind)).map fun (block, rest) => (second ++ block, rest) := by
  rw [split?_of_opening isOpening, splitAtDelimiter?_append isSecond.lineEnd_notMem]

theorem ClosesAt.visibleCount_lt (closes : ClosesAt text block rest) :
    visibleCount rest < visibleCount text := by
  obtain ⟨closing, isClosing, rfl⟩ := closes
  have dashes := isClosing.visibleCount_pos
  simp only [visibleCount_append, visibleCount_lineEnd]
  omega

theorem isDelimiter_dashes : IsDelimiter ['-', '-', '-'] :=
  ⟨[], rfl, by simp⟩

end FrontMatter

namespace Document

open FrontMatter

variable {text block rest body : String} {document : Document}

theorem divide_of_split?_eq_some (divided : split? text.toList = some (block.toList, rest.toList)) :
    divide text = (some block, trim rest) := by
  rw [divide, divided]
  simp only [trim, String.ofList_toList]

theorem divide_of_split?_eq_none (undivided : split? text.toList = none) :
    divide text = (none, text) := by
  rw [divide, undivided]

theorem visibleCount_of_split? {block rest : List Char}
    (divided : split? text.toList = some (block, rest)) :
    visibleCount (divide text).2.toList = visibleCount rest := by
  simp only [divide, divided, String.toList_ofList]
  exact (isTrimmed_trimCharacters rest).visibleCount_eq

theorem parse_of_block (divided : divide text = (some block, body)) :
    parse text = (ofBlock block).map fun fields => ⟨fields, body⟩ := by
  rw [parse, divided]
  dsimp only
  cases ofBlock block <;> rfl

theorem parse_of_no_block (divided : divide text = (none, body)) :
    parse text = .ok ⟨[], body⟩ := by
  rw [parse, divided]

theorem parseLeniently_of_ok (read : parse text = .ok document) :
    parseLeniently text = document := by
  rw [parseLeniently, read]

theorem parseLeniently_of_error {error : FrontMatterError} (failed : parse text = .error error) :
    parseLeniently text = ⟨[], (divide text).2⟩ := by
  rw [parseLeniently, failed]

theorem body_parseLeniently (text : String) : (parseLeniently text).body = (divide text).2 := by
  obtain ⟨block?, body, divided⟩ : ∃ block? body, divide text = (block?, body) := ⟨_, _, rfl⟩
  cases block? with
  | none => rw [parseLeniently_of_ok (parse_of_no_block divided), divided]
  | some block =>
      have ofText := parse_of_block divided
      cases read : ofBlock block with
      | ok fields =>
          rw [read] at ofText
          rw [parseLeniently_of_ok ofText, divided]
      | error error =>
          rw [read] at ofText
          rw [parseLeniently_of_error ofText]

/-- A document is divided at the first delimiter line behind the one that opens it, if there is
one: its front matter is read from the block between the two, and its body is the trimmed rest.
A document without such lines is all body.  Reading leniently differs only where reading fails,
and keeps the body there.  A block without delimiter lines is read back as it is written. -/
theorem parse_divides_at_first_delimiter (text : String) :
    (∀ block rest : String, EnclosesFirst text.toList block.toList rest.toList →
      parse text = (ofBlock block).map (fun fields => ⟨fields, trim rest⟩) ∧
        ∀ error, parse text = .error error → parseLeniently text = ⟨[], trim rest⟩) ∧
    ((∃ block rest : String, Encloses text.toList block.toList rest.toList) →
      ∃ block rest : String, EnclosesFirst text.toList block.toList rest.toList) ∧
    ((¬ ∃ block rest : String, Encloses text.toList block.toList rest.toList) →
      parse text = .ok ⟨[], text⟩) ∧
    (∀ document, parse text = .ok document → parseLeniently text = document) ∧
    (∀ block body : String,
      (∀ line ∈ (splitAtCharacter '\n' block.toList).tail, ¬ IsDelimiter line) →
      divide ("---\n" ++ block ++ "\n---\n" ++ body) = (some block, trim body)) ∧
    ∀ body : String, IsTrimmed body.toList (trim body).toList := by
  refine ⟨?first, ?shortest, ?none, fun _ => parseLeniently_of_ok, ?written, isTrimmed_trim⟩
  case first =>
    intro block rest first
    have divided := divide_of_split?_eq_some (split?_eq_some_iff.mpr first)
    refine ⟨parse_of_block divided, ?_⟩
    intro error failed
    rw [parseLeniently_of_error failed, divided]
  case shortest =>
    rintro ⟨block, rest, encloses⟩
    obtain ⟨shortBlock, longRest, first⟩ := exists_enclosesFirst encloses
    refine ⟨String.ofList shortBlock, String.ofList longRest, ?_⟩
    simpa only [String.toList_ofList] using first
  case none =>
    intro never
    refine parse_of_no_block (divide_of_split?_eq_none (split?_eq_none_iff.mpr ?_))
    intro block rest encloses
    refine never ⟨String.ofList block, String.ofList rest, ?_⟩
    simpa only [String.toList_ofList] using encloses
  case written =>
    intro block body inside
    have lines : ("---\n" ++ block ++ "\n---\n" ++ body).toList = ['-', '-', '-'] ++
        '\n' :: (block.toList ++ '\n' :: (['-', '-', '-'] ++ '\n' :: body.toList)) := by
      simp
    apply divide_of_split?_eq_some
    rw [lines, split?_of_opening isDelimiter_dashes, splitAtDelimiter?_eq_some_iff]
    exact closesFirstAt_of_lines inside isDelimiter_dashes body.toList

/-- A block whose first line is a delimiter line, and a body with one more. -/
theorem divide_of_dashes_in_block :
    (∀ line ∈ (splitAtCharacter '\n' "---\na: 1".toList).tail, ¬ IsDelimiter line) ∧
      divide "---\n---\na: 1\n---\n b\n---\n" = (some "---\na: 1", "b\n---") := by
  have inside : ∀ line ∈ (splitAtCharacter '\n' "---\na: 1".toList).tail, ¬ IsDelimiter line := by
    have lines : (splitAtCharacter '\n' "---\na: 1".toList).tail = [['a', ':', ' ', '1']] := by
      decide
    rw [lines]
    simp [IsDelimiter]
  obtain ⟨-, -, -, -, written, -⟩ := parse_divides_at_first_delimiter ""
  have divided := written "---\na: 1" " b\n---\n" inside
  have trimmed : trim " b\n---\n" = "b\n---" := by decide
  rw [trimmed] at divided
  exact ⟨inside, divided⟩

/-- Two delimiter lines in a row never enclose an empty block.  If no other one follows, they
belong to the body; if one does, the second begins a block that takes all up to it.  The line
end in front of what is behind them lets its first line be that other one.  An empty block
needs an empty line of its own. -/
theorem parse_of_adjacent_delimiters {opening second : String}
    (isOpening : IsDelimiter opening.toList) (isSecond : IsDelimiter second.toList)
    (behind : String) :
    (parseLeniently (opening ++ "\n" ++ second ++ "\n" ++ behind)).body ≠ trim behind ∧
    ((¬ ∃ block rest : String, ClosesAt ('\n' :: behind.toList) block.toList rest.toList) →
      parse (opening ++ "\n" ++ second ++ "\n" ++ behind) =
        .ok ⟨[], opening ++ "\n" ++ second ++ "\n" ++ behind⟩) ∧
    (∀ block rest : String, ClosesFirstAt ('\n' :: behind.toList) block.toList rest.toList →
      parse (opening ++ "\n" ++ second ++ "\n" ++ behind) =
        (ofBlock (second ++ block)).map fun fields => ⟨fields, trim rest⟩) ∧
    parse (opening ++ "\n\n" ++ second ++ "\n" ++ behind) = .ok ⟨[], trim behind⟩ := by
  have lines : (opening ++ "\n" ++ second ++ "\n" ++ behind).toList =
      opening.toList ++ '\n' :: (second.toList ++ '\n' :: behind.toList) := by
    simp
  have divided := split?_of_adjacent_delimiters isOpening isSecond behind.toList
  rw [← lines] at divided
  refine ⟨?different, ?none, ?third, ?emptyLine⟩
  case different =>
    rw [body_parseLeniently]
    intro same
    have visible := congrArg (fun body => visibleCount body.toList) same
    rw [visibleCount_trim] at visible
    cases parts : splitAtDelimiter? ('\n' :: behind.toList) with
    | none =>
        rw [parts, Option.map_none] at divided
        rw [divide_of_split?_eq_none divided, lines] at visible
        simp only [visibleCount_append, visibleCount_lineEnd] at visible
        have dashes := isSecond.visibleCount_pos
        omega
    | some blockAndRest =>
        obtain ⟨block, rest⟩ := blockAndRest
        have fewer := (splitAtDelimiter?_eq_some_iff.mp parts).closes.visibleCount_lt
        rw [parts, Option.map_some] at divided
        rw [visibleCount_of_split? divided] at visible
        rw [visibleCount_lineEnd] at fewer
        omega
  case none =>
    intro never
    have undivided : splitAtDelimiter? ('\n' :: behind.toList) = none := by
      rw [splitAtDelimiter?_eq_none_iff]
      intro block rest closes
      refine never ⟨String.ofList block, String.ofList rest, ?_⟩
      simpa only [String.toList_ofList] using closes
    rw [undivided, Option.map_none] at divided
    exact parse_of_no_block (divide_of_split?_eq_none divided)
  case third =>
    intro block rest first
    have enclosed : split? (opening ++ "\n" ++ second ++ "\n" ++ behind).toList =
        some ((second ++ block).toList, rest.toList) := by
      rw [divided, splitAtDelimiter?_eq_some_iff.mpr first, String.toList_append]
      rfl
    exact parse_of_block (divide_of_split?_eq_some enclosed)
  case emptyLine =>
    have emptyLine : (opening ++ "\n\n" ++ second ++ "\n" ++ behind).toList =
        opening.toList ++ '\n' :: ([] ++ '\n' :: (second.toList ++ '\n' :: behind.toList)) := by
      simp
    have first : ClosesFirstAt ([] ++ '\n' :: (second.toList ++ '\n' :: behind.toList)) []
        behind.toList := closesFirstAt_of_lines (by simp [splitAtCharacter]) isSecond _
    have enclosed : split? (opening ++ "\n\n" ++ second ++ "\n" ++ behind).toList =
        some ("".toList, behind.toList) := by
      rw [emptyLine, split?_of_opening isOpening, splitAtDelimiter?_eq_some_iff.mpr first]
      rfl
    have noFields : ofBlock "" = .ok [] := rfl
    rw [parse_of_block (divide_of_split?_eq_some enclosed), noFields]
    rfl

/-- A third delimiter line ends a block, in which a line of text stands behind the second. -/
theorem parse_of_third_delimiter :
    IsDelimiter "---".toList ∧
      ClosesFirstAt ('\n' :: "text\n---\nrest".toList) "\ntext".toList "rest".toList ∧
      parse ("---" ++ "\n" ++ "---" ++ "\n" ++ "text\n---\nrest") =
        (ofBlock ("---" ++ "\ntext")).map (fun fields => ⟨fields, trim "rest"⟩) ∧
      (parseLeniently ("---" ++ "\n" ++ "---" ++ "\n" ++ "text\n---\nrest")).body ≠
        trim "text\n---\nrest" := by
  have dashes : IsDelimiter "---".toList := isDelimiter_dashes
  have first : ClosesFirstAt ('\n' :: "text\n---\nrest".toList) "\ntext".toList "rest".toList :=
    splitAtDelimiter?_eq_some_iff.mp (by decide)
  obtain ⟨different, -, ofThird, -⟩ := parse_of_adjacent_delimiters dashes dashes "text\n---\nrest"
  exact ⟨dashes, first, ofThird _ _ first, different⟩

/-- Without a third delimiter line both lines stand in the body. -/
theorem parseLeniently_ne_of_empty_block :
    (parseLeniently "---\n---\nBody").body = "---\n---\nBody" ∧
      parseLeniently "---\n---\nBody" ≠ ⟨[], trim "Body"⟩ := by
  have undivided : split? "---\n---\nBody".toList = none := by decide
  have whole := parseLeniently_of_ok (parse_of_no_block (divide_of_split?_eq_none undivided))
  rw [whole]
  refine ⟨rfl, ?_⟩
  intro same
  have sameBody := congrArg Document.body same
  revert sameBody
  decide

end Document

end BackOfEnvelope
