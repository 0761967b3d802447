import BackOfEnvelope.Text

/-!
# Pieces and ends of texts

Splitting a text at a character divides it at every occurrence, so the pieces of two texts with
the character between them are those of the one and those of the other.  Pairs of line ends become
single ones and nothing else changes.  Trimming takes away the white space at the two ends and
nothing else.
-/

namespace BackOfEnvelope

section Pieces

variable {separator : Char} {text piece : List Char} {pieces : List (List Char)}

theorem exists_splitAtCharacter_eq_cons (separator : Char) (text : List Char) :
    ∃ piece pieces, splitAtCharacter separator text = piece :: pieces := by
  cases text with
  | nil => exact ⟨[], [], rfl⟩
  | cons c rest =>
      rw [splitAtCharacter]
      split
      · split <;> exact ⟨_, _, rfl⟩
      · exact ⟨_, _, rfl⟩

theorem splitAtCharacter_cons (divided : splitAtCharacter separator text = piece :: pieces)
    (c : Char) :
    splitAtCharacter separator (c :: text) =
      if c = separator then [] :: piece :: pieces else (c :: piece) :: pieces := by
  simp only [splitAtCharacter, divided, beq_iff_eq]

theorem splitAtCharacter_append (separator : Char) (before after : List Char) :
    splitAtCharacter separator (before ++ separator :: after) =
      splitAtCharacter separator before ++ splitAtCharacter separator after := by
  induction before with
  | nil =>
      obtain ⟨piece, pieces, divided⟩ := exists_splitAtCharacter_eq_cons separator after
      rw [List.nil_append, splitAtCharacter_cons divided, if_pos rfl, divided]
      rfl
  | cons c rest ih =>
      obtain ⟨piece, pieces, divided⟩ := exists_splitAtCharacter_eq_cons separator rest
      rw [divided, List.cons_append] at ih
      rw [List.cons_append, splitAtCharacter_cons ih, splitAtCharacter_cons divided]
      split <;> rfl

theorem splitAtCharacter_of_notMem (absent : separator ∉ text) :
    splitAtCharacter separator text = [text] := by
  induction text with
  | nil => rfl
  | cons c rest ih =>
      rw [List.mem_cons, not_or] at absent
      rw [splitAtCharacter_cons (ih absent.2), if_neg (Ne.symm absent.1)]

theorem mem_splitAtCharacter_of_append {line behind lines after : List Char}
    (absent : separator ∉ line)
    (same : line ++ separator :: behind = lines ++ separator :: after) :
    line ∈ splitAtCharacter separator lines := by
  have divided := congrArg (splitAtCharacter separator) same
  obtain ⟨piece, pieces, ofLines⟩ := exists_splitAtCharacter_eq_cons separator lines
  rw [splitAtCharacter_append, splitAtCharacter_append, splitAtCharacter_of_notMem absent,
    ofLines, List.singleton_append, List.cons_append] at divided
  rw [ofLines, (List.cons.inj divided).1]
  exact List.mem_cons_self

theorem mem_tail_splitAtCharacter_append {line after : List Char}
    (member : line ∈ splitAtCharacter separator after) (before : List Char) :
    line ∈ (splitAtCharacter separator (before ++ separator :: after)).tail := by
  obtain ⟨piece, pieces, ofBefore⟩ := exists_splitAtCharacter_eq_cons separator before
  rw [splitAtCharacter_append, ofBefore, List.cons_append, List.tail_cons]
  exact List.mem_append_right pieces member

/-- Pieces without the separator come back when the text made of them is split. -/
theorem splitAtCharacter_intercalate (nonempty : pieces ≠ [])
    (absent : ∀ piece ∈ pieces, separator ∉ piece) :
    splitAtCharacter separator ([separator].intercalate pieces) = pieces := by
  induction pieces with
  | nil => exact absurd rfl nonempty
  | cons piece others ih =>
      rw [List.forall_mem_cons] at absent
      cases others with
      | nil =>
          rw [List.intercalate_singleton]
          exact splitAtCharacter_of_notMem absent.1
      | cons next others =>
          rw [List.intercalate_cons_cons, List.append_assoc, List.singleton_append,
            splitAtCharacter_append, splitAtCharacter_of_notMem absent.1,
            ih (List.cons_ne_nil _ _) absent.2]
          rfl

end Pieces

section LineEnds

/-- A text with single line ends: what stands between the pairs of line ends is kept, and in
the place of each pair is a single one. -/
def UnifiesLineEnds (text unified : List Char) : Prop :=
  ∃ pieces, (∀ piece ∈ pieces, ¬ ['\r', '\n'] <:+: piece) ∧
    text = ['\r', '\n'].intercalate pieces ∧ unified = ['\n'].intercalate pieces

theorem unifiesLineEnds_unifyLineEnds (text : List Char) :
    UnifiesLineEnds text (unifyLineEnds text) := by
  -- There is always a piece, to which the next character can be added.
  suffices divided : ∃ piece pieces, (∀ part ∈ piece :: pieces, ¬ ['\r', '\n'] <:+: part) ∧
      text = ['\r', '\n'].intercalate (piece :: pieces) ∧
      unifyLineEnds text = ['\n'].intercalate (piece :: pieces) by
    obtain ⟨piece, pieces, single⟩ := divided
    exact ⟨piece :: pieces, single⟩
  fun_induction unifyLineEnds text with
  | case1 rest ih =>
      obtain ⟨piece, pieces, single, divided, unified⟩ := ih
      refine ⟨[], piece :: pieces, List.forall_mem_cons.mpr ⟨by simp, single⟩, ?_, ?_⟩
      · rw [List.intercalate_cons_cons, ← divided]
        rfl
      · rw [List.intercalate_cons_cons, ← unified]
        rfl
  | case2 c rest noPair ih =>
      obtain ⟨piece, pieces, single, divided, unified⟩ := ih
      refine ⟨c :: piece, pieces, ?_, ?_, ?_⟩
      · rw [List.forall_mem_cons] at single ⊢
        refine ⟨fun isInfix => ?_, single.2⟩
        rcases List.infix_cons_iff.mp isInfix with isPrefix | later
        · obtain ⟨isReturn, behind⟩ := List.cons_prefix_cons.mp isPrefix
          obtain ⟨others, rfl⟩ := behind
          exact noPair _ isReturn.symm (divided.trans List.intercalate_cons_cons_left)
        · exact single.1 later
      · rw [List.intercalate_cons_cons_left, ← divided]
      · rw [List.intercalate_cons_cons_left, ← unified]
  | case3 => exact ⟨[], [], by simp, rfl, rfl⟩

end LineEnds

/-- What is left of a text without the white space at its two ends. -/
def IsTrimmed (text trimmed : List Char) : Prop :=
  ∃ front back, text = front ++ trimmed ++ back ∧
    (∀ c ∈ front, isWhiteSpace c) ∧ (∀ c ∈ back, isWhiteSpace c) ∧
    (∀ c, trimmed.head? = some c → ¬ isWhiteSpace c) ∧
    ∀ c, trimmed.getLast? = some c → ¬ isWhiteSpace c

/-- No character that ASCII prints is white space. -/
theorem isWhiteSpace_eq_false_of_ascii {c : Char} (above : 0x20 < c.toNat)
    (below : c.toNat < 0x7F) : isWhiteSpace c = false := by
  rw [Bool.eq_false_iff]
  intro white
  simp only [isWhiteSpace, Bool.or_eq_true, Bool.and_eq_true, decide_eq_true_eq,
    beq_iff_eq] at white
  omega

theorem isWhiteSpace_of_isDigit {c : Char} (digit : c.isDigit) : isWhiteSpace c = false := by
  have range : 48 ≤ c.toNat ∧ c.toNat ≤ 57 := by
    simpa [Char.isDigit, UInt32.le_iff_toNat_le] using digit
  exact isWhiteSpace_eq_false_of_ascii (by omega) (by omega)

theorem not_isWhiteSpace_of_head?_dropWhile {text : List Char} {c : Char}
    (isHead : (text.dropWhile isWhiteSpace).head? = some c) : ¬ isWhiteSpace c := by
  have visible := List.head?_dropWhile_not isWhiteSpace text
  rw [isHead] at visible
  simpa using visible

theorem isWhiteSpace_of_mem_takeWhile {text : List Char} :
    ∀ c ∈ text.takeWhile isWhiteSpace, isWhiteSpace c :=
  List.all_eq_true.mp List.all_takeWhile

theorem isTrimmed_trimCharacters (text : List Char) : IsTrimmed text (trimCharacters text) := by
  let middle := text.dropWhile isWhiteSpace
  let back := (middle.reverse.takeWhile isWhiteSpace).reverse
  have divided : middle = trimCharacters text ++ back := by
    rw [trimCharacters, ← List.reverse_append, List.takeWhile_append_dropWhile,
      List.reverse_reverse]
  have whole : text = text.takeWhile isWhiteSpace ++ trimCharacters text ++ back := by
    rw [List.append_assoc, ← divided, List.takeWhile_append_dropWhile]
  refine ⟨text.takeWhile isWhiteSpace, back, whole, isWhiteSpace_of_mem_takeWhile, ?_, ?_, ?_⟩
  · intro c member
    exact isWhiteSpace_of_mem_takeWhile c (List.mem_reverse.mp member)
  · intro c isHead
    have headOfMiddle : middle.head? = some c := by
      rw [divided, List.head?_append, isHead, Option.some_or]
    exact not_isWhiteSpace_of_head?_dropWhile headOfMiddle
  · intro c isLast
    rw [trimCharacters, List.getLast?_reverse] at isLast
    exact not_isWhiteSpace_of_head?_dropWhile isLast

theorem dropWhile_white_append {front rest : List Char} (white : ∀ c ∈ front, isWhiteSpace c)
    (visible : ∀ c, rest.head? = some c → ¬ isWhiteSpace c) :
    (front ++ rest).dropWhile isWhiteSpace = rest := by
  rw [List.dropWhile_append_of_pos white]
  cases rest with
  | nil => rfl
  | cons c rest => exact List.dropWhile_cons_of_neg (visible c rfl)

/-- Only one text is left without the white space at the ends. -/
theorem IsTrimmed.trimCharacters_eq {text trimmed : List Char}
    (isTrimmed : IsTrimmed text trimmed) : trimCharacters text = trimmed := by
  obtain ⟨front, back, rfl, whiteFront, whiteBack, visibleHead, visibleLast⟩ := isTrimmed
  have whiteReverse : ∀ c ∈ back.reverse, isWhiteSpace c := by simpa using whiteBack
  cases trimmed with
  | nil =>
      have white : ∀ c ∈ front ++ back, isWhiteSpace c := by
        rintro c member
        exact (List.mem_append.mp member).elim (whiteFront c) (whiteBack c)
      have dropped : (front ++ back ++ []).dropWhile isWhiteSpace = [] :=
        dropWhile_white_append white nofun
      rw [List.append_nil] at dropped
      rw [trimCharacters, List.append_nil, dropped]
      rfl
  | cons c rest =>
      have visible : ∀ d, ((c :: rest) ++ back).head? = some d → ¬ isWhiteSpace d := visibleHead
      have visibleReverse : ∀ d, (c :: rest).reverse.head? = some d → ¬ isWhiteSpace d := by
        simpa only [List.head?_reverse] using visibleLast
      rw [trimCharacters, List.append_assoc, dropWhile_white_append whiteFront visible,
        List.reverse_append, dropWhile_white_append whiteReverse visibleReverse,
        List.reverse_reverse]

theorem isTrimmed_trim (text : String) : IsTrimmed text.toList (trim text).toList := by
  rw [trim, String.toList_ofList]
  exact isTrimmed_trimCharacters text.toList

/-- The number of characters of a text that are no white space. -/
def visibleCount (text : List Char) : Nat :=
  text.countP fun c => !isWhiteSpace c

theorem visibleCount_of_white {text : List Char} (white : ∀ c ∈ text, isWhiteSpace c) :
    visibleCount text = 0 := by
  apply List.countP_eq_zero.mpr
  intro c member
  simp [white c member]

theorem visibleCount_append (first second : List Char) :
    visibleCount (first ++ second) = visibleCount first + visibleCount second :=
  List.countP_append

theorem visibleCount_cons_of_white {c : Char} (white : isWhiteSpace c) (rest : List Char) :
    visibleCount (c :: rest) = visibleCount rest :=
  List.countP_cons_of_neg (by simp [white])

theorem visibleCount_lineEnd (rest : List Char) :
    visibleCount ('\n' :: rest) = visibleCount rest :=
  visibleCount_cons_of_white rfl rest

/-- Trimming keeps every visible character. -/
theorem IsTrimmed.visibleCount_eq {text trimmed : List Char} (isTrimmed : IsTrimmed text trimmed) :
    visibleCount trimmed = visibleCount text := by
  obtain ⟨front, back, rfl, frontWhite, backWhite, -, -⟩ := isTrimmed
  rw [visibleCount_append, visibleCount_append, visibleCount_of_white frontWhite,
    visibleCount_of_white backWhite, Nat.zero_add, Nat.add_zero]

theorem visibleCount_trim (text : String) :
    visibleCount (trim text).toList = visibleCount text.toList :=
  (isTrimmed_trim text).visibleCount_eq

end BackOfEnvelope
