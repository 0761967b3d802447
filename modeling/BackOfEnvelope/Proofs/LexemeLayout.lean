import BackOfEnvelope.Proofs.LexemeEnds
import Mathlib.Logic.Relation

/-!
# The layout of lexemes

Dividing a text into lexemes loses nothing and invents nothing: the lexemes stand in the text one
behind the other, with nothing but white space around them.  How much white space that is does not
matter, and every lexeme reads as the same token by itself.  Where dividing fails, what stands in
front of the place can be divided.
-/

namespace BackOfEnvelope

namespace PlacedToken

/-- The position behind the lexeme. -/
def finish (placed : PlacedToken) : Nat :=
  placed.position + placed.lexeme.length

/-- The token behind more characters. -/
def moved (count : Nat) (placed : PlacedToken) : PlacedToken :=
  { placed with position := placed.position + count }

/-- The token when characters are put in at a place. -/
def movedBehind (place count : Nat) (placed : PlacedToken) : PlacedToken :=
  if place ≤ placed.position then placed.moved count else placed

end PlacedToken

namespace ExpressionToken

variable {position stop place : Nat} {first c : Char} {token : ExpressionToken}
variable {text rest tail before after white : List Char} {tokens : List PlacedToken}

/-- Only an error depends on the position of a lexeme. -/
theorem ofLexeme_of_position (isToken : ofLexeme first tail position = .ok token) (other : Nat) :
    ofLexeme first tail other = .ok token := by
  simp only [ofLexeme] at isToken ⊢
  split at isToken
  · next isNumeral => rwa [if_pos isNumeral]
  · next noNumeral =>
      rw [if_neg noNumeral]
      split at isToken
      · next isName => rwa [if_pos isName]
      · next noName =>
          rw [if_neg noName]
          split at isToken
          · exact isToken
          · cases isToken

/-- Reading comes from a position to another one, with the tokens of the lexemes between them and
with the rest of the text. -/
inductive Reaches : Nat → List Char → List PlacedToken → Nat → List Char → Prop
  | here (position : Nat) (rest : List Char) : Reaches position rest [] position rest
  | blank {position stop : Nat} {c : Char} {text rest : List Char} {tokens : List PlacedToken}
      (white : isWhiteSpace c) (behind : Reaches (position + 1) text tokens stop rest) :
      Reaches position (c :: text) tokens stop rest
  | lexeme {position stop : Nat} {first : Char} {tail after rest : List Char}
      {token : ExpressionToken} {tokens : List PlacedToken} (visible : isWhiteSpace first = false)
      (sameTail : lexemeTail first (tail ++ after) = tail)
      (isToken : ofLexeme first tail position = .ok token)
      (behind : Reaches (position + 1 + tail.length) after tokens stop rest) :
      Reaches position (first :: (tail ++ after)) (⟨token, position, first :: tail⟩ :: tokens)
        stop rest

theorem Reaches.readFrom_eq (reaches : Reaches position text tokens stop []) :
    readFrom position text = .ok tokens := by
  generalize atEnd : [] = rest at reaches
  induction reaches with
  | here position =>
      subst atEnd
      exact readFrom_nil position
  | blank white _ ih =>
      rw [readFrom_of_blank white]
      exact ih atEnd
  | lexeme visible sameTail isToken _ ih =>
      exact readFrom_of_lexeme _ (by simp [visible]) sameTail isToken (ih atEnd)

/-- Reading stops in front of a character that is no white space, as no token begins there. -/
structure StopsAt (position : Nat) (c : Char) (rest : List Char) (error : ExpressionError) :
    Prop where
  visible : isWhiteSpace c = false
  noToken : ofLexeme c (lexemeTail c rest) position = .error error

/-- Reading comes to the end of the text or to a character at which it stops. -/
theorem readFrom_cases (position : Nat) (text : List Char) :
    (∃ tokens stop, readFrom position text = .ok tokens ∧ Reaches position text tokens stop []) ∨
    ∃ error tokens stop c rest, readFrom position text = .error error ∧
      Reaches position text tokens stop (c :: rest) ∧ StopsAt stop c rest error := by
  induction size : text.length using Nat.strongRecOn generalizing position text with
  | ind size ih =>
      cases text with
      | nil => exact .inl ⟨[], position, readFrom_nil position, .here position []⟩
      | cons c rest =>
          rw [List.length_cons] at size
          by_cases white : isWhiteSpace c
          · rw [readFrom_of_blank white]
            refine (ih rest.length (by omega) (position + 1) rest rfl).imp ?_ ?_
            · rintro ⟨tokens, stop, read, reaches⟩
              exact ⟨tokens, stop, read, .blank white reaches⟩
            · rintro ⟨error, tokens, stop, d, others, read, reaches, stops⟩
              exact ⟨error, tokens, stop, d, others, read, .blank white reaches, stops⟩
          · have visible : isWhiteSpace c = false := by simpa using white
            obtain ⟨after, divided⟩ := lexemeTail_isPrefix c rest
            generalize sameTail : lexemeTail c rest = tail at divided
            obtain rfl := divided
            rw [readFrom_lexeme _ _ _ visible sameTail]
            cases isToken : ofLexeme c tail position with
            | error error =>
                refine .inr ⟨error, [], position, c, tail ++ after, rfl, .here _ _, visible, ?_⟩
                rw [sameTail, isToken]
            | ok token =>
                rw [List.length_append] at size
                refine (ih after.length (by omega) (position + 1 + tail.length) after rfl).imp
                  ?_ ?_
                · rintro ⟨tokens, stop, read, reaches⟩
                  exact ⟨_, stop, by rw [read], .lexeme visible sameTail isToken reaches⟩
                · rintro ⟨error, tokens, stop, d, others, read, reaches, stops⟩
                  exact ⟨error, _, stop, d, others, by rw [read],
                    .lexeme visible sameTail isToken reaches, stops⟩

theorem exists_reaches (read : readFrom position text = .ok tokens) :
    ∃ stop, Reaches position text tokens stop [] := by
  obtain ⟨others, stop, readOthers, reaches⟩ | ⟨error, _, _, _, _, failed, -⟩ :=
    readFrom_cases position text
  · rw [read] at readOthers
    cases readOthers
    exact ⟨stop, reaches⟩
  · rw [read] at failed
    cases failed

namespace Reaches

variable {others : List PlacedToken}

/-- The text is what was read and the rest. -/
theorem divides (reaches : Reaches position text tokens stop rest) :
    ∃ passed, text = passed ++ rest ∧ stop = position + passed.length := by
  induction reaches with
  | here => exact ⟨[], rfl, rfl⟩
  | @blank _ _ c _ _ _ _ _ ih =>
      obtain ⟨passed, rfl, rfl⟩ := ih
      exact ⟨c :: passed, rfl, by simp only [List.length_cons]; omega⟩
  | @lexeme _ _ first tail _ _ _ _ _ _ _ _ ih =>
      obtain ⟨passed, rfl, rfl⟩ := ih
      exact ⟨first :: (tail ++ passed), by simp,
        by simp only [List.length_cons, List.length_append]; omega⟩

theorem position_le (reaches : Reaches position text tokens stop rest) :
    ∀ placed ∈ tokens, position ≤ placed.position := by
  induction reaches with
  | here => nofun
  | blank _ _ ih => exact fun placed member => Nat.le_of_succ_le (ih placed member)
  | @lexeme position _ _ tail _ _ _ _ _ _ _ _ ih =>
      rw [List.forall_mem_cons]
      refine ⟨Nat.le_refl position, fun placed member => ?_⟩
      have later := ih placed member
      omega

/-- Lexemes are not empty and end where reading has come to. -/
theorem finish_le (reaches : Reaches position text tokens stop rest) :
    ∀ placed ∈ tokens, placed.position < placed.finish ∧ placed.finish ≤ stop := by
  induction reaches with
  | here => nofun
  | blank _ _ ih => exact ih
  | @lexeme position _ _ tail _ _ _ _ _ _ _ behind ih =>
      obtain ⟨passed, -, rfl⟩ := behind.divides
      rw [List.forall_mem_cons]
      refine ⟨?_, ih⟩
      simp only [PlacedToken.finish, List.length_cons]
      omega

theorem append (reaches : Reaches position text tokens place after)
    (further : Reaches place after others stop rest) :
    Reaches position text (tokens ++ others) stop rest := by
  induction reaches with
  | here => exact further
  | blank white _ ih => exact .blank white (ih further)
  | lexeme visible sameTail isToken _ ih => exact .lexeme visible sameTail isToken (ih further)

/-- What was read can be read in front of nothing or of white space, too. -/
theorem cut {more : List Char} (reaches : Reaches position text tokens stop rest)
    (divided : text = before ++ rest) (blank : BeginsBlank more) :
    Reaches position (before ++ more) tokens stop more := by
  induction reaches generalizing before with
  | here =>
      obtain rfl : before = [] := by simpa using divided
      exact .here _ _
  | @blank _ _ c _ _ _ white behind ih =>
      obtain ⟨passed, rfl, -⟩ := behind.divides
      obtain rfl : c :: passed = before := List.append_cancel_right divided
      exact .blank white (ih rfl)
  | @lexeme _ _ first tail _ _ _ _ visible sameTail isToken behind ih =>
      obtain ⟨passed, rfl, -⟩ := behind.divides
      rw [← List.append_assoc, ← List.cons_append] at divided
      obtain rfl : first :: (tail ++ passed) = before := List.append_cancel_right divided
      have sameTail := lexemeTail_cut sameTail (List.prefix_append passed _) blank
      rw [List.cons_append, List.append_assoc]
      exact .lexeme visible sameTail isToken (ih rfl)

/-- Reading comes past every place outside of the lexemes. -/
theorem exists_split (reaches : Reaches position text tokens stop rest)
    (divided : text = before ++ after) (inside : position + before.length ≤ stop)
    (outside : ∀ placed ∈ tokens, placed.finish ≤ position + before.length ∨
      position + before.length ≤ placed.position) :
    ∃ firsts lasts, tokens = firsts ++ lasts ∧
      Reaches position text firsts (position + before.length) after ∧
      Reaches (position + before.length) after lasts stop rest := by
  induction reaches generalizing before with
  | here position rest =>
      obtain rfl : before = [] := List.length_eq_zero_iff.mp (by omega)
      obtain rfl := divided
      exact ⟨[], [], rfl, .here _ _, .here _ _⟩
  | @blank position _ c text _ tokens white behind ih =>
      cases before with
      | nil =>
          obtain rfl := divided
          exact ⟨[], tokens, rfl, .here _ _, .blank white behind⟩
      | cons d before =>
          rw [List.cons_append] at divided
          obtain ⟨rfl, sameRest⟩ := List.cons.inj divided
          rw [List.length_cons, Nat.add_comm before.length, ← Nat.add_assoc] at inside outside ⊢
          obtain ⟨firsts, lasts, same, toPlace, fromPlace⟩ := ih sameRest inside outside
          exact ⟨firsts, lasts, same, .blank white toPlace, fromPlace⟩
  | @lexeme position _ first tail behindTail _ token tokens visible sameTail isToken behind ih =>
      cases before with
      | nil =>
          obtain rfl := divided
          exact ⟨[], _, rfl, .here _ _, .lexeme visible sameTail isToken behind⟩
      | cons d before =>
          rw [List.cons_append] at divided
          obtain ⟨rfl, sameRest⟩ := List.cons.inj divided
          obtain ⟨ofFirst, ofOthers⟩ := List.forall_mem_cons.mp outside
          have longer : tail.length ≤ before.length := by
            simp only [PlacedToken.finish, List.length_cons] at ofFirst
            omega
          -- The first lexeme stands in front of the place as a whole.
          obtain ⟨others, rfl⟩ : tail <+: before :=
            List.prefix_of_prefix_length_le ⟨behindTail, sameRest⟩ ⟨after, rfl⟩ longer
          have samePlace : position + (first :: (tail ++ others)).length =
              position + 1 + tail.length + others.length := by
            simp only [List.length_cons, List.length_append]
            omega
          rw [List.append_assoc, List.append_cancel_left_eq] at sameRest
          rw [samePlace] at inside ofOthers ⊢
          obtain ⟨firsts, lasts, rfl, toPlace, fromPlace⟩ := ih sameRest inside ofOthers
          exact ⟨_ :: firsts, lasts, rfl, .lexeme visible sameTail isToken toPlace, fromPlace⟩

/-- The same tokens stand behind more characters as well. -/
theorem moved (reaches : Reaches position text tokens stop rest) (count : Nat) :
    Reaches (position + count) text (tokens.map (PlacedToken.moved count)) (stop + count) rest := by
  induction reaches with
  | here => exact .here _ _
  | @blank position _ _ _ _ _ white _ ih =>
      rw [Nat.add_right_comm] at ih
      exact .blank white ih
  | @lexeme position _ _ tail _ _ _ _ visible sameTail isToken _ ih =>
      rw [Nat.add_right_comm, Nat.add_right_comm position] at ih
      exact .lexeme visible sameTail (ofLexeme_of_position isToken _) ih

theorem behind_blanks (reaches : Reaches (position + white.length) text tokens stop rest)
    (isWhite : ∀ c ∈ white, isWhiteSpace c) :
    Reaches position (white ++ text) tokens stop rest := by
  induction white generalizing position with
  | nil => exact reaches
  | cons c white ih =>
      rw [List.forall_mem_cons] at isWhite
      rw [List.length_cons, Nat.add_comm white.length, ← Nat.add_assoc] at reaches
      exact .blank isWhite.1 (ih reaches isWhite.2)

/-- Every lexeme by itself is read as its token. -/
theorem reads_alone (reaches : Reaches position text tokens stop rest) :
    ∀ placed ∈ tokens, readFrom 0 placed.lexeme = .ok [{ placed with position := 0 }] := by
  induction reaches with
  | here => nofun
  | blank _ _ ih => exact ih
  | @lexeme _ _ first tail after _ token _ visible sameTail isToken _ ih =>
      rw [List.forall_mem_cons]
      refine ⟨?_, ih⟩
      have alone : lexemeTail first (tail ++ ([] ++ [])) = tail :=
        lexemeTail_cut sameTail List.nil_prefix nofun
      have atStart : ofLexeme first tail 0 = .ok token := ofLexeme_of_position isToken 0
      have read := readFrom_of_lexeme tail (by simp [visible]) alone atStart (readFrom_nil _)
      simpa using read

theorem pairwise_finish_le (reaches : Reaches position text tokens stop rest) :
    tokens.Pairwise fun earlier later => earlier.finish ≤ later.position := by
  induction reaches with
  | here => exact .nil
  | blank _ _ ih => exact ih
  | @lexeme position _ _ tail _ _ _ _ _ _ _ behind ih =>
      refine List.pairwise_cons.mpr ⟨fun later member => ?_, ih⟩
      have atLeast := behind.position_le later member
      simp only [PlacedToken.finish, List.length_cons]
      omega

/-- A character that was passed is in a lexeme just if it is no white space. -/
theorem covers (reaches : Reaches position text tokens stop rest) {index : Nat}
    (isAt : text[index]? = some c) (passed : position + index < stop) :
    isWhiteSpace c = false ↔
      ∃ placed ∈ tokens, placed.position ≤ position + index ∧ position + index < placed.finish := by
  induction reaches generalizing index with
  | here => omega
  | @blank position _ d _ _ tokens white behind ih =>
      cases index with
      | zero =>
          obtain rfl : d = c := by simpa using isAt
          have uncovered : ¬ ∃ placed ∈ tokens, placed.position ≤ position + 0 ∧
              position + 0 < placed.finish := by
            rintro ⟨placed, member, before, -⟩
            have later := behind.position_le placed member
            omega
          simp only [white, uncovered, reduceCtorEq]
      | succ index =>
          have shifted : position + (index + 1) = position + 1 + index := by omega
          rw [List.getElem?_cons_succ] at isAt
          rw [shifted] at passed ⊢
          exact ih isAt passed
  | @lexeme position _ first tail after _ token tokens visible sameTail _ behind ih =>
      simp only [List.mem_cons, exists_eq_or_imp]
      by_cases inFirst : index < 1 + tail.length
      · have member : c ∈ first :: tail := by
          rw [← List.cons_append, List.getElem?_append_left (by simp; omega)] at isAt
          exact List.mem_of_getElem? isAt
        have visible : isWhiteSpace c = false := by
          obtain rfl | inTail := List.mem_cons.mp member
          · exact visible
          · rw [← sameTail] at inTail
            exact lexemeTail_visible c inTail
        have covered : position ≤ position + index ∧
            position + index < position + (first :: tail).length := by
          simp only [List.length_cons]
          omega
        simp only [visible, PlacedToken.finish, covered, and_self, true_or]
      · obtain ⟨others, rfl⟩ := Nat.exists_eq_add_of_le (Nat.le_of_not_lt inFirst)
        have shifted : position + (1 + tail.length + others) =
            position + 1 + tail.length + others := by omega
        have atOthers : after[others]? = some c := by
          rw [← List.cons_append, List.getElem?_append_right (by simp; omega)] at isAt
          rw [← isAt]
          congr 1
          simp only [List.length_cons]
          omega
        have behindFirst : ¬ (position ≤ position + 1 + tail.length + others ∧
            position + 1 + tail.length + others < position + (first :: tail).length) := by
          simp only [List.length_cons]
          omega
        rw [shifted] at passed ⊢
        rw [ih atOthers passed]
        simp only [PlacedToken.finish, behindFirst, false_or]

end Reaches

/-- The lexemes of tokens stand in a text one behind the other, and what is not in one of them is
white space. -/
structure LaidOut (text : List Char) (tokens : List PlacedToken) : Prop where
  increasing : tokens.Pairwise fun earlier later => earlier.position < later.position
  disjoint : tokens.Pairwise fun earlier later => earlier.finish ≤ later.position
  slice : ∀ placed ∈ tokens, placed.lexeme ≠ [] ∧
    (text.drop placed.position).take placed.lexeme.length = placed.lexeme
  covers : ∀ index c, text[index]? = some c →
    (¬ isWhiteSpace c ↔ ∃ placed ∈ tokens, placed.position ≤ index ∧ index < placed.finish)

theorem Reaches.laidOut (reaches : Reaches 0 text tokens stop []) : LaidOut text tokens where
  increasing := by
    refine List.Pairwise.imp_of_mem ?_ reaches.pairwise_finish_le
    intro earlier later member _ disjoint
    exact Nat.lt_of_lt_of_le (reaches.finish_le earlier member).1 disjoint
  disjoint := reaches.pairwise_finish_le
  slice := by
    intro placed member
    obtain ⟨before, first, tail, after, same, atPosition, isLexeme, -⟩ :=
      standsIn_of_readFrom [] rfl reaches.readFrom_eq placed member
    rw [List.nil_append] at same
    rw [isLexeme, same, ← atPosition, List.drop_left, ← List.cons_append, List.take_left]
    exact ⟨List.cons_ne_nil _ _, rfl⟩
  covers := by
    intro index c isAt
    obtain ⟨passed, rfl, rfl⟩ := reaches.divides
    have inside : index < passed.length := by
      rw [List.append_nil] at isAt
      exact (List.getElem?_eq_some_iff.mp isAt).1
    have covered := reaches.covers isAt (by omega)
    rwa [Nat.zero_add, ← Bool.not_eq_true] at covered

/-- White space is put into a text outside of the lexemes, and the tokens behind it move. -/
inductive Spaces : List Char × List PlacedToken → List Char × List PlacedToken → Prop
  | insert {before white after : List Char} {tokens : List PlacedToken}
      (isWhite : ∀ c ∈ white, isWhiteSpace c)
      (outside : ∀ placed ∈ tokens,
        placed.finish ≤ before.length ∨ before.length ≤ placed.position) :
      Spaces (before ++ after, tokens)
        (before ++ (white ++ after),
          tokens.map (PlacedToken.movedBehind before.length white.length))

theorem Reaches.map_movedBehind {firsts lasts : List PlacedToken} {count : Nat}
    (toPlace : Reaches position text firsts place after)
    (fromPlace : Reaches place after lasts stop rest) :
    (firsts ++ lasts).map (PlacedToken.movedBehind place count) =
      firsts ++ lasts.map (PlacedToken.moved count) := by
  have still : ∀ placed ∈ firsts, PlacedToken.movedBehind place count placed = placed := by
    intro placed member
    have bounds := toPlace.finish_le placed member
    exact if_neg (by omega)
  have moves : ∀ placed ∈ lasts, PlacedToken.movedBehind place count placed =
      placed.moved count := fun placed member => if_pos (fromPlace.position_le placed member)
  rw [List.map_append, List.map_congr_left still, List.map_id', List.map_congr_left moves]

/-- White space between the lexemes only moves the tokens. -/
theorem readFrom_of_spaces {others : List PlacedToken} {spaced : List Char}
    (spaces : Spaces (text, tokens) (spaced, others)) (read : readFrom 0 text = .ok tokens) :
    readFrom 0 spaced = .ok others := by
  cases spaces with
  | @insert before white after _ isWhite outside =>
      obtain ⟨stop, reaches⟩ := exists_reaches read
      obtain ⟨passed, same, rfl⟩ := reaches.divides
      have inside : 0 + before.length ≤ 0 + passed.length := by
        have lengths := congrArg List.length same
        simp only [List.length_append, List.length_nil] at lengths
        omega
      obtain ⟨firsts, lasts, rfl, toPlace, fromPlace⟩ :=
        reaches.exists_split rfl inside (by simpa only [Nat.zero_add] using outside)
      rw [← Nat.zero_add before.length, toPlace.map_movedBehind fromPlace]
      cases white with
      | nil =>
          have still : PlacedToken.moved ([] : List Char).length = id := rfl
          rwa [still, List.map_id]
      | cons c white =>
          have blank : BeginsBlank (c :: white ++ after) := by
            rintro d ⟨⟩
            exact isWhite _ List.mem_cons_self
          have moved := (fromPlace.moved (c :: white).length).behind_blanks isWhite
          exact ((toPlace.cut rfl blank).append moved).readFrom_eq

theorem readFrom_of_spacings {spaced : List Char × List PlacedToken}
    (spacings : Relation.ReflTransGen Spaces (text, tokens) spaced)
    (read : readFrom 0 text = .ok tokens) : readFrom 0 spaced.1 = .ok spaced.2 := by
  induction spacings with
  | refl => exact read
  | tail _ last ih => exact readFrom_of_spaces last ih

/-- Where reading stops no token begins, whatever stands behind, or a number that is written
wrongly. -/
theorem StopsAt.cases {error : ExpressionError} (stops : StopsAt position c rest error) :
    (error = .unexpectedCharacter c position ∧
      ∀ more, readFrom 0 (c :: more) = .error (.unexpectedCharacter c 0)) ∨
    error = .invalidNumber (String.ofList (c :: lexemeTail c rest)) ∧ isNumeralCharacter c := by
  obtain ⟨visible, noToken⟩ := stops
  by_cases isNumeral : isNumeralCharacter c
  · simp only [ofLexeme, if_pos isNumeral] at noToken
    split at noToken
    · cases noToken
    · cases noToken
      exact .inr ⟨rfl, isNumeral⟩
  · by_cases isName : startsName c
    · simp only [ofLexeme, if_neg isNumeral, if_pos isName, reduceCtorEq] at noToken
    · have noStar : c ≠ '*' := by
        rintro rfl
        have tails : lexemeTail '*' rest = ['*'] ∨ lexemeTail '*' rest = [] := by
          rw [lexemeTail, if_neg isNumeral, if_neg isName]
          split <;> simp
        obtain two | one := tails
        · rw [two] at noToken
          cases noToken
        · rw [one] at noToken
          cases noToken
      have noTail : ∀ more, lexemeTail c more = [] := by
        intro more
        simp [lexemeTail, isNumeral, isName, noStar]
      simp only [ofLexeme, noTail, if_neg isNumeral, if_neg isName] at noToken
      split at noToken
      · cases noToken
      · next noSymbol =>
          cases noToken
          refine .inl ⟨rfl, fun more => ?_⟩
          have read := readFrom_lexeme 0 [] more visible (noTail _)
          simpa [ofLexeme, isNumeral, isName, noSymbol] using read

/-- A text that can be divided is divided into lexemes with white space around them.  Each of them
is read as its token by itself, and more white space between them changes nothing else.  A
text that cannot be divided fails at a character with which no token begins, behind a text that can
be divided, or at a number that is written wrongly. -/
theorem ofText_divides (text : String) :
    (∀ tokens, ofText text = .ok tokens →
      LaidOut text.toList tokens ∧
      (∀ placed ∈ tokens,
        ofText (String.ofList placed.lexeme) = .ok [{ placed with position := 0 }]) ∧
      ∀ spaced others, Relation.ReflTransGen Spaces (text.toList, tokens) (spaced, others) →
        ofText (String.ofList spaced) = .ok others) ∧
    ∀ error, ofText text = .error error →
      (∃ c position before after tokens, error = .unexpectedCharacter c position ∧
        text.toList = before ++ c :: after ∧ before.length = position ∧
        ofText (String.ofList before) = .ok tokens ∧
        ∀ more, ofText (String.ofList (c :: more)) = .error (.unexpectedCharacter c 0)) ∨
      ∃ literal before first tail after, error = .invalidNumber literal ∧
        text.toList = before ++ (literal.toList ++ after) ∧
        literal.toList = first :: tail ∧ (first.isDigit ∨ first = '.') := by
  simp only [ofText, String.toList_ofList]
  constructor
  · intro tokens read
    obtain ⟨stop, reaches⟩ := exists_reaches read
    refine ⟨reaches.laidOut, reaches.reads_alone, ?_⟩
    exact fun spaced others spacings => readFrom_of_spacings spacings read
  · intro error failed
    obtain ⟨_, _, read, -⟩ | ⟨_, tokens, stop, c, rest, same, reaches, stops⟩ :=
      readFrom_cases 0 text.toList
    · rw [read] at failed
      cases failed
    · obtain rfl : _ = error := Except.error.inj (same.symm.trans failed)
      obtain ⟨before, divided, rfl⟩ := reaches.divides
      obtain ⟨rfl, startsNone⟩ | ⟨rfl, isNumeral⟩ := stops.cases
      · refine .inl ⟨c, _, before, rest, tokens, rfl, divided, by simp, ?_, startsNone⟩
        have alone : Reaches 0 (before ++ []) tokens _ [] := reaches.cut divided nofun
        rw [List.append_nil] at alone
        exact alone.readFrom_eq
      · obtain ⟨after, sameRest⟩ := lexemeTail_isPrefix c rest
        refine .inr ⟨_, before, c, lexemeTail c rest, after, rfl, ?_, String.toList_ofList, ?_⟩
        · rw [String.toList_ofList, List.cons_append, sameRest, divided]
        · simpa [isNumeralCharacter] using isNumeral

/-- The letter behind the number is no exponent without a digit, and stays where it is if an
ideographic space is put in front of it. -/
theorem ofText_of_missing_exponent :
    let tokens : List PlacedToken := [⟨.number 2, 0, ['2']⟩, ⟨.name "e", 1, ['e']⟩]
    ofText "2e" = .ok tokens ∧ LaidOut "2e".toList tokens ∧
      ofText "2" = .ok [⟨.number 2, 0, ['2']⟩] ∧
      ofText "2\u3000e" = .ok [⟨.number 2, 0, ['2']⟩, ⟨.name "e", 2, ['e']⟩] ∧
      ofText "2$e" = .error (.unexpectedCharacter '$' 1) ∧
      (∀ more, ofText (String.ofList ('$' :: more)) = .error (.unexpectedCharacter '$' 0)) ∧
      ofText "1.2." = .error (.invalidNumber "1.2.") ∧
      ∃ before after, "1.2.".toList = before ++ ("1.2.".toList ++ after) := by
  intro tokens
  have isNumber : ofLexeme '2' [] 0 = .ok (.number 2) := by rfl
  have read : ofText "2e" = .ok tokens := by
    have name : readFrom 1 ['e'] = .ok (tokens.drop 1) :=
      readFrom_of_lexeme [] (by decide) rfl rfl (readFrom_nil 2)
    exact readFrom_of_lexeme [] (by decide) rfl isNumber name
  have unexpected : ofText "2$e" = .error (.unexpectedCharacter '$' 1) := by
    have atDollar : readFrom 1 ['$', 'e'] = .error (.unexpectedCharacter '$' 1) :=
      readFrom_lexeme 1 [] ['e'] rfl rfl
    have divided : lexemeTail '2' ([] ++ ['$', 'e']) = [] := rfl
    have atNumber := readFrom_lexeme 0 [] ['$', 'e'] rfl divided
    simp only [isNumber, List.length_nil, Nat.zero_add, atDollar] at atNumber
    exact atNumber
  have invalid : ofText "1.2." = .error (.invalidNumber "1.2.") :=
    readFrom_lexeme 0 ['.', '2', '.'] [] rfl rfl
  obtain ⟨laidOut, alone, spaced⟩ := (ofText_divides "2e").1 tokens read
  refine ⟨read, laidOut, alone _ List.mem_cons_self, ?_, unexpected, ?_, invalid, ?_⟩
  · have inserted : Spaces (['2'] ++ ['e'], tokens) (['2'] ++ (['\u3000'] ++ ['e']),
        tokens.map (PlacedToken.movedBehind 1 1)) :=
      .insert (List.forall_mem_singleton.mpr rfl) (by decide)
    exact spaced _ _ (.single inserted)
  · obtain ⟨c, position, before, after, _, same, -, -, -, startsNone⟩ | ⟨_, _, _, _, _, same, -⟩ :=
      (ofText_divides "2$e").2 _ unexpected
    · cases same
      exact startsNone
    · cases same
  · obtain ⟨_, _, _, _, _, same, -⟩ | ⟨literal, before, _, _, after, same, divided, -⟩ :=
      (ofText_divides "1.2.").2 _ invalid
    · cases same
    · cases same
      exact ⟨before, after, divided⟩

end ExpressionToken

end BackOfEnvelope
