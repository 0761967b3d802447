import BackOfEnvelope.Proofs.ExpressionReading

/-!
# Beginnings of expressions

Tokens begin a phrase if more tokens make a phrase of them, whatever ends it.  What
was read can be followed by other tokens than before, so a phrase that lacks its
last part is completed by any phrase that fits there, and each part of the grammar
has a shortest one.
-/

namespace BackOfEnvelope

namespace StopsBelow

/-- Only the first token decides whether a phrase stops. -/
theorem of_head {power : Nat} {next : ExpressionToken} {rest : List ExpressionToken}
    (stops : StopsBelow power (next :: rest)) (others : List ExpressionToken) :
    StopsBelow power (next :: others) := by
  cases next with
  | operator operator => exact stops
  | number _ | name _ | leftParenthesis | rightParenthesis | comma => trivial

end StopsBelow

namespace Spells

/-- What spells a phrase spells it in front of other tokens too, unless they open a
parenthesis behind a name that was a variable. -/
theorem replace_rest {phrase : Phrase} {tokens rest : List ExpressionToken}
    (spelled : Spells phrase tokens rest) :
    ∃ front, tokens = front ++ rest ∧ ∀ others,
      (others.head? = some .leftParenthesis → rest.head? = some .leftParenthesis) →
        Spells phrase (front ++ others) others := by
  induction spelled with
  | number value rest => exact ⟨[.number value], rfl, fun others _ => .number value others⟩
  | plainName name noCall =>
      exact ⟨[.name name], rfl, fun others opens => .plainName name fun call => noCall (opens call)⟩
  | emptyCall name rest =>
      exact ⟨[.name name, .leftParenthesis, .rightParenthesis], rfl,
        fun others _ => .emptyCall name others⟩
  | call name _ ih =>
      obtain ⟨front, rfl, again⟩ := ih
      refine ⟨.name name :: .leftParenthesis :: (front ++ [.rightParenthesis]), by simp, ?_⟩
      intro others _
      have inside := again (.rightParenthesis :: others) (by simp)
      simpa using inside.call name
  | parenthesized _ ih =>
      obtain ⟨front, rfl, again⟩ := ih
      refine ⟨.leftParenthesis :: (front ++ [.rightParenthesis]), by simp, ?_⟩
      intro others _
      have inside := again (.rightParenthesis :: others) (by simp)
      simpa using inside.parenthesized
  | lastArgument _ ih =>
      obtain ⟨front, divided, again⟩ := ih
      exact ⟨front, divided, fun others opens => (again others opens).lastArgument⟩
  | base _ ih =>
      obtain ⟨front, divided, again⟩ := ih
      exact ⟨front, divided, fun others opens => (again others opens).base⟩
  | unsigned _ ih =>
      obtain ⟨front, divided, again⟩ := ih
      exact ⟨front, divided, fun others opens => (again others opens).unsigned⟩
  | factor _ ih =>
      obtain ⟨front, divided, again⟩ := ih
      exact ⟨front, divided, fun others opens => (again others opens).factor⟩
  | term _ ih =>
      obtain ⟨front, divided, again⟩ := ih
      exact ⟨front, divided, fun others opens => (again others opens).term⟩
  | minus _ ih =>
      obtain ⟨front, rfl, again⟩ := ih
      exact ⟨.operator .subtract :: front, rfl, fun others opens => (again others opens).minus⟩
  | plus _ ih =>
      obtain ⟨front, rfl, again⟩ := ih
      exact ⟨.operator .add :: front, rfl, fun others opens => (again others opens).plus⟩
  | moreArguments _ _ firstIH othersIH =>
      obtain ⟨front, rfl, first⟩ := firstIH
      obtain ⟨last, rfl, second⟩ := othersIH
      refine ⟨front ++ .comma :: last, by simp, ?_⟩
      intro others opens
      simpa using (first (.comma :: (last ++ others)) (by simp)).moreArguments (second others opens)
  | raised _ _ atomIH aboveIH =>
      obtain ⟨front, rfl, first⟩ := atomIH
      obtain ⟨last, rfl, second⟩ := aboveIH
      refine ⟨front ++ .operator .power :: last, by simp, ?_⟩
      intro others opens
      simpa using (first (.operator .power :: (last ++ others)) (by simp)).raised
        (second others opens)
  | @times operator _ _ _ _ _ multiplicative _ _ beforeIH lastIH =>
      obtain ⟨front, rfl, first⟩ := beforeIH
      obtain ⟨last, rfl, second⟩ := lastIH
      refine ⟨front ++ .operator operator :: last, by simp, ?_⟩
      intro others opens
      simpa using Spells.times multiplicative
        (first (.operator operator :: (last ++ others)) (by simp)) (second others opens)
  | @added operator _ _ _ _ _ additive _ _ beforeIH lastIH =>
      obtain ⟨front, rfl, first⟩ := beforeIH
      obtain ⟨last, rfl, second⟩ := lastIH
      refine ⟨front ++ .operator operator :: last, by simp, ?_⟩
      intro others opens
      simpa using Spells.added additive
        (first (.operator operator :: (last ++ others)) (by simp)) (second others opens)

theorem ofPower_of_signed {expression : Expression} {tokens rest : List ExpressionToken}
    (spelled : Spells (.signed expression) tokens rest) (power : Nat) :
    Spells (.ofPower power expression) tokens rest := by
  unfold Phrase.ofPower
  split
  · exact .term (.factor spelled)
  · split
    · exact .factor spelled
    · exact spelled

end Spells

namespace Expression

/-- Nothing that stands here belongs to a phrase in front of it. -/
def EndsPhrase : List ExpressionToken → Prop
  | [] | .rightParenthesis :: _ | .comma :: _ => True
  | .number _ :: _ | .name _ :: _ | .operator _ :: _ | .leftParenthesis :: _ => False

namespace EndsPhrase

variable {rest : List ExpressionToken}

theorem stopsBelow (ends : EndsPhrase rest) (power : Nat) : StopsBelow power rest := by
  match rest with
  | [] | .rightParenthesis :: _ | .comma :: _ => trivial
  | .number _ :: _ | .name _ :: _ | .operator _ :: _ | .leftParenthesis :: _ => cases ends

theorem head?_ne (ends : EndsPhrase rest) : rest.head? ≠ some .leftParenthesis := by
  match rest with
  | [] | .rightParenthesis :: _ | .comma :: _ => simp
  | .number _ :: _ | .name _ :: _ | .operator _ :: _ | .leftParenthesis :: _ => cases ends

end EndsPhrase

/-- Tokens begin a phrase of a power. -/
def Begins (power : Nat) (front : List ExpressionToken) : Prop :=
  ∃ more expression, ∀ rest, EndsPhrase rest →
    Spells (.ofPower power expression) (front ++ more ++ rest) rest

/-- Tokens begin the arguments of a call, which a parenthesis closes. -/
def BeginsArguments (front : List ExpressionToken) : Prop :=
  ∃ more arguments, ∀ rest,
    Spells (.arguments arguments) (front ++ more ++ .rightParenthesis :: rest)
      (.rightParenthesis :: rest)

namespace Begins

variable {power : Nat} {front : List ExpressionToken}

theorem of_signed (more : List ExpressionToken) (expression : Expression)
    (spelled : ∀ rest, EndsPhrase rest →
      Spells (.signed expression) (front ++ more ++ rest) rest) : Begins power front :=
  ⟨more, expression, fun rest ends => (spelled rest ends).ofPower_of_signed power⟩

/-- A number completes what is empty. -/
theorem nil : Begins power [] := by
  apply of_signed [.number 0.0] (.number 0.0)
  intro rest _
  exact (Spells.number 0.0 rest).signed_of_atom

theorem sign {operator : BinaryOperator} (isSign : operator.isAdditive)
    (behind : Begins signPower front) : Begins power (.operator operator :: front) := by
  obtain ⟨more, expression, spelled⟩ := behind
  cases operator with
  | add => exact of_signed more expression fun rest ends => .plus (spelled rest ends)
  | subtract =>
      exact of_signed more (.negate expression) fun rest ends => .minus (spelled rest ends)
  | multiply | divide | remainder | power => cases isSign

theorem openCall (name : String) : Begins power [.name name, .leftParenthesis] := by
  apply of_signed [.rightParenthesis] (.call name [])
  intro rest _
  exact (Spells.emptyCall name rest).signed_of_atom

theorem call (name : String) (inside : BeginsArguments front) :
    Begins power (.name name :: .leftParenthesis :: front) := by
  obtain ⟨more, arguments, spelled⟩ := inside
  apply of_signed (more ++ [.rightParenthesis]) (.call name arguments)
  intro rest _
  simpa using ((spelled rest).call name).signed_of_atom

theorem parenthesized (inside : Begins 0 front) : Begins power (.leftParenthesis :: front) := by
  obtain ⟨more, expression, spelled⟩ := inside
  apply of_signed (more ++ [.rightParenthesis]) expression
  intro rest _
  have inParentheses : Spells (.sum expression)
      (front ++ more ++ .rightParenthesis :: rest) (.rightParenthesis :: rest) :=
    spelled (.rightParenthesis :: rest) trivial
  simpa using inParentheses.parenthesized.signed_of_atom

theorem of_sum {expression : Expression}
    (spelled : ∀ rest, EndsPhrase rest → Spells (.sum expression) (front ++ rest) rest) :
    Begins 0 front := by
  refine ⟨[], expression, ?_⟩
  intro rest ends
  rw [List.append_nil]
  exact spelled rest ends

end Begins

namespace BeginsArguments

variable {front last : List ExpressionToken} {argument : Expression}

theorem of_begins (begins : Begins 0 front) : BeginsArguments front := by
  obtain ⟨more, expression, spelled⟩ := begins
  refine ⟨more, [expression], ?_⟩
  intro rest
  exact .lastArgument (spelled (.rightParenthesis :: rest) trivial)

theorem behind_comma
    (first : ∀ rest, EndsPhrase rest → Spells (.sum argument) (front ++ rest) rest)
    (others : BeginsArguments last) : BeginsArguments (front ++ .comma :: last) := by
  obtain ⟨more, arguments, spelled⟩ := others
  refine ⟨more, argument :: arguments, ?_⟩
  intro rest
  have argument := first (.comma :: (last ++ more ++ .rightParenthesis :: rest)) trivial
  have whole := argument.moreArguments (spelled rest)
  simpa using whole

end BeginsArguments

namespace Climbed

variable {power : Nat} {start rest front last : List ExpressionToken} {next : ExpressionToken}
variable {left : Expression} {operator : BinaryOperator}

/-- Behind the next token, nothing matters to how far a climb has come. -/
theorem replace_rest (climbed : Climbed power start left (next :: rest)) :
    ∃ front, start = front ++ next :: rest ∧
      ∀ others, Climbed power (front ++ next :: others) left (next :: others) := by
  cases climbed with
  | atom spelled =>
      obtain ⟨front, divided, again⟩ := spelled.replace_rest
      exact ⟨front, divided, fun others => .atom (again (next :: others) id)⟩
  | signed spelled stops =>
      obtain ⟨front, divided, again⟩ := spelled.replace_rest
      exact ⟨front, divided, fun others =>
        .signed (again (next :: others) id) (stops.of_head others)⟩
  | product low spelled stops =>
      obtain ⟨front, divided, again⟩ := spelled.replace_rest
      exact ⟨front, divided, fun others =>
        .product low (again (next :: others) id) (stops.of_head others)⟩
  | sum low spelled stops =>
      obtain ⟨front, divided, again⟩ := spelled.replace_rest
      exact ⟨front, divided, fun others =>
        .sum low (again (next :: others) id) (stops.of_head others)⟩

/-- A climb that has come to an operator is completed by its right operand. -/
theorem begins
    (reached : ∀ others,
      Climbed power (front ++ .operator operator :: others) left (.operator operator :: others))
    (binds : power ≤ operator.leftPower) (operand : Begins operator.rightPower last) :
    Begins power (front ++ .operator operator :: last) := by
  obtain ⟨more, right, spelled⟩ := operand
  refine ⟨more, .binary operator left right, ?_⟩
  intro rest ends
  have whole := (reached (last ++ more ++ rest)).extend binds (spelled rest ends)
    (ends.stopsBelow _)
  simpa using whole.spells

end Climbed

end Expression

end BackOfEnvelope
