import BackOfEnvelope.Proofs.ExpressionBeginnings

/-!
# Dead ends of expressions

Tokens are a dead end if nothing is read from them, whatever follows.  A dead end
inside of a phrase is one of the whole, since what was read in front of it is read
again.  A phrase that is not closed, or not separated from the next one, is a dead
end with the token that stands in its place.
-/

namespace BackOfEnvelope

open PlacedToken

namespace Expression

variable {parse : Nat → List PlacedToken → Parsed Expression}
variable {tokens behind : List PlacedToken} {expression left : Expression}

/-- What a reader leaves are the last of the tokens that it was given. -/
def LeavesSuffix (parse : Nat → List PlacedToken → Parsed Expression) : Prop :=
  ∀ power tokens expression behind, parse power tokens = .ok (expression, behind) →
    behind <:+ tokens

theorem suffix_of_parseArguments (leaves : LeavesSuffix parse) {bound : Nat}
    {arguments : List Expression}
    (parsed : parseArguments parse bound tokens = .ok (arguments, behind)) : behind <:+ tokens := by
  induction bound generalizing tokens arguments with
  | zero => cases parsed
  | succ bound ih =>
      simp only [parseArguments] at parsed
      split at parsed
      · cases parsed
      · next argument after first =>
          have shorter := leaves 0 _ _ _ first
          split at parsed
          · cases parsed
          · next separator rest =>
              have inside : rest <:+ tokens := (List.suffix_cons separator rest).trans shorter
              split at parsed
              · split at parsed
                · cases parsed
                · next others final remaining =>
                    cases parsed
                    exact (ih remaining).trans inside
              · cases parsed
                exact inside
              · cases parsed

theorem suffix_of_parseName (leaves : LeavesSuffix parse) {name : String}
    (parsed : parseName parse name tokens = .ok (expression, behind)) : behind <:+ tokens := by
  unfold parseName at parsed
  split at parsed
  · cases parsed
    exact List.suffix_rfl
  · next opening rest =>
      split at parsed
      · split at parsed
        · cases parsed
        · next first others =>
            have inside : first :: others <:+ opening :: first :: others := List.suffix_cons _ _
            split at parsed
            · cases parsed
              exact (List.suffix_cons _ _).trans inside
            · split at parsed
              · cases parsed
              · next arguments after read =>
                  cases parsed
                  exact (suffix_of_parseArguments leaves read).trans inside
      · cases parsed
        exact List.suffix_rfl

theorem suffix_of_parseParenthesized (leaves : LeavesSuffix parse)
    (parsed : parseParenthesized parse tokens = .ok (expression, behind)) : behind <:+ tokens := by
  unfold parseParenthesized at parsed
  split at parsed
  · cases parsed
  · next inner after inside =>
      split at parsed
      · cases parsed
      · next closing rest =>
          split at parsed
          · cases parsed
            exact (List.suffix_cons closing _).trans (leaves 0 _ _ _ inside)
          · cases parsed

theorem suffix_of_parseOperand (leaves : LeavesSuffix parse)
    (parsed : parseOperand parse tokens = .ok (expression, behind)) : behind <:+ tokens := by
  unfold parseOperand at parsed
  split at parsed
  · cases parsed
  · next next rest =>
      have shorter : ∀ {others : List PlacedToken}, others <:+ rest → others <:+ next :: rest :=
        fun suffix => suffix.trans (List.suffix_cons next rest)
      split at parsed
      · cases parsed
        exact List.suffix_cons _ _
      · exact shorter (suffix_of_parseName leaves parsed)
      · split at parsed
        · cases parsed
        · next operand after signed =>
            cases parsed
            exact shorter (leaves signPower _ _ _ signed)
      · exact shorter (leaves signPower _ _ _ parsed)
      · exact shorter (suffix_of_parseParenthesized leaves parsed)
      · cases parsed

theorem suffix_of_climb (leaves : LeavesSuffix parse) {power bound : Nat}
    (parsed : climb parse power bound left tokens = .ok (expression, behind)) :
    behind <:+ tokens := by
  induction bound generalizing left tokens with
  | zero =>
      cases parsed
      exact List.suffix_rfl
  | succ bound ih =>
      cases tokens with
      | nil =>
          cases parsed
          exact List.suffix_rfl
      | cons next rest =>
          simp only [climb] at parsed
          split at parsed
          · split at parsed
            · cases parsed
              exact List.suffix_rfl
            · split at parsed
              · cases parsed
              · next right after operand =>
                  have inside := leaves _ _ _ _ operand
                  exact (ih parsed).trans (inside.trans (List.suffix_cons next rest))
          · cases parsed
            exact List.suffix_rfl

theorem leavesSuffix_parseWithin (depth : Nat) : LeavesSuffix (parseWithin depth) := by
  induction depth with
  | zero =>
      intro power tokens expression behind parsed
      cases parsed
  | succ depth ih =>
      intro power tokens expression behind parsed
      simp only [parseWithin] at parsed
      split at parsed
      · cases parsed
      · next first after operand =>
          exact (suffix_of_climb ih parsed).trans (suffix_of_parseOperand ih operand)

/-- Whatever follows such tokens, no phrase of the power is read from them. -/
def Stuck (power : Nat) (front : List ExpressionToken) : Prop :=
  ∀ placed more depth, bare placed = front ++ more → placed.length < depth →
    ∃ error, parseWithin depth power placed = .error error

/-- Whatever follows such tokens, they are not the arguments of a call. -/
def StuckArguments (front : List ExpressionToken) : Prop :=
  ∀ placed more depth bound, bare placed = front ++ more → placed.length < depth →
    ∃ error, parseArguments (parseWithin depth) bound placed = .error error

namespace Stuck

variable {power : Nat} {front last : List ExpressionToken} {next : ExpressionToken}

theorem of_operand
    (operand : ∀ placed more depth, bare placed = front ++ more → placed.length ≤ depth →
      ∃ error, parseOperand (parseWithin depth) placed = .error error) : Stuck power front := by
  intro placed more depth same enough
  obtain ⟨depth, rfl⟩ : ∃ below, depth = below + 1 := ⟨depth - 1, by omega⟩
  obtain ⟨error, failed⟩ := operand placed more depth same (by omega)
  exact ⟨error, by simp only [parseWithin, failed]⟩

/-- The other tokens begin no operand. -/
theorem of_noOperand (noNumber : ∀ value, next ≠ .number value) (noName : ∀ name, next ≠ .name name)
    (noMinus : next ≠ .operator .subtract) (noPlus : next ≠ .operator .add)
    (noOpening : next ≠ .leftParenthesis) : Stuck power [next] := by
  apply of_operand
  intro placed more depth same _
  obtain ⟨first, others, rfl, rfl, _⟩ := bare_eq_cons same
  simp only [parseOperand]
  exact ⟨_, rfl⟩

theorem sign {operator : BinaryOperator} (isSign : operator.isAdditive)
    (behind : Stuck signPower front) : Stuck power (.operator operator :: front) := by
  apply of_operand
  intro placed more depth same enough
  obtain ⟨first, inner, rfl, isOperator, innerSame⟩ := bare_eq_cons same
  obtain ⟨error, failed⟩ := behind inner more depth innerSame enough
  cases operator with
  | add | subtract => exact ⟨error, by simp only [parseOperand, isOperator, failed]⟩
  | multiply | divide | remainder | power => cases isSign

theorem parenthesized (inside : Stuck 0 front) : Stuck power (.leftParenthesis :: front) := by
  apply of_operand
  intro placed more depth same enough
  obtain ⟨first, inner, rfl, isOpening, innerSame⟩ := bare_eq_cons same
  obtain ⟨error, failed⟩ := inside inner more depth innerSame enough
  exact ⟨error, by simp only [parseOperand, isOpening, parseParenthesized, failed]⟩

/-- A call without arguments closes at once, so its tokens must not do this. -/
theorem call (name : String) (inside : StuckArguments (next :: front))
    (noClosing : next ≠ .rightParenthesis) :
    Stuck power (.name name :: .leftParenthesis :: next :: front) := by
  apply of_operand
  intro placed more depth same enough
  obtain ⟨first, afterName, rfl, isName, nameSame⟩ := bare_eq_cons same
  obtain ⟨second, inner, rfl, isOpening, innerSame⟩ := bare_eq_cons nameSame
  simp only [List.length_cons] at enough
  obtain ⟨error, failed⟩ := inside inner more depth inner.length innerSame (by omega)
  obtain ⟨third, others, rfl, rfl, _⟩ := bare_eq_cons innerSame
  exact ⟨error, by simp only [parseOperand, isName, parseName, isOpening, failed]⟩

end Stuck

/-- What the tokens show that a reader took before it met others: they can be read
again wherever they stand, if the same token follows. -/
structure SumRead (sum : Expression) (taken behind : List PlacedToken) : Prop where
  spelled : ∀ rest, EndsPhrase rest → Spells (.sum sum) (bare taken ++ rest) rest
  again : ∀ next rest, behind = next :: rest → ∀ placed others depth,
    bare placed = bare taken ++ next.token :: others → placed.length < depth →
      Takes (parseWithin depth 0 placed) sum (next.token :: others)

theorem exists_sumRead {depth : Nat} (enough : tokens.length < depth)
    (parsed : parseWithin depth 0 tokens = .ok (expression, behind)) :
    ∃ taken, tokens = taken ++ behind ∧ SumRead expression taken behind := by
  obtain ⟨taken, rfl⟩ := leavesSuffix_parseWithin depth 0 _ _ _ parsed
  obtain ⟨spelled, stops⟩ := readsPhrases_parseWithin depth 0 _ _ _ parsed
  obtain ⟨front, divided, replaced⟩ := spelled.replace_rest
  have sameFront : bare taken = front := by
    simpa using divided
  subst sameFront
  refine ⟨taken, rfl, ?_, ?_⟩
  · intro rest ends
    exact replaced rest fun opens => absurd opens ends.head?_ne
  · rintro next rest rfl placed others below same covers
    rw [parseWithin_takes_iff (by decide) covers, same]
    exact ⟨replaced _ id, stops.of_head others⟩

theorem StuckArguments.of_stuck {front : List ExpressionToken} (first : Stuck 0 front) :
    StuckArguments front := by
  intro placed more depth bound same enough
  cases bound with
  | zero => exact ⟨_, rfl⟩
  | succ bound =>
      obtain ⟨error, failed⟩ := first placed more depth same enough
      exact ⟨error, by simp only [parseArguments, failed]⟩

namespace SumRead

variable {sum : Expression} {taken rest : List PlacedToken} {next : PlacedToken}
variable {front : List ExpressionToken}

theorem begins (read : SumRead sum taken behind) : Begins 0 (bare taken) :=
  .of_sum read.spelled

theorem stuckArguments (read : SumRead sum taken (next :: rest)) (noComma : next.token ≠ .comma)
    (noClosing : next.token ≠ .rightParenthesis) :
    StuckArguments (bare taken ++ [next.token]) := by
  intro placed more depth bound same enough
  cases bound with
  | zero => exact ⟨_, rfl⟩
  | succ bound =>
      rw [List.append_assoc] at same
      obtain ⟨behind, behindSame, parsed⟩ := read.again _ _ rfl placed more depth same enough
      obtain ⟨other, others, rfl, sameToken, _⟩ := bare_eq_cons behindSame
      rw [← sameToken] at noComma noClosing
      simp only [parseArguments, parsed]
      exact ⟨_, rfl⟩

theorem stuckArguments_behind_comma (read : SumRead sum taken (next :: rest))
    (isComma : next.token = .comma) (others : StuckArguments front) :
    StuckArguments (bare taken ++ .comma :: front) := by
  intro placed more depth bound same enough
  cases bound with
  | zero => exact ⟨_, rfl⟩
  | succ bound =>
      rw [List.append_assoc] at same
      have again := read.again _ _ rfl placed (front ++ more) depth
      rw [isComma] at again
      obtain ⟨behind, behindSame, parsed⟩ := again same enough
      obtain ⟨comma, inner, rfl, isComma, innerSame⟩ := bare_eq_cons behindSame
      have shorter := (leavesSuffix_parseWithin depth 0 _ _ _ parsed).length_le
      simp only [List.length_cons] at shorter
      obtain ⟨error, failed⟩ := others inner more depth bound innerSame (by omega)
      exact ⟨error, by simp only [parseArguments, parsed, isComma, failed]⟩

theorem stuck_parenthesized (read : SumRead sum taken (next :: rest))
    (noClosing : next.token ≠ .rightParenthesis) (power : Nat) :
    Stuck power (.leftParenthesis :: (bare taken ++ [next.token])) := by
  apply Stuck.of_operand
  intro placed more depth same enough
  obtain ⟨first, inner, rfl, isOpening, innerSame⟩ := bare_eq_cons same
  have sameInner : bare inner = bare taken ++ next.token :: more := by simpa using innerSame
  obtain ⟨behind, behindSame, parsed⟩ := read.again _ _ rfl inner more depth sameInner enough
  obtain ⟨other, others, rfl, sameToken, _⟩ := bare_eq_cons behindSame
  rw [← sameToken] at noClosing
  simp only [parseOperand, isOpening, parseParenthesized, parsed]
  exact ⟨_, rfl⟩

end SumRead

namespace Climbed

variable {power : Nat} {front last rest : List ExpressionToken} {operator : BinaryOperator}

/-- As far as a climb has come, so far the reader comes. -/
theorem climbsTo {depth : Nat} (climbed : Climbed power (bare tokens) left rest)
    (small : power ≤ 7) (enough : tokens.length ≤ depth) :
    ClimbsTo depth power tokens left rest := by
  have covers : (bare tokens).length ≤ depth := by rwa [length_bare]
  cases climbed with
  | atom spelled => exact .of_parseOperand (readable_of_spells spelled depth tokens rfl covers)
  | signed spelled stops =>
      exact readable_of_spells spelled depth tokens rfl covers power small stops
  | product low spelled stops =>
      exact readable_of_spells spelled depth tokens rfl covers power low stops
  | sum low spelled stops =>
      exact readable_of_spells spelled depth tokens rfl covers power low stops

/-- A climb that has come to an operator takes nothing for its right operand but what is
read as such. -/
theorem stuck
    (reached : ∀ others,
      Climbed power (front ++ .operator operator :: others) left (.operator operator :: others))
    (small : power ≤ 7) (binds : power ≤ operator.leftPower)
    (operand : Stuck operator.rightPower last) :
    Stuck power (front ++ .operator operator :: last) := by
  intro placed more depth same enough
  obtain ⟨depth, rfl⟩ : ∃ below, depth = below + 1 := ⟨depth - 1, by omega⟩
  have climbed : Climbed power (bare placed) left (.operator operator :: (last ++ more)) := by
    rw [same]
    simpa using reached (last ++ more)
  obtain ⟨behind, bound, behindSame, covers, parsed⟩ :=
    climbed.climbsTo small (Nat.le_of_lt_succ enough)
  obtain ⟨next, inner, rfl, isOperator, innerSame⟩ := bare_eq_cons behindSame
  have shorter : inner.length < placed.length := by
    rw [← length_bare, ← length_bare, same, innerSame]
    simp
    omega
  obtain ⟨error, failed⟩ := operand inner more depth innerSame (by omega)
  simp only [List.length_cons] at covers
  obtain ⟨bound, rfl⟩ : ∃ below, bound = below + 1 := ⟨bound - 1, by omega⟩
  refine ⟨error, ?_⟩
  rw [parsed]
  simp only [climb, isOperator, if_neg (Nat.not_lt_of_le binds), failed]

end Climbed

end Expression

end BackOfEnvelope
