import BackOfEnvelope.Proofs.ExpressionDeadEnds
import BackOfEnvelope.Proofs.ExpressionPlaces

/-!
# Errors of reading expressions

A reader that fails has looked at no token behind the one that it complains about,
and what it had read before can be completed.  So the place of an unexpected token is
the first at which the tokens are no longer the beginning of an expression, and the
end is unexpected just if something may follow.
-/

namespace BackOfEnvelope

open PlacedToken

namespace Expression

variable {tokens : List PlacedToken} {left : Expression}

/-- What an error of a reader says about the tokens that it was given: which of them it had
read when it failed, that these begin what it reads, and that it is stuck behind them. -/
def Explains (begins stuck : List ExpressionToken → Prop) (tokens : List PlacedToken) :
    ExpressionError → Prop
  | .unexpectedEnd => begins (bare tokens)
  | .unexpectedToken shown position =>
      ∃ before next after, tokens = before ++ next :: after ∧
        shown = next.token.shown ∧ position = next.position ∧
        begins (bare before) ∧ stuck (bare before ++ [next.token])
  | _ => False

namespace Explains

variable {begins stuck wholeBegins wholeStuck : List ExpressionToken → Prop}
variable {after : List PlacedToken} {next : PlacedToken} {error : ExpressionError}

theorem of_unexpected {α : Type} (before : List PlacedToken)
    (failed : (unexpected next : Parsed α) = .error error)
    (begun : begins (bare before)) (stopped : stuck (bare before ++ [next.token])) :
    Explains begins stuck (before ++ next :: after) error := by
  cases failed
  exact ⟨before, next, after, rfl, rfl, rfl, begun, stopped⟩

/-- A part is explained as the whole is, if it begins where the whole has come to. -/
theorem of_part (lead : List PlacedToken) (explained : Explains begins stuck tokens error)
    (begun : ∀ front, begins front → wholeBegins (bare lead ++ front))
    (stopped : ∀ next front, (bare tokens).head? = some next → stuck (next :: front) →
      wholeStuck (bare lead ++ next :: front)) :
    Explains wholeBegins wholeStuck (lead ++ tokens) error := by
  cases error with
  | unexpectedEnd =>
      have whole := begun _ explained
      simpa [Explains] using whole
  | unexpectedToken shown position =>
      obtain ⟨before, next, after, rfl, sameShown, samePosition, front, atNext⟩ := explained
      refine ⟨lead ++ before, next, after, by simp, sameShown, samePosition, ?_, ?_⟩
      · simpa using begun _ front
      · cases before with
        | nil => simpa using stopped next.token [] (by simp) atNext
        | cons first others =>
            have whole := stopped first.token (bare others ++ [next.token]) (by simp) atNext
            simpa using whole
  | _ => exact explained

end Explains

theorem SumRead.explains_behind_comma {argument : Expression} {taken rest : List PlacedToken}
    {separator : PlacedToken} {error : ExpressionError}
    (read : SumRead argument taken (separator :: rest)) (isComma : separator.token = .comma)
    (explained : Explains BeginsArguments StuckArguments rest error) :
    Explains BeginsArguments StuckArguments (taken ++ separator :: rest) error := by
  have whole : Explains BeginsArguments StuckArguments ((taken ++ [separator]) ++ rest) error := by
    apply explained.of_part (taken ++ [separator])
    · intro front others
      simpa [isComma] using others.behind_comma read.spelled
    · intro next front _ others
      simpa [isComma] using read.stuckArguments_behind_comma isComma others
  simpa using whole

/-- Every error of a reader of expressions is explained. -/
def ExplainsErrors (depth : Nat) : Prop :=
  ∀ power tokens error, power ≤ 7 → tokens.length < depth →
    parseWithin depth power tokens = .error error →
      Explains (Begins power) (Stuck power) tokens error

section Parts

variable {depth power : Nat} {error : ExpressionError}
variable (explains : ExplainsErrors depth)
include explains

theorem explains_parseArguments {bound : Nat} (enough : tokens.length < depth)
    (covers : tokens.length ≤ bound)
    (failed : parseArguments (parseWithin depth) bound tokens = .error error) :
    Explains BeginsArguments StuckArguments tokens error := by
  induction bound generalizing tokens with
  | zero =>
      -- The bound covers the tokens, so it runs out only where none is left.
      have noTokens : tokens = [] := List.length_eq_zero_iff.mp (Nat.le_zero.mp covers)
      subst noTokens
      cases failed
      exact BeginsArguments.of_begins .nil
  | succ bound ih =>
      simp only [parseArguments] at failed
      split at failed
      · next inFirst =>
          cases failed
          have explained : Explains (Begins 0) (Stuck 0) tokens error :=
            explains 0 _ _ (by decide) enough inFirst
          exact explained.of_part [] (fun _ => .of_begins) fun _ _ _ => .of_stuck
      · next argument after first =>
          obtain ⟨taken, rfl, read⟩ := exists_sumRead enough first
          split at failed
          · cases failed
            rw [List.append_nil]
            exact BeginsArguments.of_begins read.begins
          · next separator rest =>
              split at failed
              · next comma =>
                  split at failed
                  · next inOthers =>
                      cases failed
                      simp only [List.length_append, List.length_cons] at enough covers
                      have explained := ih (by omega) (by omega) inOthers
                      exact read.explains_behind_comma comma explained
                  · cases failed
              · cases failed
              · next noComma noClosing =>
                  exact .of_unexpected taken failed (BeginsArguments.of_begins read.begins)
                    (read.stuckArguments noComma noClosing)

theorem explains_parseName {first : PlacedToken} {name : String} (isName : first.token = .name name)
    (enough : tokens.length < depth)
    (failed : parseName (parseWithin depth) name tokens = .error error) :
    Explains (Begins power) (Stuck power) (first :: tokens) error := by
  unfold parseName at failed
  split at failed
  · cases failed
  · next opening rest =>
      split at failed
      · next isOpening =>
          split at failed
          · cases failed
            simpa [Explains, isName, isOpening] using Begins.openCall name
          · next second others =>
              split at failed
              · cases failed
              · next noClosing =>
                  split at failed
                  · next inArguments =>
                      cases failed
                      have shorter : (second :: others).length < depth := Nat.lt_of_succ_lt enough
                      have explained := explains_parseArguments explains shorter
                        (Nat.le_refl _) inArguments
                      apply explained.of_part [first, opening]
                      · intro front inside
                        simpa [isName, isOpening] using Begins.call name inside
                      · intro next front atHead inside
                        have sameToken : second.token = next := by simpa using atHead
                        rw [sameToken] at noClosing
                        simpa [isName, isOpening] using Stuck.call name inside noClosing
                  · cases failed
      · cases failed

theorem explains_parseParenthesized {first : PlacedToken}
    (isOpening : first.token = .leftParenthesis) (enough : tokens.length < depth)
    (failed : parseParenthesized (parseWithin depth) tokens = .error error) :
    Explains (Begins power) (Stuck power) (first :: tokens) error := by
  unfold parseParenthesized at failed
  split at failed
  · next inside =>
      cases failed
      have explained := explains 0 _ _ (by decide) enough inside
      apply explained.of_part [first]
      · intro front inner
        simpa [isOpening] using inner.parenthesized
      · intro next front _ inner
        simpa [isOpening] using inner.parenthesized
  · next inner after inside =>
      obtain ⟨taken, rfl, read⟩ := exists_sumRead enough inside
      have begun : Begins power (bare (first :: taken)) := by
        rw [bare_cons, isOpening]
        exact read.begins.parenthesized
      split at failed
      · cases failed
        rw [List.append_nil]
        exact begun
      · next closing rest =>
          split at failed
          · cases failed
          · next noClosing =>
              refine Explains.of_unexpected (first :: taken) failed begun ?_
              simpa [isOpening] using read.stuck_parenthesized noClosing power

theorem explains_behind_sign {first : PlacedToken} {operator : BinaryOperator}
    (isOperator : first.token = .operator operator) (isSign : operator.isAdditive)
    (enough : tokens.length < depth)
    (failed : parseWithin depth signPower tokens = .error error) :
    Explains (Begins power) (Stuck power) (first :: tokens) error := by
  have explained := explains signPower _ _ (by decide) enough failed
  apply explained.of_part [first]
  · intro front operand
    simpa [isOperator] using operand.sign isSign
  · intro next front _ operand
    simpa [isOperator] using operand.sign isSign

theorem explains_parseOperand (enough : tokens.length ≤ depth)
    (failed : parseOperand (parseWithin depth) tokens = .error error) :
    Explains (Begins power) (Stuck power) tokens error := by
  unfold parseOperand at failed
  split at failed
  · cases failed
    exact Begins.nil
  · next first rest =>
      split at failed
      · cases failed
      · next isName => exact explains_parseName explains isName enough failed
      · next isMinus =>
          split at failed
          · next behindSign =>
              cases failed
              exact explains_behind_sign explains isMinus rfl enough behindSign
          · cases failed
      · next isPlus => exact explains_behind_sign explains isPlus rfl enough failed
      · next isOpening => exact explains_parseParenthesized explains isOpening enough failed
      · next noNumber noName noMinus noPlus noOpening =>
          exact .of_unexpected [] failed Begins.nil
            (.of_noOperand noNumber noName noMinus noPlus noOpening)

theorem explains_behind_operator {taken rest : List PlacedToken} {next : PlacedToken}
    {operator : BinaryOperator} (small : power ≤ 7) (binds : power ≤ operator.leftPower)
    (isOperator : next.token = .operator operator) (enough : rest.length < depth)
    (climbed : Climbed power (bare (taken ++ next :: rest)) left (.operator operator :: bare rest))
    (failed : parseWithin depth operator.rightPower rest = .error error) :
    Explains (Begins power) (Stuck power) (taken ++ next :: rest) error := by
  have smallOperand : operator.rightPower ≤ 7 := by cases operator <;> decide
  have explained := explains operator.rightPower _ _ smallOperand enough failed
  obtain ⟨front, divided, reached⟩ := climbed.replace_rest
  have takenSame : bare taken = front := by
    simpa [isOperator] using divided
  subst takenSame
  have whole : Explains (Begins power) (Stuck power) ((taken ++ [next]) ++ rest) error := by
    apply explained.of_part (taken ++ [next])
    · intro front operand
      simpa [isOperator] using Climbed.begins reached binds operand
    · intro next front _ operand
      simpa [isOperator] using Climbed.stuck reached small binds operand
  simpa using whole

theorem explains_climb {taken : List PlacedToken} {bound : Nat} (small : power ≤ 7)
    (enough : (taken ++ tokens).length ≤ depth)
    (climbed : Climbed power (bare (taken ++ tokens)) left (bare tokens))
    (failed : climb (parseWithin depth) power bound left tokens = .error error) :
    Explains (Begins power) (Stuck power) (taken ++ tokens) error := by
  induction bound generalizing taken left tokens with
  | zero => cases failed
  | succ bound ih =>
      cases tokens with
      | nil => cases failed
      | cons next rest =>
          simp only [List.length_append, List.length_cons] at enough
          simp only [climb] at failed
          split at failed
          · next operator isOperator =>
              split at failed
              · cases failed
              · next strong =>
                  have binds : power ≤ operator.leftPower := Nat.le_of_not_lt strong
                  rw [bare_cons, isOperator] at climbed
                  split at failed
                  · next inOperand =>
                      cases failed
                      exact explains_behind_operator explains small binds isOperator (by omega)
                        climbed inOperand
                  · next right after inOperand =>
                      obtain ⟨spelled, stops⟩ := readsPhrases_parseWithin _ _ _ _ _ inOperand
                      obtain ⟨operand, rfl⟩ := leavesSuffix_parseWithin _ _ _ _ _ inOperand
                      -- The climb goes on behind the operand, with all that was taken so far.
                      have further := climbed.extend binds spelled stops
                      have again : taken ++ next :: (operand ++ after) =
                          (taken ++ next :: operand) ++ after := by simp
                      rw [again] at further ⊢
                      exact ih (by simp at enough ⊢; omega) further failed
          · cases failed

end Parts

theorem explainsErrors (depth : Nat) : ExplainsErrors depth := by
  induction depth with
  | zero =>
      intro power tokens error _ enough
      exact absurd enough (Nat.not_lt_zero _)
  | succ depth ih =>
      intro power tokens error small enough failed
      have covers : tokens.length ≤ depth := Nat.le_of_lt_succ enough
      simp only [parseWithin] at failed
      split at failed
      · next inOperand =>
          cases failed
          exact explains_parseOperand ih covers inOperand
      · next first behind operand =>
          have reads := readsPhrases_parseWithin depth
          have climbed := climbed_of_parseOperand reads power operand
          obtain ⟨taken, rfl⟩ := suffix_of_parseOperand (leavesSuffix_parseWithin depth) operand
          exact explains_climb ih small covers climbed failed

/-- Tokens that spell an expression as a whole. -/
def IsExpression (tokens : List ExpressionToken) : Prop :=
  ∃ expression, Spells (.sum expression) tokens []

/-- Tokens that more tokens make an expression of, maybe none. -/
def BeginsExpression (front : List ExpressionToken) : Prop :=
  ∃ more, IsExpression (front ++ more)

theorem Begins.beginsExpression {front : List ExpressionToken} (begins : Begins 0 front) :
    BeginsExpression front := by
  obtain ⟨more, expression, spelled⟩ := begins
  have whole := spelled [] trivial
  rw [List.append_nil] at whole
  exact ⟨more, expression, whole⟩

theorem exists_bare_eq (tokens : List ExpressionToken) : ∃ placed, bare placed = tokens :=
  ⟨tokens.map (⟨·, 0, []⟩), by simp [bare, Function.comp_def]⟩

theorem Stuck.not_beginsExpression {front : List ExpressionToken} (stuck : Stuck 0 front) :
    ¬ BeginsExpression front := by
  rintro ⟨more, expression, spelled⟩
  obtain ⟨placed, same⟩ := exists_bare_eq (front ++ more)
  rw [← same, ← ofTokens_eq_ok_iff] at spelled
  obtain ⟨error, failed⟩ := stuck placed more _ same (Nat.lt_succ_self _)
  simp only [ofTokens, failed] at spelled
  cases spelled

/-- What a sum leaves over, no expression takes. -/
theorem SumRead.not_beginsExpression {sum : Expression} {taken rest : List PlacedToken}
    {next : PlacedToken} (read : SumRead sum taken (next :: rest)) :
    ¬ BeginsExpression (bare taken ++ [next.token]) := by
  rintro ⟨more, expression, spelled⟩
  obtain ⟨placed, same⟩ := exists_bare_eq (bare taken ++ next.token :: more)
  rw [List.append_assoc, List.singleton_append, ← same, ← ofTokens_eq_ok_iff] at spelled
  obtain ⟨behind, left, parsed⟩ := read.again _ _ rfl placed more _ same (Nat.lt_succ_self _)
  obtain ⟨other, others, rfl, -, -⟩ := bare_eq_cons left
  simp only [ofTokens, parsed] at spelled
  cases spelled

theorem explains_ofTokens {error : ExpressionError} (failed : ofTokens tokens = .error error) :
    Explains BeginsExpression (fun front => ¬ BeginsExpression front) tokens error := by
  unfold ofTokens at failed
  split at failed
  · next inside =>
      cases failed
      have explained := explainsErrors _ 0 _ _ (by decide) (Nat.lt_succ_self _) inside
      exact explained.of_part [] (fun _ begins => begins.beginsExpression)
        fun _ _ _ stuck => stuck.not_beginsExpression
  · cases failed
  · next expression next rest parsed =>
      obtain ⟨taken, rfl, read⟩ := exists_sumRead (Nat.lt_succ_self _) parsed
      cases failed
      exact ⟨taken, next, rest, rfl, rfl, rfl, read.begins.beginsExpression,
        read.not_beginsExpression⟩

/-- A text of tokens that are no expression is read up to its end just if more tokens make an
expression of them.  Otherwise the first token is reported that no beginning of an expression
goes on with, at the place where its lexeme stands. -/
theorem ofText_of_not_isExpression {text : String}
    (divided : ExpressionToken.ofText text = .ok tokens)
    (noExpression : ¬ IsExpression (bare tokens)) :
    (ofText text = .error .unexpectedEnd ↔
      ∃ more, more ≠ [] ∧ IsExpression (bare tokens ++ more)) ∧
    ((¬ ∃ more, more ≠ [] ∧ IsExpression (bare tokens ++ more)) →
      ∃ before next after, tokens = before ++ next :: after ∧ next.StandsIn text.toList ∧
        ofText text = .error (.unexpectedToken next.token.shown next.position) ∧
        BeginsExpression (bare before) ∧ ¬ BeginsExpression (bare before ++ [next.token])) := by
  have continued : (∃ more, more ≠ [] ∧ IsExpression (bare tokens ++ more)) ↔
      BeginsExpression (bare tokens) := by
    constructor
    · rintro ⟨more, _, whole⟩
      exact ⟨more, whole⟩
    · rintro ⟨more, whole⟩
      refine ⟨more, ?_, whole⟩
      rintro rfl
      rw [List.append_nil] at whole
      exact noExpression whole
  have parsed : ofText text = ofTokens tokens := by
    unfold ofText
    rw [divided]
  rw [parsed, continued]
  cases result : ofTokens tokens with
  | ok expression =>
      exact absurd ⟨expression, (ofTokens_eq_ok_iff _ _).mp result⟩ noExpression
  | error error =>
      have explained := explains_ofTokens result
      cases error with
      | unexpectedEnd =>
          exact ⟨⟨fun _ => explained, fun _ => rfl⟩, fun noneBegins => absurd explained noneBegins⟩
      | unexpectedToken shown position =>
          obtain ⟨before, next, after, rfl, rfl, rfl, begun, stopped⟩ := explained
          constructor
          · constructor
            · intro atEnd
              cases atEnd
            · rintro ⟨more, whole⟩
              exact absurd ⟨bare after ++ more, by simpa using whole⟩ stopped
          · intro _
            have inText := ExpressionToken.standsIn_of_ofText divided next (by simp)
            exact ⟨before, next, after, rfl, inText, rfl, begun, stopped⟩
      | _ => exact explained.elim

/-- In `(a b` nothing takes the second name, whatever follows. -/
theorem ofText_of_second_name :
    let tokens : List PlacedToken :=
      [⟨.leftParenthesis, 0, ['(']⟩, ⟨.name "a", 1, ['a']⟩, ⟨.name "b", 3, ['b']⟩]
    ExpressionToken.ofText "(a b" = .ok tokens ∧ ¬ IsExpression (bare tokens) ∧
      ofText "(a b" = .error (.unexpectedToken "b" 3) ∧
      (¬ ∃ more, more ≠ [] ∧ IsExpression (bare tokens ++ more)) ∧
      ∃ before next after, tokens = before ++ next :: after ∧ next.StandsIn "(a b".toList ∧
        ofText "(a b" = .error (.unexpectedToken next.token.shown next.position) ∧
        BeginsExpression (bare before) ∧ ¬ BeginsExpression (bare before ++ [next.token]) := by
  intro tokens
  have divided : ExpressionToken.ofText "(a b" = .ok tokens := by
    have last : ExpressionToken.readFrom 3 ['b'] = .ok (tokens.drop 2) :=
      ExpressionToken.readFrom_of_lexeme [] (by decide) rfl rfl
        (ExpressionToken.readFrom_nil 4)
    have blank : ExpressionToken.readFrom 2 [' ', 'b'] = .ok (tokens.drop 2) := by
      rw [ExpressionToken.readFrom_of_blank (by decide), last]
    have middle : ExpressionToken.readFrom 1 ['a', ' ', 'b'] = .ok (tokens.drop 1) :=
      ExpressionToken.readFrom_of_lexeme [] (by decide) rfl rfl blank
    exact ExpressionToken.readFrom_of_lexeme [] (by decide) rfl rfl middle
  have failed : ofTokens tokens = .error (.unexpectedToken "b" 3) := rfl
  have noExpression : ¬ IsExpression (bare tokens) := by
    rintro ⟨expression, spelled⟩
    rw [← ofTokens_eq_ok_iff, failed] at spelled
    cases spelled
  have parsed : ofText "(a b" = .error (.unexpectedToken "b" 3) := by
    unfold ofText
    rw [divided]
    exact failed
  obtain ⟨atEnd, atToken⟩ := ofText_of_not_isExpression divided noExpression
  have notContinued : ¬ ∃ more, more ≠ [] ∧ IsExpression (bare tokens ++ more) := by
    rw [← atEnd, parsed]
    simp
  exact ⟨divided, noExpression, parsed, notContinued, atToken notContinued⟩

end Expression

end BackOfEnvelope
