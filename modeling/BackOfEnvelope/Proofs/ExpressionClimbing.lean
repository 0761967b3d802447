import BackOfEnvelope.Proofs.ExpressionGrammar

/-!
# Climbing along operators

What is read as an expression is spelled by the tokens in front of what is
left.  A climb keeps an account of the stratum that it has reached: behind an
atom any operator may follow, but behind an operand that has taken its own
operators only weaker ones are left.
-/

namespace BackOfEnvelope

open PlacedToken

namespace Expression

variable {parse : Nat → List PlacedToken → Parsed Expression}

/-- What a reader answers is spelled by the tokens it took, and no operator is left
in front that it should have taken. -/
def ReadsPhrases (parse : Nat → List PlacedToken → Parsed Expression) : Prop :=
  ∀ power tokens expression behind, parse power tokens = .ok (expression, behind) →
    Spells (.ofPower power expression) (bare tokens) (bare behind) ∧
      StopsBelow power (bare behind)

theorem spells_of_parseArguments (reads : ReadsPhrases parse) {bound : Nat}
    {tokens behind : List PlacedToken} {arguments : List Expression}
    (parsed : parseArguments parse bound tokens = .ok (arguments, behind)) :
    Spells (.arguments arguments) (bare tokens) (.rightParenthesis :: bare behind) := by
  induction bound generalizing tokens arguments with
  | zero => simp [parseArguments] at parsed
  | succ bound ih =>
      simp only [parseArguments] at parsed
      split at parsed
      · simp at parsed
      · next argument after first =>
          have spelled := (reads 0 _ _ _ first).1
          split at parsed
          · simp at parsed
          · next separator rest =>
              rw [bare_cons] at spelled
              split at parsed
              · next comma =>
                  rw [comma] at spelled
                  split at parsed
                  · simp at parsed
                  · next others final remaining =>
                      obtain ⟨rfl, rfl⟩ := Prod.mk.inj (Except.ok.inj parsed)
                      exact .moreArguments spelled (ih remaining)
              · next closing =>
                  rw [closing] at spelled
                  obtain ⟨rfl, rfl⟩ := Prod.mk.inj (Except.ok.inj parsed)
                  exact .lastArgument spelled
              · simp [unexpected] at parsed

theorem spells_of_parseName (reads : ReadsPhrases parse) {name : String}
    {tokens behind : List PlacedToken} {expression : Expression}
    (parsed : parseName parse name tokens = .ok (expression, behind)) :
    Spells (.atom expression) (.name name :: bare tokens) (bare behind) := by
  unfold parseName at parsed
  split at parsed
  · obtain ⟨rfl, rfl⟩ := Prod.mk.inj (Except.ok.inj parsed)
    exact .plainName name (by simp)
  · next next rest =>
      split at parsed
      · next opening =>
          rw [bare_cons, opening]
          split at parsed
          · simp at parsed
          · next first others =>
              split at parsed
              · next closing =>
                  obtain ⟨rfl, rfl⟩ := Prod.mk.inj (Except.ok.inj parsed)
                  rw [bare_cons, closing]
                  exact .emptyCall name _
              · split at parsed
                · simp at parsed
                · next arguments after inside =>
                    obtain ⟨rfl, rfl⟩ := Prod.mk.inj (Except.ok.inj parsed)
                    exact .call name (spells_of_parseArguments reads inside)
      · next noOpening =>
          obtain ⟨rfl, rfl⟩ := Prod.mk.inj (Except.ok.inj parsed)
          exact .plainName name (by simpa using noOpening)

theorem spells_of_parseParenthesized (reads : ReadsPhrases parse)
    {tokens behind : List PlacedToken} {expression : Expression}
    (parsed : parseParenthesized parse tokens = .ok (expression, behind)) :
    Spells (.atom expression) (.leftParenthesis :: bare tokens) (bare behind) := by
  unfold parseParenthesized at parsed
  split at parsed
  · simp at parsed
  · next inner after inside =>
      have spelled := (reads 0 _ _ _ inside).1
      split at parsed
      · simp at parsed
      · next closing rest =>
          rw [bare_cons] at spelled
          split at parsed
          · next isClosing =>
              rw [isClosing] at spelled
              obtain ⟨rfl, rfl⟩ := Prod.mk.inj (Except.ok.inj parsed)
              exact .parenthesized spelled
          · simp [unexpected] at parsed

/-- How far a climb with a given power has come: the stratum of the expression so far.
Behind anything but an atom no power operator is left, and behind a proper sum no
operator of products either, since the operand before has taken them. -/
inductive Climbed (power : Nat) (start : List ExpressionToken) (left : Expression)
    (current : List ExpressionToken) : Prop
  | atom (spelled : Spells (.atom left) start current)
  | signed (spelled : Spells (.signed left) start current) (stops : StopsBelow 7 current)
  | product (low : power ≤ 3) (spelled : Spells (.product left) start current)
      (stops : StopsBelow 7 current)
  | sum (low : power ≤ 1) (spelled : Spells (.sum left) start current)
      (stops : StopsBelow 3 current)

namespace Climbed

variable {power : Nat} {start middle current : List ExpressionToken}
variable {left right : Expression} {operator : BinaryOperator}

/-- Whatever was reached is a sum, the loosest of the strata. -/
theorem spells_sum (climbed : Climbed power start left current) :
    Spells (.sum left) start current := by
  cases climbed with
  | atom spelled => exact .term (.factor spelled.signed_of_atom)
  | signed spelled _ => exact .term (.factor spelled)
  | product _ spelled _ => exact .term spelled
  | sum _ spelled _ => exact spelled

/-- What was reached counts as a phrase of the power of the climb. -/
theorem spells (climbed : Climbed power start left current) :
    Spells (.ofPower power left) start current := by
  unfold Phrase.ofPower
  split
  · exact climbed.spells_sum
  · next aboveSums =>
      split
      · cases climbed with
        | atom spelled => exact .factor spelled.signed_of_atom
        | signed spelled _ => exact .factor spelled
        | product _ spelled _ => exact spelled
        | sum low _ _ => exact absurd low aboveSums
      · next aboveProducts =>
          cases climbed with
          | atom spelled => exact spelled.signed_of_atom
          | signed spelled _ => exact spelled
          | product low _ _ => exact absurd low aboveProducts
          | sum low _ _ => exact absurd low aboveSums

/-- In front of an operator of products, what was reached is a product. -/
theorem product_of_multiplicative
    (climbed : Climbed power start left (.operator operator :: middle))
    (multiplicative : operator.isMultiplicative) :
    Spells (.product left) start (.operator operator :: middle) := by
  cases climbed with
  | atom spelled => exact .factor spelled.signed_of_atom
  | signed spelled _ => exact .factor spelled
  | product _ spelled _ => exact spelled
  | sum _ _ stops =>
      cases operator <;> simp [BinaryOperator.isMultiplicative] at multiplicative <;>
        simp [StopsBelow, BinaryOperator.leftPower] at stops

/-- In front of a power operator, what was reached is an atom. -/
theorem atom_of_power (climbed : Climbed power start left (.operator .power :: middle)) :
    Spells (.atom left) start (.operator .power :: middle) := by
  cases climbed with
  | atom spelled => exact spelled
  | signed _ stops | product _ _ stops | sum _ _ stops =>
      simp [StopsBelow, BinaryOperator.leftPower] at stops

/-- An operator and its right operand carry a climb on. -/
theorem extend (climbed : Climbed power start left (.operator operator :: middle))
    (binds : power ≤ operator.leftPower)
    (operand : Spells (.ofPower operator.rightPower right) middle current)
    (stops : StopsBelow operator.rightPower current) :
    Climbed power start (.binary operator left right) current := by
  cases operator with
  | add | subtract =>
      exact .sum binds (.added rfl climbed.spells_sum operand) (stops.mono (by decide))
  | multiply | divide | remainder =>
      exact .product binds (.times rfl (climbed.product_of_multiplicative rfl) operand)
        (stops.mono (by decide))
  | power =>
      exact .signed (.unsigned (.raised climbed.atom_of_power operand))
        (stops.mono (by decide))

end Climbed

/-- An operand is the beginning of a climb with any power. -/
theorem climbed_of_parseOperand (reads : ReadsPhrases parse) (power : Nat)
    {tokens behind : List PlacedToken} {expression : Expression}
    (parsed : parseOperand parse tokens = .ok (expression, behind)) :
    Climbed power (bare tokens) expression (bare behind) := by
  unfold parseOperand at parsed
  split at parsed
  · simp at parsed
  · next next rest =>
      rw [bare_cons]
      split at parsed
      · next isNumber =>
          obtain ⟨rfl, rfl⟩ := Prod.mk.inj (Except.ok.inj parsed)
          rw [isNumber]
          exact .atom (.number _ _)
      · next isName =>
          rw [isName]
          exact .atom (spells_of_parseName reads parsed)
      · next isMinus =>
          split at parsed
          · simp at parsed
          · next operand after signed =>
              obtain ⟨rfl, rfl⟩ := Prod.mk.inj (Except.ok.inj parsed)
              obtain ⟨spelled, stops⟩ := reads signPower _ _ _ signed
              rw [isMinus]
              exact .signed (.minus spelled) (stops.mono (by decide))
      · next isPlus =>
          obtain ⟨spelled, stops⟩ := reads signPower _ _ _ parsed
          rw [isPlus]
          exact .signed (.plus spelled) (stops.mono (by decide))
      · next isOpening =>
          rw [isOpening]
          exact .atom (spells_of_parseParenthesized reads parsed)
      · simp [unexpected] at parsed

/-- A climb ends at a phrase of its power, in front of no operator of that power.  The
bound is no reason to end, as every operator takes a token. -/
theorem spells_of_climb (reads : ReadsPhrases parse) {power bound : Nat}
    {start : List ExpressionToken} {left expression : Expression}
    {tokens behind : List PlacedToken}
    (climbed : Climbed power start left (bare tokens)) (enough : tokens.length ≤ bound)
    (parsed : climb parse power bound left tokens = .ok (expression, behind)) :
    Spells (.ofPower power expression) start (bare behind) ∧ StopsBelow power (bare behind) := by
  induction bound generalizing left tokens with
  | zero =>
      have noTokens : tokens = [] := List.length_eq_zero_iff.mp (Nat.le_zero.mp enough)
      subst noTokens
      simp only [climb, Except.ok.injEq, Prod.mk.injEq] at parsed
      obtain ⟨rfl, rfl⟩ := parsed
      exact ⟨climbed.spells, trivial⟩
  | succ bound ih =>
      cases tokens with
      | nil =>
          simp only [climb, Except.ok.injEq, Prod.mk.injEq] at parsed
          obtain ⟨rfl, rfl⟩ := parsed
          exact ⟨climbed.spells, trivial⟩
      | cons next rest =>
          simp only [climb] at parsed
          split at parsed
          · next operator isOperator =>
              split at parsed
              · next weaker =>
                  obtain ⟨rfl, rfl⟩ := Prod.mk.inj (Except.ok.inj parsed)
                  refine ⟨climbed.spells, ?_⟩
                  rw [bare_cons, isOperator]
                  exact weaker
              · next binds =>
                  split at parsed
                  · simp at parsed
                  · next right after operand =>
                      obtain ⟨spelled, stops⟩ := reads _ _ _ _ operand
                      rw [bare_cons, isOperator] at climbed
                      have shorter := spelled.length_rest_lt
                      simp only [length_bare] at shorter
                      simp only [List.length_cons] at enough
                      exact ih (climbed.extend (Nat.le_of_not_lt binds) spelled stops)
                        (by omega) parsed
          · next noOperator =>
              obtain ⟨rfl, rfl⟩ := Prod.mk.inj (Except.ok.inj parsed)
              refine ⟨climbed.spells, ?_⟩
              rw [bare_cons]
              unfold StopsBelow
              split
              · next operator _ same => exact absurd (List.cons.inj same).1 (noOperator operator)
              · trivial

/-- Whatever the depth, what is read is a phrase of the power that was asked for. -/
theorem readsPhrases_parseWithin (depth : Nat) : ReadsPhrases (parseWithin depth) := by
  induction depth with
  | zero =>
      intro power tokens expression behind parsed
      simp [parseWithin] at parsed
  | succ depth ih =>
      intro power tokens expression behind parsed
      simp only [parseWithin] at parsed
      split at parsed
      · simp at parsed
      · next first after operand =>
          exact spells_of_climb ih (climbed_of_parseOperand ih power operand) (Nat.le_refl _) parsed

end Expression

end BackOfEnvelope
