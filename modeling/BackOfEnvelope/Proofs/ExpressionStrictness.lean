import BackOfEnvelope.Proofs.Binary64Finiteness
import BackOfEnvelope.Proofs.ExpressionParts

/-!
# Strictness of evaluation

If a part of an expression fails, so does the expression, unless the part fails only
because its number is not finite.  That is looked at once, for the whole, so such a
number stays unnoticed where the operators around it make a finite one of it, as a
divisor or an argument of a minimum does.  It is noticed behind signs, sums,
differences, products, remainders, dividends, roots and magnitudes.
-/

namespace BackOfEnvelope

namespace BinaryOperator

/-- Whether a result is finite only if the left operand is. -/
def exposesLeft : BinaryOperator → Bool
  | .power => false
  | .add | .subtract | .multiply | .divide | .remainder => true

/-- Whether a result is finite only if the right operand is. -/
def exposesRight : BinaryOperator → Bool
  | .divide | .power => false
  | .add | .subtract | .multiply | .remainder => true

variable {operator : BinaryOperator} {a b result : Float}

theorem isFinite_left (exposes : operator.exposesLeft) (applied : operator.apply a b = .ok result)
    (finite : result.isFinite) : a.isFinite := by
  cases operator with
  | add =>
      cases applied
      exact (Binary64.isFinite_of_add finite).1
  | subtract =>
      cases applied
      exact (Binary64.isFinite_of_sub finite).1
  | multiply =>
      cases applied
      exact (Binary64.isFinite_of_mul finite).1
  | divide =>
      simp only [apply] at applied
      split at applied
      · cases applied
      · cases applied
        exact Binary64.isFinite_of_div finite
  | remainder =>
      simp only [apply] at applied
      split at applied
      · cases applied
      · cases applied
        exact (Binary64.isFinite_of_sub finite).1
  | power => cases exposes

theorem isFinite_right (exposes : operator.exposesRight)
    (applied : operator.apply a b = .ok result) (finite : result.isFinite) : b.isFinite := by
  cases operator with
  | add =>
      cases applied
      exact (Binary64.isFinite_of_add finite).2
  | subtract =>
      cases applied
      exact (Binary64.isFinite_of_sub finite).2
  | multiply =>
      cases applied
      exact (Binary64.isFinite_of_mul finite).2
  | remainder =>
      simp only [apply] at applied
      split at applied
      · cases applied
      · cases applied
        -- The divisor is a factor of what is taken from the dividend.
        exact (Binary64.isFinite_of_mul (Binary64.isFinite_of_sub finite).2).1
  | divide | power => cases exposes

end BinaryOperator

namespace Expression

variable {names : Namespace} {part whole : Expression} {result : Float}

/-- An expression cannot be evaluated. -/
def Fails (names : Namespace) (expression : Expression) : Prop :=
  ∃ error, expression.evaluate names = .error error

/-- An expression stands inside another one where it shows if its number is not finite. -/
inductive IsExposed (part : Expression) : Expression → Prop
  | whole : IsExposed part part
  | negated {operand : Expression} (inside : IsExposed part operand) :
      IsExposed part (.negate operand)
  | left {operator : BinaryOperator} {left right : Expression} (exposes : operator.exposesLeft)
      (inside : IsExposed part left) : IsExposed part (.binary operator left right)
  | right {operator : BinaryOperator} {left right : Expression} (exposes : operator.exposesRight)
      (inside : IsExposed part right) : IsExposed part (.binary operator left right)
  | root {operand : Expression} (inside : IsExposed part operand) :
      IsExposed part (.call "sqrt" [operand])
  | magnitude {operand : Expression} (inside : IsExposed part operand) :
      IsExposed part (.call "abs" [operand])

theorem value_single_call {function : String} {operand : Expression}
    (valued : value names (.call function [operand]) = .ok result) :
    ∃ number, value names operand = .ok number ∧
      applyFunction function [number] = .ok result := by
  simp only [value, argumentValues] at valued
  cases ofOperand : value names operand with
  | error error => simp [ofOperand] at valued
  | ok number =>
      simp only [ofOperand] at valued
      exact ⟨number, rfl, valued⟩

/-- An expression with a finite value has exposed parts with finite values only. -/
theorem exists_finite_value_of_isExposed (exposed : IsExposed part whole)
    (valued : value names whole = .ok result) (finite : result.isFinite) :
    ∃ number, value names part = .ok number ∧ number.isFinite := by
  induction exposed generalizing result with
  | whole => exact ⟨result, valued, finite⟩
  | negated _ ih =>
      simp only [value] at valued
      split at valued
      · cases valued
      · next operand ofOperand =>
          cases valued
          exact ih ofOperand (Binary64.isFinite_of_neg finite)
  | left exposes _ ih =>
      simp only [value] at valued
      split at valued
      · cases valued
      · next first ofLeft =>
          split at valued
          · cases valued
          · exact ih ofLeft (BinaryOperator.isFinite_left exposes valued finite)
  | right exposes _ ih =>
      simp only [value] at valued
      split at valued
      · cases valued
      · split at valued
        · cases valued
        · next second ofRight =>
            exact ih ofRight (BinaryOperator.isFinite_right exposes valued finite)
  | root _ ih =>
      obtain ⟨number, ofOperand, applied⟩ := value_single_call valued
      simp only [applyFunction, if_true] at applied
      split at applied
      · cases applied
      · cases applied
        exact ih ofOperand (Binary64.isFinite_of_sqrt finite)
  | magnitude _ ih =>
      obtain ⟨number, ofOperand, applied⟩ := value_single_call valued
      cases applied
      exact ih ofOperand (Binary64.isFinite_of_abs finite)

theorem evaluate_eq_ok_iff :
    whole.evaluate names = .ok result ↔ value names whole = .ok result ∧ result.isFinite := by
  constructor
  · exact value_of_evaluate
  · rintro ⟨valued, finite⟩
    simp only [evaluate, valued, finite, if_true]

theorem fails_of_forall_ne_ok
    (never : ∀ result, whole.evaluate names ≠ .ok result) : Fails names whole := by
  cases outcome : whole.evaluate names with
  | error error => exact ⟨error, outcome⟩
  | ok result => exact absurd outcome (never result)

theorem fails_of_isPart_iff :
    (∀ part, IsPart part whole → Fails names part → Fails names whole) ↔
      ∀ result, whole.evaluate names = .ok result →
        ∀ part number, IsPart part whole → value names part = .ok number → number.isFinite := by
  constructor
  · intro strict result succeeded part number inside valued
    cases finite : number.isFinite with
    | true => rfl
    | false =>
        have partFails : Fails names part := by
          refine ⟨.notFinite, ?_⟩
          simp only [evaluate, valued, finite, if_false, Bool.false_eq_true]
        obtain ⟨error, failed⟩ := strict part inside partFails
        rw [succeeded] at failed
        cases failed
  · rintro finite part inside ⟨error, failed⟩
    apply fails_of_forall_ne_ok
    intro result succeeded
    obtain ⟨number, valued⟩ := exists_value_of_isPart inside (value_of_evaluate succeeded).1
    have isFinite := finite result succeeded part number inside valued
    rw [evaluate_eq_ok_iff.mpr ⟨valued, isFinite⟩] at failed
    cases failed

theorem fails_of_isPart {error : ExpressionError} (inside : IsPart part whole)
    (failed : part.evaluate names = .error error) (otherError : error ≠ .notFinite) :
    Fails names whole := by
  apply fails_of_forall_ne_ok
  intro result succeeded
  obtain ⟨number, valued⟩ := exists_value_of_isPart inside (value_of_evaluate succeeded).1
  rcases value_of_evaluate_eq_error failed with own | ⟨same, -⟩
  · rw [valued] at own
    cases own
  · exact otherError same

theorem fails_of_isExposed (exposed : IsExposed part whole) (fails : Fails names part) :
    Fails names whole := by
  obtain ⟨error, failed⟩ := fails
  apply fails_of_forall_ne_ok
  intro result succeeded
  obtain ⟨valued, finite⟩ := value_of_evaluate succeeded
  obtain ⟨number, ofPart, isFinite⟩ := exists_finite_value_of_isExposed exposed valued finite
  rw [evaluate_eq_ok_iff.mpr ⟨ofPart, isFinite⟩] at failed
  cases failed

/-- Failures of all parts show in the whole just if the whole fails or all numbers of its parts
are finite.  Any error but that of a number that is not finite shows wherever it is, and
this one too if its part is exposed. -/
theorem fails_of_part_iff (names : Namespace) (whole : Expression) :
    ((∀ part, IsPart part whole → Fails names part → Fails names whole) ↔
      ∀ result, whole.evaluate names = .ok result →
        ∀ part number, IsPart part whole → value names part = .ok number → number.isFinite) ∧
    (∀ part error, IsPart part whole → part.evaluate names = .error error →
      error ≠ .notFinite → Fails names whole) ∧
    (∀ part, IsExposed part whole → Fails names part → Fails names whole) :=
  ⟨fails_of_isPart_iff, fun _ _ => fails_of_isPart, fun _ => fails_of_isExposed⟩

/-- The product of 1e308 and 10, which is too large for a finite number. -/
def tooLarge : Expression :=
  .binary .multiply (.number 1e308) (.number 10.0)

theorem evaluate_tooLarge (names : Namespace) :
    tooLarge.evaluate names = .error .notFinite := by
  have infinite : ((1e308 : Float) * 10.0).isFinite = false := by decide +kernel
  simp [tooLarge, evaluate, value, BinaryOperator.apply, infinite]

/-- A call without its argument shows behind a division, and a product that is too large
behind a sign. -/
theorem fails_of_missing_argument :
    let missing : Expression := .call "sqrt" []
    missing.evaluate Namespace.empty = .error (.arity "sqrt" .one 0) ∧
      Fails Namespace.empty (.binary .divide (.number 1.0) missing) ∧
      Fails Namespace.empty tooLarge ∧ Fails Namespace.empty (.negate tooLarge) := by
  intro missing
  have fails : Fails Namespace.empty tooLarge := ⟨.notFinite, evaluate_tooLarge _⟩
  refine ⟨rfl, ?_, fails, ?_⟩
  · exact (fails_of_part_iff Namespace.empty _).2.1 missing (.arity "sqrt" .one 0) (.right .whole)
      rfl (by simp)
  · exact (fails_of_part_iff Namespace.empty _).2.2 tooLarge (.negated .whole) fails

/-- A product that is too large does not show as a divisor: one divided by it is zero. -/
theorem not_fails_of_infinite_divisor :
    let whole : Expression := .binary .divide (.number 1.0) tooLarge
    IsPart tooLarge whole ∧ tooLarge.evaluate Namespace.empty = .error .notFinite ∧
      whole.evaluate Namespace.empty = .ok 0.0 ∧
      ¬ (Fails Namespace.empty tooLarge → Fails Namespace.empty whole) := by
  intro whole
  have partFails := evaluate_tooLarge Namespace.empty
  have wholeSucceeds : whole.evaluate Namespace.empty = .ok 0.0 := by
    have notZero : ((1e308 : Float) * 10.0 == 0.0) = false := by decide +kernel
    have quotient : (1.0 : Float) / (1e308 * 10.0) = 0.0 := by decide +kernel
    have finite : (0.0 : Float).isFinite := by decide +kernel
    simp [whole, tooLarge, evaluate, value, BinaryOperator.apply, notZero, quotient, finite]
  refine ⟨.right .whole, partFails, wholeSucceeds, ?_⟩
  intro strict
  obtain ⟨error, failed⟩ := strict ⟨.notFinite, partFails⟩
  rw [wholeSucceeds] at failed
  cases failed

end Expression

end BackOfEnvelope
