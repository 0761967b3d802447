import BackOfEnvelope.Proofs.ExpressionContexts

/-!
# Two spellings of a power

A power is written with an operator or as a call.  The operator refuses zero with a negative
exponent, and the call does not, so there the spellings differ: unless something in front of the
power fails, the operator lets the whole fail, while the call goes on with whatever number it has.
For all other operands, failing ones included, one spelling may stand for the other anywhere.
-/

namespace BackOfEnvelope

namespace Expression

variable {names : Namespace} {base exponent : Expression} {context : Context}

/-- A base is zero, and its exponent is negative. -/
def RaisesZero (names : Namespace) (base exponent : Expression) : Prop :=
  ∃ a b, value names base = .ok a ∧ value names exponent = .ok b ∧ a == 0.0 ∧ b < 0.0

/-- A power, written as a call. -/
def calledPower (base exponent : Expression) : Expression :=
  .call "pow" [base, exponent]

/-- A power, written with the operator. -/
def writtenPower (base exponent : Expression) : Expression :=
  .binary .power base exponent

theorem value_calledPower_of_not_raisesZero (ordinary : ¬ RaisesZero names base exponent) :
    value names (calledPower base exponent) = value names (writtenPower base exponent) := by
  cases ofBase : value names base with
  | error error => simp only [calledPower, writtenPower, value, argumentValues, ofBase]
  | ok a =>
      cases ofExponent : value names exponent with
      | error error =>
          simp only [calledPower, writtenPower, value, argumentValues, ofBase, ofExponent]
      | ok b =>
          have unguarded : ¬ (a == 0.0 && b < 0.0) := by
            intro guarded
            rw [Bool.and_eq_true, decide_eq_true_eq] at guarded
            exact ordinary ⟨a, b, ofBase, ofExponent, guarded⟩
          simp only [calledPower, writtenPower, value, argumentValues, ofBase, ofExponent,
            BinaryOperator.apply, unguarded]
          rfl

theorem value_powers_of_raisesZero (raisesZero : RaisesZero names base exponent) :
    value names (writtenPower base exponent) = .error .divisionByZero ∧
      ∃ number, value names (calledPower base exponent) = .ok number := by
  obtain ⟨a, b, ofBase, ofExponent, isZero, isNegative⟩ := raisesZero
  constructor
  · simp only [writtenPower, value, ofBase, ofExponent, BinaryOperator.apply, isZero, isNegative]
    rfl
  · refine ⟨Float.pow a b, ?_⟩
    simp only [calledPower, value, argumentValues, ofBase, ofExponent]
    rfl

theorem evaluate_fill_writtenPower_of_raisesZero (raisesZero : RaisesZero names base exponent)
    (reached : context.IsReached names) :
    (context.fill (writtenPower base exponent)).evaluate names = .error .divisionByZero := by
  have failed := Context.value_fill_of_error reached (value_powers_of_raisesZero raisesZero).1
  simp only [evaluate, failed]

/-- A called power may be written with the operator, wherever it stands, just if it is no power of
zero with a negative exponent, or is not reached, or divides by zero as it is. -/
theorem evaluate_calledPower_iff (context : Context) (base exponent : Expression)
    (names : Namespace) :
    ((context.fill (calledPower base exponent)).evaluate names =
        (context.fill (writtenPower base exponent)).evaluate names ↔
      (RaisesZero names base exponent → context.IsReached names →
        (context.fill (calledPower base exponent)).evaluate names = .error .divisionByZero)) ∧
    (RaisesZero names base exponent →
      (∃ number, value names (calledPower base exponent) = .ok number) ∧
      (context.IsReached names →
        (context.fill (writtenPower base exponent)).evaluate names = .error .divisionByZero)) := by
  constructor
  · constructor
    · intro same raisesZero reached
      rw [same, evaluate_fill_writtenPower_of_raisesZero raisesZero reached]
    · intro fails
      by_cases raisesZero : RaisesZero names base exponent
      · by_cases reached : context.IsReached names
        · rw [fails raisesZero reached,
            evaluate_fill_writtenPower_of_raisesZero raisesZero reached]
        · -- What fails in front of the power does so in either spelling.
          obtain ⟨error, failed⟩ := Context.exists_error_of_not_isReached reached
          simp only [evaluate, failed]
      · have same := value_calledPower_of_not_raisesZero raisesZero
        simp only [evaluate, context.value_fill_congr same]
  · intro raisesZero
    exact ⟨(value_powers_of_raisesZero raisesZero).2,
      evaluate_fill_writtenPower_of_raisesZero raisesZero⟩

/-- A power of zero with a positive exponent, and one that is not reached. -/
theorem evaluate_calledPower_of_positive_exponent :
    let names := Namespace.empty.set "x" 0.0
    let doubled : Context := .inRight .multiply (.number 2.0) .hole
    let behindMissing : Context := .inRight .multiply (.variable "y") .hole
    let opposite : Expression := .negate (.number 1.0)
    (doubled.fill (calledPower (.variable "x") (.number 3.0))).evaluate names =
        (doubled.fill (writtenPower (.variable "x") (.number 3.0))).evaluate names ∧
      RaisesZero names (.variable "x") opposite ∧
      (behindMissing.fill (calledPower (.variable "x") opposite)).evaluate names =
        (behindMissing.fill (writtenPower (.variable "x") opposite)).evaluate names := by
  intro names doubled behindMissing opposite
  refine ⟨?_, ⟨0.0, -1.0, rfl, rfl, by decide +kernel, by decide +kernel⟩, ?_⟩
  · refine (evaluate_calledPower_iff doubled _ _ names).1.mpr ?_
    rintro ⟨a, b, -, ofExponent, -, isNegative⟩
    cases ofExponent
    exact absurd isNegative (by decide +kernel)
  · refine (evaluate_calledPower_iff behindMissing _ _ names).1.mpr ?_
    rintro - ⟨⟨number, ofMissing⟩, -⟩
    cases ofMissing

/-- The powers of zero with the exponent minus one: the operator divides by zero, the call does
not. -/
theorem evaluate_calledPower_ne_of_zero :
    let base : Expression := .number 0.0
    let exponent : Expression := .negate (.number 1.0)
    (writtenPower base exponent).evaluate Namespace.empty = .error .divisionByZero ∧
      (calledPower base exponent).evaluate Namespace.empty ≠
        (writtenPower base exponent).evaluate Namespace.empty := by
  intro base exponent
  have isZero : (0.0 : Float) == 0.0 := by decide +kernel
  have isNegative : (-1.0 : Float) < 0.0 := by decide +kernel
  have raisesZero : RaisesZero Namespace.empty base exponent :=
    ⟨0.0, -1.0, rfl, rfl, isZero, isNegative⟩
  obtain ⟨failed, number, valued⟩ := value_powers_of_raisesZero raisesZero
  have written : (writtenPower base exponent).evaluate Namespace.empty =
      .error .divisionByZero := by simp only [evaluate, failed]
  refine ⟨written, ?_⟩
  rw [written]
  simp only [evaluate, valued]
  split
  · intro same
    cases same
  · intro same
    cases same

end Expression

end BackOfEnvelope
