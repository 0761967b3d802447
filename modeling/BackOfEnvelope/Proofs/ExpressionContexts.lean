import BackOfEnvelope.Proofs.ExpressionParts

/-!
# Places in expressions

A context is an expression with a hole in it.  Parts are evaluated from left to right, so
the hole is reached if everything to the left of it has a value.  Whatever fills a hole that is
reached lets the whole fail if it fails itself, with the same error; a hole that is not reached
may be filled with anything.  An expression fails just if some part that is reached fails although
its own parts have values.
-/

namespace BackOfEnvelope

namespace Expression

/-- An expression with a hole. -/
inductive Context where
  | hole
  | inNegation (inside : Context)
  | inLeft (operator : BinaryOperator) (inside : Context) (right : Expression)
  | inRight (operator : BinaryOperator) (left : Expression) (inside : Context)
  | inArgument (function : String) (before : List Expression) (inside : Context)
      (after : List Expression)

namespace Context

def fill (part : Expression) : Context → Expression
  | hole => part
  | inNegation inside => .negate (inside.fill part)
  | inLeft operator inside right => .binary operator (inside.fill part) right
  | inRight operator left inside => .binary operator left (inside.fill part)
  | inArgument function before inside after => .call function (before ++ inside.fill part :: after)

/-- All that is evaluated before the hole has a value. -/
def IsReached (names : Namespace) : Context → Prop
  | hole => True
  | inNegation inside | inLeft _ inside _ => inside.IsReached names
  | inRight _ left inside => (∃ number, value names left = .ok number) ∧ inside.IsReached names
  | inArgument _ before inside _ =>
      (∃ numbers, argumentValues names before = .ok numbers) ∧ inside.IsReached names

theorem isPart_fill (context : Context) (part : Expression) : IsPart part (context.fill part) := by
  induction context with
  | hole => exact .whole
  | inNegation inside ih => exact .negated ih
  | inLeft operator inside right ih => exact .left ih
  | inRight operator left inside ih => exact .right ih
  | inArgument function before inside after ih =>
      exact .argument (List.mem_append_right _ List.mem_cons_self) ih

end Context

variable {names : Namespace} {part other whole : Expression} {error : ExpressionError}

/-- Wherever a part stands, it fills the hole of a context. -/
theorem isPart_iff_exists_fill :
    IsPart part whole ↔ ∃ context, whole = Context.fill part context := by
  constructor
  · intro inside
    induction inside with
    | whole => exact ⟨.hole, rfl⟩
    | negated _ ih =>
        obtain ⟨context, rfl⟩ := ih
        exact ⟨.inNegation context, rfl⟩
    | @left operator _ right _ ih =>
        obtain ⟨context, rfl⟩ := ih
        exact ⟨.inLeft operator context right, rfl⟩
    | @right operator left _ _ ih =>
        obtain ⟨context, rfl⟩ := ih
        exact ⟨.inRight operator left context, rfl⟩
    | @argument function _ _ member _ ih =>
        obtain ⟨context, rfl⟩ := ih
        obtain ⟨before, after, rfl⟩ := List.append_of_mem member
        exact ⟨.inArgument function before context after, rfl⟩
  · rintro ⟨context, rfl⟩
    exact context.isPart_fill part

/-! ### Arguments -/

theorem argumentValues_append (names : Namespace) (before rest : List Expression) :
    argumentValues names (before ++ rest) =
      match argumentValues names before with
      | .error error => .error error
      | .ok numbers =>
          match argumentValues names rest with
          | .error error => .error error
          | .ok others => .ok (numbers ++ others) := by
  induction before with
  | nil => cases ofRest : argumentValues names rest <;> simp [argumentValues, ofRest]
  | cons head tail ih =>
      simp only [List.cons_append, argumentValues, ih]
      cases value names head <;> cases argumentValues names tail <;>
        cases argumentValues names rest <;> rfl

/-- Arguments fail at the first one that fails. -/
theorem exists_failing_argument {arguments : List Expression}
    (failed : argumentValues names arguments = .error error) :
    ∃ before failing after, arguments = before ++ failing :: after ∧
      (∃ numbers, argumentValues names before = .ok numbers) ∧
      value names failing = .error error := by
  induction arguments with
  | nil => cases failed
  | cons head rest ih =>
      cases ofHead : value names head with
      | error own =>
          simp only [argumentValues, ofHead] at failed
          cases failed
          exact ⟨[], head, rest, rfl, ⟨[], rfl⟩, ofHead⟩
      | ok first =>
          simp only [argumentValues, ofHead] at failed
          cases ofRest : argumentValues names rest with
          | ok others => simp [ofRest] at failed
          | error own =>
              rw [ofRest] at failed
              cases failed
              obtain ⟨before, failing, after, rfl, ⟨numbers, valued⟩, fails⟩ := ih ofRest
              refine ⟨head :: before, failing, after, rfl, ⟨first :: numbers, ?_⟩, fails⟩
              simp only [argumentValues, ofHead, valued]

theorem length_argumentValues {arguments : List Expression} {numbers : List Float}
    (valued : argumentValues names arguments = .ok numbers) :
    numbers.length = arguments.length := by
  induction arguments generalizing numbers with
  | nil =>
      cases valued
      rfl
  | cons head rest ih =>
      simp only [argumentValues] at valued
      split at valued
      · cases valued
      · split at valued
        · cases valued
        · next others ofRest =>
            cases valued
            rw [List.length_cons, List.length_cons, ih ofRest]

/-! ### Filling the hole -/

namespace Context

/-- Only the value of what fills the hole matters. -/
theorem value_fill_congr (context : Context) (same : value names part = value names other) :
    value names (context.fill part) = value names (context.fill other) := by
  induction context with
  | hole => exact same
  | inNegation inside ih | inLeft _ inside _ ih | inRight _ _ inside ih =>
      simp only [fill, value, ih]
  | inArgument function before inside after ih =>
      simp only [fill, value, argumentValues_append, argumentValues, ih]

theorem value_fill_of_error {context : Context} (reached : context.IsReached names)
    (failed : value names part = .error error) :
    value names (context.fill part) = .error error := by
  induction context with
  | hole => exact failed
  | inNegation inside ih => simp only [fill, value, ih reached]
  | inLeft operator inside right ih => simp only [fill, value, ih reached]
  | inRight operator left inside ih =>
      obtain ⟨⟨number, ofLeft⟩, reachedInside⟩ := reached
      simp only [fill, value, ofLeft, ih reachedInside]
  | inArgument function before inside after ih =>
      obtain ⟨⟨numbers, valued⟩, reachedInside⟩ := reached
      simp only [fill, value, argumentValues_append, argumentValues, valued, ih reachedInside]

/-- What stands in front of a hole that is not reached fails, whatever fills the hole. -/
theorem exists_error_of_not_isReached {context : Context} (unreached : ¬ context.IsReached names) :
    ∃ error, ∀ part, value names (context.fill part) = .error error := by
  induction context with
  | hole => exact absurd trivial unreached
  | inNegation inside ih | inLeft operator inside right ih =>
      obtain ⟨error, failed⟩ := ih unreached
      exact ⟨error, fun part => by simp only [fill, value, failed]⟩
  | inRight operator left inside ih =>
      cases ofLeft : value names left with
      | error error => exact ⟨error, fun part => by simp only [fill, value, ofLeft]⟩
      | ok number =>
          have unreachedInside : ¬ inside.IsReached names := fun reached =>
            unreached ⟨⟨number, ofLeft⟩, reached⟩
          obtain ⟨error, failed⟩ := ih unreachedInside
          exact ⟨error, fun part => by simp only [fill, value, ofLeft, failed]⟩
  | inArgument function before inside after ih =>
      cases valued : argumentValues names before with
      | error error =>
          refine ⟨error, fun part => ?_⟩
          simp only [fill, value, argumentValues_append, valued]
      | ok numbers =>
          have unreachedInside : ¬ inside.IsReached names := fun reached =>
            unreached ⟨⟨numbers, valued⟩, reached⟩
          obtain ⟨error, failed⟩ := ih unreachedInside
          refine ⟨error, fun part => ?_⟩
          simp only [fill, value, argumentValues_append, argumentValues, valued, failed]

end Context

/-! ### Origins of failures -/

/-- An expression fails although its parts have values. -/
inductive FailsItself (names : Namespace) : Expression → ExpressionError → Prop
  | atVariable {name : String} {error : ExpressionError}
      (failed : lookUp names name = .error error) : FailsItself names (.variable name) error
  | atOperator {operator : BinaryOperator} {left right : Expression} {a b : Float}
      {error : ExpressionError} (ofLeft : value names left = .ok a)
      (ofRight : value names right = .ok b) (failed : operator.apply a b = .error error) :
      FailsItself names (.binary operator left right) error
  | atCall {function : String} {arguments : List Expression} {numbers : List Float}
      {error : ExpressionError} (valued : argumentValues names arguments = .ok numbers)
      (failed : applyFunction function numbers = .error error) :
      FailsItself names (.call function arguments) error

theorem FailsItself.value_eq_error (fails : FailsItself names part error) :
    value names part = .error error := by
  cases fails with
  | atVariable failed => exact failed
  | atOperator ofLeft ofRight failed => simp only [value, ofLeft, ofRight, failed]
  | atCall valued failed => simp only [value, valued, failed]

theorem exists_origin (failed : value names whole = .error error) :
    ∃ context part, whole = Context.fill part context ∧ context.IsReached names ∧
      FailsItself names part error := by
  induction whole using inductionOnParts with
  | number constant => cases failed
  | named name => exact ⟨.hole, _, rfl, trivial, .atVariable failed⟩
  | negate operand ih =>
      cases ofOperand : value names operand with
      | ok number => simp [value, ofOperand] at failed
      | error own =>
          simp only [value, ofOperand] at failed
          cases failed
          obtain ⟨context, part, rfl, reached, fails⟩ := ih ofOperand
          exact ⟨.inNegation context, part, rfl, reached, fails⟩
  | binary operator left right leftIH rightIH =>
      cases ofLeft : value names left with
      | error own =>
          simp only [value, ofLeft] at failed
          cases failed
          obtain ⟨context, part, rfl, reached, fails⟩ := leftIH ofLeft
          exact ⟨.inLeft operator context right, part, rfl, reached, fails⟩
      | ok a =>
          cases ofRight : value names right with
          | error own =>
              simp only [value, ofLeft, ofRight] at failed
              cases failed
              obtain ⟨context, part, rfl, reached, fails⟩ := rightIH ofRight
              exact ⟨.inRight operator left context, part, rfl, ⟨⟨a, ofLeft⟩, reached⟩, fails⟩
          | ok b =>
              simp only [value, ofLeft, ofRight] at failed
              exact ⟨.hole, _, rfl, trivial, .atOperator ofLeft ofRight failed⟩
  | call function arguments ih =>
      cases valued : argumentValues names arguments with
      | ok numbers =>
          simp only [value, valued] at failed
          exact ⟨.hole, _, rfl, trivial, .atCall valued failed⟩
      | error own =>
          simp only [value, valued] at failed
          cases failed
          obtain ⟨before, failing, after, rfl, valuedBefore, fails⟩ :=
            exists_failing_argument valued
          have member : failing ∈ before ++ failing :: after :=
            List.mem_append_right _ List.mem_cons_self
          obtain ⟨context, part, rfl, reached, failsItself⟩ := ih failing member fails
          exact ⟨.inArgument function before context after, part, rfl, ⟨valuedBefore, reached⟩,
            failsItself⟩

/-- An expression fails just if some part that is reached fails itself. -/
theorem value_eq_error_iff :
    value names whole = .error error ↔
      ∃ context part, whole = Context.fill part context ∧ context.IsReached names ∧
        FailsItself names part error := by
  constructor
  · exact exists_origin
  · rintro ⟨context, part, rfl, reached, fails⟩
    exact context.value_fill_of_error reached fails.value_eq_error

end Expression

end BackOfEnvelope
