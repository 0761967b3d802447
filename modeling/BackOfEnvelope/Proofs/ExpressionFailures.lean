import BackOfEnvelope.Proofs.ExpressionContexts
import BackOfEnvelope.Proofs.ExpressionVariables

/-!
# What an evaluation depends on

The result of an expression, be it a value or an error, depends on the bindings of its
variables only.  An error is of one of three kinds: it names the first variable without a number,
or a call that is wrong whatever its arguments are, or it is about a number with which the
arithmetic cannot go on.  An expression that was evaluated once has no such call, so where its
variables have numbers it can only fail in its arithmetic.
-/

namespace BackOfEnvelope

namespace ExpressionError

/-- The error is about a call, whatever its arguments are. -/
def IsStructural : ExpressionError → Prop
  | .unknownFunction _ | .arity _ _ _ => True
  | .unexpectedCharacter _ _ | .invalidNumber _ | .unexpectedEnd | .unexpectedToken _ _
  | .unknownVariable _ | .noValue _ | .divisionByZero | .negativeSquareRoot _ | .notFinite => False

/-- The error is about a number that was computed. -/
def IsArithmetic : ExpressionError → Prop
  | .divisionByZero | .negativeSquareRoot _ | .notFinite => True
  | .unexpectedCharacter _ _ | .invalidNumber _ | .unexpectedEnd | .unexpectedToken _ _
  | .unknownVariable _ | .noValue _ | .unknownFunction _ | .arity _ _ _ => False

theorem not_isStructural_of_isArithmetic {error : ExpressionError}
    (isArithmetic : error.IsArithmetic) : ¬ error.IsStructural := by
  cases error with
  | divisionByZero | negativeSquareRoot _ | notFinite => exact id
  | unexpectedCharacter _ _ | invalidNumber _ | unexpectedEnd | unexpectedToken _ _
  | unknownVariable _ | noValue _ | unknownFunction _ | arity _ _ _ => cases isArithmetic

end ExpressionError

def ArgumentCount.Allows (found : Nat) : ArgumentCount → Prop
  | .one => found = 1
  | .two => found = 2
  | .oneOrTwo => found = 1 ∨ found = 2
  | .oneOrMore => 0 < found

namespace Namespace

/-- A name is absent or bound to no value. -/
def lacksNumber (names : Namespace) (name : String) : Bool :=
  (names.number? name).isNone

variable {names : Namespace} {name : String}

theorem lacksNumber_eq_false_iff :
    names.lacksNumber name = false ↔ ∃ number, names.binding name = some (some number) := by
  simp [lacksNumber, number?, Option.isSome_iff_exists, Option.join_eq_some_iff]

theorem lacksNumber_of_lookUp {error : ExpressionError}
    (failed : Expression.lookUp names name = .error error) : names.lacksNumber name := by
  unfold Expression.lookUp at failed
  split at failed
  · cases failed
  · next bound => simp [lacksNumber, number?, bound]
  · next absent => simp [lacksNumber, number?, absent]

end Namespace

namespace Expression

variable {names : Namespace} {whole : Expression} {error : ExpressionError}
variable {name function : String} {numbers : List Float} {result : Float}

/-! ### Calls -/

/-- How many arguments a function takes, if there is such a function. -/
def argumentCount? : String → Option ArgumentCount
  | "sqrt" | "abs" => some .one
  | "pow" => some .two
  | "round" => some .oneOrTwo
  | "min" | "max" => some .oneOrMore
  | _ => none

/-- There is such a function, and it takes that many arguments. -/
def Accepts (function : String) (found : Nat) : Prop :=
  ∃ expected, argumentCount? function = some expected ∧ expected.Allows found

theorem applyFunction_of_none (unknown : argumentCount? function = none) (numbers : List Float) :
    applyFunction function numbers = .error (.unknownFunction function) := by
  unfold argumentCount? at unknown
  split at unknown <;> try cases unknown
  next notRoot notMagnitude notPower notRound notLeast notGreatest =>
    unfold applyFunction
    rw [if_neg notRoot, if_neg notMagnitude, if_neg notPower, if_neg notRound, if_neg notLeast,
      if_neg notGreatest]

theorem applyFunction_of_some {expected : ArgumentCount}
    (known : argumentCount? function = some expected) (numbers : List Float) :
    (expected.Allows numbers.length ∧
      ∀ error, applyFunction function numbers = .error error → error.IsArithmetic) ∨
    (¬ expected.Allows numbers.length ∧
      applyFunction function numbers = .error (.arity function expected numbers.length)) := by
  unfold argumentCount? at known
  split at known <;> cases known
  · match numbers with
    | [x] =>
        refine .inl ⟨rfl, ?_⟩
        intro error failed
        simp only [applyFunction, if_true] at failed
        split at failed
        · cases failed
          trivial
        · cases failed
    | [] | _ :: _ :: _ => exact .inr ⟨by simp [ArgumentCount.Allows], rfl⟩
  · match numbers with
    | [x] => exact .inl ⟨rfl, nofun⟩
    | [] | _ :: _ :: _ => exact .inr ⟨by simp [ArgumentCount.Allows], rfl⟩
  · match numbers with
    | [base, exponent] => exact .inl ⟨rfl, nofun⟩
    | [] | [_] | _ :: _ :: _ :: _ => exact .inr ⟨by simp [ArgumentCount.Allows], rfl⟩
  · match numbers with
    | [x] => exact .inl ⟨.inl rfl, nofun⟩
    | [x, places] => exact .inl ⟨.inr rfl, nofun⟩
    | [] | _ :: _ :: _ :: _ => exact .inr ⟨by simp [ArgumentCount.Allows], rfl⟩
  · match numbers with
    | first :: rest => exact .inl ⟨Nat.succ_pos _, nofun⟩
    | [] => exact .inr ⟨Nat.lt_irrefl 0, rfl⟩
  · match numbers with
    | first :: rest => exact .inl ⟨Nat.succ_pos _, nofun⟩
    | [] => exact .inr ⟨Nat.lt_irrefl 0, rfl⟩

/-- A call that is not accepted fails for that reason, and any other one only in its arithmetic. -/
theorem applyFunction_cases (function : String) (numbers : List Float) :
    (Accepts function numbers.length ∧
      ∀ error, applyFunction function numbers = .error error → error.IsArithmetic) ∨
    (¬ Accepts function numbers.length ∧
      ∃ error, applyFunction function numbers = .error error ∧ error.IsStructural) := by
  cases known : argumentCount? function with
  | none =>
      refine .inr ⟨?_, _, applyFunction_of_none known numbers, trivial⟩
      rintro ⟨expected, found, -⟩
      rw [known] at found
      cases found
  | some expected =>
      rcases applyFunction_of_some known numbers with ⟨allowed, fails⟩ | ⟨refused, failed⟩
      · exact .inl ⟨⟨expected, known, allowed⟩, fails⟩
      · refine .inr ⟨?_, _, failed, trivial⟩
        rintro ⟨other, same, allowed⟩
        rw [known] at same
        cases same
        exact refused allowed

/-- Every call in an expression is of a function that takes that many arguments. -/
def CallsFit (expression : Expression) : Prop :=
  ∀ function arguments, IsPart (.call function arguments) expression →
    Accepts function arguments.length

theorem accepts_of_value {arguments : List Expression}
    (valued : value names (.call function arguments) = .ok result) :
    Accepts function arguments.length := by
  simp only [value] at valued
  split at valued
  · cases valued
  · next numbers ofArguments =>
      rw [← length_argumentValues ofArguments]
      rcases applyFunction_cases function numbers with ⟨accepted, -⟩ | ⟨-, error, failed, -⟩
      · exact accepted
      · rw [failed] at valued
        cases valued

theorem callsFit_of_value (valued : value names whole = .ok result) : CallsFit whole := by
  intro function arguments inside
  obtain ⟨number, ofCall⟩ := exists_value_of_isPart inside valued
  exact accepts_of_value ofCall

/-! ### Kinds of errors -/

theorem lookUp_eq_error (failed : lookUp names name = .error error) :
    (error = .unknownVariable name ∧ names.binding name = none) ∨
      (error = .noValue name ∧ names.binding name = some none) := by
  unfold lookUp at failed
  split at failed
  · cases failed
  · next bound =>
      cases failed
      exact .inr ⟨rfl, bound⟩
  · next absent =>
      cases failed
      exact .inl ⟨rfl, absent⟩

theorem isArithmetic_of_apply {operator : BinaryOperator} {a b : Float}
    (failed : operator.apply a b = .error error) : error.IsArithmetic := by
  cases operator with
  | add | subtract | multiply => cases failed
  | divide | remainder | power =>
      simp only [BinaryOperator.apply] at failed
      split at failed
      · cases failed
        trivial
      · cases failed

theorem exists_binding_of_mem_occurrences (valued : value names whole = .ok result)
    (occurs : name ∈ occurrences whole) :
    ∃ number, names.binding name = some (some number) :=
  exists_binding_of_isPart ((mem_occurrences_iff whole).mp occurs) valued

/-- All variables in front of a hole that is reached have numbers. -/
theorem Context.exists_occurrences_fill {context : Context} (reached : context.IsReached names)
    (part : Expression) :
    ∃ before after, occurrences (context.fill part) = before ++ occurrences part ++ after ∧
      ∀ name ∈ before, ∃ number, names.binding name = some (some number) := by
  induction context with
  | hole => exact ⟨[], [], by simp [fill], by simp⟩
  | inNegation inside ih => exact ih reached
  | inLeft operator inside right ih =>
      obtain ⟨before, after, divided, numbered⟩ := ih reached
      exact ⟨before, after ++ occurrences right, by simp [fill, occurrences, divided], numbered⟩
  | inRight operator left inside ih =>
      obtain ⟨⟨number, ofLeft⟩, reachedInside⟩ := reached
      obtain ⟨before, after, divided, numbered⟩ := ih reachedInside
      refine ⟨occurrences left ++ before, after, by simp [fill, occurrences, divided], ?_⟩
      rw [List.forall_mem_append]
      exact ⟨fun name occurs => exists_binding_of_mem_occurrences ofLeft occurs, numbered⟩
  | inArgument function arguments inside rest ih =>
      obtain ⟨⟨numbers, valued⟩, reachedInside⟩ := reached
      obtain ⟨before, after, divided, numbered⟩ := ih reachedInside
      refine ⟨arguments.flatMap occurrences ++ before, after ++ rest.flatMap occurrences,
        by simp [fill, occurrences, argumentOccurrences_eq_flatMap, divided], ?_⟩
      rw [List.forall_mem_append]
      refine ⟨?_, numbered⟩
      intro name member
      obtain ⟨argument, isArgument, occurs⟩ := List.mem_flatMap.mp member
      obtain ⟨number, ofArgument⟩ := exists_value_of_mem valued isArgument
      exact exists_binding_of_mem_occurrences ofArgument occurs

/-- Why an expression has no value. -/
inductive Cause (names : Namespace) (whole : Expression) (error : ExpressionError) : Prop
  /-- The first variable without a number. -/
  | missing (name : String) (first : whole.variableNames.find? names.lacksNumber = some name)
      (failed : lookUp names name = .error error)
  /-- A call that is wrong whatever its arguments are. -/
  | call (unfit : ¬ CallsFit whole) (isStructural : error.IsStructural)
  | arithmetic (isArithmetic : error.IsArithmetic)

theorem cause_of_value_eq_error (failed : value names whole = .error error) :
    Cause names whole error := by
  obtain ⟨context, part, rfl, reached, fails⟩ := value_eq_error_iff.mp failed
  cases fails with
  | @atVariable name _ missing =>
      refine .missing name ?_ missing
      obtain ⟨before, after, divided, numbered⟩ :=
        Context.exists_occurrences_fill reached (.variable name)
      rw [find?_variableNames, divided, List.append_assoc, List.find?_eq_some_iff_append]
      refine ⟨Namespace.lacksNumber_of_lookUp missing, before, after, rfl, ?_⟩
      intro earlier member
      rw [Namespace.lacksNumber_eq_false_iff.mpr (numbered earlier member)]
      rfl
  | atOperator _ _ failed => exact .arithmetic (isArithmetic_of_apply failed)
  | @atCall function arguments numbers _ valued failed =>
      rcases applyFunction_cases function numbers with
        ⟨-, fails⟩ | ⟨refused, other, same, isStructural⟩
      · exact .arithmetic (fails error failed)
      · rw [failed] at same
        cases same
        rw [length_argumentValues valued] at refused
        have inside : IsPart (.call function arguments)
            (Context.fill (.call function arguments) context) :=
          isPart_iff_exists_fill.mpr ⟨context, rfl⟩
        exact .call (fun fit => refused (fit function arguments inside)) isStructural

theorem cause_of_evaluate_eq_error (failed : whole.evaluate names = .error error) :
    Cause names whole error := by
  rcases value_of_evaluate_eq_error failed with own | ⟨notFinite, -⟩
  · exact cause_of_value_eq_error own
  · subst notFinite
    exact .arithmetic trivial

theorem exists_missing_of_evaluate_eq_error (failed : whole.evaluate names = .error error)
    (notStructural : ¬ error.IsStructural) (notArithmetic : ¬ error.IsArithmetic) :
    ∃ name, whole.variableNames.find? names.lacksNumber = some name ∧
      lookUp names name = .error error := by
  cases cause_of_evaluate_eq_error failed with
  | missing name first lookedUp => exact ⟨name, first, lookedUp⟩
  | call _ isStructural => exact absurd isStructural notStructural
  | arithmetic isArithmetic => exact absurd isArithmetic notArithmetic

theorem find?_lacksNumber_eq_none
    (numbered : ∀ name ∈ whole.variableNames, ∃ number, names.binding name = some (some number)) :
    whole.variableNames.find? names.lacksNumber = none := by
  rw [List.find?_eq_none]
  intro name member
  simp [Namespace.lacksNumber_eq_false_iff.mpr (numbered name member)]

/-! ### Results -/

/-- An evaluation sees a namespace through the listed variables, which are those that occur, each
once where it first does.  Where it fails for a variable, that is the first one of the list that
has no number, and so it does not where all of them have one. -/
theorem evaluate_coincidence (expression : Expression) :
    (∀ names others : Namespace,
      (∀ name ∈ expression.variableNames, names.binding name = others.binding name) →
        expression.evaluate names = expression.evaluate others) ∧
    expression.variableNames = expression.occurrences.eraseDups ∧
    expression.variableNames.Nodup ∧
    (∀ name, name ∈ expression.variableNames ↔ IsPart (.variable name) expression) ∧
    ∀ names : Namespace,
      (∀ name, expression.evaluate names = .error (.unknownVariable name) →
        expression.variableNames.find? names.lacksNumber = some name ∧
          names.binding name = none) ∧
      (∀ name, expression.evaluate names = .error (.noValue name) →
        expression.variableNames.find? names.lacksNumber = some name ∧
          names.binding name = some none) ∧
      ((∀ name ∈ expression.variableNames, ∃ number, names.binding name = some (some number)) →
        ∀ name, expression.evaluate names ≠ .error (.unknownVariable name) ∧
          expression.evaluate names ≠ .error (.noValue name)) := by
  refine ⟨?_, variableNames_eq_eraseDups expression, nodup_variableNames expression,
    fun name => mem_variableNames_iff expression, ?_⟩
  · intro names others alike
    apply evaluate_congr
    intro name inside
    exact alike name ((mem_variableNames_iff expression).mpr inside)
  · intro names
    refine ⟨?_, ?_, ?_⟩
    · intro name failed
      obtain ⟨missed, first, lookedUp⟩ := exists_missing_of_evaluate_eq_error failed id id
      rcases lookUp_eq_error lookedUp with ⟨same, absent⟩ | ⟨same, -⟩
      · cases same
        exact ⟨first, absent⟩
      · cases same
    · intro name failed
      obtain ⟨missed, first, lookedUp⟩ := exists_missing_of_evaluate_eq_error failed id id
      rcases lookUp_eq_error lookedUp with ⟨same, -⟩ | ⟨same, bound⟩
      · cases same
      · cases same
        exact ⟨first, bound⟩
    · intro numbered name
      have nothingMissing : ∀ error : ExpressionError, ¬ error.IsStructural →
          ¬ error.IsArithmetic → expression.evaluate names ≠ .error error := by
        intro error notStructural notArithmetic failed
        obtain ⟨missed, first, -⟩ :=
          exists_missing_of_evaluate_eq_error failed notStructural notArithmetic
        rw [find?_lacksNumber_eq_none numbered] at first
        cases first
      exact ⟨nothingMissing _ id id, nothingMissing _ id id⟩

/-- Of three variables the second one is bound to no value and the third one absent.  A name that
does not occur changes nothing. -/
theorem evaluate_of_pending_variable :
    let expression : Expression :=
      .binary .subtract
        (.binary .add (.binary .multiply (.variable "a") (.variable "b"))
          (.call "sqrt" [.variable "a"]))
        (.variable "c")
    let names := (Namespace.empty.set "a" 1.0).bind "b" none
    expression.variableNames = ["a", "b", "c"] ∧
      expression.evaluate names = .error (.noValue "b") ∧
      expression.variableNames.find? names.lacksNumber = some "b" ∧
      expression.evaluate (names.set "d" 2.0) = .error (.noValue "b") := by
  intro expression names
  obtain ⟨depends, -, -, -, missing⟩ := evaluate_coincidence expression
  have failed : expression.evaluate names = .error (.noValue "b") := rfl
  have alike : ∀ name ∈ expression.variableNames,
      (names.set "d" 2.0).binding name = names.binding name := by
    intro name member
    have other : "d" ≠ name := by
      rintro rfl
      revert member
      decide
    simp [Namespace.set, Namespace.binding_bind, other]
  exact ⟨rfl, failed, ((missing names).2.1 "b" failed).1, (depends _ _ alike).trans failed⟩

/-- An expression that was evaluated once never fails for its calls, and only in its arithmetic
where all its variables have numbers. -/
theorem evaluate_of_evaluated (succeeded : whole.evaluate names = .ok result)
    (others : Namespace) :
    (∀ error, whole.evaluate others = .error error → ¬ error.IsStructural) ∧
    ((∀ name ∈ whole.variableNames, ∃ number, others.binding name = some (some number)) →
      ∀ error, whole.evaluate others = .error error → error.IsArithmetic) := by
  have fit : CallsFit whole := callsFit_of_value (value_of_evaluate succeeded).1
  constructor
  · intro error failed
    cases cause_of_evaluate_eq_error failed with
    | missing name _ lookedUp =>
        rcases lookUp_eq_error lookedUp with ⟨rfl, -⟩ | ⟨rfl, -⟩
        · exact id
        · exact id
    | call unfit _ => exact absurd fit unfit
    | arithmetic isArithmetic =>
        exact ExpressionError.not_isStructural_of_isArithmetic isArithmetic
  · intro numbered error failed
    cases cause_of_evaluate_eq_error failed with
    | missing name first _ =>
        rw [find?_lacksNumber_eq_none numbered] at first
        cases first
    | call unfit _ => exact absurd fit unfit
    | arithmetic isArithmetic => exact isArithmetic

/-- The magnitude of a quotient was evaluated once, and fails when its divisor changes to zero. -/
theorem evaluate_of_zero_divisor :
    let expression : Expression :=
      .call "abs" [.binary .divide (.number 10.0) (.variable "parts")]
    let names := Namespace.empty.set "parts" 4.0
    let others := Namespace.empty.set "parts" 0.0
    expression.evaluate names = .ok (Float.abs (10.0 / 4.0)) ∧
      expression.evaluate others = .error .divisionByZero ∧
      ∀ error, expression.evaluate others = .error error → error.IsArithmetic := by
  intro expression names others
  have notZero : ((4.0 : Float) == 0.0) = false := by decide +kernel
  have isZero : ((0.0 : Float) == 0.0) = true := by decide +kernel
  have finite : (Float.abs (10.0 / 4.0)).isFinite := by decide +kernel
  have succeeded : expression.evaluate names = .ok (Float.abs (10.0 / 4.0)) := by
    have valued : value names expression = .ok (Float.abs (10.0 / 4.0)) := by
      simp [expression, names, value, argumentValues, lookUp, Namespace.set,
        Namespace.binding_bind, BinaryOperator.apply, notZero, applyFunction]
    simp only [evaluate, valued, finite, if_true]
  have failed : expression.evaluate others = .error .divisionByZero := by
    simp [expression, others, evaluate, value, argumentValues, lookUp, Namespace.set,
      Namespace.binding_bind, BinaryOperator.apply, isZero]
  have numbered : ∀ name ∈ expression.variableNames,
      ∃ number, others.binding name = some (some number) := by
    intro name member
    obtain rfl := List.mem_singleton.mp member
    exact ⟨0.0, rfl⟩
  exact ⟨succeeded, failed, (evaluate_of_evaluated succeeded others).2 numbered⟩

end Expression

end BackOfEnvelope
