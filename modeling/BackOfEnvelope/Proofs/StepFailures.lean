import BackOfEnvelope.Proofs.PipelineReads

/-!
# How a step fails

A step with a function looks at its operands in a fixed order: first it counts them,
then it looks for a divisor of zero, then for an operand that is no number, and last at
the numbers themselves.  The first fault that it finds is its error, and if there is
none, it has a number.  Only the operands that the function uses are looked at, and
each of them is there when it is looked at.
-/

namespace BackOfEnvelope

namespace StepFunction

/-- The number at a place of a list of operands, if there is one. -/
def numberAt? (operands : List ResolvedOperand) (place : Nat) : Option Float :=
  match operands[place]? with
  | some (.number value) => some value
  | _ => none

/-- The function is a quotient, and its second operand is a number equal to zero. -/
def DividesByZero (function : StepFunction) (operands : List ResolvedOperand) : Prop :=
  (function = .divide ∨ function = .percentOf) ∧
    ∃ divisor, numberAt? operands 1 = some divisor ∧ divisor == 0.0

/-- The causes for which a step with a function fails, each with the error that tells it. -/
inductive FailsWith (step : Nat) (function : StepFunction) (operands : List ResolvedOperand) :
    PipelineError → Prop where
  /-- There are fewer operands than the function uses. -/
  | missingArgument (few : operands.length < function.arity) :
      FailsWith step function operands (.missingArgument step function operands.length)
  /-- No operand is missing, the divisor is not zero, and this is the first of the operands
  that the function uses without a number. -/
  | notANumber {place : Nat} {operand : ResolvedOperand}
      (enough : function.arity ≤ operands.length) (noZero : ¬ DividesByZero function operands)
      (used : place < function.arity) (given : operands[place]? = some operand)
      (numberless : numberAt? operands place = none)
      (first : ∀ earlier < place, (numberAt? operands earlier).isSome) :
      FailsWith step function operands (.notANumber step function place operand.shown)
  /-- The function is the square root, of a number below zero. -/
  | negativeSquareRoot {value : Float} (root : function = .squareRoot)
      (given : numberAt? operands 0 = some value) (negative : value < 0.0) :
      FailsWith step function operands (.negativeSquareRoot step value)
  /-- The function is the power, of finite numbers, and has no finite number. -/
  | powerDomain {base exponent : Float} (power : function = .power)
      (givenBase : numberAt? operands 0 = some base)
      (givenExponent : numberAt? operands 1 = some exponent) (finiteBase : base.isFinite)
      (finiteExponent : exponent.isFinite) (infinite : ¬ (Float.pow base exponent).isFinite) :
      FailsWith step function operands (.powerDomain step base exponent)

variable {step place : Nat} {function : StepFunction} {error : PipelineError}
variable {operand first second : ResolvedOperand} {operands rest : List ResolvedOperand}

@[simp]
theorem numberAt?_zero :
    numberAt? (first :: rest) 0 = match first with | .number value => some value | _ => none := by
  cases first <;> rfl

@[simp]
theorem numberAt?_succ : numberAt? (first :: rest) (place + 1) = numberAt? rest place := by
  simp [numberAt?]

theorem isSome_numberAt?_zero_iff :
    (numberAt? (first :: rest) 0).isSome ↔ ∃ value, first = .number value := by
  cases first <;> simp

theorem guardsZero_iff : function.guardsZero ↔ function = .divide ∨ function = .percentOf := by
  cases function <;> simp [guardsZero]

theorem isZero_iff : operand.isZero ↔ ∃ value, operand = .number value ∧ value == 0.0 := by
  cases operand <;> simp [ResolvedOperand.isZero]

theorem dividesByZero_cons_cons :
    DividesByZero function (first :: second :: rest) ↔
      function.guardsZero && second.isZero := by
  rw [Bool.and_eq_true, guardsZero_iff, isZero_iff, DividesByZero, numberAt?_succ, numberAt?_zero]
  cases second <;> simp

theorem applyNumbers_eq_error_iff {a b : Float} :
    applyNumbers step function a b = .error error ↔
      function = .power ∧ a.isFinite ∧ b.isFinite ∧ ¬ (Float.pow a b).isFinite ∧
        error = .powerDomain step a b := by
  cases function with
  | power =>
      simp only [applyNumbers, true_and]
      split
      · next outside =>
          obtain ⟨⟨infinite, finiteBase⟩, finiteExponent⟩ :
              ((Float.pow a b).isFinite = false ∧ a.isFinite) ∧ b.isFinite := by
            simpa using outside
          simp [infinite, finiteBase, finiteExponent, eq_comm]
      · next inside =>
          simp only [reduceCtorEq, false_iff]
          rintro ⟨finiteBase, finiteExponent, infinite, -⟩
          exact inside (by simp [infinite, finiteBase, finiteExponent])
  | add | subtract | multiply | divide | squareRoot | percent | percentOf => simp [applyNumbers]

theorem applyTwo_eq_error_iff :
    applyTwo step function first second = .error error ↔
      ¬ (function.guardsZero && second.isZero) ∧
        ((∀ a, first ≠ .number a) ∧ error = .notANumber step function 0 first.shown ∨
          ∃ a, first = .number a ∧
            ((∀ b, second ≠ .number b) ∧ error = .notANumber step function 1 second.shown ∨
              ∃ b, second = .number b ∧ applyNumbers step function a b = .error error)) := by
  unfold applyTwo
  split
  · next byZero => simp [byZero]
  · next noZero =>
      rw [and_iff_right noZero]
      cases first with
      | number a =>
          cases second with
          | number b => simp [needNumber]
          | nothing | other _ => simp [needNumber, eq_comm]
      | nothing | other _ => simp [needNumber, eq_comm]

theorem applyRoot_eq_error_iff :
    applyRoot step operand = .error error ↔
      (∀ a, operand ≠ .number a) ∧ error = .notANumber step .squareRoot 0 operand.shown ∨
        ∃ a, operand = .number a ∧ a < 0.0 ∧ error = .negativeSquareRoot step a := by
  cases operand with
  | number a =>
      simp only [applyRoot, needNumber]
      split
      · next negative => simp [negative, eq_comm]
      · next other => simp [other]
  | nothing | other _ => simp [applyRoot, needNumber, eq_comm]

theorem lt_length_of_numberAt? {value : Float} (given : numberAt? operands place = some value) :
    place < operands.length := by
  unfold numberAt? at given
  split at given
  · next found => exact (List.getElem?_eq_some_iff.mp found).1
  · cases given

theorem arity_of_ne_squareRoot (noRoot : function ≠ .squareRoot) : function.arity = 2 := by
  cases function <;> first | rfl | exact absurd rfl noRoot

theorem apply_of_few (few : operands.length < function.arity) :
    apply step function operands = .error (.missingArgument step function operands.length) := by
  by_cases root : function = .squareRoot
  · subst root
    obtain rfl := List.length_eq_zero_iff.mp (Nat.lt_one_iff.mp few)
    rfl
  · rw [arity_of_ne_squareRoot root] at few
    match operands with
    | [] => rfl
    | [first] => simp only [apply, if_neg root, List.length_singleton]

theorem failsWith_iff_of_few (few : operands.length < function.arity) :
    FailsWith step function operands error ↔
      error = .missingArgument step function operands.length := by
  constructor
  · intro fails
    cases fails with
    | missingArgument _ => rfl
    | notANumber enough _ _ _ _ _ => omega
    | negativeSquareRoot root given _ =>
        subst root
        have inside := lt_length_of_numberAt? given
        have one : arity .squareRoot = 1 := rfl
        omega
    | powerDomain power _ given _ _ _ =>
        subst power
        have inside := lt_length_of_numberAt? given
        have two : arity .power = 2 := rfl
        omega
  · rintro rfl
    exact .missingArgument few

theorem failsWith_squareRoot_iff :
    FailsWith step .squareRoot (first :: rest) error ↔ applyRoot step first = .error error := by
  have enough : arity .squareRoot ≤ (first :: rest).length := Nat.le_add_left _ _
  rw [applyRoot_eq_error_iff]
  constructor
  · intro fails
    cases fails with
    | missingArgument few => omega
    | @notANumber place operand _ _ used given numberless _ =>
        obtain rfl : place = 0 := Nat.lt_one_iff.mp used
        obtain rfl : first = operand := Option.some.inj given
        exact .inl ⟨by cases first <;> simp_all, rfl⟩
    | negativeSquareRoot _ given negative =>
        obtain ⟨a, rfl⟩ := isSome_numberAt?_zero_iff.mp (Option.isSome_of_eq_some given)
        obtain rfl := Option.some.inj given
        exact .inr ⟨_, rfl, negative, rfl⟩
    | powerDomain power _ _ _ _ _ => cases power
  · rintro (⟨numberless, rfl⟩ | ⟨a, rfl, negative, rfl⟩)
    · refine .notANumber enough ?_ Nat.one_pos rfl ?_ (by simp)
      · rintro ⟨quotient | quotient, -⟩ <;> cases quotient
      · cases first <;> simp_all
    · exact .negativeSquareRoot rfl rfl negative

theorem failsWith_two_iff (noRoot : function ≠ .squareRoot) :
    FailsWith step function (first :: second :: rest) error ↔
      applyTwo step function first second = .error error := by
  have two := arity_of_ne_squareRoot noRoot
  rw [applyTwo_eq_error_iff, ← @dividesByZero_cons_cons function first second rest]
  constructor
  · intro fails
    cases fails with
    | missingArgument few =>
        simp only [List.length_cons] at few
        omega
    | @notANumber place operand _ noZero used given numberless earlier =>
        refine ⟨noZero, ?_⟩
        obtain rfl | rfl : place = 0 ∨ place = 1 := by omega
        · obtain rfl : first = operand := Option.some.inj given
          exact .inl ⟨by cases first <;> simp_all, rfl⟩
        · obtain ⟨a, rfl⟩ := isSome_numberAt?_zero_iff.mp (earlier 0 Nat.one_pos)
          obtain rfl : second = operand := Option.some.inj given
          exact .inr ⟨a, rfl, .inl ⟨by cases second <;> simp_all, rfl⟩⟩
    | negativeSquareRoot root _ _ => exact absurd root noRoot
    | powerDomain power givenBase givenExponent finiteBase finiteExponent infinite =>
        subst power
        obtain ⟨a, rfl⟩ := isSome_numberAt?_zero_iff.mp (Option.isSome_of_eq_some givenBase)
        obtain rfl := Option.some.inj givenBase
        rw [numberAt?_succ] at givenExponent
        obtain ⟨b, rfl⟩ := isSome_numberAt?_zero_iff.mp (Option.isSome_of_eq_some givenExponent)
        obtain rfl := Option.some.inj givenExponent
        refine ⟨?_, .inr ⟨_, rfl, .inr ⟨_, rfl, ?_⟩⟩⟩
        · rintro ⟨quotient | quotient, -⟩ <;> cases quotient
        · exact applyNumbers_eq_error_iff.mpr ⟨rfl, finiteBase, finiteExponent, infinite, rfl⟩
  · have enough : function.arity ≤ (first :: second :: rest).length := by
      rw [two]
      exact Nat.le_add_left _ _
    rintro ⟨noZero, ⟨numberless, rfl⟩ | ⟨a, rfl, ⟨numberless, rfl⟩ | ⟨b, rfl, failed⟩⟩⟩
    · refine .notANumber enough noZero (by omega) rfl ?_ (by simp)
      cases first <;> simp_all
    · refine .notANumber enough noZero (by omega) rfl ?_ ?_
      · cases second <;> simp_all
      · intro earlier before
        obtain rfl : earlier = 0 := by omega
        rfl
    · obtain ⟨rfl, finiteBase, finiteExponent, infinite, rfl⟩ :=
        applyNumbers_eq_error_iff.mp failed
      exact .powerDomain rfl rfl rfl finiteBase finiteExponent infinite

/-- A function fails with the one cause that there is, and has a number if there is none. -/
theorem apply_eq_error_iff :
    apply step function operands = .error error ↔ FailsWith step function operands error := by
  by_cases few : operands.length < function.arity
  · rw [apply_of_few few, failsWith_iff_of_few few, Except.error.injEq, eq_comm]
  · by_cases root : function = .squareRoot
    · subst root
      match operands with
      | [] => exact absurd Nat.one_pos few
      | first :: rest => exact failsWith_squareRoot_iff.symm
    · rw [arity_of_ne_squareRoot root] at few
      match operands with
      | [] => exact absurd Nat.two_pos few
      | [first] => exact absurd Nat.one_lt_two few
      | first :: second :: rest =>
          rw [failsWith_two_iff root]
          simp only [apply, if_neg root]

theorem apply_of_dividesByZero (byZero : DividesByZero function operands) :
    apply step function operands = .ok 0.0 := by
  have noRoot : function ≠ .squareRoot := by
    rintro rfl
    obtain ⟨quotient | quotient, -⟩ := byZero <;> cases quotient
  match operands with
  | [] =>
      obtain ⟨-, divisor, given, -⟩ := byZero
      cases given
  | [first] =>
      obtain ⟨-, divisor, given, -⟩ := byZero
      cases given
  | first :: second :: rest =>
      simp only [apply, if_neg noRoot, applyTwo, if_pos (dividesByZero_cons_cons.mp byZero)]

/-- The value of a function that looks at its operands by their places, once it has counted
them; there is none if it looks behind the last one. -/
def applyByPlace? (step : Nat) (function : StepFunction) (operands : List ResolvedOperand) :
    Option (Except PipelineError Float) :=
  if operands.length < function.arity then
    some (.error (.missingArgument step function operands.length))
  else if function = .squareRoot then operands[0]?.map (applyRoot step)
  else
    operands[1]?.bind fun second =>
      operands[0]?.map fun first => applyTwo step function first second

theorem applyByPlace?_eq_some :
    applyByPlace? step function operands = some (apply step function operands) := by
  unfold applyByPlace?
  split
  · next few => rw [apply_of_few few]
  · next enough =>
      split
      · next root =>
          subst root
          match operands with
          | [] => exact absurd Nat.one_pos enough
          | first :: rest => rfl
      · next noRoot =>
          rw [arity_of_ne_squareRoot noRoot] at enough
          match operands with
          | [] => exact absurd Nat.two_pos enough
          | [first] => exact absurd Nat.one_lt_two enough
          | first :: second :: rest => simp [apply, noRoot]

end StepFunction

namespace Operation

variable {operation : Operation} {function : StepFunction}

theorem result_of_known (known : operation.action = .known function) (step : Nat)
    (previous : Option Float) (names : Namespace) :
    operation.result step previous names =
      (function.apply step (operation.operands.map (Operand.resolve previous names))).map some := by
  simp only [result, known]
  cases function.apply step (operation.operands.map (Operand.resolve previous names)) <;> rfl

/-- A step with a function fails exactly with the causes of `StepFunction.FailsWith`, and has a
number if there is none of them.  A quotient by zero is zero, whatever its first operand is.
Operands that the function does not use have no influence, and it looks at no place behind
the last operand. -/
theorem result_fails_exactly (step : Nat) (operation : Operation) (function : StepFunction)
    (known : operation.action = .known function) (previous : Option Float) (names : Namespace) :
    let operands := operation.operands.map (Operand.resolve previous names)
    (∀ error, operation.result step previous names = .error error ↔
      function.FailsWith step operands error) ∧
    ((∃ value, operation.result step previous names = .ok (some value)) ↔
      ∀ error, ¬ function.FailsWith step operands error) ∧
    (function.DividesByZero operands → operation.result step previous names = .ok (some 0.0)) ∧
    (∀ other : Operation, other.action = .known function →
      other.operands.take function.arity = operation.operands.take function.arity →
        other.result step previous names = operation.result step previous names) ∧
    (function.applyByPlace? step operands).map (Except.map some) =
      some (operation.result step previous names) := by
  intro operands
  have result := result_of_known known step previous names
  refine ⟨?_, ?_, ?_, ?_, ?_⟩
  · intro error
    rw [← StepFunction.apply_eq_error_iff, result]
    cases function.apply step operands <;> simp [Except.map]
  · simp only [← StepFunction.apply_eq_error_iff, result]
    cases function.apply step operands <;> simp [Except.map]
  · intro byZero
    rw [result, StepFunction.apply_of_dividesByZero byZero]
    rfl
  · intro other knownOther used
    apply result_of_resolved (knownOther.trans known.symm)
    rw [known]
    exact congrArg (List.map _) used
  · rw [StepFunction.applyByPlace?_eq_some, result]
    rfl

/-- The divisor is the truth value that counts as zero, and the dividend is a text.  One operand
is too many. -/
theorem result_of_false_divisor :
    let operation : Operation :=
      ⟨.known .divide, [.literal (.text "ten"), .literal (.boolean false)], none⟩
    let longer : Operation := { operation with operands := operation.operands ++ [.variable "x"] }
    let operands := operation.operands.map (Operand.resolve none Namespace.empty)
    operation.action = .known .divide ∧ StepFunction.divide.DividesByZero operands ∧
      operation.result 0 none Namespace.empty = .ok (some 0.0) ∧
      longer.result 0 none Namespace.empty = .ok (some 0.0) ∧
      ¬ StepFunction.divide.FailsWith 0 operands (.notANumber 0 .divide 0 "\"ten\"") := by
  intro operation longer operands
  have byZero : StepFunction.divide.DividesByZero operands := ⟨.inl rfl, 0.0, rfl, by decide⟩
  obtain ⟨fails, -, zero, others, -⟩ :=
    result_fails_exactly 0 operation .divide rfl none Namespace.empty
  refine ⟨rfl, byZero, zero byZero, (others longer rfl rfl).trans (zero byZero), ?_⟩
  intro failed
  have contradiction := (zero byZero).symm.trans ((fails _).mpr failed)
  cases contradiction

end Operation

end BackOfEnvelope
