import BackOfEnvelope.ExpressionEvaluation

/-!
# Parts of expressions

No part of an expression is skipped when it is evaluated: an expression has a value
only if each of its parts has one.  What a namespace contributes are the bindings of
the variables among the parts, so namespaces that bind these alike give the same
result, be it a value or an error.
-/

namespace BackOfEnvelope

namespace Expression

/-- An expression stands somewhere inside another one, or is the whole. -/
inductive IsPart (part : Expression) : Expression → Prop
  | whole : IsPart part part
  | negated {operand : Expression} (inside : IsPart part operand) :
      IsPart part (.negate operand)
  | left {operator : BinaryOperator} {left right : Expression} (inside : IsPart part left) :
      IsPart part (.binary operator left right)
  | right {operator : BinaryOperator} {left right : Expression} (inside : IsPart part right) :
      IsPart part (.binary operator left right)
  | argument {function : String} {argument : Expression} {arguments : List Expression}
      (member : argument ∈ arguments) (inside : IsPart part argument) :
      IsPart part (.call function arguments)

/-- Induction over expressions that gives the hypothesis for every argument of a call. -/
theorem inductionOnParts {motive : Expression → Prop} (number : ∀ value, motive (.number value))
    (named : ∀ name, motive (.variable name))
    (negate : ∀ operand, motive operand → motive (.negate operand))
    (binary : ∀ operator left right, motive left → motive right →
      motive (.binary operator left right))
    (call : ∀ function arguments, (∀ argument ∈ arguments, motive argument) →
      motive (.call function arguments))
    (expression : Expression) : motive expression := by
  refine @Expression.rec motive (fun arguments => ∀ argument ∈ arguments, motive argument)
    number named negate binary call ?_ ?_ expression
  · intro argument member
    cases member
  · intro head rest atHead inRest argument member
    rcases List.mem_cons.mp member with rfl | later
    · exact atHead
    · exact inRest argument later

variable {names others : Namespace}

theorem exists_value_of_mem {arguments : List Expression} {numbers : List Float}
    (valued : argumentValues names arguments = .ok numbers) {argument : Expression}
    (member : argument ∈ arguments) : ∃ number, value names argument = .ok number := by
  induction arguments generalizing numbers with
  | nil => cases member
  | cons head rest ih =>
      simp only [argumentValues] at valued
      split at valued
      · cases valued
      · next first atHead =>
          split at valued
          · cases valued
          · next remaining inRest =>
              rcases List.mem_cons.mp member with rfl | later
              · exact ⟨first, atHead⟩
              · exact ih inRest later

/-- Whatever has a value, its parts have one. -/
theorem exists_value_of_isPart {part whole : Expression} (inside : IsPart part whole)
    {result : Float} (valued : value names whole = .ok result) :
    ∃ number, value names part = .ok number := by
  induction inside generalizing result with
  | whole => exact ⟨result, valued⟩
  | negated _ ih =>
      simp only [value] at valued
      split at valued
      · cases valued
      · next operand ofOperand => exact ih ofOperand
  | left _ ih =>
      simp only [value] at valued
      split at valued
      · cases valued
      · next first ofLeft => exact ih ofLeft
  | right _ ih =>
      simp only [value] at valued
      split at valued
      · cases valued
      · split at valued
        · cases valued
        · next second ofRight => exact ih ofRight
  | argument member _ ih =>
      simp only [value] at valued
      split at valued
      · cases valued
      · next numbers ofArguments =>
          obtain ⟨number, ofArgument⟩ := exists_value_of_mem ofArguments member
          exact ih ofArgument

/-- A variable of an expression that has a value is bound to a number. -/
theorem exists_binding_of_isPart {name : String} {whole : Expression}
    (inside : IsPart (.variable name) whole) {result : Float}
    (valued : value names whole = .ok result) :
    ∃ number, names.binding name = some (some number) := by
  obtain ⟨number, found⟩ := exists_value_of_isPart inside valued
  simp only [value, lookUp] at found
  split at found
  · next bound binding => exact ⟨bound, binding⟩
  · cases found
  · cases found

theorem argumentValues_congr {arguments : List Expression}
    (alike : ∀ argument ∈ arguments, value names argument = value others argument) :
    argumentValues names arguments = argumentValues others arguments := by
  induction arguments with
  | nil => rfl
  | cons head rest ih =>
      have atHead := alike head List.mem_cons_self
      have inRest := ih fun argument member => alike argument (List.mem_cons_of_mem _ member)
      simp only [argumentValues, atHead, inRest]

/-- Only the bindings of its variables matter to an expression. -/
theorem value_congr (expression : Expression)
    (alike : ∀ name, IsPart (.variable name) expression →
      names.binding name = others.binding name) :
    value names expression = value others expression := by
  induction expression using inductionOnParts with
  | number constant => rfl
  | named name =>
      have same := alike name .whole
      simp only [value, lookUp, same]
  | negate operand ih =>
      have same := ih fun name inside => alike name (.negated inside)
      simp only [value, same]
  | binary operator left right leftIH rightIH =>
      have sameLeft := leftIH fun name inside => alike name (.left inside)
      have sameRight := rightIH fun name inside => alike name (.right inside)
      simp only [value, sameLeft, sameRight]
  | call function arguments ih =>
      have same : argumentValues names arguments = argumentValues others arguments := by
        apply argumentValues_congr
        intro argument member
        exact ih argument member fun name inside => alike name (.argument member inside)
      simp only [value, same]

theorem evaluate_congr (expression : Expression)
    (alike : ∀ name, IsPart (.variable name) expression →
      names.binding name = others.binding name) :
    expression.evaluate names = expression.evaluate others := by
  simp only [evaluate, value_congr expression alike]

theorem value_of_evaluate {expression : Expression} {result : Float}
    (evaluated : expression.evaluate names = .ok result) :
    value names expression = .ok result ∧ result.isFinite := by
  unfold evaluate at evaluated
  split at evaluated
  · cases evaluated
  · next number valued =>
      split at evaluated
      · next finite =>
          cases evaluated
          exact ⟨valued, finite⟩
      · cases evaluated

/-- An evaluation fails with an error of its own, or because the number is not finite. -/
theorem value_of_evaluate_eq_error {expression : Expression} {error : ExpressionError}
    (failed : expression.evaluate names = .error error) :
    value names expression = .error error ∨
      (error = .notFinite ∧
        ∃ number, value names expression = .ok number ∧ ¬ number.isFinite) := by
  unfold evaluate at failed
  split at failed
  · next other valued =>
      cases failed
      exact .inl valued
  · next number valued =>
      split at failed
      · cases failed
      · next infinite =>
          cases failed
          exact .inr ⟨rfl, number, valued, infinite⟩

end Expression

end BackOfEnvelope
