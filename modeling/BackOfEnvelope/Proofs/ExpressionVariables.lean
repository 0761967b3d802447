import BackOfEnvelope.Proofs.DictionaryHistory
import BackOfEnvelope.Proofs.ExpressionParts

/-!
# Variables of expressions

The places where an expression has variables, read from left to right, give the list of its
variables: each one once, where it first occurs.  So a search through the list finds what a
search through all places finds, and the list has just the variables among the parts.
-/

namespace BackOfEnvelope

namespace Expression

variable {known : List String} {name : String}

mutual

/-- The variables at all places where an expression has one, from left to right. -/
def occurrences : Expression → List String
  | .number _ => []
  | .variable name => [name]
  | .negate operand => occurrences operand
  | .binary _ left right => occurrences left ++ occurrences right
  | .call _ arguments => argumentOccurrences arguments

def argumentOccurrences : List Expression → List String
  | [] => []
  | argument :: rest => occurrences argument ++ argumentOccurrences rest

end

theorem argumentOccurrences_eq_flatMap (arguments : List Expression) :
    argumentOccurrences arguments = arguments.flatMap occurrences := by
  induction arguments with
  | nil => rfl
  | cons argument rest ih => rw [argumentOccurrences, ih, List.flatMap_cons]

theorem mem_occurrences_iff (expression : Expression) :
    name ∈ occurrences expression ↔ IsPart (.variable name) expression := by
  induction expression using inductionOnParts with
  | number constant =>
      rw [occurrences]
      constructor
      · intro member
        cases member
      · intro inside
        cases inside
  | named other =>
      rw [occurrences, List.mem_singleton]
      constructor
      · rintro rfl
        exact .whole
      · intro inside
        cases inside
        rfl
  | negate operand ih =>
      rw [occurrences, ih]
      constructor
      · exact .negated
      · intro inside
        cases inside with
        | negated inside => exact inside
  | binary operator left right leftIH rightIH =>
      rw [occurrences, List.mem_append, leftIH, rightIH]
      constructor
      · rintro (inside | inside)
        · exact .left inside
        · exact .right inside
      · intro inside
        cases inside with
        | left inside => exact .inl inside
        | right inside => exact .inr inside
  | call function arguments ih =>
      rw [occurrences, argumentOccurrences_eq_flatMap, List.mem_flatMap]
      constructor
      · rintro ⟨argument, member, occurs⟩
        exact .argument member ((ih argument member).mp occurs)
      · intro inside
        cases inside with
        | argument member inside => exact ⟨_, member, (ih _ member).mpr inside⟩

/-! ### The list of variables -/

theorem addVariables_eq_foldl (known : List String) (expression : Expression) :
    addVariables known expression = (occurrences expression).foldl addName known := by
  induction expression using inductionOnParts generalizing known with
  | number _ | named _ => rfl
  | negate operand ih => exact ih known
  | binary operator left right leftIH rightIH =>
      rw [addVariables, occurrences, List.foldl_append, leftIH, rightIH]
  | call function arguments ih =>
      rw [addVariables, occurrences]
      induction arguments generalizing known with
      | nil => rfl
      | cons argument rest restIH =>
          have first := ih argument List.mem_cons_self known
          have others := restIH fun later member => ih later (List.mem_cons_of_mem _ member)
          rw [addArgumentVariables, argumentOccurrences, List.foldl_append, first, others]

theorem foldl_addName (known written : List String) :
    written.foldl addName known = known ++ (written.filter (· ∉ known)).eraseDups := by
  induction written generalizing known with
  | nil => simp
  | cons name rest ih => rw [List.foldl_cons, ih, append_new_cons, addName]

theorem variableNames_eq_eraseDups (expression : Expression) :
    expression.variableNames = expression.occurrences.eraseDups := by
  rw [variableNames, addVariables_eq_foldl, foldl_addName, List.filter_eq_self.mpr (by simp)]
  rfl

theorem nodup_addName (distinct : known.Nodup) (name : String) : (addName known name).Nodup := by
  unfold addName
  split
  · exact distinct
  · next absent =>
      rw [List.nodup_append]
      refine ⟨distinct, List.pairwise_singleton _ name, ?_⟩
      intro present isKnown last isLast
      obtain rfl := List.mem_singleton.mp isLast
      exact ne_of_mem_of_not_mem isKnown absent

theorem nodup_foldl_addName (distinct : known.Nodup) (written : List String) :
    (written.foldl addName known).Nodup := by
  induction written generalizing known with
  | nil => exact distinct
  | cons name rest ih => exact ih (nodup_addName distinct name)

theorem nodup_variableNames (expression : Expression) : expression.variableNames.Nodup := by
  rw [variableNames, addVariables_eq_foldl]
  exact nodup_foldl_addName List.nodup_nil _

theorem mem_variableNames_iff (expression : Expression) :
    name ∈ expression.variableNames ↔ IsPart (.variable name) expression := by
  rw [variableNames_eq_eraseDups, List.mem_eraseDups, mem_occurrences_iff]

theorem find?_addName (wanted : String → Bool) (known : List String) (name : String) :
    (addName known name).find? wanted = (known ++ [name]).find? wanted := by
  unfold addName
  split
  · next present =>
      cases found : known.find? wanted with
      | some first => simp [found]
      | none =>
          have unwanted := List.find?_eq_none.mp found name present
          simp [found, unwanted]
  · rfl

theorem find?_foldl_addName (wanted : String → Bool) (known written : List String) :
    (written.foldl addName known).find? wanted = (known ++ written).find? wanted := by
  induction written generalizing known with
  | nil => simp
  | cons name rest ih =>
      rw [List.foldl_cons, ih, List.find?_append, find?_addName, ← List.find?_append]
      simp

/-- The first wanted variable of the list is the first wanted one among all places. -/
theorem find?_variableNames (wanted : String → Bool) (expression : Expression) :
    expression.variableNames.find? wanted = expression.occurrences.find? wanted := by
  rw [variableNames, addVariables_eq_foldl, find?_foldl_addName, List.nil_append]

end Expression

end BackOfEnvelope
