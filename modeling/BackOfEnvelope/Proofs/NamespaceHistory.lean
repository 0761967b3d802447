import BackOfEnvelope.Proofs.DictionaryHistory
import BackOfEnvelope.Proofs.PipelineReads
import Mathlib.Data.List.Basic

/-!
# Histories of namespaces

Names are bound one by one, in groups, and by the steps of pipelines, and they are
removed.  All of this is a history of writes and removals, in which a pipeline counts as
the results of its completed steps that have names.  Whatever is done to an empty
namespace, it then holds what the history says.
-/

namespace BackOfEnvelope

open OrderedDictionary (Change LastWrite Written WrittenBefore replay)

/-- A name is bound or removed. -/
abbrev NamespaceChange := Change String (Option Float)

namespace Pipeline

/-- What a pipeline writes: of each step up to which it succeeds, the result, if the step
has a name. -/
def writes (operations : List Operation) (names : Namespace) : List NamespaceChange :=
  (List.range operations.length).filterMap fun step =>
    match (run (operations.take (step + 1)) names).outcome,
      operations[step]?.bind Operation.name with
    | .ok value, some name => some (.write name value)
    | _, _ => none

theorem writes_append (operations : List Operation) (operation : Operation) (names : Namespace) :
    writes (operations ++ [operation]) names = writes operations names ++
      (match (run (operations ++ [operation]) names).outcome, operation.name with
        | .ok value, some name => [.write name value]
        | _, _ => []) := by
  unfold writes
  rw [List.length_append, List.length_singleton, List.range_succ, List.filterMap_append]
  congr 1
  · apply List.filterMap_congr
    intro step inRange
    have early : step < operations.length := List.mem_range.mp inRange
    rw [List.take_append_of_le_length early, List.getElem?_append_left early]
  · have whole : (operations ++ [operation]).take (operations.length + 1) =
        operations ++ [operation] := List.take_of_length_le (by simp)
    simp only [List.filterMap_cons, List.filterMap_nil, whole, List.getElem?_concat_length,
      Option.bind_some]
    cases (run (operations ++ [operation]) names).outcome <;> cases operation.name <;> rfl

/-- A run leaves what its writes leave. -/
theorem names_run (operations : List Operation) (names : Namespace) :
    (run operations names).names = (writes operations names).foldl Change.applyTo names := by
  -- A step writes if the steps up to it succeed, so the induction is from the end.
  induction operations using List.reverseRecOn with
  | nil => rfl
  | append_singleton operations operation ih =>
      rw [writes_append, List.foldl_append, ← ih]
      unfold run
      rw [runFrom_append, Nat.zero_add]
      cases outcome : (runFrom 0 none names operations).outcome with
      | error error => simp [PipelineRun.andThen_of_error outcome, outcome]
      | ok value =>
          rw [PipelineRun.andThen_of_ok outcome]
          cases result : operation.result operations.length value
              (runFrom 0 none names operations).names with
          | error error =>
              rw [runFrom_cons_of_error result]
              simp
          | ok next =>
              rw [runFrom_cons_of_ok result]
              cases carried : operation.name with
              | none => simp [runFrom, Operation.bindResult, carried]
              | some name => simp [runFrom, Operation.bindResult, carried, Change.applyTo,
                  Namespace.bind]

theorem names_runSteps (steps : List Json) (names : Namespace) :
    (runSteps steps names).names = (run (decodable steps) names).names := by
  obtain ⟨ending, ends⟩ := exists_ending_of_runStepsFrom 0 steps
  unfold runSteps run
  rw [ends, names_andThen_ending]

theorem names_runField (field : Option Yaml) (names : Namespace) :
    (runField field names).names = (run (runnable field) names).names := by
  obtain ⟨ending, ends⟩ := exists_ending_of_runField field
  rw [ends, names_andThen_ending]

end Pipeline

/-- What can be done to a namespace. -/
inductive NamespaceCommand where
  | set (name : String) (value : Float)
  | bind (name : String) (value : Option Float)
  | setAll (settings : List (String × Float))
  | remove (name : String)
  /-- Run operations. -/
  | run (operations : List Operation)
  /-- Run steps that are decoded just before they run. -/
  | runSteps (steps : List Json)
  /-- Run the field that holds a pipeline. -/
  | runField (field : Option Yaml)

namespace NamespaceCommand

def applyTo (names : Namespace) : NamespaceCommand → Namespace
  | set name value => names.set name value
  | bind name value => names.bind name value
  | setAll settings => names.setAll settings
  | remove name => names.remove name
  | run operations => (Pipeline.run operations names).names
  | runSteps steps => (Pipeline.runSteps steps names).names
  | runField field => (Pipeline.runField field names).names

/-- What a command counts as.  A pipeline counts as what its steps write before the first
one that fails or does not decode. -/
def changes (names : Namespace) : NamespaceCommand → List NamespaceChange
  | set name value => [.write name (some value)]
  | bind name value => [.write name value]
  | setAll settings => settings.map fun setting => .write setting.1 (some setting.2)
  | remove name => [.removal name]
  | run operations => Pipeline.writes operations names
  | runSteps steps => Pipeline.writes (Pipeline.decodable steps) names
  | runField field => Pipeline.writes (Pipeline.runnable field) names

theorem applyTo_eq_foldl_changes (names : Namespace) (command : NamespaceCommand) :
    command.applyTo names = (command.changes names).foldl Change.applyTo names := by
  cases command with
  | set _ _ | bind _ _ | remove _ => rfl
  | setAll settings =>
      simp only [applyTo, changes, Namespace.setAll, List.foldl_map]
      rfl
  | run operations => exact Pipeline.names_run operations names
  | runSteps steps => exact (Pipeline.names_runSteps steps names).trans (Pipeline.names_run _ names)
  | runField field => exact (Pipeline.names_runField field names).trans (Pipeline.names_run _ names)

end NamespaceCommand

namespace Namespace

/-- The namespace that commands leave. -/
def after (names : Namespace) (commands : List NamespaceCommand) : Namespace :=
  commands.foldl NamespaceCommand.applyTo names

/-- The history of commands. -/
def history (names : Namespace) : List NamespaceCommand → List NamespaceChange
  | [] => []
  | command :: rest => command.changes names ++ history (command.applyTo names) rest

theorem after_eq_foldl_history (names : Namespace) (commands : List NamespaceCommand) :
    names.after commands = (names.history commands).foldl Change.applyTo names := by
  induction commands generalizing names with
  | nil => rfl
  | cons command rest ih =>
      calc names.after (command :: rest)
          = (command.applyTo names).after rest := rfl
        _ = (history (command.applyTo names) rest).foldl Change.applyTo
              (command.applyTo names) := ih _
        _ = (names.history (command :: rest)).foldl Change.applyTo names := by
          rw [history, List.foldl_append, ← command.applyTo_eq_foldl_changes]

/-- A namespace holds what a history says, however it is looked at. -/
structure Reflects (names : Namespace) (history : List NamespaceChange) : Prop where
  distinct : names.keys.Nodup
  /-- A name is bound to what was last written, if it has not been removed since. -/
  bound : ∀ name value, names.binding name = some value ↔ LastWrite history name value
  absent : ∀ name, names.binding name = none ↔ ∀ value, ¬ LastWrite history name value
  /-- The names stand in the order of their first writes since they were last removed. -/
  inOrder : names.keys.Pairwise (WrittenBefore history)
  /-- The entries in order are the names with what they are bound to. -/
  entries : ∀ name value, (name, value) ∈ names.entries ↔ names.binding name = some value
  number : ∀ name value, names.number? name = some value ↔ names.binding name = some (some value)
  contains : ∀ name, names.contains name ↔ name ∈ names.keys
  written : ∀ name, name ∈ names.keys ↔ Written history name
  size : names.size = names.keys.length
  isEmpty : names.isEmpty ↔ names.keys = []

theorem reflects_replay (history : List NamespaceChange) :
    Reflects (replay history) history where
  distinct := (replay history).keysNodup
  bound := fun name value => OrderedDictionary.find?_replay_iff
  absent := by
    intro name
    simp only [← OrderedDictionary.find?_replay_iff, Option.eq_none_iff_forall_ne_some]
    rfl
  inOrder := OrderedDictionary.pairwise_keys_replay history
  entries := OrderedDictionary.mem_entries_iff (replay history)
  number := by
    intro name value
    exact Option.join_eq_some_iff
  contains := fun name => ((replay history).mem_keys_iff name).symm
  written := fun name => OrderedDictionary.mem_keys_replay_iff
  size := by simp [OrderedDictionary.size, OrderedDictionary.keys]
  isEmpty := by simp [OrderedDictionary.isEmpty, OrderedDictionary.keys]

/-- Whatever is done to an empty namespace, it holds what the history of it says. -/
theorem after_reflects_history (commands : List NamespaceCommand) :
    (empty.after commands).Reflects (empty.history commands) := by
  rw [after_eq_foldl_history]
  exact reflects_replay (empty.history commands)

/-- Of a pipeline that fails, the completed step counts.  A name that is removed and bound again
goes to the end. -/
example :
    let commands : List NamespaceCommand :=
      [.set "a" 1.0, .run [⟨.known .squareRoot, [.literal (.float 4.0)], some "b"⟩,
        ⟨.known .squareRoot, [], some "c"⟩], .remove "a", .bind "a" none]
    (empty.after commands).keys = ["b", "a"] ∧ (empty.after commands).binding "a" = some none := by
  intro commands
  exact ⟨rfl, rfl⟩

end Namespace

end BackOfEnvelope
