import BackOfEnvelope.Content

/-!
# Selections of content

The categories of scenarios, the scenarios of one category, and variables
grouped by type.
-/

namespace BackOfEnvelope

namespace Scenario

/-- The category that stands for all of them. -/
def everyCategory : String := "All"

/-- The categories of scenarios, sorted, each once; an empty one does not
count. -/
def categories (scenarios : List Scenario) : List String :=
  (Fields.sortFields
    ((scenarios.filter fun scenario => !scenario.category.isEmpty).map fun scenario =>
      (scenario.category, ()))).names

/-- Whether a scenario belongs to a selected category. -/
def isIn (category : String) (scenario : Scenario) : Bool :=
  category = everyCategory || scenario.category = category

/-- The scenarios of a category in their order. -/
def inCategory (scenarios : List Scenario) (category : String) : List Scenario :=
  scenarios.filter (isIn category)

end Scenario

namespace VariableSet

/-- The type of a variable that has none. -/
def unknownType : String := "unknown"

/-- The type of a variable for grouping. -/
def groupOf (item : Variable) : String :=
  item.type?.getD unknownType

/-- Add a variable at the end of its group. -/
def addToGroup (groups : OrderedDictionary String (List Variable)) (item : Variable) :
    OrderedDictionary String (List Variable) :=
  groups.insert (groupOf item) ((groups.find? (groupOf item)).getD [] ++ [item])

/-- Variables grouped by type, the groups in the order in which their types
first occur. -/
def byType (set : VariableSet) : OrderedDictionary String (List Variable) :=
  set.values.foldl addToGroup OrderedDictionary.empty

end VariableSet

end BackOfEnvelope
