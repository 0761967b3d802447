/-!
# Fields sorted by name

Lists of named values in strictly increasing order of the names.  Names are
compared character by character, which is also the order of their bytes.
`sortFields` brings any list of named values into this form; of values with one
name the last counts.
-/

namespace BackOfEnvelope

abbrev Fields (Value : Type) := List (String × Value)

namespace Fields

variable {Value : Type}

/-- The names in order. -/
def names (fields : Fields Value) : List String :=
  fields.map Prod.fst

/-- The value of the first field with a name. -/
def find? (name : String) : Fields Value → Option Value
  | [] => none
  | (present, value) :: rest => if present = name then some value else find? name rest

/-- Write a field to its place in the order, over a field of the same name. -/
def insertSorted (name : String) (value : Value) : Fields Value → Fields Value
  | [] => [(name, value)]
  | (present, old) :: rest =>
      if name < present then (name, value) :: (present, old) :: rest
      else if name = present then (name, value) :: rest
      else (present, old) :: insertSorted name value rest

/-- The names are in strictly increasing order. -/
def Sorted (fields : Fields Value) : Prop :=
  fields.names.Pairwise (· < ·)

theorem mem_names_insertSorted (name other : String) (value : Value) (fields : Fields Value) :
    other ∈ (insertSorted name value fields).names ↔ other = name ∨ other ∈ fields.names := by
  induction fields with
  | nil => simp [insertSorted, names]
  | cons field rest ih =>
      obtain ⟨present, old⟩ := field
      simp only [names] at ih
      simp only [insertSorted]
      split
      · simp [names]
      · split
        · rename_i same
          subst same
          simp [names]
        · simp only [names, List.map_cons, List.mem_cons, ih]
          constructor
          · rintro (h | h | h) <;> simp [h]
          · rintro (h | h | h) <;> simp [h]

theorem Sorted.insertSorted {fields : Fields Value} (sorted : fields.Sorted) (name : String)
    (value : Value) : (Fields.insertSorted name value fields).Sorted := by
  induction fields with
  | nil => simp [Fields.insertSorted, Sorted, names]
  | cons field rest ih =>
      obtain ⟨present, old⟩ := field
      simp only [Sorted, names, List.map_cons, List.pairwise_cons] at sorted
      simp only [Fields.insertSorted]
      split
      · rename_i before
        simp only [Sorted, names, List.map_cons, List.pairwise_cons, List.mem_cons]
        refine ⟨?_, sorted⟩
        rintro other (rfl | h)
        · exact before
        · exact String.lt_trans before (sorted.1 other h)
      · split
        · rename_i same
          subst same
          simpa [Sorted, names] using sorted
        · rename_i notBefore different
          have after : present < name :=
            Std.lt_of_le_of_ne (String.not_lt.1 notBefore) (fun h => different h.symm)
          simp only [Sorted, names, List.map_cons, List.pairwise_cons]
          refine ⟨fun other h => ?_, ih sorted.2⟩
          rcases (mem_names_insertSorted name other value rest).1 h with rfl | h
          · exact after
          · exact sorted.1 other h

/-- The fields sorted by name; of fields with one name the last counts. -/
def sortFields (fields : Fields Value) : Fields Value :=
  fields.foldl (fun soFar field => insertSorted field.1 field.2 soFar) []

theorem sorted_sortFields (fields : Fields Value) : (sortFields fields).Sorted := by
  have general : ∀ (rest soFar : Fields Value), soFar.Sorted →
      (rest.foldl (fun soFar field => insertSorted field.1 field.2 soFar) soFar).Sorted := by
    intro rest
    induction rest with
    | nil => exact fun _ sorted => sorted
    | cons field rest ih => exact fun soFar sorted => ih _ (sorted.insertSorted field.1 field.2)
  exact general fields [] (by simp [Sorted, names])

end Fields

end BackOfEnvelope
