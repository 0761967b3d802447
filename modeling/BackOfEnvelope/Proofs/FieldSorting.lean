import BackOfEnvelope.SortedFields

/-!
# Sorting fields

Sorting loses no field of a list without repeated names and adds none to any list.  So
fields that are sorted already come back from every order into which they are brought.
-/

namespace BackOfEnvelope

namespace Fields

variable {Value : Type} {fields others : Fields Value}

theorem perm_insertSorted {name : String} (fresh : name ∉ fields.names) (value : Value) :
    (insertSorted name value fields).Perm ((name, value) :: fields) := by
  induction fields with
  | nil => exact List.Perm.refl _
  | cons field rest ih =>
      obtain ⟨present, old⟩ := field
      have different : name ≠ present := List.ne_of_not_mem_cons fresh
      have freshInRest : name ∉ names rest := List.not_mem_of_not_mem_cons fresh
      simp only [insertSorted, if_neg different]
      split
      · exact List.Perm.refl _
      · exact ((ih freshInRest).cons _).trans (List.Perm.swap _ _ _)

/-- Inserting fields with new names one after the other loses none and adds none. -/
theorem perm_foldl_insertSorted (rest soFar : Fields Value)
    (distinct : (names (soFar ++ rest)).Nodup) :
    (rest.foldl (fun soFar field => insertSorted field.1 field.2 soFar) soFar).Perm
      (soFar ++ rest) := by
  induction rest generalizing soFar with
  | nil =>
      rw [List.append_nil]
      exact List.Perm.refl _
  | cons field rest ih =>
      have moved : (soFar ++ field :: rest).Perm ((field :: soFar) ++ rest) := List.perm_middle
      have distinctMoved : (names ((field :: soFar) ++ rest)).Nodup :=
        (moved.map Prod.fst).nodup_iff.mp distinct
      have fresh : field.1 ∉ names soFar := by
        intro present
        refine (List.nodup_cons.mp distinctMoved).1 ?_
        change field.1 ∈ (soFar ++ rest).map Prod.fst
        rw [List.map_append]
        exact List.mem_append_left _ present
      have inserted :
          (insertSorted field.1 field.2 soFar ++ rest).Perm ((field :: soFar) ++ rest) :=
        (perm_insertSorted fresh field.2).append_right rest
      refine (ih _ ((inserted.map Prod.fst).nodup_iff.mpr distinctMoved)).trans ?_
      exact inserted.trans moved.symm

theorem perm_sortFields (distinct : fields.names.Nodup) : (sortFields fields).Perm fields :=
  perm_foldl_insertSorted fields [] distinct

theorem Sorted.nodup_names (sorted : fields.Sorted) : fields.names.Nodup := by
  refine List.Pairwise.imp ?_ sorted
  rintro name _ before rfl
  exact String.lt_irrefl name before

theorem Sorted.eq_of_perm (sorted : fields.Sorted) (sortedOthers : others.Sorted)
    (same : others.Perm fields) : others = fields := by
  refine List.Perm.eq_of_pairwise ?_ (List.pairwise_map.mp sortedOthers)
    (List.pairwise_map.mp sorted) same
  intro a b _ _ before after
  exact absurd (String.lt_trans before after) (String.lt_irrefl _)

/-- Sorting brings fields in any order back into theirs. -/
theorem sortFields_of_perm (sorted : fields.Sorted) (same : others.Perm fields) :
    sortFields others = fields := by
  have distinct : others.names.Nodup := (same.map Prod.fst).nodup_iff.mpr sorted.nodup_names
  exact sorted.eq_of_perm (sorted_sortFields others) ((perm_sortFields distinct).trans same)

theorem mem_of_mem_insertSorted {name : String} {value : Value} {field : String × Value}
    (member : field ∈ insertSorted name value fields) :
    field = (name, value) ∨ field ∈ fields := by
  induction fields with
  | nil => exact .inl (List.mem_singleton.mp member)
  | cons head rest ih =>
      simp only [insertSorted] at member
      split at member
      · exact List.mem_cons.mp member
      · split at member
        · exact (List.mem_cons.mp member).imp_right (List.mem_cons_of_mem _)
        · rcases List.mem_cons.mp member with rfl | later
          · exact .inr List.mem_cons_self
          · exact (ih later).imp_right (List.mem_cons_of_mem _)

theorem mem_of_mem_foldl_insertSorted {field : String × Value} (rest soFar : Fields Value)
    (member : field ∈ rest.foldl (fun soFar field => insertSorted field.1 field.2 soFar) soFar) :
    field ∈ soFar ∨ field ∈ rest := by
  induction rest generalizing soFar with
  | nil => exact .inl member
  | cons head rest ih =>
      rcases ih _ member with inserted | later
      · rcases mem_of_mem_insertSorted inserted with rfl | earlier
        · exact .inr List.mem_cons_self
        · exact .inl earlier
      · exact .inr (List.mem_cons_of_mem _ later)

theorem mem_names_foldl_insertSorted (name : String) (rest soFar : Fields Value) :
    name ∈ names (rest.foldl (fun soFar field => insertSorted field.1 field.2 soFar) soFar) ↔
      name ∈ names soFar ∨ name ∈ names rest := by
  induction rest generalizing soFar with
  | nil => simp [names]
  | cons field rest ih =>
      rw [List.foldl_cons, ih, mem_names_insertSorted]
      simp only [names, List.map_cons, List.mem_cons]
      rw [or_assoc, or_left_comm]

/-- Sorting loses no name and adds none. -/
theorem mem_names_sortFields (name : String) (fields : Fields Value) :
    name ∈ (sortFields fields).names ↔ name ∈ fields.names := by
  rw [sortFields, mem_names_foldl_insertSorted]
  simp [names]

theorem mem_of_mem_sortFields {field : String × Value} (member : field ∈ sortFields fields) :
    field ∈ fields :=
  (mem_of_mem_foldl_insertSorted fields [] member).resolve_left List.not_mem_nil

end Fields

end BackOfEnvelope
