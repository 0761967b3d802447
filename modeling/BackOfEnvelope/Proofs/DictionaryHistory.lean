import BackOfEnvelope.OrderedDictionary
import Mathlib.Data.List.Induction

/-!
# Histories of dictionaries

A dictionary that started empty holds what the history of its writes and removals says.
A key is bound to the value of its last write, unless it has been removed since, and the
keys stand in the order in which they were first written since they were last removed.
-/

namespace BackOfEnvelope

/-- Behind known keys, the new ones among others in the order in which they first occur. -/
theorem append_new_cons {Key : Type} [DecidableEq Key] (known written : List Key) (key : Key) :
    known ++ ((key :: written).filter (· ∉ known)).eraseDups =
      (if key ∈ known then known else known ++ [key]) ++
        (written.filter (· ∉ if key ∈ known then known else known ++ [key])).eraseDups := by
  by_cases member : key ∈ known
  · simp [member]
  · simp only [member, if_false, List.filter_cons, not_false_eq_true, decide_true, if_true,
      List.eraseDups_cons, List.filter_filter, List.append_assoc, List.singleton_append]
    congr 3
    apply List.filter_congr
    intro other _
    by_cases same : other = key <;> simp [same, member]

/-- A place in a list with one more element at its end is the end or a place in the list. -/
theorem append_singleton_eq_iff {α : Type} {items before after : List α} {last item : α} :
    items ++ [last] = before ++ item :: after ↔
      (items = before ∧ last = item ∧ after = []) ∨
        ∃ rest, after = rest ++ [last] ∧ items = before ++ item :: rest := by
  constructor
  · intro divided
    rcases List.eq_nil_or_concat after with rfl | ⟨rest, other, rfl⟩
    · obtain ⟨same, ends⟩ := List.append_inj' divided rfl
      exact .inl ⟨same, (List.cons.inj ends).1, rfl⟩
    · rw [List.concat_eq_append, ← List.cons_append, ← List.append_assoc] at divided
      obtain ⟨same, ends⟩ := List.append_inj' divided rfl
      obtain ⟨rfl, -⟩ := List.cons.inj ends
      exact .inr ⟨rest, List.concat_eq_append, same⟩
  · rintro (⟨rfl, rfl, rfl⟩ | ⟨rest, rfl, rfl⟩)
    · rfl
    · simp

namespace OrderedDictionary

variable {Key Value : Type}

/-- What can happen to a dictionary. -/
inductive Change (Key Value : Type) where
  | write (key : Key) (value : Value)
  | removal (key : Key)

/-- The key that changes. -/
def Change.key : Change Key Value → Key
  | write key _ => key
  | removal key => key

/-- A key was last written with a value, and has not been removed since. -/
def LastWrite (history : List (Change Key Value)) (key : Key) (value : Value) : Prop :=
  ∃ before after, history = before ++ .write key value :: after ∧
    ∀ change ∈ after, change.key ≠ key

/-- A key has been written since it was last removed. -/
def Written (history : List (Change Key Value)) (key : Key) : Prop :=
  ∃ before value after, history = before ++ .write key value :: after ∧ .removal key ∉ after

/-- The earliest write of a key since its last removal stands at a place of a history. -/
def FirstWrittenAt (history : List (Change Key Value)) (key : Key) (place : Nat) : Prop :=
  ∃ before value after, history = before ++ .write key value :: after ∧
    before.length = place ∧ ¬ Written before key ∧ .removal key ∉ after

/-- One key was first written before another one, each since its last removal. -/
def WrittenBefore (history : List (Change Key Value)) (key other : Key) : Prop :=
  ∃ place later, FirstWrittenAt history key place ∧ FirstWrittenAt history other later ∧
    place < later

variable {history : List (Change Key Value)} {change : Change Key Value}
variable {key other : Key} {value : Value} {place : Nat}

theorem lastWrite_append_iff :
    LastWrite (history ++ [change]) key value ↔
      change = .write key value ∨ (change.key ≠ key ∧ LastWrite history key value) := by
  constructor
  · rintro ⟨before, after, divided, unchanged⟩
    rcases append_singleton_eq_iff.mp divided with ⟨-, rfl, -⟩ | ⟨rest, rfl, rfl⟩
    · exact .inl rfl
    · rw [List.forall_mem_append] at unchanged
      exact .inr ⟨unchanged.2 change (by simp), before, rest, rfl, unchanged.1⟩
  · rintro (rfl | ⟨different, before, after, rfl, unchanged⟩)
    · exact ⟨history, [], rfl, by simp⟩
    · refine ⟨before, after ++ [change], by simp, ?_⟩
      rw [List.forall_mem_append]
      exact ⟨unchanged, by simpa using different⟩

theorem written_append_iff :
    Written (history ++ [change]) key ↔
      (∃ value, change = .write key value) ∨ (change ≠ .removal key ∧ Written history key) := by
  constructor
  · rintro ⟨before, value, after, divided, unremoved⟩
    rcases append_singleton_eq_iff.mp divided with ⟨-, rfl, -⟩ | ⟨rest, rfl, rfl⟩
    · exact .inl ⟨value, rfl⟩
    · rw [List.mem_append, not_or, List.mem_singleton] at unremoved
      exact .inr ⟨Ne.symm unremoved.2, before, value, rest, rfl, unremoved.1⟩
  · rintro (⟨value, rfl⟩ | ⟨kept, before, value, after, rfl, unremoved⟩)
    · exact ⟨history, value, [], rfl, by simp⟩
    · exact ⟨before, value, after ++ [change], by simp, by simp [unremoved, Ne.symm kept]⟩

theorem FirstWrittenAt.lt_length (first : FirstWrittenAt history key place) :
    place < history.length := by
  obtain ⟨before, value, after, rfl, rfl, -⟩ := first
  simp

theorem FirstWrittenAt.append (first : FirstWrittenAt history key place)
    (kept : change ≠ .removal key) : FirstWrittenAt (history ++ [change]) key place := by
  obtain ⟨before, value, after, rfl, rfl, new, unremoved⟩ := first
  exact ⟨before, value, after ++ [change], by simp, rfl, new, by simp [unremoved, Ne.symm kept]⟩

theorem firstWrittenAt_length (new : ¬ Written history key) (value : Value) :
    FirstWrittenAt (history ++ [.write key value]) key history.length :=
  ⟨history, value, [], rfl, rfl, new, by simp⟩

theorem WrittenBefore.append (inOrder : WrittenBefore history key other)
    (kept : change ≠ .removal key) (otherKept : change ≠ .removal other) :
    WrittenBefore (history ++ [change]) key other := by
  obtain ⟨place, later, first, second, before⟩ := inOrder
  exact ⟨place, later, first.append kept, second.append otherKept, before⟩

variable [DecidableEq Key]

def Change.applyTo (dictionary : OrderedDictionary Key Value) :
    Change Key Value → OrderedDictionary Key Value
  | write key value => dictionary.insert key value
  | removal key => dictionary.erase key

/-- The dictionary that changes leave of an empty one. -/
def replay (history : List (Change Key Value)) : OrderedDictionary Key Value :=
  history.foldl Change.applyTo empty

theorem replay_append (history : List (Change Key Value)) (change : Change Key Value) :
    replay (history ++ [change]) = change.applyTo (replay history) := by
  simp [replay]

/-- The entries of a dictionary are what is found in it. -/
theorem mem_entries_iff (dictionary : OrderedDictionary Key Value) (key : Key) (value : Value) :
    (key, value) ∈ dictionary.entries ↔ dictionary.find? key = some value := by
  obtain ⟨entries, nodup⟩ := dictionary
  change (key, value) ∈ entries ↔ lookup? key entries = some value
  induction entries with
  | nil => simp [lookup?]
  | cons entry rest ih =>
      obtain ⟨present, old⟩ := entry
      simp only [List.map_cons, List.nodup_cons] at nodup
      rw [lookup?, List.mem_cons, ih nodup.2, Prod.mk.injEq]
      by_cases same : present = key
      · subst same
        have notBehind : lookup? present rest ≠ some value := by
          intro found
          exact nodup.1 ((isSome_lookup?_iff present rest).mp (by simp [found]))
        simp [notBehind, eq_comm]
      · simp [same, Ne.symm same]

theorem find?_replay_iff :
    (replay history).find? key = some value ↔ LastWrite history key value := by
  induction history using List.reverseRecOn with
  | nil => simp [replay, find?_empty, LastWrite]
  | append_singleton history change ih =>
      rw [replay_append, lastWrite_append_iff]
      cases change with
      | write written held =>
          rw [Change.applyTo, find?_insert]
          by_cases same : written = key <;> simp [same, Change.key, ih]
      | removal removed =>
          rw [Change.applyTo, find?_erase]
          by_cases same : removed = key <;> simp [same, Change.key, ih]

theorem mem_keys_replay_iff : key ∈ (replay history).keys ↔ Written history key := by
  induction history using List.reverseRecOn with
  | nil => simp [replay, keys, empty, Written]
  | append_singleton history change ih =>
      rw [replay_append, written_append_iff]
      cases change with
      | write written held =>
          rw [Change.applyTo, keys_insert]
          by_cases same : written = key
          · subst same
            by_cases present : written ∈ (replay history).keys <;> simp [present]
          · by_cases present : written ∈ (replay history).keys <;>
              simp [present, ih, same, Ne.symm same]
      | removal removed =>
          rw [Change.applyTo, keys_erase]
          by_cases same : removed = key <;> simp [same, ih, eq_comm (a := key)]

theorem exists_firstWrittenAt_of_mem (present : key ∈ (replay history).keys) :
    ∃ place, FirstWrittenAt history key place := by
  induction history using List.reverseRecOn with
  | nil => simp [replay, keys, empty] at present
  | append_singleton history change ih =>
      rw [mem_keys_replay_iff, written_append_iff] at present
      by_cases before : Written history key
      · have kept : change ≠ .removal key := by
          rcases present with ⟨value, rfl⟩ | ⟨kept, -⟩
          · simp
          · exact kept
        obtain ⟨place, first⟩ := ih (mem_keys_replay_iff.mpr before)
        exact ⟨place, first.append kept⟩
      · rcases present with ⟨value, rfl⟩ | ⟨-, written⟩
        · exact ⟨history.length, firstWrittenAt_length before value⟩
        · exact absurd written before

/-- The keys stand in the order of their first writes. -/
theorem pairwise_keys_replay (history : List (Change Key Value)) :
    (replay history).keys.Pairwise (WrittenBefore history) := by
  induction history using List.reverseRecOn with
  | nil => simp [replay, keys, empty]
  | append_singleton history change ih =>
      rw [replay_append]
      cases change with
      | write key value =>
          have still : (replay history).keys.Pairwise
              (WrittenBefore (history ++ [.write key value])) :=
            ih.imp fun inOrder => inOrder.append (by simp) (by simp)
          rw [Change.applyTo, keys_insert]
          split
          · exact still
          · next absent =>
              rw [List.pairwise_append]
              refine ⟨still, List.pairwise_singleton _ _, ?_⟩
              intro earlier present last isLast
              obtain rfl := List.mem_singleton.mp isLast
              obtain ⟨place, first⟩ := exists_firstWrittenAt_of_mem present
              have new : ¬ Written history last := fun written =>
                absent (mem_keys_replay_iff.mpr written)
              exact ⟨place, history.length, first.append (by simp),
                firstWrittenAt_length new value, first.lt_length⟩
      | removal removed =>
          -- The keys that are left are not the removed one, so their first writes still count.
          rw [Change.applyTo, keys_erase]
          refine (ih.filter _).imp_of_mem ?_
          intro key other present otherPresent inOrder
          simp only [List.mem_filter, decide_eq_true_eq] at present otherPresent
          exact inOrder.append (by simpa using Ne.symm present.2)
            (by simpa using Ne.symm otherPresent.2)

/-! ### Dictionaries of lists -/

theorem ofList_eq_replay (entries : List (Key × Value)) :
    ofList entries = replay (entries.map fun entry => .write entry.1 entry.2) := by
  rw [replay, List.foldl_map]
  rfl

/-- Entries written into a dictionary add their new keys behind the others. -/
theorem keys_insertAll (dictionary : OrderedDictionary Key Value) (entries : List (Key × Value)) :
    (dictionary.insertAll entries).keys = dictionary.keys ++
      ((entries.map Prod.fst).filter (· ∉ dictionary.keys)).eraseDups := by
  induction entries generalizing dictionary with
  | nil => simp [insertAll]
  | cons entry rest ih =>
      change ((dictionary.insert entry.1 entry.2).insertAll rest).keys = _
      rw [ih, List.map_cons, append_new_cons, keys_insert]

theorem keys_ofList (entries : List (Key × Value)) :
    (ofList entries).keys = (entries.map Prod.fst).eraseDups := by
  rw [ofList, keys_insertAll, List.filter_eq_self.mpr (by simp [keys, empty])]
  rfl

/-- Of the items of a list that give a key a value, the last one counts. -/
theorem find?_ofList_filterMap_iff {Item : Type} {given? : Item → Option (Key × Value)}
    {items : List Item} :
    (ofList (items.filterMap given?)).find? key = some value ↔
      ∃ before item after, items = before ++ item :: after ∧ given? item = some (key, value) ∧
        ∀ later ∈ after, ∀ other, given? later ≠ some (key, other) := by
  rw [ofList_eq_replay, find?_replay_iff, List.map_filterMap]
  constructor
  · rintro ⟨before, after, divided, unchanged⟩
    -- The items in front of the last write include those right before it that give nothing.
    obtain ⟨earlier, fromHere, rfl, -, here⟩ := List.filterMap_eq_append_iff.mp divided
    obtain ⟨silent, item, rest, rfl, -, gives, rfl⟩ := List.filterMap_eq_cons_iff.mp here
    refine ⟨earlier ++ silent, item, rest, by simp, ?_, ?_⟩
    · obtain ⟨⟨_, _⟩, given, same⟩ := Option.map_eq_some_iff.mp gives
      cases same
      exact given
    · intro later isLater other given
      exact unchanged (.write key other)
        (List.mem_filterMap.mpr ⟨later, isLater, by rw [given, Option.map_some]⟩) rfl
  · rintro ⟨before, item, after, rfl, given, last⟩
    rw [List.filterMap_append, List.filterMap_cons_some (by rw [given, Option.map_some])]
    refine ⟨_, _, rfl, ?_⟩
    intro change changes
    obtain ⟨later, isLater, gives⟩ := List.mem_filterMap.mp changes
    obtain ⟨⟨other, held⟩, laterGiven, rfl⟩ := Option.map_eq_some_iff.mp gives
    rintro rfl
    exact last later isLater held laterGiven

end OrderedDictionary

end BackOfEnvelope
