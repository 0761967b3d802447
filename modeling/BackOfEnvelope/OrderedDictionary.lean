/-!
# Dictionaries that remember their order

A dictionary whose entries stay in the order in which their keys were first
written.  Writing a key again keeps its place, and erasing a key keeps the
order of the others.  That no key occurs twice is part of the type, so every
operation has to show that it keeps it so.  A dictionary is seen through `find?`
and `keys`, and the lemmas at the end say what each operation does to these two.
-/

namespace BackOfEnvelope

namespace OrderedDictionary

variable {Key Value : Type} [DecidableEq Key]

/-- The value at the first entry with a key. -/
def lookup? (key : Key) : List (Key × Value) → Option Value
  | [] => none
  | (present, value) :: rest => if present = key then some value else lookup? key rest

/-- Replace the value at the first entry with a key, or add an entry at the
end. -/
def writeEntry (key : Key) (value : Value) : List (Key × Value) → List (Key × Value)
  | [] => [(key, value)]
  | (present, old) :: rest =>
      if present = key then (present, value) :: rest
      else (present, old) :: writeEntry key value rest

theorem mem_keys_writeEntry (key other : Key) (value : Value) (entries : List (Key × Value)) :
    other ∈ (writeEntry key value entries).map Prod.fst ↔
      other = key ∨ other ∈ entries.map Prod.fst := by
  induction entries with
  | nil => simp [writeEntry]
  | cons entry rest ih =>
      obtain ⟨present, old⟩ := entry
      by_cases same : present = key
      · simp [writeEntry, same]
      · simp only [writeEntry, same, if_false, List.map_cons, List.mem_cons, ih]
        constructor
        · rintro (h | h | h) <;> simp [h]
        · rintro (h | h | h) <;> simp [h]

theorem nodup_keys_writeEntry (key : Key) (value : Value) {entries : List (Key × Value)}
    (nodup : (entries.map Prod.fst).Nodup) :
    ((writeEntry key value entries).map Prod.fst).Nodup := by
  induction entries with
  | nil => simp [writeEntry]
  | cons entry rest ih =>
      obtain ⟨present, old⟩ := entry
      simp only [List.map_cons, List.nodup_cons] at nodup
      by_cases same : present = key
      · simpa [writeEntry, same] using nodup
      · simp only [writeEntry, same, if_false, List.map_cons, List.nodup_cons]
        refine ⟨?_, ih nodup.2⟩
        rw [mem_keys_writeEntry]
        rintro (h | h)
        · exact same h
        · exact nodup.1 h

/-- A key that was written has the written value, and every other key its old one. -/
theorem lookup?_writeEntry (key other : Key) (value : Value) (entries : List (Key × Value)) :
    lookup? other (writeEntry key value entries) =
      if key = other then some value else lookup? other entries := by
  induction entries with
  | nil => simp [writeEntry, lookup?]
  | cons entry rest ih =>
      obtain ⟨present, old⟩ := entry
      by_cases same : present = key
      · subst same
        simp only [writeEntry, if_pos, lookup?]
        split <;> rfl
      · simp only [writeEntry, same, if_false, lookup?, ih]
        by_cases here : present = other
        · have : key ≠ other := fun h => same (here.trans h.symm)
          simp [here, this]
        · simp [here]

/-- A value is found for the keys of the entries and for no others. -/
theorem isSome_lookup?_iff (key : Key) (entries : List (Key × Value)) :
    (lookup? key entries).isSome ↔ key ∈ entries.map Prod.fst := by
  induction entries with
  | nil => simp [lookup?]
  | cons entry rest ih =>
      obtain ⟨present, old⟩ := entry
      by_cases same : present = key
      · simp [lookup?, same]
      · simp only [lookup?, same, if_false, ih, List.map_cons, List.mem_cons]
        constructor
        · exact Or.inr
        · rintro (h | h)
          · exact absurd h.symm same
          · exact h

/-- Writing a new key adds it behind the others; writing a key again moves none. -/
theorem keys_writeEntry (key : Key) (value : Value) (entries : List (Key × Value)) :
    (writeEntry key value entries).map Prod.fst =
      if key ∈ entries.map Prod.fst then entries.map Prod.fst
      else entries.map Prod.fst ++ [key] := by
  induction entries with
  | nil => simp [writeEntry]
  | cons entry rest ih =>
      obtain ⟨present, old⟩ := entry
      by_cases same : present = key
      · simp [writeEntry, same]
      · have different : key ≠ present := fun h => same h.symm
        simp only [writeEntry, same, if_false, List.map_cons, List.mem_cons, different, false_or,
          ih]
        split <;> rfl

/-- Dropping the entries with a key makes it absent and leaves the other keys as they
are. -/
theorem lookup?_filter (key other : Key) (entries : List (Key × Value)) :
    lookup? other (entries.filter fun entry => entry.1 ≠ key) =
      if key = other then none else lookup? other entries := by
  induction entries with
  | nil => simp [lookup?]
  | cons entry rest ih =>
      obtain ⟨present, old⟩ := entry
      by_cases erased : present = key
      · subst erased
        simp only [List.filter_cons, ne_eq, not_true_eq_false, decide_false, Bool.false_eq_true,
          if_false, lookup?]
        simp only [ne_eq] at ih
        rw [ih]
        split <;> rfl
      · simp only [List.filter_cons, ne_eq, erased, not_false_eq_true, decide_true, if_true,
          lookup?]
        simp only [ne_eq] at ih
        rw [ih]
        by_cases here : present = other
        · have : key ≠ other := fun h => erased (here.trans h.symm)
          simp [here, this]
        · simp [here]

/-- Changing the values changes what is found and nothing else. -/
theorem lookup?_map {Other : Type} (change : Key → Value → Other) (key : Key)
    (entries : List (Key × Value)) :
    lookup? key (entries.map fun entry => (entry.1, change entry.1 entry.2)) =
      (lookup? key entries).map (change key) := by
  induction entries with
  | nil => rfl
  | cons entry rest ih =>
      obtain ⟨present, old⟩ := entry
      rw [List.map_cons, lookup?, lookup?]
      split
      · next same => rw [Option.map_some, same]
      · exact ih

end OrderedDictionary

/-- Entries with distinct keys, in the order in which the keys were first
written. -/
structure OrderedDictionary (Key Value : Type) where
  /-- The entries in order. -/
  entries : List (Key × Value)
  keysNodup : (entries.map Prod.fst).Nodup

namespace OrderedDictionary

variable {Key Value : Type} [DecidableEq Key]

def empty : OrderedDictionary Key Value :=
  ⟨[], by simp⟩

instance : Inhabited (OrderedDictionary Key Value) := ⟨empty⟩

/-- The keys in order. -/
def keys (dictionary : OrderedDictionary Key Value) : List Key :=
  dictionary.entries.map Prod.fst

/-- The values in the order of their keys. -/
def values (dictionary : OrderedDictionary Key Value) : List Value :=
  dictionary.entries.map Prod.snd

def size (dictionary : OrderedDictionary Key Value) : Nat :=
  dictionary.entries.length

def isEmpty (dictionary : OrderedDictionary Key Value) : Bool :=
  dictionary.entries.isEmpty

def find? (dictionary : OrderedDictionary Key Value) (key : Key) : Option Value :=
  lookup? key dictionary.entries

def contains (dictionary : OrderedDictionary Key Value) (key : Key) : Bool :=
  (dictionary.find? key).isSome

/-- Write a key; a new one goes to the end. -/
def insert (dictionary : OrderedDictionary Key Value) (key : Key) (value : Value) :
    OrderedDictionary Key Value :=
  ⟨writeEntry key value dictionary.entries,
    nodup_keys_writeEntry key value dictionary.keysNodup⟩

def erase (dictionary : OrderedDictionary Key Value) (key : Key) :
    OrderedDictionary Key Value :=
  ⟨dictionary.entries.filter (fun entry => entry.1 ≠ key),
    (List.filter_sublist.map Prod.fst).nodup dictionary.keysNodup⟩

def insertAll (dictionary : OrderedDictionary Key Value) (entries : List (Key × Value)) :
    OrderedDictionary Key Value :=
  entries.foldl (fun soFar entry => soFar.insert entry.1 entry.2) dictionary

/-- The dictionary that writing the entries one after the other makes. -/
def ofList (entries : List (Key × Value)) : OrderedDictionary Key Value :=
  empty.insertAll entries

/-- Change every value, keeping keys and order. -/
def mapValues {Other : Type} (change : Key → Value → Other)
    (dictionary : OrderedDictionary Key Value) : OrderedDictionary Key Other :=
  ⟨dictionary.entries.map fun entry => (entry.1, change entry.1 entry.2), by
    simpa [Function.comp_def] using dictionary.keysNodup⟩

theorem mem_keys_iff (dictionary : OrderedDictionary Key Value) (key : Key) :
    key ∈ dictionary.keys ↔ dictionary.contains key = true :=
  (isSome_lookup?_iff key dictionary.entries).symm

theorem find?_empty (key : Key) : (empty : OrderedDictionary Key Value).find? key = none :=
  rfl

theorem find?_insert (dictionary : OrderedDictionary Key Value) (key other : Key)
    (value : Value) :
    (dictionary.insert key value).find? other =
      if key = other then some value else dictionary.find? other :=
  lookup?_writeEntry key other value dictionary.entries

theorem find?_erase (dictionary : OrderedDictionary Key Value) (key other : Key) :
    (dictionary.erase key).find? other =
      if key = other then none else dictionary.find? other :=
  lookup?_filter key other dictionary.entries

theorem keys_insert (dictionary : OrderedDictionary Key Value) (key : Key) (value : Value) :
    (dictionary.insert key value).keys =
      if key ∈ dictionary.keys then dictionary.keys else dictionary.keys ++ [key] :=
  keys_writeEntry key value dictionary.entries

theorem keys_erase (dictionary : OrderedDictionary Key Value) (key : Key) :
    (dictionary.erase key).keys = dictionary.keys.filter fun present => present ≠ key := by
  simp [keys, erase, List.filter_map, Function.comp_def]

theorem find?_mapValues {Other : Type} (change : Key → Value → Other)
    (dictionary : OrderedDictionary Key Value) (key : Key) :
    (dictionary.mapValues change).find? key = (dictionary.find? key).map (change key) :=
  lookup?_map change key dictionary.entries

omit [DecidableEq Key] in
theorem keys_mapValues {Other : Type} (change : Key → Value → Other)
    (dictionary : OrderedDictionary Key Value) :
    (dictionary.mapValues change).keys = dictionary.keys := by
  simp [keys, mapValues, Function.comp_def]

end OrderedDictionary

end BackOfEnvelope
