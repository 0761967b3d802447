import BackOfEnvelope.CsvExport
import Mathlib.Data.List.Forall2

/-!
# Reading exported rows

A reader of comma separated values goes through a text once.  Quotation marks enclose a cell if
they stand at its beginning, and then commas and line ends are part of the cell and two quotation
marks stand for one.  Carriage returns and line feeds end rows, and lines without any characters
are no rows.  Such a reader finds in an export the rows that were written.
-/

namespace BackOfEnvelope

theorem Yaml.lookup?_append_of_forall_ne {name : String} {before : List (Yaml × Yaml)}
    (others : ∀ entry ∈ before, entry.1 ≠ .text name) (rest : List (Yaml × Yaml)) :
    lookup? name (before ++ rest) = lookup? name rest := by
  induction before with
  | nil => rfl
  | cons entry before ih =>
      rw [List.forall_mem_cons] at others
      obtain ⟨key, value⟩ := entry
      cases key with
      | text present =>
          have different : present ≠ name := fun same => others.1 (congrArg Yaml.text same)
          rw [List.cons_append, lookup?, if_neg different]
          exact ih others.2
      | null | boolean _ | integer _ | float _ | sequence _ | mapping _ | tagged _ _ =>
          exact ih others.2

namespace CsvReading

/-- Where in a cell the reader is. -/
inductive CellPlace where
  | start
  | plain
  /-- Between quotation marks. -/
  | quoted
  /-- Behind a quotation mark that ends the cell, if it is not the first of two. -/
  | afterQuote
  deriving DecidableEq

/-- What has been read of the present cell, of its row and of the text. -/
structure Reader where
  place : CellPlace
  cell : List Char
  row : List String
  rows : List (List String)

def isLineEnd (c : Char) : Bool :=
  c = '\n' || c = '\r'

namespace Reader

def initial : Reader :=
  ⟨.start, [], [], []⟩

/-- Nothing of the present line has been read. -/
def isBlank (reader : Reader) : Bool :=
  reader.place = .start && reader.row.isEmpty

def keep (reader : Reader) (place : CellPlace) (c : Char) : Reader :=
  { reader with place, cell := reader.cell ++ [c] }

def endCell (reader : Reader) : Reader :=
  { reader with place := .start, cell := [], row := reader.row ++ [String.ofList reader.cell] }

/-- End the cell and the row, unless the line is blank. -/
def endRow (reader : Reader) : Reader :=
  if reader.isBlank then reader
  else { reader.endCell with row := [], rows := reader.rows ++ [reader.endCell.row] }

/-- Read a character that does not stand between quotation marks. -/
def readOutside (reader : Reader) (c : Char) : Reader :=
  if c = ',' then reader.endCell
  else if isLineEnd c then reader.endRow
  else reader.keep .plain c

def step (reader : Reader) (c : Char) : Reader :=
  match reader.place with
  | .start => if c = '"' then { reader with place := .quoted } else reader.readOutside c
  | .plain => reader.readOutside c
  | .quoted =>
      if c = '"' then { reader with place := .afterQuote } else reader.keep .quoted c
  | .afterQuote => if c = '"' then reader.keep .quoted c else reader.readOutside c

end Reader

/-- The rows of a text.  The end of the text ends the last row. -/
def read (text : String) : List (List String) :=
  (text.toList.foldl Reader.step Reader.initial).endRow.rows

example : read "a,\"b \"\"c\"\"\r\n\"\r\n\r\n,d" = [["a", "b \"c\"\r\n"], ["", "d"]] := by
  decide

open CsvExport Reader

variable {place : CellPlace} {cell before : List Char} {cells : List (List Char)}
variable {row : List String} {rows others : List (List String)}

theorem step_comma (outside : place ≠ .quoted) :
    step ⟨place, cell, row, rows⟩ ',' = ⟨.start, [], row ++ [String.ofList cell], rows⟩ := by
  cases place with
  | quoted => exact absurd rfl outside
  | _ => rfl

theorem step_lineFeed (outside : place ≠ .quoted) (notBlank : place = .start → row ≠ []) :
    step ⟨place, cell, row, rows⟩ '\n' =
      ⟨.start, [], [], rows ++ [row ++ [String.ofList cell]]⟩ := by
  cases place with
  | start =>
      have someCells := notBlank rfl
      simp [step, readOutside, isLineEnd, endRow, isBlank, endCell, someCells]
  | quoted => exact absurd rfl outside
  | _ => rfl

/-- Doubled quotation marks do not end a cell. -/
theorem foldl_doubleQuotes (cell : List Char) :
    (doubleQuotes cell).foldl step ⟨.quoted, before, row, rows⟩ =
      ⟨.quoted, before ++ cell, row, rows⟩ := by
  induction cell generalizing before with
  | nil => simp [doubleQuotes]
  | cons c cell ih =>
      -- Two quotation marks lead out of the cell and back into it.
      have same : doubleQuotes (c :: cell) =
          (if c = '"' then ['"', '"'] else [c]) ++ doubleQuotes cell := rfl
      rw [same, List.foldl_append, List.append_cons before c cell, ← ih]
      congr 1
      by_cases quote : c = '"'
      · subst quote
        rfl
      · simp [step, keep, quote]

theorem step_ordinary {c : Char} (outside : place ≠ .quoted)
    (ordinary : ¬ (c = ',' || c = '"' || c = '\r' || c = '\n') = true) :
    step ⟨place, before, row, rows⟩ c = ⟨.plain, before ++ [c], row, rows⟩ := by
  simp only [Bool.or_eq_true, decide_eq_true_eq, not_or] at ordinary
  obtain ⟨⟨⟨comma, quote⟩, carriageReturn⟩, lineFeed⟩ := ordinary
  cases place with
  | quoted => exact absurd rfl outside
  | _ => simp [step, readOutside, isLineEnd, keep, comma, quote, carriageReturn, lineFeed]

/-- A cell without quotation marks around it is read as it is; only the empty one is not begun. -/
theorem foldl_plain (outside : place ≠ .quoted) (ordinary : needsQuotes cell = false) :
    cell.foldl step ⟨place, before, row, rows⟩ =
      ⟨if cell = [] then place else .plain, before ++ cell, row, rows⟩ := by
  induction cell generalizing place before with
  | nil => simp
  | cons c cell ih =>
      rw [needsQuotes, List.any_cons, Bool.or_eq_false_iff] at ordinary
      rw [List.foldl_cons, step_ordinary outside (by simp [ordinary.1]), ih (by simp) ordinary.2]
      simp

/-- Behind a written cell the reader holds the cell and can end it. -/
theorem exists_foldl_writeCell (cell : List Char) (row : List String)
    (rows : List (List String)) :
    ∃ place, place ≠ .quoted ∧ (place = .start → cell = []) ∧
      (writeCell cell).foldl step ⟨.start, [], row, rows⟩ = ⟨place, cell, row, rows⟩ := by
  unfold writeCell
  split
  · refine ⟨.afterQuote, by simp, by simp, ?_⟩
    have opened : step ⟨.start, [], row, rows⟩ '"' = ⟨.quoted, [], row, rows⟩ := rfl
    rw [List.foldl_cons, opened, List.foldl_append, foldl_doubleQuotes]
    rfl
  · next ordinary =>
      refine ⟨if cell = [] then .start else .plain, ?_, ?_, ?_⟩
      · split <;> simp
      · simp
      · exact foldl_plain (by simp) (by simpa using ordinary)

/-- With a line feed behind them written cells end a row, unless the line is blank. -/
theorem foldl_writeCells (someCells : cells ≠ [])
    (notBlank : row ++ cells.map String.ofList ≠ [""]) :
    (writeCells cells ++ ['\n']).foldl step ⟨.start, [], row, rows⟩ =
      ⟨.start, [], [], rows ++ [row ++ cells.map String.ofList]⟩ := by
  induction cells generalizing row with
  | nil => exact absurd rfl someCells
  | cons cell others ih =>
      obtain ⟨place, outside, empty, reads⟩ := exists_foldl_writeCell cell row rows
      -- Only the last cell of a row can leave the line blank: behind a comma the row has a cell.
      cases others with
      | nil =>
          have begun : place = .start → row ≠ [] := by
            rintro atStart rfl
            rw [empty atStart] at notBlank
            exact notBlank rfl
          rw [writeCells, List.foldl_append, reads, List.foldl_cons, List.foldl_nil,
            step_lineFeed outside begun]
          rfl
      | cons other others =>
          have several : row ++ [String.ofList cell] ++ (other :: others).map String.ofList ≠
              [""] := by
            intro same
            have lengths := congrArg List.length same
            simp only [List.length_append, List.length_map, List.length_cons, List.length_nil]
              at lengths
            omega
          have divided : writeCells (cell :: other :: others) =
              writeCell cell ++ ',' :: writeCells (other :: others) := rfl
          rw [divided, List.append_assoc, List.foldl_append, reads, List.cons_append,
            List.foldl_cons, step_comma outside, ih (List.cons_ne_nil _ _) several]
          simp

theorem foldl_writeRow (someCells : row ≠ []) (notBlank : row ≠ [""]) :
    (writeRow row).foldl step ⟨.start, [], [], rows⟩ = ⟨.start, [], [], rows ++ [row]⟩ := by
  have same : (row.map String.toList).map String.ofList = row := by
    simp [Function.comp_def]
  rw [writeRow, foldl_writeCells (by simpa using someCells) (by simpa [same] using notBlank), same]
  rfl

theorem foldl_writeRows (notBlank : ∀ row ∈ others, row ≠ [] ∧ row ≠ [""]) :
    (others.flatMap writeRow).foldl step ⟨.start, [], [], rows⟩ =
      ⟨.start, [], [], rows ++ others⟩ := by
  induction others generalizing rows with
  | nil => simp
  | cons row others ih =>
      rw [List.forall_mem_cons] at notBlank
      rw [List.flatMap_cons, List.foldl_append, foldl_writeRow notBlank.1.1 notBlank.1.2,
        ih notBlank.2, List.append_assoc]
      rfl

/-- Reading gives the rows that were written, whatever texts their cells hold, if no row is
written as a blank line. -/
theorem read_writeRows (notBlank : ∀ row ∈ rows, row ≠ [] ∧ row ≠ [""]) :
    read (writeRows rows) = rows := by
  rw [read, writeRows, String.toList_ofList, initial, foldl_writeRows notBlank]
  rfl

theorem read_writeRows_of_length {size : Nat} (several : 1 < size)
    (sized : ∀ row ∈ rows, row.length = size) : read (writeRows rows) = rows := by
  refine read_writeRows fun row member => ?_
  have length := sized row member
  constructor <;>
  · rintro rfl
    simp only [List.length_cons, List.length_nil] at length
    omega

/-- The text that an export has for a field. -/
def exportText (field : Option Yaml) : String :=
  (field.bind Yaml.cellText?).getD ""

/-- A cell shows the names in a list, and is empty without one. -/
structure ShowsNames (field : Option Yaml) (cell : String) : Prop where
  listed : ∀ items, field = some (.sequence items) →
    cell = ", ".intercalate (items.map fun item => item.scalarText?.getD "")
  notListed : (∀ items, field ≠ some (.sequence items)) → cell = ""

/-- A cell shows the first value with a name in a mapping, and is empty without one. -/
structure ShowsInside (field : Option Yaml) (name cell : String) : Prop where
  held : ∀ before value after,
    field = some (.mapping (before ++ (.text name, value) :: after)) →
      (∀ entry ∈ before, entry.1 ≠ .text name) → cell = exportText (some value)
  notHeld : ∀ entries, field = some (.mapping entries) →
    (∀ entry ∈ entries, entry.1 ≠ .text name) → cell = ""
  noMapping : (∀ entries, field ≠ some (.mapping entries)) → cell = ""

/-- The cells of a calculation in the order of the columns. -/
def IsRowOf (entry : CalculationEntry) (row : List String) : Prop :=
  ∃ names label units value, ShowsNames (entry.fields.get? "inputs") names ∧
    ShowsInside (entry.fields.get? "result") "label" label ∧
    ShowsInside (entry.fields.get? "result") "units" units ∧
    ShowsInside (entry.fields.get? "result") "value" value ∧
    row = [exportText (entry.fields.get? "title"), exportText (entry.fields.get? "description"),
      names, label, units, value, exportText (entry.fields.get? "explanation")]

theorem showsNames_inputNames? (entry : CalculationEntry) :
    ShowsNames (entry.fields.get? "inputs") (", ".intercalate (entry.inputNames?.getD [])) where
  listed := by
    intro items given
    simp only [CalculationEntry.inputNames?, given, Option.getD_some]
  notListed := by
    intro noList
    unfold CalculationEntry.inputNames?
    split
    · next items given => exact absurd given (noList items)
    · rfl

theorem showsInside_resultField? (entry : CalculationEntry) (name : String) :
    ShowsInside (entry.fields.get? "result") name (fieldText (entry.resultField? name)) where
  held := by
    intro before value after given others
    simp only [CalculationEntry.resultField?, given, Yaml.lookup?_append_of_forall_ne others,
      Yaml.lookup?, if_true]
    rfl
  notHeld := by
    intro entries given others
    have none := Yaml.lookup?_append_of_forall_ne others []
    rw [List.append_nil] at none
    simp only [CalculationEntry.resultField?, given, none]
    rfl
  noMapping := by
    intro noMapping
    unfold CalculationEntry.resultField?
    split
    · next entries given => exact absurd given (noMapping entries)
    · rfl

theorem isRowOf_calculationRow (entry : CalculationEntry) : IsRowOf entry (calculationRow entry) :=
  ⟨_, _, _, _, showsNames_inputNames? entry, showsInside_resultField? entry "label",
    showsInside_resultField? entry "units", showsInside_resultField? entry "value", rfl⟩

/-- Reading the exports of a data file gives their columns and one row for each entry in order, with
a cell for each column.  A field without text is an empty cell. -/
theorem read_exports (data : DataFile) :
    read (inputs data) = inputColumns :: (data.inputs.getD []).map (fun entry =>
      inputColumns.map fun column => exportText (entry.fields.get? column)) ∧
    (∀ row ∈ read (inputs data), row.length = 9) ∧
    (∃ rows, read (calculations data) = calculationColumns :: rows ∧
      List.Forall₂ IsRowOf (data.calculations.getD []) rows) ∧
    ∀ row ∈ read (calculations data), row.length = 7 := by
  have inputLength : ∀ row ∈ inputColumns :: data.inputEntries.map inputRow, row.length = 9 := by
    simp [inputColumns, inputRow]
  have calculationLength :
      ∀ row ∈ calculationColumns :: data.calculationEntries.map calculationRow,
        row.length = 7 := by
    simp [calculationColumns, calculationRow]
  have readInputs : read (inputs data) = inputColumns :: data.inputEntries.map inputRow :=
    read_writeRows_of_length (by decide) inputLength
  have readCalculations : read (calculations data) =
      calculationColumns :: data.calculationEntries.map calculationRow :=
    read_writeRows_of_length (by decide) calculationLength
  have rows : List.Forall₂ IsRowOf (data.calculations.getD [])
      (data.calculationEntries.map calculationRow) := by
    rw [List.forall₂_map_right_iff]
    exact List.forall₂_same.mpr fun entry _ => isRowOf_calculationRow entry
  rw [readInputs, readCalculations]
  exact ⟨rfl, inputLength, ⟨_, rfl, rows⟩, calculationLength⟩

/-- The texts have all the characters that need quotation marks, and many fields are missing. -/
theorem read_exports_of_marked_texts :
    let entry : InputEntry := ⟨[("units", .text "\"kg\",\r\n\"t\""), ("value", .integer 2)]⟩
    let sum : CalculationEntry := ⟨[("inputs", .sequence [.text "a", .null, .integer 2]),
      ("result", .mapping [(.integer 1, .null), (.text "value", .integer 3),
        (.text "label", .text "x, \"y\"")]), ("title", .text "All\n")]⟩
    let data : DataFile := ⟨some [entry], some [sum]⟩
    read (inputs data) =
        [["variable", "value", "units", "value_description", "variable_type",
          "confidence_in_number", "key_assumption", "source_url", "source_notes"],
        ["", "2", "\"kg\",\r\n\"t\"", "", "", "", "", "", ""]] ∧
      read (calculations data) =
        [["title", "description", "inputs", "result_label", "result_units", "result_value",
          "explanation"],
        ["All\n", "", "a, , 2", "x, \"y\"", "", "3", ""]] := by
  intro entry sum data
  obtain ⟨ofInputs, -, ⟨rows, ofCalculations, areRows⟩, -⟩ := read_exports data
  refine ⟨ofInputs.trans rfl, ?_⟩
  rcases areRows with
    _ | ⟨⟨names, label, units, value, ofNames, ofLabel, ofUnits, ofValue, rfl⟩, ⟨⟩⟩
  rw [ofCalculations, ofNames.listed _ rfl, ofUnits.notHeld _ rfl (by simp),
    ofLabel.held [(.integer 1, .null), (.text "value", .integer 3)] _ [] rfl (by simp),
    ofValue.held [(.integer 1, .null)] _ [(.text "label", .text "x, \"y\"")] rfl (by simp)]
  rfl

end CsvReading

end BackOfEnvelope
