import BackOfEnvelope.DataFile

/-!
# CSV export

A data file as rows of cells.  A cell with a comma, a quotation mark or a line
break stands between quotation marks, and quotation marks inside are doubled.
A field without text is an empty cell.
-/

namespace BackOfEnvelope

namespace CsvExport

def needsQuotes (cell : List Char) : Bool :=
  cell.any fun c => c = ',' || c = '"' || c = '\r' || c = '\n'

/-- The characters of a cell with doubled quotation marks. -/
def doubleQuotes (cell : List Char) : List Char :=
  cell.flatMap fun c => if c = '"' then ['"', '"'] else [c]

def writeCell (cell : List Char) : List Char :=
  if needsQuotes cell then '"' :: (doubleQuotes cell ++ ['"']) else cell

def writeCells : List (List Char) → List Char
  | [] => []
  | [cell] => writeCell cell
  | cell :: rest => writeCell cell ++ ',' :: writeCells rest

/-- A row with its line break. -/
def writeRow (cells : List String) : List Char :=
  writeCells (cells.map String.toList) ++ ['\n']

def writeRows (rows : List (List String)) : String :=
  String.ofList (rows.flatMap writeRow)

def fieldText (value : Option Yaml) : String :=
  (value.bind Yaml.cellText?).getD ""

/-- The columns of inputs, which are named like the fields. -/
def inputColumns : List String :=
  ["variable", "value", "units", "value_description", "variable_type", "confidence_in_number",
    "key_assumption", "source_url", "source_notes"]

/-- The columns of calculations. -/
def calculationColumns : List String :=
  ["title", "description", "inputs", "result_label", "result_units", "result_value",
    "explanation"]

def inputRow (entry : InputEntry) : List String :=
  inputColumns.map fun column => fieldText (entry.fields.get? column)

def calculationRow (entry : CalculationEntry) : List String :=
  [fieldText (entry.fields.get? "title"), fieldText (entry.fields.get? "description"),
    ", ".intercalate (entry.inputNames?.getD []), fieldText (entry.resultField? "label"),
    fieldText (entry.resultField? "units"), fieldText (entry.resultField? "value"),
    fieldText (entry.fields.get? "explanation")]

def inputs (data : DataFile) : String :=
  writeRows (inputColumns :: data.inputEntries.map inputRow)

def calculations (data : DataFile) : String :=
  writeRows (calculationColumns :: data.calculationEntries.map calculationRow)

end CsvExport

end BackOfEnvelope
