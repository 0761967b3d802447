import BackOfEnvelope.DataFile

/-!
# Markdown export

A data file as Markdown, with a heading for every entry and a list of its
fields.  A field without text is shown as not available.
-/

namespace BackOfEnvelope

namespace MarkdownExport

/-- What is shown for a field without text. -/
def notAvailable : String := "N/A"

def fieldText (value : Option Yaml) : String :=
  (value.bind Yaml.cellText?).getD notAvailable

def listItem (label text : String) : String :=
  "- **" ++ label ++ "**: " ++ text ++ "\n"

/-- A heading with a list below. -/
def entrySection (heading : String) (items : List (String × String)) : String :=
  "## " ++ heading ++ "\n\n" ++
    String.join (items.map fun item => listItem item.1 item.2) ++ "\n"

/-- The labels and names of the fields of an input. -/
def inputFields : List (String × String) :=
  [("Value", "value"), ("Units", "units"), ("Description", "value_description"),
    ("Variable Type", "variable_type"), ("Confidence in Number", "confidence_in_number"),
    ("Key Assumption", "key_assumption"), ("Source URL", "source_url"),
    ("Source Notes", "source_notes")]

def inputSection (entry : InputEntry) : String :=
  entrySection (entry.variableName?.getD "Unnamed Variable")
    (inputFields.map fun (label, field) => (label, fieldText (entry.fields.get? field)))

def inputs (data : DataFile) : String :=
  "# Inputs Data\n\n" ++ String.join (data.inputEntries.map inputSection)

def calculationSection (entry : CalculationEntry) : String :=
  entrySection (entry.title?.getD "Unnamed Calculation")
    [("Description", fieldText (entry.fields.get? "description")),
      ("Inputs", ", ".intercalate (entry.inputNames?.getD [])),
      ("Result Label", fieldText (entry.resultField? "label")),
      ("Units", fieldText (entry.resultField? "units")),
      ("Value", fieldText (entry.resultField? "value")),
      ("Explanation", fieldText (entry.fields.get? "explanation"))]

def calculations (data : DataFile) : String :=
  "# Calculations Data\n\n" ++ String.join (data.calculationEntries.map calculationSection)

end MarkdownExport

end BackOfEnvelope
