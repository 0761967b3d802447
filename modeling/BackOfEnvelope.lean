import BackOfEnvelope.Binary64
import BackOfEnvelope.CalculationValidation
import BackOfEnvelope.CharacterClasses
import BackOfEnvelope.CharacterWidth
import BackOfEnvelope.CommandArguments
import BackOfEnvelope.CommandReach
import BackOfEnvelope.Commands
import BackOfEnvelope.Configuration
import BackOfEnvelope.Content
import BackOfEnvelope.ContentBundle
import BackOfEnvelope.ContentIndex
import BackOfEnvelope.ContentLoading
import BackOfEnvelope.ContentQueries
import BackOfEnvelope.CsvExport
import BackOfEnvelope.DataFile
import BackOfEnvelope.DecimalDigits
import BackOfEnvelope.DisplayWidth
import BackOfEnvelope.Expression
import BackOfEnvelope.ExpressionEvaluation
import BackOfEnvelope.ExpressionParsing
import BackOfEnvelope.ExpressionToken
import BackOfEnvelope.FileSystem
import BackOfEnvelope.FileTree
import BackOfEnvelope.FrontMatter
import BackOfEnvelope.InputValidation
import BackOfEnvelope.Json
import BackOfEnvelope.JsonReading
import BackOfEnvelope.JsonText
import BackOfEnvelope.LetterLigature
import BackOfEnvelope.Listing
import BackOfEnvelope.Main
import BackOfEnvelope.MarkdownExport
import BackOfEnvelope.Namespace
import BackOfEnvelope.NumberDisplay
import BackOfEnvelope.NumberReading
import BackOfEnvelope.NumberText
import BackOfEnvelope.NumericValue
import BackOfEnvelope.Operation
import BackOfEnvelope.OrderedDictionary
import BackOfEnvelope.Path
import BackOfEnvelope.PathExpansion
import BackOfEnvelope.Pictograph
import BackOfEnvelope.Pipeline
import BackOfEnvelope.Placeholder
import BackOfEnvelope.Record
import BackOfEnvelope.SortedFields
import BackOfEnvelope.Text
import BackOfEnvelope.TextTable
import BackOfEnvelope.Toml
import BackOfEnvelope.TomlReading
import BackOfEnvelope.ValidationReport
import BackOfEnvelope.VariableName
import BackOfEnvelope.Yaml
import BackOfEnvelope.YamlCharacters
import BackOfEnvelope.YamlDocument
import BackOfEnvelope.YamlFolding
import BackOfEnvelope.YamlLayout
import BackOfEnvelope.YamlNode
import BackOfEnvelope.YamlScalar
import BackOfEnvelope.YamlToken
import BackOfEnvelope.Proofs.CalculationReport
import BackOfEnvelope.Proofs.ExpressionBeginnings
import BackOfEnvelope.Proofs.ExpressionDeadEnds
import BackOfEnvelope.Proofs.ExpressionErrors
import BackOfEnvelope.Proofs.ExpressionGrammar
import BackOfEnvelope.Proofs.ExpressionParts
import BackOfEnvelope.Proofs.ExpressionPlaces
import BackOfEnvelope.Proofs.ExpressionReading
import BackOfEnvelope.Proofs.OperationWireForm
import BackOfEnvelope.Proofs.PipelineBindings
import BackOfEnvelope.Proofs.PipelineDecoding
import BackOfEnvelope.Proofs.PipelineOrder
import BackOfEnvelope.Proofs.PipelineReads
import BackOfEnvelope.Proofs.ScenarioCategories
import BackOfEnvelope.Proofs.Binary64Finiteness
import BackOfEnvelope.Proofs.ExpressionStrictness
import BackOfEnvelope.Proofs.ExpressionVariables
import BackOfEnvelope.Proofs.ExpressionContexts
import BackOfEnvelope.Proofs.ExpressionFailures
import BackOfEnvelope.Proofs.ExpressionPowers
import BackOfEnvelope.Proofs.PipelineReferences
import BackOfEnvelope.Proofs.PipelineLookups
import BackOfEnvelope.Proofs.NamespaceHistory
import BackOfEnvelope.Proofs.ContentDocuments
import BackOfEnvelope.Proofs.PipelineIdleSteps
import BackOfEnvelope.Proofs.StepFailures
import BackOfEnvelope.Proofs.YamlConversion
import BackOfEnvelope.Proofs.Binary64Range
import BackOfEnvelope.Proofs.FieldSorting
import BackOfEnvelope.Proofs.JsonReadingValues
import BackOfEnvelope.Proofs.PipelineForms
import BackOfEnvelope.Proofs.PipelineMalformedSteps
import BackOfEnvelope.Proofs.PlaceholderSubstitution
import BackOfEnvelope.Proofs.TextPieces
import BackOfEnvelope.Proofs.FrontMatterDivision
import BackOfEnvelope.Proofs.VariableNameParts
import BackOfEnvelope.Proofs.NameMismatches
import BackOfEnvelope.Proofs.PlainPaths
import BackOfEnvelope.Proofs.LocationsBelowRoot
import BackOfEnvelope.Proofs.CsvReading
import BackOfEnvelope.Proofs.InputRules
import BackOfEnvelope.Proofs.NumeralGrammar
import BackOfEnvelope.Proofs.LexemeEnds
import BackOfEnvelope.Proofs.LexemeLayout
import BackOfEnvelope.Proofs.TreeLocations
import BackOfEnvelope.Proofs.FileLookups
import BackOfEnvelope.Proofs.ByteOrder
import BackOfEnvelope.Proofs.BundleContents
import BackOfEnvelope.Proofs.ContentGroups
import BackOfEnvelope.Proofs.Binary64Values
import BackOfEnvelope.Proofs.Binary64Quotients
import BackOfEnvelope.Proofs.FixedDecimals
import BackOfEnvelope.Proofs.MagnitudeWords
import BackOfEnvelope.Proofs.IndexTexts
