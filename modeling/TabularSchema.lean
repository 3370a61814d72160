import TabularSchema.Analyzer
import TabularSchema.Calendar
import TabularSchema.DataType
import TabularSchema.DataType.Join
import TabularSchema.DataType.Json
import TabularSchema.DataType.Text
import TabularSchema.DataType.Widening
import TabularSchema.Decoder
import TabularSchema.Failure
import TabularSchema.FieldTypes
import TabularSchema.Inference
import TabularSchema.Json
import TabularSchema.Json.Document
import TabularSchema.Json.Reader
import TabularSchema.Json.Writer
import TabularSchema.Number.Binary64
import TabularSchema.Number.Binary64.Quotient
import TabularSchema.Number.Decimal
import TabularSchema.Number.Decimal.Context
import TabularSchema.Number.Decimal.Order
import TabularSchema.Number.Shortest
import TabularSchema.Proofs.Aggregation
import TabularSchema.Proofs.CanonicalStructs
import TabularSchema.Proofs.CheckedStructs
import TabularSchema.Proofs.DecimalValue
import TabularSchema.Proofs.FieldLookup
import TabularSchema.Proofs.FieldMerge
import TabularSchema.Proofs.History
import TabularSchema.Proofs.InferenceFailures
import TabularSchema.Proofs.ItemDecoding
import TabularSchema.Proofs.ItemFailures
import TabularSchema.Proofs.ItemNumbers
import TabularSchema.Proofs.ItemPlaces
import TabularSchema.Proofs.JoinLaws
import TabularSchema.Proofs.JoinOrder
import TabularSchema.Proofs.LeastBound
import TabularSchema.Proofs.LeastSchema
import TabularSchema.Proofs.MergeAlgebra
import TabularSchema.Proofs.Numeral
import TabularSchema.Proofs.OnePass
import TabularSchema.Proofs.Partition
import TabularSchema.Proofs.PrincipalType
import TabularSchema.Proofs.RatioRefusal
import TabularSchema.Proofs.RatioSafety
import TabularSchema.Proofs.Rearrangement
import TabularSchema.Proofs.RecordLimit
import TabularSchema.Proofs.Revalidation
import TabularSchema.Proofs.Rounding
import TabularSchema.Proofs.SampleGrowth
import TabularSchema.Proofs.SamplePlaces
import TabularSchema.Proofs.ScanDemand
import TabularSchema.Proofs.SchemaStruct
import TabularSchema.Proofs.Sequencing
import TabularSchema.Proofs.ServiceRuns
import TabularSchema.Proofs.SessionAge
import TabularSchema.Proofs.SessionReuse
import TabularSchema.Proofs.SessionWindow
import TabularSchema.Proofs.SetSorting
import TabularSchema.Proofs.SettingsValidation
import TabularSchema.Proofs.ShortNotation
import TabularSchema.Proofs.TableInference
import TabularSchema.Proofs.TypeNotation
import TabularSchema.Proofs.WideningOrder
import TabularSchema.Proofs.WireTyping
import TabularSchema.Proofs.WrittenJson
import TabularSchema.Sampling
import TabularSchema.Sampling.Generator
import TabularSchema.Schema
import TabularSchema.Service
import TabularSchema.Service.Catalog
import TabularSchema.Session
import TabularSchema.Settings
import TabularSchema.Settings.Environment
import TabularSchema.Settings.Issue
import TabularSchema.Settings.Reading
import TabularSchema.Table.Analysis
import TabularSchema.Table.Attribute
import TabularSchema.Table.Item
import TabularSchema.Table.Scan
import TabularSchema.Text.Blank
import TabularSchema.Text.Case
import TabularSchema.Text.Cased
import TabularSchema.Text.Digit
import TabularSchema.Text.Encoding
import TabularSchema.Text.Hex
import TabularSchema.Text.Printable
import TabularSchema.Text.Quoted
import TabularSchema.Text.Surrogate
import TabularSchema.Typing
import TabularSchema.Value
import TabularSchema.Value.Elements
import TabularSchema.Value.Equality
import TabularSchema.Value.Order
import TabularSchema.Value.Text
import TabularSchema.Workbench
