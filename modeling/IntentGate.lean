import IntentGate.Config.Application
import IntentGate.Config.Rejection
import IntentGate.Config.Wire
import IntentGate.Decimal.Layout
import IntentGate.Decimal.Reading
import IntentGate.Decimal.Shortest
import IntentGate.DomainSchema
import IntentGate.Event
import IntentGate.Files
import IntentGate.Files.Directory
import IntentGate.Gate
import IntentGate.Gate.Builder
import IntentGate.Gate.Error
import IntentGate.Gate.Events
import IntentGate.Gate.Session
import IntentGate.Handler
import IntentGate.Json.Draft
import IntentGate.Json.Draft.Reading
import IntentGate.Json.Fault
import IntentGate.Json.Numeral
import IntentGate.Json.Printer
import IntentGate.Json.Token
import IntentGate.Json.Value
import IntentGate.Keyed
import IntentGate.Logging.Filter
import IntentGate.Main
import IntentGate.Message
import IntentGate.Message.Canonical
import IntentGate.Message.Lines
import IntentGate.Message.Wire
import IntentGate.Provider
import IntentGate.Requirement
import IntentGate.Requirement.Check
import IntentGate.Requirement.Index
import IntentGate.Run
import IntentGate.Settings.Conversion
import IntentGate.Settings.Environment
import IntentGate.Settings.EnvironmentFile
import IntentGate.Settings.Load
import IntentGate.Settings.Path
import IntentGate.Settings.Setting
import IntentGate.Settings.Yaml
import IntentGate.Shape.Choice
import IntentGate.Shape.Json
import IntentGate.Shape.Record
import IntentGate.Shape.Source
import IntentGate.Text
import IntentGate.Text.Quoted
import IntentGate.ThresholdCheck
import IntentGate.Toml.Document
import IntentGate.Toml.Moment
import IntentGate.Toml.Number
import IntentGate.Toml.Text
import IntentGate.Verdict
import IntentGate.Verdict.Wire
import IntentGate.Yaml.Content
import IntentGate.Yaml.Cursor
import IntentGate.Yaml.Node
import IntentGate.Yaml.Scalar.Block
import IntentGate.Yaml.Scalar.Flow
import IntentGate.Yaml.Tag
import IntentGate.Yaml.Token
import IntentGate.Yaml.Typed
import IntentGate.Proofs.Acceptance
import IntentGate.Proofs.AllOrNothing
import IntentGate.Proofs.Batch
import IntentGate.Proofs.BatchFailure
import IntentGate.Proofs.CanonicalForm
import IntentGate.Proofs.CanonicalMessage
import IntentGate.Proofs.DeclarationForm
import IntentGate.Proofs.DeclaredEntity
import IntentGate.Proofs.DefaultedRecord
import IntentGate.Proofs.Disabled
import IntentGate.Proofs.DomainFile
import IntentGate.Proofs.EntityAgreement
import IntentGate.Proofs.Evaluation
import IntentGate.Proofs.FailClosed
import IntentGate.Proofs.Fidelity
import IntentGate.Proofs.FieldForms
import IntentGate.Proofs.FiniteMap
import IntentGate.Proofs.FiniteNumeral
import IntentGate.Proofs.FirstFault
import IntentGate.Proofs.FloatOrder
import IntentGate.Proofs.FloatRange
import IntentGate.Proofs.HandlerLife
import IntentGate.Proofs.IndexBuilding
import IntentGate.Proofs.IndexRebuilding
import IntentGate.Proofs.InputReading
import IntentGate.Proofs.Installation
import IntentGate.Proofs.JsonEffect
import IntentGate.Proofs.LineCutting
import IntentGate.Proofs.LineFraming
import IntentGate.Proofs.LineReading
import IntentGate.Proofs.LineWriting
import IntentGate.Proofs.LogAgreement
import IntentGate.Proofs.Noninterference
import IntentGate.Proofs.OpenIndex
import IntentGate.Proofs.OptionMerging
import IntentGate.Proofs.Printing
import IntentGate.Proofs.ProperValue
import IntentGate.Proofs.Ranking
import IntentGate.Proofs.RankingEdits
import IntentGate.Proofs.RecordReading
import IntentGate.Proofs.RejectionGrounds
import IntentGate.Proofs.RepresentableMessage
import IntentGate.Proofs.Reprocessing
import IntentGate.Proofs.RequestLog
import IntentGate.Proofs.Resurfacing
import IntentGate.Proofs.RoundTrip
import IntentGate.Proofs.SafeSettings
import IntentGate.Proofs.Segmentation
import IntentGate.Proofs.Sequencing
import IntentGate.Proofs.SettingsForm
import IntentGate.Proofs.ShapeFault
import IntentGate.Proofs.SourceReading
import IntentGate.Proofs.Strictness
import IntentGate.Proofs.TextLines
import IntentGate.Proofs.TextValue
import IntentGate.Proofs.ValidSettings
import IntentGate.Proofs.VerdictForm
import IntentGate.Proofs.WriteOnce
