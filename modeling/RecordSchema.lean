import RecordSchema.Text.Blank
import RecordSchema.Text.Letter
import RecordSchema.Text.Uppercase
import RecordSchema.Text.Fold
import RecordSchema.Text.Category
import RecordSchema.Number.Reader
import RecordSchema.Json.Printer
import RecordSchema.Json.Reader
import RecordSchema.Calendar.Printer
import RecordSchema.Calendar.Reader
import RecordSchema.Pattern.Reader
import RecordSchema.Value.Written
import RecordSchema.Model.Parsing
import RecordSchema.Namespace.Tree
import RecordSchema.Context.Basic
import RecordSchema.Definition.Decoding
import RecordSchema.Engine
import RecordSchema.Discovery
import RecordSchema.Settings.Decoding
import RecordSchema.Toml.Document
import RecordSchema.Settings.Written
import RecordSchema.Text.Lowercase
import RecordSchema.Text.Utf8
import RecordSchema.Settings.Sources
import RecordSchema.Opening
import RecordSchema.CommandLine.Run
import RecordSchema.Main
import RecordSchema.Proofs.Namespace.Growth
import RecordSchema.Proofs.Namespace.Descent
import RecordSchema.Proofs.Compiler.Steps
import RecordSchema.Proofs.Compiler.Attributes
import RecordSchema.Proofs.Compiler.Flat
import RecordSchema.Proofs.Compiler.Pass
import RecordSchema.Proofs.Catalog.Build
import RecordSchema.Proofs.Engine.Publishing
import RecordSchema.Proofs.Model.Records
import RecordSchema.Proofs.Catalog.References
import RecordSchema.Proofs.Compiler.Keys
import RecordSchema.Proofs.Model.Parsing
import RecordSchema.Proofs.Model.Conformance
import RecordSchema.Proofs.Catalog.Conformance
import RecordSchema.Proofs.Model.Failure
import RecordSchema.Proofs.Number.Digits
import RecordSchema.Proofs.Scalar.Written
import RecordSchema.Proofs.Model.RoundTrip
import RecordSchema.Proofs.Catalog.RoundTrip
import RecordSchema.Proofs.Definition.Text
import RecordSchema.Proofs.Catalog.Checksum
import RecordSchema.Proofs.Compiler.Run
import RecordSchema.Proofs.Compiler.Coherence
import RecordSchema.Proofs.Compiler.Scalars
import RecordSchema.Proofs.Compiler.Failure
import RecordSchema.Proofs.Catalog.Failure
import RecordSchema.Proofs.Compiler.Independence
import RecordSchema.Proofs.Compiler.Places
import RecordSchema.Proofs.Catalog.Order
import RecordSchema.Proofs.Registry.Aliases
import RecordSchema.Proofs.Definition.Tree
import RecordSchema.Proofs.Model.Agreement
import RecordSchema.Proofs.Model.Settings
import RecordSchema.Proofs.Scalar.Settings
import RecordSchema.Proofs.Engine.Sharing
import RecordSchema.Proofs.Scalar.Validity
import RecordSchema.Proofs.Namespace.Calls
import RecordSchema.Proofs.Namespace.Normalization
import RecordSchema.Proofs.Compiler.Recompilation
import RecordSchema.Proofs.Catalog.Policy
import RecordSchema.Proofs.Scalar.Integers
import RecordSchema.Proofs.Scalar.Dates
import RecordSchema.Proofs.Scalar.Numerals
import RecordSchema.Proofs.Model.Events
import RecordSchema.Proofs.Registry.Configuration
import RecordSchema.Proofs.Discovery
