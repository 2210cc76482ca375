import GodotSdk.Main
import GodotSdk.Proofs.CommandLine.Confinement
import GodotSdk.Proofs.CommandLine.Failure
import GodotSdk.Proofs.Models.Agreement
import GodotSdk.Proofs.Models.Writing
import GodotSdk.Proofs.Naming.Idempotence
import GodotSdk.Proofs.Sdk.References
import GodotSdk.Proofs.Sdk.Remarks
import GodotSdk.Proofs.Session.EffectCode
import GodotSdk.Proofs.Session.HeaderArguments
import GodotSdk.Schema.Encode
import GodotSdk.Schema.FromValue
import GodotSdk.Proofs.Script.Declarations
import GodotSdk.Proofs.Sdk.Declarations
import GodotSdk.Proofs.Naming.MethodNames
import GodotSdk.Proofs.Sdk.Scopes
import GodotSdk.Proofs.Models.Keys
import GodotSdk.Proofs.Sdk.Keywords
import GodotSdk.Proofs.Sdk.Links
import GodotSdk.Proofs.Session.History
import GodotSdk.Proofs.Json.Printing
import GodotSdk.Proofs.Session.Presence
import GodotSdk.Proofs.Time.Rendering
import GodotSdk.Proofs.Schema.Presentation
import GodotSdk.Proofs.Schema.Records
import GodotSdk.Proofs.Schema.RoundTrip
import GodotSdk.Proofs.Files.Contents
import GodotSdk.Proofs.Sdk.Reproducibility
import GodotSdk.Proofs.Sdk.Reordering
import GodotSdk.Proofs.Naming.RenameLog
import GodotSdk.Proofs.Time.LongYears
import GodotSdk.Proofs.Sdk.Tags
import GodotSdk.Proofs.Models.Lines
import GodotSdk.Proofs.Schema.InStep
import GodotSdk.Proofs.Schema.DatatypeForms
import GodotSdk.Proofs.Sdk.Brands
import GodotSdk.Proofs.Session.Checks
import GodotSdk.Proofs.Models.Annotations
import GodotSdk.Proofs.Sdk.ErrorCatalog
import GodotSdk.Proofs.Sdk.Deadlines
import GodotSdk.Proofs.Script.Indentation
import GodotSdk.Proofs.Text.Columns
import GodotSdk.Proofs.Script.Documentation
import GodotSdk.Proofs.Sdk.Identifiers
