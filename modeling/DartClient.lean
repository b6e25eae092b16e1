import DartClient.Client.Package
import DartClient.CommandLine
import DartClient.Idl.Writer
import DartClient.Main
import DartClient.Proofs.Account.FieldWidths
import DartClient.Proofs.Account.Fields
import DartClient.Proofs.Account.Precedence
import DartClient.Proofs.Account.Sizes
import DartClient.Proofs.Client.Accounting
import DartClient.Proofs.Client.Addresses
import DartClient.Proofs.Client.Ambiguities
import DartClient.Proofs.Client.Growth
import DartClient.Proofs.Client.Identifiers
import DartClient.Proofs.Client.Imports
import DartClient.Proofs.Client.Nodes
import DartClient.Proofs.Client.Places
import DartClient.Proofs.Codec.Legibility
import DartClient.Proofs.Codec.Unknown
import DartClient.Proofs.Idl.Descriptions
import DartClient.Proofs.Imports.Reading
import DartClient.Proofs.Imports.Renaming
import DartClient.Proofs.Manifest.Acceptance
import DartClient.Proofs.Manifest.AliasLink
import DartClient.Proofs.Manifest.ContextFree
import DartClient.Proofs.Manifest.Degradation
import DartClient.Proofs.Manifest.InnermostFirst
import DartClient.Proofs.Manifest.LinkedProgram
import DartClient.Proofs.Manifest.Nullable
import DartClient.Proofs.Manifest.Scope
import DartClient.Proofs.Manifest.Shortcuts
import DartClient.Proofs.Page.Parts
import DartClient.Proofs.Page.SelfImports
import DartClient.Proofs.Seed.Evaluable
import DartClient.Proofs.Seed.Literals
import DartClient.Proofs.Seed.Positions
import DartClient.Proofs.Wire.Ending
import DartClient.Proofs.Wire.Locality
import DartClient.Proofs.Wire.Refusal
import DartClient.Proofs.Wire.Rigid
import DartClient.Proofs.Wire.RoundTrip
import DartClient.Proofs.Wire.Size
import DartClient.Wire.Decode
