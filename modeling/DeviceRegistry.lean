import DeviceRegistry.Bytes.Lemmas
import DeviceRegistry.Text.Blank
import DeviceRegistry.Text.Split
import DeviceRegistry.Text.Utf8
import DeviceRegistry.Text.Hex
import DeviceRegistry.Sha256
import DeviceRegistry.Address
import DeviceRegistry.Binary.Codec
import DeviceRegistry.Layout
import DeviceRegistry.Number.BinaryFormat
import DeviceRegistry.Number.Digits
import DeviceRegistry.Number.Double
import DeviceRegistry.Number.Single
import DeviceRegistry.Json.Form
import DeviceRegistry.Json.Tagged
import DeviceRegistry.Account
import DeviceRegistry.Association
import DeviceRegistry.Bucket
import DeviceRegistry.Coin
import DeviceRegistry.Device
import DeviceRegistry.Store
import DeviceRegistry.Store.Key
import DeviceRegistry.Error
import DeviceRegistry.Event
import DeviceRegistry.Genesis
import DeviceRegistry.Instant
import DeviceRegistry.Message
import DeviceRegistry.Query
import DeviceRegistry.Registry.Handle
import DeviceRegistry.Registry.Transfer
import DeviceRegistry.Fee.Script
import DeviceRegistry.Json.Canonical
import DeviceRegistry.Ledger
import DeviceRegistry.Main
import DeviceRegistry.Pattern
import DeviceRegistry.Pattern.Reader
import DeviceRegistry.Pattern.Usable
import DeviceRegistry.Proofs.Utf8
import DeviceRegistry.Proofs.Identifiers
import DeviceRegistry.Proofs.Store
import DeviceRegistry.Proofs.Codec
import DeviceRegistry.Proofs.Truncation
import DeviceRegistry.Proofs.Channels
import DeviceRegistry.Proofs.Registry.Coordinates
import DeviceRegistry.Proofs.Registry.Reading
import DeviceRegistry.Proofs.Registry.Operations
import DeviceRegistry.Proofs.Registry.Steps
import DeviceRegistry.Proofs.Registry.Requests
import DeviceRegistry.Proofs.Registry.Occurrence
import DeviceRegistry.Proofs.Registry.Sound
import DeviceRegistry.Proofs.Registry.WellFormed
import DeviceRegistry.Proofs.Registry.Roster
import DeviceRegistry.Proofs.Registry.Recorded
import DeviceRegistry.Proofs.Registry.Refinement
import DeviceRegistry.Proofs.Registry.Footprint
import DeviceRegistry.Proofs.Registry.Import
import DeviceRegistry.Proofs.Registry.Loading
import DeviceRegistry.Proofs.Registry.Coverage
import DeviceRegistry.Proofs.Registry.Deletion
import DeviceRegistry.Proofs.Registry.RoundTrip
import DeviceRegistry.Proofs.Registry.Growth
import DeviceRegistry.Proofs.Registry.Locality
import DeviceRegistry.Proofs.Ledger.Bank
import DeviceRegistry.Proofs.Ledger.Run
import DeviceRegistry.Proofs.Ledger.Authorization
import DeviceRegistry.Proofs.Ledger.Settlement
import DeviceRegistry.Proofs.Ledger.Log
import DeviceRegistry.Proofs.Ledger.Ownership
import DeviceRegistry.Proofs.Registry.Reception
import DeviceRegistry.Proofs.Ledger.Accounting
import DeviceRegistry.Proofs.Registry.Refusal
import DeviceRegistry.Proofs.Json.Numerals
import DeviceRegistry.Proofs.Json.Scanning
import DeviceRegistry.Proofs.Json.Forms
import DeviceRegistry.Proofs.Node.GenesisFile
import DeviceRegistry.Proofs.Number.Finite
import DeviceRegistry.Proofs.Registry.Entanglement
import DeviceRegistry.Proofs.Registry.Uniqueness
import DeviceRegistry.Proofs.Registry.Editing
import DeviceRegistry.Proofs.Registry.Portions
import DeviceRegistry.Proofs.Registry.Admission
import DeviceRegistry.Proofs.Registry.NormalForm
import DeviceRegistry.Proofs.Registry.Filing
import DeviceRegistry.Proofs.Registry.Resending
import DeviceRegistry.Proofs.Registry.Reordering
import DeviceRegistry.Proofs.Fee.Delegation
import DeviceRegistry.Proofs.Json.Tagged
import DeviceRegistry.Proofs.Ledger.Rollback
import DeviceRegistry.Proofs.Registry.Atomicity
import DeviceRegistry.Proofs.Documents
import DeviceRegistry.Proofs.Queries
import DeviceRegistry.Proofs.Node.Files
import DeviceRegistry.Proofs.Separation
import DeviceRegistry.Proofs.Store.Writes
import DeviceRegistry.Proofs.Spelling
import DeviceRegistry.Proofs.Node.Paths
import DeviceRegistry.Proofs.Node.Boot
import DeviceRegistry.Proofs.Registry.Upkeep
import DeviceRegistry.Proofs.Store.Keys
import DeviceRegistry.Proofs.Registry.Placement
