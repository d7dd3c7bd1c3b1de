import CardLedger.Base64
import CardLedger.Binary64.Basic
import CardLedger.Binary64.Parse
import CardLedger.Binary64.Shortest
import CardLedger.Binary64.Text
import CardLedger.Card.Basic
import CardLedger.Card.Expiry
import CardLedger.Card.Json
import CardLedger.Card.Lifecycle
import CardLedger.Card.Number
import CardLedger.Cli.Arguments
import CardLedger.Cli.Program
import CardLedger.Config
import CardLedger.Crypto.Aes
import CardLedger.Crypto.Entropy
import CardLedger.Crypto.Gcm
import CardLedger.Crypto.Sealer
import CardLedger.Crypto.Sha1
import CardLedger.Csv.Field
import CardLedger.Csv.Reader
import CardLedger.Csv.Writer
import CardLedger.Decimal.Basic
import CardLedger.Decimal.Parse
import CardLedger.Decode.Error
import CardLedger.Decode.Scalar
import CardLedger.Engine
import CardLedger.Error
import CardLedger.Json.Decode
import CardLedger.Json.Reader
import CardLedger.Json.Value
import CardLedger.Locks
import CardLedger.Luhn
import CardLedger.Main
import CardLedger.Money
import CardLedger.Record
import CardLedger.Record.Json
import CardLedger.Repository
import CardLedger.Script.Command
import CardLedger.Script.Runner
import CardLedger.Session
import CardLedger.Store
import CardLedger.Text.Escaped
import CardLedger.Uuid
import CardLedger.Proofs.EngineSteps
import CardLedger.Proofs.Store
import CardLedger.Proofs.Transfer
import CardLedger.Proofs.Sealing
import CardLedger.Proofs.Issue
import CardLedger.Proofs.Locks
import CardLedger.Proofs.Scripts
import CardLedger.Proofs.Footprints
import CardLedger.Proofs.Interleaving
import CardLedger.Proofs.LockOrder
import CardLedger.Proofs.LockEntries
import CardLedger.Proofs.OptimisticWrites
import CardLedger.Proofs.OwnerIsolation
import CardLedger.Proofs.ExactMoney
import CardLedger.Proofs.EngineEffects
import CardLedger.Proofs.Lifecycle
import CardLedger.Proofs.Schedules
import CardLedger.Proofs.RunnerSteps
import CardLedger.Proofs.ScriptLabels
import CardLedger.Proofs.ScriptReport
import CardLedger.Proofs.StatusChange
import CardLedger.Proofs.Listing
import CardLedger.Proofs.Retries
import CardLedger.Proofs.Generation
import CardLedger.Proofs.AsciiText
import CardLedger.Proofs.CheckDigit
import CardLedger.Proofs.ExpiryText
import CardLedger.Proofs.DecimalText
import CardLedger.Proofs.JsonValues
import CardLedger.Proofs.UuidText
import CardLedger.Proofs.RowFormat
import CardLedger.Proofs.BlobOpening
