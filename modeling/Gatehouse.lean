import Gatehouse.Clock
import Gatehouse.CommandLine.Arguments
import Gatehouse.CommandLine.EnvFile
import Gatehouse.CommandLine.Launch
import Gatehouse.CommandLine.LogDirective
import Gatehouse.CommandLine.LogFilter
import Gatehouse.CommandLine.Setting
import Gatehouse.Config
import Gatehouse.Crypto.Bcrypt
import Gatehouse.Crypto.Blowfish
import Gatehouse.Crypto.Sha256
import Gatehouse.Encoding
import Gatehouse.Error
import Gatehouse.Event
import Gatehouse.Flow
import Gatehouse.Http.Error
import Gatehouse.Http.Header
import Gatehouse.Http.MediaType
import Gatehouse.Http.Message
import Gatehouse.Http.Route
import Gatehouse.Http.Server
import Gatehouse.Http.Target
import Gatehouse.Json.Content
import Gatehouse.Json.Reader
import Gatehouse.Json.Shape
import Gatehouse.Json.Value
import Gatehouse.Main
import Gatehouse.Net.Address
import Gatehouse.Password
import Gatehouse.Portal
import Gatehouse.Proofs.CommandLine.Variables
import Gatehouse.Proofs.Config
import Gatehouse.Proofs.Dialogue
import Gatehouse.Proofs.Encoding
import Gatehouse.Proofs.Flow
import Gatehouse.Proofs.Http.Calls
import Gatehouse.Proofs.Http.ClientRecord
import Gatehouse.Proofs.Http.Enumeration
import Gatehouse.Proofs.Http.Guarded
import Gatehouse.Proofs.Http.Handling
import Gatehouse.Proofs.Http.ProxyFields
import Gatehouse.Proofs.Http.Refusal
import Gatehouse.Proofs.Http.Site
import Gatehouse.Proofs.Http.Throttle
import Gatehouse.Proofs.Json.Number
import Gatehouse.Proofs.Json.Record
import Gatehouse.Proofs.Json.Text
import Gatehouse.Proofs.Net.Address
import Gatehouse.Proofs.Password
import Gatehouse.Proofs.Password.Key
import Gatehouse.Proofs.Pool
import Gatehouse.Proofs.Portal.ClosedSessions
import Gatehouse.Proofs.Portal.Login
import Gatehouse.Proofs.Portal.NewPassword
import Gatehouse.Proofs.Portal.PasswordReset
import Gatehouse.Proofs.Portal.Probing
import Gatehouse.Proofs.Portal.Talk
import Gatehouse.Proofs.RateLimit.Ledger
import Gatehouse.Proofs.RateLimit.Spacing
import Gatehouse.Proofs.RateLimit.Sweep
import Gatehouse.Proofs.RateLimit.Traffic
import Gatehouse.Proofs.RateLimit.Window
import Gatehouse.Proofs.Secret
import Gatehouse.Proofs.Service.AccessToken
import Gatehouse.Proofs.Service.Calls
import Gatehouse.Proofs.Service.Config
import Gatehouse.Proofs.Service.Dates
import Gatehouse.Proofs.Service.Failure
import Gatehouse.Proofs.Service.Lineage
import Gatehouse.Proofs.Service.Origin
import Gatehouse.Proofs.Service.Refresh
import Gatehouse.Proofs.Service.Run
import Gatehouse.Proofs.Service.Secrets
import Gatehouse.Proofs.Sql.Agreement
import Gatehouse.Proofs.Sql.Closing
import Gatehouse.Proofs.Sql.Effect
import Gatehouse.Proofs.Sql.Exclusion
import Gatehouse.Proofs.Sql.Execution
import Gatehouse.Proofs.Sql.Holding
import Gatehouse.Proofs.Sql.Locking
import Gatehouse.Proofs.Sql.Progress
import Gatehouse.Proofs.Sql.Tables
import Gatehouse.Proofs.Sql.Transaction
import Gatehouse.Proofs.Sql.Transcript
import Gatehouse.Proofs.Store.Account
import Gatehouse.Proofs.Store.Address
import Gatehouse.Proofs.Store.AuditTrail
import Gatehouse.Proofs.Store.Descent
import Gatehouse.Proofs.Store.Failure
import Gatehouse.Proofs.Store.Isolation
import Gatehouse.Proofs.Store.Lineage
import Gatehouse.Proofs.Store.Reset
import Gatehouse.Proofs.Store.Revocation
import Gatehouse.Proofs.Store.Run
import Gatehouse.Proofs.Store.Table
import Gatehouse.Proofs.Text.Blank
import Gatehouse.Proofs.Text.LowerCase
import Gatehouse.Proofs.Text.Numeral
import Gatehouse.Proofs.Token.Acceptance
import Gatehouse.Proofs.Token.Codec
import Gatehouse.Proofs.Uuid
import Gatehouse.RateLimit
import Gatehouse.Secret
import Gatehouse.Service
import Gatehouse.Sql.Script
import Gatehouse.Sql.Statement
import Gatehouse.Sql.Store
import Gatehouse.Store.Call
import Gatehouse.Store.Memory
import Gatehouse.Store.Record
import Gatehouse.Store.Table
import Gatehouse.Text.CharClass
import Gatehouse.Text.ControlSequence
import Gatehouse.Text.LowerCase
import Gatehouse.Text.Numeral
import Gatehouse.Text.Pattern
import Gatehouse.Text.Quoted
import Gatehouse.Text.Split
import Gatehouse.Token.Audience
import Gatehouse.Token.Claims
import Gatehouse.Token.Codec
import Gatehouse.Token.Header
import Gatehouse.Token.WebKey
import Gatehouse.User
import Gatehouse.Uuid
