import Crowdlending.Access
import Crowdlending.Account.Directory
import Crowdlending.Account.Document
import Crowdlending.Account.Email
import Crowdlending.Account.Password
import Crowdlending.Account.Phone
import Crowdlending.Account.Request
import Crowdlending.Account.Role
import Crowdlending.Account.User
import Crowdlending.Codec.Base64
import Crowdlending.Crypto.Bcrypt
import Crowdlending.Crypto.Blowfish
import Crowdlending.Crypto.Circle
import Crowdlending.Crypto.Der
import Crowdlending.Crypto.Pem
import Crowdlending.Crypto.Rsa
import Crowdlending.Crypto.Sha256
import Crowdlending.Decimal.Basic
import Crowdlending.Decimal.Reading
import Crowdlending.Failure
import Crowdlending.Http.Document
import Crowdlending.Http.Gateway
import Crowdlending.Http.MediaType
import Crowdlending.Http.Message
import Crowdlending.Http.Route
import Crowdlending.Json.Document
import Crowdlending.Json.Member
import Crowdlending.Json.Printer
import Crowdlending.Json.Reader
import Crowdlending.Json.Shape
import Crowdlending.Json.Token
import Crowdlending.Loan.Amount
import Crowdlending.Loan.Basic
import Crowdlending.Loan.Change
import Crowdlending.Loan.Document
import Crowdlending.Loan.Ledger
import Crowdlending.Loan.Request
import Crowdlending.Loan.State
import Crowdlending.Loan.Store
import Crowdlending.Log
import Crowdlending.Mail.Mailbox
import Crowdlending.Mail.Message
import Crowdlending.Mail.Sink
import Crowdlending.Metrics
import Crowdlending.Moment
import Crowdlending.Notification.Queue
import Crowdlending.Notification.Worker
import Crowdlending.Number.Numeral
import Crowdlending.Platform.Accounts
import Crowdlending.Platform.Loans
import Crowdlending.Platform.Snapshot
import Crowdlending.Platform.Start
import Crowdlending.Platform.State
import Crowdlending.Platform.Together
import Crowdlending.Proofs.Account.Directory
import Crowdlending.Proofs.Account.Email
import Crowdlending.Proofs.Account.Holders
import Crowdlending.Proofs.Account.Phone
import Crowdlending.Proofs.Codec.Base64
import Crowdlending.Proofs.Codec.Bits
import Crowdlending.Proofs.Crypto.Bcrypt
import Crowdlending.Proofs.Crypto.Component
import Crowdlending.Proofs.Crypto.PublicKey
import Crowdlending.Proofs.Crypto.Signature
import Crowdlending.Proofs.Decimal.Grammar
import Crowdlending.Proofs.Decimal.Numeral
import Crowdlending.Proofs.Decimal.Scale
import Crowdlending.Proofs.Decimal.Value
import Crowdlending.Proofs.Decimal.Written
import Crowdlending.Proofs.Http.Errand
import Crowdlending.Proofs.Http.Signup
import Crowdlending.Proofs.Json.Fields
import Crowdlending.Proofs.Json.Written
import Crowdlending.Proofs.Loan.Amount
import Crowdlending.Proofs.Loan.Completion
import Crowdlending.Proofs.Loan.Conservation
import Crowdlending.Proofs.Loan.Full
import Crowdlending.Proofs.Loan.History
import Crowdlending.Proofs.Loan.Numbering
import Crowdlending.Proofs.Loan.Reachable
import Crowdlending.Proofs.Loan.Records
import Crowdlending.Proofs.Loan.Transition
import Crowdlending.Proofs.Loan.Undated
import Crowdlending.Proofs.Mail.Mailbox
import Crowdlending.Proofs.Mail.Recipient
import Crowdlending.Proofs.Metrics
import Crowdlending.Proofs.Notification.Worker
import Crowdlending.Proofs.Number.Numeral
import Crowdlending.Proofs.Platform.Acceptance
import Crowdlending.Proofs.Platform.Agreement
import Crowdlending.Proofs.Platform.Arrival
import Crowdlending.Proofs.Platform.Atomicity
import Crowdlending.Proofs.Platform.Authority
import Crowdlending.Proofs.Platform.Conflicts
import Crowdlending.Proofs.Platform.Credential
import Crowdlending.Proofs.Platform.Enrolment
import Crowdlending.Proofs.Platform.Handover
import Crowdlending.Proofs.Platform.Identity
import Crowdlending.Proofs.Platform.Interleaving
import Crowdlending.Proofs.Platform.Lifetimes
import Crowdlending.Proofs.Platform.Login
import Crowdlending.Proofs.Platform.Notified
import Crowdlending.Proofs.Platform.Password
import Crowdlending.Proofs.Platform.Places
import Crowdlending.Proofs.Platform.Refusal
import Crowdlending.Proofs.Platform.Registration
import Crowdlending.Proofs.Platform.Report
import Crowdlending.Proofs.Platform.Roles
import Crowdlending.Proofs.Platform.Run
import Crowdlending.Proofs.Platform.Serial
import Crowdlending.Proofs.Platform.Settled
import Crowdlending.Proofs.Platform.Signup
import Crowdlending.Proofs.Platform.Tally
import Crowdlending.Proofs.Platform.Turns
import Crowdlending.Proofs.Platform.Unaffected
import Crowdlending.Proofs.Platform.Worker
import Crowdlending.Proofs.Result
import Crowdlending.Proofs.Settings.Acceptance
import Crowdlending.Proofs.Settings.Accepted
import Crowdlending.Proofs.Settings.Country
import Crowdlending.Proofs.Settings.Duration
import Crowdlending.Proofs.Settings.Keys
import Crowdlending.Proofs.Settings.Sample
import Crowdlending.Proofs.Settings.Variables
import Crowdlending.Proofs.Text.Blank
import Crowdlending.Proofs.Text.Cut
import Crowdlending.Proofs.Text.Utf8
import Crowdlending.Proofs.Token.Expiry
import Crowdlending.Proofs.Token.Freshness
import Crowdlending.Proofs.Token.Genuine
import Crowdlending.Proofs.Token.KeySource
import Crowdlending.Proofs.Token.Published
import Crowdlending.Proofs.Token.Rotation
import Crowdlending.Proofs.Token.Signed
import Crowdlending.Proofs.Token.Verified
import Crowdlending.Rpc.Document
import Crowdlending.Rpc.Message
import Crowdlending.Rpc.Service
import Crowdlending.Settings.Basic
import Crowdlending.Settings.Document
import Crowdlending.Settings.Duration
import Crowdlending.Settings.Sample
import Crowdlending.Text.Blank
import Crowdlending.Text.CharClass
import Crowdlending.Text.Percent
import Crowdlending.Text.Property
import Crowdlending.Text.Quoted
import Crowdlending.Text.RunSet
import Crowdlending.Token.Bearer
import Crowdlending.Token.Claims
import Crowdlending.Token.Header
import Crowdlending.Token.Issuer
import Crowdlending.Token.KeyCache
import Crowdlending.Token.KeySet
import Crowdlending.Token.KeySource
import Crowdlending.Token.Verifier
import Crowdlending.Web.Address
import Crowdlending.Web.Ip
import Crowdlending.Web.Name.Ascii
import Crowdlending.Web.Name.Basic
import Crowdlending.Web.Name.Composition
import Crowdlending.Web.Name.Direction
import Crowdlending.Web.Name.Joiner
import Crowdlending.Web.Name.Property
import Crowdlending.Web.Punycode
import Crowdlending.Web.Target
