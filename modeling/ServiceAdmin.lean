import ServiceAdmin.Main
import ServiceAdmin.Proofs.Registry.FanOut
import ServiceAdmin.Proofs.TokenBlind
import ServiceAdmin.Proofs.Diagnostics.SecretMember
import ServiceAdmin.Proofs.Service.SecretUrl
import ServiceAdmin.Proofs.Service.BodyError
import ServiceAdmin.Proofs.Service.Kinds
import ServiceAdmin.Proofs.Registry.Regular
import ServiceAdmin.Proofs.Text.Punycode
import ServiceAdmin.Proofs.Url.Domain
import ServiceAdmin.Proofs.Url.Address4
import ServiceAdmin.Proofs.Url.Address6
import ServiceAdmin.Proofs.Url.Host
import ServiceAdmin.Proofs.Url.Segment
import ServiceAdmin.Proofs.Url.Server
import ServiceAdmin.Proofs.Service.Dashboard
import ServiceAdmin.Proofs.Registry.Seeding
import ServiceAdmin.Proofs.Registry.Target
import ServiceAdmin.Proofs.Registry.Listing
import ServiceAdmin.Proofs.Url.Names
import ServiceAdmin.Proofs.Url.Seam
import ServiceAdmin.Proofs.Service.Seam
import ServiceAdmin.Proofs.Seam
import ServiceAdmin.Proofs.Registry.Reply
import ServiceAdmin.Proofs.Service.RequestBody
import ServiceAdmin.Proofs.Platform.Complaint
import ServiceAdmin.Proofs.Program.Conduct
import ServiceAdmin.Proofs.Number.Numeral
import ServiceAdmin.Proofs.Registry.Selection
import ServiceAdmin.Proofs.Http.Message
import ServiceAdmin.Proofs.Service.TokenOutput
import ServiceAdmin.Proofs.Platform.Session
import ServiceAdmin.Proofs.Diagnostics.Kind
import ServiceAdmin.Proofs.Diagnostics.Idempotence
import ServiceAdmin.Proofs.Diagnostics.Causes
import ServiceAdmin.Proofs.Report.OneLine
import ServiceAdmin.Proofs.Report.View
import ServiceAdmin.Proofs.Service.Judgement
import ServiceAdmin.Proofs.Text.Normal
import ServiceAdmin.Proofs.Text.PunycodeRoundTrip
import ServiceAdmin.Proofs.Url.Label
import ServiceAdmin.Proofs.Url.Neighbour
import ServiceAdmin.Proofs.Service.Broker
import ServiceAdmin.Proofs.Platform.TargetOutput
import ServiceAdmin.Proofs.Service.SecretPath
import ServiceAdmin.Proofs.Http.Session
import ServiceAdmin.Proofs.Json.Recognized
import ServiceAdmin.Proofs.Json.WholeNumber
import ServiceAdmin.Proofs.Json.ClosedRecord
import ServiceAdmin.Proofs.Config
import ServiceAdmin.Proofs.Diagnostics.Excerpt
import ServiceAdmin.Proofs.HomeDirectory
import ServiceAdmin.Proofs.Number.Digits
import ServiceAdmin.Proofs.Report.Calendar
import ServiceAdmin.Proofs.Report.Moment
