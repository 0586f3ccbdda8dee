import RequestLog.Service
import RequestLog.Settings.Source
import RequestLog.Fault.Arguments
import RequestLog.Proofs.Builder.Draft
import RequestLog.Proofs.Redaction.Secrecy
import RequestLog.Proofs.AccessLog.Course
import RequestLog.Proofs.AccessLog.Once
import RequestLog.Proofs.AccessLog.Agreement
import RequestLog.Proofs.Text.Ascii
import RequestLog.Proofs.Uri.Rejoin
import RequestLog.Proofs.Query.Reread
import RequestLog.Proofs.Redaction.Order
import RequestLog.Proofs.Redaction.Reading
import RequestLog.Proofs.Request.Url
import RequestLog.Proofs.AccessLog.Presence
import RequestLog.Proofs.AccessLog.Order
import RequestLog.Proofs.Text.Numerals
import RequestLog.Proofs.Text.Splits
import RequestLog.Proofs.Uri.HostHeader
import RequestLog.Proofs.AccessLog.Transparency
import RequestLog.Proofs.Address
import RequestLog.Proofs.Record.Quotes
import RequestLog.Proofs.Uri.Characters
import RequestLog.Proofs.Record.Lines
import RequestLog.Proofs.Record.Integrity
import RequestLog.Proofs.AccessLog.Failure
import RequestLog.Proofs.AccessLog.Lockstep
import RequestLog.Proofs.AccessLog.Rejection
import RequestLog.Proofs.Uri.Behind
import RequestLog.Proofs.Record.Target
import RequestLog.Proofs.Redaction.User
import RequestLog.Proofs.Record.Unambiguous
import RequestLog.Proofs.Response.Session
import RequestLog.Proofs.Response.Faithful
import RequestLog.Proofs.Credentials
import RequestLog.Proofs.Text.LowerCase
import RequestLog.Proofs.Builder.Passwords
import RequestLog.Proofs.Builder.Caller
import RequestLog.Proofs.Text.Respelling
import RequestLog.Proofs.Text.Utf8
import RequestLog.Proofs.Request.Path
import RequestLog.Proofs.Request.LoggedPath
import RequestLog.Proofs.Query.Escaped
import RequestLog.Proofs.Uri.Trailing
import RequestLog.Proofs.Request.Parameters
import RequestLog.Proofs.Redaction.Items
import RequestLog.Proofs.Address.Forms
import RequestLog.Proofs.Address.Joined
import RequestLog.Proofs.Credentials.Payload
import RequestLog.Proofs.Redaction.Again
import RequestLog.Proofs.Redaction.Frame
import RequestLog.Proofs.Entries
import RequestLog.Proofs.Builder.Precedence
