import DcapQvl.Lib.Cursor
import DcapQvl.Lib.LittleEndian
import DcapQvl.Lib.Outcome
import DcapQvl.Lib.OrderedSet
import DcapQvl.Common.ByteOperands
import DcapQvl.Common.Hex
import DcapQvl.Common.Status
import DcapQvl.Json.Value
import DcapQvl.Json.TcbLevel
import DcapQvl.Json.TcbInfo
import DcapQvl.Json.EnclaveIdentity
import DcapQvl.Quote.Parsers
import DcapQvl.Quote.Structures
import DcapQvl.Quote.Quote
import DcapQvl.Quote.Layout
import DcapQvl.Quote.Accepted
import DcapQvl.Quote.SignedData
import DcapQvl.Json.Duplicates
import DcapQvl.Json.Permuted
import DcapQvl.Tcb.Evaluate
import DcapQvl.Tcb.Selection
import DcapQvl.Lib.Lexicographic
import DcapQvl.Tcb.Order
import DcapQvl.Lib.PaddedRecord
import DcapQvl.Tcb.Collateral
import DcapQvl.X509.Certificate
import DcapQvl.X509.SgxExtensions
import DcapQvl.Tcb.Check
import DcapQvl.Tcb.Relaunch
import DcapQvl.Verify.EnclaveReport
import DcapQvl.Verify.Quote
import DcapQvl.Verify.Verdicts
import DcapQvl.Verify.Api
import DcapQvl.Verify.Permuted
import DcapQvl.Verify.Versions
import DcapQvl.Tcb.WrittenSvns
import DcapQvl.Lib.Search
import DcapQvl.X509.Chain
import DcapQvl.Verify.Chain
import DcapQvl.Verify.ChainApi
import DcapQvl.Verify.ChainOrder
import DcapQvl.Verify.Dates
import DcapQvl.Verify.CrlChain
import DcapQvl.X509.SplitChain
import DcapQvl.X509.Revocation
import DcapQvl.Verify.ModuleIdentity
import DcapQvl.Lib.Checklist
import DcapQvl.X509.PlatformPck
import DcapQvl.X509.SgxEntries
import DcapQvl.Tcb.Record
import DcapQvl.Verify.Record
import DcapQvl.Tcb.Guarded
import DcapQvl.Verify.Guarded
import DcapQvl.Tcb.QeLevel
import DcapQvl.Verify.QeIdentity
import DcapQvl.Lib.Ownership
import DcapQvl.Common.Optional
import DcapQvl.Quote.Unchanged
import DcapQvl.Json.Depth
import DcapQvl.Tcb.Compared
import DcapQvl.Lib.Gregorian
import DcapQvl.Time.GmTime
import DcapQvl.Time.MkTime
import DcapQvl.Time.TimeUtils
import DcapQvl.Time.Standard
import DcapQvl.Json.DateField
import DcapQvl.Lib.Munch
import DcapQvl.Lib.Decimal
import DcapQvl.Json.Number
import DcapQvl.Json.Strings
import DcapQvl.Json.Grammar
import DcapQvl.Json.Reader
import DcapQvl.Json.Place
import DcapQvl.Json.Parse
import DcapQvl.Json.Itoa
import DcapQvl.Json.Dtoa
import DcapQvl.Json.Writer
import DcapQvl.Json.RoundTrip
import DcapQvl.Json.Document
import DcapQvl.Json.SignedBody
import DcapQvl.Lib.Traced
import DcapQvl.App.AppCore
import DcapQvl.App.Accepted
