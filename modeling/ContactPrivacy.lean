import ContactPrivacy.Http.Server
import ContactPrivacy.Proofs.Reveal.Timer
import ContactPrivacy.Proofs.Reveal.Deposit
import ContactPrivacy.Proofs.Reveal.Terms
import ContactPrivacy.Proofs.Reveal.Keys
import ContactPrivacy.Proofs.Reveal.Trace
import ContactPrivacy.Proofs.Display.Calls
import ContactPrivacy.Proofs.Audit.Handing
import ContactPrivacy.Proofs.Display.Terms
import ContactPrivacy.Proofs.Display.Deposit
import ContactPrivacy.Proofs.Display.Shown
import ContactPrivacy.Proofs.Display.Disclosure
import ContactPrivacy.Proofs.Display.AuditLog
import ContactPrivacy.Proofs.Settings.Trail
import ContactPrivacy.Proofs.Protection.Alike
import ContactPrivacy.Proofs.Display.Protected
import ContactPrivacy.Proofs.Json.Scalars
import ContactPrivacy.Proofs.Contact.Replaced
import ContactPrivacy.Proofs.Display.Payload
import ContactPrivacy.Proofs.Json.Lookup
import ContactPrivacy.Proofs.Settings.Merge
import ContactPrivacy.Proofs.Settings.Leaf
import ContactPrivacy.Proofs.Reveal.Uniform
import ContactPrivacy.Proofs.Display.Supplied
import ContactPrivacy.Proofs.Json.Read
import ContactPrivacy.Proofs.Json.Parts
import ContactPrivacy.Proofs.Protection.Sanitized
import ContactPrivacy.Proofs.Display.Permission
import ContactPrivacy.Proofs.Policy.Questions
import ContactPrivacy.Proofs.Audit.Failure
import ContactPrivacy.Proofs.Display.Failure
import ContactPrivacy.Proofs.Audit.Page
import ContactPrivacy.Proofs.Http.Routes
import ContactPrivacy.Proofs.Http.Listing
import ContactPrivacy.Proofs.Audit.Newest
import ContactPrivacy.Proofs.Audit.Returned
import ContactPrivacy.Proofs.Settings.View
import ContactPrivacy.Proofs.Settings.Recorded
import ContactPrivacy.Proofs.Decimal.Written
import ContactPrivacy.Proofs.Http.Exchange
import ContactPrivacy.Proofs.Http.Sent
import ContactPrivacy.Proofs.Http.Body
import ContactPrivacy.Proofs.Http.History
import ContactPrivacy.Proofs.Audit.Redacted
import ContactPrivacy.Proofs.Reveal.Renamed
import ContactPrivacy.Proofs.Protection.Renamed
import ContactPrivacy.Proofs.Display.Renamed
import ContactPrivacy.Proofs.Settings.Provisioned
import ContactPrivacy.Proofs.Settings.InTurn
import ContactPrivacy.Proofs.Display.Sanitized
import ContactPrivacy.Proofs.Display.Links
import ContactPrivacy.Proofs.Reveal.Recreated
import ContactPrivacy.Proofs.Audit.Pagination
import ContactPrivacy.Proofs.Settings.Difference
import ContactPrivacy.Proofs.Settings.Permitted
import ContactPrivacy.Proofs.Protection.Violations
import ContactPrivacy.Proofs.Audit.Access
import ContactPrivacy.Proofs.Audit.Context
import ContactPrivacy.Proofs.Mask.Email
import ContactPrivacy.Proofs.Text.Blank
import ContactPrivacy.Proofs.Mask.EmailList
import ContactPrivacy.Proofs.Mask.Phone
import ContactPrivacy.Proofs.Mask.Remasked
import ContactPrivacy.Proofs.Validation.Snapshot
