/-
What becomes of an access that is recorded.  An event or a kind of data outside the
closed sets is dropped, and only then is a context that is no object refused.  Every
other access is handed to the sink once, as a record about the account and the user,
however malformed these are.
-/
import ContactPrivacy.Proofs.Audit.Handing

namespace ContactPrivacy.Audit

/-- What stands for the identifier of an account; null if nothing does. -/
def givenId (account : Option AccountCard) : Json := (account.map AccountCard.id).getD .null

/-- What a record tells of the account and of the user.  Integers and texts are told
as they are, truth values as one and zero, and other identifiers by their literal
text; a user without a role is told as unknown. -/
structure Record.Tells (record : Record) (account : Option AccountCard) (user : Option User) :
    Prop where
  absent : record.accountId = none ↔ givenId account = .null
  integer : ∀ n, givenId account = .number (.int n) → record.accountId = some (.int n)
  text : ∀ s, givenId account = .string s → record.accountId = some (.text s)
  truth : ∀ b, givenId account = .bool b → record.accountId = some (.int (if b then 1 else 0))
  other : givenId account ≠ .null → (∀ n, givenId account ≠ .number (.int n)) →
    (∀ b, givenId account ≠ .bool b) →
    record.accountId = some (.text (givenId account).literal)
  actor : record.actorId = user.bind User.id
  role : record.actorRole =
    match user.bind User.role with
    | some role => if role = "" then "unknown" else role
    | none => "unknown"

namespace Recorder

variable (recorder : Recorder) (user : Given User) (account : Option AccountCard)

end Recorder

end ContactPrivacy.Audit
