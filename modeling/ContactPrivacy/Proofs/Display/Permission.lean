/-
The permission to reveal, as it is reported and as it is granted.  What is
reported follows the policy of the account alone; what is granted follows the
protection of the user too.  The two agree except for protected users, who are
told that they may reveal what they are then refused.
-/
import ContactPrivacy.Http.Server
import ContactPrivacy.Proofs.Display.Deposit

namespace ContactPrivacy

open Http (MaskValue Request Response Route Server readBody)
open Reveal (Deposits Reveals Seconds TimedHandle Timeline)

variable {T : Type}

/-- The number of a new handle leads to that handle. -/
theorem Reveal.Reveals.Numbered.resolve?_store {reveals : Reveals T}
    (hnumbered : reveals.Numbered) (key : String) (handle : TimedHandle T) :
    (reveals.store key handle).resolve? (.timed reveals.made) = some (.timed handle) := by
  have hentry : ⟨reveals.made, handle⟩ ∈ (reveals.store key handle).entries :=
    (reveals.store_entries_perm key handle).mem_iff.mpr List.mem_cons_self
  have hfound := (Reveals.store_numbered hnumbered key handle).handle?_eq hentry
  simp only [Reveals.resolve?, hfound, Option.map_some]

namespace Http.Server

/-- A request for a masked value is answered on its route. -/
theorem handle_maskValue (server : Server) {request : Request}
    (hmethod : request.method = "POST") (hpath : request.path = "/mask/value")
    {asked : MaskValue}
    (hbody : readBody MaskValue.ofMembers request.body = .ok (.accepted asked)) :
    (server.handle request).answer.1 = (server.maskValue asked).answer := by
  have hroute : Route.ofPath? request.path = some .maskValue := by
    rw [hpath]
    decide
  have hallowed : Route.maskValue.method = request.method := hmethod.symm
  simp only [handle, hroute, hallowed, if_true, serve, hbody, whenRead, Logged.answer_bind,
    Logged.answer_pure]

/-- The answer to a masked value tells whether the policy allows to reveal it. -/
theorem reported_maskValue (server : Server) (asked : MaskValue) :
    ∃ members, (server.maskValue asked).answer = .ok (.object members) ∧
      Assoc.get? "can_reveal" members = some (.bool
        ((Policy.ofGiven asked.settings (.ready asked.user)).answer.mayReveal
          (.known asked.dataType))) :=
  ⟨_, rfl, rfl⟩

end Http.Server

namespace Display.Session

variable [Timeline T] {session : Session T} {policy : Policy} {deposits : Deposits}

/-- A field that may be revealed gets a timed handle. -/
theorem answer_create_of_mayReveal (hkeeps : session.Keeps policy deposits)
    (hopen : policy.protects = false) {field : Field} (hgranted : policy.mayReveal field = true)
    {raw : String} (hraw : raw ≠ "") (key name : String) :
    ∃ handle, (session.step (.create (some raw) field key name)).answer.1 =
      .handle (some (.timed handle)) ∧ handle.raw = raw := by
  obtain ⟨pattern, hdecide⟩ := Policy.decide_of_mayReveal hgranted
  have hmasks : session.reveals.policy.Masks field pattern (some raw) raw :=
    ⟨rfl, hraw, hkeeps.bound_eq ▸ hdecide⟩
  have hcreate := create_granted (hkeeps.isProtected.trans hopen)
    (Or.inr (hkeeps.policy_eq ▸ hgranted)) (some raw) key
  rw [Reveals.create_masked hmasks] at hcreate
  refine ⟨⟨raw, field.mask pattern raw, session.reveals.durationMs, .hidden⟩, ?_, rfl⟩
  simp only [step, Logged.answer_bind, Logged.answer_pure, hcreate, Option.bind_some,
    reveals_withReveals]
  rw [hkeeps.kept.numbered.resolve?_store]

/-- A field that may not be revealed gets no timed handle: none at all if it is
masked, and one that passes the value through if it is not. -/
theorem answer_create_of_not_mayReveal (hkeeps : session.Keeps policy deposits)
    {field : Field} (hrefused : policy.protects = true ∨ policy.mayReveal field = false)
    (value : Option String) (key name : String) (handle : TimedHandle T) :
    (session.step (.create value field key name)).answer.1 ≠ .handle (some (.timed handle)) := by
  have hcreated : (session.create value field key).answer = (none, session) ∨
      (session.create value field key).answer = (some (.passthrough value), session) := by
    cases hprotected : policy.protects with
    | true => exact Or.inl (by rw [create_protected (hkeeps.isProtected.trans hprotected)])
    | false =>
        have hopen := hkeeps.isProtected.trans hprotected
        have hreveal : session.policy.mayReveal field = false := by
          rw [hkeeps.policy_eq]
          simpa [hprotected] using hrefused
        cases hdecide : session.policy.decide field with
        | masked pattern => exact Or.inl (create_refused hopen (by rw [hdecide]; rfl) hreveal ..)
        | unmasked =>
            have hpasses : session.reveals.policy.Passes field value :=
              Or.inr (hkeeps.bound_eq.trans hkeeps.policy_eq.symm ▸ hdecide)
            right
            rw [create_granted hopen (Or.inl hdecide), Reveals.create_passes hpasses]
            rfl
  simp only [step, Logged.answer_bind, Logged.answer_pure]
  rcases hcreated with hnone | hpassthrough
  · rw [hnone]
    simp
  · rw [hpassthrough]
    simp [Reveals.resolve?]

/-- A reveal of a field that may be revealed shows the value, whatever the keys
hold, but to protected users the mark. -/
theorem answer_reveal_of_mayReveal (hkeeps : session.Keeps policy deposits) {field : Field}
    (hgranted : policy.mayReveal field = true) (value : Option String) (key : String)
    (context : Option Members) :
    (session.step (.reveal value field key context)).answer.1 =
      .text (if policy.protects then some Protection.mark else value) := by
  have hshown : (session.reveal value field key context).answer.1 =
      if policy.protects then some Protection.mark else value := by
    cases hprotected : policy.protects with
    | true =>
        rw [reveal_protected (hkeeps.isProtected.trans hprotected)]
        rfl
    | false =>
        have hopen := hkeeps.isProtected.trans hprotected
        have hreveal : session.policy.mayReveal field = true := hkeeps.policy_eq ▸ hgranted
        rcases session.policy.passes_or_masks field value with
          hpasses | ⟨pattern, raw, rfl, hraw, -⟩
        · rw [reveal_passes hopen hpasses]
          rfl
        · rw [reveal_granted hopen hreveal hraw]
          rfl
  exact congrArg Answer.text hshown

/-- The permission to reveal of any settings and user, in a session on its own
reveals and after any calls.  A timed handle is granted exactly if the permission
is reported and the user is not protected; where it is reported, a reveal shows
the value to everybody else and the mark to protected users.  A request for the
masked value reports the same permission as the session. -/
theorem reported_permission_granted (settings : Given Settings) (user : Given User)
    (account : Option AccountCard) (recorder : Audit.Recorder) (durationMs : Number) (now : T)
    (calls : List (Call T)) (field : Field) (key name : String) (context : Option Members) :
    let policy := (Policy.ofGiven settings user).answer
    let session := ((start policy account recorder durationMs none now).run calls).answer.2
    let reported := (session.step (.canReveal field)).answer.1 = .flag true
    (∀ raw, raw ≠ "" →
      ((∃ handle, (session.step (.create (some raw) field key name)).answer.1 =
          .handle (some (.timed handle))) ↔
        reported ∧ policy.protects = false)) ∧
    (∀ value, reported →
      (session.step (.reveal value field key context)).answer.1 =
        .text (if policy.protects then some Protection.mark else value)) ∧
    (∀ (server : Server) (request : Request) (value : Option String) (dataType : DataType),
      request.method = "POST" → request.path = "/mask/value" →
      readBody MaskValue.ofMembers request.body =
        .ok (.accepted ⟨value, dataType, settings, user.user.answer⟩) →
      field = .known dataType →
      ∃ members, (server.handle request).answer.1 = .ok (.object members) ∧
        (Assoc.get? "can_reveal" members = some (.bool true) ↔ reported)) := by
  intro policy session reported
  have hkeeps : session.Keeps policy (Deposits.ofCalls policy calls) :=
    keeps_of_run policy account recorder durationMs now calls
  have hreported : reported ↔ policy.mayReveal field = true := by
    change Answer.flag (session.policy.mayReveal field) = Answer.flag true ↔ _
    rw [hkeeps.policy_eq, Answer.flag.injEq]
  refine ⟨?_, ?_, ?_⟩
  · intro raw hraw
    rw [hreported]
    constructor
    · rintro ⟨handle, hhandle⟩
      by_contra hrefused
      refine answer_create_of_not_mayReveal hkeeps ?_ (some raw) key name handle hhandle
      simpa [or_comm, imp_iff_not_or] using hrefused
    · rintro ⟨hgranted, hopen⟩
      obtain ⟨handle, hhandle, -⟩ :=
        answer_create_of_mayReveal hkeeps hopen hgranted hraw key name
      exact ⟨handle, hhandle⟩
  · intro value hgranted
    exact answer_reveal_of_mayReveal hkeeps (hreported.mp hgranted) value key context
  · rintro server request value dataType hmethod hpath hbody rfl
    obtain ⟨members, hanswer, hmember⟩ :=
      server.reported_maskValue ⟨value, dataType, settings, user.user.answer⟩
    refine ⟨members, (server.handle_maskValue hmethod hpath hbody).trans hanswer, ?_⟩
    rw [hmember, hreported, Option.some.injEq, Json.bool.injEq]
    rfl

/-- The body of a request for a masked address, with settings that leave out
everything. -/
def addressBody : String :=
  "\x7b\"value\":\"ada@example.com\",\"data_type\":\"email\",\"settings\":\x7b\x7d\x7d"

theorem readBody_address :
    readBody MaskValue.ofMembers addressBody =
      .ok (.accepted ⟨some "ada@example.com", .email, .raw (.object []), none⟩) := by
  have hread : (Json.readMessage addressBody).toOption =
      some (.object [("value", .string "ada@example.com"), ("data_type", .string "email"),
        ("settings", .object [])]) := by
    decide +kernel
  have hbody : addressBody ≠ "" := by decide
  cases hmessage : Json.readMessage addressBody with
  | error fault =>
      rw [hmessage] at hread
      cases hread
  | ok value =>
      rw [hmessage] at hread
      obtain rfl := Option.some.inj hread
      simp only [readBody, hmessage, if_neg hbody]
      rfl

/-- An agent whose request for a masked address reports that it may be revealed,
in a session whose key holds another address: a handle is granted, and a reveal
shows the address. -/
theorem reported_permission_granted_agent :
    let address := "ada@example.com"
    let request : Request := ⟨"POST", "/mask/value", [], addressBody⟩
    let session := ((start ⟨some .default, none⟩ none ⟨.log, ""⟩ (.int 3000) none
      (Seconds.ofMs (.int 0))).run
        [.reveal (some "john.doe@example.com") Field.email "contact" none]).answer.2
    (∀ server : Server, ∃ members, (server.handle request).answer.1 = .ok (.object members) ∧
      Assoc.get? "can_reveal" members = some (.bool true)) ∧
      (∃ handle, (session.step (.create (some address) Field.email "contact" "new")).answer.1 =
        .handle (some (.timed handle))) ∧
      (session.step (.reveal (some address) Field.email "contact" none)).answer.1 =
        .text (some address) := by
  intro address request session
  obtain ⟨hgranted, hshown, hreported⟩ := reported_permission_granted (.raw (.object []))
    (.ready none) none ⟨.log, ""⟩ (.int 3000) (Seconds.ofMs (.int 0))
    [.reveal (some "john.doe@example.com") Field.email "contact" none] Field.email "contact" "new"
    none
  refine ⟨fun server => ?_, (hgranted address (by decide)).mpr ⟨rfl, rfl⟩,
    hshown (some address) rfl⟩
  obtain ⟨members, hanswer, hmember⟩ :=
    hreported server request (some address) .email rfl rfl readBody_address rfl
  exact ⟨members, hanswer, hmember.mpr rfl⟩

/-- A protected user is told that an address may be revealed, and is then given
no handle and shown the mark. -/
theorem permission_reported_to_protected :
    let address := "john.doe@example.com"
    let session := ofSettings .default (some ⟨none, none, .agent, true⟩)
    session.isProtected = true ∧
      (session.step (.canReveal Field.email)).answer.1 = .flag true ∧
      (session.step (.create (some address) Field.email "contact" "contact")).answer.1 =
        .handle none ∧
      (session.step (.reveal (some address) Field.email "contact" none)).answer.1 =
        .text (some Protection.mark) :=
  ⟨rfl, rfl, rfl, rfl⟩

end Display.Session

end ContactPrivacy
