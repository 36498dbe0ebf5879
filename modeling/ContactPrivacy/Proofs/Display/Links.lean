/-
Links to contact data.  A link is given exactly where the user is not protected and
the policy does not mask the data, whatever the session has revealed; and where a link
is given the value is displayed as it is.
-/
import ContactPrivacy.Proofs.Display.Terms
import ContactPrivacy.Proofs.Policy.Questions

namespace ContactPrivacy

open Reveal (Reveals Seconds Timeline)

namespace Policy

/-- Whether links to a field are given: it is contact data, the user is not
protected and the policy does not mask the field. -/
def givesLink (policy : Policy) (field : Field) : Bool :=
  field.dataType?.isSome && !policy.protects && !(policy.decide field).shouldMask

theorem givesLink_eq_true_iff (policy : Policy) (field : Field) :
    policy.givesLink field = true ↔ (field = Field.email ∨ field = Field.phone) ∧
      policy.protects = false ∧ (policy.decide field).shouldMask = false := by
  have hcontact : field.dataType?.isSome = true ↔ field = Field.email ∨ field = Field.phone := by
    cases field with
    | known t => cases t <;> simp [Field.dataType?, Field.email, Field.phone]
    | other given => simp [Field.dataType?, Field.email, Field.phone]
  simp only [givesLink, Bool.and_eq_true, Bool.not_eq_true', hcontact, and_assoc]

/-- To see raw values adds nothing to a field that is not masked: they are seen
only where no field is masked. -/
theorem unmasked_or_seesRaw (policy : Policy) (field : Field) :
    (!(policy.decide field).shouldMask || policy.seesRaw) =
      !(policy.decide field).shouldMask := by
  cases hraw : policy.seesRaw with
  | false => rw [Bool.or_false]
  | true =>
      have hdecide := (policy.decide_eq_unmasked_iff field).mpr (Or.inl hraw)
      rw [hdecide]
      rfl

end Policy

namespace Display.Session

variable {T : Type} {session : Session T} {policy : Policy}

/-- A session decides by a policy, and protects the user of the policy. -/
structure Under (session : Session T) (policy : Policy) : Prop where
  policy_eq : session.policy = policy
  isProtected_eq : session.isProtected = policy.protects

/-- A session stays under the policy that it is started on. -/
theorem under_of_terms {begun : Session T} (hbegun : begun.Under policy)
    (hterms : session.terms = begun.terms) : session.Under policy :=
  ⟨(congrArg Terms.policy hterms).trans hbegun.policy_eq,
    (isProtected_eq_of_terms hterms).trans hbegun.isProtected_eq⟩

theorem Under.answer_rawVisible (hunder : session.Under policy) (t : DataType) :
    (session.rawVisible t).answer = policy.givesLink (.known t) := by
  unfold rawVisible Policy.givesLink
  rw [hunder.isProtected_eq, hunder.policy_eq]
  cases policy.protects with
  | true => rfl
  | false => exact policy.unmasked_or_seesRaw (.known t)

/-- A link leads to the value itself or is not given. -/
theorem Under.step_linkValue [Timeline T] (hunder : session.Under policy)
    (value : Option String) (field : Field) :
    (session.step (.linkValue value field)).answer.1 =
      .text (if policy.givesLink field then value else none) := by
  cases field with
  | known t =>
      simp only [step, linkValue, Field.dataType?, Logged.answer_bind, Logged.answer_pure,
        hunder.answer_rawVisible]
  | other given => rfl

theorem Under.step_showsLink [Timeline T] (hunder : session.Under policy) (value : String)
    (t : DataType) :
    (session.step (.showsLink (some value) t)).answer.1 =
      .flag (value ≠ "" && policy.givesLink (.known t)) := by
  by_cases hvalue : value = ""
  · simp [step, showsLink, hvalue, Option.filter]
  · simp [step, showsLink, hvalue, Option.filter, hunder.answer_rawVisible]

/-- Where a link is given the value is displayed as it is, whatever the key. -/
theorem Under.step_display [Timeline T] (hunder : session.Under policy) {field : Field}
    (hgives : policy.givesLink field = true) (value : Option String) (key : Option String) :
    (session.step (.display value field key)).answer.1 = .text value := by
  obtain ⟨-, hopen, hunmasked⟩ := (policy.givesLink_eq_true_iff field).mp hgives
  have hpasses : session.policy.Passes field value := by
    rw [hunder.policy_eq]
    exact Or.inr ((Decision.shouldMask_eq_false_iff _).mp hunmasked)
  have hdisplay := display_passes (hunder.isProtected_eq.trans hopen) hpasses key
  exact congrArg (fun answer => Answer.text answer.1) hdisplay

variable [Timeline T]

/-- Links in any session after any calls.  A link is given exactly to contact data that
the policy does not mask for a user who is not protected, and it is shown where the value
is not empty; the value is then displayed as it is, whatever the key.  No call makes a
link come or go, so that no reveal does. -/
theorem links_follow_policy (policy : Policy) (account : Option AccountCard)
    (recorder : Audit.Recorder) (durationMs : Number) (supplied : Option (Reveals T)) (now : T)
    (calls : List (Call T)) (value : String) :
    let begun := start policy account recorder durationMs supplied now
    let session := (begun.run calls).answer.2
    let link := fun (session : Session T) field =>
      (session.step (.linkValue (some value) field)).answer.1
    let shown := fun (session : Session T) t =>
      (session.step (.showsLink (some value) t)).answer.1
    (∀ field,
      (link session field = .text (some value) ↔ (field = Field.email ∨ field = Field.phone) ∧
        policy.protects = false ∧ (policy.decide field).shouldMask = false) ∧
      (link session field = .text (some value) ∨ link session field = .text none)) ∧
    (∀ t, shown session t = .flag true ↔
      value ≠ "" ∧ link session (.known t) = .text (some value)) ∧
    (∀ field key, link session field = .text (some value) →
      (session.step (.display (some value) field key)).answer.1 = .text (some value)) ∧
    (∀ field, link session field = link begun field) ∧
    ∀ t, shown session t = shown begun t := by
  intro begun session link shown
  have hbegun : begun.Under policy := ⟨rfl, rfl⟩
  have hunder : session.Under policy := under_of_terms hbegun (begun.terms_run calls)
  have hlink : ∀ field, link session field =
      .text (if policy.givesLink field then some value else none) :=
    hunder.step_linkValue (some value)
  have hshown : ∀ t, shown session t = .flag (value ≠ "" && policy.givesLink (.known t)) :=
    hunder.step_showsLink value
  have hgiven : ∀ field, link session field = .text (some value) ↔
      policy.givesLink field = true := by
    intro field
    rw [hlink]
    cases policy.givesLink field <;> simp
  refine ⟨fun field => ⟨?_, ?_⟩, ?_, ?_, ?_, ?_⟩
  · rw [hgiven, policy.givesLink_eq_true_iff]
  · rw [hlink]
    cases policy.givesLink field <;> simp
  · intro t
    rw [hgiven, hshown]
    simp
  · intro field key hvalue
    exact hunder.step_display ((hgiven field).mp hvalue) (some value) key
  · intro field
    rw [hlink]
    exact (hbegun.step_linkValue (some value) field).symm
  · intro t
    rw [hshown]
    exact (hbegun.step_showsLink value t).symm

/-- An address that is revealed is displayed under its key and has no link, which an
administrator whom the settings exempt is given. -/
theorem links_follow_policy_during_reveal :
    let address := "john.doe@example.com"
    let admin : User := ⟨none, none, .administrator, false⟩
    let settings : Settings := ⟨true, { MaskingRules.default with adminBypass := true }⟩
    let session := fun user : Option User => ((ofSettings settings user).run
      [.reveal (some address) Field.email "contact" none]).answer.2
    let link := fun user : Option User =>
      ((session user).step (.linkValue (some address) Field.email)).answer.1
    ((session none).display (some address) Field.email (some "contact")).answer.1 =
        some address ∧
      link none = .text none ∧
      ((session none).step (.showsLink (some address) .email)).answer.1 ≠ .flag true ∧
      link (some admin) = .text (some address) := by
  intro address admin settings session link
  have hlinks := fun user : Option User => links_follow_policy ⟨some settings, user⟩ none
    ⟨.memory (Audit.Store.empty 10000), ""⟩ (.int 3000) none (Seconds.ofMs (.int 0))
    [.reveal (some address) Field.email "contact" none] address
  have hmasked : link none ≠ .text (some address) := by
    intro hgiven
    obtain ⟨-, -, hdecide⟩ := ((hlinks none).1 Field.email).1.mp hgiven
    exact absurd hdecide (by decide)
  refine ⟨by decide +kernel, ((hlinks none).1 Field.email).2.resolve_left hmasked, ?_, ?_⟩
  · intro hshown
    exact hmasked (((hlinks none).2.1 .email).mp hshown).2
  · exact ((hlinks (some admin)).1 Field.email).1.mpr ⟨Or.inl rfl, by decide, by decide⟩

end Display.Session

end ContactPrivacy
