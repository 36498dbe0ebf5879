/-
The questions that a policy answers: how a field is masked, who sees raw
values, and what may be revealed.  One rule says who sees raw values, and the
other answers follow it; a policy that is read once answers like one that is
read for every question.
-/
import ContactPrivacy.Policy

namespace ContactPrivacy

/-- The settings exempt administrators, if they allow the bypass, and whoever has
one of their exempt roles. -/
def Settings.Exempts (settings : Settings) (user : User) : Prop :=
  (user.roleType = .administrator ∧ settings.rules.adminBypass = true) ∨
    ∃ role ∈ settings.rules.exemptRoles.roles, user.role = some role

theorem Settings.bypassedBy_eq_true_iff (settings : Settings) (user : User) :
    settings.bypassedBy user = true ↔ settings.Exempts user := by
  simp [bypassedBy, Exempts, RoleSet.contains, Option.any_eq_true, and_comm]

theorem Settings.masks_eq_true_iff (settings : Settings) (field : Field) :
    settings.masks field = true ↔
      settings.maskingEnabled = true ∧ (settings.ruleFor field).enabled = true := by
  rw [masks, Bool.and_eq_true]

namespace Decision

theorem shouldMask_eq_false_iff (decision : Decision) :
    decision.shouldMask = false ↔ decision = .unmasked := by
  cases decision <;> simp [shouldMask]

/-- A decision has a pattern exactly if it masks. -/
theorem isSome_pattern? (decision : Decision) :
    decision.pattern?.isSome = decision.shouldMask := by
  cases decision <;> rfl

end Decision

namespace Policy

/-- Raw values are seen where no settings are accepted or masking is off, and
by users who are exempt. -/
theorem seesRaw_eq_true_iff (policy : Policy) :
    policy.seesRaw = true ↔ ∀ settings, policy.settings = some settings →
      settings.maskingEnabled = false ∨
        ∃ user, policy.user = some user ∧ settings.Exempts user := by
  obtain ⟨settings, user⟩ := policy
  cases settings with
  | none => simp [seesRaw]
  | some settings =>
      cases user with
      | none => simp [seesRaw]
      | some user => simp [seesRaw, settings.bypassedBy_eq_true_iff]

/-- A field is not masked where raw values are seen or its rule is off. -/
theorem decide_eq_unmasked_iff (policy : Policy) (field : Field) :
    policy.decide field = .unmasked ↔ policy.seesRaw = true ∨
      ∃ settings, policy.settings = some settings ∧
        (settings.ruleFor field).enabled = false := by
  obtain ⟨settings, user⟩ := policy
  cases settings with
  | none => simp [decide, Decision.of, seesRaw]
  | some settings =>
      cases hmasks : settings.masks field with
      | false =>
          have hoff : settings.maskingEnabled = false ∨
              (settings.ruleFor field).enabled = false := by
            rwa [Settings.masks, Bool.and_eq_false_iff] at hmasks
          refine iff_of_true (by simp [decide, Decision.of, Settings.decide, hmasks]) ?_
          rcases hoff with hswitch | hrule
          · exact Or.inl (by simp [seesRaw, hswitch])
          · exact Or.inr ⟨settings, rfl, hrule⟩
      | true =>
          obtain ⟨hswitch, hrule⟩ := (settings.masks_eq_true_iff field).mp hmasks
          cases user with
          | none => simp [decide, Decision.of, Settings.decide, hmasks, seesRaw, hswitch, hrule]
          | some user =>
              simp [decide, Decision.of, Settings.decide, hmasks, seesRaw, hswitch, hrule]

/-- The pattern of a field that is masked: that of its rule, and the standard
one for a user who is not known. -/
theorem eq_of_decide_eq_masked {policy : Policy} {field : Field} {pattern : Pattern}
    (hdecide : policy.decide field = .masked pattern) :
    ∃ settings, policy.settings = some settings ∧
      pattern = match policy.user with
        | none => .standard
        | some _ => Pattern.ofRule (settings.ruleFor field).pattern := by
  obtain ⟨settings, user⟩ := policy
  cases settings with
  | none => cases hdecide
  | some settings =>
      refine ⟨settings, rfl, ?_⟩
      simp only [decide, Decision.of, Settings.decide] at hdecide
      split at hdecide
      · cases user with
        | none => exact (Decision.masked.inj hdecide).symm
        | some user =>
            simp only at hdecide
            split at hdecide
            · cases hdecide
            · exact (Decision.masked.inj hdecide).symm
      · cases hdecide

theorem mayReveal_eq_true_iff (policy : Policy) (field : Field) :
    policy.mayReveal field = true ↔ (policy.decide field).shouldMask = true ∧
      ∃ settings, policy.settings = some settings ∧ settings.rules.allowReveal = true := by
  rw [mayReveal, Bool.and_eq_true, Option.any_eq_true]

/-! A policy that is read once answers what one answers that is read each time. -/

theorem answer_resolve (settings : Given Settings) (user : Given User) (field : Field) :
    (resolve settings user field).answer = (ofGiven settings user).answer.decide field := by
  simp only [resolve, ofGiven, Logged.answer_bind, Logged.answer_pure, decide, Decision.of]
  cases settings.settings.answer with
  | none => rfl
  | some snapshot =>
      simp only
      split
      · rfl
      · next hmasks => simp [Settings.decide, hmasks]

theorem answer_canView (settings : Given Settings) (user : Given User) :
    (canView settings user).answer = (ofGiven settings user).answer.seesRaw := by
  simp only [canView, ofGiven, Logged.answer_bind, Logged.answer_pure, seesRaw]
  cases settings.settings.answer with
  | none => rfl
  | some snapshot =>
      cases hswitch : snapshot.maskingEnabled <;> simp [hswitch]

theorem answer_canReveal (settings : Given Settings) (user : Given User) (field : Field) :
    (canReveal settings user field).answer =
      (ofGiven settings user).answer.mayReveal field := by
  simp only [canReveal, Logged.answer_bind, answer_resolve, mayReveal]
  cases ((ofGiven settings user).answer.decide field).shouldMask <;> rfl

/-- The answers of a policy for any settings, user and field.  A field is not
masked exactly if the user sees raw values or the rule of the field is off; it
may be revealed exactly if it is masked and the settings allow reveals; it has a
pattern exactly if it is masked, the standard one for an unknown user and that of
its rule for any other.  A policy read once gives the same answers. -/
theorem questions_agree (settings : Given Settings) (user : Given User) (field : Field) :
    let accepted := settings.settings.answer
    let known := user.user.answer
    let decision := (resolve settings user field).answer
    let views := (canView settings user).answer
    let reveals := (canReveal settings user field).answer
    let bound := (ofGiven settings user).answer
    (views = true ↔ ∀ snapshot, accepted = some snapshot →
      snapshot.maskingEnabled = false ∨ ∃ person, known = some person ∧ snapshot.Exempts person) ∧
    (decision.shouldMask = false ↔ views = true ∨
      ∃ snapshot, accepted = some snapshot ∧ (snapshot.ruleFor field).enabled = false) ∧
    (reveals = true ↔ decision.shouldMask = true ∧
      ∃ snapshot, accepted = some snapshot ∧ snapshot.rules.allowReveal = true) ∧
    decision.pattern?.isSome = decision.shouldMask ∧
    (∀ pattern, decision.pattern? = some pattern → ∃ snapshot, accepted = some snapshot ∧
      pattern = match known with
        | none => .standard
        | some _ => Pattern.ofRule (snapshot.ruleFor field).pattern) ∧
    bound.seesRaw = views ∧
    ∀ other, (bound.look other).answer = (resolve settings user other).answer ∧
      bound.mayReveal other = (canReveal settings user other).answer := by
  intro accepted known decision views reveals bound
  have hdecision : decision = bound.decide field := answer_resolve settings user field
  have hviews : views = bound.seesRaw := answer_canView settings user
  have hreveals : reveals = bound.mayReveal field := answer_canReveal settings user field
  rw [hdecision, hviews, hreveals, Decision.shouldMask_eq_false_iff]
  refine ⟨bound.seesRaw_eq_true_iff, bound.decide_eq_unmasked_iff field,
    bound.mayReveal_eq_true_iff field, Decision.isSome_pattern? _, ?_, rfl, ?_⟩
  · intro pattern hpattern
    cases hmasked : bound.decide field with
    | unmasked =>
        rw [hmasked] at hpattern
        cases hpattern
    | masked found =>
        rw [hmasked] at hpattern
        obtain rfl := Option.some.inj hpattern
        exact eq_of_decide_eq_masked hmasked
  · intro other
    exact ⟨(answer_resolve settings user other).symm,
      (answer_canReveal settings user other).symm⟩

end Policy

end ContactPrivacy
