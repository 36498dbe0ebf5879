/-
Updates one after the other.  An update that is made again changes nothing and is
not recorded again.  Two updates that mention no common leaf can be made in either
order: both orders are accepted or neither is, and they leave the same settings, which
hold what either of them says.
-/
import ContactPrivacy.Proofs.Settings.Recorded

namespace ContactPrivacy

open Audit (Recorder)

/-- Settings that stay the same are not recorded. -/
theorem Audit.Recorder.recordSettingsChange_self (recorder : Recorder) (user : Given User)
    (account : Option AccountCard) (settings : Option Settings) :
    recorder.recordSettingsChange user account (.ready settings) (.ready settings) =
      ⟨(none, recorder), []⟩ := by
  have hnothing : (Changes.ofGiven (.ready settings) (.ready settings)) = ⟨Changes.none, []⟩ := by
    simp only [Changes.ofGiven, bind, Logged.bind, pure, Logged.pure, Given.settings,
      Audit.between_self, List.append_nil]
  simp only [recordSettingsChange, bind, Logged.bind, hnothing]
  rfl

namespace Settings

variable {before middle after : Settings} {first second payload : Json}

/-! The same update again -/

/-- An update of what it left leaves that. -/
theorem LeafUpdate.again (hupdate : LeafUpdate before payload after) :
    LeafUpdate after payload after :=
  ⟨hupdate.mentioned, fun _ _ => rfl⟩

theorem applyUpdate_again {current again : Given Settings}
    (hdistinct : payload.hasDistinctKeys = true)
    (happlied : (applyUpdate current payload).answer = .accepted after)
    (hagain : again.settings.answer = some after) :
    (applyUpdate again payload).answer = .accepted after := by
  rw [answer_applyUpdate, updated_eq_accepted_iff _ _ hdistinct] at happlied ⊢
  rw [hagain, Option.getD_some]
  exact happlied.again

theorem recordSwitched_self (user : Given User) (account : Option AccountCard)
    (recorder : Recorder) (settings : Settings) :
    recordSwitched user account recorder (some settings) settings = ⟨(none, recorder), []⟩ := by
  simp only [recordSwitched, switches, Option.any_some, bne_self_eq_false, Bool.false_eq_true,
    if_false]
  rfl

/-- An update that leaves the settings as they are records nothing, whatever the sink. -/
theorem update_unchanged (user : Given User) (account : Option AccountCard)
    (recorder : Recorder) {current : Given Settings}
    (hbefore : current.settings.answer = some after)
    (happlied : (applyUpdate current payload).answer = .accepted after) :
    (update recorder user account current payload).answer = (.accepted ⟨after, []⟩, recorder) ∧
      handedRecords (update recorder user account current payload).events = [] := by
  rw [← answer_applyUpdate_ready] at happlied
  rw [update_of_accepted user account happlied]
  simp only [hbefore, recorder.recordSettingsChange_self, recordSwitched_self, Option.toList_none,
    List.append_nil, handedRecords_append, Audit.handedRecords_settings,
    handedRecords_applyUpdate, true_and]
  rfl

/-! Updates that mention no common leaf -/

/-- Two updates, the second made to the settings that the first leaves; if the
first is rejected, that is all. -/
def applyInTurn (current : Given Settings) (first second : Json) : Reading Settings :=
  match (applyUpdate current first).answer with
  | .accepted middle => (applyUpdate (.ready (some middle)) second).answer
  | .rejected issues => .rejected issues

/-- No leaf is mentioned by both payloads. -/
def Apart (first second : Json) : Prop :=
  ∀ leaf : Leaf, leaf.mentioned? first = none ∨ leaf.mentioned? second = none

theorem Apart.symm (hapart : Apart first second) : Apart second first :=
  fun leaf => (hapart leaf).symm

/-- Settings after two updates: a leaf that one of the payloads mentions is read from
it, and every other leaf is as before. -/
structure LeafUpdates (before : Settings) (first second : Json) (after : Settings) : Prop where
  mentioned : ∀ (leaf : Leaf) value,
    leaf.mentioned? first = some value ∨ leaf.mentioned? second = some value →
    leaf.read value = .accepted (leaf.get after)
  unmentioned : ∀ leaf : Leaf, leaf.mentioned? first = none → leaf.mentioned? second = none →
    leaf.get after = leaf.get before

/-- It does not matter which of the payloads is named first. -/
theorem LeafUpdates.symm (hupdates : LeafUpdates before first second after) :
    LeafUpdates before second first after :=
  ⟨fun leaf value hvalue => hupdates.mentioned leaf value hvalue.symm,
    fun leaf hsecond hfirst => hupdates.unmentioned leaf hfirst hsecond⟩

theorem LeafUpdate.then (hfirst : LeafUpdate before first middle)
    (hsecond : LeafUpdate middle second after) (hapart : Apart first second) :
    LeafUpdates before first second after := by
  constructor
  · rintro leaf value (hvalue | hvalue)
    · have hother : leaf.mentioned? second = none :=
        (hapart leaf).resolve_left fun hnone => by simp [hnone] at hvalue
      rw [hsecond.unmentioned leaf hother]
      exact hfirst.mentioned leaf value hvalue
    · exact hsecond.mentioned leaf value hvalue
  · intro leaf hnone hother
    rw [hsecond.unmentioned leaf hother, hfirst.unmentioned leaf hnone]

/-- Between two updates stand the settings that have the leaves of the first payload
as they are after both, and the others as they were before. -/
theorem LeafUpdates.exists_middle (hupdates : LeafUpdates before first second after) :
    ∃ middle, LeafUpdate before first middle ∧ LeafUpdate middle second after := by
  let middle := ofLeaves fun leaf =>
    if leaf.mentioned? first = none then leaf.get before else leaf.get after
  have hmiddle : ∀ leaf : Leaf, leaf.get middle =
      if leaf.mentioned? first = none then leaf.get before else leaf.get after :=
    fun leaf => leaf.get_ofLeaves _
  refine ⟨middle, ⟨?_, ?_⟩, ⟨?_, ?_⟩⟩
  · intro leaf value hvalue
    rw [hmiddle, if_neg (by simp [hvalue])]
    exact hupdates.mentioned leaf value (Or.inl hvalue)
  · intro leaf hnone
    rw [hmiddle, if_pos hnone]
  · intro leaf value hvalue
    exact hupdates.mentioned leaf value (Or.inr hvalue)
  · intro leaf hother
    rw [hmiddle]
    split
    · next hnone => exact hupdates.unmentioned leaf hnone hother
    · rfl

theorem applyInTurn_eq_accepted_iff (current : Given Settings)
    (hfirst : first.hasDistinctKeys = true) (hsecond : second.hasDistinctKeys = true)
    (hapart : Apart first second) (after : Settings) :
    applyInTurn current first second = .accepted after ↔
      LeafUpdates (current.settings.answer.getD default) first second after := by
  have hturns : applyInTurn current first second = .accepted after ↔
      ∃ middle, (applyUpdate current first).answer = .accepted middle ∧
        (applyUpdate (.ready (some middle)) second).answer = .accepted after := by
    unfold applyInTurn
    cases (applyUpdate current first).answer <;> simp
  rw [hturns]
  simp only [answer_applyUpdate, updated_eq_accepted_iff _ _ hfirst,
    updated_eq_accepted_iff _ _ hsecond]
  constructor
  · rintro ⟨middle, hmiddle, hafter⟩
    exact hmiddle.then hafter hapart
  · exact LeafUpdates.exists_middle

/-- Updates do not get lost and do not depend on their order, whatever settings they
start from.  An accepted update that is made again to the settings it left leaves them
and records nothing, whatever the sink.  Two updates that mention no common leaf leave
the same settings in both orders, or are rejected in both; the settings hold what either
payload mentions, and the current settings elsewhere. -/
theorem updates_apart_commute (current : Given Settings) {first second : Json}
    (hfirst : first.hasDistinctKeys = true) (hsecond : second.hasDistinctKeys = true) :
    (∀ after, (applyUpdate current first).answer = .accepted after →
      ∀ again : Given Settings, again.settings.answer = some after →
        (applyUpdate again first).answer = .accepted after ∧
        ∀ recorder user account,
          let result := update recorder user account again first
          result.answer = (.accepted ⟨after, []⟩, recorder) ∧ handedRecords result.events = []) ∧
    (Apart first second → ∀ after,
      (applyInTurn current first second = .accepted after ↔
        applyInTurn current second first = .accepted after) ∧
      (applyInTurn current first second = .accepted after →
        (∀ (leaf : Leaf) value,
          leaf.mentioned? first = some value ∨ leaf.mentioned? second = some value →
          leaf.read value = .accepted (leaf.get after)) ∧
        ∀ leaf : Leaf, leaf.mentioned? first = none → leaf.mentioned? second = none →
          leaf.get after = leaf.get (current.settings.answer.getD default))) := by
  constructor
  · intro after happlied again hagain
    have hsame := applyUpdate_again hfirst happlied hagain
    exact ⟨hsame, fun recorder user account =>
      update_unchanged user account recorder hagain hsame⟩
  · intro hapart after
    rw [applyInTurn_eq_accepted_iff current hfirst hsecond hapart,
      applyInTurn_eq_accepted_iff current hsecond hfirst hapart.symm]
    exact ⟨⟨LeafUpdates.symm, LeafUpdates.symm⟩,
      fun hupdates => ⟨hupdates.mentioned, hupdates.unmentioned⟩⟩

/-- One payload switches a rule off and the other names its pattern and the exempt
roles, over settings that are absent. -/
theorem updates_apart_commute_in_one_rule :
    let first := Json.object [("masking_rules", .object
      [("email", .object [("enabled", .string "off")])])]
    let second := Json.object [("masking_rules", .object [("email", .object
      [("pattern", .int 7)]), ("exempt_roles", .list [.string "owner", .string "admin"])])]
    let after : Settings :=
      ⟨true, ⟨false, some "7"⟩, .default, false, true, RoleSet.ofList ["admin", "owner"]⟩
    let middle : Settings := ⟨true, ⟨false, some "standard"⟩, .default, false, true, .empty⟩
    let recorder : Recorder := ⟨.memory (Audit.Store.empty 10), ""⟩
    first.hasDistinctKeys = true ∧ second.hasDistinctKeys = true ∧ Apart first second ∧
      applyInTurn (.ready none) first second = .accepted after ∧
      applyInTurn (.ready none) second first = .accepted after ∧
      (applyUpdate (.ready none) first).answer = .accepted middle ∧
      (update recorder (.ready none) none (.raw middle.view) first).answer =
        (.accepted ⟨middle, []⟩, recorder) := by
  intro first second after middle recorder
  have hfirst : first.hasDistinctKeys = true := by decide +kernel
  have hsecond : second.hasDistinctKeys = true := by decide +kernel
  have hapart : Apart first second := by
    intro leaf
    cases leaf with
    | ruleEnabled t => exact Or.inr (by cases t <;> rfl)
    | rulePattern t => exact Or.inl (by cases t <;> rfl)
    | _ => exact Or.inl rfl
  have hafter : applyInTurn (.ready none) first second = .accepted after := by decide +kernel
  have hmiddle : (applyUpdate (.ready none) first).answer = .accepted middle := by decide +kernel
  have hstored : (Given.raw middle.view).settings.answer = some middle := by decide +kernel
  obtain ⟨hagain, hcommute⟩ := updates_apart_commute (.ready none) hfirst hsecond
  exact ⟨hfirst, hsecond, hapart, hafter, (hcommute hapart after).1.mp hafter, hmiddle,
    ((hagain middle hmiddle _ hstored).2 recorder (.ready none) none).1⟩

end Settings

end ContactPrivacy
