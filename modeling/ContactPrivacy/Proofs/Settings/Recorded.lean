/-
What an update of settings records.  A rejected update leaves the recorder
alone.  An accepted one hands over a record of what changed if anything did,
then one of the switch if masking was turned on or off, and gives back what it
handed over.
-/
import ContactPrivacy.Proofs.Audit.Returned
import ContactPrivacy.Proofs.Settings.Leaf
import ContactPrivacy.Proofs.Settings.View

namespace ContactPrivacy.Settings

open Audit (Change Changes Record Recorder Sink Store blankRecord)

variable (user : Given User) (account : Option AccountCard)

/-- Settings are updated alike before and after they are read. -/
theorem answer_applyUpdate_ready (current : Given Settings) (payload : Json) :
    (applyUpdate (.ready current.settings.answer) payload).answer =
      (applyUpdate current payload).answer := by
  rw [answer_applyUpdate, answer_applyUpdate]
  rfl

/-- A rejected update records nothing, whatever the sink. -/
theorem update_rejected (recorder : Recorder) {current : Given Settings} {payload : Json}
    {issues : List Issue} (happlied : (applyUpdate current payload).answer = .rejected issues) :
    (update recorder user account current payload).answer = (.rejected issues, recorder) ∧
      handedRecords (update recorder user account current payload).events = [] := by
  rw [← answer_applyUpdate_ready] at happlied
  rw [update_of_rejected user account happlied]
  refine ⟨rfl, ?_⟩
  rw [handedRecords_append, Audit.handedRecords_settings, handedRecords_applyUpdate,
    List.append_nil]

variable {recorder : Recorder} (hreliable : recorder.sink.Reliable)

include hreliable

theorem returns_recordSwitched (before : Option Settings) (after : Settings) :
    Recorder.Returns recorder (recordSwitched user account recorder before after)
      (switchRecords user account before after) := by
  unfold recordSwitched switchRecords
  split
  · exact Recorder.returns_emitFor hreliable user account _ _
  · exact Recorder.returns_none recorder rfl

/-- An accepted update gives back what it hands over. -/
theorem returns_update {current : Given Settings} {payload : Json} {after : Settings}
    (happlied : (applyUpdate current payload).answer = .accepted after) :
    let records := changeRecords user account current.settings.answer after ++
      switchRecords user account current.settings.answer after
    (update recorder user account current payload).answer.1 = .accepted ⟨after, records⟩ ∧
      Recorder.Hands recorder (update recorder user account current payload).events
        (update recorder user account current payload).answer.2 records := by
  intro records
  have hready := (answer_applyUpdate_ready current payload).trans happlied
  have hchanged := Recorder.returns_recordSettingsChange hreliable user account
    (.ready current.settings.answer) (.ready (some after))
  have hswitched := returns_recordSwitched user account
    (hchanged.hands.reliable hreliable) current.settings.answer after
  have hgiven : (update recorder user account current payload).answer.1 =
      .accepted ⟨after, records⟩ := by
    rw [update_of_accepted user account hready, hchanged.given, hswitched.given]
    rfl
  refine ⟨hgiven, ?_⟩
  rcases hands_update user account recorder current payload with
    ⟨issues, hrejected, -⟩ | ⟨updated, haccepted, hhands⟩
  · rw [hgiven] at hrejected
    cases hrejected
  · rw [hgiven] at haccepted
    cases haccepted
    exact hhands

end ContactPrivacy.Settings
