/-
What a recorder gives back.  Where the sink never fails, that is every record
the recorder hands to it.
-/
import ContactPrivacy.Proofs.Audit.Handing

namespace ContactPrivacy.Audit

namespace Sink

def Reliable : Sink → Prop
  | .memory _ => True
  | .log => True
  | .broken _ => False

theorem Reliable.taking {sink : Sink} (hreliable : sink.Reliable) (record : Record) :
    (sink.taking record).Reliable := by
  cases sink with
  | memory store => trivial
  | log => trivial
  | broken reason => exact hreliable.elim

theorem Reliable.foldl_taking {sink : Sink} (hreliable : sink.Reliable) (records : List Record) :
    (records.foldl Sink.taking sink).Reliable := by
  induction records generalizing sink with
  | nil => exact hreliable
  | cons record rest ih => exact ih (hreliable.taking record)

end Sink

namespace Recorder

/-- Some records are handed to the sink and given back. -/
structure Returns (before : Recorder) (result : Logged (Option Record × Recorder))
    (records : List Record) : Prop where
  hands : Hands before result.events result.answer.2 records
  given : result.answer.1.toList = records

variable {recorder : Recorder}

/-- A recorder whose sink never fails goes on with one that never fails. -/
theorem Hands.reliable {after : Recorder} {events : List Event} {records : List Record}
    (hhands : Hands recorder events after records) (hreliable : recorder.sink.Reliable) :
    after.sink.Reliable := by
  rw [hhands.taken]
  exact hreliable.foldl_taking records

theorem returns_none (recorder : Recorder) {events : List Event}
    (hsilent : handedRecords events = []) :
    Returns recorder ⟨(none, recorder), events⟩ [] :=
  ⟨.none recorder hsilent, rfl⟩

variable (hreliable : recorder.sink.Reliable)

include hreliable

theorem emit_gives (record : Record) : (recorder.emit record).answer.1 = some record := by
  obtain ⟨sink, salt⟩ := recorder
  cases sink with
  | memory store => rfl
  | log => rfl
  | broken reason => exact hreliable.elim

theorem returns_emitFor (user : Given User) (account : Option AccountCard) (kind : Kind)
    (complete : Record → Record) :
    Returns recorder (recorder.emitFor user account kind complete)
      [complete (blankRecord kind user.user.answer (AccountCard.accept account).answer)] :=
  ⟨recorder.hands_emitFor user account kind complete,
    congrArg Option.toList (emit_gives hreliable _)⟩

/-- A change of settings is given back if anything changed. -/
theorem returns_recordSettingsChange (user : Given User) (account : Option AccountCard)
    (before after : Given Settings) :
    let changes := Changes.between before.settings.answer after.settings.answer
    Returns recorder (recorder.recordSettingsChange user account before after)
      (if changes.isEmpty then [] else
        [{ blankRecord .settingsUpdated user.user.answer (AccountCard.accept account).answer with
          changes := changes }]) := by
  intro changes
  refine ⟨recorder.hands_recordSettingsChange user account before after, ?_⟩
  have hchanges : (Changes.ofGiven before after).answer = changes := rfl
  simp only [recordSettingsChange, Logged.answer_bind, hchanges]
  split
  · rfl
  · exact (returns_emitFor hreliable user account _ _).given

/-- An access is dropped, or its record is given back. -/
theorem returns_recordMembers (user : Given User) (account : Option AccountCard)
    (event : EventRef) (field : Field) (context : Members) (value : Option String) :
    ∃ records,
      Returns recorder (recorder.recordMembers user account event field context value) records := by
  unfold recordMembers
  split
  · exact ⟨_, returns_emitFor hreliable user account _ _⟩
  · exact ⟨[], returns_none recorder rfl⟩

end Recorder

end ContactPrivacy.Audit
