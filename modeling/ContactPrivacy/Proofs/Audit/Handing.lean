/-
What a recorder hands to its sink.  Whatever becomes of it there, a record
that is built is handed over once; an access outside the closed sets builds
none and leaves the recorder alone.  Memory that has room keeps the records in
the order in which they were handed over.
-/
import ContactPrivacy.Audit.Recorder

namespace ContactPrivacy.Audit

/-- A record that there is room for is added to the others. -/
theorem Store.add_of_room {store : Store} (hroom : (store.records.length : Int) < store.bound)
    (record : Record) : store.add record = ⟨store.bound, store.records ++ [record]⟩ := by
  have hdropped : ((store.records ++ [record]).length - store.bound).toNat = 0 := by
    rw [List.length_append, List.length_singleton]
    omega
  rw [add, hdropped, List.drop_zero]

namespace Sink

/-- A sink after it was handed a record: memory keeps it, the others stay. -/
def taking (sink : Sink) (record : Record) : Sink :=
  match sink with
  | .memory store => .memory (store.add record)
  | other => other

/-- Memory keeps all records while there is room for them. -/
theorem foldl_taking_memory {store : Store} {records : List Record}
    (hroom : (store.records.length + records.length : Int) ≤ store.bound) :
    records.foldl taking (.memory store) =
      .memory ⟨store.bound, store.records ++ records⟩ := by
  induction records generalizing store with
  | nil =>
      rw [List.append_nil]
      rfl
  | cons record rest ih =>
      rw [List.length_cons] at hroom
      have hadd : store.add record = _ := Store.add_of_room (by omega) record
      have hrest : ((store.add record).records.length + rest.length : Int) ≤
          (store.add record).bound := by
        simp only [hadd, List.length_append, List.length_singleton]
        omega
      rw [List.foldl_cons, taking, ih hrest, hadd, List.append_assoc]
      rfl

end Sink

def accessRecord (salt : String) (user : Option User) (accountId : Option Identifier)
    (kind : Kind) (dataType : DataType) (context : Members) (value : Option String) : Record :=
  { blankRecord kind user accountId with
    dataType := some dataType
    action := actionOf (filterMembers context)
    context := filterMembers context
    valueDigest := digestOf salt value }

theorem handedRecords_accept (account : Option AccountCard) :
    handedRecords (AccountCard.accept account).events = [] := by
  cases account with
  | none => rfl
  | some card =>
      simp only [AccountCard.accept]
      split <;> rfl

theorem handedRecords_acceptRaw {α : Type} (read : Members → Reading α)
    {malformed : Nat → Event} (hsilent : ∀ issues, (malformed issues).handed? = none)
    (value : Json) : handedRecords (acceptRaw read malformed value).events = [] := by
  unfold acceptRaw
  split
  · split
    · rfl
    · next issues _ => simp [handedRecords, hsilent]
  · rfl

theorem handedRecords_user (user : Given User) : handedRecords user.user.events = [] := by
  cases user with
  | ready value => rfl
  | raw value => exact handedRecords_acceptRaw User.ofMembers (fun _ => rfl) value

theorem handedRecords_settings (settings : Given Settings) :
    handedRecords settings.settings.events = [] := by
  cases settings with
  | ready value => rfl
  | raw value => exact handedRecords_acceptRaw Settings.ofMembers (fun _ => rfl) value

namespace Recorder

/-- Some records, and no others, are handed over while one recorder becomes
another: of a recorder only the sink changes. -/
structure Hands (before : Recorder) (events : List Event) (after : Recorder)
    (records : List Record) : Prop where
  handed : handedRecords events = records
  taken : after = { before with sink := records.foldl Sink.taking before.sink }

namespace Hands

theorem none (recorder : Recorder) {events : List Event} (hsilent : handedRecords events = []) :
    Hands recorder events recorder [] :=
  ⟨hsilent, rfl⟩

theorem append {first second third : Recorder} {earlier later : List Event}
    {before after : List Record} (hfirst : Hands first earlier second before)
    (hsecond : Hands second later third after) :
    Hands first (earlier ++ later) third (before ++ after) := by
  obtain ⟨rfl, rfl⟩ := hfirst
  obtain ⟨rfl, rfl⟩ := hsecond
  exact ⟨handedRecords_append earlier later, by rw [List.foldl_append]⟩

/-- What is only logged afterwards hands over nothing more. -/
theorem then_silent {before after : Recorder} {events later : List Event}
    {records : List Record} (hhands : Hands before events after records)
    (hsilent : handedRecords later = []) : Hands before (events ++ later) after records := by
  simpa using hhands.append (Hands.none after hsilent)

end Hands

theorem hands_emit (recorder : Recorder) (record : Record) :
    Hands recorder (recorder.emit record).events (recorder.emit record).answer.2 [record] := by
  obtain ⟨sink, salt⟩ := recorder
  cases sink <;> exact ⟨rfl, rfl⟩

/-- A record about any user and account is handed over once. -/
theorem hands_emitFor (recorder : Recorder) (user : Given User) (account : Option AccountCard)
    (kind : Kind) (complete : Record → Record) :
    Hands recorder (recorder.emitFor user account kind complete).events
      (recorder.emitFor user account kind complete).answer.2
      [complete (blankRecord kind user.user.answer (AccountCard.accept account).answer)] := by
  have hread := (Hands.none recorder (handedRecords_user user)).append
    (Hands.none recorder (handedRecords_accept account))
  simpa [emitFor] using hread.append (recorder.hands_emit _)

/-- A change of settings is handed over if anything changed. -/
theorem hands_recordSettingsChange (recorder : Recorder) (user : Given User)
    (account : Option AccountCard) (before after : Given Settings) :
    let changes := Changes.between before.settings.answer after.settings.answer
    let result := recorder.recordSettingsChange user account before after
    Hands recorder result.events result.answer.2 (if changes.isEmpty then [] else
      [{ blankRecord .settingsUpdated user.user.answer (AccountCard.accept account).answer with
        changes := changes }]) := by
  intro changes result
  have hread : Hands recorder (Changes.ofGiven before after).events recorder [] :=
    .none recorder (by simp [Changes.ofGiven, handedRecords_settings])
  have hanswer : (Changes.ofGiven before after).answer = changes := rfl
  simp only [result, recordSettingsChange, Logged.events_bind, Logged.answer_bind, hanswer]
  split
  · simpa using hread
  · exact hread.append (recorder.hands_emitFor user account _ _)

variable (recorder : Recorder) (user : Option User) (account : Option AccountCard) (kind : Kind)

/-- An access to contact data is handed over. -/
theorem hands_recordMembers (dataType : DataType) (context : Members) (value : Option String) :
    let result := recorder.recordMembers (.ready user) account (.known kind) (.known dataType)
      context value
    Hands recorder result.events result.answer.2 [accessRecord recorder.salt user
      (AccountCard.accept account).answer kind dataType context value] :=
  recorder.hands_emitFor (.ready user) account kind fun record =>
    { record with
      dataType := some dataType
      action := actionOf (filterMembers context)
      context := filterMembers context
      valueDigest := digestOf recorder.salt value }

/-- An access to something that is no contact data is dropped. -/
theorem recordMembers_other {field : Field} (hother : field.dataType? = none)
    (context : Members) (value : Option String) :
    recorder.recordMembers (.ready user) account (.known kind) field context value =
      ⟨(none, recorder), [.accessDropped (EventRef.known kind).literal field.toJson.literal]⟩ := by
  simp only [recordMembers, EventRef.kind?, hother]

theorem salt_recordMembers (field : Field) (context : Members) (value : Option String) :
    (recorder.recordMembers (.ready user) account (.known kind) field context
      value).answer.2.salt = recorder.salt := by
  cases field with
  | known dataType =>
      rw [(hands_recordMembers recorder user account kind dataType context value).taken]
  | other given => rw [recordMembers_other recorder user account kind rfl]

end Recorder

end ContactPrivacy.Audit
