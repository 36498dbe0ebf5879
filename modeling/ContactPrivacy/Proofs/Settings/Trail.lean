/-
The audit trail of settings updates.  The records tell each change against
the settings before it, so a reader who knows the settings at the start and
writes down every change has the settings at the end.
-/
import ContactPrivacy.Proofs.Audit.Handing
import ContactPrivacy.Settings.Provision
import Mathlib.Data.List.Chain
import Mathlib.Logic.Function.Basic

namespace ContactPrivacy

open Audit (Change Changes Kind Record Recorder RuleName Sink Store)

/-- What settings are compared by: the switch and each rule as a value. -/
@[ext]
structure SettingsView where
  switch : Json
  rule : RuleName → Json

/-- The switch that a record of the masking feature tells. -/
def Audit.Record.toggle? (record : Record) : Option Bool :=
  match record.kind with
  | .featureEnabled => some true
  | .featureDisabled => some false
  | _ => none

theorem Audit.Changes.eq_none_of_isEmpty {changes : Changes}
    (hempty : changes.isEmpty = true) : changes = .none := by
  obtain ⟨switch, rules⟩ := changes
  simpa [Changes.isEmpty, Changes.none] using hempty

namespace SettingsView

/-- The view of settings; absent ones have null for everything. -/
def of : Option Settings → SettingsView
  | none => ⟨.null, fun _ => .null⟩
  | some settings => ⟨.bool settings.maskingEnabled, fun rule => rule.of settings.rules⟩

def toJson (view : SettingsView) : Json :=
  .object [("masking_enabled", view.switch),
    ("masking_rules", .object (RuleName.all.map fun rule => (rule.name, view.rule rule)))]

/-- Set each field that the changes name to its new value. -/
def write (view : SettingsView) (changes : Changes) : SettingsView :=
  ⟨(changes.maskingEnabled.map Change.after).getD view.switch,
    changes.rules.foldl (fun rules entry => Function.update rules entry.1 entry.2.after)
      view.rule⟩

/-- Only records of updates change what a reader of the trail has. -/
def follow (view : SettingsView) (record : Record) : SettingsView :=
  if record.kind = .settingsUpdated then view.write record.changes else view

def replay (view : SettingsView) (records : List Record) : SettingsView :=
  records.foldl follow view

/-- A record tells what a reader has before it: the old values of its changes,
and the switch if it tells one. -/
structure Agrees (view : SettingsView) (record : Record) : Prop where
  switch_before : ∀ change, record.changes.maskingEnabled = some change →
    change.before = view.switch
  rule_before : ∀ rule change, (rule, change) ∈ record.changes.rules →
    change.before = view.rule rule
  toggled : ∀ enabled, record.toggle? = some enabled →
    record.switchedTo = some enabled ∧ view.switch = .bool enabled

theorem toJson_of (settings : Settings) : (of (some settings)).toJson = settings.view := rfl

theorem switchJson_eq (settings : Option Settings) :
    Audit.switchJson settings = (of settings).switch := by
  cases settings <;> rfl

theorem ruleJson_eq (rule : RuleName) (settings : Option Settings) :
    Audit.ruleJson rule settings = (of settings).rule rule := by
  cases settings <;> rfl

theorem replay_append (view : SettingsView) (first second : List Record) :
    view.replay (first ++ second) = (view.replay first).replay second :=
  List.foldl_append

theorem mem_all (rule : RuleName) : rule ∈ RuleName.all := by
  cases rule <;> decide

/-- Writing the differences of two maps into a third brings over the values
that differ. -/
theorem foldl_update_between (before after rules : RuleName → Json) (names : List RuleName)
    (rule : RuleName) :
    (names.filterMap fun name => (Change.between? (before name) (after name)).map fun change =>
        (name, change)).foldl
      (fun rules entry => Function.update rules entry.1 entry.2.after) rules rule =
      if rule ∈ names ∧ before rule ≠ after rule then after rule else rules rule := by
  induction names generalizing rules with
  | nil => simp
  | cons name rest ih =>
      by_cases hsame : before name = after name
      · have hnone : Change.between? (before name) (after name) = none := if_pos hsame
        simp only [List.filterMap_cons, hnone, Option.map_none, ih, List.mem_cons]
        by_cases hname : rule = name
        · simp [hname, hsame]
        · simp [hname]
      · have hsome : Change.between? (before name) (after name) =
            some ⟨before name, after name⟩ := if_neg hsame
        simp only [List.filterMap_cons, hsome, Option.map_some, List.foldl_cons, ih,
          List.mem_cons]
        by_cases hname : rule = name
        · simp [hname, hsame]
        · simp [hname]

/-- The differences of settings, written over the old ones, give the new ones. -/
theorem write_between (before after : Option Settings) :
    (of before).write (Changes.between before after) = of after := by
  ext rule
  · simp only [write, Changes.between, switchJson_eq, Change.between?]
    split
    · next hsame => exact hsame
    · rfl
  · simp only [write, Changes.between, ruleJson_eq]
    rw [foldl_update_between]
    simp only [mem_all, true_and]
    split
    · rfl
    · next hsame => exact not_not.mp hsame

theorem before_of_between? {before after : Json} {change : Change}
    (hchange : Change.between? before after = some change) : change.before = before := by
  unfold Change.between? at hchange
  split at hchange
  · cases hchange
  · exact (Option.some.inj hchange) ▸ rfl

/-- Every record agrees with what a reader has just before it. -/
def Tells (view : SettingsView) (records : List Record) : Prop :=
  ∀ earlier record later, records = earlier ++ record :: later →
    (view.replay earlier).Agrees record

theorem tells_nil (view : SettingsView) : view.Tells [] := by
  intro earlier record later hsplit
  simp at hsplit

theorem tells_singleton {view : SettingsView} {record : Record} (hagrees : view.Agrees record) :
    view.Tells [record] := by
  intro earlier found later hsplit
  cases earlier with
  | nil =>
      obtain ⟨rfl, -⟩ := List.cons.inj hsplit
      exact hagrees
  | cons first rest => simp at hsplit

theorem Tells.append {view : SettingsView} {first second : List Record}
    (hfirst : view.Tells first) (hsecond : (view.replay first).Tells second) :
    view.Tells (first ++ second) := by
  intro earlier record later hsplit
  rcases List.append_eq_append_iff.mp hsplit with ⟨rest, rfl, hrest⟩ | ⟨rest, hrest, hlater⟩
  · rw [replay_append]
    exact hsecond rest record later hrest
  · cases rest with
    | nil =>
        rw [List.append_nil] at hrest
        rw [← hrest]
        exact hsecond [] record later hlater.symm
    | cons found rest =>
        obtain ⟨rfl, -⟩ := List.cons.inj hlater
        exact hfirst earlier record rest hrest

/-- A record of the differences agrees with the view of the old settings. -/
theorem agrees_between (before after : Option Settings) {record : Record}
    (hkind : record.toggle? = none) (hchanges : record.changes = Changes.between before after) :
    (of before).Agrees record := by
  constructor
  · intro change hchange
    rw [hchanges, Changes.between, switchJson_eq] at hchange
    exact before_of_between? hchange
  · intro rule change hchange
    rw [hchanges] at hchange
    obtain ⟨name, -, hpair⟩ := List.mem_filterMap.mp hchange
    obtain ⟨found, hfound, hentry⟩ := Option.map_eq_some_iff.mp hpair
    obtain ⟨rfl, rfl⟩ := Prod.mk.inj hentry
    rw [ruleJson_eq] at hfound
    exact before_of_between? hfound
  · intro enabled htoggle
    rw [hkind] at htoggle
    cases htoggle

/-- A record of the switch agrees with the view of settings that have it so. -/
theorem agrees_toggle {settings : Settings} {record : Record}
    (htoggle : record.toggle? = some settings.maskingEnabled)
    (hswitched : record.switchedTo = some settings.maskingEnabled)
    (hchanges : record.changes = .none) : (of (some settings)).Agrees record := by
  constructor
  · simp [hchanges, Changes.none]
  · simp [hchanges, Changes.none]
  · intro enabled henabled
    obtain rfl := Option.some.inj (htoggle.symm.trans henabled)
    exact ⟨hswitched, rfl⟩

end SettingsView

namespace Settings

variable (user : Given User) (account : Option AccountCard)

/-- The record of what an update changed, if it changed anything. -/
def changeRecords (before : Option Settings) (after : Settings) : List Record :=
  if (Changes.between before (some after)).isEmpty then []
  else
    [{ Audit.blankRecord .settingsUpdated user.user.answer (AccountCard.accept account).answer with
      changes := Changes.between before (some after) }]

/-- The record of the switch, if an update turned it. -/
def switchRecords (before : Option Settings) (after : Settings) : List Record :=
  if switches before after then
    [{ Audit.blankRecord (if after.maskingEnabled then .featureEnabled else .featureDisabled)
        user.user.answer (AccountCard.accept account).answer with
      switchedTo := some after.maskingEnabled }]
  else []

/-- Updates one after the other: each is made to what the last accepted one
left, and a rejected one leaves the settings alone. -/
def updates (recorder : Recorder) (current : Given Settings) :
    List Json → Logged (Given Settings × Recorder)
  | [] => return (current, recorder)
  | payload :: rest => do
      let (result, recorder) ← update recorder user account current payload
      match result with
      | .accepted updated => updates recorder (.ready (some updated.settings)) rest
      | .rejected _ => updates recorder current rest

/-- The records that updates leave behind between two settings. -/
inductive Trail : Option Settings → List Record → Option Settings → Prop
  | done (settings : Option Settings) : Trail settings [] settings
  | accepted {before : Option Settings} {after : Settings} {later : List Record}
      {last : Option Settings} : Trail (some after) later last →
      Trail before (changeRecords user account before after ++
        switchRecords user account before after ++ later) last

theorem handedRecords_applyUpdate (current : Given Settings) (payload : Json) :
    handedRecords (applyUpdate current payload).events = [] := by
  simp only [applyUpdate, Logged.events_bind, handedRecords_append,
    Audit.handedRecords_settings, List.nil_append]
  split <;> rfl

def recordSwitched (recorder : Recorder) (before : Option Settings) (after : Settings) :
    Logged (Option Record × Recorder) :=
  if switches before after then recorder.recordSwitch user account after.maskingEnabled
  else pure (none, recorder)

theorem hands_recordSwitched (recorder : Recorder) (before : Option Settings)
    (after : Settings) :
    let switched := recordSwitched user account recorder before after
    Recorder.Hands recorder switched.events switched.answer.2
      (switchRecords user account before after) := by
  intro switched
  simp only [switched, recordSwitched, switchRecords]
  split
  · exact recorder.hands_emitFor user account _ _
  · exact .none _ rfl

theorem update_of_rejected {current : Given Settings} {payload : Json} {issues : List Issue}
    (happlied : (applyUpdate (.ready current.settings.answer) payload).answer = .rejected issues)
    (recorder : Recorder) :
    update recorder user account current payload =
      ⟨(.rejected issues, recorder),
        current.settings.events ++
          (applyUpdate (.ready current.settings.answer) payload).events⟩ := by
  simp only [update, bind, Logged.bind, happlied]
  simp only [pure, Logged.pure, List.append_nil]

theorem update_of_accepted {current : Given Settings} {payload : Json} {after : Settings}
    (happlied : (applyUpdate (.ready current.settings.answer) payload).answer = .accepted after)
    (recorder : Recorder) :
    let before := current.settings.answer
    let changed :=
      recorder.recordSettingsChange user account (.ready before) (.ready (some after))
    let switched := recordSwitched user account changed.answer.2 before after
    let records := changed.answer.1.toList ++ switched.answer.1.toList
    update recorder user account current payload =
      ⟨(.accepted ⟨after, records⟩, switched.answer.2),
        current.settings.events ++ (applyUpdate (.ready before) payload).events ++
          (changed.events ++ switched.events ++
            [.settingsUpdated (!records.isEmpty) after.maskingEnabled])⟩ := by
  simp only [update, bind, Logged.bind, happlied]
  simp only [pure, Logged.pure, Logged.report, List.append_nil, List.append_assoc]
  unfold recordSwitched
  split <;> rfl

/-- One update: rejected without a record, or accepted with its own. -/
theorem hands_update (recorder : Recorder) (current : Given Settings) (payload : Json) :
    let result := update recorder user account current payload
    (∃ issues, result.answer.1 = .rejected issues ∧
      Recorder.Hands recorder result.events result.answer.2 []) ∨
    ∃ updated, result.answer.1 = .accepted updated ∧
      Recorder.Hands recorder result.events result.answer.2
        (changeRecords user account current.settings.answer updated.settings ++
          switchRecords user account current.settings.answer updated.settings) := by
  intro result
  have hread := (Recorder.Hands.none recorder (Audit.handedRecords_settings current)).append
    (Recorder.Hands.none recorder
      (handedRecords_applyUpdate (.ready current.settings.answer) payload))
  cases happlied : (applyUpdate (.ready current.settings.answer) payload).answer with
  | rejected issues =>
      have hresult : result = _ := update_of_rejected user account happlied recorder
      refine Or.inl ⟨issues, congrArg (fun logged => logged.answer.1) hresult, ?_⟩
      rw [hresult]
      exact hread
  | accepted after =>
      have hresult : result = _ := update_of_accepted user account happlied recorder
      refine Or.inr ⟨_, congrArg (fun logged => logged.answer.1) hresult, ?_⟩
      have hchanged := recorder.hands_recordSettingsChange user account
        (.ready current.settings.answer) (.ready (some after))
      have hswitched := hands_recordSwitched user account (recorder.recordSettingsChange user
        account (.ready current.settings.answer) (.ready (some after))).answer.2
        current.settings.answer after
      rw [hresult]
      exact hread.append ((hchanged.append hswitched).then_silent rfl)

/-- Reading the change of an update over the old settings gives the new ones. -/
theorem replay_changeRecords (before : Option Settings) (after : Settings) :
    (SettingsView.of before).replay (changeRecords user account before after) =
      SettingsView.of (some after) := by
  have hwrite := SettingsView.write_between before (some after)
  unfold changeRecords
  split
  · next hempty =>
      rw [Changes.eq_none_of_isEmpty hempty] at hwrite
      exact hwrite
  · exact hwrite

theorem tells_changeRecords (before : Option Settings) (after : Settings) :
    (SettingsView.of before).Tells (changeRecords user account before after) := by
  unfold changeRecords
  split
  · exact SettingsView.tells_nil _
  · exact SettingsView.tells_singleton (SettingsView.agrees_between before (some after) rfl rfl)

/-- A record of the switch changes nothing that a reader has. -/
theorem replay_switchRecords (view : SettingsView) (before : Option Settings) (after : Settings) :
    view.replay (switchRecords user account before after) = view := by
  unfold switchRecords
  split
  · cases hafter : after.maskingEnabled <;> rfl
  · rfl

theorem tells_switchRecords (before : Option Settings) (after : Settings) :
    (SettingsView.of (some after)).Tells (switchRecords user account before after) := by
  unfold switchRecords
  split
  · refine SettingsView.tells_singleton (SettingsView.agrees_toggle ?_ rfl rfl)
    cases hafter : after.maskingEnabled <;> rfl
  · exact SettingsView.tells_nil _

/-- The switch that an update tells, if it turned it. -/
theorem toggles_update (before : Option Settings) (after : Settings) :
    (changeRecords user account before after ++
      switchRecords user account before after).filterMap Record.toggle? =
      if switches before after then [after.maskingEnabled] else [] := by
  have hchange : (changeRecords user account before after).filterMap Record.toggle? = [] := by
    unfold changeRecords
    split <;> rfl
  rw [List.filterMap_append, hchange, List.nil_append, switchRecords]
  split
  · cases hafter : after.maskingEnabled <;> rfl
  · rfl

variable {user account}

/-- A reader of a trail who starts with the old settings ends with the new
ones, and every record agrees with what the reader has before it. -/
theorem Trail.replay {before after : Option Settings} {records : List Record}
    (htrail : Trail user account before records after) :
    (SettingsView.of before).replay records = SettingsView.of after ∧
      (SettingsView.of before).Tells records := by
  induction htrail with
  | done settings => exact ⟨rfl, SettingsView.tells_nil _⟩
  | @accepted before after later last _ ih =>
      obtain ⟨hreplay, htells⟩ := ih
      have hchange := replay_changeRecords user account before after
      have hfirst := (tells_changeRecords user account before after).append
        (hchange.symm ▸ tells_switchRecords user account before after)
      have hupdate : (SettingsView.of before).replay (changeRecords user account before after ++
          switchRecords user account before after) = SettingsView.of (some after) := by
        rw [SettingsView.replay_append, hchange, replay_switchRecords]
      refine ⟨?_, hfirst.append (hupdate.symm ▸ htells)⟩
      rw [SettingsView.replay_append, hupdate, hreplay]

/-- The switches that a trail tells take turns, and the first one turns the
switch of the old settings. -/
theorem Trail.alternates {before after : Option Settings} {records : List Record}
    (htrail : Trail user account before records after) :
    ((before.map maskingEnabled).toList ++ records.filterMap Record.toggle?).IsChain
      (· ≠ ·) := by
  induction htrail with
  | done settings => cases settings <;> simp
  | @accepted before after later last _ ih =>
      rw [List.filterMap_append, toggles_update]
      cases before with
      | none => exact ih.of_cons
      | some settings =>
          by_cases hsame : settings.maskingEnabled = after.maskingEnabled
          · simpa [switches, hsame] using ih
          · simpa [switches, hsame] using ih

variable (user account)

/-- Updates hand over a trail from the settings at the start to those at the end. -/
theorem hands_updates (recorder : Recorder) (current : Given Settings) (payloads : List Json) :
    let result := updates user account recorder current payloads
    ∃ records, Recorder.Hands recorder result.events result.answer.2 records ∧
      Trail user account current.settings.answer records result.answer.1.settings.answer := by
  induction payloads generalizing recorder current with
  | nil => exact ⟨[], .none _ rfl, .done _⟩
  | cons payload rest ih =>
      simp only [updates, Logged.answer_bind, Logged.events_bind]
      rcases hands_update user account recorder current payload with
        ⟨issues, hrejected, hfirst⟩ | ⟨updated, haccepted, hfirst⟩
      · obtain ⟨records, hrest, htrail⟩ :=
          ih (update recorder user account current payload).answer.2 current
        rw [hrejected]
        exact ⟨records, hfirst.append hrest, htrail⟩
      · obtain ⟨records, hrest, htrail⟩ := ih
          (update recorder user account current payload).answer.2 (.ready (some updated.settings))
        rw [haccepted]
        exact ⟨_, hfirst.append hrest, .accepted htrail⟩

/-- The audit trail replays to the settings.  Over any updates, made each to
what the last accepted one left, memory that has room keeps records from
which a reader of the settings at the start has the settings at the end; each
record tells the old values that the reader has just before it, and those of
the switch tell what the reader has and take turns. -/
theorem replay_of_updates (bound : Int) (salt : String) (current : Given Settings)
    (payloads : List Json)
    (hroom : ((handedRecords (updates user account ⟨.memory (Store.empty bound), salt⟩ current
      payloads).events).length : Int) ≤ bound) :
    let result := updates user account ⟨.memory (Store.empty bound), salt⟩ current payloads
    let start := SettingsView.of current.settings.answer
    ∃ store, result.answer.2.sink = .memory store ∧
      start.replay store.records = SettingsView.of result.answer.1.settings.answer ∧
      (∀ settings, result.answer.1.settings.answer = some settings →
        (start.replay store.records).toJson = settings.view) ∧
      start.Tells store.records ∧
      (store.records.filterMap Record.toggle?).IsChain (· ≠ ·) := by
  intro result start
  obtain ⟨records, ⟨hhanded, htaken⟩, htrail⟩ :=
    hands_updates user account ⟨.memory (Store.empty bound), salt⟩ current payloads
  rw [hhanded] at hroom
  have hkept : result.answer.2.sink = .memory ⟨bound, records⟩ := by
    have hempty : ((Store.empty bound).records.length + records.length : Int) ≤ bound := by
      simpa [Store.empty] using hroom
    rw [htaken]
    exact Sink.foldl_taking_memory hempty
  obtain ⟨hreplay, htells⟩ := htrail.replay
  refine ⟨_, hkept, hreplay, fun settings hsettings => ?_, htells, ?_⟩
  · have hview := congrArg SettingsView.toJson hreplay
    rw [hsettings, SettingsView.toJson_of] at hview
    exact hview
  · exact htrail.alternates.right_of_append

/-- Settings that are made, switched off, refused a change and switched on
again: the reader starts with nothing and ends with the default settings. -/
theorem replay_of_updates_from_nothing :
    let switch := fun value : Json => Json.object [("masking_enabled", value)]
    let payloads := [.null, switch (.bool false), switch (.string "maybe"), switch (.bool true)]
    let result := updates (.ready none) none ⟨.memory (Store.empty 10), ""⟩ (.raw .null) payloads
    ((handedRecords result.events).length : Int) ≤ 10 ∧
    ∃ store, result.answer.2.sink = .memory store ∧
      store.records.filterMap Record.toggle? = [false, true] ∧
      ((SettingsView.of none).replay store.records).toJson = Settings.default.view := by
  intro switch payloads result
  have hroom : ((handedRecords result.events).length : Int) ≤ 10 := by decide +kernel
  obtain ⟨store, hsink, -, hview, -, -⟩ :=
    replay_of_updates (.ready none) none 10 "" (.raw .null) payloads hroom
  have hswitched : result.answer.2.sink.store?.map (fun store =>
      store.records.filterMap Record.toggle?) = some [false, true] := by decide +kernel
  refine ⟨hroom, store, hsink, ?_, hview _ (by decide +kernel)⟩
  change result.answer.2.sink = _ at hsink
  rw [hsink] at hswitched
  exact Option.some.inj hswitched

end Settings

end ContactPrivacy
