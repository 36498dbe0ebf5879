/-
Reveals of renamed values.  Of two desks that serve the same calls, one with
every value renamed, the handles stay those of the other renamed, key by key and
number by number, and the logs are the same.  When a handle shows its value does
not matter to either.
-/
import ContactPrivacy.Proofs.Audit.Redacted
import ContactPrivacy.Proofs.Reveal.Deposit

namespace ContactPrivacy.Reveal

open Logged (SameLog)

variable {T : Type} {rename : String → String}

def TimedHandle.Renamed (rename : String → String) (first second : TimedHandle T) : Prop :=
  second.raw = rename first.raw

theorem TimedHandle.raw_call [Timeline T] (handle : TimedHandle T) (now : T) (call : HandleCall) :
    (handle.call now call).2.raw = handle.raw :=
  congrArg Prod.fst (handle.call_texts now call)

/-- What is done with a handle leaves it for its value. -/
theorem TimedHandle.Renamed.call [Timeline T] {first second : TimedHandle T}
    (hhandle : Renamed rename first second) (now later : T) (call : HandleCall) :
    Renamed rename (first.call now call).2 (second.call later call).2 := by
  rw [Renamed, raw_call, raw_call]
  exact hhandle

/-- An entry with the same number for the renamed value. -/
structure Entry.Renamed (rename : String → String) (first second : Entry T) : Prop where
  serial : second.serial = first.serial
  handle : first.handle.Renamed rename second.handle

theorem Entry.Renamed.setIf {first second : Entry T} (hentry : Renamed rename first second)
    (serial : Nat) {handle other : TimedHandle T} (hhandle : handle.Renamed rename other) :
    Renamed rename (first.setIf serial handle) (second.setIf serial other) := by
  rw [Entry.setIf, Entry.setIf, hentry.serial]
  split
  · exact ⟨rfl, hhandle⟩
  · exact hentry

def HandleRef.renamed (rename : String → String) : HandleRef → HandleRef
  | .passthrough raw => .passthrough (raw.map rename)
  | .timed serial => .timed serial

/-- Options that are related are there together. -/
theorem rel_cases {α β : Type} {related : α → β → Prop} {first : Option α} {second : Option β}
    (hrelated : Option.Rel related first second) :
    (first = none ∧ second = none) ∨
      ∃ x y, first = some x ∧ second = some y ∧ related x y := by
  cases hrelated with
  | none => exact .inl ⟨rfl, rfl⟩
  | some hitem => exact .inr ⟨_, _, rfl, rfl, hitem⟩

/-- The first items that satisfy a predicate are related where all items are. -/
theorem rel_find? {α β : Type} {related : α → β → Prop} {first : List α} {second : List β}
    (hrelated : List.Forall₂ related first second) {p : α → Bool} {q : β → Bool}
    (hagree : ∀ x y, related x y → p x = q y) :
    Option.Rel related (first.find? p) (second.find? q) := by
  induction hrelated with
  | nil => exact .none
  | @cons x y _ _ hitem _ ih =>
      rw [List.find?_cons, List.find?_cons, hagree x y hitem]
      split
      · exact .some hitem
      · exact ih

theorem rel_toList {α β : Type} {related : α → β → Prop} {first : Option α} {second : Option β}
    (hrelated : Option.Rel related first second) :
    List.Forall₂ related first.toList second.toList := by
  cases hrelated with
  | none => exact .nil
  | some hitem => exact .cons hitem .nil

theorem rel_map {α β γ δ : Type} {related : α → β → Prop} {result : γ → δ → Prop}
    {first : Option α} {second : Option β} (hrelated : Option.Rel related first second)
    {f : α → γ} {g : β → δ} (hresult : ∀ x y, related x y → result (f x) (g y)) :
    Option.Rel result (first.map f) (second.map g) := by
  cases hrelated with
  | none => exact .none
  | some hitem => exact .some (hresult _ _ hitem)

namespace Reveals

/-- The reveals of the renamed values. -/
structure Renamed (rename : String → String) (first second : Reveals T) : Prop where
  policy : second.policy = first.policy
  durationMs : second.durationMs = first.durationMs
  stored : Assoc.Related (Entry.Renamed rename) first.stored second.stored
  lost : List.Forall₂ (Entry.Renamed rename) first.lost second.lost
  made : second.made = first.made

theorem renamed_empty (rename : String → String) (policy : Policy) (durationMs : Number) :
    Renamed rename (empty policy durationMs : Reveals T) (empty policy durationMs) :=
  ⟨rfl, rfl, .nil, .nil, rfl⟩

variable {first second : Reveals T} (hreveals : Renamed rename first second)

include hreveals

theorem Renamed.size_eq : second.size = first.size := hreveals.stored.length_eq.symm

theorem Renamed.get? (key : String) :
    Option.Rel (TimedHandle.Renamed rename) (first.get? key) (second.get? key) :=
  rel_map (hreveals.stored.get? key) fun _ _ hentry => hentry.handle

theorem Renamed.setHandle (key : String) {handle other : TimedHandle T}
    (hhandle : handle.Renamed rename other) :
    Renamed rename (first.setHandle key handle) (second.setHandle key other) := by
  rcases rel_cases (hreveals.stored.get? key) with
    ⟨hfirst, hsecond⟩ | ⟨entry, twin, hfirst, hsecond, hentry⟩
  · simp only [Reveals.setHandle, hfirst, hsecond]
    exact hreveals
  · simp only [Reveals.setHandle, hfirst, hsecond]
    exact ⟨hreveals.policy, hreveals.durationMs,
      hreveals.stored.put key ⟨hentry.serial, hhandle⟩, hreveals.lost, hreveals.made⟩

theorem Renamed.store (key : String) {handle other : TimedHandle T}
    (hhandle : handle.Renamed rename other) :
    Renamed rename (first.store key handle) (second.store key other) :=
  ⟨hreveals.policy, hreveals.durationMs, hreveals.stored.put key ⟨hreveals.made, hhandle⟩,
    List.rel_append (rel_toList (hreveals.stored.get? key)) hreveals.lost,
    congrArg Nat.succ hreveals.made⟩

theorem Renamed.handle? (serial : Nat) :
    Option.Rel (TimedHandle.Renamed rename) (first.handle? serial) (second.handle? serial) :=
  rel_map (rel_find? (List.rel_append hreveals.stored.values hreveals.lost)
    fun _ _ hentry => by rw [hentry.serial]) fun _ _ hentry => hentry.handle

theorem Renamed.setSerial (serial : Nat) {handle other : TimedHandle T}
    (hhandle : handle.Renamed rename other) :
    Renamed rename (first.setSerial serial handle) (second.setSerial serial other) :=
  ⟨hreveals.policy, hreveals.durationMs,
    hreveals.stored.map _ _ fun _ _ hentry => hentry.setIf serial hhandle,
    List.forall₂_map_left_iff.mpr (List.forall₂_map_right_iff.mpr
      (hreveals.lost.imp fun _ _ hentry => hentry.setIf serial hhandle)),
    hreveals.made⟩

theorem Renamed.hideAll : Renamed rename first.hideAll second.hideAll :=
  ⟨hreveals.policy, hreveals.durationMs,
    hreveals.stored.map (fun entry => { entry with handle := entry.handle.hide })
      (fun entry => { entry with handle := entry.handle.hide })
      fun _ _ hentry => ⟨hentry.serial, hentry.handle⟩,
    hreveals.lost, hreveals.made⟩

theorem Renamed.clear : Renamed rename first.clear second.clear :=
  ⟨hreveals.policy, hreveals.durationMs, .nil,
    List.rel_append hreveals.hideAll.stored.values hreveals.lost, hreveals.made⟩

/-- A handle made for a value and one for what it is renamed to. -/
theorem Renamed.create (hrename : Renaming rename) (value : Option String) (field : Field)
    (key : String) :
    SameLog (fun x y => y.1 = x.1.renamed rename ∧ Renamed rename x.2 y.2)
      (first.create value field key) (second.create (value.map rename) field key) := by
  unfold Reveals.create
  rw [hreveals.policy, hreveals.durationMs, hrename.filter_map]
  refine .bind_same _ ?_
  cases (first.policy.look field).answer with
  | unmasked => exact .pure ⟨rfl, hreveals⟩
  | masked pattern =>
      cases value.filter (· ≠ "") with
      | none => exact .pure ⟨rfl, hreveals⟩
      | some raw =>
          refine .bind_same _ (.pure ⟨congrArg HandleRef.timed hreveals.made, ?_⟩)
          exact hreveals.store key rfl

variable [Timeline T]

theorem Renamed.currentValue (now later : T) (key : String) (default other : Option String) :
    Renamed rename (first.currentValue now key default).2
      (second.currentValue later key other).2 := by
  rcases rel_cases (hreveals.get? key) with
    ⟨hfirst, hsecond⟩ | ⟨handle, twin, hfirst, hsecond, hhandle⟩
  · simp only [Reveals.currentValue, hfirst, hsecond]
    exact hreveals
  · simp only [Reveals.currentValue, hfirst, hsecond]
    exact hreveals.setHandle key hhandle

/-- A reference is called in both or in neither. -/
theorem Renamed.call (now later : T) (ref : HandleRef) (call : HandleCall) :
    Option.Rel (fun x y => Renamed rename x.2 y.2) (first.call now ref call)
      (second.call later (ref.renamed rename) call) := by
  cases ref with
  | passthrough raw => exact .some hreveals
  | timed serial =>
      exact rel_map (hreveals.handle? serial) fun _ _ hhandle =>
        hreveals.setSerial serial (hhandle.call now later call)

end Reveals

/-- A desk of the renamed values, with the handles kept under the same names. -/
structure Desk.Renamed (rename : String → String) (first second : Desk T) : Prop where
  reveals : Reveals.Renamed rename first.reveals second.reveals
  names : Assoc.Related (fun ref other => other = ref.map (HandleRef.renamed rename)) first.names
    second.names

/-- The call with its values renamed; keys, names, clock and fields stay. -/
def DeskCall.renamed (rename : String → String) : DeskCall T → DeskCall T
  | .create value field key name => .create (value.map rename) field key name
  | .currentValue key default => .currentValue key (default.map rename)
  | call => call

namespace Desk

variable {first second : Desk T} (hdesk : Renamed rename first second)

include hdesk

theorem Renamed.withReveals {reveals other : Reveals T}
    (hreveals : Reveals.Renamed rename reveals other) :
    Renamed rename { first with reveals := reveals } { second with reveals := other } :=
  ⟨hreveals, hdesk.names⟩

theorem Renamed.remember (name : String) (ref : Option HandleRef) :
    Renamed rename (first.remember name ref)
      (second.remember name (ref.map (HandleRef.renamed rename))) :=
  ⟨hdesk.reveals, hdesk.names.put name rfl⟩

/-- A name stands for a handle of the value in one desk, and of its name in the other. -/
theorem Renamed.kept? (name : String) :
    second.kept? name = (first.kept? name).map (HandleRef.renamed rename) := by
  rcases rel_cases (hdesk.names.get? name) with
    ⟨hfirst, hsecond⟩ | ⟨ref, twin, hfirst, hsecond, rfl⟩
  · rw [Desk.kept?, Desk.kept?, hfirst, hsecond]
    rfl
  · rw [Desk.kept?, Desk.kept?, hfirst, hsecond]
    rfl

variable [Timeline T]

theorem Renamed.callNamed (name : String) (call : HandleCall) :
    Renamed rename (first.callNamed name call).2 (second.callNamed name call).2 := by
  rw [Desk.callNamed, Desk.callNamed, hdesk.kept?]
  cases first.kept? name with
  | none => exact hdesk
  | some ref =>
      rcases rel_cases (hdesk.reveals.call first.now second.now ref call) with
        ⟨hfirst, hsecond⟩ | ⟨called, twin, hfirst, hsecond, hreveals⟩
      · simp only [Option.map_some, Option.bind_some, hfirst, hsecond]
        exact hdesk
      · simp only [Option.map_some, Option.bind_some, hfirst, hsecond]
        exact hdesk.withReveals hreveals

/-- One call leaves the desks the same but for the renaming, and logs the same. -/
theorem Renamed.step (hrename : Renaming rename) (call : DeskCall T) :
    SameLog (fun x y => Renamed rename x.2 y.2) (first.step call)
      (second.step (call.renamed rename)) := by
  cases call with
  | setClock now => exact .pure ⟨hdesk.reveals, hdesk.names⟩
  | handle name call => exact .pure (hdesk.callNamed name call)
  | get key => exact .pure hdesk
  | has key => exact .pure hdesk
  | mayReveal field => exact .pure hdesk
  | currentValue key default =>
      exact .pure (hdesk.withReveals (hdesk.reveals.currentValue first.now second.now key _ _))
  | hideAll => exact .pure (hdesk.withReveals hdesk.reveals.hideAll)
  | clear => exact .pure (hdesk.withReveals hdesk.reveals.clear)
  | create value field key name =>
      refine .bind (hdesk.reveals.create hrename value field key) ?_
      rintro ⟨ref, reveals⟩ ⟨-, other⟩ ⟨rfl, hreveals⟩
      exact .pure ((hdesk.withReveals hreveals).remember name (some ref))

end Desk

end ContactPrivacy.Reveal
