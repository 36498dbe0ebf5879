/-
What memory holds: the newest of the records it was handed since it was last
cleared, as many as its bound allows, in the order in which they came.
-/
import ContactPrivacy.Proofs.Audit.Handing
import ContactPrivacy.Proofs.Lists

namespace ContactPrivacy.Audit

namespace Store

theorem records_add (store : Store) (record : Record) :
    (store.add record).records = (store.records ++ [record]).rtake store.bound.toNat := by
  simp only [add, List.rtake]
  rcases Int.lt_or_le store.bound 0 with hneg | hbound
  · rw [List.drop_eq_nil_of_le (by omega), List.drop_eq_nil_of_le (by omega)]
  · congr 1
    omega

/-- Neither a missing bound nor zero is a bound of its own. -/
theorem effectiveBound_eq (asked : Option Int) (configured : Int) :
    effectiveBound asked configured = (asked.filter (· ≠ 0)).getD configured := by
  cases asked with
  | none => rfl
  | some n =>
      by_cases hzero : n = 0
      · simp [effectiveBound, hzero, Option.filter_some]
      · simp [effectiveBound, hzero, Option.filter_some]

/-- Memory that starts empty holds the newest of the records it was handed. -/
theorem foldl_add_empty (bound : Int) (records : List Record) :
    records.foldl add (empty bound) = ⟨bound, records.rtake bound.toNat⟩ := by
  induction records using List.reverseRecOn with
  | nil => rw [List.rtake_nil]; rfl
  | append_singleton records record ih =>
      have hrecords := records_add ⟨bound, records.rtake bound.toNat⟩ record
      rw [List.foldl_append, ih, List.foldl_cons, List.foldl_nil, ← Lists.rtake_concat_rtake]
      exact congrArg (Store.mk bound) hrecords

end Store

/-- Memory that is handed some records keeps them one after the other. -/
theorem Sink.foldl_taking_store (store : Store) (records : List Record) :
    records.foldl taking (.memory store) = .memory (records.foldl Store.add store) := by
  induction records generalizing store with
  | nil => rfl
  | cons record rest ih => exact ih (store.add record)

/-- What is done with a sink: it is handed a record, or forgets those it keeps. -/
inductive SinkCall where
  | hand (record : Record)
  | clear
deriving DecidableEq

namespace SinkCall

def record? : SinkCall → Option Record
  | .hand record => some record
  | .clear => none

/-- The records handed over since the last time the sink was cleared. -/
def sinceCleared (calls : List SinkCall) : List Record :=
  (calls.rtakeWhile (· ≠ .clear)).filterMap record?

theorem sinceCleared_concat_hand (calls : List SinkCall) (record : Record) :
    sinceCleared (calls ++ [.hand record]) = sinceCleared calls ++ [record] := by
  rw [sinceCleared, List.rtakeWhile_concat_pos _ _ _ (by simp), List.filterMap_append]
  rfl

theorem sinceCleared_concat_clear (calls : List SinkCall) :
    sinceCleared (calls ++ [.clear]) = [] := by
  rw [sinceCleared, List.rtakeWhile_concat_neg _ _ _ (by simp), List.filterMap_nil]

end SinkCall

namespace Sink

def perform (sink : Sink) : SinkCall → Except String Sink
  | .hand record => (sink.accept record).map Logged.answer
  | .clear => .ok sink.clear

def performAll (sink : Sink) (calls : List SinkCall) : Except String Sink :=
  calls.foldlM perform sink

theorem performAll_concat {sink after : Sink} {calls : List SinkCall}
    (hafter : sink.performAll calls = .ok after) (call : SinkCall) :
    sink.performAll (calls ++ [call]) = after.perform call := by
  rw [performAll, List.foldlM_append, ← performAll, hafter]
  exact bind_pure (after.perform call)

/-- Memory takes every record, and after any calls it holds the newest of those
it was handed since it was last cleared. -/
theorem performAll_memory (bound : Int) (calls : List SinkCall) :
    performAll (.memory (Store.empty bound)) calls =
      .ok (.memory ⟨bound, (SinkCall.sinceCleared calls).rtake bound.toNat⟩) := by
  induction calls using List.reverseRecOn with
  | nil =>
      exact congrArg (fun records => Except.ok (memory ⟨bound, records⟩)) (List.rtake_nil _).symm
  | append_singleton calls call ih =>
      rw [performAll_concat ih]
      cases call with
      | hand record =>
          rw [SinkCall.sinceCleared_concat_hand, ← Lists.rtake_concat_rtake]
          exact congrArg (fun records => Except.ok (memory ⟨bound, records⟩))
            (Store.records_add ⟨bound, _⟩ record)
      | clear =>
          rw [SinkCall.sinceCleared_concat_clear, List.rtake_nil]
          rfl

/-- Memory keeps the newest records.  Whatever bound is asked for, and whatever
is done with it, memory holds the last of the records it was handed since it was
last cleared: as many as the bound allows, all of them if they are fewer, and
each no more often than it was handed over.  Under a negative bound it holds
none. -/
theorem memory_keeps_newest (asked : Option Int) (configured : Int) (calls : List SinkCall) :
    let bound := Store.effectiveBound asked configured
    let handed := SinkCall.sinceCleared calls
    bound = (asked.filter (· ≠ 0)).getD configured ∧
    ∃ records, performAll (.memory (Store.empty bound)) calls = .ok (.memory ⟨bound, records⟩) ∧
      records <:+ handed ∧
      (records.length : Int) = min (max 0 bound) handed.length ∧
      (∀ record, records.count record ≤ handed.count record) ∧
      (records.length : Int) ≤ max 0 bound := by
  intro bound handed
  have hsuffix : handed.rtake bound.toNat <:+ handed := List.drop_suffix _ _
  have hlength : ((handed.rtake bound.toNat).length : Int) = min (max 0 bound) handed.length := by
    rw [Lists.length_rtake]
    omega
  refine ⟨Store.effectiveBound_eq asked configured, _, performAll_memory bound calls, hsuffix,
    hlength, fun record => hsuffix.sublist.count_le record, ?_⟩
  exact hlength.trans_le (Int.min_le_left _ _)

end Sink

end ContactPrivacy.Audit
