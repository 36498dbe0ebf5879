/-
The entries of a session's reveals, whether a key still holds them or not.
Every handle made has a number of its own, so a reference to a handle never
reaches another one.
-/
import ContactPrivacy.Proofs.Assoc
import ContactPrivacy.Reveal.Desk

namespace ContactPrivacy

namespace Reveal

variable {T : Type}

namespace Entry

@[simp] theorem setIf_serial (serial : Nat) (handle : TimedHandle T) (entry : Entry T) :
    (entry.setIf serial handle).serial = entry.serial := by
  unfold setIf
  split <;> rfl

/-- An entry with another number is left as it is. -/
theorem setIf_of_not_mem {entries : List (Entry T)} {serial : Nat}
    (hnew : serial ∉ entries.map Entry.serial) {entry : Entry T} (hentry : entry ∈ entries)
    (handle : TimedHandle T) : entry.setIf serial handle = entry := by
  refine if_neg fun hsame => hnew ?_
  exact hsame ▸ List.mem_map_of_mem hentry

/-- Where numbers tell entries apart, writing by the number of an entry is
writing at its key. -/
theorem map_setIf_eq_put {key : String} {entry : Entry T} {entries : Assoc (Entry T)}
    (hfound : Assoc.get? key entries = some entry)
    (hdistinct : ((Assoc.values entries).map Entry.serial).Nodup) (handle : TimedHandle T) :
    (entries.map fun pair => (pair.1, pair.2.setIf entry.serial handle)) =
      Assoc.put key { entry with handle := handle } entries := by
  induction entries with
  | nil => simp [Assoc.get?] at hfound
  | cons pair rest ih =>
      obtain ⟨hfirst, hrest⟩ := List.nodup_cons.mp hdistinct
      by_cases hkey : pair.1 = key
      · obtain rfl : pair.2 = entry := by simpa [Assoc.get?, hkey] using hfound
        have hothers : (rest.map fun other => (other.1, other.2.setIf pair.2.serial handle)) =
            rest := by
          refine (List.map_congr_left fun other hother => ?_).trans (List.map_id rest)
          rw [setIf_of_not_mem hfirst (List.mem_map_of_mem hother)]
          rfl
        rw [List.map_cons, hothers]
        simp [Assoc.put, hkey, setIf]
      · have hfound : Assoc.get? key rest = some entry := by
          simpa [Assoc.get?, hkey] using hfound
        have hother : pair.2.setIf entry.serial handle = pair.2 := by
          refine if_neg fun hsame => hfirst ?_
          exact hsame ▸ List.mem_map_of_mem (Assoc.mem_values_of_get? hfound)
        simp only [List.map_cons, hother, Assoc.put, hkey, if_false]
        rw [ih hfound hrest]

end Entry

namespace Reveals

/-- All entries: those that keys hold and those that lost their keys. -/
def entries (reveals : Reveals T) : List (Entry T) := Assoc.values reveals.stored ++ reveals.lost

def serials (reveals : Reveals T) : List Nat := reveals.entries.map Entry.serial

/-- Numbers tell handles apart, and the next one is still free. -/
structure Numbered (reveals : Reveals T) : Prop where
  distinct : reveals.serials.Nodup
  below : ∀ serial ∈ reveals.serials, serial < reveals.made

theorem empty_numbered (policy : Policy) (durationMs : Number) :
    (empty policy durationMs : Reveals T).Numbered :=
  ⟨List.nodup_nil, by simp [empty, serials, entries, Assoc.values]⟩

/-- A change that keeps the numbers, in any order, keeps them apart. -/
theorem Numbered.of_perm {before after : Reveals T} (hnumbered : before.Numbered)
    (hserials : after.serials.Perm before.serials) (hmade : after.made = before.made) :
    after.Numbered := by
  constructor
  · exact hserials.nodup_iff.mpr hnumbered.distinct
  · intro serial hserial
    rw [hmade]
    exact hnumbered.below serial (hserials.mem_iff.mp hserial)

theorem setHandle_serials (reveals : Reveals T) (key : String) (handle : TimedHandle T) :
    (reveals.setHandle key handle).serials = reveals.serials := by
  unfold setHandle
  split
  · next entry hentry =>
      have hserial : ({ entry with handle := handle } : Entry T).serial = entry.serial := rfl
      simp only [serials, entries, List.map_append]
      rw [Assoc.map_values_put Entry.serial hentry hserial]
  · rfl

theorem setSerial_serials (reveals : Reveals T) (serial : Nat) (handle : TimedHandle T) :
    (reveals.setSerial serial handle).serials = reveals.serials := by
  simp [serials, entries, setSerial, Assoc.values, Function.comp_def]

theorem hideAll_serials (reveals : Reveals T) : reveals.hideAll.serials = reveals.serials := by
  simp [serials, entries, hideAll, Assoc.values, Function.comp_def]

theorem clear_serials (reveals : Reveals T) : reveals.clear.serials = reveals.serials := by
  simp [serials, entries, clear, hideAll, Assoc.values, Function.comp_def]

/-- A new handle adds an entry, and the one that it replaces at its key is kept. -/
theorem store_entries_perm (reveals : Reveals T) (key : String) (handle : TimedHandle T) :
    (reveals.store key handle).entries.Perm (⟨reveals.made, handle⟩ :: reveals.entries) := by
  have hvalues := Assoc.values_put_perm key ⟨reveals.made, handle⟩ reveals.stored
  simpa [entries, store, List.append_assoc] using hvalues.append_right reveals.lost

theorem store_serials_perm (reveals : Reveals T) (key : String) (handle : TimedHandle T) :
    (reveals.store key handle).serials.Perm (reveals.made :: reveals.serials) :=
  (reveals.store_entries_perm key handle).map Entry.serial

theorem setHandle_numbered {reveals : Reveals T} (hnumbered : reveals.Numbered) (key : String)
    (handle : TimedHandle T) : (reveals.setHandle key handle).Numbered := by
  apply hnumbered.of_perm
  · rw [setHandle_serials]
  · unfold setHandle
    split <;> rfl

theorem setSerial_numbered {reveals : Reveals T} (hnumbered : reveals.Numbered) (serial : Nat)
    (handle : TimedHandle T) : (reveals.setSerial serial handle).Numbered :=
  hnumbered.of_perm (by rw [setSerial_serials]) rfl

theorem hideAll_numbered {reveals : Reveals T} (hnumbered : reveals.Numbered) :
    reveals.hideAll.Numbered :=
  hnumbered.of_perm (by rw [hideAll_serials]) rfl

theorem clear_numbered {reveals : Reveals T} (hnumbered : reveals.Numbered) :
    reveals.clear.Numbered :=
  hnumbered.of_perm (by rw [clear_serials]) rfl

/-- A new handle gets the number that no entry has. -/
theorem store_numbered {reveals : Reveals T} (hnumbered : reveals.Numbered) (key : String)
    (handle : TimedHandle T) : (reveals.store key handle).Numbered := by
  have hserials := reveals.store_serials_perm key handle
  constructor
  · rw [hserials.nodup_iff, List.nodup_cons]
    refine ⟨?_, hnumbered.distinct⟩
    intro hmade
    exact Nat.lt_irrefl _ (hnumbered.below _ hmade)
  · intro serial hserial
    change serial < reveals.made + 1
    rcases List.mem_cons.mp (hserials.mem_iff.mp hserial) with rfl | hold
    · exact Nat.lt_succ_self _
    · exact Nat.lt_succ_of_lt (hnumbered.below serial hold)

/-- The handle found under an entry's number is that entry's. -/
theorem Numbered.handle?_eq {reveals : Reveals T} (hnumbered : reveals.Numbered)
    {entry : Entry T} (hentry : entry ∈ reveals.entries) :
    reveals.handle? entry.serial = some entry.handle := by
  cases hfound : reveals.entries.find? fun other => other.serial == entry.serial with
  | none =>
      have hnone := List.find?_eq_none.mp hfound entry hentry
      simp at hnone
  | some found =>
      have hmem : found ∈ reveals.entries := List.mem_of_find?_eq_some hfound
      have hserial : found.serial = entry.serial := by
        simpa using List.find?_some hfound
      have hsame : found = entry :=
        List.inj_on_of_nodup_map hnumbered.distinct hmem hentry hserial
      change (reveals.entries.find? fun other => other.serial == entry.serial).map
        Entry.handle = some entry.handle
      rw [hfound, hsame]
      rfl

/-- A handle that a key holds can be written by its number or at the key. -/
theorem Numbered.setSerial_eq_setHandle {reveals : Reveals T} (hnumbered : reveals.Numbered)
    {key : String} {entry : Entry T} (hentry : Assoc.get? key reveals.stored = some entry)
    (handle : TimedHandle T) :
    reveals.setSerial entry.serial handle = reveals.setHandle key handle := by
  have hserials := hnumbered.distinct
  rw [serials, entries, List.map_append] at hserials
  obtain ⟨hstored, -, hapart⟩ := List.nodup_append.mp hserials
  have hmem : entry.serial ∈ (Assoc.values reveals.stored).map Entry.serial :=
    List.mem_map_of_mem (Assoc.mem_values_of_get? hentry)
  have hlost : reveals.lost.map (Entry.setIf entry.serial handle) = reveals.lost := by
    refine (List.map_congr_left fun other hother => ?_).trans (List.map_id _)
    refine Entry.setIf_of_not_mem (fun hlost => ?_) hother handle
    exact hapart _ hmem _ hlost rfl
  simp only [setSerial, setHandle, hentry, hlost, Entry.map_setIf_eq_put hentry hstored]

/-- It does not matter whether the handle that a key holds is called at the
key or by a reference to it. -/
theorem Numbered.callKey_eq_call [Timeline T] {reveals : Reveals T} (hnumbered : reveals.Numbered)
    {key : String} {entry : Entry T} (hentry : Assoc.get? key reveals.stored = some entry)
    (now : T) (call : HandleCall) :
    reveals.callKey now key call = reveals.call now (.timed entry.serial) call := by
  have hmem : entry ∈ reveals.entries :=
    List.mem_append_left _ (Assoc.mem_values_of_get? hentry)
  simp only [callKey, get?, Reveals.call, hentry, hnumbered.handle?_eq hmem, Option.map_some,
    hnumbered.setSerial_eq_setHandle hentry]

end Reveals

end Reveal

end ContactPrivacy
