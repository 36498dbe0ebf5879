/-
What is read from a JSON text.  The members of an object are written one after
the other, so every object that is read has each of its keys once.
-/
import ContactPrivacy.Json.Message
import ContactPrivacy.Proofs.Json.Lookup

namespace ContactPrivacy.Json

/-- What comes of two steps comes of the second after the first. -/
theorem exists_of_bind_eq_ok {ε α β : Type} {first : Except ε α} {next : α → Except ε β}
    {result : β} (hbind : first >>= next = .ok result) :
    ∃ middle, first = .ok middle ∧ next middle = .ok result := by
  cases first with
  | error fault => cases hbind
  | ok middle => exact ⟨middle, rfl, hbind⟩

/-- The words stand for plain values. -/
theorem readWord?_hasDistinctKeys {s rest : List Char} {value : Json}
    (hword : readWord? s = some (value, rest)) : value.hasDistinctKeys = true := by
  obtain ⟨⟨word, plain⟩, hmem, hfound⟩ := List.exists_of_findSome?_eq_some hword
  obtain ⟨after, -, hpair⟩ := Option.map_eq_some_iff.mp hfound
  obtain ⟨rfl, -⟩ := Prod.mk.inj hpair
  have hplain : ∀ entry ∈ ([("null", .null), ("true", .bool true), ("false", .bool false),
      ("NaN", .float Binary64.notANumber), ("Infinity", .float (Binary64.infinity false)),
      ("-Infinity", .float (Binary64.infinity true))] : List (String × Json)),
      entry.2.hasDistinctKeys = true := by
    simp [hasDistinctKeys, float]
  exact hplain (word, plain) hmem

mutual

/-- Every object inside a value that is read has each of its keys once. -/
theorem readValue_hasDistinctKeys : (fuel : Nat) → {s rest : List Char} → {value : Json} →
    readValue fuel s = .ok (value, rest) → value.hasDistinctKeys = true
  | 0, s, rest, value, hread => by
      unfold readValue at hread
      cases hread
  | fuel + 1, s, rest, value, hread => by
      unfold readValue at hread
      split at hread
      · obtain ⟨text, -, hvalue⟩ := exists_of_bind_eq_ok hread
        cases hvalue
        rfl
      · split at hread
        · cases hread
          rfl
        · exact readItems_hasDistinctKeys fuel (by simp) hread
      · split at hread
        · cases hread
          rfl
        · exact readMembers_hasDistinctKeys fuel (by simp [Assoc.values]) hread
      · split at hread
        · next found hword =>
            cases hread
            exact readWord?_hasDistinctKeys hword
        · split at hread
          · next found hnumber =>
              cases found with
              | error fault => cases hread
              | ok number =>
                  cases hread
                  rfl
          · cases hread

theorem readItems_hasDistinctKeys : (fuel : Nat) → {done : List Json} → {s rest : List Char} →
    {value : Json} → (∀ item ∈ done, item.hasDistinctKeys = true) →
    readItems fuel done s = .ok (value, rest) → value.hasDistinctKeys = true
  | 0, done, s, rest, value, hdone, hread => by
      unfold readItems at hread
      cases hread
  | fuel + 1, done, s, rest, value, hdone, hread => by
      unfold readItems at hread
      obtain ⟨⟨item, after⟩, hitem, hread⟩ := exists_of_bind_eq_ok hread
      have hitems : ∀ other ∈ item :: done, other.hasDistinctKeys = true :=
        List.forall_mem_cons.mpr ⟨readValue_hasDistinctKeys fuel hitem, hdone⟩
      dsimp only at hread
      split at hread
      · cases hread
        rw [hasDistinctKeys, haveDistinctKeysItems_iff]
        intro other hother
        exact hitems other (List.mem_reverse.mp hother)
      · exact readItems_hasDistinctKeys fuel hitems hread
      · cases hread

theorem readMembers_hasDistinctKeys : (fuel : Nat) → {done : List (String × Json)} →
    {s rest : List Char} → {value : Json} →
    (∀ item ∈ Assoc.values done, item.hasDistinctKeys = true) →
    readMembers fuel done s = .ok (value, rest) → value.hasDistinctKeys = true
  | 0, done, s, rest, value, hdone, hread => by
      unfold readMembers at hread
      cases hread
  | fuel + 1, done, s, rest, value, hdone, hread => by
      unfold readMembers at hread
      split at hread
      · obtain ⟨⟨key, behind⟩, -, hread⟩ := exists_of_bind_eq_ok hread
        dsimp only at hread
        split at hread
        · obtain ⟨⟨member, after⟩, hmember, hread⟩ := exists_of_bind_eq_ok hread
          have hmembers : ∀ other ∈ Assoc.values ((key, member) :: done),
              other.hasDistinctKeys = true :=
            List.forall_mem_cons.mpr ⟨readValue_hasDistinctKeys fuel hmember, hdone⟩
          dsimp only at hread
          split at hread
          · cases hread
            rw [hasDistinctKeys_object_iff]
            refine ⟨Assoc.nodup_keys_ofPairs _, ?_⟩
            intro other hother
            have hwritten := Assoc.mem_values_ofPairs hother
            rw [Assoc.values, List.map_reverse, List.mem_reverse] at hwritten
            exact hmembers other hwritten
          · exact readMembers_hasDistinctKeys fuel hmembers hread
          · cases hread
        · cases hread
      · cases hread

end

/-- Every object inside a value that is read from a text has each of its keys once. -/
theorem read_hasDistinctKeys {s : List Char} {value : Json} (hread : read s = .ok value) :
    value.hasDistinctKeys = true := by
  unfold read at hread
  dsimp only at hread
  split at hread
  · next found hfound =>
      obtain ⟨⟨whole, rest⟩, hwhole, hend⟩ := exists_of_bind_eq_ok hfound
      dsimp only at hend
      split at hend
      · cases hend
        cases hread
        exact readValue_hasDistinctKeys _ hwhole
      · cases hend
  · cases hread
  · cases hread

theorem readMessage_hasDistinctKeys {text : String} {value : Json}
    (hread : readMessage text = .ok value) : value.hasDistinctKeys = true := by
  unfold readMessage at hread
  split at hread
  · exact read_hasDistinctKeys hread
  · cases hread

end ContactPrivacy.Json
