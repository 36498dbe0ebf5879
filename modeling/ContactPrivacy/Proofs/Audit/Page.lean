/-
Pages of the records kept in memory.  A page is a run of the records that match
a query.  A limit that is not negative bounds it; a negative one counts back
from the end of the records where the page would end before its start.
-/
import ContactPrivacy.Audit.Query

namespace ContactPrivacy.Audit

namespace Query

/-- A record matches a query if it has what the query asks for.  An empty actor
asks for nothing, and actors are compared by the text of their identifiers. -/
structure Matches (query : Query) (record : Record) : Prop where
  kind : ∀ kind, query.kind = some kind → record.kind = kind
  actor : ∀ actor, query.actorId = some actor → actor ≠ "" →
    Identifier.literal record.actorId = actor
  dataType : ∀ dataType, query.dataType = some dataType → record.dataType = some dataType

/-- A query that asks for nothing matches every record. -/
structure Unfiltered (query : Query) : Prop where
  kind : query.kind = none
  actor : query.actorId = none ∨ query.actorId = some ""
  dataType : query.dataType = none

theorem admits_eq_true_iff (query : Query) (record : Record) :
    query.admits record = true ↔ query.Matches record := by
  obtain ⟨kind?, actor?, dataType?, limit, offset⟩ := query
  simp only [admits, Bool.and_eq_true, Option.all_eq_true, decide_eq_true_eq, Bool.or_eq_true]
  constructor
  · rintro ⟨⟨hkind, hactor⟩, hdataType⟩
    exact ⟨fun kind hasked => (hkind kind hasked).symm,
      fun actor hasked hne => (hactor actor hasked).resolve_left hne,
      fun dataType hasked => (hdataType dataType hasked).symm⟩
  · rintro ⟨hkind, hactor, hdataType⟩
    exact ⟨⟨fun kind hasked => (hkind kind hasked).symm,
      fun actor hasked => Decidable.or_iff_not_imp_left.mpr (hactor actor hasked)⟩,
      fun dataType hasked => (hdataType dataType hasked).symm⟩

theorem mem_matching_iff (query : Query) (records : List Record) (record : Record) :
    record ∈ query.matching records ↔ record ∈ records ∧ query.Matches record := by
  rw [matching, List.mem_filter, admits_eq_true_iff]

theorem Unfiltered.matching_eq {query : Query} (hunfiltered : query.Unfiltered)
    (records : List Record) : query.matching records = records := by
  obtain ⟨hkind, hactor, hdataType⟩ := hunfiltered
  refine List.filter_eq_self.mpr fun record _ => (query.admits_eq_true_iff record).mpr ?_
  refine ⟨by simp [hkind], fun actor hasked hne => ?_, by simp [hdataType]⟩
  rcases hactor with hnone | hempty
  · rw [hnone] at hasked
    cases hasked
  · exact absurd (Option.some.inj (hempty.symm.trans hasked)).symm hne

section Slices

variable {α : Type} (items : List α)

theorem position_le (length : Nat) (i : Int) : position length i ≤ length := by
  unfold position
  split <;> omega

theorem length_slice (start stop : Int) :
    (slice items start stop).length =
      position items.length stop - position items.length start := by
  have hstop := position_le items.length stop
  rw [slice, List.length_drop, List.length_take, Nat.min_eq_left hstop]

theorem slice_sublist (start stop : Int) : (slice items start stop).Sublist items :=
  (List.drop_sublist _ _).trans (List.take_sublist _ _)

/-- A page that starts and ends at positions counted from the front. -/
theorem slice_of_nonneg {offset limit : Int} (hoffset : 0 ≤ offset) (hlimit : 0 ≤ limit) :
    slice items offset (offset + limit) = (items.drop offset.toNat).take limit.toNat := by
  have hstart : position items.length offset = min offset.toNat items.length :=
    if_neg (by omega)
  have hstop : position items.length (offset + limit) =
      min (offset.toNat + limit.toNat) items.length := by
    rw [position, if_neg (by omega), Int.toNat_add hoffset hlimit]
  rw [slice, hstart, hstop, List.drop_take]
  rcases Nat.le_total offset.toNat items.length with hwithin | hbeyond
  · rw [Nat.min_eq_left hwithin, List.take_eq_take_iff, List.length_drop]
    omega
  · rw [Nat.min_eq_right hbeyond, List.drop_length, List.drop_eq_nil_of_le hbeyond]
    rw [List.take_nil, List.take_nil]

/-- A limit that is not negative bounds the page, wherever it starts. -/
theorem length_slice_le {limit : Int} (hlimit : 0 ≤ limit) (offset : Int) :
    (slice items offset (offset + limit)).length ≤ limit.toNat := by
  rw [length_slice, position, position]
  split <;> split <;> omega

/-- Under a negative limit a page ends before it starts, unless its start is
counted from the front and its end from the back. -/
theorem length_slice_of_neg {limit : Int} (hlimit : limit < 0) (offset : Int) :
    (slice items offset (offset + limit)).length =
      if 0 ≤ offset ∧ offset + limit < 0 then (items.length + limit).toNat else 0 := by
  rw [length_slice, position, position]
  split <;> split <;> split <;> omega

end Slices

/-- A query counts back among some records if its page starts at a position
from the front and ends at an earlier one from the back. -/
def CountsBack (query : Query) (count : Nat) : Prop :=
  0 ≤ query.offset ∧ query.offset + query.limit < 0 ∧ 0 < count + query.limit

theorem page_sublist (query : Query) (records : List Record) :
    (query.page records).Sublist records :=
  (slice_sublist _ _ _).trans List.filter_sublist

theorem matches_of_mem_page {query : Query} {records : List Record} {record : Record}
    (hrecord : record ∈ query.page records) : query.Matches record :=
  ((query.mem_matching_iff records record).mp ((slice_sublist _ _ _).subset hrecord)).2

/-- A query that counts back gets all but the last of the records it matches. -/
theorem length_page_of_countsBack {query : Query} {records : List Record}
    (hback : query.CountsBack (query.count records)) :
    ((query.page records).length : Int) = query.count records + query.limit := by
  obtain ⟨hoffset, hend, hcount⟩ := hback
  have hlength : (query.page records).length = _ :=
    length_slice_of_neg (query.matching records) (by omega : query.limit < 0) query.offset
  rw [if_pos ⟨hoffset, hend⟩] at hlength
  rw [hlength, count]
  rw [count] at hcount
  omega

/-- The limit bounds the page of every query that does not count back. -/
theorem length_page_le {query : Query} {records : List Record}
    (hforth : ¬ query.CountsBack (query.count records)) :
    ((query.page records).length : Int) ≤ max query.limit 0 := by
  rw [CountsBack, count] at hforth
  rcases Int.lt_or_le query.limit 0 with hneg | hlimit
  · have hlength : (query.page records).length = _ :=
      length_slice_of_neg (query.matching records) hneg query.offset
    rw [hlength]
    split <;> omega
  · have hlength : (query.page records).length ≤ _ :=
      length_slice_le (query.matching records) hlimit query.offset
    omega

/-- A page has more records than its limit allows exactly if the query counts
back. -/
theorem length_page_le_iff (query : Query) (records : List Record) :
    ((query.page records).length : Int) ≤ max query.limit 0 ↔
      ¬ query.CountsBack (query.count records) := by
  refine ⟨fun hle hback => ?_, length_page_le⟩
  rw [length_page_of_countsBack hback] at hle
  obtain ⟨hoffset, hend, hcount⟩ := hback
  omega

end Query

end ContactPrivacy.Audit
