/-
Paging through the records that match a query.  The pages that start at the
multiples of the limit, one after the other, list every match once and in order.
-/
import ContactPrivacy.Audit.Recorder
import ContactPrivacy.Proofs.Audit.Page
import Mathlib.Data.List.Basic

namespace ContactPrivacy.Audit

/-- The offsets of the pages of some items: the multiples of the limit below
their number. -/
def offsets (limit count : Nat) : List Nat :=
  (List.range count).filter fun offset => limit ∣ offset

section Offsets

variable {limit count offset : Nat}

theorem mem_offsets_iff : offset ∈ offsets limit count ↔ offset < count ∧ limit ∣ offset := by
  simp [offsets]

theorem offsets_succ_of_dvd (hpage : limit ∣ count) :
    offsets limit (count + 1) = offsets limit count ++ [count] := by
  simp [offsets, List.range_succ, hpage]

theorem offsets_succ_of_not_dvd (hpage : ¬ limit ∣ count) :
    offsets limit (count + 1) = offsets limit count := by
  simp [offsets, List.range_succ, hpage]

/-- A page that is not the last one ends before the next one starts. -/
theorem add_lt_of_mem_dropLast (hoffset : offset ∈ (offsets limit count).dropLast) :
    offset + limit < count := by
  have hsome : offsets limit count ≠ [] := by
    rintro hnone
    simp [hnone] at hoffset
  have hascending : (offsets limit count).Pairwise (· < ·) := List.pairwise_lt_range.filter _
  rw [← List.dropLast_append_getLast hsome] at hascending
  have hlater : offset < (offsets limit count).getLast hsome :=
    (List.pairwise_append.mp hascending).2.2 _ hoffset _ (List.mem_singleton_self _)
  obtain ⟨hlast, hlastPage⟩ := mem_offsets_iff.mp (List.getLast_mem hsome)
  obtain ⟨-, hpage⟩ := mem_offsets_iff.mp (List.dropLast_subset _ hoffset)
  have hgap : limit ≤ (offsets limit count).getLast hsome - offset :=
    Nat.le_of_dvd (by omega) (Nat.dvd_sub hlastPage hpage)
  omega

/-- The pages that start below a position list the items up to the next
multiple of the limit. -/
theorem exists_flatMap_offsets {α : Type} (items : List α) (hlimit : 0 < limit) (count : Nat) :
    ∃ stop, count ≤ stop ∧ stop < count + limit ∧ limit ∣ stop ∧
      (offsets limit count).flatMap (fun offset => (items.drop offset).take limit) =
        items.take stop := by
  induction count with
  | zero => exact ⟨0, Nat.le_refl 0, by omega, Nat.dvd_zero limit, rfl⟩
  | succ count ih =>
      obtain ⟨stop, hle, hlt, hstop, hlisted⟩ := ih
      by_cases hpage : limit ∣ count
      · have hgap : stop - count = 0 :=
          Nat.eq_zero_of_dvd_of_lt (Nat.dvd_sub hstop hpage) (by omega)
        obtain rfl : stop = count := by omega
        refine ⟨stop + limit, by omega, by omega, Nat.dvd_add hpage (Nat.dvd_refl limit), ?_⟩
        rw [offsets_succ_of_dvd hpage, List.flatMap_append, hlisted, List.take_add]
        simp
      · have hne : stop ≠ count := fun hsame => hpage (hsame ▸ hstop)
        refine ⟨stop, by omega, by omega, hstop, ?_⟩
        rw [offsets_succ_of_not_dvd hpage, hlisted]

/-- All pages together list all items. -/
theorem flatMap_offsets {α : Type} (items : List α) (hlimit : 0 < limit) :
    (offsets limit items.length).flatMap (fun offset => (items.drop offset).take limit) =
      items := by
  obtain ⟨stop, hle, -, -, hlisted⟩ := exists_flatMap_offsets items hlimit items.length
  rw [hlisted, List.take_of_length_le hle]

end Offsets

namespace Query

instance (query : Query) : DecidablePred query.Matches := fun record =>
  decidable_of_iff _ (query.admits_eq_true_iff record)

def startingAt (query : Query) (offset : Int) : Query := { query with offset := offset }

theorem matching_eq_filter (query : Query) (records : List Record) :
    query.matching records = records.filter fun record => query.Matches record := by
  refine List.filter_congr fun record _ => ?_
  rw [Bool.eq_iff_iff, decide_eq_true_iff]
  exact query.admits_eq_true_iff record

/-- A page that starts at a position from the front. -/
theorem page_startingAt {query : Query} (hlimit : 0 ≤ query.limit) {offset : Int}
    (hoffset : 0 ≤ offset) (records : List Record) :
    (query.startingAt offset).page records =
      ((query.matching records).drop offset.toNat).take query.limit.toNat :=
  slice_of_nonneg (query.matching records) hoffset hlimit

/-- Paging loses and repeats nothing.  The pages at the multiples of the limit
below the count, one after the other, are the stored records that match all that
the query asks for, each once and in their order.  Every page but the last one is
full, and one at the count or beyond it is empty.  The count is the number of
records listed, whatever page the query that counts asks for. -/
theorem pages_list_matching (query : Query) (hlimit : 1 ≤ query.limit) (records : List Record) :
    let starts := offsets query.limit.toNat (query.count records)
    let page := fun offset : Int => (query.startingAt offset).page records
    let listed := starts.flatMap fun offset : Nat => page offset
    listed = (records.filter fun record => query.Matches record) ∧
    (∀ offset ∈ starts.dropLast, ((page offset).length : Int) = query.limit) ∧
    (∀ offset : Int, query.count records ≤ offset → page offset = []) ∧
    ∀ limit offset : Int,
      Query.count { query with limit := limit, offset := offset } records = listed.length := by
  intro starts page listed
  have hpage : ∀ offset : Nat, page offset =
      ((query.matching records).drop offset).take query.limit.toNat := fun offset =>
    page_startingAt (by omega) (Int.natCast_nonneg offset) records
  have hlisted : listed = query.matching records :=
    calc listed
        = starts.flatMap fun offset =>
            ((query.matching records).drop offset).take query.limit.toNat :=
          congrArg starts.flatMap (funext hpage)
      _ = query.matching records := flatMap_offsets _ (by omega)
  refine ⟨hlisted.trans (query.matching_eq_filter records), ?_, ?_, ?_⟩
  · intro offset hoffset
    have hfull : offset + query.limit.toNat < (query.matching records).length :=
      add_lt_of_mem_dropLast hoffset
    rw [hpage, List.length_take, List.length_drop]
    omega
  · intro offset hbeyond
    rw [count] at hbeyond
    have hempty : page offset = _ :=
      page_startingAt (by omega : 0 ≤ query.limit) (by omega : 0 ≤ offset) records
    rw [hempty, List.drop_eq_nil_of_le (by omega), List.take_nil]
  · intro limit offset
    rw [hlisted]
    rfl

/-- Of five records three are copies by one user: two pages of at most two list
them, the first one is full and none comes after the third. -/
theorem pages_list_matching_of_actor :
    let record := fun (kind : Kind) (id : Int) =>
      blankRecord kind (some ⟨some (.int id), none, .agent, false⟩) none
    let copied := record .dataCopied
    let records := [copied 7, copied 8, record .dataRevealed 7, copied 7, copied 7]
    let query : Query := ⟨some .dataCopied, some "7", none, 2, 0⟩
    1 ≤ query.limit ∧ offsets 2 (query.count records) = [0, 2] ∧
      (query.startingAt 0).page records ++ (query.startingAt 2).page records =
        [copied 7, copied 7, copied 7] ∧
      ((query.startingAt 0).page records).length = 2 ∧
      (query.startingAt 3).page records = [] := by
  intro record copied records query
  have hlimit : 1 ≤ query.limit := by decide
  have hstarts : offsets 2 (query.count records) = [0, 2] := by decide +kernel
  obtain ⟨hlisted, hfull, hbeyond, -⟩ := query.pages_list_matching hlimit records
  have hfirst : 0 ∈ (offsets query.limit.toNat (query.count records)).dropLast := by
    decide +kernel
  refine ⟨hlimit, hstarts, ?_, Int.ofNat_inj.mp (hfull 0 hfirst), hbeyond 3 (by decide +kernel)⟩
  calc (query.startingAt 0).page records ++ (query.startingAt 2).page records
      = [0, 2].flatMap fun offset : Nat => (query.startingAt offset).page records := by
        simp
    _ = records.filter fun record => query.Matches record := by
        rw [← hstarts]
        exact hlisted
    _ = [copied 7, copied 7, copied 7] := by decide +kernel

end Query

end ContactPrivacy.Audit
