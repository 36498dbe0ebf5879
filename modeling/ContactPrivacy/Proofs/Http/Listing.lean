/-
The listing of audit records over HTTP.  Its pages hold stored records that
match the filters, each once.  A limit bounds its page, but for a negative one
that counts back: then the page holds almost the whole trail.
-/
import ContactPrivacy.Proofs.Audit.Page
import ContactPrivacy.Proofs.Http.Routes
import ContactPrivacy.Proofs.Json.Lookup

namespace ContactPrivacy.Http

open Audit (Query Record Store)

/-- A request for audit records that is accepted, and the query it makes. -/
structure Request.Asks (request : Request) (query : Query) : Prop where
  on : request.On .auditLogs
  reads : readQuery request.query = .accepted query

theorem limit_le_of_readLimit {value : Json} {limit : Int}
    (hread : readLimit value = .accepted limit) : limit ≤ greatestLimit := by
  unfold readLimit at hread
  split at hread
  · split at hread
    · next hle =>
        cases hread
        exact hle
    · cases hread
  · next hrejected => exact (hrejected _ hread).elim

/-- A member with a bound that its default keeps too. -/
theorem limit_le_of_member {members : Members} {limit : Int}
    (hread : Reading.member members "limit" Query.defaultLimit readLimit = .accepted limit) :
    limit ≤ greatestLimit := by
  unfold Reading.member at hread
  split at hread
  · exact limit_le_of_readLimit ((Reading.under_eq_accepted_iff _ _ _).mp hread)
  · cases hread
    decide

/-- No accepted request asks for more than the greatest limit. -/
theorem limit_le_of_readQuery {parameters : List (String × String)} {query : Query}
    (hread : readQuery parameters = .accepted query) : query.limit ≤ greatestLimit := by
  simp only [readQuery, Reading.under_eq_accepted_iff, Reading.seq_eq_accepted_iff,
    Reading.map_eq_accepted_iff] at hread
  obtain ⟨_, _, ⟨_, _, ⟨_, _, ⟨_, _, ⟨_, -, rfl⟩, -, rfl⟩, -, rfl⟩, hlimit, rfl⟩, -, rfl⟩ := hread
  exact limit_le_of_member hlimit

namespace Server

theorem handle_of_asks (server : Server) {request : Request} {query : Query}
    (hasks : request.Asks query) :
    server.handle request = ⟨(server.auditLogs query, server), []⟩ := by
  rw [server.handle_of_on hasks.on, serve, hasks.reads]
  rfl

/-- A page of the audit records.  Whatever memory holds, an accepted request is
answered with stored records that match its filters, each once and in their
order, and asks for at most the greatest limit.  More records than the limit
allows come exactly if the request counts back; then as many come as match, less
what the limit counts back. -/
theorem listing_page (server : Server) {store : Store}
    (hmemory : server.recorder.sink = .memory store) {request : Request} {query : Query}
    (hasks : request.Asks query) :
    ∃ (response : Response) (page : List Record),
      (server.handle request).answer = (response, server) ∧ response.status = 200 ∧
      response.body.at? ["records"] = some (.list (page.map Record.toJson)) ∧
      page.Sublist store.records ∧ (∀ record ∈ page, query.Matches record) ∧
      query.limit ≤ 1000 ∧
      ((page.length : Int) ≤ max query.limit 0 ↔ ¬ query.CountsBack (query.count store.records)) ∧
      (query.CountsBack (query.count store.records) →
        (page.length : Int) = query.count store.records + query.limit) := by
  refine ⟨_, query.page store.records, congrArg Logged.answer (server.handle_of_asks hasks), ?_⟩
  simp only [auditLogs, hmemory, Audit.Sink.store?]
  exact ⟨rfl, rfl, query.page_sublist _, fun _ => Query.matches_of_mem_page,
    limit_le_of_readQuery hasks.reads, query.length_page_le_iff _,
    Query.length_page_of_countsBack⟩

/-- Of three records a request for one copy gets a copy, and no more. -/
theorem listing_page_of_copies :
    let blank := Audit.blankRecord
    let store : Store := ⟨10, [blank .dataCopied none none, blank .dataRevealed none none,
      blank .dataCopied none none]⟩
    let server := start .default (.memory store)
    let request : Request :=
      ⟨"GET", "/audit/logs", [("event", "data_copied"), ("limit", "1")], ""⟩
    let query : Query := ⟨some .dataCopied, none, none, 1, 0⟩
    server.recorder.sink = .memory store ∧ request.Asks query ∧
      ∃ (response : Response) (page : List Record),
        (server.handle request).answer = (response, server) ∧
        response.body.at? ["records"] = some (.list (page.map Record.toJson)) ∧
        (∀ record ∈ page, record.kind = .dataCopied) ∧ page.length ≤ 1 := by
  intro blank store server request query
  have hasks : request.Asks query := ⟨⟨rfl, rfl⟩, by decide⟩
  obtain ⟨response, page, hanswer, -, hrecords, -, hmatches, -, hbound, -⟩ :=
    server.listing_page rfl hasks
  have hforth : ¬ query.CountsBack (query.count store.records) := fun hback =>
    absurd hback.2.1 (by decide)
  refine ⟨rfl, hasks, response, page, hanswer, hrecords,
    fun record hrecord => (hmatches record hrecord).kind _ rfl, ?_⟩
  have hlength := hbound.mpr hforth
  change (page.length : Int) ≤ 1 at hlength
  omega

/-- Of three records a request whose limit is minus one gets two. -/
theorem listing_page_of_negative_limit :
    let record := Audit.blankRecord .dataCopied none none
    let server := start .default (.memory ⟨10, [record, record, record]⟩)
    let request : Request := ⟨"GET", "/audit/logs", [("limit", "-1")], ""⟩
    request.Asks ⟨none, none, none, -1, 0⟩ ∧
      (server.handle request).answer.1.body.at? ["records"] =
        some (.list [record.toJson, record.toJson]) := by
  intro record server request
  have hasks : request.Asks ⟨none, none, none, -1, 0⟩ := ⟨⟨rfl, rfl⟩, by decide⟩
  refine ⟨hasks, ?_⟩
  rw [server.handle_of_asks hasks]
  rfl

end Server

end ContactPrivacy.Http
