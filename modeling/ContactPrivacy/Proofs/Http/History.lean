/-
What the listing over HTTP tells.  A service whose memory starts empty lists the
newest of the records that its responses return, as many as the bound of its memory
allows, in the order of the requests.  A response that returns a record and cannot
be written leaves the record in memory, and whoever sent the request with an error.
-/
import ContactPrivacy.Json.Writer
import ContactPrivacy.Proofs.Audit.Newest
import ContactPrivacy.Proofs.Decimal.Written
import ContactPrivacy.Proofs.Http.Listing
import ContactPrivacy.Proofs.Http.Sent

namespace ContactPrivacy.Http

open Audit (Query Record Recorder Sink Store)

def listedRecords (responses : List Response) : List Json :=
  responses.flatMap fun response => response.itemsAt "records"

def Request.page (offset limit : Nat) : Request :=
  ⟨"GET", "/audit/logs", [("offset", toString offset), ("limit", toString limit)], ""⟩

theorem readLimit_toString {limit : Nat} (hlimit : limit ≤ 1000) :
    readLimit (.string (toString limit)) = .accepted (limit : Int) := by
  have hdigits : limit < 10 ^ Decimal.mostDigits :=
    calc limit ≤ 1000 := hlimit
      _ < 10 ^ 4 := by decide
      _ ≤ 10 ^ Decimal.mostDigits := Nat.pow_le_pow_right (by decide) (by decide)
  rw [readLimit, Reading.int_toString hdigits]
  exact if_pos (Int.ofNat_le.mpr hlimit)

/-- Every page of at most a thousand records can be asked for, unless its offset
has too many digits. -/
theorem Request.asks_page {offset limit : Nat} (hoffset : offset < 10 ^ Decimal.mostDigits)
    (hlimit : limit ≤ 1000) : (page offset limit).Asks ⟨none, none, none, limit, offset⟩ := by
  let members : Members :=
    [("offset", .string (toString offset)), ("limit", .string (toString limit))]
  have hlimit : Reading.member members "limit" Query.defaultLimit readLimit =
      .accepted (limit : Int) := by
    rw [Reading.member_of_get? rfl, readLimit_toString hlimit, Reading.under_accepted]
  have hoffset : Reading.member members "offset" 0 Reading.int = .accepted (offset : Int) := by
    rw [Reading.member_of_get? rfl, Reading.int_toString hoffset, Reading.under_accepted]
  refine ⟨⟨rfl, rfl⟩, ?_⟩
  simp only [readQuery, Reading.under_eq_accepted_iff, Reading.seq_eq_accepted_iff,
    Reading.map_eq_accepted_iff]
  exact ⟨_, _, ⟨_, _, ⟨_, _, ⟨_, _, ⟨_, rfl, rfl⟩, rfl, rfl⟩, rfl, rfl⟩, hlimit, rfl⟩, hoffset, rfl⟩

/-- Requests that walk through all records from one position to another: each
asks for at least one record and starts where the one before it ends. -/
inductive Walk : Nat → List Request → Nat → Prop
  | done (position : Nat) : Walk position [] position
  | page {query : Query} {request : Request} {rest : List Request} {stop : Nat}
      (hasks : request.Asks query) (hunfiltered : query.Unfiltered) (hoffset : 0 ≤ query.offset)
      (hlimit : 1 ≤ query.limit)
      (hrest : Walk (query.offset.toNat + query.limit.toNat) rest stop) :
      Walk query.offset.toNat (request :: rest) stop

namespace Server

/-- The sink took the records that some responses return, and nothing else of
the service changed. -/
structure History (server : Server) (requests : List Request) (result : List Response × Server)
    (records : List Record) : Prop where
  after : result.2 = server.taking records
  returned : returnedRecords requests result.1 = records.map Record.toJson

variable {server : Server}

theorem taking_reliable (hreliable : server.recorder.sink.Reliable) (records : List Record) :
    (server.taking records).recorder.sink.Reliable :=
  hreliable.foldl_taking records

theorem length_handleAll (server : Server) (requests : List Request) :
    (server.handleAll requests).answer.1.length = requests.length := by
  induction requests generalizing server with
  | nil => rfl
  | cons request rest ih => exact congrArg Nat.succ (ih (server.handle request).answer.2)

theorem answer_run (server : Server) (writes : Request → Response → Bool)
    (requests : List Request) :
    (server.run writes requests).answer =
      Response.sentAll writes requests (server.handleAll requests).answer.1 := rfl

theorem history_handleAll (hreliable : server.recorder.sink.Reliable) (requests : List Request) :
    ∃ records, History server requests (server.handleAll requests).answer records := by
  induction requests generalizing server with
  | nil => exact ⟨[], rfl, rfl⟩
  | cons request rest ih =>
      obtain ⟨first, hfirst⟩ := exchange_handle hreliable request
      have hgoes : (server.handle request).answer.2.recorder.sink.Reliable := by
        rw [hfirst.after]
        exact taking_reliable hreliable first
      obtain ⟨later, hlater⟩ := ih hgoes
      refine ⟨first ++ later, ?_, ?_⟩
      · rw [taking_append, ← hfirst.after]
        exact hlater.after
      · rw [List.map_append, ← hfirst.returned, ← hlater.returned]
        rfl

/-- Errors, reads and requests off the writing routes return no record and store none,
unless a record is returned and its response is not written. -/
theorem stored_of_silent (hreliable : server.recorder.sink.Reliable)
    (writes : Request → Response → Bool) (request : Request) :
    let answer := (server.handle request).answer
    let told := answer.1.sent (writes request answer.1)
    (told.status ≠ 200 ∨ request.method = "GET" ∨
      ∀ route ∈ Route.writing, request.path ≠ route.path) →
    told.returned request = [] ∧
      (answer.2 = server ∨ answer.1.returned request ≠ [] ∧ writes request answer.1 = false) := by
  intro answer told hsilent
  obtain ⟨added, hexchange⟩ := exchange_handle hreliable request
  refine ⟨told.returned_of_silent hsilent, ?_⟩
  by_cases hnone : answer.1.returned request = []
  · exact Or.inl (hexchange.unchanged hnone)
  · refine Or.inr ⟨hnone, Bool.eq_false_iff.mpr fun hwrite => hnone ?_⟩
    have htold : told = answer.1 := if_pos hwrite
    exact answer.1.returned_of_silent (htold ▸ hsilent)

/-- Memory that starts empty ends with the newest of what was returned. -/
theorem recorder_of_history {bound : Int} {requests : List Request}
    {result : List Response × Server} {records : List Record}
    (hempty : server.recorder.sink = .memory (Store.empty bound))
    (hhistory : History server requests result records) :
    result.2.recorder.sink = .memory ⟨bound, records.rtake bound.toNat⟩ := by
  rw [hhistory.after, ← Store.foldl_add_empty, ← Sink.foldl_taking_store, ← hempty]
  rfl

/-- An accepted request for records of every kind is answered with their number
and with the records of its page. -/
theorem listing_of_asks {store : Store} (hmemory : server.recorder.sink = .memory store)
    {request : Request} {query : Query} (hasks : request.Asks query)
    (hunfiltered : query.Unfiltered) :
    ∃ response, (server.handle request).answer = (response, server) ∧ response.status = 200 ∧
      response.body.at? ["total"] = some (.int store.records.length) ∧
      (0 ≤ query.offset → 0 ≤ query.limit →
        response.body.at? ["records"] = some (.list
          (((store.records.drop query.offset.toNat).take query.limit.toNat).map
            Record.toJson))) := by
  refine ⟨_, congrArg Logged.answer (server.handle_of_asks hasks), ?_⟩
  simp only [auditLogs, hmemory, Sink.store?, Query.count, hunfiltered.matching_eq]
  refine ⟨rfl, rfl, fun hoffset hlimit => ?_⟩
  rw [Query.page, hunfiltered.matching_eq, Query.slice_of_nonneg _ hoffset hlimit]
  rfl

/-- A walk leaves the service alone and lists what lies between its ends. -/
theorem listed_of_walk {store : Store} (hmemory : server.recorder.sink = .memory store)
    {start stop : Nat} {requests : List Request} (hwalk : Walk start requests stop) :
    (server.handleAll requests).answer.2 = server ∧ start ≤ stop ∧
      listedRecords (server.handleAll requests).answer.1 =
        ((store.records.drop start).take (stop - start)).map Record.toJson := by
  induction hwalk with
  | done position => exact ⟨rfl, le_rfl, by simp [listedRecords, handleAll]⟩
  | @page query request rest stop hasks hunfiltered hoffset hlimit hrest ih =>
      obtain ⟨response, hanswer, -, -, hlisted⟩ := listing_of_asks hmemory hasks hunfiltered
      obtain ⟨hafter, hle, hrests⟩ := ih
      have hall : (server.handleAll (request :: rest)).answer =
          (response :: (server.handleAll rest).answer.1, (server.handleAll rest).answer.2) := by
        simp only [handleAll, Logged.answer_bind, hanswer]
        rfl
      rw [hall]
      have hpage : response.itemsAt "records" = _ :=
        Response.itemsAt_eq (hlisted hoffset (by omega))
      refine ⟨hafter, by omega, ?_⟩
      rw [← Lists.take_append_take store.records hle, List.map_append, ← hpage, ← hrests]
      rfl

/-- The log served over HTTP and the history of the requests as their responses were
sent, from empty memory and after any requests.  The history is part of what is
stored, and all of it if and only if every response that returns a record is written.
An unfiltered listing tells how many records are kept, at most the bound; that is the
number of those in the history if and only if nothing is missing there or it fills
the memory.  Each page holds its part of the newest records stored, in the order of
their requests, pages can be asked for, and a walk through all of them whose
responses are written lists what is kept.  Errors, reads and requests off the writing
routes return no record and change nothing, save for a response that returns a record
and cannot be written. -/
theorem log_is_history_iff {bound : Int} (hbound : 0 < bound)
    (hempty : server.recorder.sink = .memory (Store.empty bound))
    (writes : Request → Response → Bool) (requests : List Request) :
    let result := (server.handleAll requests).answer
    let sent := (server.run writes requests).answer
    let stored := returnedRecords requests result.1
    let history := returnedRecords requests sent
    let kept := stored.rtake bound.toNat
    sent.length = requests.length ∧
    history.Sublist stored ∧
    (history = stored ↔ Written writes requests result.1) ∧
    (∀ request query, request.Asks query → query.Unfiltered →
      ∃ response, (result.2.handle request).answer = (response, result.2) ∧
        response.status = 200 ∧
        response.body.at? ["total"] = some (.int (min bound stored.length)) ∧
        (0 ≤ query.offset → 0 ≤ query.limit →
          response.body.at? ["records"] = some (.list
            ((kept.drop query.offset.toNat).take query.limit.toNat)))) ∧
    (min bound stored.length = min bound history.length ↔
      Written writes requests result.1 ∨ bound ≤ history.length) ∧
    (∀ offset limit : Nat, offset < 10 ^ Decimal.mostDigits → limit ≤ 1000 →
      (Request.page offset limit).Asks ⟨none, none, none, limit, offset⟩) ∧
    (∀ pages stop, Walk 0 pages stop → min bound stored.length ≤ stop →
      let listing := (result.2.handleAll pages).answer
      (∀ exchange ∈ pages.zip listing.1, writes exchange.1 exchange.2 = true) →
        listedRecords (Response.sentAll writes pages listing.1) = kept) ∧
    (∀ request, let answer := (result.2.handle request).answer
      let told := answer.1.sent (writes request answer.1)
      (told.status ≠ 200 ∨ request.method = "GET" ∨
        ∀ route ∈ Route.writing, request.path ≠ route.path) →
      told.returned request = [] ∧
        (answer.2 = result.2 ∨
          answer.1.returned request ≠ [] ∧ writes request answer.1 = false)) := by
  intro result sent stored history kept
  have hreliable : server.recorder.sink.Reliable := by
    rw [hempty]
    trivial
  obtain ⟨records, hhistory⟩ := history_handleAll hreliable requests
  have hstored : stored = records.map Record.toJson := hhistory.returned
  have hmemory : result.2.recorder.sink = .memory ⟨bound, records.rtake bound.toNat⟩ :=
    recorder_of_history hempty hhistory
  have hgoes : result.2.recorder.sink.Reliable := by
    rw [hmemory]
    trivial
  have hkept : kept = (records.rtake bound.toNat).map Record.toJson := by
    rw [← Lists.map_rtake, ← hstored]
  have hcount : ((records.rtake bound.toNat).length : Int) = min bound stored.length := by
    rw [Lists.length_rtake, hstored, List.length_map]
    omega
  have hsent : sent = Response.sentAll writes requests result.1 :=
    server.answer_run writes requests
  have hreturned : history = returnedRecords requests (Response.sentAll writes requests result.1) :=
    congrArg (returnedRecords requests) hsent
  have hlength : sent.length = requests.length := by
    rw [hsent, Response.length_sentAll (server.length_handleAll requests)]
  have hsub : history.Sublist stored := by
    rw [hreturned]
    exact Response.sublist_returnedRecords_sentAll writes requests result.1
  have hwritten : history = stored ↔ Written writes requests result.1 := by
    rw [hreturned]
    exact Response.returnedRecords_sentAll_eq_iff writes requests result.1
  refine ⟨hlength, hsub, hwritten,
    fun request query hasks hunfiltered => ?_, ?_, fun offset limit => Request.asks_page,
    fun pages stop hwalk hstop => ?_, stored_of_silent hgoes writes⟩
  · obtain ⟨response, hanswer, hok, htotal, hlisted⟩ := listing_of_asks hmemory hasks hunfiltered
    refine ⟨response, hanswer, hok, ?_, fun hoffset hlimit => ?_⟩
    · rw [← hcount]
      exact htotal
    · rw [hlisted hoffset hlimit, hkept, List.map_take, List.map_drop]
  · rw [← hwritten]
    exact Lists.min_length_eq_iff_of_sublist hsub bound
  · intro listing hall
    obtain ⟨-, -, hlisted⟩ := listed_of_walk hmemory hwalk
    rw [Response.sentAll_of_written (result.2.length_handleAll pages) hall, hlisted, hkept,
      List.drop_zero, List.take_of_length_le]
    dsimp only
    omega

/-- Requests to a service whose memory holds two records: a switch, an access whose
context names a contact by a surrogate alone, one that is unknown and an update that
turns masking off.  The access is answered with an error and is stored, so memory
holds what the update returned and the history is one record short. -/
theorem log_is_history_iff_of_full_memory :
    let server := start .default (.memory (Store.empty 2))
    let writes := fun (_ : Request) (response : Response) => response.body.isSendable
    let post := fun path body : String => (⟨"POST", path, [], body⟩ : Request)
    let requests :=
      [post "/settings/feature" "\x7b\"enabled\":true\x7d",
        post "/audit/access" ("\x7b\"event\":\"data_copied\",\"data_type\":\"email\"," ++
          "\"context\":\x7b\"contact_id\":\"\\ud800\"\x7d\x7d"),
        post "/audit/access" "\x7b\"event\":\"data_lost\",\"data_type\":\"email\"\x7d",
        post "/settings/update" ("\x7b\"current_settings\":\x7b\x7d," ++
          "\"update\":\x7b\"masking_enabled\":false\x7d\x7d")]
    let result := (server.handleAll requests).answer
    let sent := (server.run writes requests).answer
    let events := fun records : List Json => records.map (Json.at? ["event"])
    let pages := [Request.page 0 1, Request.page 1 1]
    (0 : Int) < 2 ∧ server.recorder.sink = .memory (Store.empty 2) ∧
      sent.map Response.status = [200, 500, 200, 200] ∧
      events (returnedRecords requests sent) = [some (.string "masking_feature_enabled"),
        some (.string "masking_settings_updated"), some (.string "masking_feature_disabled")] ∧
      ¬ Written writes requests result.1 ∧ Walk 0 pages 2 ∧
      events (listedRecords (Response.sentAll writes pages
          (result.2.handleAll pages).answer.1)) =
        [some (.string "masking_settings_updated"), some (.string "masking_feature_disabled")] := by
  intro server writes post requests result sent events pages
  have hbound : (0 : Int) < 2 := by decide
  have hempty : server.recorder.sink = .memory (Store.empty 2) := rfl
  obtain ⟨hstatuses, hsent, hstored⟩ : sent.map Response.status = [200, 500, 200, 200] ∧
      events (returnedRecords requests sent) = [some (.string "masking_feature_enabled"),
        some (.string "masking_settings_updated"), some (.string "masking_feature_disabled")] ∧
      events (returnedRecords requests result.1) =
        [some (.string "masking_feature_enabled"), some (.string "data_copied"),
          some (.string "masking_settings_updated"),
          some (.string "masking_feature_disabled")] := by
    decide +kernel
  obtain ⟨-, -, hwritten, -, -, hpages, hwalks, -⟩ :=
    log_is_history_iff hbound hempty writes requests
  have hmissing : ¬ Written writes requests result.1 := by
    intro hall
    have hlength := congrArg List.length (hsent.symm.trans (congrArg events (hwritten.mpr hall)))
    rw [hstored] at hlength
    exact absurd hlength (by decide)
  have hfirst := hpages 0 1 (Nat.pow_pos (by decide)) (by decide)
  have hsecond := hpages 1 1 (Nat.one_lt_pow (by decide) (by decide)) (by decide)
  have hwalk : Walk 0 pages 2 :=
    .page hfirst ⟨rfl, .inl rfl, rfl⟩ (by decide) (by decide)
      (.page hsecond ⟨rfl, .inl rfl, rfl⟩ (by decide) (by decide) (.done 2))
  have hstop : ∀ count : Int, min 2 count ≤ (2 : Nat) := fun count => min_le_left 2 count
  have hsendable : ∀ exchange ∈ pages.zip (result.2.handleAll pages).answer.1,
      writes exchange.1 exchange.2 = true := by
    decide +kernel
  refine ⟨hbound, hempty, hstatuses, hsent, hmissing, hwalk, ?_⟩
  calc events (listedRecords (Response.sentAll writes pages (result.2.handleAll pages).answer.1))
      = events ((returnedRecords requests result.1).rtake 2) :=
        congrArg events (hwalks pages 2 hwalk (hstop _) hsendable)
    _ = (events (returnedRecords requests result.1)).rtake 2 := (Lists.map_rtake _ _ _).symm
    _ = [some (.string "masking_settings_updated"), some (.string "masking_feature_disabled")] := by
        rw [hstored]
        rfl

/-- An access that is answered with an error, the only request so far, and is then
counted by a listing that is sent. -/
theorem unwritten_access_is_listed :
    let server := start .default (.memory (Store.empty 10000))
    let writes := fun (_ : Request) (response : Response) => response.body.isSendable
    let access : Request := ⟨"POST", "/audit/access", [],
      "\x7b\"event\":\"data_copied\",\"data_type\":\"email\"," ++
        "\"context\":\x7b\"contact_id\":\"\\ud800\"\x7d\x7d"⟩
    let listing : Request := ⟨"GET", "/audit/logs", [("offset", "1")], ""⟩
    let sent := (server.run writes [access, listing]).answer
    returnedRecords [access, listing] sent = [] ∧
      sent = [Response.unwritten, .ok (.object [("records", .list []), ("total", .int 1),
        ("limit", .int 100), ("offset", .int 1)])] := by
  decide +kernel

end Server

end ContactPrivacy.Http
