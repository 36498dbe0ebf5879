/-
What one exchange over HTTP records.  Where the sink never fails, the records
that a request hands to it are those that its response returns, and they come
from three routes only.
-/
import ContactPrivacy.Proofs.Http.Routes
import ContactPrivacy.Proofs.Json.Lookup
import ContactPrivacy.Proofs.Settings.Recorded

namespace ContactPrivacy.Http

open Audit (Record Recorder Sink)

def Request.route? (request : Request) : Option Route :=
  (Route.ofPath? request.path).filter fun route => route.method == request.method

theorem Request.route?_eq_some_iff (request : Request) (route : Route) :
    request.route? = some route ↔ request.On route := by
  rw [route?, Option.filter_eq_some_iff, Route.ofPath?_eq_some_iff, beq_iff_eq]
  exact ⟨fun ⟨hpath, hmethod⟩ => ⟨hmethod.symm, hpath⟩, fun hon => ⟨hon.path, hon.method.symm⟩⟩

def Route.writing : List Route := [.updateSettings, .switchFeature, .recordAccess]

theorem Route.method_of_writing {route : Route} (hwriting : route ∈ writing) :
    route.method ≠ "GET" := by
  revert route
  decide

def Response.itemsAt (response : Response) (key : String) : List Json :=
  match response.body.at? [key] with
  | some (.list items) => items
  | _ => []

theorem Response.itemsAt_eq {response : Response} {key : String} {items : List Json}
    (hlist : response.body.at? [key] = some (.list items)) : response.itemsAt key = items := by
  rw [itemsAt, hlist]

/-- The records that a response returns on a route: those of an update, the one
a switch is answered with, and that of an access if it was recorded. -/
def Route.returned (route : Route) (response : Response) : List Json :=
  match route with
  | .updateSettings => response.itemsAt "audit_records"
  | .switchFeature => [response.body]
  | .recordAccess =>
      if response.body.at? ["recorded"] = some (.bool true) then
        [(response.body.at? ["record"]).getD .null]
      else []
  | _ => []

theorem Route.returned_of_not_writing {route : Route} (hother : route ∉ writing)
    (response : Response) : route.returned response = [] := by
  cases route with
  | updateSettings => exact absurd (by decide) hother
  | switchFeature => exact absurd (by decide) hother
  | recordAccess => exact absurd (by decide) hother
  | _ => rfl

namespace Response

/-- The records that the response to a request returns; an error returns none. -/
def returned (response : Response) (request : Request) : List Json :=
  if response.status ≠ 200 then []
  else request.route?.elim [] fun route => route.returned response

theorem returned_of_error {response : Response} (request : Request)
    (herror : response.status ≠ 200) : response.returned request = [] :=
  if_pos herror

theorem returned_of_on {response : Response} {request : Request} {route : Route}
    (hon : request.On route) (hok : response.status = 200) :
    response.returned request = route.returned response := by
  rw [returned, if_neg (not_not.mpr hok), (request.route?_eq_some_iff route).mpr hon]
  rfl

/-- Away from the writing routes no record is returned. -/
theorem returned_of_not_writing (response : Response) {request : Request}
    (hother : ∀ route ∈ Route.writing, ¬ request.On route) : response.returned request = [] := by
  by_cases hok : response.status = 200
  · rw [returned, if_neg (not_not.mpr hok)]
    cases hroute : request.route? with
    | none => rfl
    | some route =>
        have hon := (request.route?_eq_some_iff route).mp hroute
        exact Route.returned_of_not_writing (fun hwriting => hother route hwriting hon) response
  · exact returned_of_error request hok

/-- Errors, reads and requests elsewhere return no record. -/
theorem returned_of_silent (response : Response) {request : Request}
    (hsilent : response.status ≠ 200 ∨ request.method = "GET" ∨
      ∀ route ∈ Route.writing, request.path ≠ route.path) :
    response.returned request = [] := by
  rcases hsilent with herror | hget | hpath
  · exact returned_of_error request herror
  · refine response.returned_of_not_writing fun route hwriting hon => ?_
    exact Route.method_of_writing hwriting (hon.method.symm.trans hget)
  · exact response.returned_of_not_writing fun route hwriting hon =>
      hpath route hwriting hon.path

end Response

namespace Server

/-- A service once its sink took some records. -/
def taking (server : Server) (records : List Record) : Server :=
  { server with
    recorder := { server.recorder with
      sink := records.foldl Sink.taking server.recorder.sink } }

theorem taking_append (server : Server) (first second : List Record) :
    server.taking (first ++ second) = (server.taking first).taking second := by
  simp only [taking, List.foldl_append]

theorem taking_of_hands (server : Server) {events : List Event} {after : Recorder}
    {records : List Record} (hhands : Recorder.Hands server.recorder events after records) :
    { server with recorder := after } = server.taking records := by
  rw [hhands.taken]
  rfl

/-- The sink took the records that a response returns, and nothing else of the
service changed. -/
structure Exchange (server : Server) (request : Request) (result : Response × Server)
    (records : List Record) : Prop where
  after : result.2 = server.taking records
  returned : result.1.returned request = records.map Record.toJson

variable {server : Server} {request : Request}

/-- Where no record is returned nothing changes. -/
theorem Exchange.unchanged {result : Response × Server} {records : List Record}
    (hexchange : Exchange server request result records)
    (hnone : result.1.returned request = []) : result.2 = server := by
  obtain rfl := List.map_eq_nil_iff.mp (hexchange.returned.symm.trans hnone)
  exact hexchange.after

/-- An error leaves the service alone. -/
theorem Exchange.refused {refusal : Response} (herror : refusal.status ≠ 200) :
    Exchange server request (refusal, server) [] :=
  ⟨rfl, Response.returned_of_error request herror⟩

theorem readBody_error {α : Type} {read : Members → Reading α} {body : String}
    {refusal : Response} (hrefused : readBody read body = .error refusal) :
    refusal.status ≠ 200 := by
  unfold readBody at hrefused
  split at hrefused
  · cases hrefused
  · split at hrefused
    · cases hrefused
    · cases hrefused
    · cases hrefused
      decide
    · cases hrefused
      decide

theorem Exchange.rejected (server : Server) (request : Request) (issues : List Issue) :
    Exchange server request (.rejected issues, server) [] :=
  .refused (Nat.ne_of_beq_eq_false rfl)

/-- A request whose body does not read is refused. -/
theorem exchange_whenRead {α : Type} {read : Members → Reading α}
    {answer : α → Logged (Response × Server)}
    (hanswer : ∀ body, ∃ records, Exchange server request (answer body).answer records) :
    ∃ records, Exchange server request
      (server.whenRead (readBody read request.body) answer).answer records := by
  unfold whenRead
  split
  · exact hanswer _
  · exact ⟨[], .rejected server request _⟩
  · next hrefused => exact ⟨[], .refused (readBody_error hrefused)⟩

/-- Away from the writing routes an answer that leaves the service alone will do. -/
theorem exchange_of_not_writing {route : Route} (hon : request.On route)
    (hother : route ∉ Route.writing) (response : Response) :
    ∃ records, Exchange server request (response, server) records :=
  ⟨[], rfl, response.returned_of_not_writing fun _ hwriting hwritten =>
    hother (hon.route_eq hwritten ▸ hwriting)⟩

variable (hreliable : server.recorder.sink.Reliable)

include hreliable

theorem exchange_updateSettings (hon : request.On .updateSettings) (body : UpdateSettings) :
    ∃ records, Exchange server request (server.updateSettings body).answer records := by
  let user : Given User := .ready body.user
  let account := body.account.map AccountCard.ofAccount
  cases happlied : (Settings.applyUpdate body.current (.object body.update)).answer with
  | rejected issues =>
      have hupdate := (Settings.update_rejected user account server.recorder happlied).1
      have hanswer : (server.updateSettings body).answer = (.rejected issues, server) := by
        simp only [updateSettings, Logged.answer_bind]
        rw [hupdate]
        rfl
      rw [hanswer]
      exact ⟨[], .rejected server request issues⟩
  | accepted after =>
      obtain ⟨hgiven, hhands⟩ := Settings.returns_update user account hreliable happlied
      refine ⟨Settings.changeRecords user account body.current.settings.answer after ++
        Settings.switchRecords user account body.current.settings.answer after, ?_⟩
      simp only [updateSettings, Logged.answer_bind]
      rw [hgiven]
      exact ⟨server.taking_of_hands hhands, Response.returned_of_on hon rfl⟩

theorem exchange_switchFeature (hon : request.On .switchFeature) (body : SwitchFeature) :
    ∃ records, Exchange server request (server.switchFeature body).answer records := by
  have hreturns := Recorder.returns_emitFor hreliable (.ready body.user)
    (body.account.map AccountCard.ofAccount)
    (if body.enabled then .featureEnabled else .featureDisabled)
    fun record => { record with switchedTo := some body.enabled }
  refine ⟨_, server.taking_of_hands hreturns.hands, ?_⟩
  have hgiven := Option.toList_eq_singleton_iff.mp hreturns.given
  simp only [switchFeature, Recorder.recordSwitch, Logged.answer_bind]
  rw [hgiven]
  exact Response.returned_of_on hon rfl

theorem exchange_recordAccess (hon : request.On .recordAccess) (body : RecordAccess) :
    ∃ records, Exchange server request (server.recordAccess body).answer records := by
  obtain ⟨records, hreturns⟩ := Recorder.returns_recordMembers hreliable (.ready body.user)
    (body.account.map AccountCard.ofAccount) (.given (.string body.event))
    (Field.ofJson (.string body.dataType)) body.context none
  refine ⟨records, server.taking_of_hands hreturns.hands, ?_⟩
  rw [← hreturns.given]
  simp only [recordAccess, Logged.answer_bind]
  rw [Response.returned_of_on hon rfl]
  cases (server.recorder.recordMembers _ _ _ _ _ _).answer.1 with
  | none => rfl
  | some record => rfl

/-- The sink takes what the response to a request returns. -/
theorem exchange_handle (request : Request) :
    ∃ records, Exchange server request (server.handle request).answer records := by
  by_cases hroute : ∃ route, request.On route
  · obtain ⟨route, hon⟩ := hroute
    rw [server.handle_of_on hon]
    cases route with
    | root => exact exchange_of_not_writing hon (by decide) _
    | health => exact exchange_of_not_writing hon (by decide) _
    | patterns => exact exchange_of_not_writing hon (by decide) _
    | maskValue => exact exchange_whenRead fun _ => exchange_of_not_writing hon (by decide) _
    | maskContact => exact exchange_whenRead fun _ => exchange_of_not_writing hon (by decide) _
    | resolvePolicy => exact exchange_whenRead fun _ => exchange_of_not_writing hon (by decide) _
    | updateSettings => exact exchange_whenRead (exchange_updateSettings hreliable hon)
    | switchFeature => exact exchange_whenRead (exchange_switchFeature hreliable hon)
    | recordAccess => exact exchange_whenRead (exchange_recordAccess hreliable hon)
    | auditLogs =>
        rw [serve]
        cases readQuery request.query with
        | accepted query => exact exchange_of_not_writing hon (by decide) _
        | rejected issues => exact ⟨[], .rejected server request issues⟩
  · obtain ⟨refusal, hhandle, herror⟩ :=
      server.handle_of_not_on fun route hon => hroute ⟨route, hon⟩
    rw [hhandle]
    exact ⟨[], .refused herror⟩

end Server

end ContactPrivacy.Http
