/-
Which requests a service answers, and on which route.  A request is on a route
if it has its method and its path; a request on none is refused.
-/
import ContactPrivacy.Http.Server

namespace ContactPrivacy.Http

namespace Route

/-- A path leads to the one route that has it. -/
theorem ofPath?_eq_some_iff (path : String) (route : Route) :
    ofPath? path = some route ↔ path = route.path := by
  constructor
  · intro hfound
    have hpath := List.find?_some hfound
    exact (eq_of_beq hpath).symm
  · rintro rfl
    cases route <;> decide

end Route

structure Request.On (request : Request) (route : Route) : Prop where
  method : request.method = route.method
  path : request.path = route.path

/-- A request is on one route at most. -/
theorem Request.On.route_eq {request : Request} {first second : Route}
    (hfirst : request.On first) (hsecond : request.On second) : first = second := by
  have hfound := (Route.ofPath?_eq_some_iff request.path first).mpr hfirst.path
  rw [(Route.ofPath?_eq_some_iff request.path second).mpr hsecond.path] at hfound
  exact (Option.some.inj hfound).symm

namespace Server

theorem handle_of_on (server : Server) {request : Request} {route : Route}
    (hon : request.On route) : server.handle request = server.serve request route := by
  have hroute := (Route.ofPath?_eq_some_iff request.path route).mpr hon.path
  simp only [handle, hroute, hon.method.symm, if_true]

/-- A request on no route is refused. -/
theorem handle_of_not_on (server : Server) {request : Request}
    (hnone : ∀ route, ¬ request.On route) :
    ∃ refusal, server.handle request = ⟨(refusal, server), []⟩ ∧ refusal.status ≠ 200 := by
  unfold handle
  split
  · exact ⟨.notFound, rfl, by decide⟩
  · next route hroute =>
      have hpath := (Route.ofPath?_eq_some_iff request.path route).mp hroute
      split
      · next hmethod => exact (hnone route ⟨hmethod.symm, hpath⟩).elim
      · exact ⟨.methodNotAllowed, rfl, by decide⟩

end Server

end ContactPrivacy.Http
