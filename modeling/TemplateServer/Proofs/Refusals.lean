import TemplateServer.Proofs.ErrorPage
import TemplateServer.Proofs.Http.Front

/-!
# What is refused has no effect

On its way to an entry a request can be refused for its method, for its path and for its directive,
in this order. `Inert` says what such a refusal is: the answer and the lines that are noted are the
same for every dispatcher and every engine, and nothing else happens. So the engine is left as it
was, and neither its store nor its compiler can have been asked anything.

The refusal of a malformed directive goes through the response to a failure, which serves the error
page for other failures; it is the caller's fault, so the page is left alone (`respond_refused`).
-/

namespace TemplateServer

/-- What is done with an engine, by any dispatcher and at any time. -/
abbrev Handling (β : Type) : Type 1 :=
  ∀ {σ κ α : Type}, Dispatcher σ κ α → Nat → Engine σ κ α → β × Engine σ κ α

/-- The same is answered always, and nothing is done but noting it. -/
structure Inert {β : Type} (handling : Handling β) (answer : β) : Prop where
  /-- Neither the answer nor what is noted depends on anything. -/
  noted : ∃ events : List Log.Event, ∀ {σ κ α : Type} (d : Dispatcher σ κ α) (now : Nat)
    (s : Engine σ κ α), handling d now s = (answer, s.note events)
  /-- Where questions and jobs are recorded, there are no new ones. -/
  unasked : ∀ {σ κ α : Type} (setup : Setup σ κ α) (page : Option Identity) (now : Nat)
    (s : Engine (σ × List Question) (κ × List (Job α)) α),
    let s' := (handling ⟨setup.recorded, page⟩ now s).2
    s'.backend.store.2 = s.backend.store.2 ∧ s'.backend.compiler.2 = s.backend.compiler.2

/-- What only writes into the log is inert. -/
theorem Inert.of_noted {β : Type} {handling : Handling β} {answer : β} (events : List Log.Event)
    (h : ∀ {σ κ α : Type} (d : Dispatcher σ κ α) (now : Nat) (s : Engine σ κ α),
      handling d now s = (answer, s.note events)) : Inert handling answer where
  noted := ⟨events, h⟩
  unasked setup page now s := by
    rw [h]
    exact ⟨rfl, rfl⟩

/-- Has a request serviced. -/
def Request.serviced (request : Request) : Handling (Except Failure Response) := fun d now =>
  d.service now request

/-- Has an HTTP request answered. -/
def Http.HttpRequest.answered (r : HttpRequest) : Handling Response := fun d now => answer d now r

variable {σ κ α : Type}

namespace Dispatcher

variable {d : Dispatcher σ κ α} {now : Nat} {request : Request} {s : Engine σ κ α}
  {failure : Failure}

/-- A request that names no template is refused for that. -/
theorem examine_unresolved (h : request.resolve = .error failure) :
    examine request = .error failure := by
  unfold examine
  rw [h]
  rfl

/-- A request with a malformed directive is refused for that, if it names a template. -/
theorem examine_malformed {identity : Identity} (hresolve : request.resolve = .ok identity)
    (h : Directive.detect request.query = .error failure) : examine request = .error failure := by
  unfold examine
  rw [hresolve]
  show (Directive.detect request.query >>= _) = _
  rw [h]
  rfl

/-- A request that fails its examination does not come to an entry. -/
theorem service_refused (h : examine request = .error failure) :
    d.service now request s = (.error failure, s.note (examineNotes request)) := by
  unfold service
  rw [h]

/-- The response to a request that is refused is the text of the failure. No template is touched. -/
theorem respond_refused (h : examine request = .error failure)
    (hclient : failure.isClientError = true) :
    d.respond now request s =
      (.plain failure.status failure.message,
        s.note (examineNotes request ++ [clientEvent request failure])) := by
  have hservice : d.service now request s = _ := service_refused h
  rw [respond_failed d now request s (congrArg Prod.fst hservice), hservice,
    errorResponse_client d now request _ hclient, Engine.note_note]

end Dispatcher

namespace Http

/-- A rejection says that nothing was found for a path that names no template, and else that the
caller is at fault. -/
theorem Rejection.status_cases (rejection : Rejection) :
    rejection.status = 404 ∧ (∃ path, rejection = .refused (.noTemplate path)) ∨
      rejection.status = 400 ∧ ¬ ∃ path, rejection = .refused (.noTemplate path) := by
  cases rejection with
  | encoding path => exact .inr ⟨rfl, by simp⟩
  | refused error =>
    cases error with
    | noTemplate path => exact .inl ⟨rfl, path, rfl⟩
    | escapesRoot path => exact .inr ⟨rfl, by simp⟩

namespace HttpRequest

variable {d : Dispatcher σ κ α} {now : Nat} {r : HttpRequest} {s : Engine σ κ α}
  {request : Request}

/-- The query goes on to the dispatcher as it was sent. -/
theorem query_of_toRequest (h : r.toRequest = .ok request) : request.query = r.target.query := by
  unfold toRequest at h
  cases hdecode : decodePath r.target.path with
  | error rejection => rw [hdecode] at h; cases h
  | ok path =>
    rw [hdecode] at h
    simp only [bind, Except.bind] at h
    cases hpath : Identity.normalize path with
    | error e => rw [hpath] at h; cases h
    | ok identity => rw [hpath] at h; cases h; rfl

/-- A method that is not dispatched is refused before anything else. -/
theorem answer_of_method (h : r.method ∉ dispatchedMethods) :
    answer d now r s = (.plain 405 "Method not allowed", s) := by
  unfold answer
  rw [if_pos (by simpa using h)]

/-- What is noted when a path is rejected. -/
def rejectedEvent (r : HttpRequest) (rejection : Rejection) : Log.Event :=
  ⟨.debug, .server, s!"{r.method} {r.target.text} rejected: {rejection.message}"⟩

/-- A request that cannot be converted is answered with the rejection. -/
theorem answer_of_rejected {rejection : Rejection} (hmethod : r.method ∈ dispatchedMethods)
    (h : r.toRequest = .error rejection) :
    answer d now r s =
      (.plain rejection.status rejection.message,
        s.note [rejectedEvent r rejection]) := by
  unfold answer
  rw [if_neg (by simpa using hmethod), h]
  rfl

/-- Every other request is dispatched. -/
theorem answer_of_accepted (hmethod : r.method ∈ dispatchedMethods)
    (h : r.toRequest = .ok request) : answer d now r s = d.respond now request s := by
  unfold answer
  rw [if_neg (by simpa using hmethod), h]

end HttpRequest

end Http

open Http in
/-- **What is refused has no effect.** Whatever the engine has been through, and with an error page
or without one:

* an HTTP request of another method than GET, POST and HEAD is answered 405; one of these methods
  whose path is rejected is answered by the status of the rejection, 404 if the path names no
  template and else 400; and one whose path is accepted but whose directive is malformed is answered
  400;
* a request whose path does not resolve, or whose directive is malformed, fails for that;

and each time nothing has happened but the notes. -/
theorem refused_without_effect :
    (∀ r : HttpRequest,
      (r.method ∉ dispatchedMethods → Inert r.answered (.plain 405 "Method not allowed")) ∧
      (r.method ∈ dispatchedMethods → ∀ rejection, r.toRequest = .error rejection →
        Inert r.answered (.plain rejection.status rejection.message) ∧
          (rejection.status = 404 ∧ (∃ path, rejection = .refused (.noTemplate path)) ∨
            rejection.status = 400 ∧ ¬ ∃ path, rejection = .refused (.noTemplate path))) ∧
      (r.method ∈ dispatchedMethods → ∀ request, r.toRequest = .ok request →
        ∀ failure, Directive.detect r.target.query = .error failure →
          Inert r.answered (.plain 400 failure.message))) ∧
    ∀ (request : Request) (failure : Failure),
      (request.resolve = .error failure → Inert request.serviced (.error failure)) ∧
      ∀ identity, request.resolve = .ok identity →
        Directive.detect request.query = .error failure →
          Inert request.serviced (.error failure) := by
  refine ⟨fun r => ⟨fun hmethod => ?_, fun hmethod rejection h => ⟨?_, rejection.status_cases⟩,
    fun hmethod request h failure hdirective => ?_⟩,
    fun request failure => ⟨fun h => ?_, fun identity hresolve h => ?_⟩⟩
  · refine .of_noted [] fun d now s => ?_
    rw [Engine.note_nil]
    exact HttpRequest.answer_of_method hmethod
  · exact .of_noted _ fun d now s => HttpRequest.answer_of_rejected hmethod h
  · obtain ⟨identity, hresolve⟩ := HttpRequest.resolve_of_toRequest h
    obtain ⟨value, rfl⟩ := Dispatcher.detect_error hdirective
    rw [← HttpRequest.query_of_toRequest h] at hdirective
    have hexamine := Dispatcher.examine_malformed hresolve hdirective
    refine .of_noted (Dispatcher.examineNotes request ++ [Dispatcher.clientEvent request
      (.malformedDirective Directive.name value)]) fun d now s => ?_
    exact (HttpRequest.answer_of_accepted hmethod h).trans
      (Dispatcher.respond_refused hexamine rfl)
  · exact .of_noted _ fun d now s => Dispatcher.service_refused (Dispatcher.examine_unresolved h)
  · exact .of_noted _ fun d now s =>
      Dispatcher.service_refused (Dispatcher.examine_malformed hresolve h)

/-- What is sent for a path and a query. -/
def Http.HttpRequest.sent (method path : String) (query : Option String) : Http.HttpRequest :=
  ⟨method, ⟨none, none, path, query⟩, []⟩

open Http in
/-- One refusal of each kind. -/
theorem refused_without_effect_everywhere :
    Inert (HttpRequest.sent "DELETE" "/p" none).answered (.plain 405 "Method not allowed") ∧
      Inert (HttpRequest.sent "GET" "/.." none).answered
        (.plain 400 (Rejection.refused (.escapesRoot "/..")).message) ∧
      Inert (HttpRequest.sent "GET" "/p" (some "jsp_precompile=maybe")).answered
        (.plain 400 (Failure.malformedDirective Directive.name "maybe").message) ∧
      Inert (Request.forPath "/..").serviced
        (.error (.identityResolution (PathError.escapesRoot "/..").message)) ∧
      Inert ((Request.forPath "/p").withQuery "jsp_precompile=maybe").serviced
        (.error (.malformedDirective Directive.name "maybe")) := by
  obtain ⟨hhttp, hservice⟩ := refused_without_effect
  have hreads : ∀ method path query, Text.decodePercent (Utf8.encode path.toList) =
      Utf8.encode path.toList → (HttpRequest.sent method path query).Reads path := by
    intro method path query h
    unfold HttpRequest.Reads
    rw [Utf8.toList_toUTF8, Utf8.toList_toUTF8]
    exact h
  refine ⟨(hhttp _).1 (by decide), ?_, ?_, ?_, ?_⟩
  · refine ((hhttp _).2.1 (by decide) (.refused (.escapesRoot "/..")) ?_).1
    exact HttpRequest.toRequest_eq_refused_iff.mpr
      ⟨"/..", hreads _ _ _ (by decide), by decide, rfl⟩
  · obtain ⟨request, hrequest, -⟩ := HttpRequest.toRequest_resolves_iff.mpr
      ⟨"/p", hreads "GET" "/p" (some "jsp_precompile=maybe") (by decide), by decide,
        (rfl : Identity.normalize "/p" = .ok ⟨[⟨['p'], by decide⟩], by decide⟩)⟩
    exact (hhttp _).2.2 (by decide) request hrequest
      (.malformedDirective Directive.name "maybe") rfl
  · exact (hservice _ _).1 rfl
  · exact (hservice _ _).2 ⟨[⟨['p'], by decide⟩], by decide⟩ rfl rfl

end TemplateServer
