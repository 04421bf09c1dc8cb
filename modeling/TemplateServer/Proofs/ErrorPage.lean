import TemplateServer.Proofs.Engine.Lane
import TemplateServer.Proofs.Erasure
import TemplateServer.Proofs.Failure

/-!
# Error pages do not change the outcome

`respond` services a request, and if that fails it may service the error page with what went wrong.
The page is a template like any other: it can be missing or broken, or be the very template that has
failed. Whatever becomes of it, the outcome of the request is that of its service
(`respond_keeps_outcome`): an answer is passed on, and a failure keeps its status.

That the page is asked once at most is seen from outside: a compiler that is `watched` writes down
what the artifacts see that it executes. The service of a request adds one line at most
(`Served.seen_cases`), so the response to a failure adds one line at most to those of the service,
and this one tells the failure.
-/

namespace TemplateServer

variable {σ κ α : Type}

/-! ## What artifacts see -/

/-- The compiler that writes down what the artifacts see that it executes, in order. -/
def Compiler.watched (compiler : Compiler κ α) : Compiler (κ × List RenderContext) α where
  compile identity source s :=
    ((compiler.compile identity source s.1).1, ((compiler.compile identity source s.1).2, s.2))
  execute artifact context s :=
    ((compiler.execute artifact context s.1).1,
      ((compiler.execute artifact context s.1).2, s.2 ++ [context]))
  release artifact s :=
    ((compiler.release artifact s.1).1, ((compiler.release artifact s.1).2, s.2))
  notes := compiler.notes

/-- The same setup, with the compiler that writes down what artifacts see. -/
def Setup.watched (setup : Setup σ κ α) : Setup σ (κ × List RenderContext) α where
  store := setup.store
  compiler := setup.compiler.watched
  options := setup.options

/-- The same dispatcher, with the compiler that writes down what artifacts see. -/
def Dispatcher.watched (d : Dispatcher σ κ α) : Dispatcher σ (κ × List RenderContext) α :=
  ⟨d.setup.watched, d.errorPage⟩

namespace View

/-- Does not see what artifacts see. -/
def watch : View (κ × List RenderContext) α κ α := ⟨Prod.fst, id⟩

/-- What artifacts see is written down beside the state of the compiler, and changes nothing. -/
theorem watch_shows (setup : Setup σ κ α) : watch.Shows setup.watched setup where
  store := rfl
  options := rfl
  compile _ _ _ := Prod.ext (Except.map_id ▸ rfl) rfl
  execute _ _ _ := rfl
  release _ _ := rfl
  notes := rfl

end View

namespace Entry

/-- What artifacts have seen. -/
abbrev Focus.seen (s : Focus σ (κ × List RenderContext) α) : List RenderContext :=
  s.backend.compiler.2

section

variable {setup : Setup σ κ α} {now : Nat} {s s' : Focus σ (κ × List RenderContext) α}

/-- Looking for a reason to compile executes nothing. -/
theorem NeedsCompile.seen_eq (h : NeedsCompile setup.watched now s s') : s'.seen = s.seen := by
  cases h with
  | unheld => rfl
  | requested => rfl
  | newer => rfl

theorem Focus.succeed_seen (held : Held α) (s : Focus σ (κ × List RenderContext) α) :
    (s.succeed setup.watched held).seen = s.seen := by
  rw [seen, succeed_compiler]
  cases s.entry.held with
  | none => rfl
  | some => rfl

/-- A refresh executes nothing. -/
theorem Refreshed.seen_eq {result : Except Failure Unit}
    (h : Refreshed setup.watched now s result s') : s'.seen = s.seen := by
  cases h with
  | notDue => rfl
  | current => rfl
  | undated => rfl
  | vanished => rfl
  | destroyed hneed => exact hneed.seen_eq
  | unreadable hneed => exact hneed.seen_eq
  | refused hneed _ _ _ hcomp =>
    obtain ⟨-, rfl⟩ := Prod.mk.inj hcomp
    exact hneed.seen_eq
  | compiled hneed _ _ _ hcomp =>
    obtain ⟨-, rfl⟩ := Prod.mk.inj hcomp
    rw [Focus.succeed_seen]
    exact hneed.seen_eq

/-- A request executes one artifact at most, which sees the request. -/
theorem Serviced.seen_cases {request : Request} {precompile : Bool} {error : Option String}
    {answer : Except Failure Response}
    (h : Serviced setup.watched now request precompile error s answer s') :
    s'.seen = s.seen ∨ s'.seen = s.seen ++ [.ofRequest s.entry.identity request error] := by
  cases h with
  | failed hr => exact .inl (Refreshed.of_run _ _ hr).seen_eq
  | precompiled hr => exact .inl (Refreshed.of_run _ _ hr).seen_eq
  | unheld hr => exact .inl (Refreshed.of_run _ _ hr).seen_eq
  | executed hr _ _ hexec =>
    have hrefreshed := Refreshed.of_run _ _ hr
    obtain ⟨-, rfl⟩ := Prod.mk.inj hexec
    right
    rw [← hrefreshed.seen_eq, ← hrefreshed.identity_eq]
    rfl

end

/-- What an entry answers is a success. -/
theorem Serviced.status_eq {setup : Setup σ κ α} {now : Nat} {request : Request}
    {precompile : Bool} {error : Option String} {response : Response} {s s' : Focus σ κ α}
    (h : Serviced setup now request precompile error s (.ok response) s') :
    response.status = 200 := by
  generalize hanswer : (Except.ok response : Except Failure Response) = answer at h
  cases h with
  | failed => cases hanswer
  | precompiled => cases hanswer; rfl
  | unheld => cases hanswer
  | @executed _ _ body _ _ _ _ _ _ hbody =>
    rw [hbody] at hanswer
    cases body with
    | error => cases hanswer
    | ok => cases hanswer; rfl

end Entry

namespace Engine

/-- What artifacts have seen. -/
abbrev seen (s : Engine σ (κ × List RenderContext) α) : List RenderContext := s.backend.compiler.2

/-- Letting an identity in does not concern the compiler. -/
theorem Admitted.compiler_eq {ask : StateM σ Bool} {identity : Identity} {isErrorPage : Bool}
    {handle : Handle} {s s' : Engine σ κ α}
    (h : Admitted ask identity isErrorPage s handle s') :
    s'.backend.compiler = s.backend.compiler := by
  cases h with
  | present => rfl
  | created => rfl

end Engine

namespace Dispatcher

open Engine

/-! ## Services -/

section

variable {identity : Identity} {precompile : Bool} {error : Option String} {now : Nat}
  {request : Request}

/-- Servicing an identity executes one artifact at most. It is the artifact of this identity, where
the cache leads to the right entries. -/
theorem Served.seen_cases {setup : Setup σ κ α} {s s' : Engine σ (κ × List RenderContext) α}
    {answer : Except Failure Response}
    (h : Served setup.watched now request identity precompile error s answer s') :
    s'.seen = s.seen ∨ ∃ served, (s.cache.Filed → served = identity) ∧
      s'.seen = s.seen ++ [.ofRequest served request error] := by
  cases h with
  | refused => exact .inl rfl
  | missing => exact .inl rfl
  | lost _ hadm => exact .inl (congrArg Prod.snd hadm.compiler_eq)
  | @answered handle s₁ e focus _ events _ hadm hentry hserv =>
    have hcompiler : s₁.backend.compiler = s.backend.compiler := hadm.compiler_eq
    have hseen := (Entry.Serviced.of_run hserv).seen_cases
    have hbefore :
        Entry.Focus.seen (⟨e, (s₁.note events).backend⟩ : Entry.Focus σ _ α) = s.seen :=
      congrArg Prod.snd hcompiler
    rw [hbefore] at hseen
    rcases hseen with hseen | hseen
    · exact .inl hseen
    · refine .inr ⟨e.identity, fun hfiled => ?_, hseen⟩
      obtain ⟨⟨e', hentry', hidentity, -⟩, -⟩ := hadm.made? hfiled
      rw [hentry] at hentry'
      cases hentry'
      exact hidentity

/-- A template that is served is served well. -/
theorem Served.status_eq {setup : Setup σ κ α} {s s' : Engine σ κ α} {response : Response}
    (h : Served setup now request identity precompile error s (.ok response) s') :
    response.status = 200 := by
  generalize hanswer : (Except.ok response : Except Failure Response) = answer at h
  cases h with
  | refused => cases hanswer
  | missing => cases hanswer
  | lost => cases hanswer
  | answered _ _ _ _ hserv =>
    rw [← hanswer] at hserv
    exact (Entry.Serviced.of_run hserv).status_eq

end

/-- A failure that is reported with its identity is no bare I/O error. -/
theorem named_ne_io (identity : Identity) (failure : Failure) (error : IoError) :
    named identity failure ≠ .io error := by
  cases failure with
  | io => exact fun h => nomatch h
  | _ => exact fun h => nomatch h

/-- No request is refused unexamined with an I/O error. -/
theorem examine_ne_io {request : Request} (error : IoError) :
    examine request ≠ .error (.io error) := by
  intro h
  rcases examine_error h with hresolve | ⟨_, _, hdetect⟩
  · unfold Request.resolve Identity.parse at hresolve
    split at hresolve
    next => cases hresolve
    next => cases hresolve
  · obtain ⟨value, hvalue⟩ := detect_error hdetect
    cases hvalue

section

variable (d : Dispatcher σ κ α) (now : Nat) (request : Request) (s : Engine σ κ α)

/-- No request fails with the mere error of reading a source. -/
theorem service_ne_io (error : IoError) : (d.service now request s).1 ≠ .error (.io error) := by
  intro h
  have hcases := service_cases d now request s
  generalize d.service now request s = serviced at h hcases
  obtain ⟨answer, s'⟩ := serviced
  cases hcases with
  | refused _ hexamine =>
    cases h
    exact examine_ne_io error hexamine
  | @served identity _ answer =>
    cases answer with
    | error failure => exact named_ne_io identity failure error (Except.error.inj h)
    | ok => cases h

/-- A request that is answered is answered well. -/
theorem service_status {response : Response} (h : (d.service now request s).1 = .ok response) :
    response.status = 200 := by
  have hcases := service_cases d now request s
  generalize d.service now request s = serviced at h hcases
  obtain ⟨answer, s'⟩ := serviced
  cases hcases with
  | refused => cases h
  | @served _ _ answer _ _ hserved =>
    cases answer with
    | error => cases h
    | ok => cases h; exact hserved.status_eq

/-- A request that can be examined is one for its identity, and fails as this does. -/
theorem service_examined {identity : Identity} {precompile : Bool}
    (h : examine request = .ok (identity, precompile)) :
    let asked := (d.serviceIdentity now request identity precompile none).run
      (s.note (examineNotes request))
    d.service now request s = (asked.1.mapError (named identity), asked.2) := by
  intro asked
  unfold service
  rw [h]
  dsimp only
  split
  next response s' hrun =>
    rw [show asked = (.ok response, s') from hrun]
    rfl
  next failure s' hrun =>
    rw [show asked = (.error failure, s') from hrun]
    rfl

/-- An I/O error is reported with the identity. -/
theorem mapError_named_io {identity : Identity} {answer : Except Failure Response}
    {error : IoError} (h : answer = .error (.io error)) :
    answer.mapError (named identity) = .error (.dispatch s!"{identity}: {error.message}") := by
  rw [h]
  rfl

theorem mapError_named_of_ne_io {identity : Identity} {answer : Except Failure Response}
    (h : ∀ error, answer ≠ .error (.io error)) : answer.mapError (named identity) = answer := by
  cases answer with
  | ok => rfl
  | error failure =>
    cases failure with
    | io error => exact absurd rfl (h error)
    | _ => rfl

/-! ## Answers to failures -/

/-- What is noted when a failure is the caller's. -/
def clientEvent (request : Request) (failure : Failure) : Log.Event :=
  event .debug s!"{request.method} {request.uri} -> {failure.status}: {failure.message}"

/-- What is noted when a failure is not the caller's. -/
def serverEvent (request : Request) (failure : Failure) : Log.Event :=
  event .error s!"{request.method} {request.uri} failed: {failure.message}"

variable {failure : Failure}

/-- Where the caller is at fault, the answer is the text of the failure, and the page is left
alone. -/
theorem errorResponse_client (h : failure.isClientError = true) :
    d.errorResponse now request failure s =
      (.plain failure.status failure.message, s.note [clientEvent request failure]) := by
  unfold errorResponse
  dsimp only
  rw [if_pos h]
  rfl

/-- Without a page, every failure is answered with its text. -/
theorem errorResponse_pageless (h : failure.isClientError = false) (hpage : d.errorPage = none) :
    d.errorResponse now request failure s =
      (.plain failure.status failure.message, s.note [serverEvent request failure]) := by
  unfold errorResponse
  dsimp only
  rw [if_neg (by simp [h]), hpage]
  rfl

/-- Where no page has a say, the answer is the text of the failure and only a line is noted. -/
theorem errorResponse_text (h : failure.isClientError = true ∨ d.errorPage = none) :
    (d.errorResponse now request failure s).1 =
        ⟨failure.status, textContentType, failure.message⟩ ∧
      ∃ events, (d.errorResponse now request failure s).2 = s.note events := by
  cases hclient : failure.isClientError with
  | true =>
    rw [errorResponse_client d now request _ hclient]
    exact ⟨rfl, _, rfl⟩
  | false =>
    have hpage : d.errorPage = none := h.resolve_left (by simp [hclient])
    rw [errorResponse_pageless d now request _ hclient hpage]
    exact ⟨rfl, _, rfl⟩

/-- The page is serviced once, and its answer is shown under the status of the failure. -/
theorem errorResponse_paged {page : Identity} (h : failure.isClientError = false)
    (hpage : d.errorPage = some page) :
    let shown := (d.serviceIdentity now request page false (some failure.message)).run
      (s.note [serverEvent request failure])
    (d.errorResponse now request failure s).1 = shownAs failure shown.1 ∧
      ∃ events, (d.errorResponse now request failure s).2 = shown.2.note events := by
  intro shown
  unfold errorResponse
  dsimp only
  rw [if_neg (by simp [h]), hpage]
  dsimp only
  split
  next response s' hrun =>
    rw [show shown = (.ok response, s') from hrun]
    exact ⟨rfl, [], (note_nil s').symm⟩
  next failure' s' hrun =>
    rw [show shown = (.error failure', s') from hrun]
    exact ⟨rfl, _, rfl⟩

/-- Every failure is answered under its status. -/
theorem errorResponse_status (failure : Failure) :
    (d.errorResponse now request failure s).1.status = failure.status := by
  have hcases := errorResponse_cases d now request s failure
  generalize d.errorResponse now request failure s = shown at hcases ⊢
  obtain ⟨response, s'⟩ := shown
  cases hcases with
  | plain => rfl
  | @paged page answer =>
    cases answer with
    | ok => rfl
    | error => rfl

/-! ## Responses -/

/-- What a request is answered is passed on. -/
theorem respond_answered {response : Response}
    (h : (d.service now request s).1 = .ok response) :
    d.respond now request s = (response, (d.service now request s).2) := by
  unfold respond
  split
  next answer s' hrun => rw [hrun] at h ⊢; cases h; rfl
  next hrun => rw [hrun] at h; cases h

/-- A failure is answered from where the request has left the engine. -/
theorem respond_failed (h : (d.service now request s).1 = .error failure) :
    d.respond now request s = d.errorResponse now request failure (d.service now request s).2 := by
  unfold respond
  split
  next hrun => rw [hrun] at h; cases h
  next failure' s' hrun => rw [hrun] at h ⊢; cases h; rfl

end

/-- Failures are no successes. -/
theorem isSuccess_of_status {response : Response} {failure : Failure}
    (h : response.status = failure.status) : response.isSuccess = false := by
  unfold Response.isSuccess
  rw [h]
  cases failure <;> rfl

section

variable (d : Dispatcher σ κ α) (now : Nat) (request : Request)

/-- A response is a success if and only if the request was. -/
theorem respond_isSuccess (s : Engine σ κ α) :
    (d.respond now request s).1.isSuccess = (d.service now request s).1.isOk := by
  cases hservice : (d.service now request s).1 with
  | ok response =>
    rw [respond_answered d now request s hservice]
    show response.isSuccess = true
    unfold Response.isSuccess
    rw [service_status d now request s hservice]
    rfl
  | error failure =>
    rw [respond_failed d now request s hservice]
    exact isSuccess_of_status (errorResponse_status d now request _ failure)

/-- The page has no say in the status. -/
theorem respond_status_eq (page : Option Identity) (s : Engine σ κ α) :
    (Dispatcher.respond ⟨d.setup, page⟩ now request s).1.status =
      (d.respond now request s).1.status := by
  -- a service does not know of the page
  have hsame : Dispatcher.service ⟨d.setup, page⟩ now request s = d.service now request s := rfl
  cases hservice : (d.service now request s).1 with
  | ok response =>
    rw [respond_answered d now request s hservice,
      respond_answered _ now request s (hsame ▸ hservice)]
  | error failure =>
    rw [respond_failed d now request s hservice,
      respond_failed _ now request s (hsame ▸ hservice), errorResponse_status,
      errorResponse_status]

/-- The response to a failure executes one artifact at most: that of the page, told the failure. -/
theorem Shown.seen_cases {s s' : Engine σ (κ × List RenderContext) α} {failure : Failure}
    {response : Response} (h : Shown d.watched now request s failure response s') :
    s'.seen = s.seen ∨ ∃ page served, failure.isClientError = false ∧ d.errorPage = some page ∧
      (s.cache.Filed → served = page) ∧
        s'.seen = s.seen ++ [.ofRequest served request (some failure.message)] := by
  cases h with
  | plain => exact .inl rfl
  | @paged page _ _ _ hserver hpage hserved =>
    rcases hserved.seen_cases with hseen | ⟨served, hidentity, hseen⟩
    · exact .inl hseen
    · exact .inr ⟨page, served, hserver, hpage, hidentity, hseen⟩

/-- The response to a request adds at most one line to what artifacts have seen in its service: that
of the page, told the failure. -/
theorem respond_seen (s : Engine σ (κ × List RenderContext) α) :
    let serviced := d.watched.service now request s
    let responded := d.watched.respond now request s
    responded.2.seen = serviced.2.seen ∨
      ∃ failure page served, serviced.1 = .error failure ∧ failure.isClientError = false ∧
        d.errorPage = some page ∧ (s.cache.Filed → served = page) ∧
        responded.2.seen =
          serviced.2.seen ++ [.ofRequest served request (some failure.message)] := by
  intro serviced responded
  cases hservice : serviced.1 with
  | ok response =>
    have hresponded : responded = (response, serviced.2) :=
      respond_answered d.watched now request s hservice
    rw [hresponded]
    exact .inl rfl
  | error failure =>
    have hresponded : responded = d.watched.errorResponse now request failure serviced.2 :=
      respond_failed d.watched now request s hservice
    have hshown := errorResponse_cases d.watched now request serviced.2 failure
    rw [← hresponded] at hshown
    rcases hshown.seen_cases with hseen | ⟨page, served, hserver, hpage, hidentity, hseen⟩
    · exact .inl hseen
    · refine .inr ⟨failure, page, served, rfl, hserver, hpage, fun hfiled => ?_, hseen⟩
      exact hidentity ((service_cases d.watched now request s).turns.filed hfiled)

end

end Dispatcher

open Dispatcher Engine

/-- **Error pages do not change the outcome.** Whatever the engine has been through, whatever its
collaborators do, and whichever page there is: a request never fails with a bare I/O error, which is
reported with the identity instead; what it is answered is passed on; and if it fails, the response
has the status of the failure. If the caller is at fault, the page is left alone. Otherwise it is
serviced with the text of the failure, and if this succeeds it gives the body and its type.

Where it is written down what artifacts see, the response to a failure adds at most one line to what
the service has left, and this one tells the page what has failed. -/
theorem respond_keeps_outcome (d : Dispatcher σ κ α) (now : Nat) (request : Request) :
    (∀ s : Engine σ κ α,
      let serviced := d.service now request s
      let responded := d.respond now request s
      (∀ error, serviced.1 ≠ .error (.io error)) ∧
      (∀ identity precompile, examine request = .ok (identity, precompile) →
        let asked := (d.serviceIdentity now request identity precompile none).run
          (s.note (examineNotes request))
        serviced.2 = asked.2 ∧
        (∀ error, asked.1 = .error (.io error) →
          serviced.1 = .error (.dispatch s!"{identity}: {error.message}")) ∧
        ((∀ error, asked.1 ≠ .error (.io error)) → serviced.1 = asked.1)) ∧
      (∀ response, serviced.1 = .ok response → responded = (response, serviced.2)) ∧
      (∀ failure, serviced.1 = .error failure →
        responded.1.status = failure.status ∧
        (failure.isClientError = true ∨ d.errorPage = none →
          responded.1 = ⟨failure.status, textContentType, failure.message⟩ ∧
            ∃ events, responded.2 = serviced.2.note events) ∧
        (failure.isClientError = false → ∀ page, d.errorPage = some page → ∃ events events',
          let shown := (d.serviceIdentity now request page false (some failure.message)).run
            (serviced.2.note events)
          responded.2 = shown.2.note events' ∧
          (∀ response, shown.1 = .ok response →
            responded.1 = ⟨failure.status, response.contentType, response.body⟩) ∧
          ∀ failure', shown.1 = .error failure' →
            responded.1 = ⟨failure.status, textContentType, failure.message⟩)) ∧
      responded.1.isSuccess = serviced.1.isOk ∧
      ∀ page, (Dispatcher.respond ⟨d.setup, page⟩ now request s).1.status = responded.1.status) ∧
    ∀ s : Engine σ (κ × List RenderContext) α,
      let serviced := d.watched.service now request s
      let responded := d.watched.respond now request s
      d.service now request (View.watch.engine s) = (serviced.1, View.watch.engine serviced.2) ∧
      d.respond now request (View.watch.engine s) = (responded.1, View.watch.engine responded.2) ∧
      (responded.2.seen = serviced.2.seen ∨
        ∃ failure page served, serviced.1 = .error failure ∧ failure.isClientError = false ∧
          d.errorPage = some page ∧ (s.cache.Filed → served = page) ∧
          responded.2.seen =
            serviced.2.seen ++ [.ofRequest served request (some failure.message)]) := by
  constructor
  · intro s serviced responded
    refine ⟨service_ne_io d now request s, fun identity precompile h => ?_,
      fun response h => respond_answered d now request s h, fun failure h => ?_,
      respond_isSuccess d now request s, fun page => respond_status_eq d now request page s⟩
    · intro asked
      have hserviced : serviced = (asked.1.mapError (named identity), asked.2) :=
        service_examined d now request s h
      rw [hserviced]
      exact ⟨rfl, fun error hio => mapError_named_io hio, fun hno => mapError_named_of_ne_io hno⟩
    · have hresponded : responded = d.errorResponse now request failure serviced.2 :=
        respond_failed d now request s h
      rw [hresponded]
      refine ⟨errorResponse_status .., errorResponse_text d now request serviced.2,
        fun hserver page hpage => ?_⟩
      obtain ⟨hshown, events', hleft⟩ :=
        errorResponse_paged d now request serviced.2 hserver hpage
      refine ⟨_, events', hleft, fun response hok => ?_, fun failure' herror => ?_⟩
      · rw [hshown, hok]
        rfl
      · rw [hshown, herror]
        rfl
  · intro s serviced responded
    exact ⟨service_follows (View.watch_shows d.setup) d.errorPage now request s,
      respond_follows (View.watch_shows d.setup) d.errorPage now request s,
      respond_seen d now request s⟩

namespace Dispatcher

/-- A template that is refused. -/
def faultyTemplate : Identity := ⟨[⟨['f'], by decide⟩], by decide⟩

/-- A template that excuses itself. -/
def excuse : Identity := ⟨[⟨['e'], by decide⟩], by decide⟩

def faultySources : Memory :=
  (Memory.empty.put faultyTemplate Echo.refusedSource).put excuse "Sorry:"

/-- A site with a page for failures. -/
def excusing (page : Identity) : Dispatcher Memory Echo.Counts String :=
  ⟨⟨Memory.store, Echo.compiler, .standard⟩, some page⟩

/-- The page is shown under the status of the failure. A page that is the failing template itself
is not. -/
theorem respond_keeps_outcome_faulty :
    let s : Engine Memory Echo.Counts String := .start faultySources .zero
    let failure := Failure.compile "/f" "rejected by test compiler"
    ((excusing excuse).service 0 (.forPath "/f") s).1 = .error failure ∧
      failure.isClientError = false ∧
      ((excusing excuse).respond 0 (.forPath "/f") s).1 =
        ⟨500, htmlContentType, "Sorry:\n" ++ failure.message⟩ ∧
      ((excusing faultyTemplate).respond 0 (.forPath "/f") s).1 =
        ⟨500, textContentType, failure.message⟩ ∧
      ((excusing excuse).respond 0 (.forPath "/nothing") s).1 =
        ⟨404, textContentType, "/nothing"⟩ := by
  intro s failure
  have hservice (page : Identity) :
      ((excusing page).service 0 (.forPath "/f") s).1 = .error failure := rfl
  refine ⟨hservice excuse, rfl, ?_, ?_, ?_⟩
  · obtain ⟨-, -, -, hfailed, -⟩ :=
      (respond_keeps_outcome (excusing excuse) 0 (.forPath "/f")).1 s
    obtain ⟨events, events', -, hshown, -⟩ := (hfailed failure (hservice excuse)).2.2 rfl excuse rfl
    exact hshown (.html ("Sorry:\n" ++ failure.message)) rfl
  · obtain ⟨-, -, -, hfailed, -⟩ :=
      (respond_keeps_outcome (excusing faultyTemplate) 0 (.forPath "/f")).1 s
    obtain ⟨events, events', -, -, hplain⟩ :=
      (hfailed failure (hservice faultyTemplate)).2.2 rfl faultyTemplate rfl
    exact hplain failure rfl
  · obtain ⟨-, -, -, hfailed, -⟩ :=
      (respond_keeps_outcome (excusing excuse) 0 (.forPath "/nothing")).1 s
    exact ((hfailed (.sourceNotFound "/nothing") rfl).2.1 (.inl rfl)).1

end Dispatcher

end TemplateServer
