import TemplateServer.Proofs.Conservation
import TemplateServer.Proofs.Engine.Admissions

/-!
# The teardown is final

After a teardown an engine has `Ended`: its cache is closed, nothing is loaded, and the entries that
callers may still have handles of are retired and hold nothing. From then on a call is replied to
without regard to the engine (`Call.lastReply`): all that matters is whether a request can be
examined, and whether there ever was an entry behind a handle. Neither the store nor the compiler
is used again, and the engine stays as it is up to its log, its count and marks on its entries
(`calls_of_ended`).
-/

namespace TemplateServer

variable {σ κ α χ : Type}

/-! ## What is replied -/

/-- The failure of a request when there are no entries any more. -/
def Request.lastFailure (request : Request) : Failure :=
  match Dispatcher.examine request with
  | .error failure => failure
  | .ok _ => .shutDown

/-- A directive is refused for its value only. -/
theorem Directive.malformed_of_error {query : Option String} {failure : Failure}
    (h : detect query = .error failure) :
    ∃ name value, failure = .malformedDirective name value := by
  unfold detect at h
  split at h
  next => cases h
  next =>
    unfold ofRest at h
    split at h
    next => cases h
    next =>
      split at h
      next => cases h
      next =>
        split at h
        next =>
          dsimp only at h
          split at h
          next => cases h
          next => cases h; exact ⟨_, _, rfl⟩
        next => cases h

/-- A request that names no template fails for that. -/
theorem Request.unresolved_of_error {request : Request} {failure : Failure}
    (h : request.resolve = .error failure) : ∃ reason, failure = .identityResolution reason := by
  unfold resolve Identity.parse at h
  split at h
  next => cases h
  next => cases h; exact ⟨_, rfl⟩

/-- **Why requests fail at the end**: the path names no template, the directive is malformed, or the
runtime was torn down. -/
theorem Request.lastFailure_cases (request : Request) :
    (∃ reason, request.resolve = .error (.identityResolution reason) ∧
        request.lastFailure = .identityResolution reason) ∨
      (∃ identity name value, request.resolve = .ok identity ∧
        Directive.detect request.query = .error (.malformedDirective name value) ∧
        request.lastFailure = .malformedDirective name value) ∨
      ∃ identity precompile, request.resolve = .ok identity ∧
        Directive.detect request.query = .ok precompile ∧ request.lastFailure = .shutDown := by
  unfold lastFailure
  cases hexamine : Dispatcher.examine request with
  | error failure =>
    rcases Dispatcher.examine_error hexamine with hresolve | ⟨identity, hresolve, hdetect⟩
    · obtain ⟨reason, rfl⟩ := unresolved_of_error hresolve
      exact .inl ⟨reason, hresolve, rfl⟩
    · obtain ⟨name, value, rfl⟩ := Directive.malformed_of_error hdetect
      exact .inr (.inl ⟨identity, name, value, hresolve, hdetect, rfl⟩)
  | ok examined =>
    obtain ⟨identity, precompile⟩ := examined
    obtain ⟨hresolve, hdetect⟩ := Dispatcher.examine_ok hexamine
    exact .inr (.inr ⟨identity, precompile, hresolve, hdetect, rfl⟩)

namespace Call

/-- What a call is replied to after the teardown, if so many entries were ever made. -/
def lastReply (count : Nat) : Call σ χ → Reply
  | .step (.service _ request) => .stepped (.serviced (.error request.lastFailure))
  | .step (.respond _ request) =>
    .stepped (.responded (.plain request.lastFailure.status request.lastFailure.message))
  | .step _ => .stepped .nothing
  | .create .. => .admitted (.error .shutDown)
  | .enter handle .. => .entered (if handle < count then some (.error .shutDown) else none)
  | .teardown => .tornDown ⟨0, 0⟩

/-- What a call makes of a store that is not asked anything. -/
def change (apply : χ → σ → σ) : Call σ χ → σ → σ
  | .step (.change c), store => apply c store
  | _, store => store

/-- The changes of the store that calls come with, one after the other. -/
def changes (apply : χ → σ → σ) (calls : List (Call σ χ)) (store : σ) : σ :=
  calls.foldl (fun store call => call.change apply store) store

/-- The same call, with the question that it may put recorded. -/
def recorded : Call σ χ → Call (σ × List Question) χ
  | .step taken => .step taken
  | .create identity isErrorPage ask =>
    .create identity isErrorPage fun s =>
      ((ask s.1).1, ((ask s.1).2, s.2 ++ [.has identity]))
  | .enter handle now request precompile error => .enter handle now request precompile error
  | .teardown => .teardown

/-- A change of a store whose questions are recorded is not recorded. -/
def onRecorded (apply : χ → σ → σ) (c : χ) (s : σ × List Question) : σ × List Question :=
  (apply c s.1, s.2)

/-- What is asked of the store is not written down by a change. -/
theorem change_recorded (apply : χ → σ → σ) (call : Call σ χ) (s : σ × List Question) :
    (change (onRecorded apply) call.recorded s).2 = s.2 := by
  cases call with
  | step taken => cases taken <;> rfl
  | create => rfl
  | enter => rfl
  | teardown => rfl

theorem changes_recorded (apply : χ → σ → σ) (calls : List (Call σ χ)) (s : σ × List Question) :
    (changes (onRecorded apply) (calls.map recorded) s).2 = s.2 := by
  induction calls generalizing s with
  | nil => rfl
  | cons call calls ih => exact (ih _).trans (change_recorded apply call s)

end Call

/-! ## Entries that were taken down -/

namespace Entry

variable {setup : Setup σ κ α} {now : Nat} {s s' : Focus σ κ α}

/-- An entry that is taken down refuses a refresh and stays as it is. -/
theorem Refreshed.of_retired {result : Except Failure Unit} (hdead : s.entry.destroyed = true)
    (hunheld : s.entry.held = none) (h : Refreshed setup now s result s') :
    result = .error .shutDown ∧ s' = s := by
  have hno {held : Held α} (hheld : s.entry.held = some held) : False := by
    rw [hunheld] at hheld
    cases hheld
  have halive {s₁ : Focus σ κ α} (hneed : NeedsCompile setup now s s₁)
      (h : s₁.entry.destroyed = false) : False := by
    rw [hneed.destroyed_eq, hdead] at h
    cases h
  cases h with
  | notDue hheld => exact (hno hheld).elim
  | current hheld => exact (hno hheld).elim
  | undated hheld => exact (hno hheld).elim
  | vanished hheld => exact (hno hheld).elim
  | destroyed hneed =>
    cases hneed with
    | unheld => exact ⟨rfl, rfl⟩
    | requested hheld => exact (hno hheld).elim
    | newer hheld => exact (hno hheld).elim
  | unreadable hneed h => exact (halive hneed h).elim
  | refused hneed h => exact (halive hneed h).elim
  | compiled hneed h => exact (halive hneed h).elim

/-- Every request to an entry that was taken down fails, and does nothing. -/
theorem Serviced.of_retired {request : Request} {precompile : Bool} {error : Option String}
    {answer : Except Failure Response} (hdead : s.entry.destroyed = true)
    (hunheld : s.entry.held = none)
    (h : Serviced setup now request precompile error s answer s') :
    answer = .error .shutDown ∧ s' = s := by
  have hrefresh {result : Except Failure Unit} {s₁ : Focus σ κ α}
      (hr : (refresh setup now).run s = (result, s₁)) : result = .error .shutDown ∧ s₁ = s :=
    (Refreshed.of_run _ _ hr).of_retired hdead hunheld
  cases h with
  | failed hr =>
    obtain ⟨hresult, rfl⟩ := hrefresh hr
    cases hresult
    exact ⟨rfl, rfl⟩
  | precompiled hr => cases (hrefresh hr).1
  | unheld hr => cases (hrefresh hr).1
  | executed hr => cases (hrefresh hr).1

end Entry

/-! ## Engines that have ended -/

namespace Engine

/-- Nothing is loaded any more, and what there was is retired. -/
structure Ended (s : Engine σ κ α) : Prop extends s.Down where
  retired : ∀ {handle e}, s.cache.entry? handle = some e → e.destroyed = true ∧ e.held = none

/-- The engine has ended, and is as before up to its log, its count, marks and the store. -/
structure Rests (s : Engine σ κ α) (store : σ) (s' : Engine σ κ α) : Prop where
  ended : s'.Ended
  length_eq : s'.cache.entries.length = s.cache.entries.length
  compiler_eq : s'.backend.compiler = s.backend.compiler
  store_eq : s'.backend.store = store

variable {setup : Setup σ κ α} {s s' : Engine σ κ α}

theorem Rests.trans {s₁ : Engine σ κ α} {store store' : σ} (h : Rests s store s₁)
    (h' : Rests s₁ store' s') : Rests s store' s' :=
  ⟨h'.ended, h'.length_eq.trans h.length_eq, h'.compiler_eq.trans h.compiler_eq, h'.store_eq⟩

theorem Ended.note (h : s.Ended) (events : List Log.Event) :
    Rests s s.backend.store (s.note events) := ⟨⟨⟨h.closed, h.unloaded⟩, h.retired⟩, rfl, rfl, rfl⟩

/-- Marks can still be set on its entries. -/
theorem Ended.markForReload (h : s.Ended) (handle : Handle) :
    Rests s s.backend.store (s.markForReload handle) := by
  unfold Engine.markForReload
  cases hentry : s.cache.entry? handle with
  | none =>
    rw [onEntry_none hentry]
    exact ⟨h, rfl, rfl, rfl⟩
  | some e =>
    rw [onEntry_some hentry]
    refine ⟨⟨⟨h.closed, h.unloaded⟩, fun {other e'} hother => ?_⟩, ?_, rfl, rfl⟩
    · rw [putBack_cache, Cache.entry?_set hentry] at hother
      split at hother
      next =>
        cases hother
        obtain ⟨hdead, hunheld⟩ := h.retired hentry
        exact ⟨hdead, hunheld⟩
      next => exact h.retired hother
    · exact List.length_set

/-- After a teardown no entry is handed out. -/
theorem Asked.of_down {ask : StateM σ Bool} {identity : Identity} {isErrorPage : Bool}
    {result : Except Failure Handle} (h : s.Down)
    (hasked : Asked ask identity isErrorPage s result s') :
    result = .error .shutDown ∧ ∃ events, s' = s.note events := by
  cases hasked with
  | admitted _ hadm => exact (h.not_admitted hadm).elim
  | refused events => exact ⟨rfl, events, rfl⟩
  | missing _ _ hopen =>
    rw [h.closed] at hopen
    cases hopen

/-- A teardown of a closed engine finds nothing to release. -/
theorem teardown_of_closed (setup : Setup σ κ α) (hclosed : s.cache.closed = true) :
    ∃ events, s.teardown setup = (⟨0, 0⟩, s.note events) := by
  have hclose : s.onCache Cache.close = ([], s) := by
    unfold onCache Cache.close
    rw [if_pos hclosed]
  unfold teardown
  rw [hclose]
  exact ⟨_, rfl⟩

/-- A teardown brings the engine to its end, if all entries that are not taken down yet are
listed. -/
theorem teardown_ended (setup : Setup σ κ α) (hlisted : s.Listed)
    (h : s.cache.closed = true → s.Ended) : (s.teardown setup).2.Ended := by
  cases hcache : s.cache.closed with
  | true =>
    obtain ⟨events, heq⟩ := teardown_of_closed setup hcache
    rw [heq]
    exact ((h hcache).note events).ended
  | false =>
    refine ⟨teardown_down setup hcache, fun {handle e} hentry => ?_⟩
    obtain ⟨before, rfl⟩ := teardown_retired setup hlisted hcache e (List.mem_of_getElem? hentry)
    exact ⟨rfl, rfl⟩

end Engine

namespace Dispatcher

open Engine

section

variable {d : Dispatcher σ κ α} {now : Nat} {request : Request} {s s' : Engine σ κ α}

/-- After a teardown, serving a template does no more than write into the log. -/
theorem Served.noted_of_down {setup : Setup σ κ α} {identity : Identity} {precompile : Bool}
    {error : Option String} {answer : Except Failure Response} (h : s.Down)
    (hserved : Served setup now request identity precompile error s answer s') :
    ∃ events, s' = s.note events := by
  cases hserved with
  | refused events => exact ⟨events, rfl⟩
  | missing _ _ hopen =>
    rw [h.closed] at hopen
    cases hopen
  | lost _ hadm => exact (h.not_admitted hadm).elim
  | answered _ _ hadm => exact (h.not_admitted hadm).elim

theorem Examined.noted_of_down {answer : Except Failure Response} (h : s.Down)
    (hservice : Examined d now request s answer s') : ∃ events, s' = s.note events := by
  cases hservice with
  | refused events => exact ⟨events, rfl⟩
  | served _ hserved => exact hserved.noted_of_down h

theorem Shown.noted_of_down {failure : Failure} {response : Response} (h : s.Down)
    (hshown : Shown d now request s failure response s') : ∃ events, s' = s.note events := by
  cases hshown with
  | plain events => exact ⟨events, rfl⟩
  | paged events _ _ hserved =>
    obtain ⟨events', rfl⟩ := hserved.noted_of_down h
    exact ⟨_, note_note s events' events⟩

end

variable (d : Dispatcher σ κ α) {s : Engine σ κ α}

/-- After the end a request fails with the last failure, and the engine rests. -/
theorem service_last (h : s.Ended) (now : Nat) (request : Request) :
    (d.service now request s).1 = .error request.lastFailure ∧
      Rests s s.backend.store (d.service now request s).2 := by
  have hservice := service_cases d now request s
  obtain ⟨events, heq⟩ := hservice.noted_of_down h.toDown
  rw [heq]
  refine ⟨?_, h.note events⟩
  rw [hservice.of_down h.toDown]
  unfold Request.lastFailure
  cases examine request <;> rfl

theorem respond_last (h : s.Ended) (now : Nat) (request : Request) :
    (d.respond now request s).1 =
        .plain request.lastFailure.status request.lastFailure.message ∧
      Rests s s.backend.store (d.respond now request s).2 := by
  obtain ⟨hanswer, hrests⟩ := d.service_last h now request
  unfold respond
  rcases hrun : d.service now request s with ⟨failure | response, s₁⟩
  · rw [hrun] at hanswer hrests
    cases hanswer
    have hdown := hrests.ended.toDown
    have hshown := errorResponse_cases d now request s₁ request.lastFailure
    obtain ⟨events, heq⟩ := hshown.noted_of_down hdown
    refine ⟨hshown.of_down hdown, hrests.trans ?_⟩
    rw [heq, ← hrests.store_eq]
    exact hrests.ended.note events
  · rw [hrun] at hanswer
    cases hanswer

/-- A handle that was handed out before leads to an entry that refuses. -/
theorem enter_last (h : s.Ended) (handle : Handle) (now : Nat) (request : Request)
    (precompile : Bool) (error : Option String) :
    s.onEntry handle (Entry.service d.setup now request precompile error).run =
      (if handle < s.cache.entries.length then some (.error .shutDown) else none, s) := by
  cases hentry : s.cache.entry? handle with
  | none =>
    rw [onEntry_none hentry, if_neg (Nat.not_lt.mpr (List.getElem?_eq_none_iff.mp hentry))]
  | some e =>
    -- an entry that was made before holds nothing and compiles nothing
    obtain ⟨hdead, hunheld⟩ := h.retired hentry
    have hserv := Entry.service_cases d.setup now request precompile error ⟨e, s.backend⟩
    obtain ⟨hanswer, hfocus⟩ := hserv.of_retired hdead hunheld
    rw [onEntry_some hentry, hanswer, hfocus, putBack_self hentry,
      if_pos (List.getElem?_eq_some_iff.mp hentry).1]

variable (apply : χ → σ → σ)

/-- **A call to an engine that has ended** is replied to as the last one, and uses nothing. -/
theorem call_of_ended (h : s.Ended) (call : Call σ χ) :
    (d.call apply call s).1 = call.lastReply s.cache.entries.length ∧
      Rests s (call.change apply s.backend.store) (d.call apply call s).2 := by
  cases call with
  | step step =>
    cases step with
    | change c => exact ⟨rfl, ⟨⟨h.closed, h.unloaded⟩, h.retired⟩, rfl, rfl, rfl⟩
    | mark handle => exact ⟨rfl, h.markForReload handle⟩
    | setReloads count => exact ⟨rfl, ⟨⟨h.closed, h.unloaded⟩, h.retired⟩, rfl, rfl, rfl⟩
    | service now request =>
      obtain ⟨hanswer, hrests⟩ := d.service_last h now request
      exact ⟨congrArg (Reply.stepped ∘ Answer.serviced) hanswer, hrests⟩
    | respond now request =>
      obtain ⟨hanswer, hrests⟩ := d.respond_last h now request
      exact ⟨congrArg (Reply.stepped ∘ Answer.responded) hanswer, hrests⟩
  | create identity isErrorPage ask =>
    -- a closed cache lets nobody in
    have hasked := getOrCreate_cases ask identity isErrorPage s []
    dsimp only at hasked
    rw [note_nil] at hasked
    obtain ⟨hresult, events, heq⟩ := hasked.of_down h.toDown
    refine ⟨congrArg Reply.admitted hresult, ?_⟩
    show Rests s s.backend.store ((getOrCreate identity isErrorPage (onStore ask)).run s).2
    rw [heq]
    exact h.note events
  | enter handle now request precompile error =>
    -- the handle is from before the teardown, or leads nowhere
    have henter := d.enter_last h handle now request precompile error
    refine ⟨congrArg Reply.entered (congrArg Prod.fst henter), ?_⟩
    show Rests s s.backend.store
      (s.onEntry handle (Entry.service d.setup now request precompile error).run).2
    rw [henter]
    exact ⟨h, rfl, rfl, rfl⟩
  | teardown =>
    -- there is nothing left to take down
    obtain ⟨events, heq⟩ := teardown_of_closed d.setup h.closed
    refine ⟨congrArg Reply.tornDown (congrArg Prod.fst heq), ?_⟩
    show Rests s s.backend.store (s.teardown d.setup).2
    rw [heq]
    exact h.note events

/-- After the end every call has its last reply, and only the store goes on. -/
theorem calls_of_ended (h : s.Ended) (calls : List (Call σ χ)) :
    (d.calls apply calls s).1 = calls.map (Call.lastReply s.cache.entries.length) ∧
      Rests s (Call.changes apply calls s.backend.store) (d.calls apply calls s).2 := by
  induction calls generalizing s with
  | nil => exact ⟨rfl, h, rfl, rfl, rfl⟩
  | cons call calls ih =>
    -- the store is the only thing that the call may have changed
    obtain ⟨hreply, hrests⟩ := d.call_of_ended apply h call
    obtain ⟨hreplies, hrests'⟩ := ih hrests.ended
    rw [hrests.length_eq] at hreplies
    rw [hrests.store_eq] at hrests'
    exact ⟨List.cons_eq_cons.mpr ⟨hreply, hreplies⟩, hrests.trans hrests'⟩

/-- Only the teardown closes a cache, so every closed engine has ended. -/
theorem calls_ended (hlisted : s.Listed) (h : s.cache.closed = true → s.Ended)
    (calls : List (Call σ χ)) (hclosed : (d.calls apply calls s).2.cache.closed = true) :
    (d.calls apply calls s).2.Ended := by
  induction calls generalizing s with
  | nil => exact h hclosed
  | cons call calls ih =>
    refine ih (Turns.listed hlisted (call_turns d s apply call)) (fun hcall => ?_) hclosed
    show (d.call apply call s).2.Ended
    replace hcall : (d.call apply call s).2.cache.closed = true := hcall
    by_cases hdown : call = .teardown
    · subst hdown
      exact teardown_ended d.setup hlisted h
    · rw [call_closed_eq d s apply hdown] at hcall
      exact (d.call_of_ended apply (h hcall) call).2.ended

/-- Once there was a teardown, the engine has ended. -/
theorem ended_of_teardown (early : List (Call σ χ)) (store : σ) (compiler : κ) :
    (d.calls apply (early ++ [.teardown]) (.start store compiler)).2.Ended := by
  have hclosed := (d.calls_closed_iff (.start store compiler) apply (early ++ [.teardown])).mpr
    (.inr (List.mem_append_right early List.mem_cons_self))
  exact d.calls_ended apply (fun _ => rfl) (fun hstart => by cases hstart) _ hclosed

end Dispatcher

/-- **The teardown is final.** Whatever was done before it, and whatever is done after it, again and
again, over any store and any compiler:

* every call is replied to by its last reply, which is a failure for all that asks for an answer or
  an entry, by a handle from before as well, and the empty report for another teardown;
* nothing is loaded, the compiler stays as it is, and the store changes only as it is changed from
  outside; if their uses are recorded, the records do not grow;
* the failure of a request is that its path names no template, that its directive is malformed, or
  else that the runtime was torn down, and is answered under its status. -/
theorem teardown_final (setup : Setup σ κ α) (page : Option Identity) (apply : χ → σ → σ)
    (store : σ) (compiler : κ) (early late : List (Call σ χ)) :
    let torn : List (Call σ χ) := early ++ [.teardown]
    let d : Dispatcher σ κ α := ⟨setup, page⟩
    let s := (d.calls apply torn (.start store compiler)).2
    let done := d.calls apply late s
    let recording : Dispatcher (σ × List Question) (κ × List (Job α)) α := ⟨setup.recorded, page⟩
    let r := (recording.calls (Call.onRecorded apply) (torn.map Call.recorded)
      (.start (store, []) (compiler, []))).2
    let done' := (recording.calls (Call.onRecorded apply) (late.map Call.recorded) r).2
    done.1 = late.map (Call.lastReply s.cache.entries.length) ∧
    (done.2.loadedCount = 0 ∧ done.2.backend.compiler = s.backend.compiler ∧
      done.2.backend.store = Call.changes apply late s.backend.store) ∧
    (done'.backend.store.2 = r.backend.store.2 ∧
      done'.backend.compiler.2 = r.backend.compiler.2) ∧
    ∀ request : Request,
      (∃ reason, request.resolve = .error (.identityResolution reason) ∧
        request.lastFailure = .identityResolution reason ∧ request.lastFailure.status = 500) ∨
      (∃ identity name value, request.resolve = .ok identity ∧
        Directive.detect request.query = .error (.malformedDirective name value) ∧
        request.lastFailure = .malformedDirective name value ∧
        request.lastFailure.status = 400) ∨
      ∃ identity precompile, request.resolve = .ok identity ∧
        Directive.detect request.query = .ok precompile ∧ request.lastFailure = .shutDown ∧
        request.lastFailure.status = 503 := by
  intro torn d s done recording r done'
  have hended : s.Ended := d.ended_of_teardown apply early store compiler
  have htorn : torn.map Call.recorded = early.map Call.recorded ++ [Call.teardown] :=
    List.map_append
  have hr : r = (recording.calls (Call.onRecorded apply)
      (early.map Call.recorded ++ [Call.teardown]) (.start (store, []) (compiler, []))).2 := by
    rw [← htorn]
  have hended' : r.Ended := by
    rw [hr]
    exact recording.ended_of_teardown _ _ _ _
  obtain ⟨hreplies, hrests⟩ := d.calls_of_ended apply hended late
  obtain ⟨-, hrests'⟩ := recording.calls_of_ended (Call.onRecorded apply) hended'
    (late.map Call.recorded)
  refine ⟨hreplies, ⟨?_, hrests.compiler_eq, hrests.store_eq⟩, ⟨?_, ?_⟩, fun request => ?_⟩
  · show done.2.cache.index.length = 0
    rw [show done.2.cache.index = [] from hrests.ended.unloaded]
    rfl
  · show done'.backend.store.2 = r.backend.store.2
    rw [show done'.backend.store = _ from hrests'.store_eq]
    exact Call.changes_recorded apply late r.backend.store
  · exact congrArg Prod.snd hrests'.compiler_eq
  · rcases request.lastFailure_cases with ⟨reason, hresolve, hlast⟩ |
      ⟨identity, name, value, hresolve, hdetect, hlast⟩ |
      ⟨identity, precompile, hresolve, hdetect, hlast⟩
    · exact .inl ⟨reason, hresolve, hlast, by rw [hlast]; rfl⟩
    · exact .inr (.inl ⟨identity, name, value, hresolve, hdetect, hlast, by rw [hlast]; rfl⟩)
    · exact .inr (.inr ⟨identity, precompile, hresolve, hdetect, hlast, by rw [hlast]; rfl⟩)

/-- An entry whose handle was kept, a page that was compiled, and marks make no difference. -/
example :
    let p : Identity := ⟨[⟨['p'], by decide⟩], by simp⟩
    let d : Dispatcher Memory Echo.Counts String :=
      ⟨⟨Memory.store, Echo.compiler, ⟨true, 0⟩⟩, some p⟩
    let early : List (Call Memory Edit) :=
      [.step (.change (.put p "v1")), .step (.respond 0 (.forPath "/p")), .step (.mark 0)]
    let late : List (Call Memory Edit) :=
      [.enter 0 1 (.forPath "/p") true none, .step (.respond 1 (.forPath "/p")),
        .step (.respond 1 (.forPath "/..")), .teardown]
    let s := (d.calls Edit.onMemory (early ++ [.teardown]) (.start .empty .zero)).2
    (d.calls Edit.onMemory late s).1 =
      [.entered (some (.error .shutDown)),
        .stepped (.responded (.plain 503 "Template runtime is shut down")),
        .stepped (.responded
          (.plain 500 "Cannot resolve template identity: path '/..' escapes the document root")),
        .tornDown ⟨0, 0⟩] := rfl

end TemplateServer
