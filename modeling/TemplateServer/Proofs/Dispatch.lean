import TemplateServer.Dispatch
import TemplateServer.Proofs.Action

/-!
# How a request goes through the engine

`Served` says once, for any store and any compiler, in which ways the request for the entry of an
identity can end: the cache is closed, or there is no source, or the entry that was there or has
just been made (`Admitted`) answers. Each way tells the engine that is left behind, up to what is
noted in the log. On this rest the ways of `service` (`Examined`), of an answer to a failure
(`Shown`) and of `respond` (`Responded`). What holds of requests is proved by cases over these ways.
-/

namespace TemplateServer

open TemplateServer.Action

variable {σ κ α β : Type}

namespace Engine

/-- The same with another state of the store. -/
def withStore (store : σ) (s : Engine σ κ α) : Engine σ κ α :=
  { s with backend := { s.backend with store := store } }

/-- The same with one more entry, which is loaded. -/
def load (identity : Identity) (isErrorPage : Bool) (s : Engine σ κ α) : Engine σ κ α :=
  { s with cache := (s.cache.insert identity isErrorPage).2 }

/-- The same after the entry behind a handle has done something. -/
def putBack (handle : Handle) (focus : Entry.Focus σ κ α) (s : Engine σ κ α) : Engine σ κ α :=
  ⟨s.cache.set handle focus.entry, focus.backend⟩

section

variable (s : Engine σ κ α)

@[simp] theorem note_cache (events : List Log.Event) : (s.note events).cache = s.cache := rfl

@[simp] theorem note_store (events : List Log.Event) :
    (s.note events).backend.store = s.backend.store := rfl

@[simp] theorem note_nil : s.note [] = s := by
  unfold note Backend.note
  rw [List.append_nil]

@[simp] theorem note_note (events events' : List Log.Event) :
    (s.note events).note events' = s.note (events ++ events') := by
  unfold note Backend.note
  rw [List.append_assoc]

@[simp] theorem withStore_cache (store : σ) : (s.withStore store).cache = s.cache := rfl

@[simp] theorem withStore_store (store : σ) : (s.withStore store).backend.store = store := rfl

@[simp] theorem load_cache (identity : Identity) (isErrorPage : Bool) :
    (s.load identity isErrorPage).cache = (s.cache.insert identity isErrorPage).2 := rfl

@[simp] theorem putBack_cache (handle : Handle) (focus : Entry.Focus σ κ α) :
    (s.putBack handle focus).cache = s.cache.set handle focus.entry := rfl

@[simp] theorem putBack_backend (handle : Handle) (focus : Entry.Focus σ κ α) :
    (s.putBack handle focus).backend = focus.backend := rfl

theorem onStore_eq (ask : StateM σ β) :
    s.onStore ask = ((ask s.backend.store).1, s.withStore (ask s.backend.store).2) := rfl

end

section

variable {s : Engine σ κ α} {handle : Handle} {act : Entry.Focus σ κ α → β × Entry.Focus σ κ α}

/-- Where there is no entry, nothing is done. -/
theorem onEntry_none (hentry : s.cache.entry? handle = none) :
    s.onEntry handle act = (none, s) := by
  unfold onEntry
  rw [hentry]

/-- An entry acts on itself and on the backend. -/
theorem onEntry_some {e : Entry α} (hentry : s.cache.entry? handle = some e) :
    s.onEntry handle act =
      (some (act ⟨e, s.backend⟩).1, s.putBack handle (act ⟨e, s.backend⟩).2) := by
  unfold onEntry
  rw [hentry]
  rfl

end

/-- An entry that has done nothing is put back as it was. -/
theorem putBack_self {s : Engine σ κ α} {handle : Handle} {e : Entry α}
    (hentry : s.cache.entry? handle = some e) : s.putBack handle ⟨e, s.backend⟩ = s := by
  obtain ⟨hlt, rfl⟩ := List.getElem?_eq_some_iff.mp
    (show s.cache.entries[handle]? = some e from hentry)
  unfold putBack Cache.set
  rw [List.set_getElem_self]

/-- Of what an entry has come to only the last counts. -/
theorem putBack_putBack (handle : Handle) (focus focus' : Entry.Focus σ κ α) (s : Engine σ κ α) :
    (s.putBack handle focus).putBack handle focus' = s.putBack handle focus' := by
  unfold putBack Cache.set
  dsimp only
  rw [List.set_set]

section

variable (ask : StateM σ Bool) (identity : Identity) (isErrorPage : Bool) (s : Engine σ κ α)

/-- The entry that a request gets, and the engine that it is in then. `ask` is the question whether
there is a source. -/
inductive Admitted : Handle → Engine σ κ α → Prop
  /-- The entry was there. -/
  | present {handle : Handle} (hlookup : s.cache.lookup identity = some handle) :
      Admitted handle s
  /-- The entry was made, since there is a source. -/
  | created {store : σ} (hlookup : s.cache.lookup identity = none)
      (hopen : s.cache.closed = false) (hask : ask s.backend.store = (true, store)) :
      Admitted s.cache.entries.length ((s.withStore store).load identity isErrorPage)

/-- The ways in which a request for an entry ends. -/
inductive Asked : Except Failure Handle → Engine σ κ α → Prop
  | admitted {handle : Handle} {s' : Engine σ κ α} (events : List Log.Event)
      (hadm : Admitted ask identity isErrorPage s handle s') :
      Asked (.ok handle) (s'.note events)
  /-- There is no entry, and none is made any more. -/
  | refused (events : List Log.Event) (hlookup : s.cache.lookup identity = none)
      (hclosed : s.cache.closed = true) : Asked (.error .shutDown) (s.note events)
  /-- There is no entry and no source. -/
  | missing {store : σ} (events : List Log.Event) (hlookup : s.cache.lookup identity = none)
      (hopen : s.cache.closed = false) (hask : ask s.backend.store = (false, store)) :
      Asked (.error (.sourceNotFound identity.text)) ((s.withStore store).note events)

/-- The log does not concern the admission. -/
theorem getOrCreate_cases (events : List Log.Event) :
    let r := (getOrCreate identity isErrorPage (onStore ask)).run (s.note events)
    Asked ask identity isErrorPage s r.1 r.2 := by
  intro r
  have hr : r = (getOrCreate identity isErrorPage (onStore ask)).run (s.note events) := rfl
  unfold getOrCreate at hr
  rw [run_bind_ok (run_get _), note_cache] at hr
  unfold Cache.admission at hr
  cases hlookup : s.cache.lookup identity with
  | some handle =>
    -- the store is not asked about an entry that is there
    rw [hlookup] at hr
    rw [hr]
    exact .admitted events (.present hlookup)
  | none =>
    rw [hlookup] at hr
    dsimp only at hr
    cases hclosed : s.cache.closed with
    | true =>
      rw [hclosed, if_pos rfl] at hr
      rw [hr]
      exact .refused events hlookup hclosed
    | false =>
      rw [hclosed, if_neg (by simp)] at hr
      dsimp only at hr
      rw [run_bind, run_modifyGet, onStore_eq, note_store] at hr
      rcases hask : ask s.backend.store with ⟨_ | _, store⟩
      · rw [hask] at hr
        have hdone : r = (_, ((s.withStore store).note events).note _) := hr
        rw [hdone, note_note]
        exact .missing _ hlookup hclosed hask
      · rw [hask] at hr
        have hdone :
            r = (_, (((s.withStore store).load identity isErrorPage).note events).note _) := hr
        rw [hdone, note_note]
        exact .admitted _ (.created hlookup hclosed hask)

end

end Engine

namespace Dispatcher

open Engine

section

variable (setup : Setup σ κ α) (now : Nat) (request : Request) (identity : Identity)
  (precompile : Bool) (error : Option String) (s : Engine σ κ α)

/-- The ways in which a request for an identity ends, with the answer and the engine that it leaves
behind. -/
inductive Served : Except Failure Response → Engine σ κ α → Prop
  /-- There is no entry, and none is made any more. -/
  | refused (events : List Log.Event) (hlookup : s.cache.lookup identity = none)
      (hclosed : s.cache.closed = true) : Served (.error .shutDown) (s.note events)
  /-- There is no entry and no source. -/
  | missing {store : σ} (events : List Log.Event) (hlookup : s.cache.lookup identity = none)
      (hopen : s.cache.closed = false)
      (hhas : setup.store.has identity s.backend.store = (false, store)) :
      Served (.error (.sourceNotFound identity.text)) ((s.withStore store).note events)
  /-- The handle leads nowhere. -/
  | lost {handle : Handle} {s' : Engine σ κ α} (events : List Log.Event)
      (hadm : Admitted (setup.store.has identity) identity error.isSome s handle s')
      (hentry : s'.cache.entry? handle = none) : Served (.error .shutDown) (s'.note events)
  /-- The entry answers. -/
  | answered {handle : Handle} {s' : Engine σ κ α} {e : Entry α} {focus : Entry.Focus σ κ α}
      {answer : Except Failure Response} (events events' : List Log.Event)
      (hadm : Admitted (setup.store.has identity) identity error.isSome s handle s')
      (hentry : s'.cache.entry? handle = some e)
      (hserv : (Entry.service setup now request precompile error).run
        ⟨e, (s'.note events).backend⟩ = (answer, focus)) :
      Served answer ((s'.putBack handle focus).note events')

end

/-- **The ways of a request.** What was noted before does not matter. -/
theorem Served.of_run {d : Dispatcher σ κ α} {now : Nat} {request : Request} {identity : Identity}
    {precompile : Bool} {error : Option String} {s s' : Engine σ κ α} {events : List Log.Event}
    {answer : Except Failure Response}
    (hrun : (d.serviceIdentity now request identity precompile error).run (s.note events) =
      (answer, s')) :
    Served d.setup now request identity precompile error s answer s' := by
  unfold serviceIdentity at hrun
  rw [run_bind_ok (run_modify _ _), note_note] at hrun
  dsimp only at hrun
  have hget := getOrCreate_cases (d.setup.store.has identity) identity error.isSome s
    (events ++ [event .trace s!"CacheLookup {identity}"])
  dsimp only at hget
  rcases hask : (getOrCreate identity error.isSome (onStore (d.setup.store.has identity))).run
    (s.note (events ++ [event .trace s!"CacheLookup {identity}"])) with ⟨result, s₁⟩
  rw [hask] at hget
  cases hget with
  | refused events hlookup hclosed =>
    rw [run_bind_error hask] at hrun
    cases hrun
    exact .refused events hlookup hclosed
  | missing events hlookup hopen hhas =>
    rw [run_bind_error hask] at hrun
    cases hrun
    exact .missing events hlookup hopen hhas
  | @admitted handle s₁ events hadm =>
    rw [run_bind_ok hask, run_bind_ok (run_modify _ _), run_bind, run_modifyGet,
      show (⟨s₁.cache, s₁.backend.note events⟩ : Engine σ κ α) = s₁.note events from rfl,
      note_note] at hrun
    cases hentry : s₁.cache.entry? handle with
    | none =>
      rw [onEntry_none (by rw [note_cache]; exact hentry)] at hrun
      cases hrun
      exact .lost _ hadm hentry
    | some e =>
      rw [onEntry_some (by rw [note_cache]; exact hentry)] at hrun
      -- the entry is asked where the admission has left the engine, but for the log
      rcases hserv : (Entry.service d.setup now request precompile error).run
        ⟨e, (s₁.note (events ++ [event .trace s!"Dispatching {identity}"])).backend⟩
        with ⟨failure | response, focus⟩
      · rw [hserv] at hrun
        cases hrun
        have hanswered := Served.answered _ [] hadm hentry hserv
        rw [note_nil] at hanswered
        exact hanswered
      · rw [hserv] at hrun
        cases hrun
        have hanswered := Served.answered _
          [event .trace s!"Done {identity} -> {response.status}"] hadm hentry hserv
        exact hanswered

/-! ## Requests and responses -/

/-- A request that is refused unexamined has no template or a malformed directive. -/
theorem examine_error {request : Request} {failure : Failure}
    (h : examine request = .error failure) :
    request.resolve = .error failure ∨
      ∃ identity, request.resolve = .ok identity ∧
        Directive.detect request.query = .error failure := by
  unfold examine at h
  cases hresolve : request.resolve with
  | error failure' => rw [hresolve] at h; cases h; exact .inl rfl
  | ok identity =>
    rw [hresolve] at h
    cases hdetect : Directive.detect request.query with
    | error failure' => rw [hdetect] at h; cases h; exact .inr ⟨identity, rfl, rfl⟩
    | ok precompile => rw [hdetect] at h; cases h

/-- A request that is examined names a template, and says whether it is to be compiled only. -/
theorem examine_ok {request : Request} {identity : Identity} {precompile : Bool}
    (h : examine request = .ok (identity, precompile)) :
    request.resolve = .ok identity ∧ Directive.detect request.query = .ok precompile := by
  unfold examine at h
  cases hresolve : request.resolve with
  | error failure => rw [hresolve] at h; cases h
  | ok identity' =>
    rw [hresolve] at h
    cases hdetect : Directive.detect request.query with
    | error failure => rw [hdetect] at h; cases h
    | ok precompile' => rw [hdetect] at h; cases h; exact ⟨rfl, rfl⟩

section

variable (d : Dispatcher σ κ α) (now : Nat) (request : Request) (s : Engine σ κ α)

/-- The ways in which a request is serviced. -/
inductive Examined : Except Failure Response → Engine σ κ α → Prop
  /-- A request that cannot be examined touches the log only. -/
  | refused {failure : Failure} (events : List Log.Event)
      (hexamine : examine request = .error failure) : Examined (.error failure) (s.note events)
  /-- Any other request is one for its identity. -/
  | served {identity : Identity} {precompile : Bool} {answer : Except Failure Response}
      {s' : Engine σ κ α} (hexamine : examine request = .ok (identity, precompile))
      (hserved : Served d.setup now request identity precompile none s answer s') :
      Examined (answer.mapError (named identity)) s'

theorem service_cases :
    Examined d now request s (d.service now request s).1 (d.service now request s).2 := by
  unfold service
  dsimp only
  cases hexamine : examine request with
  | error failure => exact .refused _ hexamine
  | ok examined =>
    obtain ⟨identity, precompile⟩ := examined
    dsimp only
    split
    next hrun => exact .served hexamine (.of_run hrun)
    next hrun => exact .served hexamine (.of_run hrun)

/-- What a failure is shown as, if the page answers. -/
def shownAs (failure : Failure) : Except Failure Response → Response
  | .ok response => { response with status := failure.status }
  | .error _ => .plain failure.status failure.message

/-- The ways in which a failure is answered. -/
inductive Shown (failure : Failure) : Response → Engine σ κ α → Prop
  /-- A failure of the caller's, or one that there is no page for, touches the log only. -/
  | plain (events : List Log.Event) (hplain : failure.isClientError = true ∨ d.errorPage = none) :
      Shown failure (.plain failure.status failure.message) (s.note events)
  /-- Any other failure is a request for the page. -/
  | paged {page : Identity} {answer : Except Failure Response} {s' : Engine σ κ α}
      (events : List Log.Event) (hserver : failure.isClientError = false)
      (hpage : d.errorPage = some page)
      (hserved : Served d.setup now request page false (some failure.message) s answer s') :
      Shown failure (shownAs failure answer) (s'.note events)

theorem errorResponse_cases (failure : Failure) :
    Shown d now request s failure (d.errorResponse now request failure s).1
      (d.errorResponse now request failure s).2 := by
  unfold errorResponse
  dsimp only
  cases hclient : failure.isClientError with
  | true =>
    rw [if_pos rfl]
    exact .plain _ (.inl hclient)
  | false =>
    rw [if_neg (by simp)]
    cases hpage : d.errorPage with
    | none => exact .plain _ (.inr hpage)
    | some page =>
      dsimp only
      split
      next response s' hrun =>
        have hshown : Shown d now request s failure { response with status := failure.status }
          (s'.note []) := .paged [] hclient hpage (.of_run hrun)
        rw [note_nil] at hshown
        exact hshown
      next hrun => exact .paged _ hclient hpage (.of_run hrun)

/-- The ways in which a request is responded to. -/
inductive Responded : Response → Engine σ κ α → Prop
  | answered {response : Response} {s' : Engine σ κ α}
      (hservice : Examined d now request s (.ok response) s') : Responded response s'
  | failed {failure : Failure} {response : Response} {s₁ s' : Engine σ κ α}
      (hservice : Examined d now request s (.error failure) s₁)
      (hshown : Shown d now request s₁ failure response s') : Responded response s'

theorem respond_cases :
    Responded d now request s (d.respond now request s).1 (d.respond now request s).2 := by
  have hservice := service_cases d now request s
  unfold respond
  split
  next response s' hrun => rw [hrun] at hservice; exact .answered hservice
  next failure s' hrun =>
    rw [hrun] at hservice
    exact .failed hservice (errorResponse_cases d now request s' failure)

/-- What was answered is the response. -/
theorem respond_of_service {response : Response} (h : (d.service now request s).1 = .ok response) :
    (d.respond now request s).1 = response := by
  unfold respond
  rcases hrun : d.service now request s with ⟨_ | answer, s'⟩
  · rw [hrun] at h; cases h
  · rw [hrun] at h; cases h; rfl

end

end Dispatcher

end TemplateServer
