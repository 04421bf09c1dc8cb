import TemplateServer.Proofs.Engine.Faithful
import TemplateServer.Proofs.Source.Moving

/-!
# Whole sessions

A session is a list of steps: the sources change, an entry is marked, the count of reloads is set,
a request is serviced or responded to. `Dispatcher.run` takes the steps with an engine and its
cache; `Contents.run` answers the same steps from the texts that there are at each moment, without
any cache.

Over a store that changes only by the steps, the two agree on every session: whoever asks cannot
tell that there is a cache. Over a store that changes on its own, they agree from the moment at
which it has settled, whatever had fallen between any two questions before.

Both come from one step. A step keeps `Cache.Sound` (`step_kept`), and where the store has settled
it answers what the texts say (`step_settled`); `run_kept` and `run_settled` are the same of
sessions.
-/

namespace TemplateServer

/-- A step of a session. -/
inductive Step (χ : Type)
  /-- The sources change. -/
  | change (change : χ)
  /-- A reload is asked for. -/
  | mark (handle : Handle)
  /-- The count of reloads is set. -/
  | setReloads (count : Nat)
  | service (now : Nat) (request : Request)
  | respond (now : Nat) (request : Request)

/-- What a step answers. -/
inductive Answer
  | nothing
  | serviced (result : Except Failure Response)
  | responded (response : Response)

namespace Dispatcher

variable {σ κ α χ : Type} (d : Dispatcher σ κ α) (apply : χ → σ → σ)

/-- Takes a step; `apply` is what a change makes of the store. -/
def step : Step χ → Engine σ κ α → Answer × Engine σ κ α
  | .change c, s =>
    (.nothing, { s with backend := { s.backend with store := apply c s.backend.store } })
  | .mark handle, s => (.nothing, s.markForReload handle)
  | .setReloads count, s => (.nothing, s.setReloadCount count)
  | .service now request, s =>
    let (result, s) := d.service now request s
    (.serviced result, s)
  | .respond now request, s =>
    let (response, s) := d.respond now request s
    (.responded response, s)

/-- Takes the steps of a session. -/
def run : List (Step χ) → Engine σ κ α → List Answer × Engine σ κ α
  | [], s => ([], s)
  | step :: steps, s =>
    let (answer, s) := d.step apply step s
    let (answers, s) := run steps s
    (answer :: answers, s)

end Dispatcher

namespace Contents

variable {χ : Type} (page : Option Identity) (apply : χ → Contents → Contents)

/-- The answer to a request. -/
def service (contents : Contents) (request : Request) : Except Failure Response :=
  match request.resolve with
  | .error failure => .error failure
  | .ok identity =>
    match Directive.detect request.query with
    | .error failure => .error failure
    | .ok precompile => contents.serve identity precompile none

/-- The response to a failure. One that is not the caller's is shown by the page, if there is a page
that can be shown. -/
def errorResponse (contents : Contents) (failure : Failure) : Response :=
  let plain := Response.plain failure.status failure.message
  if failure.isClientError then plain
  else
    match page with
    | none => plain
    | some page =>
      match contents.serve page false (some failure.message) with
      | .ok response => { response with status := failure.status }
      | .error _ => plain

/-- The response to a request. -/
def respond (contents : Contents) (request : Request) : Response :=
  match contents.service request with
  | .ok response => response
  | .error failure => contents.errorResponse page failure

/-- Takes a step; `apply` is what a change makes of the texts. -/
def step (contents : Contents) : Step χ → Answer × Contents
  | .change c => (.nothing, apply c contents)
  | .mark _ => (.nothing, contents)
  | .setReloads _ => (.nothing, contents)
  | .service _ request => (.serviced (contents.service request), contents)
  | .respond _ request => (.responded (contents.respond page request), contents)

/-- The answers to the steps of a session. -/
def run (contents : Contents) : List (Step χ) → List Answer
  | [] => []
  | step :: steps =>
    (contents.step page apply step).1 :: run (contents.step page apply step).2 steps

/-- A request that cannot be examined fails, whatever the contents are. -/
theorem service_unexamined (contents : Contents) {request : Request} {failure : Failure}
    (h : Dispatcher.examine request = .error failure) :
    contents.service request = .error failure := by
  unfold service
  rcases Dispatcher.examine_error h with hresolve | ⟨identity, hresolve, hdetect⟩
  · rw [hresolve]
  · rw [hresolve]
    dsimp only
    rw [hdetect]

/-- A request that is examined is served from the contents. -/
theorem service_examined (contents : Contents) {request : Request} {identity : Identity}
    {precompile : Bool} (h : Dispatcher.examine request = .ok (identity, precompile)) :
    contents.service request = contents.serve identity precompile none := by
  obtain ⟨hresolve, hdetect⟩ := Dispatcher.examine_ok h
  unfold service
  rw [hresolve]
  dsimp only
  rw [hdetect]

/-- A failure of a request that is answered by the texts has its name already. -/
theorem named_serve (contents : Contents) (identity named : Identity) (precompile : Bool)
    (error : Option String) {failure : Failure}
    (h : contents.serve identity precompile error = .error failure) :
    Dispatcher.named named failure = failure := by
  unfold serve at h
  split at h
  next => cases h; rfl
  next =>
    split at h
    next => cases h; rfl
    next =>
      split at h
      next => cases h
      next =>
        split at h
        next => cases h
        next => cases h

end Contents

namespace TimedStore

variable {σ χ : Type} (v : TimedStore σ) (apply : χ → σ → σ)

/-- The second state comes from the first by steps of the store itself and by changes. -/
inductive Evolves (s : σ) : σ → Prop
  | refl : Evolves s s
  | step {s' : σ} (h : Evolves s s') : Evolves s (v.step s')
  | change {s' : σ} (c : χ) (h : Evolves s s') : Evolves s (apply c s')

variable {v apply}

/-- What moves by itself evolves. -/
theorem Moves.evolves {s s' : σ} (h : v.Moves s s') : v.Evolves apply s s' := by
  induction h with
  | refl => exact .refl
  | step _ ih => exact ih.step

theorem Evolves.trans {s s' s'' : σ} (h : v.Evolves apply s s') (h' : v.Evolves apply s' s'') :
    v.Evolves apply s s'' := by
  induction h' with
  | refl => exact h
  | step _ ih => exact ih.step
  | change c _ ih => exact ih.change c

variable (v apply)

/-- Changes that go with the times of a store. -/
structure Admits : Prop where
  valid : ∀ c {s}, v.Valid s → v.Valid (apply c s)
  advances : ∀ c {s}, v.Valid s → v.Advances s (apply c s)

/-- Changes of a settled store that leave it settled, and do to the texts what `texts` says. -/
structure Tracks (texts : χ → Contents → Contents) : Prop extends v.Admits apply where
  settled : ∀ c {s}, v.Settled s → v.Settled (apply c s)
  contents : ∀ c {s}, v.Settled s → v.contents (apply c s) = texts c (v.contents s)

end TimedStore

namespace Dispatcher

variable {σ : Type} {v : TimedStore σ} {s : Engine σ Echo.Counts String}

/-- The dispatcher over a store with times, whose artifacts echo their sources. -/
def echoing (v : TimedStore σ) (options : Options) (page : Option Identity) :
    Dispatcher σ Echo.Counts String := ⟨Echo.over v options, page⟩

/-- The store has moved on, and the cache is sound for it. -/
def Kept (v : TimedStore σ) (s s' : Engine σ Echo.Counts String) : Prop :=
  v.Moves s.backend.store s'.backend.store ∧ Cache.Sound v s'.cache s'.backend.store

theorem Kept.trans {s' s'' : Engine σ Echo.Counts String} (h : Kept v s s') (h' : Kept v s' s'') :
    Kept v s s'' := ⟨h.1.trans h'.1, h'.2⟩

section

variable {options : Options} {page : Option Identity} {now : Nat} {request : Request}
  {s' : Engine σ Echo.Counts String}

/-! ## Requests keep the cache sound -/

/-- A request keeps every entry true to the store. -/
theorem Examined.kept {answer : Except Failure Response}
    (h : Cache.Sound v s.cache s.backend.store)
    (hservice : Examined (echoing v options page) now request s answer s') : Kept v s s' := by
  cases hservice with
  | refused => exact ⟨.refl, h⟩
  | served _ hserved => exact hserved.kept h

theorem Shown.kept {failure : Failure} {response : Response}
    (h : Cache.Sound v s.cache s.backend.store)
    (hshown : Shown (echoing v options page) now request s failure response s') : Kept v s s' := by
  cases hshown with
  | plain => exact ⟨.refl, h⟩
  | paged _ _ _ hserved =>
    obtain ⟨hmoves, hsound⟩ := hserved.kept h
    exact ⟨hmoves, hsound⟩

theorem Responded.kept {response : Response} (h : Cache.Sound v s.cache s.backend.store)
    (hrespond : Responded (echoing v options page) now request s response s') : Kept v s s' := by
  cases hrespond with
  | answered hservice => exact hservice.kept h
  | failed hservice hshown =>
    have hkept := hservice.kept h
    exact hkept.trans (hshown.kept hkept.2)

/-! ## Requests to a settled store -/

/-- Where the store has settled, a request is answered from its contents. -/
theorem Examined.settled {answer : Except Failure Response}
    (h : Cache.Sound v s.cache s.backend.store) (hset : v.Settled s.backend.store)
    (hservice : Examined (echoing v .eager page) now request s answer s') :
    answer = (v.contents s.backend.store).service request := by
  cases hservice with
  | refused _ hexamine => exact (Contents.service_unexamined _ hexamine).symm
  | @served identity precompile _ _ hexamine hserved =>
    rw [Contents.service_examined _ hexamine, hserved.settled h hset]
    -- the failures that the texts lead to are not renamed
    cases hserve : (v.contents s.backend.store).serve identity precompile none with
    | error failure => exact congrArg Except.error (Contents.named_serve _ _ identity _ _ hserve)
    | ok response => rfl

/-- The response to a failure, by the texts that there are. -/
theorem Shown.settled {failure : Failure} {response : Response}
    (h : Cache.Sound v s.cache s.backend.store) (hset : v.Settled s.backend.store)
    (hshown : Shown (echoing v .eager page) now request s failure response s') :
    response = (v.contents s.backend.store).errorResponse page failure := by
  unfold Contents.errorResponse
  dsimp only
  cases hshown with
  | plain _ hplain =>
    rcases hplain with hclient | hpage
    · rw [if_pos hclient]
    · rw [show page = none from hpage]
      split <;> rfl
  | @paged shown _ _ _ hserver hpage hserved =>
    rw [hserver, show page = some shown from hpage, hserved.settled h hset]
    rfl

theorem Responded.settled {response : Response} (h : Cache.Sound v s.cache s.backend.store)
    (hset : v.Settled s.backend.store)
    (hrespond : Responded (echoing v .eager page) now request s response s') :
    response = (v.contents s.backend.store).respond page request := by
  unfold Contents.respond
  cases hrespond with
  | answered hservice => rw [← hservice.settled h hset]
  | failed hservice hshown =>
    -- the page is served after the request has failed, from the same texts
    obtain ⟨hmoves, hsound⟩ := hservice.kept h
    rw [← hservice.settled h hset, hshown.settled hsound (hmoves.settled hset),
      hmoves.contents hset]

end

/-! ## Steps and sessions -/

section

variable {χ : Type} {apply : χ → σ → σ} {texts : χ → Contents → Contents} (page : Option Identity)

/-- A mark keeps every entry true to the store. -/
theorem marked_kept (handle : Handle) (h : Cache.Sound v s.cache s.backend.store) :
    (s.markForReload handle).backend.store = s.backend.store ∧
      Cache.Sound v (s.markForReload handle).cache s.backend.store := by
  unfold Engine.markForReload Engine.onEntry
  split
  next => exact ⟨rfl, h⟩
  next e hentry => exact ⟨rfl, h.set hentry rfl (h.faithful hentry).marked⟩

/-- A step keeps the cache sound. -/
theorem step_kept (options : Options) (happly : v.Admits apply) (step : Step χ)
    (h : Cache.Sound v s.cache s.backend.store) :
    let s' := ((echoing v options page).step apply step s).2
    v.Evolves apply s.backend.store s'.backend.store ∧ Cache.Sound v s'.cache s'.backend.store := by
  intro s'
  cases step with
  | change c =>
    exact ⟨.change c .refl, h.advance (happly.valid c h.valid) (happly.advances c h.valid)⟩
  | mark handle =>
    obtain ⟨hstore, hsound⟩ := marked_kept handle h
    have hstore' : s'.backend.store = s.backend.store := hstore
    rw [hstore']
    exact ⟨.refl, hsound⟩
  | setReloads count => exact ⟨.refl, h⟩
  | service now request =>
    obtain ⟨hmoves, hsound⟩ := (service_cases (echoing v options page) now request s).kept h
    exact ⟨hmoves.evolves, hsound⟩
  | respond now request =>
    obtain ⟨hmoves, hsound⟩ := (respond_cases (echoing v options page) now request s).kept h
    exact ⟨hmoves.evolves, hsound⟩

/-- A session keeps the cache sound. -/
theorem run_kept (options : Options) (happly : v.Admits apply) (steps : List (Step χ))
    (h : Cache.Sound v s.cache s.backend.store) :
    let s' := ((echoing v options page).run apply steps s).2
    v.Evolves apply s.backend.store s'.backend.store ∧ Cache.Sound v s'.cache s'.backend.store := by
  induction steps generalizing s with
  | nil => exact ⟨.refl, h⟩
  | cons step steps ih =>
    obtain ⟨hevolves, hsound⟩ := step_kept page options happly step h
    obtain ⟨hevolves', hsound'⟩ := ih hsound
    exact ⟨hevolves.trans hevolves', hsound'⟩

/-- A step over a settled store answers what the texts say, and changes them as it should. -/
theorem step_settled (happly : v.Tracks apply texts) (step : Step χ)
    (h : Cache.Sound v s.cache s.backend.store) (hset : v.Settled s.backend.store) :
    let r := (echoing v .eager page).step apply step s
    v.Settled r.2.backend.store ∧
      (r.1, v.contents r.2.backend.store) =
        (v.contents s.backend.store).step page texts step := by
  intro r
  cases step with
  | change c =>
    refine ⟨happly.settled c hset, ?_⟩
    exact Prod.ext rfl (happly.contents c hset)
  | mark handle =>
    obtain ⟨hstore, -⟩ := marked_kept handle h
    have hstore' : r.2.backend.store = s.backend.store := hstore
    rw [hstore']
    exact ⟨hset, rfl⟩
  | setReloads count => exact ⟨hset, rfl⟩
  | service now request =>
    have hservice := service_cases (echoing v .eager page) now request s
    obtain ⟨hmoves, -⟩ := hservice.kept h
    refine ⟨hmoves.settled hset, Prod.ext ?_ (hmoves.contents hset)⟩
    exact congrArg Answer.serviced (hservice.settled h hset)
  | respond now request =>
    have hrespond := respond_cases (echoing v .eager page) now request s
    obtain ⟨hmoves, -⟩ := hrespond.kept h
    refine ⟨hmoves.settled hset, Prod.ext ?_ (hmoves.contents hset)⟩
    exact congrArg Answer.responded (hrespond.settled h hset)

/-- **The cache cannot be seen.** Over a settled store a session answers what the texts say at each
of its steps. -/
theorem run_settled (happly : v.Tracks apply texts) (steps : List (Step χ))
    (h : Cache.Sound v s.cache s.backend.store) (hset : v.Settled s.backend.store) :
    ((echoing v .eager page).run apply steps s).1 =
      (v.contents s.backend.store).run page texts steps := by
  -- the induction is on the steps, for every engine whose cache is sound
  induction steps generalizing s with
  | nil => rfl
  | cons step steps ih =>
    obtain ⟨-, hsound⟩ := step_kept page .eager happly.toAdmits step h
    obtain ⟨hset', hstep⟩ := step_settled page happly step h hset
    unfold run Contents.run
    dsimp only
    rw [ih hsound hset', ← hstep]

end

end Dispatcher

/-! ## Sources that change by the steps only -/

/-- A change to sources in memory. -/
inductive Edit
  | put (identity : Identity) (text : String)
  | remove (identity : Identity)

namespace Edit

/-- What a change makes of the store. -/
def onMemory : Edit → Memory → Memory
  | .put identity text, m => m.put identity text
  | .remove identity, m => m.remove identity

/-- The change with the time that the store gives to it. -/
def toChange (m : Memory) : Edit → Change
  | .put identity text => .put identity text (m.version + 1)
  | .remove identity => .remove identity

/-- An edit is a change at the time of the store. -/
theorem onMemory_eq (edit : Edit) (m : Memory) : edit.onMemory m = m.change (edit.toChange m) := by
  cases edit with
  | put => rfl
  | remove => rfl

/-- A removal does not count as a change of the version. -/
theorem version_le (edit : Edit) (m : Memory) : m.version ≤ (edit.onMemory m).version := by
  cases edit with
  | put => exact Nat.le_succ _
  | remove => exact Nat.le_refl _

/-- What a change makes of the texts. -/
def onContents : Edit → Contents → Contents
  | .put identity text, contents => contents.set identity (some text)
  | .remove identity, contents => contents.set identity none

/-- Sources in memory are numbered as they are put, and change as the texts do. -/
theorem tracks : Memory.timed.Tracks onMemory onContents where
  valid edit m hm := by
    intro identity text time hfind
    rw [onMemory_eq] at hfind
    rcases Memory.found_of_change hfind with hold | hput
    · exact Nat.le_trans (hm _ _ _ hold) (edit.version_le m)
    · cases edit with
      | put => cases hput; exact Nat.le_refl _
      | remove => cases hput
  advances edit m _ := by
    constructor
    · intro time hup
      cases edit with
      | put => exact Nat.lt_of_succ_lt hup
      | remove => exact hup
    · intro identity text time hfind
      have hfind' : (edit.onMemory m).find? identity = some (text, time) := hfind
      rw [onMemory_eq] at hfind'
      rcases Memory.found_of_change hfind' with hold | hput
      · exact .inl hold
      · cases edit with
        | put => cases hput; exact .inr (Nat.lt_succ_self _)
        | remove => cases hput
  settled _ _ _ := trivial
  contents edit m _ := by
    cases edit with
    | put identity text => exact Memory.contents_putAt identity text _ m
    | remove identity => exact Memory.contents_remove identity m

end Edit

/-- **Caching is transparent.** In development mode with no check interval, over sources in memory
and an echoing compiler, every session answers at each step what the sources at that step say. -/
theorem run_eq_texts_of_edits (page : Option Identity) (counts : Echo.Counts)
    (steps : List (Step Edit)) :
    ((⟨⟨Memory.store, Echo.compiler, ⟨true, 0⟩⟩, page⟩ : Dispatcher _ _ _).run Edit.onMemory steps
      (.start .empty counts)).1 = Contents.run page Edit.onContents (fun _ => none) steps := by
  rw [← Memory.timed_store]
  have hvalid : Memory.timed.Valid Memory.empty := fun _ _ _ hfind => by cases hfind
  exact Dispatcher.run_settled page Edit.tracks steps (.empty hvalid) trivial

/-! ## Sources that change on their own -/

namespace Moving

theorem tracks : timed.Tracks (fun (_ : Unit) => step) fun _ contents => contents where
  valid _ _ h := h.step
  advances _ _ h := h.advances_step
  settled _ _ h := h.step.1
  contents _ _ h := (TimedStore.Moves.once _).contents h

/-- Nothing but the history changes the sources. -/
theorem moves_of_evolves {s s' : Moving}
    (h : timed.Evolves (fun (_ : Unit) => step) s s') : timed.Moves s s' := by
  induction h with
  | refl => exact .refl
  | step _ ih => exact .step ih
  | change _ _ ih => exact .step ih

end Moving

/-- **No change is lost.** The sources follow a history whose times increase, cut in any way into
batches that happen before the questions to the store. Whatever was asked meanwhile, once the
history has come to its end every session answers as from the texts at that end. -/
theorem run_eq_texts_of_history (page : Option Identity) (counts : Echo.Counts)
    (history : List (List Change)) (early late : List (Step Unit))
    (hinc : Increasing history.flatten) :
    let d : Dispatcher Moving Echo.Counts String :=
      ⟨⟨Moving.timed.store, Echo.compiler, ⟨true, 0⟩⟩, page⟩
    let s := (d.run (fun _ => Moving.step) early (.start (.start history) counts)).2
    s.backend.store.Settled →
      (d.run (fun _ => Moving.step) late s).1 =
        (Contents.after history.flatten).run page (fun _ contents => contents) late := by
  intro d s hset
  have hstart : Cache.Sound Moving.timed .empty (Moving.start history) :=
    .empty (Moving.start_valid hinc)
  obtain ⟨hevolves, hsound⟩ := Dispatcher.run_kept (s := .start (Moving.start history) counts) page
    .eager Moving.tracks.toAdmits early hstart
  rw [← Moving.contents_of_moves (Moving.moves_of_evolves hevolves) hset]
  exact Dispatcher.run_settled page Moving.tracks late hsound hset

/-- The second version falls between the question for the time and the reading of the first. -/
theorem run_eq_texts_between_questions :
    let p : Identity := ⟨[⟨['p'], by decide⟩], by simp⟩
    let history : List (List Change) := [[.put p "v1" 0], [], [.put p "v2" 1]]
    let d : Dispatcher Moving Echo.Counts String :=
      ⟨⟨Moving.timed.store, Echo.compiler, ⟨true, 0⟩⟩, none⟩
    let asked : List (Step Unit) := [.service 0 (.forPath "/p")]
    let s := (d.run (fun _ => Moving.step) asked (.start (.start history) .zero)).2
    Increasing history.flatten ∧ s.backend.store.Settled ∧
      (d.run (fun _ => Moving.step) asked s).1 =
        (Contents.after history.flatten).run none (fun _ contents => contents) asked := by
  intro p history d asked s
  have hinc : Increasing history.flatten := by decide
  have hset : s.backend.store.Settled := rfl
  exact ⟨hinc, hset, run_eq_texts_of_history none .zero history asked asked hinc hset⟩

end TemplateServer
