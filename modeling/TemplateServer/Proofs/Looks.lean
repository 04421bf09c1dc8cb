import Mathlib.Data.List.Induction
import TemplateServer.Proofs.Cache
import TemplateServer.Proofs.Engine.Down

/-!
# When entries look at their sources

A request to an entry looks whether its source has changed if something is held, no reload was asked
for, and a look is due (`Entry.looks`); just then the entry remembers the time
(`Refreshed.lastCheck_eq`). `Dispatcher.looks` collects the looks of a whole session, each with the
entry that made it, and `Paced` is what can be said of them at any point: an entry remembers its
last look, and a look is due only after the check interval, so the looks of one entry are apart by
that much. This holds over any store and any compiler.
-/

namespace TemplateServer

variable {σ κ α χ : Type}

namespace Entry

variable {setup : Setup σ κ α} {now : Nat} {s s' : Focus σ κ α}

/-- A request at this time looks whether the source has changed. -/
def looks (options : Options) (now : Nat) (e : Entry α) : Bool :=
  e.held.isSome && !e.reloadRequested && e.checkDue options now

/-- What an entry remembers after a request. -/
def lookedAt (options : Options) (now : Nat) (e : Entry α) : Option Nat :=
  if e.looks options now then some now else e.lastCheck

/-- An entry that is due is looked after, if it holds something and nobody has asked for a
reload. -/
theorem lookedAt_of_due {options : Options} {e : Entry α} {held : Held α}
    (hheld : e.held = some held) (hreq : e.reloadRequested = false)
    (hdue : e.checkDue options now = true) : e.lookedAt options now = some now := by
  unfold lookedAt looks
  rw [hheld, hreq, hdue]
  rfl

/-- An entry that holds nothing is compiled without a look. -/
theorem lookedAt_of_unheld {options : Options} {e : Entry α} (hheld : e.held = none) :
    e.lookedAt options now = e.lastCheck := by
  unfold lookedAt looks
  rw [hheld]
  rfl

theorem lookedAt_of_requested {options : Options} {e : Entry α} (hreq : e.reloadRequested = true) :
    e.lookedAt options now = e.lastCheck := by
  unfold lookedAt looks
  rw [hreq, Bool.not_true, Bool.and_false]
  rfl

/-- Looking for a reason to compile writes a look down. -/
theorem NeedsCompile.lastCheck_eq (h : NeedsCompile setup now s s') :
    s'.entry.lastCheck = s.entry.lookedAt setup.options now := by
  cases h with
  | unheld hheld => exact (lookedAt_of_unheld hheld).symm
  | requested _ hreq => exact (lookedAt_of_requested hreq).symm
  | newer hheld hreq hdue => exact (lookedAt_of_due hheld hreq hdue).symm

/-- The time that is remembered changes by looks only. -/
theorem Refreshed.lastCheck_eq {result : Except Failure Unit}
    (h : Refreshed setup now s result s') :
    s'.entry.lastCheck = s.entry.lookedAt setup.options now := by
  cases h with
  | notDue _ _ hdue =>
    unfold lookedAt looks
    rw [hdue, Bool.and_false]
    rfl
  | current hheld hreq hdue => exact (lookedAt_of_due hheld hreq hdue).symm
  | undated hheld hreq hdue => exact (lookedAt_of_due hheld hreq hdue).symm
  | vanished hheld hreq hdue => exact (lookedAt_of_due hheld hreq hdue).symm
  | destroyed hneed => exact hneed.lastCheck_eq
  | unreadable hneed => exact hneed.lastCheck_eq
  | refused hneed => exact hneed.lastCheck_eq
  | compiled hneed =>
    rw [Focus.succeed_entry]
    exact hneed.lastCheck_eq

/-- A request to an entry writes down its look and no other. -/
theorem Serviced.lastCheck_eq {request : Request} {precompile : Bool} {error : Option String}
    {answer : Except Failure Response}
    (h : Serviced setup now request precompile error s answer s') :
    s'.entry.lastCheck = s.entry.lookedAt setup.options now := by
  cases h with
  | failed hr => exact (Refreshed.of_run _ _ hr).lastCheck_eq
  | precompiled hr => exact (Refreshed.of_run _ _ hr).lastCheck_eq
  | unheld hr => exact (Refreshed.of_run _ _ hr).lastCheck_eq
  | executed hr => exact (Refreshed.of_run _ _ hr).lastCheck_eq

end Entry

/-! ## The looks of a session -/

/-- A look of an entry at its source. -/
structure Look where
  handle : Handle
  time : Nat
deriving DecidableEq, Repr

namespace Dispatcher

open Engine

variable (d : Dispatcher σ κ α) (apply : χ → σ → σ)

/-- The look of a request for an identity. An entry that has just been made holds nothing and does
not look. -/
def looksFor (now : Nat) (identity : Identity) (s : Engine σ κ α) : List Look :=
  match s.cache.lookup identity with
  | none => []
  | some handle =>
    match s.cache.entry? handle with
    | none => []
    | some e => if e.looks d.setup.options now then [⟨handle, now⟩] else []

/-- The looks of a request, before a page is shown. -/
def looksOfService (now : Nat) (request : Request) (s : Engine σ κ α) : List Look :=
  match examine request with
  | .error _ => []
  | .ok (identity, _) => d.looksFor now identity s

/-- The look of the page that shows a failure. -/
def looksOfError (now : Nat) (failure : Failure) (s : Engine σ κ α) : List Look :=
  if failure.isClientError then []
  else
    match d.errorPage with
    | none => []
    | some page => d.looksFor now page s

/-- The looks of a response: those of the request, and those of the page if there is one to be
shown. -/
def looksOfRespond (now : Nat) (request : Request) (s : Engine σ κ α) : List Look :=
  d.looksOfService now request s ++
    match d.service now request s with
    | (.ok _, _) => []
    | (.error failure, s) => d.looksOfError now failure s

/-- The looks of one step. -/
def looksOfStep : Step χ → Engine σ κ α → List Look
  | .service now request, s => d.looksOfService now request s
  | .respond now request, s => d.looksOfRespond now request s
  | _, _ => []

/-- The looks of a session, in order. -/
def looks : List (Step χ) → Engine σ κ α → List Look
  | [], _ => []
  | step :: steps, s => d.looksOfStep step s ++ looks steps (d.step apply step s).2

end Dispatcher

/-! ## The looks of one entry are apart -/

/-- The last look of an entry. -/
def lastLook (handle : Handle) (looks : List Look) : Option Nat :=
  (looks.filter (·.handle = handle)).getLast?.map (·.time)

theorem lastLook_concat (handle : Handle) (looks : List Look) (look : Look) :
    lastLook handle (looks ++ [look]) =
      if look.handle = handle then some look.time else lastLook handle looks := by
  unfold lastLook
  rw [List.filter_append]
  split
  next h =>
    rw [List.filter_cons_of_pos (by simpa using h), List.filter_nil, List.getLast?_concat]
    rfl
  next h => rw [List.filter_cons_of_neg (by simpa using h), List.filter_nil, List.append_nil]

/-- The looks of one entry are apart by the interval. -/
def Spaced (interval : Nat) (looks : List Look) : Prop :=
  looks.Pairwise fun a b => a.handle = b.handle → a.time + interval ≤ b.time

/-- The last look of an entry is not before any other. -/
theorem Spaced.le_lastLook {interval : Nat} {looks : List Look} (h : Spaced interval looks)
    {look : Look} (hmem : look ∈ looks) :
    ∃ last, lastLook look.handle looks = some last ∧ look.time ≤ last := by
  induction looks using List.reverseRecOn with
  | nil => cases hmem
  | append_singleton looks latest ih =>
    obtain ⟨hinit, -, hlatest⟩ := List.pairwise_append.mp h
    rw [lastLook_concat]
    rcases List.mem_append.mp hmem with hold | hnew
    · split
      next hhandle =>
        have := hlatest look hold latest List.mem_cons_self hhandle.symm
        exact ⟨latest.time, rfl, by omega⟩
      next => exact ih hinit hold
    · rw [List.mem_singleton.mp hnew, if_pos rfl]
      exact ⟨latest.time, rfl, Nat.le_refl _⟩

theorem mem_of_lastLook {handle : Handle} {looks : List Look} {time : Nat}
    (h : lastLook handle looks = some time) : ⟨handle, time⟩ ∈ looks := by
  obtain ⟨look, hlast, rfl⟩ := Option.map_eq_some_iff.mp h
  obtain ⟨hmem, hhandle⟩ := List.mem_filter.mp (List.mem_of_getLast? hlast)
  rw [← of_decide_eq_true hhandle]
  exact hmem

/-- The looks so far, and what the entries remember of them. -/
structure Paced (interval now : Nat) (looks : List Look) (s : Engine σ κ α) : Prop where
  spaced : Spaced interval looks
  past : ∀ look ∈ looks, look.time ≤ now
  remembered : ∀ {handle e}, s.cache.entry? handle = some e → e.lastCheck = lastLook handle looks
  known : ∀ look ∈ looks, look.handle < s.cache.entries.length

namespace Paced

open Engine

variable {interval now : Nat} {looks : List Look} {s s' : Engine σ κ α}

theorem start (store : σ) (compiler : κ) :
    Paced interval 0 [] (.start store compiler : Engine σ κ α) where
  spaced := .nil
  past _ h := by cases h
  remembered h := by cases h
  known _ h := by cases h

/-- Time goes on, and what is not in the cache does not matter. -/
theorem mono {now' : Nat} (h : Paced interval now looks s) (hnow : now ≤ now')
    (hcache : s'.cache = s.cache) : Paced interval now' looks s' where
  spaced := h.spaced
  past look hmem := Nat.le_trans (h.past look hmem) hnow
  remembered hentry := h.remembered (hcache ▸ hentry)
  known := hcache ▸ h.known

/-- No look lies ahead. -/
theorem lastCheck_le (h : Paced interval now looks s) {handle : Handle} {e : Entry α} {last : Nat}
    (hentry : s.cache.entry? handle = some e) (hlast : e.lastCheck = some last) : last ≤ now :=
  h.past _ (mem_of_lastLook ((h.remembered hentry).symm.trans hlast))

/-- An entry that has just been made remembers nothing, and has not looked. -/
theorem load (h : Paced interval now looks s) (identity : Identity) (isErrorPage : Bool) :
    Paced interval now looks (s.load identity isErrorPage) where
  spaced := h.spaced
  past := h.past
  remembered {handle e} hentry := by
    rw [load_cache, Cache.entry?_insert] at hentry
    split at hentry
    next hnew =>
      cases hentry
      -- a handle that is new has no look yet
      cases hlast : lastLook handle looks with
      | none => rfl
      | some time =>
        have hlt : handle < s.cache.entries.length := h.known _ (mem_of_lastLook hlast)
        exact absurd hnew (Nat.ne_of_lt hlt)
    next => exact h.remembered hentry
  known look hmem := by
    show look.handle < (s.cache.entries ++ [_]).length
    rw [List.length_append]
    exact Nat.lt_add_right _ (h.known look hmem)

/-- An entry may change that does not look. -/
theorem put (h : Paced interval now looks s) {handle : Handle} {e : Entry α}
    {focus : Entry.Focus σ κ α} (hentry : s.cache.entry? handle = some e)
    (hlast : focus.entry.lastCheck = e.lastCheck) :
    Paced interval now looks (s.putBack handle focus) where
  spaced := h.spaced
  past := h.past
  remembered {other found} hfound := by
    rw [putBack_cache, Cache.entry?_set hentry] at hfound
    split at hfound
    next hother =>
      cases hfound
      rw [hother, hlast]
      exact h.remembered hentry
    next => exact h.remembered hfound
  known look hmem := by
    show look.handle < (s.cache.entries.set handle focus.entry).length
    rw [List.length_set]
    exact h.known look hmem

/-- A look that is due comes after the interval. -/
theorem look (h : Paced interval now looks s) {options : Options} {handle : Handle} {e : Entry α}
    {focus : Entry.Focus σ κ α} (hinterval : options.checkInterval = interval)
    (hentry : s.cache.entry? handle = some e) (hdue : e.checkDue options now = true)
    (hlast : focus.entry.lastCheck = some now) :
    Paced interval now (looks ++ [⟨handle, now⟩]) (s.putBack handle focus) where
  spaced := by
    -- an earlier look of this entry is no later than the one it remembers, and this one was due
    refine List.pairwise_append.mpr ⟨h.spaced, List.pairwise_singleton _ _, ?_⟩
    intro earlier hmem latest hlatest hhandle
    rw [List.mem_singleton.mp hlatest] at hhandle ⊢
    obtain ⟨last, hremembered, hle⟩ := h.spaced.le_lastLook hmem
    rw [hhandle, ← h.remembered hentry] at hremembered
    have hpast := h.lastCheck_le hentry hremembered
    unfold Entry.checkDue at hdue
    rw [hremembered, Option.all_some, Bool.and_eq_true] at hdue
    have hwait := of_decide_eq_true hdue.2
    dsimp only
    omega
  past look hmem := by
    rcases List.mem_append.mp hmem with hold | hnew
    · exact h.past look hold
    · obtain rfl := List.mem_singleton.mp hnew
      exact Nat.le_refl now
  remembered {other found} hfound := by
    rw [putBack_cache, Cache.entry?_set hentry] at hfound
    rw [lastLook_concat]
    split at hfound
    next hother =>
      cases hfound
      -- the entry that looked remembers it
      rw [if_pos hother.symm]
      exact hlast
    next hother =>
      -- another one remembers what it did
      rw [if_neg (Ne.symm hother)]
      exact h.remembered hfound
  known look hmem := by
    show look.handle < (s.cache.entries.set handle focus.entry).length
    rw [List.length_set]
    rcases List.mem_append.mp hmem with hold | hnew
    · exact h.known look hold
    · rw [List.mem_singleton.mp hnew]
      exact (List.getElem?_eq_some_iff.mp hentry).1

end Paced

namespace Dispatcher

open Engine

variable {d : Dispatcher σ κ α} {interval now : Nat} {looks : List Look} {s s' : Engine σ κ α}

/-- **A request to an identity** is paced by the look that it makes. -/
theorem Served.paced {request : Request} {identity : Identity} {precompile : Bool}
    {error : Option String} {answer : Except Failure Response}
    (h : Paced d.setup.options.checkInterval now looks s)
    (hserved : Served d.setup now request identity precompile error s answer s') :
    Paced d.setup.options.checkInterval now (looks ++ d.looksFor now identity s) s' := by
  have hunloaded (hlookup : s.cache.lookup identity = none) :
      looks ++ d.looksFor now identity s = looks := by
    unfold looksFor
    rw [hlookup]
    exact List.append_nil looks
  cases hserved with
  | refused _ hlookup =>
    rw [hunloaded hlookup]
    exact h.mono (Nat.le_refl now) rfl
  | missing _ hlookup =>
    rw [hunloaded hlookup]
    exact h.mono (Nat.le_refl now) rfl
  | lost events hadm hentry =>
    cases hadm with
    | present hlookup =>
      have hnone : d.looksFor now identity s = [] := by
        unfold looksFor
        rw [hlookup]
        dsimp only
        rw [hentry]
      rw [hnone, List.append_nil]
      exact h.mono (Nat.le_refl now) rfl
    | created hlookup =>
      rw [hunloaded hlookup]
      exact (h.load identity error.isSome).mono (Nat.le_refl now) rfl
  | @answered handle s₁ e focus _ events events' hadm hentry hserv =>
    have hlast : focus.entry.lastCheck = e.lookedAt d.setup.options now :=
      (Entry.Serviced.of_run hserv).lastCheck_eq
    cases hadm with
    | present hlookup =>
      have hlooks : d.looksFor now identity s =
          if e.looks d.setup.options now then [⟨handle, now⟩] else [] := by
        unfold looksFor
        rw [hlookup]
        dsimp only
        rw [hentry]
      unfold Entry.lookedAt at hlast
      rw [hlooks]
      split at hlast
      next hlook =>
        have hdue : e.checkDue d.setup.options now = true := by
          unfold Entry.looks at hlook
          exact (Bool.and_eq_true_iff.mp hlook).2
        rw [if_pos hlook]
        exact (h.look rfl hentry hdue hlast).mono (Nat.le_refl now) rfl
      next hlook =>
        rw [if_neg hlook, List.append_nil]
        exact (h.put hentry hlast).mono (Nat.le_refl now) rfl
    | created hlookup =>
      -- an entry that has just been made holds nothing, so it does not look
      rw [hunloaded hlookup]
      have hfresh : e = .fresh identity error.isSome := by
        rw [load_cache, withStore_cache, Cache.entry?_insert, if_pos rfl] at hentry
        exact (Option.some.inj hentry).symm
      subst hfresh
      exact ((h.load identity error.isSome).put hentry hlast).mono (Nat.le_refl now) rfl

/-- A request keeps the looks apart. -/
theorem Examined.paced {request : Request} {answer : Except Failure Response}
    (h : Paced d.setup.options.checkInterval now looks s)
    (hservice : Examined d now request s answer s') :
    Paced d.setup.options.checkInterval now (looks ++ d.looksOfService now request s) s' := by
  unfold looksOfService
  cases hservice with
  | refused _ hexamine =>
    rw [hexamine, List.append_nil]
    exact h.mono (Nat.le_refl now) rfl
  | served hexamine hserved =>
    rw [hexamine]
    exact hserved.paced h

theorem Shown.paced {request : Request} {failure : Failure} {response : Response}
    (h : Paced d.setup.options.checkInterval now looks s)
    (hshown : Shown d now request s failure response s') :
    Paced d.setup.options.checkInterval now (looks ++ d.looksOfError now failure s) s' := by
  cases hshown with
  | plain _ hplain =>
    have hnone : d.looksOfError now failure s = [] := by
      unfold looksOfError
      -- the page is not asked
      rcases hplain with hclient | hpage
      · exact if_pos hclient
      · rw [hpage]
        split <;> rfl
    rw [hnone, List.append_nil]
    exact h.mono (Nat.le_refl now) rfl
  | paged _ hserver hpage hserved =>
    unfold looksOfError
    rw [hserver, hpage]
    exact (hserved.paced h).mono (Nat.le_refl now) rfl

theorem respond_paced (request : Request) (h : Paced d.setup.options.checkInterval now looks s) :
    Paced d.setup.options.checkInterval now (looks ++ d.looksOfRespond now request s)
      (d.respond now request s).2 := by
  have hservice := (service_cases d now request s).paced h
  unfold looksOfRespond respond
  rcases hrun : d.service now request s with ⟨failure | response, s₁⟩
  · rw [hrun] at hservice
    rw [← List.append_assoc]
    exact (errorResponse_cases d now request s₁ failure).paced hservice
  · rw [hrun] at hservice
    rw [List.append_nil]
    exact hservice

end Dispatcher

/-! ## After the teardown -/

namespace Dispatcher

open Engine

variable (d : Dispatcher σ κ α) (now : Nat) {s : Engine σ κ α}

/-- After a teardown no template is looked at. -/
theorem looksFor_of_down (h : s.Down) (identity : Identity) : d.looksFor now identity s = [] := by
  unfold looksFor
  rw [h.lookup]

theorem looksOfService_of_down (h : s.Down) (request : Request) :
    d.looksOfService now request s = [] := by
  unfold looksOfService
  cases examine request with
  | error => rfl
  | ok => exact d.looksFor_of_down now h _

theorem looksOfError_of_down (h : s.Down) (failure : Failure) :
    d.looksOfError now failure s = [] := by
  unfold looksOfError
  split
  next => rfl
  next =>
    split
    next => rfl
    next => exact d.looksFor_of_down now h _

theorem looksOfStep_of_down (h : s.Down) (step : Step χ) : d.looksOfStep step s = [] := by
  cases step with
  | change => rfl
  | mark => rfl
  | setReloads => rfl
  | service now request => exact d.looksOfService_of_down now h request
  | respond now request =>
    show d.looksOfService now request s ++ _ = []
    rw [d.looksOfService_of_down now h, List.nil_append]
    have hdown := Turns.down h (service_cases d now request s).turns
    split
    next => rfl
    next hrun =>
      rw [hrun] at hdown
      exact d.looksOfError_of_down now hdown _

/-- After the teardown no entry looks at its source. -/
theorem looks_of_down (apply : χ → σ → σ) (h : s.Down) (steps : List (Step χ)) :
    d.looks apply steps s = [] := by
  induction steps generalizing s with
  | nil => rfl
  | cons step steps ih =>
    show d.looksOfStep step s ++ d.looks apply steps _ = []
    rw [d.looksOfStep_of_down h, ih (Turns.down h (step_turns d s apply step))]
    rfl

end Dispatcher

/-! ## Sessions in time -/

/-- The time of a step, if it has one. -/
def Step.time? : Step χ → Option Nat
  | .service now _ => some now
  | .respond now _ => some now
  | _ => none

/-- The time after steps that began at no time in particular. -/
def clock (steps : List (Step χ)) : Nat := (steps.filterMap Step.time?).getLast?.getD 0

/-- Time does not go back. -/
def Chronological (steps : List (Step χ)) : Prop := (steps.filterMap Step.time?).Pairwise (· ≤ ·)

/-- A step sets the clock, if it says the time. -/
theorem clock_concat (steps : List (Step χ)) (step : Step χ) :
    clock (steps ++ [step]) = step.time?.getD (clock steps) := by
  unfold clock
  rw [List.filterMap_append]
  cases htime : step.time? with
  | none => rw [List.filterMap_cons_none htime, List.filterMap_nil, List.append_nil]; rfl
  | some time =>
    rw [List.filterMap_cons_some htime, List.filterMap_nil, List.getLast?_concat]
    rfl

/-- What comes before the last step of a run in order is in order, and the clock does not go
back. -/
theorem Chronological.concat {steps : List (Step χ)} {step : Step χ}
    (h : Chronological (steps ++ [step])) :
    Chronological steps ∧ clock steps ≤ clock (steps ++ [step]) := by
  have hclock := clock_concat steps step
  unfold Chronological at h
  rw [List.filterMap_append] at h
  obtain ⟨hsteps, -, hlast⟩ := List.pairwise_append.mp h
  refine ⟨hsteps, ?_⟩
  rw [hclock]
  cases htime : step.time? with
  | none => exact Nat.le_refl _
  | some time =>
    rw [List.filterMap_cons_some htime] at hlast
    unfold clock
    cases hbefore : (steps.filterMap Step.time?).getLast? with
    | none => exact Nat.zero_le time
    | some before => exact hlast before (List.mem_of_getLast? hbefore) time List.mem_cons_self

/-- No step was later than the clock. -/
theorem Chronological.le_clock {steps : List (Step χ)} (h : Chronological steps) {step : Step χ}
    (hmem : step ∈ steps) {time : Nat} (htime : step.time? = some time) : time ≤ clock steps := by
  induction steps using List.reverseRecOn with
  | nil => cases hmem
  | append_singleton steps latest ih =>
    obtain ⟨hsteps, hclock⟩ := h.concat
    rcases List.mem_append.mp hmem with hold | hnew
    · exact Nat.le_trans (ih hsteps hold) hclock
    · obtain rfl := List.mem_singleton.mp hnew
      rw [clock_concat, htime]
      exact Nat.le_refl time

namespace Dispatcher

variable (d : Dispatcher σ κ α) (apply : χ → σ → σ)

theorem run_concat (steps : List (Step χ)) (step : Step χ) (s : Engine σ κ α) :
    (d.run apply (steps ++ [step]) s).2 = (d.step apply step (d.run apply steps s).2).2 := by
  induction steps generalizing s with
  | nil => rfl
  | cons first steps ih => exact ih (d.step apply first s).2

/-- The looks of the last step come after all others. -/
theorem looks_concat (steps : List (Step χ)) (step : Step χ) (s : Engine σ κ α) :
    d.looks apply (steps ++ [step]) s =
      d.looks apply steps s ++ d.looksOfStep step (d.run apply steps s).2 := by
  induction steps generalizing s with
  | nil => exact List.append_nil _
  | cons first steps ih =>
    show d.looksOfStep first s ++ d.looks apply (steps ++ [step]) (d.step apply first s).2 = _
    rw [ih, ← List.append_assoc]
    rfl

/-- A step keeps the looks apart. -/
theorem step_paced {now : Nat} {looks : List Look} {s : Engine σ κ α} (step : Step χ)
    (hnow : now ≤ step.time?.getD now) (h : Paced d.setup.options.checkInterval now looks s) :
    Paced d.setup.options.checkInterval (step.time?.getD now) (looks ++ d.looksOfStep step s)
      (d.step apply step s).2 := by
  cases step with
  | change c =>
    rw [show d.looksOfStep (.change c) s = [] from rfl, List.append_nil]
    exact h.mono hnow rfl
  | setReloads count =>
    rw [show d.looksOfStep (.setReloads count : Step χ) s = [] from rfl, List.append_nil]
    exact h.mono hnow rfl
  | mark handle =>
    rw [show d.looksOfStep (.mark handle : Step χ) s = [] from rfl, List.append_nil]
    show Paced _ now looks (s.markForReload handle)
    unfold Engine.markForReload
    cases hentry : s.cache.entry? handle with
    | none => rw [Engine.onEntry_none hentry]; exact h
    | some e => rw [Engine.onEntry_some hentry]; exact h.put hentry rfl
  | service time request => exact (service_cases d time request s).paced (h.mono hnow rfl)
  | respond time request => exact respond_paced request (h.mono hnow rfl)

/-- **The looks of a session** are paced. -/
theorem run_paced (store : σ) (compiler : κ) {steps : List (Step χ)} (h : Chronological steps) :
    Paced d.setup.options.checkInterval (clock steps) (d.looks apply steps (.start store compiler))
      (d.run apply steps (.start store compiler)).2 := by
  induction steps using List.reverseRecOn with
  | nil => exact .start store compiler
  | append_singleton steps step ih =>
    obtain ⟨hsteps, hclock⟩ := h.concat
    rw [clock_concat] at hclock ⊢
    rw [run_concat, looks_concat]
    exact step_paced d apply step hclock (ih hsteps)

end Dispatcher

end TemplateServer
