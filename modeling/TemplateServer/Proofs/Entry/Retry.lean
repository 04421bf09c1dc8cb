import TemplateServer.Compiler.Echo
import TemplateServer.Proofs.Entry.Refresh
import TemplateServer.Proofs.Recorded
import TemplateServer.Source.Memory

/-!
# What follows a refused compilation

A request whose compilation was refused leaves the entry as it was but for the time of its last
look. The next request compiles again if nothing is held, if a reload was asked for, or if a look
is due. It is not due before a check interval has passed, and until then an artifact that is held
from before answers. The rule is exact, for every store that stands still meanwhile and every
compiler: `Refused` is what the refused request leaves behind, and `recompiles_of_refreshed` what
the next one makes of it.
-/

namespace TemplateServer.Entry

variable {σ κ α : Type}

/-- Going from `s` to `s'` the source was read, and the first thing that the compiler had to do
was to compile it. -/
def Recompiles (s s' : Focus (σ × List Question) (κ × List (Job α)) α) : Prop :=
  (∃ asked, s'.questions = s.questions ++ asked ∧ .read s.entry.identity ∈ asked) ∧
    ∃ source done, s'.jobs = s.jobs ++ .compile s.entry.identity source :: done

/-- Going from `s` to `s'` nothing was asked or compiled, and what had been held in `s` gave the
answer. -/
def AnsweredFromHeld (setup : Setup σ κ α) (request : Request) (precompile : Bool)
    (error : Option String) (s : Focus (σ × List Question) (κ × List (Job α)) α)
    (answer : Except Failure Response) (s' : Focus (σ × List Question) (κ × List (Job α)) α) :
    Prop :=
  ∃ held, s.entry.held = some held ∧ s'.questions = s.questions ∧
    if precompile then s'.jobs = s.jobs ∧ answer = .ok .compiled
    else
      s'.jobs = s.jobs ++ [.execute held.artifact] ∧
        answer = (setup.compiler.execute held.artifact (.ofRequest s.entry.identity request error)
          s.backend.compiler.1).1.map .html

theorem not_recompiles_of_answeredFromHeld {setup : Setup σ κ α} {request : Request}
    {precompile : Bool} {error : Option String} {answer : Except Failure Response}
    {s s' : Focus (σ × List Question) (κ × List (Job α)) α}
    (h : AnsweredFromHeld setup request precompile error s answer s') : ¬ Recompiles s s' := by
  obtain ⟨held, -, hq, -⟩ := h
  rintro ⟨⟨asked, hasked, hmem⟩, -⟩
  rw [hq] at hasked
  have hnil : asked = [] := by simpa using hasked
  rw [hnil] at hmem
  exact absurd hmem (by simp)

section

variable {setup : Setup σ κ α} {now : Nat}

/-- A compile failure comes from the compiler: it is what a refresh answers that found a reason to
compile and could read the source. -/
theorem refused_of_service {request : Request} {precompile : Bool} {error : Option String}
    {s s₁ : Focus σ κ α} {name reason : String} (hdoc : setup.Documented)
    (h : (service setup now request precompile error).run s = (.error (.compile name reason), s₁)) :
    ∃ s' modified store source, NeedsCompile setup now s s' ∧ s'.entry.destroyed = false ∧
      setup.store.modified s'.entry.identity s'.backend.store = (modified, store) ∧
      setup.store.read s'.entry.identity store = (.ok source, s₁.backend.store) ∧
      s₁.entry = s'.entry := by
  have hserv := service_cases setup now request precompile error s
  rw [h] at hserv
  cases hserv with
  | failed hr =>
    cases Refreshed.of_run _ _ hr with
    | unreadable hneed hdead hmod hread =>
      -- the store has no compile failures
      rcases hdoc.read _ _ _ _ hread with ⟨_, h⟩ | ⟨_, h⟩
      · cases h
      · cases h
    | refused hneed hdead hmod hread hcomp => exact ⟨_, _, _, _, hneed, hdead, hmod, hread, rfl⟩
  | @executed s' held body compiler _ hr hpre hheld hexec hanswer =>
    -- an execution has failures of its own
    cases body with
    | ok body => cases hanswer
    | error failure =>
      obtain ⟨_, _, rfl⟩ := hdoc.execute _ _ _ _ _ hexec
      cases hanswer

/-- Finding a reason to compile reads nothing, and has nothing done. -/
theorem NeedsCompile.records {s s' : Focus (σ × List Question) (κ × List (Job α)) α}
    (h : NeedsCompile setup.recorded now s s') :
    s'.backend.compiler = s.backend.compiler ∧
      ∃ asked, s'.questions = s.questions ++ asked ∧ readsOf asked = [] := by
  cases h with
  | unheld => exact ⟨rfl, [], (List.append_nil _).symm, rfl⟩
  | requested => exact ⟨rfl, [], (List.append_nil _).symm, rfl⟩
  | newer _ _ _ hmod _ =>
    obtain ⟨-, rfl⟩ := Prod.mk.inj hmod
    exact ⟨rfl, [_], rfl, rfl⟩

/-- Nor does it change a store that stands still. -/
theorem NeedsCompile.recorded_store_eq {s s' : Focus (σ × List Question) (κ × List (Job α)) α}
    (hstill : setup.store.Still) (h : NeedsCompile setup.recorded now s s') :
    s'.backend.store.1 = s.backend.store.1 := by
  cases h with
  | unheld => rfl
  | requested => rfl
  | newer _ _ _ hmod _ =>
    obtain ⟨-, rfl⟩ := Prod.mk.inj hmod
    exact hstill.modified _ _

/-- The decision, the question for the date and the reading come to one reading. -/
theorem NeedsCompile.read_once {s s' : Focus (σ × List Question) (κ × List (Job α)) α}
    {modified : Option Nat} {text : Except Failure String} {store store' : σ × List Question}
    (hneed : NeedsCompile setup.recorded now s s')
    (hmod : setup.recorded.store.modified s'.entry.identity s'.backend.store = (modified, store))
    (hread : setup.recorded.store.read s'.entry.identity store = (text, store')) :
    ∃ asked, store'.2 = s.questions ++ asked ∧ readsOf asked = [s.entry.identity] := by
  obtain ⟨-, asked, hasked, hnone⟩ := hneed.records
  obtain ⟨-, rfl⟩ := Prod.mk.inj hmod
  obtain ⟨-, rfl⟩ := Prod.mk.inj hread
  refine ⟨asked ++ [.modified s'.entry.identity, .read s'.entry.identity], ?_, ?_⟩
  · rw [← List.append_assoc, ← hasked]
    exact List.append_assoc _ [_] [_]
  · rw [readsOf_append, hnone, hneed.identity_eq]
    rfl

/-- A success has the compiler release what was held. -/
theorem succeed_jobs (setup : Setup σ κ α) (held : Held α)
    (s : Focus (σ × List Question) (κ × List (Job α)) α) :
    (s.succeed setup.recorded held).jobs =
      s.jobs ++ (s.entry.held.map fun previous => .release previous.artifact).toList := by
  rw [Focus.jobs, Focus.succeed_compiler]
  cases s.entry.held with
  | none => exact (List.append_nil _).symm
  | some => rfl

/-- What comes after the refresh asks nothing of the store, and adds to the jobs. -/
theorem Serviced.records {request : Request} {precompile : Bool} {error : Option String}
    {answer : Except Failure Response}
    {s s' : Focus (σ × List Question) (κ × List (Job α)) α}
    (h : Serviced setup.recorded now request precompile error s answer s') :
    s'.questions = ((refresh setup.recorded now).run s).2.questions ∧
      ∃ done, s'.jobs = ((refresh setup.recorded now).run s).2.jobs ++ done := by
  cases h with
  | failed hr =>
    rw [hr]
    exact ⟨rfl, [], (List.append_nil _).symm⟩
  | precompiled hr =>
    rw [hr]
    exact ⟨rfl, [], (List.append_nil _).symm⟩
  | unheld hr =>
    rw [hr]
    exact ⟨rfl, [], (List.append_nil _).symm⟩
  | executed hr _ _ hexec =>
    obtain ⟨-, rfl⟩ := Prod.mk.inj hexec
    rw [hr]
    exact ⟨rfl, [_], rfl⟩

/-- A look that is due finds a newer source. -/
def LookFindsNewer (setup : Setup σ κ α) (now : Nat) (e : Entry α) (store : σ) : Prop :=
  ∃ held current, e.held = some held ∧ e.checkDue setup.options now = true ∧
    (setup.store.modified e.identity store).1 = some current ∧
    held.modified.all (fun earlier => earlier < current) = true

/-- Reading and compiling leave their records. -/
theorem recompiles_of_compile {modified : Option Nat} {text : Except Failure String}
    {store store' : σ × List Question}
    {s s' s'' : Focus (σ × List Question) (κ × List (Job α)) α}
    (hneed : NeedsCompile setup.recorded now s s')
    (hmod : setup.recorded.store.modified s'.entry.identity s'.backend.store = (modified, store))
    (hread : setup.recorded.store.read s'.entry.identity store = (text, store'))
    (hquestions : s''.questions = store'.2)
    (hjobs : ∃ source done, s''.jobs = s'.jobs ++ .compile s'.entry.identity source :: done) :
    Recompiles s s'' := by
  obtain ⟨asked, hasked, hone⟩ := hneed.read_once hmod hread
  obtain ⟨hsame, -⟩ := hneed.records
  obtain ⟨source, done, hjobs⟩ := hjobs
  refine ⟨⟨asked, hquestions.trans hasked, ?_⟩, source, done, ?_⟩
  · rw [← mem_readsOf, hone]
    exact List.mem_singleton_self _
  · rw [hjobs, hneed.identity_eq, Focus.jobs, hsame]

/-- In an entry that is not destroyed and whose source can be read, any reason to compile leads to a
compilation. -/
theorem recompiles_of_refreshed {result : Except Failure Unit} {source : String}
    {s s' : Focus (σ × List Question) (κ × List (Job α)) α}
    (hstill : setup.store.Still) (hdead : s.entry.destroyed = false)
    (hread : (setup.store.read s.entry.identity s.backend.store.1).1 = .ok source)
    (hneed : s.entry.held = none ∨ s.entry.reloadRequested = true ∨
      LookFindsNewer setup now s.entry s.backend.store.1)
    (h : Refreshed setup.recorded now s result s') : Recompiles s s' := by
  have hlook {held : Held α} (hheld : s.entry.held = some held)
      (hreq : s.entry.reloadRequested = false) :
      LookFindsNewer setup now s.entry s.backend.store.1 := by
    rcases hneed with hnone | hreq' | hlook
    · rw [hheld] at hnone; cases hnone
    · rw [hreq] at hreq'; cases hreq'
    · exact hlook
  -- the first four ways end without a compilation: there was no reason for one
  cases h with
  | notDue hheld hreq hdue =>
    obtain ⟨_, _, _, hdue', _⟩ := hlook hheld hreq
    rw [show s.entry.checkDue setup.options now = false from hdue] at hdue'
    cases hdue'
  | current hheld hreq hdue hmod hold =>
    -- the source is not newer than what is held
    obtain ⟨_, _, hheld', _, hmod', hnew⟩ := hlook hheld hreq
    rw [hheld] at hheld'
    cases hheld'
    rw [(Prod.mk.inj hmod).1] at hmod'
    cases hmod'
    rw [hold] at hnew
    cases hnew
  | undated hheld hreq hdue hmod hhas =>
    -- the look found no time
    obtain ⟨_, _, _, _, hmod', _⟩ := hlook hheld hreq
    rw [(Prod.mk.inj hmod).1] at hmod'
    cases hmod'
  | vanished hheld hreq hdue hmod hhas =>
    obtain ⟨_, _, _, _, hmod', _⟩ := hlook hheld hreq
    rw [(Prod.mk.inj hmod).1] at hmod'
    cases hmod'
  | destroyed hneed hdead' =>
    rw [hneed.destroyed_eq, hdead] at hdead'
    cases hdead'
  | unreadable hneed _ hmod hread' =>
    -- the questions before have left the store alone, so it answers as it would have at first
    have hstore := hneed.recorded_store_eq hstill
    obtain ⟨-, rfl⟩ := Prod.mk.inj hmod
    have herr := (Prod.mk.inj hread').1
    rw [hstill.modified, hstore, hneed.identity_eq, hread] at herr
    cases herr
  | refused hneed _ hmod hread' hcomp =>
    obtain ⟨-, rfl⟩ := Prod.mk.inj hcomp
    exact recompiles_of_compile hneed hmod hread' rfl ⟨_, [], rfl⟩
  | @compiled s' modified store store' source artifact compiler hneed _ hmod hread' hcomp =>
    obtain ⟨-, rfl⟩ := Prod.mk.inj hcomp
    refine recompiles_of_compile hneed hmod hread' ?_
      ⟨source, _, (succeed_jobs setup _ _).trans (List.append_assoc _ [_] _)⟩
    rw [Focus.questions, Focus.succeed_store]
    rfl

/-- A request compiles where there is a reason to. -/
theorem recompiles_of_reason {request : Request} {precompile : Bool} {error : Option String}
    {source : String} {s : Focus (σ × List Question) (κ × List (Job α)) α}
    (hstill : setup.store.Still) (hdead : s.entry.destroyed = false)
    (hread : (setup.store.read s.entry.identity s.backend.store.1).1 = .ok source)
    (hneed : s.entry.held = none ∨ s.entry.reloadRequested = true ∨
      LookFindsNewer setup now s.entry s.backend.store.1) :
    Recompiles s ((service setup.recorded now request precompile error).run s).2 := by
  obtain ⟨⟨asked, hasked, hmem⟩, source', done, hdone⟩ :=
    recompiles_of_refreshed hstill hdead hread hneed (refresh_cases setup.recorded now s)
  -- what follows the refresh only adds to the records
  obtain ⟨hquestions, done', hjobs⟩ :=
    (service_cases setup.recorded now request precompile error s).records
  refine ⟨⟨asked, hquestions.trans hasked, hmem⟩, source', done ++ done', ?_⟩
  rw [hjobs, hdone]
  simp

/-- What a refused compilation leaves to the next request: an entry that is alive, whose source can
be read, and in which a look, where nothing else is a reason, found a newer source at `now`. -/
structure Refused (setup : Setup σ κ α) (now : Nat) (e : Entry α) (store : σ) : Prop where
  alive : e.destroyed = false
  readable : ∃ source, (setup.store.read e.identity store).1 = .ok source
  looked : e.held = none ∨ e.reloadRequested = true ∨
    (e.lastCheck = some now ∧ setup.options.development = true ∧
      ∃ held current, e.held = some held ∧
        (setup.store.modified e.identity store).1 = some current ∧
        held.modified.all (fun earlier => earlier < current) = true)

/-- Asking for a reload in between adds a reason to compile and takes none away. -/
theorem Refused.marked {e : Entry α} {store : σ} (h : Refused setup now e store) :
    Refused setup now e.markForReload store :=
  ⟨h.alive, h.readable, .inr (.inl rfl)⟩

/-- The state that a compile failure leaves behind. -/
theorem refused_of_service_recorded {request : Request} {precompile : Bool} {error : Option String}
    {s s₁ : Focus (σ × List Question) (κ × List (Job α)) α} {name reason : String}
    (hstill : setup.store.Still) (hdoc : setup.Documented)
    (h : (service setup.recorded now request precompile error).run s =
      (.error (.compile name reason), s₁)) :
    Refused setup now s₁.entry s₁.backend.store.1 := by
  obtain ⟨s', modified, store, source, hneed, hdead, hasked, hread, hentry⟩ :=
    refused_of_service hdoc.recorded h
  obtain ⟨-, rfl⟩ := Prod.mk.inj hasked
  obtain ⟨hsource, hs₁⟩ := Prod.mk.inj hread
  have hstore : s₁.backend.store.1 = s'.backend.store.1 := by
    rw [← hs₁, hstill.read, hstill.modified]
  rw [hstill.modified] at hsource
  rw [hentry, hstore]
  refine ⟨hdead, ⟨source, hsource⟩, ?_⟩
  cases hneed with
  | unheld hheld => exact .inl hheld
  | requested _ hreq => exact .inr (.inl hreq)
  | newer hheld _ hdue hmod hnew =>
    -- this is the case that the next request may pass over: the look has been remembered
    obtain ⟨hcurrent, rfl⟩ := Prod.mk.inj hmod
    refine .inr (.inr ⟨rfl, ?_, _, _, hheld, ?_, hnew⟩)
    · exact (Bool.and_eq_true_iff.mp hdue).1
    · simpa [hstill.modified] using hcurrent

section

variable {now' : Nat} {request : Request} {precompile : Bool} {error : Option String}
  {s : Focus (σ × List Question) (κ × List (Job α)) α}

/-- After a refused compilation the next request compiles again where it has a reason, which may be
that it looks again. -/
theorem Refused.recompiles (h : Refused setup now s.entry s.backend.store.1)
    (hstill : setup.store.Still)
    (hcond : s.entry.held = none ∨ s.entry.reloadRequested = true ∨
      setup.options.checkInterval ≤ now' - now) :
    Recompiles s ((service setup.recorded now' request precompile error).run s).2 := by
  have hneed : s.entry.held = none ∨ s.entry.reloadRequested = true ∨
      LookFindsNewer setup now' s.entry s.backend.store.1 := by
    rcases h.looked with hnone | hreq | ⟨hlast, hdev, held, current, hheld, hmod, hnew⟩
    · exact .inl hnone
    · exact .inr (.inl hreq)
    · rcases hcond with hnone | hreq | hpassed
      · exact .inl hnone
      · exact .inr (.inl hreq)
      · refine .inr (.inr ⟨held, current, hheld, ?_, hmod, hnew⟩)
        simp [checkDue, hdev, hlast, hpassed]
  obtain ⟨source, hread⟩ := h.readable
  exact recompiles_of_reason hstill h.alive hread hneed

/-- Where no look is due, nothing tells the next request that the source is newer. -/
theorem Refused.answered (h : Refused setup now s.entry s.backend.store.1)
    (hcond : ¬ (s.entry.held = none ∨ s.entry.reloadRequested = true ∨
      setup.options.checkInterval ≤ now' - now)) :
    let next := (service setup.recorded now' request precompile error).run s
    AnsweredFromHeld setup request precompile error s next.1 next.2 := by
  intro next
  simp only [not_or, Bool.not_eq_true] at hcond
  obtain ⟨hheld, hreq, hpassed⟩ := hcond
  obtain ⟨hlast, hdev, held, current, hheld, -, -⟩ :=
    (h.looked.resolve_left hheld).resolve_left (by simp [hreq])
  have hdue : s.entry.checkDue setup.recorded.options now' = false := by
    simp only [checkDue, hlast, Option.all_some, Bool.and_eq_false_iff]
    exact .inr (decide_eq_false hpassed)
  have hrefresh : (refresh setup.recorded now').run s = (.ok (), s) := by
    obtain ⟨hresult, hstate⟩ :=
      Refreshed.eq_of_notDue setup.recorded now' hheld hreq hdue (refresh_cases _ _ s)
    exact Prod.ext hresult hstate
  obtain ⟨hquestions, -⟩ := (service_cases setup.recorded now' request precompile error s).records
  refine ⟨held, hheld, hquestions.trans (by rw [hrefresh]), ?_⟩
  cases precompile with
  | true =>
    dsimp only [next]
    rw [if_pos rfl, service_precompiled hrefresh]
    exact ⟨rfl, rfl⟩
  | false =>
    dsimp only [next]
    rw [if_neg (by simp), service_executed hrefresh hheld rfl]
    exact ⟨rfl, rfl⟩

end

/-- **When a refused compilation is tried again.** A compilation was refused at `now`, and the store
has not changed since. The next request, at `now'`, compiles again exactly if nothing is held, a
reload was asked for, or a check interval has passed; in all other cases what is held from before
answers it. -/
theorem retried_iff {now' : Nat} {request request' : Request} {precompile precompile' : Bool}
    {error error' : Option String} {name reason : String}
    {s s₁ s₂ : Focus (σ × List Question) (κ × List (Job α)) α}
    (hstill : setup.store.Still) (hdoc : setup.Documented)
    (hfail : (service setup.recorded now request precompile error).run s =
      (.error (.compile name reason), s₁))
    (hentry : s₂.entry = s₁.entry ∨ s₂.entry = s₁.entry.markForReload)
    (hstore : s₂.backend.store.1 = s₁.backend.store.1) :
    let next := (service setup.recorded now' request' precompile' error').run s₂
    (Recompiles s₂ next.2 ↔
      s₂.entry.held = none ∨ s₂.entry.reloadRequested = true ∨
        setup.options.checkInterval ≤ now' - now) ∧
      (Recompiles s₂ next.2 ∨
        AnsweredFromHeld setup request' precompile' error' s₂ next.1 next.2) := by
  intro next
  have href : Refused setup now s₂.entry s₂.backend.store.1 := by
    have h := refused_of_service_recorded hstill hdoc hfail
    rw [hstore]
    rcases hentry with he | he
    · rw [he]; exact h
    · rw [he]; exact h.marked
  by_cases hcond : s₂.entry.held = none ∨ s₂.entry.reloadRequested = true ∨
      setup.options.checkInterval ≤ now' - now
  · have hrec : Recompiles s₂ next.2 := href.recompiles hstill hcond
    exact ⟨iff_of_true hrec hcond, .inl hrec⟩
  · have hkept : AnsweredFromHeld setup request' precompile' error' s₂ next.1 next.2 :=
      href.answered hcond
    exact ⟨iff_of_false (not_recompiles_of_answeredFromHeld hkept) hcond, .inr hkept⟩

end

/-- A page with one name. -/
def page : Identity := ⟨[⟨['p'], by decide⟩], by simp⟩

/-- Sources in memory, echoed, and looked at every four seconds. -/
def echoing : Setup Memory Echo.Counts String := ⟨Memory.store, Echo.compiler, .standard⟩

/-- The entry of the page after it was compiled from its first version, and the second version,
which the compiler refuses, was put in the place of the first. -/
def replaced : Focus (Memory × List Question) (Echo.Counts × List (Job String)) String :=
  let m := Memory.empty.put page "v1"
  let first : Focus (Memory × List Question) (Echo.Counts × List (Job String)) String :=
    ⟨.fresh page false, ⟨(m, []), (.zero, []), 0, []⟩⟩
  let served := ((service echoing.recorded 0 (.forPath "/p") false none).run first).2
  served.withStore (m.put page Echo.refusedSource, served.backend.store.2)

/-- What the first look at the second version leaves behind. -/
def refused : Focus (Memory × List Question) (Echo.Counts × List (Job String)) String :=
  ((service echoing.recorded 5000 (.forPath "/p") false none).run replaced).2

theorem retried_iff_replaced :
    let next := (service echoing.recorded 9000 (.forPath "/p") false none).run refused
    (service echoing.recorded 5000 (.forPath "/p") false none).run replaced =
        (.error (.compile "/p" "rejected by test compiler"), refused) ∧
      (Recompiles refused next.2 ↔
        refused.entry.held = none ∨ refused.entry.reloadRequested = true ∨
          echoing.options.checkInterval ≤ 9000 - 5000) ∧
        (Recompiles refused next.2 ∨
          AnsweredFromHeld echoing (.forPath "/p") false none refused next.1 next.2) := by
  have hfail : (service echoing.recorded 5000 (.forPath "/p") false none).run replaced =
      (.error (.compile "/p" "rejected by test compiler"), refused) := rfl
  exact ⟨hfail, retried_iff Memory.store_still (Echo.documented _) hfail (.inl rfl) rfl⟩

/-- The next request need not try again: within the check interval the first version answers it. -/
theorem not_retried_within_interval :
    let next := (service echoing.recorded 6000 (.forPath "/p") false none).run refused
    (service echoing.recorded 5000 (.forPath "/p") false none).run replaced =
        (.error (.compile "/p" "rejected by test compiler"), refused) ∧
      refused.entry.destroyed = false ∧ next.1 = .ok (.html "v1") ∧
        ¬ Recompiles refused next.2 := by
  refine ⟨rfl, rfl, rfl, ?_⟩
  rintro ⟨⟨asked, hasked, hmem⟩, -⟩
  -- the last request asked nothing
  have hsame : refused.questions ++ asked = refused.questions := hasked.symm
  rw [List.append_right_eq_self.mp hsame] at hmem
  exact absurd hmem (by simp)

end TemplateServer.Entry
