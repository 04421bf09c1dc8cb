import Mathlib.Algebra.Ring.Nat
import TemplateServer.Batch
import TemplateServer.Proofs.Passage

/-!
# Batches by many workers

The identities of a batch are taken by workers, one after the other and each by whoever comes first.
A `Crew` is what the workers have come to, and one `Crew.Step` is a step of any of them: one takes
the next place of the list, another goes one step further with its request, a third records how its
request has ended. So workers meet in the cache, in one entry and at its lock, in every order.

Nobody waits for ever. Every step brings the end nearer (`Crew.step_wellFounded`), and who has a
lock can go on, so someone can as long as not all have stopped (`Crew.exists_step`). A worker that
is alone does what `compileEach` does (`Crew.steps_compileEach`).
-/

namespace TemplateServer.Batch

open Dispatcher

variable {σ κ α : Type}

/-- What a worker is doing. -/
inductive Worker (α : Type)
  | idle
  /-- The worker has taken an identity and sees to its request. -/
  | holding (identity : Identity) (passage : Passage α)
  /-- The worker has found nothing more to take. -/
  | stopped

namespace Worker

/-- Whether a worker has found nothing more to do. -/
def isStopped : Worker α → Bool
  | stopped => true
  | _ => false

/-- The template that a worker has in hand. -/
def identity? : Worker α → Option Identity
  | holding identity _ => some identity
  | _ => none

/-- The handle of the entry whose lock of compilation the worker wants. -/
def wants : Worker α → Option Handle
  | holding _ (.admitted _ _ handle stage) => if stage.wantsLock then some handle else none
  | _ => none

/-- The handle of the entry whose lock of compilation the worker has. -/
def locks : Worker α → Option Handle
  | holding _ (.admitted _ _ handle stage) => if stage.locks then some handle else none
  | _ => none

/-- Who waits for a lock has none. -/
theorem locks_of_wants {worker : Worker α} {handle : Handle} (h : worker.wants = some handle) :
    worker.locks = none := by
  cases worker with
  | holding identity passage =>
    cases passage with
    | admitted _ _ _ stage =>
      cases stage with
      | waiting => rfl
      | _ => cases h
    | _ => cases h
  | _ => cases h

/-- At most so many steps are left until the worker is done with what it holds. -/
def left : Worker α → Nat
  | idle => 1
  | holding _ passage => passage.left + 2
  | stopped => 0

end Worker

/-- The engine that the workers share, and what they have come to. -/
structure Crew (σ κ α : Type) where
  engine : Engine σ κ α
  /-- The place in the list that is taken next. -/
  next : Nat
  report : BatchReport
  workers : List (Worker α)

namespace Crew

/-- At least one worker, and not more than there are identities. -/
def size (jobs count : Nat) : Nat := max 1 (min jobs (max count 1))

/-- A crew before it starts: at most as many workers as templates, and at least one. -/
def start (jobs count : Nat) (s : Engine σ κ α) : Crew σ κ α :=
  ⟨s, 0, ⟨0, []⟩, List.replicate (size jobs count) .idle⟩

/-- What is noted when a template was compiled. -/
def precompiledEvent (identity : Identity) : Log.Event :=
  ⟨.debug, .cli, s!"Precompiled {identity}"⟩

section

variable (d : Dispatcher σ κ α) (ids : List Identity)

/-- What a worker does next, and the rest of the crew then. -/
def act (now : Nat) (worker : Worker α) (c : Crew σ κ α) : Worker α × Crew σ κ α :=
  match worker with
  | .idle =>
    match ids[c.next]? with
    | some identity => (.holding identity .sent, { c with next := c.next + 1 })
    | none => (.stopped, { c with next := c.next + 1 })
  | .holding identity (.served answer) =>
    let s := if answer.isOk then c.engine.note [precompiledEvent identity] else c.engine
    (.idle, { c with engine := s, report := c.report.add identity answer })
  | .holding identity passage =>
    let (passage, s) := passage.next d now (request identity) c.engine
    (.holding identity passage, { c with engine := s })
  | .stopped => (.stopped, c)

/-- A worker may go on unless it has stopped or has to wait for the lock of an entry. -/
def Lets (worker : Worker α) (c : Crew σ κ α) : Prop :=
  worker.isStopped = false ∧
    ∀ handle, worker.wants = some handle → ∀ other ∈ c.workers, other.locks ≠ some handle

/-- One of the workers goes on, at any time. -/
inductive Step (c : Crew σ κ α) : Crew σ κ α → Prop
  | go (now : Nat) {worker : Worker α} {before after : List (Worker α)}
      (hworkers : c.workers = before ++ worker :: after) (hlets : c.Lets worker) :
      Step c { (c.act d ids now worker).2 with
        workers := before ++ (c.act d ids now worker).1 :: after }

/-- What workers do in time. -/
abbrev Steps := Relation.ReflTransGen (Step d ids)

/-- Nobody goes on. -/
def Done (c : Crew σ κ α) : Prop := ∀ c', ¬ Step d ids c c'

end

/-- The report in the order in which failures are listed. -/
def sorted (c : Crew σ κ α) : BatchReport :=
  { c.report with failures := c.report.failures.mergeSort failureLe }

/-! ## Every crew comes to its end -/

section

variable {d : Dispatcher σ κ α} {ids : List Identity} {now : Nat} {c c' : Crew σ κ α}
  {identity : Identity}

/-- An idle worker takes the next template. -/
theorem act_idle_some (h : ids[c.next]? = some identity) :
    c.act d ids now .idle = (.holding identity .sent, { c with next := c.next + 1 }) := by
  unfold act
  dsimp only
  rw [h]

/-- Where there is none left, it stops. -/
theorem act_idle_none (h : ids[c.next]? = none) :
    c.act d ids now .idle = (.stopped, { c with next := c.next + 1 }) := by
  unfold act
  dsimp only
  rw [h]

/-- A worker goes on with its request. -/
theorem act_holding {passage passage' : Passage α} {s : Engine σ κ α}
    (h : ∀ answer, passage ≠ .served answer)
    (hnext : passage.next d now (request identity) c.engine = (passage', s)) :
    c.act d ids now (.holding identity passage) =
      (.holding identity passage', { c with engine := s }) := by
  have hact : c.act d ids now (.holding identity passage) =
      (.holding identity (passage.next d now (request identity) c.engine).1,
        { c with engine := (passage.next d now (request identity) c.engine).2 }) := by
    cases passage with
    | served answer => exact absurd rfl (h answer)
    | _ => rfl
  rw [hact, hnext]

variable (d ids) in
/-- Every step brings the end nearer. What is not yet taken counts for more than a request. -/
theorem left_act (now : Nat) (worker : Worker α) (c : Crew σ κ α)
    (hworker : worker.isStopped = false) :
    20 * (ids.length - (c.act d ids now worker).2.next) + (c.act d ids now worker).1.left <
      20 * (ids.length - c.next) + worker.left := by
  cases worker with
  | idle =>
    cases htake : ids[c.next]? with
    | some identity =>
      obtain ⟨hlt, -⟩ := List.getElem?_eq_some_iff.mp htake
      rw [act_idle_some htake]
      simp only [Worker.left, Passage.left]
      omega
    | none =>
      rw [act_idle_none htake]
      simp only [Worker.left]
      omega
  | holding identity passage =>
    rcases passage.served_or with ⟨answer, rfl⟩ | hnot
    · simp only [act, Worker.left, Passage.left]
      omega
    · have hless := Passage.left_next d now (request identity) passage c.engine hnot
      rcases hnext : passage.next d now (request identity) c.engine with ⟨passage', s⟩
      rw [hnext] at hless
      dsimp only at hless
      rw [act_holding hnot hnext]
      simp only [Worker.left]
      omega
  | stopped => cases hworker

variable (ids) in
/-- At most so many steps are left. -/
def left (c : Crew σ κ α) : Nat := 20 * (ids.length - c.next) + (c.workers.map Worker.left).sum

/-- Every step brings the end nearer. -/
theorem Step.left_lt (h : Step d ids c c') : c'.left ids < c.left ids := by
  obtain ⟨now, hworkers, hlets⟩ := h
  have hless := left_act d ids now _ c hlets.1
  unfold left
  rw [hworkers]
  simp only [List.map_append, List.map_cons, List.sum_append, List.sum_cons]
  omega

variable (d ids) in
/-- No crew goes on for ever. -/
theorem step_wellFounded : WellFounded fun c' c : Crew σ κ α => Step d ids c c' :=
  Subrelation.wf (fun hstep => Step.left_lt hstep) (measure (left ids)).wf

/-- Who has a lock can go on. -/
theorem lets_of_locks {worker : Worker α} {handle : Handle} (h : worker.locks = some handle) :
    c.Lets worker := by
  constructor
  · cases worker with
    | stopped => cases h
    | _ => rfl
  · intro other hwants
    rw [Worker.locks_of_wants hwants] at h
    cases h

variable (d ids) in
/-- As long as someone has not stopped, someone can go on. -/
theorem exists_step {worker : Worker α} (hmem : worker ∈ c.workers)
    (hworker : worker.isStopped = false) : ∃ c', Step d ids c c' := by
  have hgo {worker : Worker α} (hmem : worker ∈ c.workers) (hlets : c.Lets worker) :
      ∃ c', Step d ids c c' := by
    obtain ⟨before, after, hworkers⟩ := List.append_of_mem hmem
    exact ⟨_, .go 0 hworkers hlets⟩
  by_cases hlets : c.Lets worker
  · exact hgo hmem hlets
  · -- the worker waits for another one, which has the lock
    have hwaits : ∃ handle, ∃ other ∈ c.workers, other.locks = some handle := by
      by_contra hno
      exact hlets ⟨hworker, fun handle _ other hother hlocks => hno ⟨handle, other, hother, hlocks⟩⟩
    obtain ⟨handle, other, hother, hlocks⟩ := hwaits
    exact hgo hother (lets_of_locks hlocks)

/-- When the crew is done, all have stopped. -/
theorem Done.stopped (h : c.Done d ids) : ∀ worker ∈ c.workers, worker.isStopped = true := by
  intro worker hmem
  cases hworker : worker.isStopped with
  | true => rfl
  | false =>
    obtain ⟨c', hstep⟩ := exists_step d ids hmem hworker
    exact absurd hstep (h c')

/-- A crew whose workers have all stopped is done. -/
theorem done_of_stopped (h : ∀ worker ∈ c.workers, worker.isStopped = true) : c.Done d ids := by
  rintro _ ⟨now, hworkers, hlets, -⟩
  have hstopped := h _ (hworkers ▸ List.mem_append_right _ List.mem_cons_self)
  rw [hlets] at hstopped
  cases hstopped

end

/-! ## A worker alone -/

section

variable {d : Dispatcher σ κ α} {ids : List Identity} {now : Nat} {identity : Identity}

/-- The crew of one worker at work and others that have not begun. -/
def alone (worker : Worker α) (others next : Nat) (report : BatchReport) (s : Engine σ κ α) :
    Crew σ κ α :=
  ⟨s, next, report, worker :: List.replicate others .idle⟩

variable {worker : Worker α} {others next : Nat} {report : BatchReport} {s : Engine σ κ α}

/-- A worker that is alone does not wait. -/
theorem lets_alone (hworker : worker.isStopped = false) :
    (alone worker others next report s).Lets worker := by
  refine ⟨hworker, fun handle hwants other hother hlocks => ?_⟩
  rcases List.mem_cons.mp hother with rfl | hidle
  · rw [Worker.locks_of_wants hwants] at hlocks
    cases hlocks
  · rw [List.eq_of_mem_replicate hidle] at hlocks
    cases hlocks

variable (now) in
/-- With all others stopped, a step of the one is a step of the crew. -/
theorem step_alone (hworker : worker.isStopped = false) {worker' : Worker α} {c : Crew σ κ α}
    (hact : (alone worker others next report s).act d ids now worker = (worker', c)) :
    Step d ids (alone worker others next report s)
      (alone worker' others c.next c.report c.engine) := by
  have hstep : Step d ids (alone worker others next report s) _ :=
    .go now (List.nil_append _).symm (lets_alone hworker)
  rw [hact] at hstep
  exact hstep

/-- A request goes to its end. -/
theorem steps_ends {passage : Passage α} {r : Except Failure Response × Engine σ κ α}
    (h : Passage.Ends d now (request identity) passage s r) :
    Steps d ids (alone (.holding identity passage) others next report s)
      (alone (.holding identity (.served r.1)) others next report r.2) := by
  induction h with
  | served answer s => exact .refl
  | @step passage passage' s s' r hnext _ ih =>
    rcases passage.served_or with ⟨answer, rfl⟩ | hnot
    · cases hnext
      exact ih
    · exact .head (step_alone now rfl (act_holding hnot hnext)) ih

theorem step_record (answer : Except Failure Response) :
    Step d ids (alone (.holding identity (.served answer)) others next report s)
      (alone .idle others next (report.add identity answer)
        (if answer.isOk then s.note [precompiledEvent identity] else s)) :=
  step_alone 0 rfl rfl

/-- A worker that is alone takes an identity, has it serviced and records how that went. -/
theorem steps_item (h : ids[next]? = some identity) {answer : Except Failure Response}
    {s' : Engine σ κ α} (hservice : d.service now (request identity) s = (answer, s')) :
    Steps d ids (alone .idle others next report s)
      (alone .idle others (next + 1) (report.add identity answer)
        (if answer.isOk then s'.note [precompiledEvent identity] else s')) := by
  have htake : Step d ids (alone .idle others next report s)
      (alone (.holding identity .sent) others (next + 1) report s) :=
    step_alone now rfl (act_idle_some h)
  have hends := Passage.ends_sent d now (request identity) s
  rw [hservice] at hends
  exact .head htake (.tail (steps_ends hends) (step_record answer))

/-- The first template of a list is requested, its answer recorded, and then the rest. -/
theorem compileEach_cons {rest : List Identity} {answer : Except Failure Response}
    {s' : Engine σ κ α} (h : d.service now (request identity) s = (answer, s')) :
    compileEach d now (identity :: rest) report s =
      compileEach d now rest (report.add identity answer)
        (if answer.isOk then s'.note [precompiledEvent identity] else s') := by
  rw [compileEach, h]
  rfl

/-- A worker that is alone does what `compileEach` does. -/
theorem steps_compileEach {done rest : List Identity} (hids : ids = done ++ rest) :
    let r := compileEach d now rest report s
    Steps d ids (alone .idle others done.length report s)
      (alone .idle others ids.length r.1 r.2) := by
  induction rest generalizing done report s with
  | nil =>
    rw [List.append_nil] at hids
    rw [hids]
    exact .refl
  | cons identity rest ih =>
    have hat : ids[done.length]? = some identity := by
      rw [hids, List.getElem?_append_right (Nat.le_refl _), Nat.sub_self]
      rfl
    have hids' : ids = (done ++ [identity]) ++ rest := by
      rw [hids, List.append_assoc]
      rfl
    rcases hservice : d.service now (request identity) s with ⟨answer, s'⟩
    rw [compileEach_cons hservice]
    have hrest : Steps d ids (alone .idle others (done ++ [identity]).length
        (report.add identity answer)
        (if answer.isOk then s'.note [precompiledEvent identity] else s')) _ := ih hids'
    rw [List.length_append] at hrest
    exact (steps_item hat hservice).trans hrest

/-- Workers that find nothing to take stop. -/
theorem steps_stop (stopped idle : Nat) {next : Nat} (h : ids.length ≤ next) :
    ∃ next', Steps d ids
      ⟨s, next, report, List.replicate stopped .stopped ++ List.replicate idle .idle⟩
      ⟨s, next', report, List.replicate (stopped + idle) .stopped⟩ := by
  induction idle generalizing stopped next with
  | zero => exact ⟨next, by rw [List.replicate_zero, List.append_nil]; exact .refl⟩
  | succ idle ih =>
    -- the first of those that have not begun stops, and takes a place that is not there
    obtain ⟨next', hsteps⟩ := ih (stopped + 1) (Nat.le_succ_of_le h)
    refine ⟨next', .head ?_ (Nat.succ_add_eq_add_succ stopped idle ▸ hsteps)⟩
    let c : Crew σ κ α :=
      ⟨s, next, report, List.replicate stopped .stopped ++ .idle :: List.replicate idle .idle⟩
    have hstep : Step d ids c _ := .go 0 rfl ⟨rfl, fun _ hwants => by cases hwants⟩
    rw [act_idle_none (List.getElem?_eq_none h)] at hstep
    have hworkers :
        List.replicate (stopped + 1) (.stopped : Worker α) ++ List.replicate idle .idle =
          List.replicate stopped .stopped ++ .stopped :: List.replicate idle .idle := by
      rw [List.replicate_succ', List.append_assoc]
      rfl
    rw [hworkers]
    exact hstep

/-- **Compiling one after the other is one way for any crew to go.** -/
theorem exists_steps_compileAll (d : Dispatcher σ κ α) (now : Nat) (ids : List Identity)
    (jobs : Nat) (s : Engine σ κ α) :
    ∃ c, Steps d ids (start jobs ids.length s) c ∧ c.Done d ids ∧
      (c.sorted, c.engine) = compileAll d now ids s := by
  let r := compileEach d now ids ⟨0, []⟩ s
  obtain ⟨others, hothers⟩ : ∃ others, size jobs ids.length = others + 1 :=
    ⟨size jobs ids.length - 1, (Nat.sub_add_cancel (Nat.le_max_left ..)).symm⟩
  have hstart : start jobs ids.length s = alone .idle others 0 ⟨0, []⟩ s := by
    unfold start alone
    rw [hothers, List.replicate_succ]
  have hids : ids = [] ++ ids := rfl
  have heach : Steps d ids (alone .idle others 0 ⟨0, []⟩ s)
      (alone .idle others ids.length r.1 r.2) := steps_compileEach hids
  obtain ⟨next, hstop⟩ : ∃ next, Steps d ids (alone .idle others ids.length r.1 r.2)
      ⟨r.2, next, r.1, List.replicate (0 + (others + 1)) .stopped⟩ :=
    steps_stop 0 (others + 1) (Nat.le_refl ids.length)
  refine ⟨_, hstart ▸ heach.trans hstop, done_of_stopped fun worker hworker => ?_, rfl⟩
  rw [List.eq_of_mem_replicate hworker]
  rfl

end

end Crew

end TemplateServer.Batch
