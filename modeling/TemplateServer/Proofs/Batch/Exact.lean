import TemplateServer.Compiler.Echo
import TemplateServer.Proofs.Batch.Crew
import TemplateServer.Proofs.Batch.Request

/-!
# Batches are exact

However many workers there are and in whichever order they go on, a batch over sources in memory
comes to the same (`batch_exact`): each place of the list is counted or listed once, by what is to
become of its identity, and the cache has an entry for every identity that has a source.

`Crew.Sound` is the invariant. The identities that were taken are those that the workers hold and
those that were recorded (`accounted`), each request is on its way to what is to become of its
identity (`suits`), and no entry was made for anything else (`made`). A step of a request is
`Passage.goes`; the other steps move an identity from the list to a worker, and from there to the
report. A crew that is done holds nothing, so what it has recorded is the list in some order, and
sorting forgets the order.
-/

namespace TemplateServer.Batch

open Dispatcher

variable {κ α : Type}

/-! ## Reports -/

section

variable (m : Memory) (verdict : Identity → String → Except Failure Unit)

/-- The identity and the text of its failure, if it is to fail. -/
def failing (identity : Identity) : Option (Identity × String) :=
  match outcome m verdict identity with
  | .ok _ => none
  | .error failure => some (identity, failure.message)

/-- The report on some identities in the order in which they were recorded. -/
def reportOn (recorded : List Identity) : BatchReport where
  compiled := recorded.countP fun identity => (outcome m verdict identity).isOk
  failures := recorded.filterMap (failing m verdict)

/-- A report goes on with the identity recorded last. -/
theorem reportOn_concat (recorded : List Identity) (identity : Identity) :
    reportOn m verdict (recorded ++ [identity]) =
      (reportOn m verdict recorded).add identity (answer m verdict identity) := by
  unfold reportOn answer failing BatchReport.add
  rw [List.countP_append, List.filterMap_append, List.countP_singleton]
  cases houtcome : outcome m verdict identity with
  | ok => simp [houtcome, Except.map, Except.isOk, Except.toBool]
  | error failure => simp [houtcome, Except.map, Except.isOk, Except.toBool]

/-- Every place is counted or listed. -/
theorem total_reportOn (recorded : List Identity) :
    (reportOn m verdict recorded).compiled + (reportOn m verdict recorded).failures.length =
      recorded.length := by
  induction recorded with
  | nil => rfl
  | cons identity recorded ih =>
    unfold reportOn failing at ih ⊢
    cases houtcome : outcome m verdict identity with
    | ok => simp [houtcome, Except.isOk, Except.toBool] at ih ⊢; omega
    | error => simp [houtcome, Except.isOk, Except.toBool] at ih ⊢; omega

end

/-! ## The order of failures -/

/-- Failures are ordered by their identities, and those of one identity by their reasons. -/
theorem failureLe_iff {p q : Identity × String} :
    failureLe p q = true ↔ p.1 = q.1 ∧ p.2 ≤ q.2 ∨ p.1 ≠ q.1 ∧ Identity.le p.1 q.1 = true := by
  unfold failureLe
  by_cases h : p.1 = q.1
  · rw [if_pos h, Bool.not_eq_true', decide_eq_false_iff_not, String.not_lt]
    exact ⟨fun hle => .inl ⟨h, hle⟩, fun hp => hp.elim (·.2) fun hne => absurd h hne.1⟩
  · rw [if_neg h]
    exact ⟨fun hle => .inr ⟨h, hle⟩, fun hp => hp.elim (fun heq => absurd heq.1 h) (·.2)⟩

theorem failureLe_total (p q : Identity × String) : (failureLe p q || failureLe q p) = true := by
  rw [Bool.or_eq_true, failureLe_iff, failureLe_iff]
  by_cases h : p.1 = q.1
  · rcases String.le_total p.2 q.2 with hle | hle
    · exact .inl (.inl ⟨h, hle⟩)
    · exact .inr (.inl ⟨h.symm, hle⟩)
  · rcases Bool.or_eq_true_iff.mp (Identity.le_total p.1 q.1) with hle | hle
    · exact .inl (.inr ⟨h, hle⟩)
    · exact .inr (.inr ⟨Ne.symm h, hle⟩)

theorem failureLe_antisymm {p q : Identity × String} (h : failureLe p q = true)
    (h' : failureLe q p = true) : p = q := by
  rw [failureLe_iff] at h h'
  rcases h with ⟨heq, hle⟩ | ⟨hne, hle⟩
  · rcases h' with ⟨-, hle'⟩ | ⟨hne, -⟩
    · exact Prod.ext heq (String.le_antisymm hle hle')
    · exact absurd heq.symm hne
  · rcases h' with ⟨heq, -⟩ | ⟨-, hle'⟩
    · exact absurd heq.symm hne
    · exact absurd (Identity.le_antisymm hle hle') hne

theorem failureLe_trans (p q r : Identity × String) (h : failureLe p q = true)
    (h' : failureLe q r = true) : failureLe p r = true := by
  rw [failureLe_iff] at h h' ⊢
  rcases h with ⟨heq, hle⟩ | ⟨hne, hle⟩
  · rw [heq]
    rcases h' with ⟨heq', hle'⟩ | hlater
    · exact .inl ⟨heq', String.le_trans hle hle'⟩
    · exact .inr hlater
  · rcases h' with ⟨heq', -⟩ | ⟨-, hle'⟩
    · rw [← heq']
      exact .inr ⟨hne, hle⟩
    · refine .inr ⟨fun heq => ?_, Identity.le_trans hle hle'⟩
      -- what lies between two that are the same is the same
      rw [← heq] at hle'
      exact hne (Identity.le_antisymm hle hle')

/-- Sorting forgets the order. -/
theorem mergeSort_congr {failures failures' : List (Identity × String)}
    (h : failures.Perm failures') :
    failures.mergeSort failureLe = failures'.mergeSort failureLe :=
  List.Perm.eq_of_pairwise (fun _ _ _ _ => failureLe_antisymm)
    (List.pairwise_mergeSort failureLe_trans failureLe_total failures)
    (List.pairwise_mergeSort failureLe_trans failureLe_total failures')
    ((List.mergeSort_perm _ _).trans (h.trans (List.mergeSort_perm _ _).symm))

/-! ## What the steps of a crew preserve -/

/-- The identities that workers hold. -/
def inHand (workers : List (Worker α)) : List Identity := workers.filterMap Worker.identity?

namespace Crew

/-- What is true of a crew that goes on. `k` is the state of the compiler at the beginning. -/
structure Sound (m : Memory) (verdict : Identity → String → Except Failure Unit)
    (compiler : Compiler κ α) (k : κ) (ids : List Identity) (c : Crew Memory κ α) : Prop where
  prepared : c.engine.Prepared m verdict
  suits : ∀ identity passage, .holding identity passage ∈ c.workers →
    passage.Suits m verdict identity c.engine
  /-- What was taken is held or was recorded. -/
  accounted : ∃ recorded : List Identity,
    (ids.take c.next).Perm (recorded ++ inHand c.workers) ∧
    c.report = reportOn m verdict recorded ∧
    ∀ identity ∈ recorded, (m.find? identity).isSome = true → identity ∈ c.engine.cache.made
  /-- Nobody stops before everything was taken. -/
  stopped : ∀ worker ∈ c.workers, worker.isStopped = true → ids.length ≤ c.next
  made : ∀ identity ∈ c.engine.cache.made, identity ∈ ids
  spares : compiler.Spares k c.engine.backend.compiler

variable {m : Memory} {verdict : Identity → String → Except Failure Unit}
  {compiler : Compiler κ α} {options : Options} {page : Option Identity} {k : κ}
  {ids : List Identity} {c c' : Crew Memory κ α} {before after : List (Worker α)}
  {worker worker' : Worker α} {identity : Identity}

theorem Sound.start (m : Memory) (verdict : Identity → String → Except Failure Unit)
    (compiler : Compiler κ α) (k : κ) (ids : List Identity) (jobs : Nat) :
    Sound m verdict compiler k ids (Crew.start jobs ids.length (.start m k)) where
  prepared := .start m verdict k
  suits identity passage hmem := by cases List.eq_of_mem_replicate hmem
  accounted := by
    refine ⟨[], ?_, rfl, fun _ hmem => by cases hmem⟩
    have hnone : inHand (Crew.start jobs ids.length (.start m k) : Crew Memory κ α).workers = [] :=
      List.filterMap_eq_nil_iff.mpr fun worker hmem => by
        rw [List.eq_of_mem_replicate hmem]
        rfl
    rw [hnone]
    exact .refl _
  stopped worker hmem hstopped := by
    rw [List.eq_of_mem_replicate hmem] at hstopped
    cases hstopped
  made _ hmem := by cases hmem
  spares := .refl

/-- Who is in the place of a worker, or one of the others. -/
theorem mem_of_mem_put (hworkers : c.workers = before ++ worker :: after) {other : Worker α}
    (h : other ∈ before ++ worker' :: after) : other = worker' ∨ other ∈ c.workers := by
  rw [hworkers]
  rcases List.mem_append.mp h with hbefore | hrest
  · exact .inr (List.mem_append_left _ hbefore)
  · rcases List.mem_cons.mp hrest with hself | hafter
    · exact .inl hself
    · exact .inr (List.mem_append_right _ (List.mem_cons_of_mem _ hafter))

theorem mem_workers (hworkers : c.workers = before ++ worker :: after) : worker ∈ c.workers :=
  hworkers ▸ List.mem_append_right before List.mem_cons_self

/-- What is in hand is what the worker that moves has, and what the others have. -/
theorem inHand_put (before after : List (Worker α)) (worker : Worker α) :
    (inHand (before ++ worker :: after)).Perm
      (worker.identity?.toList ++ inHand (before ++ after)) := by
  unfold inHand
  rw [List.filterMap_append, List.filterMap_append, List.filterMap_cons]
  cases worker.identity? with
  | none => exact .refl _
  | some identity => exact List.perm_middle

namespace Sound

/-- An identity that is held is one of the list. -/
theorem mem_of_holding (h : Sound m verdict compiler k ids c) {passage : Passage α}
    (hmem : .holding identity passage ∈ c.workers) : identity ∈ ids := by
  obtain ⟨recorded, hperm, -⟩ := h.accounted
  have hheld : identity ∈ inHand c.workers := List.mem_filterMap.mpr ⟨_, hmem, rfl⟩
  exact List.mem_of_mem_take (hperm.mem_iff.mpr (List.mem_append_right recorded hheld))

/-- A worker takes an identity. -/
theorem take (h : Sound m verdict compiler k ids c)
    (hworkers : c.workers = before ++ .idle :: after) (htake : ids[c.next]? = some identity) :
    Sound m verdict compiler k ids
      { c with next := c.next + 1, workers := before ++ .holding identity .sent :: after } where
  prepared := h.prepared
  suits identity' passage hmem := by
    rcases mem_of_mem_put hworkers hmem with hnew | hold
    · cases hnew
      trivial
    · exact h.suits identity' passage hold
  accounted := by
    obtain ⟨recorded, hperm, hreport, hmade⟩ := h.accounted
    rw [hworkers] at hperm
    have hrest := hperm.trans ((inHand_put before after .idle).append_left recorded)
    -- the identity goes from the list to what is in hand
    refine ⟨recorded, .trans ?_ ((inHand_put before after _).append_left recorded).symm, hreport,
      hmade⟩
    show (ids.take (c.next + 1)).Perm (recorded ++ ([identity] ++ inHand (before ++ after)))
    rw [List.take_add_one, htake]
    refine (hrest.append_right [identity]).trans ?_
    rw [List.append_assoc]
    exact List.perm_append_comm.append_left recorded
  stopped other hmem hstopped := by
    rcases mem_of_mem_put hworkers hmem with rfl | hold
    · cases hstopped
    · exact Nat.le_succ_of_le (h.stopped other hold hstopped)
  made := h.made
  spares := h.spares

/-- A worker finds nothing more to take. -/
theorem stop (h : Sound m verdict compiler k ids c)
    (hworkers : c.workers = before ++ .idle :: after) (hlast : ids[c.next]? = none) :
    Sound m verdict compiler k ids
      { c with next := c.next + 1, workers := before ++ .stopped :: after } where
  prepared := h.prepared
  suits identity' passage hmem := by
    rcases mem_of_mem_put hworkers hmem with hnew | hold
    · cases hnew
    · exact h.suits identity' passage hold
  accounted := by
    obtain ⟨recorded, hperm, hreport, hmade⟩ := h.accounted
    rw [hworkers] at hperm
    have hall : ids.length ≤ c.next := List.getElem?_eq_none_iff.mp hlast
    refine ⟨recorded, ?_, hreport, hmade⟩
    have hrest := hperm.trans ((inHand_put before after .idle).append_left recorded)
    rw [List.take_of_length_le hall] at hrest
    rw [List.take_of_length_le (Nat.le_succ_of_le hall)]
    exact hrest.trans ((inHand_put before after .stopped).append_left recorded).symm
  stopped _ _ _ := Nat.le_succ_of_le (List.getElem?_eq_none_iff.mp hlast)
  made := h.made
  spares := h.spares

/-- A request goes on. -/
theorem go (h : Sound m verdict compiler k ids c) {passage passage' : Passage α}
    {s : Engine Memory κ α} (hworkers : c.workers = before ++ .holding identity passage :: after)
    (hgoes : Passage.Goes m verdict identity compiler c.engine passage' s) :
    Sound m verdict compiler k ids
      { c with engine := s, workers := before ++ .holding identity passage' :: after } where
  prepared := hgoes.prepared
  suits identity' other hmem := by
    rcases mem_of_mem_put hworkers hmem with hnew | hold
    · cases hnew
      exact hgoes.suits
    · exact (h.suits identity' other hold).of_grows hgoes.grows
  accounted := by
    obtain ⟨recorded, hperm, hreport, hmade⟩ := h.accounted
    rw [hworkers] at hperm
    have hrest := hperm.trans ((inHand_put before after _).append_left recorded)
    have hput := inHand_put before after (.holding identity passage')
    refine ⟨recorded, hrest.trans (hput.append_left recorded).symm, hreport,
      fun other hother hfound => hgoes.grows.mem_made (hmade other hother hfound)⟩
  stopped other hmem hstopped := by
    rcases mem_of_mem_put hworkers hmem with rfl | hold
    · cases hstopped
    · exact h.stopped other hold hstopped
  made other hmade := by
    rcases hgoes.made other hmade with hold | rfl
    · exact h.made other hold
    · exact h.mem_of_holding (mem_workers hworkers)
  spares := h.spares.trans hgoes.spares

/-- A worker records how its request has ended. -/
theorem record (h : Sound m verdict compiler k ids c) {outcome : Except Failure Response}
    (hworkers : c.workers = before ++ .holding identity (.served outcome) :: after)
    (events : List Log.Event) :
    Sound m verdict compiler k ids
      { c with
        engine := c.engine.note events
        report := c.report.add identity outcome
        workers := before ++ .idle :: after } where
  prepared := h.prepared.note events
  suits identity' passage hmem := by
    rcases mem_of_mem_put hworkers hmem with hnew | hold
    · cases hnew
    · exact (h.suits identity' passage hold).of_grows (.refl c.engine)
  accounted := by
    obtain ⟨recorded, hperm, hreport, hmade⟩ := h.accounted
    obtain ⟨houtcome, hthere⟩ := h.suits identity _ (mem_workers hworkers)
    rw [hworkers] at hperm
    -- the identity goes from what is in hand to what was recorded
    refine ⟨recorded ++ [identity], ?_, ?_, fun other hother hfound => ?_⟩
    · rw [List.append_assoc]
      exact (hperm.trans ((inHand_put before after _).append_left recorded)).trans
        (((inHand_put before after .idle).append_left [identity]).append_left recorded).symm
    · show c.report.add identity outcome = _
      rw [reportOn_concat, ← hreport, houtcome]
    · rcases List.mem_append.mp hother with hold | hnew
      · exact hmade other hold hfound
      · rw [List.mem_singleton] at hnew
        subst hnew
        exact hthere hfound
  stopped other hmem hstopped := by
    rcases mem_of_mem_put hworkers hmem with rfl | hold
    · cases hstopped
    · exact h.stopped other hold hstopped
  made := h.made
  spares := h.spares

variable (hjudges : compiler.Judges verdict)

include hjudges

/-- **Every step of a crew keeps it sound.** -/
theorem step (h : Sound m verdict compiler k ids c)
    (hstep : Step ⟨⟨Memory.store, compiler, options⟩, page⟩ ids c c') :
    Sound m verdict compiler k ids c' := by
  obtain @⟨now, worker, before, after, hworkers, hlets⟩ := hstep
  cases worker with
  | idle =>
    cases htake : ids[c.next]? with
    | some identity =>
      rw [act_idle_some htake]
      exact h.take hworkers htake
    | none =>
      rw [act_idle_none htake]
      exact h.stop hworkers htake
  | holding identity passage =>
    rcases passage.served_or with ⟨answer, rfl⟩ | hnot
    · cases answer with
      | ok response => exact h.record hworkers [precompiledEvent identity]
      | error failure =>
        have hrecorded := h.record hworkers []
        rw [Engine.note_nil] at hrecorded
        exact hrecorded
    · rw [act_holding hnot rfl]
      exact h.go hworkers
        (Passage.goes hjudges h.prepared (h.suits identity passage (mem_workers hworkers)))
  | stopped => cases hlets.1

/-- Any number of steps keeps the crew sound. -/
theorem steps (h : Sound m verdict compiler k ids c)
    (hsteps : Steps ⟨⟨Memory.store, compiler, options⟩, page⟩ ids c c') :
    Sound m verdict compiler k ids c' := by
  induction hsteps with
  | refl => exact h
  | tail _ hstep ih => exact ih.step hjudges hstep

end Sound

end Crew

/-! ## What a batch comes to -/

/-- What a batch leaves behind: the report, and the engine. `k` is the state that the compiler was
in. -/
structure Completed (m : Memory) (verdict : Identity → String → Except Failure Unit)
    (compiler : Compiler κ α) (k : κ) (ids : List Identity) (report : BatchReport)
    (s : Engine Memory κ α) : Prop where
  compiled : report.compiled = ids.countP fun identity => (outcome m verdict identity).isOk
  failures : report.failures = (ids.filterMap (failing m verdict)).mergeSort failureLe
  total : report.compiled + report.failures.length = ids.length
  /-- Nothing was executed. -/
  spared : compiler.Spares k s.backend.compiler
  store : s.backend.store = m
  loaded : ∀ identity, identity ∈ s.cache.identities ↔
    identity ∈ ids ∧ (m.find? identity).isSome = true
  distinct : s.cache.identities.Nodup

section

variable {m : Memory} {verdict : Identity → String → Except Failure Unit}
  {compiler : Compiler κ α} {k : κ} {ids : List Identity} {c : Crew Memory κ α}

/-- Where everyone has stopped, all was recorded. -/
theorem Crew.Sound.completed (h : c.Sound m verdict compiler k ids) (hworkers : c.workers ≠ [])
    (hstopped : ∀ worker ∈ c.workers, worker.isStopped = true) :
    Completed m verdict compiler k ids c.sorted c.engine := by
  obtain ⟨recorded, hperm, hreport, hmade⟩ := h.accounted
  -- nobody holds an item, and whoever has stopped has found the list used up
  have hnone : inHand c.workers = [] := List.filterMap_eq_nil_iff.mpr fun worker hmem => by
    have hworker := hstopped worker hmem
    cases worker with
    | stopped => rfl
    | _ => cases hworker
  obtain ⟨worker, hmem⟩ := List.exists_mem_of_ne_nil _ hworkers
  rw [hnone, List.append_nil,
    List.take_of_length_le (h.stopped worker hmem (hstopped worker hmem))] at hperm
  -- the failures come in the order of the schedule, and sorting forgets it
  have hfailures : c.sorted.failures = (ids.filterMap (failing m verdict)).mergeSort failureLe := by
    unfold Crew.sorted
    rw [hreport]
    exact mergeSort_congr (hperm.symm.filterMap _)
  have hcompiled :
      c.sorted.compiled = ids.countP fun identity => (outcome m verdict identity).isOk := by
    unfold Crew.sorted
    rw [hreport]
    exact hperm.symm.countP_eq _
  have hidentities := h.prepared.filed.identities_eq h.prepared.isOpen
  constructor
  · exact hcompiled
  · exact hfailures
  · rw [hcompiled, hfailures, List.length_mergeSort]
    exact total_reportOn m verdict ids
  · exact h.spares
  · exact h.prepared.store
  · intro identity
    rw [hidentities, Identity.mem_sort]
    constructor
    · intro hmem
      obtain ⟨e, he, rfl⟩ := List.mem_map.mp hmem
      obtain ⟨handle, hentry⟩ := List.mem_iff_getElem?.mp he
      exact ⟨h.made _ hmem, (h.prepared.entries handle e hentry).found⟩
    · rintro ⟨hlisted, hfound⟩
      exact hmade identity (hperm.mem_iff.mp hlisted) hfound
  · rw [hidentities]
    exact (List.mergeSort_perm _ _).nodup_iff.mpr h.prepared.filed.distinct

/-- The crew keeps its size. -/
theorem Crew.Step.workers_ne_nil {σ : Type} {d : Dispatcher σ κ α} {c c' : Crew σ κ α}
    (h : Crew.Step d ids c c') : c'.workers ≠ [] := by
  obtain ⟨now, hworkers, hlets⟩ := h
  exact List.append_ne_nil_of_right_ne_nil _ (List.cons_ne_nil _ _)

/-- A crew never loses its last worker. -/
theorem Crew.Steps.workers_ne_nil {σ : Type} {d : Dispatcher σ κ α} {c c' : Crew σ κ α}
    (h : Crew.Steps d ids c c') (hworkers : c.workers ≠ []) : c'.workers ≠ [] := by
  cases h with
  | refl => exact hworkers
  | tail _ hstep => exact hstep.workers_ne_nil

/-- There is at least one worker, however few jobs are asked for. -/
theorem Crew.start_workers_ne_nil {σ : Type} (jobs count : Nat) (s : Engine σ κ α) :
    (Crew.start jobs count s).workers ≠ [] := by
  have hpos : 1 ≤ Crew.size jobs count := Nat.le_max_left ..
  unfold Crew.start
  rw [Ne, List.replicate_eq_nil_iff]
  omega

end

/-- **Batches are exact, whoever does what when.** Sources are in memory and stay as they are, and
what the compiler makes of a source does not depend on what it has done. Then no crew goes on for
ever, and a crew is done when everyone has stopped; to compile one identity after the other is one
way to go; and in whichever way a crew comes to its end, with however many workers, the batch is
completed. -/
theorem batch_exact (compiler : Compiler κ α) (verdict : Identity → String → Except Failure Unit)
    (hjudges : compiler.Judges verdict) (m : Memory) (options : Options) (page : Option Identity)
    (k : κ) (ids : List Identity) (jobs : Nat) :
    let d : Dispatcher Memory κ α := ⟨⟨Memory.store, compiler, options⟩, page⟩
    let start : Crew Memory κ α := .start jobs ids.length (.start m k)
    WellFounded (fun c' c => Crew.Step d ids c c') ∧
      (∀ c : Crew Memory κ α,
        c.Done d ids ↔ ∀ worker ∈ c.workers, worker.isStopped = true) ∧
      (∀ now, ∃ c, Crew.Steps d ids start c ∧ c.Done d ids ∧
        (c.sorted, c.engine) = compileAll d now ids (.start m k)) ∧
      ∀ c, Crew.Steps d ids start c → c.Done d ids →
        Completed m verdict compiler k ids c.sorted c.engine := by
  intro d start
  refine ⟨Crew.step_wellFounded d ids, fun c => ⟨Crew.Done.stopped, Crew.done_of_stopped⟩,
    fun now => Crew.exists_steps_compileAll d now ids jobs (.start m k), fun c hsteps hdone => ?_⟩
  have hsound := (Crew.Sound.start m verdict compiler k ids jobs).steps hjudges hsteps
  exact hsound.completed (hsteps.workers_ne_nil (Crew.start_workers_ne_nil _ _ _)) hdone.stopped

/-- What the compiler that echoes makes of a source. -/
def echoVerdict (identity : Identity) (source : String) : Except Failure Unit :=
  if source = Echo.refusedSource then
    .error (.compile identity.text "rejected by test compiler")
  else .ok ()

/-- The compiler of these examples judges a source by its text. -/
theorem echo_judges : Echo.compiler.Judges echoVerdict := by
  intro identity source k
  unfold Echo.compiler echoVerdict
  dsimp only
  split
  next => rfl
  next => rfl

/-- A name that holds a question mark and the directive. -/
def asking : Identity := ⟨[⟨"w?jsp_precompile=no".toList, by decide⟩], by decide⟩

/-- A template that is refused. -/
def refused : Identity := ⟨[⟨['r'], by decide⟩], by decide⟩

/-- A template that is not there. -/
def absent : Identity := ⟨[⟨['n'], by decide⟩], by decide⟩

/-- The batch of a list with a repetition, by however many workers. -/
theorem batch_exact_asking :
    let m := (Memory.empty.put refused Echo.refusedSource).put asking "q"
    let ids := [asking, refused, absent, asking]
    let d : Dispatcher Memory Echo.Counts String :=
      ⟨⟨Memory.store, Echo.compiler, .standard⟩, none⟩
    let r := compileAll d 0 ids (.start m .zero)
    Echo.compiler.Judges echoVerdict ∧ r.1.compiled = 2 ∧ r.1.failures.length = 2 ∧
      (absent, "/n") ∈ r.1.failures ∧ asking ∈ r.2.cache.identities ∧
      absent ∉ r.2.cache.identities ∧ Echo.compiler.Spares .zero r.2.backend.compiler := by
  intro m ids d r
  obtain ⟨-, -, hway, hall⟩ :=
    batch_exact Echo.compiler echoVerdict echo_judges m .standard none .zero ids 0
  obtain ⟨c, hsteps, hdone, hr⟩ := hway 0
  have hcompleted := hall c hsteps hdone
  have hreport : c.sorted = r.1 := congrArg Prod.fst hr
  have hengine : c.engine = r.2 := congrArg Prod.snd hr
  rw [hreport, hengine] at hcompleted
  have hgood : ids.countP (fun identity => (outcome m echoVerdict identity).isOk) = 2 := rfl
  have hcompiled : r.1.compiled = 2 := hcompleted.compiled.trans hgood
  have htotal : r.1.compiled + r.1.failures.length = 4 := hcompleted.total
  refine ⟨echo_judges, hcompiled, by omega, ?_, ?_, ?_, hcompleted.spared⟩
  · show _ ∈ r.1.failures
    have hfailing : (absent, "/n") ∈ ids.filterMap (failing m echoVerdict) :=
      List.mem_filterMap.mpr ⟨absent, by decide, rfl⟩
    rw [show r.1.failures = _ from hcompleted.failures, List.mem_mergeSort]
    exact hfailing
  · exact (hcompleted.loaded asking).mpr ⟨by decide, rfl⟩
  · intro hmem
    cases ((hcompleted.loaded absent).mp hmem).2

end TemplateServer.Batch
