import TemplateServer.Proofs.Entry.Lane
import TemplateServer.Proofs.Recorded
import TemplateServer.Proofs.Source.Moving

/-!
# Warm entries

A request for compilation only leaves its entry warm: an artifact is held, no reload was asked for,
and in development the source is no newer than the artifact. `Warm` says this over sources in
memory. A refresh of a warm entry finds nothing to do (`Refreshed.of_warm`), so a warm entry stays
warm as long as nobody else touches it or its source, and a request to it is answered from the
artifact (`Serviced.of_warm`).

Every refresh that succeeds makes its entry warm in production, and in development where each
request looks (`Refreshed.warms`). With a check interval it may have succeeded without a look, over
a source that has changed.
-/

namespace TemplateServer

variable {σ κ α : Type}

/-- A job that makes an entry of an identity ready: its source is compiled, or an artifact that was
held before is released. -/
def Job.Prepares (identity : Identity) : Job α → Prop
  | compile compiled _ => compiled = identity
  | execute _ => False
  | release _ => True

namespace Entry

/-! ## What the compiler is told -/

section

variable {store : SourceStore σ} {compiler : Compiler κ α} {options : Options} {now : Nat}
  {s s' : Focus σ (κ × List (Job α)) α}

theorem NeedsCompile.compiler_eq {setup : Setup σ κ α} {s s' : Focus σ κ α}
    (h : NeedsCompile setup now s s') : s'.backend.compiler = s.backend.compiler := by
  cases h <;> rfl

/-- A refresh executes nothing, and compiles its own source only. -/
theorem Refreshed.prepares {result : Except Failure Unit}
    (h : Refreshed ⟨store, compiler.recorded, options⟩ now s result s') :
    ∃ done, s'.jobs = s.jobs ++ done ∧ ∀ job ∈ done, job.Prepares s.entry.identity := by
  have hnone {s' : Focus σ (κ × List (Job α)) α} (hjobs : s'.jobs = s.jobs) :
      ∃ done, s'.jobs = s.jobs ++ done ∧ ∀ job ∈ done, job.Prepares s.entry.identity :=
    ⟨[], by rw [hjobs, List.append_nil], by simp⟩
  cases h with
  | notDue => exact hnone rfl
  | current => exact hnone rfl
  | undated => exact hnone rfl
  | vanished => exact hnone rfl
  | destroyed hneed => exact hnone (congrArg Prod.snd hneed.compiler_eq)
  | unreadable hneed => exact hnone (congrArg Prod.snd hneed.compiler_eq)
  | @refused s₁ _ _ _ source _ _ hneed _ _ _ hcomp =>
    obtain ⟨-, rfl⟩ := Prod.mk.inj hcomp
    refine ⟨[.compile s₁.entry.identity source], ?_, ?_⟩
    · show s₁.jobs ++ _ = _
      rw [show s₁.jobs = s.jobs from congrArg Prod.snd hneed.compiler_eq]
    · rw [hneed.identity_eq]
      exact List.forall_mem_singleton.mpr rfl
  | @compiled s₁ _ _ _ source artifact _ hneed _ _ _ hcomp =>
    obtain ⟨-, rfl⟩ := Prod.mk.inj hcomp
    have hjobs : s₁.jobs = s.jobs := congrArg Prod.snd hneed.compiler_eq
    have hcompiled : ∀ job ∈ [Job.compile (α := α) s₁.entry.identity source],
        job.Prepares s.entry.identity := by
      rw [hneed.identity_eq]
      exact List.forall_mem_singleton.mpr rfl
    rw [Focus.jobs, Focus.succeed_compiler]
    -- what was held is released after the compilation
    cases hheld : s₁.entry.held with
    | none =>
      refine ⟨[.compile s₁.entry.identity source], ?_, hcompiled⟩
      rw [← hjobs]
      simp only [Focus.note_entry, Focus.withCompiler_entry, Focus.withStore_entry, hheld]
      rfl
    | some previous =>
      refine ⟨[.compile s₁.entry.identity source] ++ [.release previous.artifact], ?_, ?_⟩
      · rw [← hjobs, ← List.append_assoc]
        simp only [Focus.note_entry, Focus.withCompiler_entry, Focus.withStore_entry, hheld]
        rfl
      · exact List.forall_mem_append.mpr ⟨hcompiled, List.forall_mem_singleton.mpr trivial⟩

/-- A request does as its refresh does, and then executes something, if it asks for more than
compilation. -/
theorem Serviced.prepares {request : Request} {precompile : Bool} {error : Option String}
    {answer : Except Failure Response}
    (h : Serviced ⟨store, compiler.recorded, options⟩ now request precompile error s answer s') :
    ∃ done, s'.jobs = s.jobs ++ done ∧ ∀ job ∈ done, job.Prepares s.entry.identity ∨
      precompile = false ∧ ∃ artifact, job = .execute artifact := by
  have hrefresh {result : Except Failure Unit} {s₁ : Focus σ (κ × List (Job α)) α}
      (hr : (refresh ⟨store, compiler.recorded, options⟩ now).run s = (result, s₁)) :
      ∃ done, s₁.jobs = s.jobs ++ done ∧ ∀ job ∈ done, job.Prepares s.entry.identity :=
    (Refreshed.of_run _ _ hr).prepares
  cases h with
  | failed hr =>
    obtain ⟨done, hjobs, hall⟩ := hrefresh hr
    exact ⟨done, hjobs, fun job hjob => .inl (hall job hjob)⟩
  | precompiled hr =>
    obtain ⟨done, hjobs, hall⟩ := hrefresh hr
    exact ⟨done, hjobs, fun job hjob => .inl (hall job hjob)⟩
  | unheld hr =>
    obtain ⟨done, hjobs, hall⟩ := hrefresh hr
    exact ⟨done, hjobs, fun job hjob => .inl (hall job hjob)⟩
  | @executed s₁ held _ _ _ hr hpre _ hexec =>
    obtain ⟨-, rfl⟩ := Prod.mk.inj hexec
    obtain ⟨done, hjobs, hall⟩ := hrefresh hr
    refine ⟨done ++ [.execute held.artifact], ?_, fun job hjob => ?_⟩
    · show s₁.jobs ++ [_] = _
      rw [hjobs, List.append_assoc]
    · rcases List.mem_append.mp hjob with hdone | hlast
      · exact .inl (hall job hdone)
      · exact .inr ⟨hpre, held.artifact, List.mem_singleton.mp hlast⟩

end

/-- A refresh that succeeds leaves an artifact. -/
theorem Refreshed.isCompiled {setup : Setup σ κ α} {now : Nat} {s s' : Focus σ κ α}
    (h : Refreshed setup now s (.ok ()) s') : s'.entry.isCompiled = true := by
  unfold Entry.isCompiled
  cases h with
  | notDue hheld => rw [hheld]; rfl
  | current hheld => exact Option.isSome_iff_exists.mpr ⟨_, hheld⟩
  | undated hheld => exact Option.isSome_iff_exists.mpr ⟨_, hheld⟩
  | compiled => rw [Focus.succeed_entry]; rfl

/-! ## Warm entries -/

/-- An entry holds an artifact and has no reason to compile. In production it has none as long as no
reload was asked for; in development its source has to be there, and no newer. -/
structure Warm (options : Options) (artifact : α) (e : Entry α) (m : Memory) : Prop where
  holds : ∃ modified, e.held = some ⟨artifact, modified⟩ ∧
    (options.development = true → ∃ text time, m.find? e.identity = some (text, time) ∧
      modified.all (fun earlier => earlier < time) = false)
  calm : e.reloadRequested = false

section

variable {compiler : Compiler κ α} {options : Options} {now : Nat} {artifact : α}
  {s s' : Focus Memory κ α}

/-- The other sources do not matter. -/
theorem Warm.of_find? {e : Entry α} {m m' : Memory} (h : Warm options artifact e m)
    (hfind : m'.find? e.identity = m.find? e.identity) : Warm options artifact e m' where
  holds := by rw [hfind]; exact h.holds
  calm := h.calm

/-- Nor does it matter when the entry looked. -/
theorem Warm.looked {e : Entry α} {m : Memory} (h : Warm options artifact e m)
    (last : Option Nat) : Warm options artifact { e with lastCheck := last } m :=
  ⟨h.holds, h.calm⟩

theorem development_of_checkDue {e : Entry α} (h : e.checkDue options now = true) :
    options.development = true := by
  unfold checkDue at h
  exact (Bool.and_eq_true_iff.mp h).1

/-- There is no reason to compile. -/
theorem Warm.not_needsCompile (h : Warm options artifact s.entry s.backend.store) :
    ¬NeedsCompile ⟨Memory.store, compiler, options⟩ now s s' := by
  obtain ⟨⟨modified, hheld, hsource⟩, hcalm⟩ := h
  intro hneed
  cases hneed with
  | unheld hnone =>
    rw [hheld] at hnone
    cases hnone
  | requested _ hreq =>
    rw [hcalm] at hreq
    cases hreq
  | newer hsome _ hdue hmod hnew =>
    obtain ⟨text, time, hfind, hold⟩ := hsource (development_of_checkDue hdue)
    rw [hheld] at hsome
    cases hsome
    have hcurrent : (s.backend.store.find? s.entry.identity).map (·.2) = some _ :=
      congrArg Prod.fst hmod
    rw [hfind] at hcurrent
    cases hcurrent
    rw [hold] at hnew
    cases hnew

/-- **A refresh of a warm entry looks, if it is time to, and does nothing else.** -/
theorem Refreshed.of_warm {result : Except Failure Unit}
    (h : Warm options artifact s.entry s.backend.store)
    (hr : Refreshed ⟨Memory.store, compiler, options⟩ now s result s') :
    result = .ok () ∧ s'.backend = s.backend ∧
      ∃ last, s'.entry = { s.entry with lastCheck := last } := by
  have hdated {store : Memory} (hdue : s.entry.checkDue options now = true)
      (hmod : Memory.store.modified s.entry.identity s.backend.store = (none, store)) : False := by
    obtain ⟨_, _, hsource⟩ := h.holds
    obtain ⟨text, time, hfind, -⟩ := hsource (development_of_checkDue hdue)
    have hnone : (s.backend.store.find? s.entry.identity).map (·.2) = none :=
      congrArg Prod.fst hmod
    rw [hfind] at hnone
    cases hnone
  cases hr with
  | notDue => exact ⟨rfl, rfl, s.entry.lastCheck, rfl⟩
  | current _ _ _ hmod =>
    obtain ⟨-, rfl⟩ := Prod.mk.inj hmod
    exact ⟨rfl, rfl, some now, rfl⟩
  -- in memory every source has a time
  | undated _ _ hdue hmod => exact (hdated hdue hmod).elim
  | vanished _ _ hdue hmod => exact (hdated hdue hmod).elim
  -- an entry that is warm has no reason to compile
  | destroyed hneed => exact (h.not_needsCompile hneed).elim
  | unreadable hneed => exact (h.not_needsCompile hneed).elim
  | refused hneed => exact (h.not_needsCompile hneed).elim
  | compiled hneed => exact (h.not_needsCompile hneed).elim

/-- What an entry that holds an artifact answers, and the compiler after that. -/
def fromArtifact (compiler : Compiler κ α) (artifact : α) (context : RenderContext)
    (precompile : Bool) (state : κ) : Except Failure Response × κ :=
  if precompile then (.ok .compiled, state)
  else
    let (body, state) := compiler.execute artifact context state
    (body.map .html, state)

/-- **A request to a warm entry** is answered from the artifact, and leaves the entry warm. -/
theorem Serviced.of_warm {request : Request} {precompile : Bool} {error : Option String}
    {answer : Except Failure Response} (h : Warm options artifact s.entry s.backend.store)
    (hserv : Serviced ⟨Memory.store, compiler, options⟩ now request precompile error s answer s') :
    Warm options artifact s'.entry s'.backend.store ∧
      (answer, s'.backend.compiler) = fromArtifact compiler artifact
        (.ofRequest s.entry.identity request error) precompile s.backend.compiler := by
  have hrefresh {result : Except Failure Unit} {s₁ : Focus Memory κ α}
      (hr : (refresh ⟨Memory.store, compiler, options⟩ now).run s = (result, s₁)) :
      result = .ok () ∧ s₁.backend = s.backend ∧
        ∃ last, s₁.entry = { s.entry with lastCheck := last } :=
    (Refreshed.of_run _ _ hr).of_warm h
  obtain ⟨modified, hheld, -⟩ := h.holds
  cases hserv with
  | failed hr =>
    -- a warm entry answers
    obtain ⟨hok, -⟩ := hrefresh hr
    cases hok
  | @precompiled s₁ hr hpre =>
    obtain ⟨-, hbackend, last, hentry⟩ := hrefresh hr
    subst hpre
    have hwarm : Warm options artifact s₁.entry s₁.backend.store := by
      rw [hentry, hbackend]
      exact h.looked last
    refine ⟨hwarm, ?_⟩
    show (_, s₁.backend.compiler) = _
    rw [hbackend]
    rfl
  | unheld hr _ hnone =>
    -- a refresh of a warm entry leaves what is held
    obtain ⟨-, -, last, hentry⟩ := hrefresh hr
    rw [hentry, hheld] at hnone
    cases hnone
  | @executed s₁ _ body state _ hr hpre hsome hexec hanswer =>
    obtain ⟨-, hbackend, last, hentry⟩ := hrefresh hr
    subst hpre
    have hwarm : Warm options artifact s₁.entry s₁.backend.store := by
      rw [hentry, hbackend]
      exact h.looked last
    rw [hentry, hheld] at hsome
    cases hsome
    rw [hentry, hbackend] at hexec
    refine ⟨hwarm, ?_⟩
    unfold fromArtifact
    rw [if_neg Bool.false_ne_true, hanswer]
    show _ = (Except.map _ (compiler.execute _ _ _).1, (compiler.execute _ _ _).2)
    rw [hexec]
    rfl

/-- **A refresh that succeeds leaves a warm entry**, in production and where every request looks. -/
theorem Refreshed.warms (hoptions : options.development = false ∨ options.checkInterval = 0)
    (hr : Refreshed ⟨Memory.store, compiler, options⟩ now s (.ok ()) s') :
    ∃ artifact, Warm options artifact s'.entry s'.backend.store := by
  cases hr with
  | @notDue held hheld hreq hdue =>
    -- in development a look would have been due
    have hproduction : options.development = false := by
      rcases hoptions with hproduction | hinterval
      · exact hproduction
      · cases hdevelopment : options.development with
        | false => rfl
        | true =>
          unfold checkDue at hdue
          rw [hdevelopment, hinterval] at hdue
          cases hlast : s.entry.lastCheck <;> simp [hlast] at hdue
    refine ⟨held.artifact, ⟨held.modified, hheld, fun hdevelopment => ?_⟩, hreq⟩
    rw [hproduction] at hdevelopment
    cases hdevelopment
  | @current held current store hheld hreq _ hmod hold =>
    -- the look found the source as old as what is held
    have hcurrent : (s.backend.store.find? s.entry.identity).map (·.2) = some current :=
      congrArg Prod.fst hmod
    obtain ⟨-, rfl⟩ := Prod.mk.inj hmod
    obtain ⟨⟨text, time⟩, hfind, rfl⟩ := Option.map_eq_some_iff.mp hcurrent
    exact ⟨held.artifact, ⟨held.modified, hheld, fun _ => ⟨text, time, hfind, hold⟩⟩, hreq⟩
  | undated _ _ _ hmod hhas =>
    -- in memory every source has a time
    have hnone : (s.backend.store.find? s.entry.identity).map (·.2) = none :=
      congrArg Prod.fst hmod
    obtain ⟨-, rfl⟩ := Prod.mk.inj hmod
    have hsome : (s.backend.store.find? s.entry.identity).isSome = true := congrArg Prod.fst hhas
    rw [Option.map_eq_none_iff.mp hnone] at hsome
    cases hsome
  | @compiled s₁ modified store store' source artifact state hneed _ hmod hread hcomp =>
    refine ⟨artifact, ⟨modified, ?_, fun _ => ?_⟩, ?_⟩
    · rw [Focus.succeed_entry]
    · -- the time was asked for before the text was read, of the same source
      obtain ⟨htext, hstore⟩ := Memory.source_of_read hmod hread
      obtain ⟨⟨text, time⟩, hfound, -⟩ := Option.map_eq_some_iff.mp htext
      have hfind : s₁.backend.store.find? s₁.entry.identity = some (text, time) := hfound
      have hmodified : (s₁.backend.store.find? s₁.entry.identity).map (·.2) = modified :=
        congrArg Prod.fst hmod
      rw [hfind] at hmodified
      refine ⟨text, time, ?_, ?_⟩
      · rw [Focus.succeed_store, Focus.succeed_entry]
        show store'.find? s₁.entry.identity = _
        rw [hstore]
        exact hfind
      · rw [← hmodified]
        simp
    · rw [Focus.succeed_entry]

end

end Entry

end TemplateServer
