import TemplateServer.Proofs.Entry.Retry

/-!
# A refresh is done or leaves no trace

A refresh can fail in several places: the look may find that the source has gone, the entry may have
been taken down, the source may be unreadable, the compiler may refuse it. Wherever it fails, what
was held stays held, with its date, and nothing is counted, released or forgotten: the entry is
`Spared`. All that may have moved is the time of its last look, because a look is remembered before
it is made (`Looked`). What takes the place of an artifact comes with all that belongs to it
(`Renewed`).

`Attempted` adds what the compiler had to do for it: nothing, a compilation that was refused, or a
compilation and the release of what was held. The two go through the ways of a refresh once each
(`Refreshed.spared_or_renewed`, `Refreshed.attempted`), and suppose nothing of the store and the
compiler.
-/

namespace TemplateServer.Entry

variable {σ κ α : Type}

/-- The entry is as it was, or remembers one more look. It looks in development mode only, and not
before it holds something. -/
def Looked (options : Options) (now : Nat) (e e' : Entry α) : Prop :=
  e' = e ∨
    options.development = true ∧ e.held.isSome = true ∧ e' = { e with lastCheck := some now }

/-- Going from `s` to `s'` nothing has changed in the entry but the time of its last look, and the
process has counted nothing. -/
structure Spared (options : Options) (now : Nat) (s s' : Focus σ κ α) : Prop where
  entry : Looked options now s.entry s'.entry
  reloads : s'.backend.reloads = s.backend.reloads

/-- Going from `s` to `s'` the entry has come to hold `held`, under the next generation. It counts
as a reload if something was compiled before, and a reload that was asked for is no longer due. -/
structure Renewed (options : Options) (now : Nat) (held : Held α) (s s' : Focus σ κ α) : Prop where
  entry : ∃ e, Looked options now s.entry e ∧ s'.entry =
    { e with
      held := some held
      generation := e.generation + 1
      reloads := e.reloads + if 0 < e.generation then 1 else 0
      reloadRequested := false }
  reloads : s'.backend.reloads = s.backend.reloads + if 0 < s.entry.generation then 1 else 0

section

variable {setup : Setup σ κ α} {now : Nat} {s s' : Focus σ κ α}

theorem Spared.refl (options : Options) (now : Nat) (s : Focus σ κ α) : Spared options now s s :=
  ⟨.inl rfl, rfl⟩

/-- A look that is due is made in development mode. -/
theorem looked_of_due {e : Entry α} {held : Held α} (hheld : e.held = some held)
    (hdue : e.checkDue setup.options now = true) :
    Looked setup.options now e { e with lastCheck := some now } := by
  refine .inr ⟨(Bool.and_eq_true_iff.mp hdue).1, ?_, rfl⟩
  rw [hheld]
  rfl

/-- The decision to compile spares the entry. -/
theorem NeedsCompile.spared (h : NeedsCompile setup now s s') : Spared setup.options now s s' := by
  cases h with
  | unheld => exact .refl _ _ _
  | requested => exact .refl _ _ _
  | newer hheld _ hdue => exact ⟨looked_of_due hheld hdue, rfl⟩

/-- A success renews an entry that was spared up to there, whatever store and compiler have come
to meanwhile. -/
theorem Spared.renewed_succeed {s'' : Focus σ κ α} (held : Held α)
    (h : Spared setup.options now s s') (hentry : s''.entry = s'.entry)
    (hreloads : s''.backend.reloads = s'.backend.reloads) :
    Renewed setup.options now held s (s''.succeed setup held) where
  entry := ⟨s'.entry, h.entry, by rw [Focus.succeed_entry, hentry]⟩
  reloads := by
    have hgen : s'.entry.generation = s.entry.generation := by
      rcases h.entry with he | ⟨-, -, he⟩
      · rw [he]
      · rw [he]
    rw [Focus.succeed_reloads, hreloads, h.reloads, hentry, hgen]

/-- A refresh that fails spares the entry, and one that succeeds spares or renews it. -/
theorem Refreshed.spared_or_renewed {result : Except Failure Unit}
    (h : Refreshed setup now s result s') :
    Spared setup.options now s s' ∨
      result = .ok () ∧ ∃ held, Renewed setup.options now held s s' := by
  cases h with
  | notDue => exact .inl (.refl _ _ _)
  | current hheld _ hdue | undated hheld _ hdue | vanished hheld _ hdue =>
    exact .inl ⟨looked_of_due hheld hdue, rfl⟩
  | destroyed hneed => exact .inl hneed.spared
  | unreadable hneed => exact .inl ⟨hneed.spared.entry, hneed.spared.reloads⟩
  | refused hneed => exact .inl ⟨hneed.spared.entry, hneed.spared.reloads⟩
  | compiled hneed => exact .inr ⟨rfl, _, hneed.spared.renewed_succeed _ rfl rfl⟩

end

/-- How an attempt to refresh ends that has given the jobs `done` to the compiler. -/
inductive Attempted (setup : Setup σ κ α) (now : Nat)
    (s s' : Focus (σ × List Question) (κ × List (Job α)) α) :
    Except Failure Unit → List (Job α) → Prop
  /-- It fails before anything was compiled. -/
  | stopped {failure : Failure} (hspared : Spared setup.options now s s') :
      Attempted setup now s s' (.error failure) []
  /-- It fails because the compiler does. -/
  | refused {source : String} {failure : Failure}
      (hcomp : (setup.compiler.compile s.entry.identity source s.backend.compiler.1).1 =
        .error failure)
      (hspared : Spared setup.options now s s') :
      Attempted setup now s s' (.error failure) [.compile s.entry.identity source]
  /-- There is nothing to compile. -/
  | kept (hspared : Spared setup.options now s s') : Attempted setup now s s' (.ok ()) []
  /-- What was held before is released when its successor is there. -/
  | renewed {source : String} {held : Held α}
      (hcomp : (setup.compiler.compile s.entry.identity source s.backend.compiler.1).1 =
        .ok held.artifact)
      (hrenewed : Renewed setup.options now held s s') :
      Attempted setup now s s' (.ok ())
        (.compile s.entry.identity source ::
          (s.entry.held.map fun previous => .release previous.artifact).toList)

section

variable {setup : Setup σ κ α} {now : Nat}
  {s s' : Focus (σ × List Question) (κ × List (Job α)) α}

theorem Refreshed.attempted {result : Except Failure Unit}
    (h : Refreshed setup.recorded now s result s') :
    ∃ asked done, s'.questions = s.questions ++ asked ∧ s'.jobs = s.jobs ++ done ∧
      (readsOf asked).length ≤ 1 ∧ Attempted setup now s s' result done := by
  -- looks ask for dates and sources, but read nothing
  cases h with
  | notDue =>
    -- what is held answers, and nothing was asked
    exact ⟨[], [], (List.append_nil _).symm, (List.append_nil _).symm, Nat.zero_le 1,
      .kept (.refl _ _ _)⟩
  | current hheld _ hdue hmod =>
    obtain ⟨-, rfl⟩ := Prod.mk.inj hmod
    exact ⟨[_], [], rfl, (List.append_nil _).symm, Nat.zero_le 1,
      .kept ⟨looked_of_due hheld hdue, rfl⟩⟩
  | undated hheld _ hdue hmod hhas =>
    obtain ⟨-, rfl⟩ := Prod.mk.inj hmod
    obtain ⟨-, rfl⟩ := Prod.mk.inj hhas
    exact ⟨[_, _], [], List.append_assoc _ [_] [_], (List.append_nil _).symm, Nat.zero_le 1,
      .kept ⟨looked_of_due hheld hdue, rfl⟩⟩
  | vanished hheld _ hdue hmod hhas =>
    obtain ⟨-, rfl⟩ := Prod.mk.inj hmod
    obtain ⟨-, rfl⟩ := Prod.mk.inj hhas
    exact ⟨[_, _], [], List.append_assoc _ [_] [_], (List.append_nil _).symm, Nat.zero_le 1,
      .stopped ⟨looked_of_due hheld hdue, rfl⟩⟩
  | destroyed hneed =>
    -- whatever was asked up to there, nothing was read
    obtain ⟨hsame, asked, hasked, hnone⟩ := hneed.records
    refine ⟨asked, [], hasked, ?_, ?_, .stopped hneed.spared⟩
    · rw [Focus.jobs, hsame, List.append_nil]
    · rw [hnone]
      exact Nat.zero_le 1
  | unreadable hneed _ hmod hread =>
    -- the one reading has failed
    obtain ⟨hsame, -⟩ := hneed.records
    obtain ⟨asked, hasked, hone⟩ := hneed.read_once hmod hread
    refine ⟨asked, [], hasked, ?_, Nat.le_of_eq (congrArg _ hone),
      .stopped ⟨hneed.spared.entry, hneed.spared.reloads⟩⟩
    rw [Focus.jobs, Focus.withStore_compiler, hsame, List.append_nil]
  | refused hneed _ hmod hread hcomp =>
    -- the compiler was asked once, and nothing released
    obtain ⟨hsame, -⟩ := hneed.records
    obtain ⟨asked, hasked, hone⟩ := hneed.read_once hmod hread
    rw [hneed.identity_eq, hsame] at hcomp
    obtain ⟨hrefused, rfl⟩ := Prod.mk.inj hcomp
    exact ⟨asked, [_], hasked, rfl, Nat.le_of_eq (congrArg _ hone),
      .refused hrefused ⟨hneed.spared.entry, hneed.spared.reloads⟩⟩
  | compiled hneed _ hmod hread hcomp =>
    obtain ⟨hsame, -⟩ := hneed.records
    obtain ⟨asked, hasked, hone⟩ := hneed.read_once hmod hread
    obtain ⟨last, hentry⟩ := hneed.entry_eq
    rw [hneed.identity_eq, hsame] at hcomp
    obtain ⟨haccepted, rfl⟩ := Prod.mk.inj hcomp
    refine ⟨asked, _, ?_, ?_, Nat.le_of_eq (congrArg _ hone),
      .renewed haccepted (hneed.spared.renewed_succeed _ rfl rfl)⟩
    · rw [Focus.questions, Focus.succeed_store]
      exact hasked
    · -- the compilation comes first, then the release of what was held up to there
      rw [succeed_jobs, Focus.note_entry, Focus.withCompiler_entry, Focus.withStore_entry, hentry]
      exact List.append_assoc _ [_] _

/-- However it ends, a refresh compiles once at most. -/
theorem Attempted.length_givenOf_le {result : Except Failure Unit} {done : List (Job α)}
    (h : Attempted setup now s s' result done) : (givenOf done).length ≤ 1 := by
  cases h with
  | stopped => exact Nat.zero_le 1
  | refused => exact Nat.le_refl 1
  | kept => exact Nat.zero_le 1
  | renewed =>
    cases s.entry.held with
    | none => exact Nat.le_refl 1
    | some => exact Nat.le_refl 1

end

/-- **A refresh is done or leaves no trace.** Whatever the store and the compiler answer, a refresh
that fails has changed nothing in the entry and the process but the time of the last look, which
moves in development mode only and if something is held, and it has released nothing. One that
succeeds may come to the same, where there is nothing to compile; otherwise the entry holds the new
artifact, what it held before is released, and no reload is asked for any more. In both cases the
source was read once at most and compiled once at most. -/
theorem refresh_all_or_nothing (setup : Setup σ κ α) (now : Nat) :
    (∀ s : Focus σ κ α,
      let ended := (refresh setup now).run s
      Spared setup.options now s ended.2 ∨
        ended.1 = .ok () ∧ ∃ held, Renewed setup.options now held s ended.2) ∧
      ∀ s : Focus (σ × List Question) (κ × List (Job α)) α,
        let ended := (refresh setup.recorded now).run s
        ∃ asked done, ended.2.questions = s.questions ++ asked ∧ ended.2.jobs = s.jobs ++ done ∧
          (readsOf asked).length ≤ 1 ∧ (givenOf done).length ≤ 1 ∧
          Attempted setup now s ended.2 ended.1 done := by
  refine ⟨fun s => (refresh_cases setup now s).spared_or_renewed, fun s => ?_⟩
  obtain ⟨asked, done, hasked, hdone, hread, hended⟩ :=
    (refresh_cases setup.recorded now s).attempted
  exact ⟨asked, done, hasked, hdone, hread, hended.length_givenOf_le, hended⟩

/-- A reload that was asked for is still asked for when the source has gone. -/
example (identity : Identity) :
    let marked : Focus Memory Echo.Counts String :=
      ⟨{ (fresh identity false : Entry String) with
          held := some ⟨"v1", some 1⟩
          generation := 1
          reloadRequested := true }, ⟨.empty, .zero, 0, []⟩⟩
    (refresh ⟨Memory.store, Echo.compiler, .standard⟩ 5000).run marked =
      (.error (.sourceNotFound identity.text), marked) := rfl

end TemplateServer.Entry
