import TemplateServer.Entry
import TemplateServer.Proofs.Action

/-!
# How a refresh of an entry goes

Every request to an entry begins with `refresh`, which makes sure that the right artifact is held.
`Refreshed` says once, for any store and any compiler, in which ways it can end and what each of
them leaves behind:

* the artifact is kept: no look was due, or a look found nothing newer;
* a look found that the source has gone;
* a compilation was needed (`NeedsCompile` tells why) and was refused by a teardown, stopped by the
  store or by the compiler, or published its artifact.

`refresh_cases` is the only place where `refresh` is unfolded; what is said about entries
elsewhere is read off `Refreshed`.
-/

namespace TemplateServer.Entry

open TemplateServer.Action

variable {σ κ α β : Type}

namespace Focus

/-- The same with another state of the store. -/
def withStore (store : σ) (s : Focus σ κ α) : Focus σ κ α :=
  { s with backend := { s.backend with store := store } }

/-- The same with another state of the compiler. -/
def withCompiler (compiler : κ) (s : Focus σ κ α) : Focus σ κ α :=
  { s with backend := { s.backend with compiler := compiler } }

/-- Remembers that the source was looked at. -/
def looked (now : Nat) (s : Focus σ κ α) : Focus σ κ α :=
  s.update fun e => { e with lastCheck := some now }

/-- Holds an artifact, in place of any other. -/
def hold (held : Held α) (s : Focus σ κ α) : Focus σ κ α :=
  s.update fun e => { e with held := some held }

/-- What a successful compilation makes of an entry: `held` is published under the next generation,
a reload request is taken back, and a reload is counted if something was compiled before. -/
def succeed (setup : Setup σ κ α) (held : Held α) (s : Focus σ κ α) : Focus σ κ α :=
  let settled := ((s.publish setup held).advance).settle
  if 0 < s.entry.generation then settled.countReload else settled

theorem onStore_eq (ask : StateM σ β) (s : Focus σ κ α) :
    s.onStore ask = ((ask s.backend.store).1, s.withStore (ask s.backend.store).2) := rfl

theorem onCompiler_eq (act : StateM κ β) (s : Focus σ κ α) :
    s.onCompiler act =
      ((act s.backend.compiler).1, s.withCompiler (act s.backend.compiler).2) := rfl

section

variable (s : Focus σ κ α)

@[simp] theorem withStore_entry (store : σ) : (s.withStore store).entry = s.entry := rfl

@[simp] theorem withStore_store (store : σ) : (s.withStore store).backend.store = store := rfl

@[simp] theorem withStore_compiler (store : σ) :
    (s.withStore store).backend.compiler = s.backend.compiler := rfl

@[simp] theorem withCompiler_entry (compiler : κ) : (s.withCompiler compiler).entry = s.entry := rfl

@[simp] theorem withCompiler_store (compiler : κ) :
    (s.withCompiler compiler).backend.store = s.backend.store := rfl

@[simp] theorem withCompiler_compiler (compiler : κ) :
    (s.withCompiler compiler).backend.compiler = compiler := rfl

@[simp] theorem note_entry (events : List Log.Event) : (s.note events).entry = s.entry := rfl

@[simp] theorem note_store (events : List Log.Event) :
    (s.note events).backend.store = s.backend.store := rfl

@[simp] theorem note_compiler (events : List Log.Event) :
    (s.note events).backend.compiler = s.backend.compiler := rfl

@[simp] theorem looked_entry (now : Nat) :
    (s.looked now).entry = { s.entry with lastCheck := some now } := rfl

@[simp] theorem looked_backend (now : Nat) : (s.looked now).backend = s.backend := rfl

@[simp] theorem update_entry (f : Entry α → Entry α) : (s.update f).entry = f s.entry := rfl

@[simp] theorem update_backend (f : Entry α → Entry α) : (s.update f).backend = s.backend := rfl

end

/-- Publishing puts the artifact in place. An artifact that was held before is released, and what
comes of that is at most noted. -/
theorem publish_cases (setup : Setup σ κ α) (held : Held α) (s : Focus σ κ α) :
    (s.entry.held = none ∧ s.publish setup held = s.hold held) ∨
      ∃ previous events, s.entry.held = some previous ∧
        s.publish setup held =
          ((s.hold held).withCompiler
            (setup.compiler.release previous.artifact s.backend.compiler).2).note events := by
  unfold publish
  split
  next hheld => exact .inl ⟨hheld, rfl⟩
  next previous hheld =>
    refine .inr ?_
    dsimp only
    rw [onCompiler_eq]
    split
    next h =>
      obtain ⟨-, rfl⟩ := Prod.mk.inj h
      -- nothing is noted, and noting nothing changes nothing
      refine ⟨previous, [], hheld, ?_⟩
      simp [note, Backend.note, hold, update, withCompiler]
    next reason _ h =>
      obtain ⟨-, rfl⟩ := Prod.mk.inj h
      exact ⟨previous, _, hheld, rfl⟩

/-- Publishing puts the artifact in place of the one held, and nothing else of the entry changes. -/
theorem publish_entry (setup : Setup σ κ α) (held : Held α) (s : Focus σ κ α) :
    (s.publish setup held).entry = { s.entry with held := some held } := by
  rcases s.publish_cases setup held with ⟨-, h⟩ | ⟨_, _, -, h⟩
  · rw [h]; rfl
  · rw [h]; rfl

/-- Publishing asks nothing of the store. -/
theorem publish_store (setup : Setup σ κ α) (held : Held α) (s : Focus σ κ α) :
    (s.publish setup held).backend.store = s.backend.store := by
  rcases s.publish_cases setup held with ⟨-, h⟩ | ⟨_, _, -, h⟩
  · rw [h]; rfl
  · rw [h]; rfl

/-- Publishing counts nothing. -/
theorem publish_reloads (setup : Setup σ κ α) (held : Held α) (s : Focus σ κ α) :
    (s.publish setup held).backend.reloads = s.backend.reloads := by
  rcases s.publish_cases setup held with ⟨-, h⟩ | ⟨_, _, -, h⟩
  · rw [h]; rfl
  · rw [h]; rfl

/-- The entry after a successful compilation. -/
theorem succeed_entry (setup : Setup σ κ α) (held : Held α) (s : Focus σ κ α) :
    (s.succeed setup held).entry =
      { s.entry with
        held := some held
        generation := s.entry.generation + 1
        reloads := s.entry.reloads + if 0 < s.entry.generation then 1 else 0
        reloadRequested := false } := by
  unfold succeed
  split
  next h => simp [countReload, note, settle, advance, publish_entry]
  next h => simp [settle, advance, publish_entry]

/-- The process counts what the entry counts. -/
theorem succeed_reloads (setup : Setup σ κ α) (held : Held α) (s : Focus σ κ α) :
    (s.succeed setup held).backend.reloads =
      s.backend.reloads + if 0 < s.entry.generation then 1 else 0 := by
  unfold succeed
  split
  next => exact congrArg (· + 1) (publish_reloads setup held s)
  next => exact (publish_reloads setup held s).trans (UInt64.add_zero _).symm

/-- The compiler has to release what was held, and nothing else. -/
theorem succeed_compiler (setup : Setup σ κ α) (held : Held α) (s : Focus σ κ α) :
    (s.succeed setup held).backend.compiler =
      match s.entry.held with
      | none => s.backend.compiler
      | some previous => (setup.compiler.release previous.artifact s.backend.compiler).2 := by
  have hsettled :
      (s.succeed setup held).backend.compiler = (s.publish setup held).backend.compiler := by
    unfold succeed
    split <;> rfl
  rw [hsettled]
  rcases s.publish_cases setup held with ⟨hheld, h⟩ | ⟨_, _, hheld, h⟩
  · rw [h, hheld]; rfl
  · rw [h, hheld]; rfl

/-- The store is not asked when a compilation has succeeded. -/
theorem succeed_store (setup : Setup σ κ α) (held : Held α) (s : Focus σ κ α) :
    (s.succeed setup held).backend.store = s.backend.store := by
  unfold succeed
  split
  next => exact publish_store setup held s
  next => exact publish_store setup held s

end Focus

/-- A question to the store moves the store only. -/
theorem run_onStore {ask : StateM σ β} {s : Focus σ κ α} {answer : β} {store : σ}
    (h : ask s.backend.store = (answer, store)) :
    (modifyGet (Focus.onStore ask) : Action σ κ α β).run s = (.ok answer, s.withStore store) := by
  rw [run_modifyGet, Focus.onStore_eq, h]

theorem run_onStore_mk {ask : StateM σ (Except Failure β)} {s : Focus σ κ α}
    {answer : Except Failure β} {store : σ} (h : ask s.backend.store = (answer, store)) :
    (ExceptT.mk (modifyGet (Focus.onStore ask)) : Action σ κ α β).run s =
      (answer, s.withStore store) := by
  rw [run_mk_modifyGet, Focus.onStore_eq, h]

/-- What the compiler does moves the compiler only. -/
theorem run_onCompiler {act : StateM κ β} {s : Focus σ κ α} {answer : β} {compiler : κ}
    (h : act s.backend.compiler = (answer, compiler)) :
    (modifyGet (Focus.onCompiler act) : Action σ κ α β).run s =
      (.ok answer, s.withCompiler compiler) := by
  rw [run_modifyGet, Focus.onCompiler_eq, h]

theorem run_onCompiler_mk {act : StateM κ (Except Failure β)} {s : Focus σ κ α}
    {answer : Except Failure β} {compiler : κ} (h : act s.backend.compiler = (answer, compiler)) :
    (ExceptT.mk (modifyGet (Focus.onCompiler act)) : Action σ κ α β).run s =
      (answer, s.withCompiler compiler) := by
  rw [run_mk_modifyGet, Focus.onCompiler_eq, h]

/-- What is noted when the compiler refuses the source of an identity. -/
def refusalEvent (identity : Identity) (failure : Failure) : Log.Event :=
  ⟨.warn, .cache, s!"Compilation of {identity} failed: {failure.message}"⟩

/-- What is noted when a request for compilation only has been answered. -/
def precompiledEvent (identity : Identity) : Log.Event :=
  ⟨.debug, .cache, s!"Precompiled {identity}"⟩

section

variable (setup : Setup σ κ α) (now : Nat)

/-- A request finds that the source has to be compiled: `NeedsCompile setup now s s'` says why, and
that the entry and its store are in `s'` then. -/
inductive NeedsCompile (s : Focus σ κ α) : Focus σ κ α → Prop
  /-- Nothing is held. -/
  | unheld (hheld : s.entry.held = none) : NeedsCompile s s
  /-- A reload was asked for. -/
  | requested {held : Held α} (hheld : s.entry.held = some held)
      (hreq : s.entry.reloadRequested = true) : NeedsCompile s s
  /-- A look was due and found a newer source. -/
  | newer {held : Held α} {current : Nat} {store : σ} (hheld : s.entry.held = some held)
      (hreq : s.entry.reloadRequested = false)
      (hdue : s.entry.checkDue setup.options now = true)
      (hmod : setup.store.modified s.entry.identity s.backend.store = (some current, store))
      (hnew : held.modified.all (fun earlier => earlier < current) = true) :
      NeedsCompile s ((s.looked now).withStore store)

/-- The ways in which a refresh ends, with what it answers and leaves behind. -/
inductive Refreshed (s : Focus σ κ α) : Except Failure Unit → Focus σ κ α → Prop
  /-- No look at the source is due. -/
  | notDue {held : Held α} (hheld : s.entry.held = some held)
      (hreq : s.entry.reloadRequested = false)
      (hdue : s.entry.checkDue setup.options now = false) : Refreshed s (.ok ()) s
  /-- The source is not newer than the artifact. -/
  | current {held : Held α} {current : Nat} {store : σ} (hheld : s.entry.held = some held)
      (hreq : s.entry.reloadRequested = false)
      (hdue : s.entry.checkDue setup.options now = true)
      (hmod : setup.store.modified s.entry.identity s.backend.store = (some current, store))
      (hold : held.modified.all (fun earlier => earlier < current) = false) :
      Refreshed s (.ok ()) ((s.looked now).withStore store)
  /-- There is a source, but it is not known when it was changed. -/
  | undated {held : Held α} {store store' : σ} (hheld : s.entry.held = some held)
      (hreq : s.entry.reloadRequested = false)
      (hdue : s.entry.checkDue setup.options now = true)
      (hmod : setup.store.modified s.entry.identity s.backend.store = (none, store))
      (hhas : setup.store.has s.entry.identity store = (true, store')) :
      Refreshed s (.ok ()) ((s.looked now).withStore store')
  /-- The source has gone. -/
  | vanished {held : Held α} {store store' : σ} (hheld : s.entry.held = some held)
      (hreq : s.entry.reloadRequested = false)
      (hdue : s.entry.checkDue setup.options now = true)
      (hmod : setup.store.modified s.entry.identity s.backend.store = (none, store))
      (hhas : setup.store.has s.entry.identity store = (false, store')) :
      Refreshed s (.error (.sourceNotFound s.entry.identity.text))
        ((s.looked now).withStore store')
  /-- The entry was taken down and compiles no more. -/
  | destroyed {s' : Focus σ κ α} (hneed : NeedsCompile setup now s s')
      (hdead : s'.entry.destroyed = true) : Refreshed s (.error .shutDown) s'
  /-- The source cannot be read. -/
  | unreadable {s' : Focus σ κ α} {modified : Option Nat} {store store' : σ} {failure : Failure}
      (hneed : NeedsCompile setup now s s') (hdead : s'.entry.destroyed = false)
      (hmod : setup.store.modified s'.entry.identity s'.backend.store = (modified, store))
      (hread : setup.store.read s'.entry.identity store = (.error failure, store')) :
      Refreshed s (.error failure) (s'.withStore store')
  /-- The compiler refuses the source. -/
  | refused {s' : Focus σ κ α} {modified : Option Nat} {store store' : σ} {source : String}
      {failure : Failure} {compiler : κ}
      (hneed : NeedsCompile setup now s s') (hdead : s'.entry.destroyed = false)
      (hmod : setup.store.modified s'.entry.identity s'.backend.store = (modified, store))
      (hread : setup.store.read s'.entry.identity store = (.ok source, store'))
      (hcomp : setup.compiler.compile s'.entry.identity source s'.backend.compiler =
        (.error failure, compiler)) :
      Refreshed s (.error failure)
        (((s'.withStore store').withCompiler compiler).note
          [refusalEvent s'.entry.identity failure])
  /-- The source is compiled, and the artifact published with the time that the source had been
  changed at before it was read. -/
  | compiled {s' : Focus σ κ α} {modified : Option Nat} {store store' : σ} {source : String}
      {artifact : α} {compiler : κ}
      (hneed : NeedsCompile setup now s s') (hdead : s'.entry.destroyed = false)
      (hmod : setup.store.modified s'.entry.identity s'.backend.store = (modified, store))
      (hread : setup.store.read s'.entry.identity store = (.ok source, store'))
      (hcomp : setup.compiler.compile s'.entry.identity source s'.backend.compiler =
        (.ok artifact, compiler)) :
      Refreshed s (.ok ())
        ((((s'.withStore store').withCompiler compiler).note
          (setup.compiler.notes s'.entry.identity source)).succeed setup ⟨artifact, modified⟩)

/-- The decision whether to compile: it is yes for a reason, or the refresh is over. -/
theorem needsCompile_cases (s : Focus σ κ α) :
    (∃ s', (needsCompile setup now).run s = (.ok true, s') ∧ NeedsCompile setup now s s') ∨
      (∃ s', (needsCompile setup now).run s = (.ok false, s') ∧ Refreshed setup now s (.ok ()) s') ∨
      ∃ failure s', (needsCompile setup now).run s = (.error failure, s') ∧
        Refreshed setup now s (.error failure) s' := by
  unfold needsCompile
  rw [run_bind_ok (run_get s)]
  dsimp only
  cases hheld : s.entry.held with
  | none => exact .inl ⟨s, rfl, .unheld hheld⟩
  | some held =>
    cases hreq : s.entry.reloadRequested with
    | true => exact .inl ⟨s, rfl, .requested hheld hreq⟩
    | false =>
      cases hdue : s.entry.checkDue setup.options now with
      | false => exact .inr (.inl ⟨s, rfl, .notDue hheld hreq hdue⟩)
      | true =>
        simp only [Bool.not_true, Bool.false_eq_true, if_false]
        -- the look is remembered before the store is asked, so it counts however it ends
        have hlook : (modify (Focus.update fun e => { e with lastCheck := some now }) :
            Action σ κ α Unit).run s = (.ok (), s.looked now) := rfl
        rw [run_bind_ok hlook]
        rcases hmod : setup.store.modified s.entry.identity s.backend.store
          with ⟨_ | current, store⟩
        · rw [run_bind_ok (run_onStore (s := s.looked now) hmod)]
          rcases hhas : setup.store.has s.entry.identity store with ⟨_ | _, store'⟩
          · refine .inr (.inr ⟨_, _, ?_, .vanished hheld hreq hdue hmod hhas⟩)
            rw [run_bind_ok (run_onStore (s := (s.looked now).withStore store) hhas)]
            rfl
          · refine .inr (.inl ⟨_, ?_, .undated hheld hreq hdue hmod hhas⟩)
            rw [run_bind_ok (run_onStore (s := (s.looked now).withStore store) hhas)]
            rfl
        · rw [run_bind_ok (run_onStore (s := s.looked now) hmod)]
          dsimp only
          cases hnew : held.modified.all fun earlier => earlier < current with
          | true => exact .inl ⟨_, rfl, .newer hheld hreq hdue hmod hnew⟩
          | false => exact .inr (.inl ⟨_, rfl, .current hheld hreq hdue hmod hnew⟩)

section

variable {setup : Setup σ κ α} {s : Focus σ κ α} {modified : Option Nat} {store store' : σ}

/-- A source that cannot be read is not compiled. -/
theorem compileSource_unreadable {failure : Failure}
    (hmod : setup.store.modified s.entry.identity s.backend.store = (modified, store))
    (hread : setup.store.read s.entry.identity store = (.error failure, store')) :
    (compileSource setup).run s = (.error failure, s.withStore store') := by
  unfold compileSource
  rw [run_bind_ok (run_get s)]
  dsimp only
  rw [run_bind_ok (run_onStore hmod),
    run_bind_error (run_onStore_mk (s := s.withStore store) hread)]
  rfl

/-- A source that the compiler refuses leaves a line in the log. -/
theorem compileSource_refused {source : String} {failure : Failure} {compiler : κ}
    (hmod : setup.store.modified s.entry.identity s.backend.store = (modified, store))
    (hread : setup.store.read s.entry.identity store = (.ok source, store'))
    (hcomp : setup.compiler.compile s.entry.identity source s.backend.compiler =
      (.error failure, compiler)) :
    (compileSource setup).run s =
      (.error failure, ((s.withStore store').withCompiler compiler).note
        [refusalEvent s.entry.identity failure]) := by
  unfold compileSource
  rw [run_bind_ok (run_get s)]
  dsimp only
  rw [run_bind_ok (run_onStore hmod), run_bind_ok (run_onStore_mk (s := s.withStore store) hread),
    run_bind_ok (run_onCompiler (s := (s.withStore store).withStore store') hcomp)]
  rfl

/-- An artifact comes with the time of its source, for which the store is asked before it is
read. -/
theorem compileSource_ok {source : String} {artifact : α} {compiler : κ}
    (hmod : setup.store.modified s.entry.identity s.backend.store = (modified, store))
    (hread : setup.store.read s.entry.identity store = (.ok source, store'))
    (hcomp : setup.compiler.compile s.entry.identity source s.backend.compiler =
      (.ok artifact, compiler)) :
    (compileSource setup).run s =
      (.ok ⟨artifact, modified⟩, ((s.withStore store').withCompiler compiler).note
        (setup.compiler.notes s.entry.identity source)) := by
  unfold compileSource
  rw [run_bind_ok (run_get s)]
  dsimp only
  rw [run_bind_ok (run_onStore hmod), run_bind_ok (run_onStore_mk (s := s.withStore store) hread),
    run_bind_ok (run_onCompiler (s := (s.withStore store).withStore store') hcomp)]
  rfl

end

/-- Finding a reason to compile changes nothing in the entry but the time of its last look. -/
theorem NeedsCompile.entry_eq {s s' : Focus σ κ α} (h : NeedsCompile setup now s s') :
    ∃ last, s'.entry = { s.entry with lastCheck := last } := by
  cases h with
  | unheld => exact ⟨s.entry.lastCheck, rfl⟩
  | requested => exact ⟨s.entry.lastCheck, rfl⟩
  | newer => exact ⟨some now, rfl⟩

/-- Looking for a reason to compile leaves the generation as it is. -/
theorem NeedsCompile.generation_eq {s s' : Focus σ κ α} (h : NeedsCompile setup now s s') :
    s'.entry.generation = s.entry.generation := by
  obtain ⟨last, he⟩ := h.entry_eq
  rw [he]

theorem NeedsCompile.identity_eq {s s' : Focus σ κ α} (h : NeedsCompile setup now s s') :
    s'.entry.identity = s.entry.identity := by
  obtain ⟨last, he⟩ := h.entry_eq
  rw [he]

theorem NeedsCompile.destroyed_eq {s s' : Focus σ κ α} (h : NeedsCompile setup now s s') :
    s'.entry.destroyed = s.entry.destroyed := by
  obtain ⟨last, he⟩ := h.entry_eq
  rw [he]

/-- A compilation that is needed goes one of the ways of `Refreshed`. -/
theorem recompile_cases {s s' : Focus σ κ α} (hneed : NeedsCompile setup now s s') :
    Refreshed setup now s ((recompile setup s.entry.generation).run s').1
      ((recompile setup s.entry.generation).run s').2 := by
  unfold recompile
  rw [run_bind_ok (run_get s')]
  dsimp only
  cases hdead : s'.entry.destroyed with
  | true => exact .destroyed hneed hdead
  | false =>
    -- nobody else compiled meanwhile, so the generation is the one that was observed
    rw [if_neg (by simp), if_pos hneed.generation_eq]
    rcases hmod : setup.store.modified s'.entry.identity s'.backend.store with ⟨modified, store⟩
    rcases hread : setup.store.read s'.entry.identity store with ⟨failure | source, store'⟩
    · rw [run_bind_error (compileSource_unreadable hmod hread)]
      exact .unreadable hneed hdead hmod hread
    · rcases hcomp : setup.compiler.compile s'.entry.identity source s'.backend.compiler
        with ⟨failure | artifact, compiler⟩
      · rw [run_bind_error (compileSource_refused hmod hread hcomp)]
        exact .refused hneed hdead hmod hread hcomp
      · rw [run_bind_ok (compileSource_ok hmod hread hcomp), ← hneed.generation_eq]
        have hdone := Refreshed.compiled hneed hdead hmod hread hcomp
        unfold Focus.succeed at hdone
        rw [run_bind_ok (run_modify _ _)]
        by_cases hgen : 0 < s'.entry.generation
        · rw [if_pos hgen, run_modify]
          rw [if_pos (by exact hgen)] at hdone
          exact hdone
        · rw [if_neg hgen, run_pure]
          rw [if_neg (by exact hgen)] at hdone
          exact hdone

/-- **The ways of a refresh.** Whatever the store and the compiler do, a refresh ends in one of the
ways of `Refreshed`. -/
theorem refresh_cases (s : Focus σ κ α) :
    Refreshed setup now s ((refresh setup now).run s).1 ((refresh setup now).run s).2 := by
  unfold refresh
  rw [run_bind_ok (run_get s)]
  dsimp only
  rcases needsCompile_cases setup now s with ⟨s', h, hneed⟩ | ⟨s', h, href⟩ | ⟨_, s', h, href⟩
  · rw [run_bind_ok h]
    exact recompile_cases setup now hneed
  · rw [run_bind_ok h]
    exact href
  · rw [run_bind_error h]
    exact href

theorem Refreshed.of_run {result : Except Failure Unit} {s s' : Focus σ κ α}
    (h : (refresh setup now).run s = (result, s')) : Refreshed setup now s result s' := by
  have hcases := refresh_cases setup now s
  rw [h] at hcases
  exact hcases

/-- An entry stays the entry of its identity. -/
theorem Refreshed.identity_eq {result : Except Failure Unit} {s s' : Focus σ κ α}
    (h : Refreshed setup now s result s') : s'.entry.identity = s.entry.identity := by
  cases h with
  | notDue => rfl
  | current => rfl
  | undated => rfl
  | vanished => rfl
  | destroyed hneed => exact hneed.identity_eq
  | unreadable hneed => exact hneed.identity_eq
  | refused hneed => exact hneed.identity_eq
  | compiled hneed =>
    rw [Focus.succeed_entry]
    exact hneed.identity_eq

/-- Where an artifact is held, no reload was asked for and no look is due, a refresh does
nothing. -/
theorem Refreshed.eq_of_notDue {held : Held α} {result : Except Failure Unit} {s s' : Focus σ κ α}
    (hheld : s.entry.held = some held) (hreq : s.entry.reloadRequested = false)
    (hdue : s.entry.checkDue setup.options now = false) (h : Refreshed setup now s result s') :
    result = .ok () ∧ s' = s := by
  -- there is no reason to compile, which leaves the ways that do not
  have hno {s' : Focus σ κ α} (hneed : NeedsCompile setup now s s') : False := by
    cases hneed with
    | unheld hnone => rw [hheld] at hnone; cases hnone
    | requested _ hreq' => rw [hreq] at hreq'; cases hreq'
    | newer _ _ hdue' _ _ => rw [hdue] at hdue'; cases hdue'
  cases h with
  | notDue => exact ⟨rfl, rfl⟩
  | current _ _ hdue' _ _ => rw [hdue] at hdue'; cases hdue'
  | undated _ _ hdue' _ _ => rw [hdue] at hdue'; cases hdue'
  | vanished _ _ hdue' _ _ => rw [hdue] at hdue'; cases hdue'
  | destroyed hneed => exact (hno hneed).elim
  | unreadable hneed => exact (hno hneed).elim
  | refused hneed => exact (hno hneed).elim
  | compiled hneed => exact (hno hneed).elim

end

section

variable {setup : Setup σ κ α} {now : Nat} {request : Request} {precompile : Bool}
  {error : Option String} {s s' : Focus σ κ α}

/-- A refresh that fails is the end of the request. -/
theorem service_failed {failure : Failure}
    (h : (refresh setup now).run s = (.error failure, s')) :
    (service setup now request precompile error).run s = (.error failure, s') := by
  unfold service
  exact run_bind_error h

/-- A request for compilation only ends with the refresh. -/
theorem service_precompiled (h : (refresh setup now).run s = (.ok (), s')) :
    (service setup now request true error).run s =
      (.ok .compiled, s'.note [precompiledEvent s'.entry.identity]) := by
  unfold service
  rw [run_bind_ok h]
  rfl

/-- Where nothing is held after all, the entry was taken down meanwhile. -/
theorem service_unheld (h : (refresh setup now).run s = (.ok (), s'))
    (hheld : s'.entry.held = none) :
    (service setup now request false error).run s = (.error .shutDown, s') := by
  unfold service run
  rw [run_bind_ok h]
  simp only [Bool.false_eq_true, if_false]
  rw [run_bind_ok (run_get s'), hheld]
  rfl

/-- Any other request executes what is held after the refresh. -/
theorem service_executed {held : Held α} {body : Except Failure String} {compiler : κ}
    (h : (refresh setup now).run s = (.ok (), s')) (hheld : s'.entry.held = some held)
    (hexec : setup.compiler.execute held.artifact (.ofRequest s'.entry.identity request error)
      s'.backend.compiler = (body, compiler)) :
    (service setup now request false error).run s =
      (body.map Response.html, s'.withCompiler compiler) := by
  unfold service run
  rw [run_bind_ok h]
  simp only [Bool.false_eq_true, if_false]
  rw [run_bind_ok (run_get s'), hheld]
  cases body with
  | error failure => rw [run_bind_error (run_onCompiler_mk hexec)]; rfl
  | ok body => rw [run_bind_ok (run_onCompiler_mk hexec)]; rfl

end

section

variable (setup : Setup σ κ α) (now : Nat) (request : Request) (precompile : Bool)
  (error : Option String)

/-- The ways in which a request ends after its refresh, with what it answers and leaves behind. -/
inductive Serviced (s : Focus σ κ α) : Except Failure Response → Focus σ κ α → Prop
  | failed {failure : Failure} {s' : Focus σ κ α}
      (hr : (refresh setup now).run s = (.error failure, s')) : Serviced s (.error failure) s'
  | precompiled {s' : Focus σ κ α} (hr : (refresh setup now).run s = (.ok (), s'))
      (hpre : precompile = true) :
      Serviced s (.ok .compiled) (s'.note [precompiledEvent s'.entry.identity])
  | unheld {s' : Focus σ κ α} (hr : (refresh setup now).run s = (.ok (), s'))
      (hpre : precompile = false) (hheld : s'.entry.held = none) :
      Serviced s (.error .shutDown) s'
  | executed {s' : Focus σ κ α} {held : Held α} {body : Except Failure String} {compiler : κ}
      {answer : Except Failure Response} (hr : (refresh setup now).run s = (.ok (), s'))
      (hpre : precompile = false) (hheld : s'.entry.held = some held)
      (hexec : setup.compiler.execute held.artifact (.ofRequest s'.entry.identity request error)
        s'.backend.compiler = (body, compiler))
      (hanswer : answer = body.map Response.html) : Serviced s answer (s'.withCompiler compiler)

theorem service_cases (s : Focus σ κ α) :
    Serviced setup now request precompile error s
      ((service setup now request precompile error).run s).1
      ((service setup now request precompile error).run s).2 := by
  rcases hr : (refresh setup now).run s with ⟨failure | _, s'⟩
  · rw [service_failed hr]
    exact .failed hr
  · cases precompile with
    | true =>
      rw [service_precompiled hr]
      exact .precompiled hr rfl
    | false =>
      cases hheld : s'.entry.held with
      | none =>
        rw [service_unheld hr hheld]
        exact .unheld hr rfl hheld
      | some held =>
        rw [service_executed hr hheld rfl]
        exact .executed hr rfl hheld rfl rfl

end

theorem Serviced.of_run {setup : Setup σ κ α} {now : Nat} {request : Request} {precompile : Bool}
    {error : Option String} {answer : Except Failure Response} {s s' : Focus σ κ α}
    (h : (service setup now request precompile error).run s = (answer, s')) :
    Serviced setup now request precompile error s answer s' := by
  have hcases := service_cases setup now request precompile error s
  rw [h] at hcases
  exact hcases

/-- An entry keeps its identity through every request. -/
theorem Serviced.identity_eq {setup : Setup σ κ α} {now : Nat} {request : Request}
    {precompile : Bool} {error : Option String} {answer : Except Failure Response}
    {s s' : Focus σ κ α} (h : Serviced setup now request precompile error s answer s') :
    s'.entry.identity = s.entry.identity := by
  cases h with
  | failed hr => exact (Refreshed.of_run _ _ hr).identity_eq
  | precompiled hr => exact (Refreshed.of_run _ _ hr).identity_eq
  | unheld hr => exact (Refreshed.of_run _ _ hr).identity_eq
  | executed hr => exact (Refreshed.of_run _ _ hr).identity_eq

end TemplateServer.Entry
