import TemplateServer.Batch
import TemplateServer.Proofs.Entry.Rush
import TemplateServer.Source.Memory

/-!
# One identity of a batch

What becomes of an identity in a batch is decided before the batch begins: by the source that is in
memory, and by the verdict of the compiler if this depends on nothing else (`Batch.outcome`). No
request of the batch can tell whether others have been there before it or are there at the same
time. An entry that was `Prepared` holds nothing, or what was compiled from the very source with the
very time, so a look finds nothing newer; and what a request remembers of an entry goes on to be
true while others take their steps (`Stage.Suits.of_grows`).

`Stage.goes` is the step lemma of everything: a step of any request for compilation only keeps the
entry prepared, leaves the store alone, and has the compiler execute nothing.
-/

namespace TemplateServer

open TemplateServer.Action

variable {κ α : Type}

/-- What a compiler makes of a source does not depend on what it has done. -/
def Compiler.Judges (compiler : Compiler κ α)
    (verdict : Identity → String → Except Failure Unit) : Prop :=
  ∀ identity source k,
    ((compiler.compile identity source k).1).map (fun _ => ()) = verdict identity source

/-- What a compiler does at once, short of executing something. -/
inductive Compiler.Prepares (compiler : Compiler κ α) (k : κ) : κ → Prop
  | compile (identity : Identity) (source : String) :
      Prepares compiler k (compiler.compile identity source k).2
  | release (artifact : α) : Prepares compiler k (compiler.release artifact k).2

/-- The second state of a compiler is reached from the first without an execution. -/
abbrev Compiler.Spares (compiler : Compiler κ α) := Relation.ReflTransGen compiler.Prepares

namespace Batch

/-- What becomes of an identity. -/
def outcome (m : Memory) (verdict : Identity → String → Except Failure Unit)
    (identity : Identity) : Except Failure Unit :=
  match m.find? identity with
  | none => .error (.sourceNotFound identity.text)
  | some (source, _) => (verdict identity source).mapError (Dispatcher.named identity)

/-- What the request for an identity is answered. -/
def answer (m : Memory) (verdict : Identity → String → Except Failure Unit)
    (identity : Identity) : Except Failure Response :=
  (outcome m verdict identity).map fun _ => .compiled

end Batch

namespace Entry

variable (m : Memory) (verdict : Identity → String → Except Failure Unit)

/-- An entry that only requests for compilation have come to. -/
structure Prepared (e : Entry α) : Prop where
  found : (m.find? e.identity).isSome = true
  alive : e.destroyed = false
  unmarked : e.reloadRequested = false
  dated : ∀ held, e.held = some held → held.modified = (m.find? e.identity).map (·.2)
  good : e.held.isSome = true → Batch.outcome m verdict e.identity = .ok ()
  uncounted : e.held = none → e.generation = 0

/-- How an entry goes on. -/
structure Grows (e e' : Entry α) : Prop where
  identity : e'.identity = e.identity
  generation : e.generation ≤ e'.generation
  held : e.held.isSome = true → e'.held.isSome = true

/-- What a request knows of the entry when it has come to a stage. -/
def Stage.Suits (e : Entry α) : Stage α → Prop
  | called | current _ => True
  | observed generation | waiting generation | entered generation | alive generation =>
    generation ≤ e.generation
  | dated _ modified => modified = (m.find? e.identity).map (·.2)
  | read _ modified source =>
    modified = (m.find? e.identity).map (·.2) ∧
      (m.find? e.identity).map (·.1) = some source
  | compiled _ held =>
    held.modified = (m.find? e.identity).map (·.2) ∧ Batch.outcome m verdict e.identity = .ok ()
  | published _ | advanced _ | settled _ | ready => e.held.isSome = true
  | answered answer =>
    answer.mapError (Dispatcher.named e.identity) = Batch.answer m verdict e.identity

section

variable {e e' : Entry α}

theorem Prepared.fresh {identity : Identity} (h : (m.find? identity).isSome = true)
    (isErrorPage : Bool) : Prepared m verdict (fresh identity isErrorPage : Entry α) where
  found := h
  alive := rfl
  unmarked := rfl
  dated _ hheld := by cases hheld
  good hheld := by cases hheld
  uncounted _ := rfl

theorem Grows.refl (e : Entry α) : Grows e e := ⟨rfl, Nat.le_refl _, id⟩

variable {m verdict}

/-- What a request knows stays true. -/
theorem Stage.Suits.of_grows {stage : Stage α} (h : stage.Suits m verdict e) (hgrows : Grows e e') :
    stage.Suits m verdict e' := by
  cases stage with
  | called | current => trivial
  | observed | waiting | entered | alive => exact Nat.le_trans h hgrows.generation
  | dated | read | compiled | answered =>
    unfold Suits
    rw [hgrows.identity]
    exact h
  | published | advanced | settled | ready => exact hgrows.held h

end

/-! ## Steps -/

/-- What a step of a request leaves behind. -/
structure Goes (compiler : Compiler κ α) (s : Focus Memory κ α) (stage : Stage α)
    (s' : Focus Memory κ α) : Prop where
  prepared : s'.entry.Prepared m verdict
  suits : stage.Suits m verdict s'.entry
  grows : s.entry.Grows s'.entry
  store : s'.backend.store = s.backend.store
  spares : compiler.Spares s.backend.compiler s'.backend.compiler

variable {m verdict} {compiler : Compiler κ α} {options : Options} {c : Errand}
  {s : Focus Memory κ α}

/-- A step that changes the entry in no way that matters. -/
theorem Goes.idle {stage : Stage α} {s' : Focus Memory κ α} (h : s.entry.Prepared m verdict)
    (hentry : ∃ last, s'.entry = { s.entry with lastCheck := last })
    (hstore : s'.backend.store = s.backend.store)
    (hcompiler : compiler.Spares s.backend.compiler s'.backend.compiler)
    (hsuits : stage.Suits m verdict s'.entry) : Goes m verdict compiler s stage s' where
  prepared := by
    obtain ⟨last, hentry⟩ := hentry
    rw [hentry]
    exact ⟨h.found, h.alive, h.unmarked, h.dated, h.good, h.uncounted⟩
  suits := hsuits
  grows := by
    obtain ⟨last, hentry⟩ := hentry
    rw [hentry]
    exact ⟨rfl, Nat.le_refl _, id⟩
  store := hstore
  spares := hcompiler

/-- Where something is held, a look finds nothing newer. -/
theorem Prepared.needsCompile (h : s.entry.Prepared m verdict) (hstore : s.backend.store = m)
    (now : Nat) :
    ∃ last, (Entry.needsCompile ⟨Memory.store, compiler, options⟩ now).run s =
      (.ok s.entry.held.isNone, s.update fun e => { e with lastCheck := last }) := by
  unfold Entry.needsCompile
  rw [run_bind_ok (run_get s)]
  dsimp only
  cases hheld : s.entry.held with
  | none => exact ⟨s.entry.lastCheck, rfl⟩
  | some held =>
    dsimp only
    rw [h.unmarked]
    cases hdue : s.entry.checkDue options now with
    | false => exact ⟨s.entry.lastCheck, rfl⟩
    | true =>
      subst hstore
      obtain ⟨⟨source, version⟩, hfind⟩ := Option.isSome_iff_exists.mp h.found
      have hmod : Memory.store.modified s.entry.identity s.backend.store =
          (some version, s.backend.store) := by
        unfold Memory.store
        dsimp only
        rw [hfind]
        rfl
      have hdated : held.modified = some version := by
        rw [h.dated held hheld, hfind]
        rfl
      have hlook : (modify (Focus.update fun e => { e with lastCheck := some now }) :
          Action Memory κ α Unit).run s = (.ok (), s.looked now) := rfl
      refine ⟨some now, ?_⟩
      simp only [Bool.not_true, Bool.false_eq_true, if_false]
      rw [run_bind_ok hlook, run_bind_ok (run_onStore (s := s.looked now) hmod), hdated]
      simp only [Option.all_some, Nat.lt_irrefl, decide_false]
      rfl

/-- A step that puts a count, a flag or an artifact in place. -/
theorem Goes.held {stage : Stage α} {s' : Focus Memory κ α} (h : s.entry.Prepared m verdict)
    (hidentity : s'.entry.identity = s.entry.identity)
    (halive : s'.entry.destroyed = s.entry.destroyed)
    (hunmarked : s'.entry.reloadRequested = false)
    (hgeneration : s.entry.generation ≤ s'.entry.generation)
    (hdated : ∀ held, s'.entry.held = some held →
      held.modified = (m.find? s.entry.identity).map (·.2))
    (hheld : s'.entry.held.isSome = true)
    (hgood : Batch.outcome m verdict s.entry.identity = .ok ())
    (hstore : s'.backend.store = s.backend.store)
    (hcompiler : compiler.Spares s.backend.compiler s'.backend.compiler)
    (hsuits : stage.Suits m verdict s'.entry) : Goes m verdict compiler s stage s' where
  prepared := {
    found := hidentity ▸ h.found
    alive := halive.trans h.alive
    unmarked := hunmarked
    dated := hidentity ▸ hdated
    good := fun _ => hidentity ▸ hgood
    uncounted := fun hnone => by rw [hnone] at hheld; cases hheld }
  suits := hsuits
  grows := ⟨hidentity, hgeneration, fun _ => hheld⟩
  store := hstore
  spares := hcompiler

/-- What is published is the only artifact that the entry holds, and the one before is released. -/
theorem Prepared.publish (h : s.entry.Prepared m verdict) {held : Held α} (generation : Nat)
    (hdated : held.modified = (m.find? s.entry.identity).map (·.2))
    (hgood : Batch.outcome m verdict s.entry.identity = .ok ()) :
    Goes m verdict compiler s (.published generation)
      (s.publish ⟨Memory.store, compiler, options⟩ held) := by
  have hentry := s.publish_entry ⟨Memory.store, compiler, options⟩ held
  have hspares : compiler.Spares s.backend.compiler
      (s.publish ⟨Memory.store, compiler, options⟩ held).backend.compiler := by
    rcases s.publish_cases ⟨Memory.store, compiler, options⟩ held with
      ⟨-, hpublish⟩ | ⟨previous, events, -, hpublish⟩
    · rw [hpublish]
      exact .refl
    · rw [hpublish]
      exact .single (.release previous.artifact)
  refine .held h ?_ ?_ ?_ ?_ ?_ ?_ hgood (s.publish_store _ held) hspares ?_
  · rw [hentry]
  · rw [hentry]
  · rw [hentry]
    exact h.unmarked
  · exact Nat.le_of_eq (by rw [hentry])
  · rw [hentry]
    intro other hother
    cases hother
    exact hdated
  · rw [hentry]
    rfl
  · unfold Stage.Suits
    rw [hentry]
    rfl

/-- Only where nothing is held, a look at the source ends in a compilation. -/
theorem Prepared.looks (h : s.entry.Prepared m verdict) (hstore : s.backend.store = m)
    {generation : Nat} (hsuits : (Stage.observed generation : Stage α).Suits m verdict s.entry) :
    Goes m verdict compiler s
      ((Stage.observed generation).next ⟨Memory.store, compiler, options⟩ c s).1
      ((Stage.observed generation).next ⟨Memory.store, compiler, options⟩ c s).2 := by
  have hlook : ∃ last, (Entry.needsCompile ⟨Memory.store, compiler, options⟩ c.now).run s =
      (.ok s.entry.held.isNone, s.update fun e => { e with lastCheck := last }) :=
    h.needsCompile hstore c.now
  obtain ⟨last, hneed⟩ := hlook
  rw [Stage.next_observed hneed]
  refine .idle h ⟨last, rfl⟩ rfl .refl ?_
  cases hheld : s.entry.held with
  | none => exact hsuits
  | some held =>
    show s.entry.held.isSome = true
    rw [hheld]
    rfl

/-- Where the generation is another one than observed, something is held. -/
theorem Prepared.compares (h : s.entry.Prepared m verdict) {generation : Nat}
    (hsuits : (Stage.alive generation : Stage α).Suits m verdict s.entry) :
    Goes m verdict compiler s
      ((Stage.alive generation).next ⟨Memory.store, compiler, options⟩ c s).1
      ((Stage.alive generation).next ⟨Memory.store, compiler, options⟩ c s).2 := by
  by_cases hsame : s.entry.generation = generation
  · rw [Stage.next_alive_same hsame]
    exact .idle h ⟨_, rfl⟩ rfl .refl trivial
  · rw [Stage.next_alive_other hsame]
    refine .idle h ⟨_, rfl⟩ rfl .refl ?_
    -- another request has compiled since the generation was observed
    show s.entry.held.isSome = true
    rw [Option.isSome_iff_ne_none]
    intro hnone
    have hzero := h.uncounted hnone
    have hle : generation ≤ s.entry.generation := hsuits
    omega

/-- The compiler answers what it judges of the source, which is the answer of the batch. -/
theorem Prepared.compiles (hjudges : compiler.Judges verdict) (h : s.entry.Prepared m verdict)
    {generation : Nat} {modified : Option Nat} {source : String}
    (hsuits : (Stage.read generation modified source : Stage α).Suits m verdict s.entry) :
    Goes m verdict compiler s
      ((Stage.read generation modified source).next ⟨Memory.store, compiler, options⟩ c s).1
      ((Stage.read generation modified source).next ⟨Memory.store, compiler, options⟩ c s).2 := by
  obtain ⟨⟨found, version⟩, hfind⟩ := Option.isSome_iff_exists.mp h.found
  obtain ⟨hdated, hsource⟩ := hsuits
  have hverdict := hjudges s.entry.identity source s.backend.compiler
  have houtcome : Batch.outcome m verdict s.entry.identity =
      (verdict s.entry.identity source).mapError (Dispatcher.named s.entry.identity) := by
    rw [hfind] at hsource
    cases hsource
    unfold Batch.outcome
    rw [hfind]
  have hcompiled : compiler.Spares s.backend.compiler
      (compiler.compile s.entry.identity source s.backend.compiler).2 :=
    .single (.compile _ _)
  rcases hcomp : compiler.compile s.entry.identity source s.backend.compiler with
    ⟨failure | artifact, k⟩
  · rw [hcomp] at hverdict hcompiled
    rw [Stage.next_read_error hcomp]
    refine .idle h ⟨_, rfl⟩ rfl hcompiled ?_
    show (Except.error _ : Except Failure Response) = Batch.answer m verdict s.entry.identity
    unfold Batch.answer
    rw [houtcome, ← hverdict]
    rfl
  · rw [hcomp] at hverdict hcompiled
    rw [Stage.next_read hcomp]
    refine .idle h ⟨_, rfl⟩ rfl hcompiled ⟨hdated, ?_⟩
    show Batch.outcome m verdict s.entry.identity = .ok ()
    rw [houtcome, ← hverdict]
    rfl

/-- A reload is counted where something was compiled before. -/
theorem Prepared.counts (h : s.entry.Prepared m verdict) {generation : Nat}
    (hheld : s.entry.held.isSome = true) :
    Goes m verdict compiler s (.ready : Stage α) (s.recount generation) := by
  unfold Focus.recount
  split
  next =>
    exact .held h rfl rfl h.unmarked (Nat.le_refl _) h.dated hheld (h.good hheld) rfl .refl hheld
  next => exact .idle h ⟨_, rfl⟩ rfl .refl hheld

/-- **What a step of a request for compilation only does.** -/
theorem Stage.goes (hjudges : compiler.Judges verdict) (hpre : c.precompile = true)
    (h : s.entry.Prepared m verdict) (hstore : s.backend.store = m) {stage : Stage α}
    (hsuits : stage.Suits m verdict s.entry) :
    Goes m verdict compiler s (stage.next ⟨Memory.store, compiler, options⟩ c s).1
      (stage.next ⟨Memory.store, compiler, options⟩ c s).2 := by
  -- a prepared entry has a source, so neither of the questions to the store fails
  obtain ⟨⟨source, version⟩, hfind⟩ := Option.isSome_iff_exists.mp h.found
  cases stage with
  | called => exact .idle h ⟨_, rfl⟩ rfl .refl (Nat.le_refl _)
  | observed generation => exact h.looks hstore hsuits
  | waiting generation => exact .idle h ⟨_, rfl⟩ rfl .refl hsuits
  | entered generation =>
    rw [next_entered_alive h.alive]
    exact .idle h ⟨_, rfl⟩ rfl .refl hsuits
  | alive generation => exact h.compares hsuits
  | current generation =>
    have hmodified : Memory.store.modified s.entry.identity s.backend.store =
        ((m.find? s.entry.identity).map (·.2), s.backend.store) := by
      subst hstore
      rfl
    rw [next_current hmodified]
    exact .idle h ⟨_, rfl⟩ rfl .refl rfl
  | dated generation modified =>
    have hread : Memory.store.read s.entry.identity s.backend.store =
        (.ok source, s.backend.store) := by
      rw [hstore]
      unfold Memory.store
      dsimp only
      rw [hfind]
    rw [next_dated hread]
    refine .idle h ⟨_, rfl⟩ rfl .refl ⟨hsuits, ?_⟩
    show (m.find? s.entry.identity).map (·.1) = some source
    rw [hfind]
    rfl
  | read generation modified text => exact h.compiles hjudges hsuits
  | compiled generation held => exact h.publish generation hsuits.1 hsuits.2
  | published generation =>
    have hheld : s.entry.held.isSome = true := hsuits
    exact .held h rfl rfl h.unmarked (Nat.le_succ _) h.dated hheld (h.good hheld) rfl .refl hheld
  | advanced generation =>
    have hheld : s.entry.held.isSome = true := hsuits
    exact .held h rfl rfl rfl (Nat.le_refl _) h.dated hheld (h.good hheld) rfl .refl hheld
  | settled generation => exact h.counts hsuits
  | ready =>
    -- what is held is good, so the answer is that it compiles, and nothing is executed
    have hheld : s.entry.held.isSome = true := hsuits
    rw [next_ready (conclude_precompiled hpre)]
    refine .idle h ⟨_, rfl⟩ rfl .refl ?_
    show (Except.ok .compiled : Except Failure Response) = Batch.answer m verdict s.entry.identity
    unfold Batch.answer
    rw [h.good hheld]
    rfl
  | answered answer => exact .idle h ⟨_, rfl⟩ rfl .refl hsuits

end Entry

end TemplateServer
