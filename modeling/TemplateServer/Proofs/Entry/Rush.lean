import Mathlib.Logic.Function.Basic
import TemplateServer.Proofs.Entry.Trades
import TemplateServer.Proofs.Erasure

/-!
# Requests that come to one entry at the same time

A request does not go through an entry at one blow. Between its steps other requests take theirs, a
teardown may take the entry down, and anyone may ask for a reload. A `Rush` is what all of them have
come to after any `Move`s in any order.

What keeps them apart is the lock of compilation. A request takes it when it has found a reason to
compile and lets go of it when its refresh is over; the teardown has it from beginning to end. The
steps themselves, `Stage.next` and `Ending.next`, do not mention it.

The steps are those of the definitions in `TemplateServer.Entry`: a request that nobody interrupts
goes as `service` (`Rush.alone`), and a teardown that nobody interrupts as `Focus.destroy`
(`Rush.tornDown`). What compilers write down changes nothing here either (`Rush.run_view`).
-/

namespace TemplateServer

open TemplateServer.Action

namespace Entry

variable {σ κ α : Type}

/-- What a request comes with. -/
structure Errand where
  now : Nat
  request : Request
  precompile : Bool
  error : Option String

/-- How far a request has come. The generation is the one that it has observed. -/
inductive Stage (α : Type)
  | called
  | observed (generation : Nat)
  /-- There is a reason to compile, and the request wants the lock. -/
  | waiting (generation : Nat)
  | entered (generation : Nat)
  | alive (generation : Nat)
  | current (generation : Nat)
  | dated (generation : Nat) (modified : Option Nat)
  | read (generation : Nat) (modified : Option Nat) (source : String)
  | compiled (generation : Nat) (held : Held α)
  | published (generation : Nat)
  | advanced (generation : Nat)
  | settled (generation : Nat)
  /-- The refresh is over. -/
  | ready
  | answered (answer : Except Failure Response)

/-- How far the teardown has come. -/
inductive Ending (α : Type)
  | pending
  | entered
  | flagged
  | taken (held : Option (Held α))
  | done (result : Except String Unit)

/-- What has the lock of compilation. -/
inductive Party
  | request (n : Nat)
  | teardown
deriving DecidableEq

/-- The lock after a step. -/
def Party.passLock (party : Party) (before after : Bool) (holder : Option Party) : Option Party :=
  if after then some party else if before then none else holder

/-- Counts a reload, if something was compiled before. -/
def Focus.recount (generation : Nat) (s : Focus σ κ α) : Focus σ κ α :=
  if 0 < generation then s.countReload else s

/-- Answers a request after its refresh. -/
def conclude (setup : Setup σ κ α) (c : Errand) : Action σ κ α Response := do
  if c.precompile then
    modify fun s => s.note [precompiledEvent s.entry.identity]
    return .compiled
  run setup c.request c.error

section

variable {setup : Setup σ κ α} {c : Errand} {s : Focus σ κ α}

/-- A request to compile only is answered as soon as its refresh is over, and the artifact is not
executed. -/
theorem conclude_precompiled (hpre : c.precompile = true) :
    (conclude setup c).run s = (.ok .compiled, s.note [precompiledEvent s.entry.identity]) := by
  unfold conclude
  rw [if_pos hpre, run_bind_ok (run_modify _ _)]
  rfl

/-- Where the teardown has taken the artifact, there is nothing left to execute. -/
theorem conclude_unheld (hpre : c.precompile = false) (hheld : s.entry.held = none) :
    (conclude setup c).run s = (.error .shutDown, s) := by
  unfold conclude run
  rw [if_neg (by simp [hpre]), run_bind_ok (run_get s)]
  dsimp only
  rw [hheld]
  rfl

/-- What the artifact gives is the body of the answer, and the entry stays as it is. -/
theorem conclude_held {held : Held α} {body : Except Failure String} {compiler : κ}
    (hpre : c.precompile = false) (hheld : s.entry.held = some held)
    (hexec : setup.compiler.execute held.artifact (.ofRequest s.entry.identity c.request c.error)
      s.backend.compiler = (body, compiler)) :
    (conclude setup c).run s = (body.map .html, s.withCompiler compiler) := by
  unfold conclude run
  rw [if_neg (by simp [hpre]), run_bind_ok (run_get s)]
  dsimp only
  rw [hheld]
  cases body with
  | error failure => rw [run_bind_error (run_onCompiler_mk hexec)]; rfl
  | ok body => rw [run_bind_ok (run_onCompiler_mk hexec)]; rfl

end

namespace Stage

/-- Whether a request waits for the lock and can do nothing without it. -/
def wantsLock : Stage α → Bool
  | waiting _ => true
  | _ => false

/-- A request has the lock from its entrance up to the end of its refresh. -/
def locks : Stage α → Bool
  | entered _ | alive _ | current _ | dated _ _ | read _ _ _ | compiled _ _ | published _
  | advanced _ | settled _ => true
  | called | observed _ | waiting _ | ready | answered _ => false

/-- The next step of a request. -/
def next (setup : Setup σ κ α) (c : Errand) (stage : Stage α) (s : Focus σ κ α) :
    Stage α × Focus σ κ α :=
  match stage with
  | called => (observed s.entry.generation, s)
  | observed generation =>
    match (needsCompile setup c.now).run s with
    | (.ok true, s') => (waiting generation, s')
    | (.ok false, s') => (ready, s')
    | (.error failure, s') => (answered (.error failure), s')
  | waiting generation => (entered generation, s)
  | entered generation =>
    if s.entry.destroyed then (answered (.error .shutDown), s) else (alive generation, s)
  | alive generation =>
    if s.entry.generation = generation then (current generation, s) else (ready, s)
  | current generation =>
    let (modified, s') := s.onStore (setup.store.modified s.entry.identity)
    (dated generation modified, s')
  | dated generation modified =>
    match s.onStore (setup.store.read s.entry.identity) with
    | (.ok source, s') => (read generation modified source, s')
    | (.error failure, s') => (answered (.error failure), s')
  | read generation modified source =>
    match s.onCompiler (setup.compiler.compile s.entry.identity source) with
    | (.ok artifact, s') =>
      (compiled generation ⟨artifact, modified⟩,
        s'.note (setup.compiler.notes s.entry.identity source))
    | (.error failure, s') =>
      (answered (.error failure), s'.note [refusalEvent s.entry.identity failure])
  | compiled generation held => (published generation, s.publish setup held)
  | published generation => (advanced generation, s.advance)
  | advanced generation => (settled generation, s.settle)
  | settled generation => (ready, s.recount generation)
  | ready =>
    let (answer, s') := (conclude setup c).run s
    (answered answer, s')
  | answered answer => (answered answer, s)

end Stage

namespace Ending

/-- The teardown waits for the lock before its first step. -/
def wantsLock : Ending α → Bool
  | pending => true
  | _ => false

/-- The teardown has the lock from its first step to its last. -/
def locks : Ending α → Bool
  | entered | flagged | taken _ => true
  | pending | done _ => false

/-- The next step of the teardown. -/
def next (setup : Setup σ κ α) (ending : Ending α) (s : Focus σ κ α) : Ending α × Focus σ κ α :=
  match ending with
  | pending => (entered, s)
  | entered => (flagged, s.update fun e => { e with destroyed := true })
  | flagged => (taken s.entry.held, s.update fun e => { e with held := none })
  | taken none => (done (.ok ()), s)
  | taken (some held) =>
    let (result, s') := s.onCompiler (setup.compiler.release held.artifact)
    (done result, s')
  | done result => (done result, s)

end Ending

/-- Who does something next. Requests are known by numbers. -/
inductive Rush.Move
  | go (n : Nat)
  | tearDown
  /-- Someone asks for a reload. -/
  | mark
deriving DecidableEq

/-- An entry, and how far everyone has come who came to it. -/
structure Rush (σ κ α : Type) where
  focus : Focus σ κ α
  /-- What has the lock of compilation. -/
  holder : Option Party
  stage : Nat → Stage α
  ending : Ending α

namespace Rush

def start (focus : Focus σ κ α) : Rush σ κ α := ⟨focus, none, fun _ => .called, .pending⟩

/-- Leaves a request at a stage, and the entry and the lock behind. -/
def put (n : Nat) (stage : Stage α) (focus : Focus σ κ α) (holder : Option Party)
    (s : Rush σ κ α) : Rush σ κ α :=
  { s with focus := focus, holder := holder, stage := Function.update s.stage n stage }

section

variable (n : Nat) (stage : Stage α) (focus : Focus σ κ α) (holder : Option Party)
  (s : Rush σ κ α)

@[simp] theorem put_focus : (s.put n stage focus holder).focus = focus := rfl

@[simp] theorem put_holder : (s.put n stage focus holder).holder = holder := rfl

@[simp] theorem put_stage_self : (s.put n stage focus holder).stage n = stage := by
  show Function.update s.stage n stage n = stage
  rw [Function.update_self]

theorem put_stage_ne {m : Nat} (h : m ≠ n) :
    (s.put n stage focus holder).stage m = s.stage m := by
  show Function.update s.stage n stage m = s.stage m
  rw [Function.update_of_ne h]

theorem put_put (stage' : Stage α) (focus' : Focus σ κ α) (holder' : Option Party) :
    (s.put n stage focus holder).put n stage' focus' holder' = s.put n stage' focus' holder' := by
  unfold put
  rw [Function.update_idem]

end

section

variable (setup : Setup σ κ α) (errands : Nat → Errand)

/-- A request takes its next step, unless it has to wait for the lock. -/
def go (n : Nat) (s : Rush σ κ α) : Rush σ κ α :=
  if (s.stage n).wantsLock && s.holder.isSome then s
  else
    let (stage, focus) := (s.stage n).next setup (errands n) s.focus
    s.put n stage focus ((Party.request n).passLock (s.stage n).locks stage.locks s.holder)

/-- The teardown takes its next step, unless it has to wait for the lock. -/
def tearDown (s : Rush σ κ α) : Rush σ κ α :=
  if s.ending.wantsLock && s.holder.isSome then s
  else
    let (ending, focus) := s.ending.next setup s.focus
    { s with
      focus := focus
      ending := ending
      holder := Party.teardown.passLock s.ending.locks ending.locks s.holder }

/-- Someone asks for a reload, without the lock. -/
def mark (s : Rush σ κ α) : Rush σ κ α := { s with focus := s.focus.update markForReload }

def step (s : Rush σ κ α) : Move → Rush σ κ α
  | .go n => s.go setup errands n
  | .tearDown => s.tearDown setup
  | .mark => s.mark

def run (moves : List Move) (s : Rush σ κ α) : Rush σ κ α := moves.foldl (step setup errands) s

end

end Rush

/-! ## The lock -/

namespace Stage

/-- Only a request that wanted the lock comes to have it. -/
theorem locks_next (setup : Setup σ κ α) (c : Errand) {stage : Stage α} (s : Focus σ κ α)
    (hwants : stage.wantsLock = false) (hlocks : stage.locks = false) :
    (stage.next setup c s).1.locks = false := by
  cases stage with
  | called | ready | answered => rfl
  | observed generation =>
    unfold next
    dsimp only
    split <;> rfl
  | waiting => cases hwants
  | _ => cases hlocks

end Stage

/-- A teardown that does not want the lock and does not have it does not get it by a step. -/
theorem Ending.locks_next (setup : Setup σ κ α) {ending : Ending α} (s : Focus σ κ α)
    (hwants : ending.wantsLock = false) (hlocks : ending.locks = false) :
    (ending.next setup s).1.locks = false := by
  cases ending with
  | pending => cases hwants
  | done => rfl
  | _ => cases hlocks

namespace Rush

section

variable {setup : Setup σ κ α} {errands : Nat → Errand} {s : Rush σ κ α}

/-- A request waits for the lock, or takes its next step. It comes to have the lock only if nobody
has it. -/
theorem go_cases {n : Nat} {stage : Stage α} {focus : Focus σ κ α}
    (hnext : (s.stage n).next setup (errands n) s.focus = (stage, focus)) :
    s.go setup errands n = s ∨
      (stage.locks = true → (s.stage n).locks = true ∨ s.holder = none) ∧
        s.go setup errands n = s.put n stage focus
          ((Party.request n).passLock (s.stage n).locks stage.locks s.holder) := by
  unfold go
  by_cases hwait : ((s.stage n).wantsLock && s.holder.isSome) = true
  · rw [if_pos hwait]
    exact .inl rfl
  · rw [if_neg hwait, hnext]
    refine .inr ⟨fun hlocks => ?_, rfl⟩
    -- who has the lock afterwards had it before, or found it free
    cases hwants : (s.stage n).wantsLock with
    | true =>
      rw [hwants, Bool.true_and] at hwait
      exact .inr (by simpa using hwait)
    | false =>
      cases hbefore : (s.stage n).locks with
      | true => exact .inl rfl
      | false =>
        have hoff := Stage.locks_next setup (errands n) s.focus hwants hbefore
        rw [hnext, hlocks] at hoff
        cases hoff

/-- The teardown waits for the lock, or takes its next step. -/
theorem tearDown_cases {ending : Ending α} {focus : Focus σ κ α}
    (hnext : s.ending.next setup s.focus = (ending, focus)) :
    s.tearDown setup = s ∨
      (ending.locks = true → s.ending.locks = true ∨ s.holder = none) ∧
        s.tearDown setup =
          { s with
            focus := focus
            ending := ending
            holder := Party.teardown.passLock s.ending.locks ending.locks s.holder } := by
  unfold tearDown
  by_cases hwait : (s.ending.wantsLock && s.holder.isSome) = true
  · rw [if_pos hwait]
    exact .inl rfl
  · rw [if_neg hwait, hnext]
    refine .inr ⟨fun hlocks => ?_, rfl⟩
    cases hwants : s.ending.wantsLock with
    | true =>
      rw [hwants, Bool.true_and] at hwait
      exact .inr (by simpa using hwait)
    | false =>
      cases hbefore : s.ending.locks with
      | true => exact .inl rfl
      | false =>
        have hoff := Ending.locks_next setup s.focus hwants hbefore
        rw [hnext, hlocks] at hoff
        cases hoff

end

end Rush

/-- What has to hold of the lock: it is with the one who is between its entrance and its end. After
a step of a party, which may have come in if nobody else was there, it holds again. -/
theorem Party.passLock_iff (party : Party) {locked : Party → Bool} (locked' : Party → Bool)
    {holder : Option Party} (h : ∀ p, locked p = true ↔ holder = some p)
    (henter : locked' party = true → locked party = true ∨ holder = none)
    (hothers : ∀ p, p ≠ party → locked' p = locked p) (p : Party) :
    locked' p = true ↔ party.passLock (locked party) (locked' party) holder = some p := by
  unfold passLock
  cases hafter : locked' party with
  | true =>
    rw [if_pos rfl, Option.some_inj]
    constructor
    · intro hp
      by_contra hne
      -- the other one would have been there before
      rw [hothers p (Ne.symm hne)] at hp
      have hholder : holder = some p := (h p).mp hp
      rcases henter hafter with hbefore | hnone
      · have hparty : holder = some party := (h party).mp hbefore
        rw [hholder] at hparty
        exact hne (Option.some.inj hparty).symm
      · rw [hholder] at hnone
        cases hnone
    · rintro rfl
      exact hafter
  | false =>
    rw [if_neg (by simp)]
    by_cases hp : p = party
    · subst hp
      cases hbefore : locked p with
      | true => simp [hafter]
      | false =>
        rw [if_neg (by simp), ← h p, hbefore, hafter]
    · rw [hothers p hp]
      -- if the party had the lock, nobody else has it now
      cases hbefore : locked party with
      | true =>
        have hparty : holder = some party := (h party).mp hbefore
        rw [if_pos rfl, h p, hparty]
        simp [Ne.symm hp]
      | false =>
        rw [if_neg (by simp)]
        exact h p

namespace Rush

/-- Who is between the entrance and the end. -/
def locked (s : Rush σ κ α) : Party → Bool
  | .request n => (s.stage n).locks
  | .teardown => s.ending.locks

/-- The lock is with the one who is between the entrance and the end. -/
def Guarded (s : Rush σ κ α) : Prop := ∀ party, s.locked party = true ↔ s.holder = some party

namespace Guarded

variable {setup : Setup σ κ α} {errands : Nat → Errand} {s : Rush σ κ α}

theorem start (focus : Focus σ κ α) : (Rush.start focus).Guarded := by
  intro party
  cases party <;> simp [Rush.start, locked, Stage.locks, Ending.locks]

/-- A step of one request keeps the lock where it belongs, if the request takes it only when it is
free. -/
theorem put (h : s.Guarded) {n : Nat} {stage : Stage α} (focus : Focus σ κ α)
    (henter : stage.locks = true → (s.stage n).locks = true ∨ s.holder = none) :
    (s.put n stage focus
      ((Party.request n).passLock (s.stage n).locks stage.locks s.holder)).Guarded := by
  have hself : locked (s.put n stage focus
      ((Party.request n).passLock (s.stage n).locks stage.locks s.holder)) (.request n) =
      stage.locks := by
    show (Stage.locks _) = _
    rw [put_stage_self]
  have hpass := Party.passLock_iff (.request n) (locked (s.put n stage focus
    ((Party.request n).passLock (s.stage n).locks stage.locks s.holder))) h
    (by rw [hself]; exact henter) ?_
  · rw [hself] at hpass
    exact hpass
  · rintro (m | _) hne
    · show (Stage.locks _) = _
      rw [put_stage_ne _ _ _ _ _ fun hm => hne (congrArg Party.request hm)]
      rfl
    · rfl

/-- A step of the teardown keeps the lock where it belongs, on the same condition. -/
theorem tearDown (h : s.Guarded) {ending : Ending α} (focus : Focus σ κ α)
    (henter : ending.locks = true → s.ending.locks = true ∨ s.holder = none) :
    Guarded { s with
      focus := focus
      ending := ending
      holder := Party.teardown.passLock s.ending.locks ending.locks s.holder } := by
  refine Party.passLock_iff .teardown _ h henter ?_
  rintro (m | _) hne
  · rfl
  · exact absurd rfl hne

/-- Whatever moves, no two have the lock. -/
theorem step (h : s.Guarded) (move : Move) : (s.step setup errands move).Guarded := by
  cases move with
  | go n =>
    show (s.go setup errands n).Guarded
    rcases go_cases (s := s) (n := n) rfl with hgo | ⟨henter, hgo⟩
    · rw [hgo]
      exact h
    · rw [hgo]
      exact h.put _ henter
  | tearDown =>
    show (s.tearDown setup).Guarded
    rcases tearDown_cases (s := s) rfl with htear | ⟨henter, htear⟩
    · rw [htear]
      exact h
    · rw [htear]
      exact h.tearDown _ henter
  | mark =>
    intro party
    cases party with
    | request n => exact h (.request n)
    | teardown => exact h .teardown

/-- At any time at most one party is behind the lock. -/
theorem run (h : s.Guarded) (moves : List Move) : (s.run setup errands moves).Guarded := by
  induction moves generalizing s with
  | nil => exact h
  | cons move moves ih => exact ih (h.step move)

end Guarded

end Rush

/-! ## Nobody interrupts -/

namespace Stage

section

variable {setup : Setup σ κ α} {c : Errand} {s s' : Focus σ κ α} {generation : Nat}
  {modified : Option Nat} {source : String} {store : σ} {compiler : κ}

/-- The request looks for a reason to compile, and waits for the lock if there is one. -/
theorem next_observed {needed : Bool} (h : (needsCompile setup c.now).run s = (.ok needed, s')) :
    (observed generation).next setup c s =
      (if needed then waiting generation else ready, s') := by
  unfold next
  dsimp only
  rw [h]
  cases needed <;> rfl

/-- A request that cannot find out whether to compile fails. -/
theorem next_observed_error {failure : Failure}
    (h : (needsCompile setup c.now).run s = (.error failure, s')) :
    (observed generation).next setup c s = (answered (.error failure), s') := by
  unfold next
  dsimp only
  rw [h]

/-- With the lock in hand, an entry that is taken down is no longer compiled. -/
theorem next_entered_dead (h : s.entry.destroyed = true) :
    (entered generation).next setup c s = (answered (.error .shutDown), s) := if_pos h

/-- An entry that is not taken down can be compiled. -/
theorem next_entered_alive (h : s.entry.destroyed = false) :
    (entered generation).next setup c s = (alive generation, s) := if_neg (by simp [h])

/-- The generation is still the one observed, so nobody has compiled meanwhile. -/
theorem next_alive_same (h : s.entry.generation = generation) :
    (alive generation).next setup c s = (current generation, s) := if_pos h

/-- Somebody has compiled meanwhile, so the refresh is over. -/
theorem next_alive_other (h : s.entry.generation ≠ generation) :
    (alive generation).next setup c s = (ready, s) := if_neg h

/-- The store is asked when the source was modified, before it is read. -/
theorem next_current
    (h : setup.store.modified s.entry.identity s.backend.store = (modified, store)) :
    (current generation).next setup c s = (dated generation modified, s.withStore store) := by
  unfold next
  dsimp only
  rw [Focus.onStore_eq, h]

theorem next_dated (h : setup.store.read s.entry.identity s.backend.store = (.ok source, store)) :
    (dated generation modified).next setup c s =
      (read generation modified source, s.withStore store) := by
  unfold next
  dsimp only
  rw [Focus.onStore_eq, h]

/-- If the source cannot be read, the request fails for that. -/
theorem next_dated_error {failure : Failure}
    (h : setup.store.read s.entry.identity s.backend.store = (.error failure, store)) :
    (dated generation modified).next setup c s =
      (answered (.error failure), s.withStore store) := by
  unfold next
  dsimp only
  rw [Focus.onStore_eq, h]

/-- The source compiles, and the artifact is kept for the next step with the time of its source. -/
theorem next_read {artifact : α}
    (h : setup.compiler.compile s.entry.identity source s.backend.compiler =
      (.ok artifact, compiler)) :
    (read generation modified source).next setup c s =
      (compiled generation ⟨artifact, modified⟩,
        (s.withCompiler compiler).note (setup.compiler.notes s.entry.identity source)) := by
  unfold next
  dsimp only
  rw [Focus.onCompiler_eq, h]

/-- If it does not compile, the request fails for that, and the refusal is noted. -/
theorem next_read_error {failure : Failure}
    (h : setup.compiler.compile s.entry.identity source s.backend.compiler =
      (.error failure, compiler)) :
    (read generation modified source).next setup c s =
      (answered (.error failure),
        (s.withCompiler compiler).note [refusalEvent s.entry.identity failure]) := by
  unfold next
  dsimp only
  rw [Focus.onCompiler_eq, h]

theorem next_ready {answer : Except Failure Response}
    (h : (conclude setup c).run s = (answer, s')) :
    ready.next setup c s = (answered answer, s') := by
  unfold next
  dsimp only
  rw [h]

end

section

variable (setup : Setup σ κ α) (c : Errand)

/-- Step by step a request comes to an answer, with nobody else moving. -/
inductive Ends : Stage α → Focus σ κ α → Except Failure Response × Focus σ κ α → Prop
  | answered (answer : Except Failure Response) (s : Focus σ κ α) :
      Ends (.answered answer) s (answer, s)
  | step {stage stage' : Stage α} {s s' : Focus σ κ α}
      {r : Except Failure Response × Focus σ κ α}
      (hnext : stage.next setup c s = (stage', s')) (hrest : Ends stage' s' r) : Ends stage s r

/-- At most so many steps are left. -/
def left : Stage α → Nat
  | called => 13
  | observed _ => 12
  | waiting _ => 11
  | entered _ => 10
  | alive _ => 9
  | current _ => 8
  | dated _ _ => 7
  | read _ _ _ => 6
  | compiled _ _ => 5
  | published _ => 4
  | advanced _ => 3
  | settled _ => 2
  | ready => 1
  | answered _ => 0

/-- Every step brings the answer nearer. -/
theorem left_next (stage : Stage α) (s : Focus σ κ α) :
    (∃ answer, stage = .answered answer) ∨ (stage.next setup c s).1.left < stage.left := by
  cases stage with
  | answered answer => exact .inl ⟨answer, rfl⟩
  | called | waiting _ | current _ | compiled _ _ | published _ | advanced _ | settled _ | ready =>
    exact .inr (Nat.lt_succ_self _)
  | observed generation | entered generation | alive generation | dated generation modified
  | read generation modified source =>
    refine .inr ?_
    unfold next
    dsimp only
    split <;> simp [left]

/-- Every request comes to an answer. -/
theorem exists_ends (stage : Stage α) (s : Focus σ κ α) : ∃ r, Ends setup c stage s r := by
  -- on the number of steps that are left
  induction hleft : stage.left using Nat.strongRecOn generalizing stage s with
  | _ n ih =>
    rcases left_next setup c stage s with ⟨answer, rfl⟩ | hless
    · exact ⟨_, .answered answer s⟩
    · obtain ⟨r, hr⟩ := ih _ (hleft ▸ hless) _ (stage.next setup c s).2 rfl
      exact ⟨r, .step rfl hr⟩

/-- What a refresh that is over comes to. -/
def concluded : Except Failure Unit × Focus σ κ α → Except Failure Response × Focus σ κ α
  | (.ok (), s) => (conclude setup c).run s
  | (.error failure, s) => (.error failure, s)

section

variable {setup c} {s s' : Focus σ κ α} {generation : Nat}

theorem ends_ready : Ends setup c ready s ((conclude setup c).run s) :=
  .step (next_ready rfl) (.answered _ _)

/-- A request with a new artifact publishes it, counts it, and is answered. -/
theorem ends_compiled (held : Held α) :
    Ends setup c (compiled generation held) s
      ((conclude setup c).run ((((s.publish setup held).advance).settle).recount generation)) :=
  .step rfl (.step rfl (.step rfl (.step rfl ends_ready)))

/-- The part of `recompile` that is left when everything has been checked. -/
theorem ends_current (halive : s.entry.destroyed = false)
    (hsame : s.entry.generation = generation) :
    Ends setup c (current generation) s
      (concluded setup c ((recompile setup generation).run s)) := by
  have hrun : (recompile setup generation).run s =
      (compileSource setup >>= fun held => do
        modify fun s => ((s.publish setup held).advance).settle
        if 0 < generation then modify Focus.countReload).run s := by
    unfold recompile
    rw [run_bind_ok (run_get s), if_neg (by simp [halive])]
    dsimp only
    rw [if_pos hsame]
  rw [hrun]
  rcases hmod : setup.store.modified s.entry.identity s.backend.store with ⟨modified, store⟩
  rcases hread : setup.store.read s.entry.identity store with ⟨failure | source, store'⟩
  · -- the source cannot be read
    rw [run_bind_error (compileSource_unreadable hmod hread)]
    exact .step (next_current hmod)
      (.step (next_dated_error (s := s.withStore store) hread) (.answered _ _))
  · refine .step (next_current hmod) (.step (next_dated (s := s.withStore store) hread) ?_)
    rcases hcomp : setup.compiler.compile s.entry.identity source s.backend.compiler
      with ⟨failure | artifact, compiler⟩
    · -- the compiler refuses it
      rw [run_bind_error (compileSource_refused hmod hread hcomp)]
      exact .step (next_read_error (s := (s.withStore store).withStore store') hcomp)
        (.answered _ _)
    · rw [run_bind_ok (compileSource_ok hmod hread hcomp), run_bind_ok (run_modify _ _)]
      -- what is left are the steps from the artifact on
      refine .step (next_read (s := (s.withStore store).withStore store') hcomp) ?_
      have hdone : Ends setup c (compiled generation ⟨artifact, modified⟩)
          (((s.withStore store').withCompiler compiler).note
            (setup.compiler.notes s.entry.identity source)) _ := ends_compiled _
      unfold Focus.recount at hdone
      by_cases hgen : 0 < generation
      · rw [if_pos hgen, run_modify]
        rw [if_pos hgen] at hdone
        exact hdone
      · rw [if_neg hgen, run_pure]
        rw [if_neg hgen] at hdone
        exact hdone

/-- A request that got the lock ends as the definition of recompiling says. -/
theorem ends_waiting :
    Ends setup c (waiting generation) s
      (concluded setup c ((recompile setup generation).run s)) := by
  refine .step rfl ?_
  cases hdead : s.entry.destroyed with
  | true =>
    have hrun : (recompile setup generation).run s = (.error .shutDown, s) := by
      unfold recompile
      rw [run_bind_ok (run_get s), if_pos hdead]
      rfl
    rw [hrun]
    -- the check that turns a request away is the first under the lock
    exact .step (next_entered_dead hdead) (.answered _ _)
  | false =>
    refine .step (next_entered_alive hdead) ?_
    by_cases hsame : s.entry.generation = generation
    · -- nobody has compiled since the generation was observed
      exact .step (next_alive_same hsame) (ends_current hdead hsame)
    · have hrun : (recompile setup generation).run s = (.ok (), s) := by
        unfold recompile
        rw [run_bind_ok (run_get s), if_neg (by simp [hdead])]
        dsimp only
        rw [if_neg hsame]
        rfl
      rw [hrun]
      -- someone has, and the artifact is there
      exact .step (next_alive_other hsame) ends_ready

variable (setup c s) in
/-- A request that nobody interrupts goes as `service`. -/
theorem ends_called :
    Ends setup c .called s ((service setup c.now c.request c.precompile c.error).run s) := by
  have hrun : (service setup c.now c.request c.precompile c.error).run s =
      concluded setup c ((refresh setup c.now).run s) := by
    unfold service
    rw [run_bind]
    rcases (refresh setup c.now).run s with ⟨failure | _, s'⟩
    · rfl
    · rfl
  rw [hrun]
  refine .step rfl ?_
  unfold refresh
  rw [run_bind_ok (run_get s)]
  dsimp only
  rcases hneed : (needsCompile setup c.now).run s with ⟨failure | _ | _, s'⟩
  · -- the look has failed
    rw [run_bind_error hneed]
    exact .step (next_observed_error hneed) (.answered _ _)
  · rw [run_bind_ok hneed]
    -- what is held answers
    exact .step (next_observed hneed) ends_ready
  · rw [run_bind_ok hneed]
    -- the source has to be compiled, under the lock
    exact .step (next_observed hneed) ends_waiting

end

end

end Stage

namespace Rush

section

variable {setup : Setup σ κ α} {errands : Nat → Errand} {s : Rush σ κ α} {n : Nat}

/-- Nobody else has the lock. -/
def Unhindered (n : Nat) (s : Rush σ κ α) : Prop :=
  s.holder = if (s.stage n).locks then some (.request n) else none

/-- A step that nothing hinders is the step of the stage, and it takes or passes on the lock. -/
theorem go_unhindered (h : s.Unhindered n) {stage : Stage α} {focus : Focus σ κ α}
    (hnext : (s.stage n).next setup (errands n) s.focus = (stage, focus)) :
    s.go setup errands n =
      s.put n stage focus (if stage.locks then some (.request n) else none) := by
  have hfree : ¬ ((s.stage n).wantsLock && s.holder.isSome) = true := by
    -- who wants the lock does not have it, so nobody has
    unfold Unhindered at h
    rw [h]
    cases s.stage n <;> simp [Stage.wantsLock, Stage.locks]
  unfold go
  rw [if_neg hfree, hnext]
  dsimp only
  unfold Party.passLock
  unfold Unhindered at h
  rw [h]
  cases (s.stage n).locks <;> simp

/-- A request that nobody interrupts comes to its end. -/
theorem run_ends {r : Except Failure Response × Focus σ κ α} (h : s.Unhindered n)
    (hends : Stage.Ends setup (errands n) (s.stage n) s.focus r) :
    ∃ k, s.run setup errands (List.replicate k (.go n)) = s.put n (.answered r.1) r.2 none := by
  generalize hstage : s.stage n = stage at hends
  generalize hfocus : s.focus = focus at hends
  induction hends generalizing s with
  | answered answer focus =>
    refine ⟨0, ?_⟩
    have hholder : s.holder = none := by
      unfold Unhindered at h
      rw [h, hstage]
      rfl
    show s = s.put n (.answered answer) focus none
    unfold put
    rw [← hstage, ← hfocus, ← hholder, Function.update_eq_self]
  | @step _ stage' _ focus' r hnext _ ih =>
    have hgo : s.go setup errands n = _ := go_unhindered h (by rw [hstage, hfocus, hnext])
    obtain ⟨k, hk⟩ := ih (s := s.go setup errands n)
      (by
        unfold Unhindered
        rw [hgo, put_holder, put_stage_self])
      (by rw [hgo, put_stage_self]) (by rw [hgo, put_focus])
    refine ⟨k + 1, ?_⟩
    rw [List.replicate_succ]
    show (s.go setup errands n).run setup errands (List.replicate k (.go n)) = _
    rw [hk, hgo, put_put]

/-- **A request that nobody interrupts goes as `service`.** -/
theorem alone (hcalled : s.stage n = .called) (hfree : s.holder = none) :
    let r := (service setup (errands n).now (errands n).request (errands n).precompile
      (errands n).error).run s.focus
    ∃ k, s.run setup errands (List.replicate k (.go n)) = s.put n (.answered r.1) r.2 none := by
  intro r
  refine run_ends ?_ ?_
  · unfold Unhindered
    rw [hcalled, hfree]
    rfl
  · rw [hcalled]
    exact Stage.ends_called setup (errands n) s.focus

/-- **A teardown that nobody interrupts goes as `Focus.destroy`.** -/
theorem tornDown (hpending : s.ending = .pending) (hfree : s.holder = none) :
    s.run setup errands (List.replicate 4 .tearDown) =
      { s with
        focus := (s.focus.destroy setup).2
        ending := .done (s.focus.destroy setup).1 } := by
  obtain ⟨focus, holder, stage, ending⟩ := s
  cases hpending
  cases hfree
  -- three steps lead to the point where the artifact has been taken
  show (⟨focus.update retired, some .teardown, stage, .taken focus.entry.held⟩ :
    Rush σ κ α).tearDown setup = _
  cases hheld : focus.entry.held with
  | none =>
    rw [Focus.destroy_unheld setup hheld]
    rfl
  | some held =>
    rw [Focus.destroy_held setup hheld]
    rfl

variable (setup errands)

/-- A teardown that has the lock comes to its end and lets go of it. -/
theorem exists_run_unlocks (hlocks : s.ending.locks = true) (hholder : s.holder = some .teardown) :
    ∃ k, (s.run setup errands (List.replicate k .tearDown)).holder = none := by
  obtain ⟨focus, holder, stage, ending⟩ := s
  cases hholder
  have hlast (focus : Focus σ κ α) (held : Option (Held α)) :
      ((⟨focus, some .teardown, stage, .taken held⟩ : Rush σ κ α).tearDown setup).holder =
        none := by
    cases held <;> rfl
  -- three steps are left at most
  cases ending with
  | pending | done _ => cases hlocks
  | entered => exact ⟨3, hlast _ _⟩
  | flagged => exact ⟨2, hlast _ _⟩
  | taken held => exact ⟨1, hlast _ _⟩

theorem run_append (moves moves' : List Move) :
    s.run setup errands (moves ++ moves') =
      (s.run setup errands moves).run setup errands moves' := by
  unfold run
  rw [List.foldl_append]

/-- Whoever has the lock can come to the point where it is free. -/
theorem Guarded.exists_run_free (h : s.Guarded) :
    ∃ later, Move.mark ∉ later ∧ (s.run setup errands later).holder = none := by
  cases hholder : s.holder with
  | none => exact ⟨[], List.not_mem_nil, hholder⟩
  | some party =>
    -- the one who has the lock makes its steps alone
    have hlocks : s.locked party = true := (h party).mpr hholder
    cases party with
    | request m =>
      have hstage : (s.stage m).locks = true := hlocks
      obtain ⟨r, hends⟩ := Stage.exists_ends setup (errands m) (s.stage m) s.focus
      obtain ⟨k, hk⟩ := run_ends (n := m) (by
        unfold Unhindered
        rw [hstage, if_pos rfl, hholder]) hends
      exact ⟨List.replicate k (.go m), by simp [List.mem_replicate], by rw [hk, put_holder]⟩
    | teardown =>
      obtain ⟨k, hk⟩ := exists_run_unlocks setup errands hlocks hholder
      exact ⟨_, by simp [List.mem_replicate], hk⟩

/-- **Nobody is kept waiting for ever.** Every request can be brought to an answer, by steps of its
own and of whoever has the lock. -/
theorem Guarded.exists_answered (h : s.Guarded) (n : Nat) :
    ∃ later answer, Move.mark ∉ later ∧
      (s.run setup errands later).stage n = .answered answer := by
  obtain ⟨later, hmark, hfree⟩ := h.exists_run_free setup errands
  have hguarded : (s.run setup errands later).Guarded := h.run later
  obtain ⟨r, hends⟩ := Stage.exists_ends setup (errands n) ((s.run setup errands later).stage n)
    (s.run setup errands later).focus
  have hoff : ((s.run setup errands later).stage n).locks = false := by
    rw [← Bool.not_eq_true]
    intro hlocks
    have hholder := (hguarded (.request n)).mp hlocks
    rw [hfree] at hholder
    cases hholder
  -- nobody is in the way any more
  obtain ⟨k, hk⟩ := run_ends (n := n) (by
    unfold Unhindered
    rw [hoff, hfree]
    rfl) hends
  refine ⟨later ++ List.replicate k (.go n), r.1, ?_, ?_⟩
  · simp [hmark, List.mem_replicate]
  · rw [run_append, hk, put_stage_self]

end

end Rush

end Entry

/-! ## What is written down changes nothing -/

section

variable {κ' α' : Type} (v : View κ' α' κ α)

namespace View

/-- The artifact that a stage holds is replaced by the one that is seen. -/
def stage : Entry.Stage α' → Entry.Stage α
  | .called => .called
  | .observed generation => .observed generation
  | .waiting generation => .waiting generation
  | .entered generation => .entered generation
  | .alive generation => .alive generation
  | .current generation => .current generation
  | .dated generation modified => .dated generation modified
  | .read generation modified source => .read generation modified source
  | .compiled generation held => .compiled generation (v.held held)
  | .published generation => .published generation
  | .advanced generation => .advanced generation
  | .settled generation => .settled generation
  | .ready => .ready
  | .answered answer => .answered answer

/-- The artifact that the teardown has taken is replaced by the one that is seen. -/
def ending : Entry.Ending α' → Entry.Ending α
  | .pending => .pending
  | .entered => .entered
  | .flagged => .flagged
  | .taken held => .taken (held.map v.held)
  | .done result => .done result

/-- What is seen of all requests and of the teardown. -/
def rush (s : Entry.Rush σ κ' α') : Entry.Rush σ κ α :=
  ⟨v.focus s.focus, s.holder, fun n => v.stage (s.stage n), v.ending s.ending⟩

end View

namespace Entry

variable {v} {setup' : Setup σ κ' α'} {setup : Setup σ κ α}

/-- An answer does not depend on what only the compiler writes down. -/
theorem conclude_actsAs (hv : v.Shows setup' setup) (c : Errand) :
    ActsAs v.focus id (conclude setup' c) (conclude setup c) := by
  unfold conclude
  exact .ite (.bind (.modify fun _ => rfl) fun _ => .pure _) (run_actsAs hv c.request c.error)

theorem Stage.next_view (hv : v.Shows setup' setup) (c : Errand) (stage : Stage α')
    (s : Focus σ κ' α') :
    (v.stage stage).next setup c (v.focus s) =
      (v.stage (stage.next setup' c s).1, v.focus (stage.next setup' c s).2) := by
  cases stage with
  | called | waiting | published | advanced | answered => rfl
  | observed generation =>
    -- what decides does not depend on the compiler
    have hneed : (needsCompile setup c.now).run (v.focus s) = _ := needsCompile_actsAs hv c.now s
    rcases hrun : (needsCompile setup' c.now).run s with ⟨failure | needed, s'⟩
    · rw [hrun] at hneed
      rw [next_observed_error hrun]
      exact next_observed_error hneed
    · rw [hrun] at hneed
      rw [next_observed hrun]
      cases needed <;> exact next_observed hneed
  | entered generation =>
    cases hdead : s.entry.destroyed with
    | true =>
      rw [next_entered_dead hdead]
      exact next_entered_dead (s := v.focus s) hdead
    | false =>
      rw [next_entered_alive hdead]
      exact next_entered_alive (s := v.focus s) hdead
  | alive generation =>
    by_cases hsame : s.entry.generation = generation
    · rw [next_alive_same hsame]
      exact next_alive_same (s := v.focus s) hsame
    · rw [next_alive_other hsame]
      exact next_alive_other (s := v.focus s) hsame
  | current generation =>
    unfold next View.stage
    rw [hv.store]
    rfl
  | dated generation modified =>
    rcases hread : setup'.store.read s.entry.identity s.backend.store with ⟨failure | source, store⟩
    · rw [next_dated_error hread]
      exact next_dated_error (s := v.focus s) (hv.store ▸ hread)
    · rw [next_dated hread]
      exact next_dated (s := v.focus s) (hv.store ▸ hread)
  | read generation modified source =>
    have hcompile : setup.compiler.compile (v.focus s).entry.identity source
        (v.focus s).backend.compiler = _ :=
      hv.compile s.entry.identity source s.backend.compiler
    -- both compilers answer the same
    rcases hcomp : setup'.compiler.compile s.entry.identity source s.backend.compiler
      with ⟨failure | artifact, compiler⟩
    · rw [hcomp] at hcompile
      rw [next_read_error hcomp]
      exact next_read_error hcompile
    · rw [hcomp] at hcompile
      rw [next_read hcomp, ← hv.notes]
      exact next_read hcompile
  | compiled generation held => exact Prod.ext rfl (Focus.publish_view hv held s)
  | settled generation =>
    refine Prod.ext rfl ?_
    show (v.focus s).recount generation = v.focus (s.recount generation)
    unfold Focus.recount
    split <;> rfl
  | ready =>
    have hconclude : (conclude setup c).run (v.focus s) = _ := conclude_actsAs hv c s
    rw [Except.map_id] at hconclude
    unfold View.stage
    rw [next_ready rfl]
    exact next_ready hconclude

theorem Ending.next_view (hv : v.Shows setup' setup) (ending : Ending α') (s : Focus σ κ' α') :
    (v.ending ending).next setup (v.focus s) =
      (v.ending (ending.next setup' s).1, v.focus (ending.next setup' s).2) := by
  cases ending with
  | pending | entered | flagged | done => rfl
  | taken held =>
    cases held with
    | none => rfl
    | some held =>
      have hrelease : (v.focus s).onCompiler (setup.compiler.release (v.held held).artifact) = _ :=
        Focus.onCompiler_follows (hv.release held.artifact) s
      show (Ending.done ((v.focus s).onCompiler _).1, ((v.focus s).onCompiler _).2) = _
      rw [hrelease]
      rfl

namespace Rush

theorem put_view (n : Nat) (stage : Stage α') (focus : Focus σ κ' α') (holder : Option Party)
    (s : Rush σ κ' α') :
    (v.rush s).put n (v.stage stage) (v.focus focus) holder =
      v.rush (s.put n stage focus holder) := by
  have hstage : Function.update (fun m => v.stage (s.stage m)) n (v.stage stage) =
      fun m => v.stage (Function.update s.stage n stage m) :=
    (Function.comp_update v.stage s.stage n stage).symm
  unfold put View.rush
  dsimp only
  rw [hstage]

variable (errands : Nat → Errand)

/-- A move of a request is the same move in what is seen. -/
theorem go_view (hv : v.Shows setup' setup) (n : Nat) (s : Rush σ κ' α') :
    (v.rush s).go setup errands n = v.rush (s.go setup' errands n) := by
  have hwants : (v.stage (s.stage n)).wantsLock = (s.stage n).wantsLock := by
    cases s.stage n <;> rfl
  have hlocks (stage : Stage α') : (v.stage stage).locks = stage.locks := by
    cases stage <;> rfl
  unfold go
  show (if (v.stage (s.stage n)).wantsLock && s.holder.isSome then _ else _) = _
  rw [hwants]
  split
  next => rfl
  next =>
    show (v.rush s).put n ((v.stage (s.stage n)).next setup (errands n) (v.focus s.focus)).1
      ((v.stage (s.stage n)).next setup (errands n) (v.focus s.focus)).2
      ((Party.request n).passLock (v.stage (s.stage n)).locks
        ((v.stage (s.stage n)).next setup (errands n) (v.focus s.focus)).1.locks s.holder) = _
    rw [Stage.next_view hv, hlocks, hlocks, put_view]

theorem tearDown_view (hv : v.Shows setup' setup) (s : Rush σ κ' α') :
    (v.rush s).tearDown setup = v.rush (s.tearDown setup') := by
  have hwants : (v.ending s.ending).wantsLock = s.ending.wantsLock := by
    cases s.ending <;> rfl
  have hlocks (ending : Ending α') : (v.ending ending).locks = ending.locks := by
    cases ending <;> rfl
  have hnext : (v.rush s).ending.next setup (v.rush s).focus = _ :=
    Ending.next_view hv s.ending s.focus
  unfold tearDown
  rw [hnext]
  show (if (v.ending s.ending).wantsLock && s.holder.isSome then _ else _) = _
  rw [hwants]
  split
  next => rfl
  next =>
    show Rush.mk _ (Party.teardown.passLock (v.ending s.ending).locks
      (v.ending _).locks s.holder) _ _ = _
    rw [hlocks, hlocks]
    rfl

/-- **Seen through the view, a rush goes as it goes without.** -/
theorem run_view (hv : v.Shows setup' setup) (moves : List Move) (s : Rush σ κ' α') :
    (v.rush s).run setup errands moves = v.rush (s.run setup' errands moves) := by
  induction moves generalizing s with
  | nil => rfl
  | cons move moves ih =>
    have hstep : (v.rush s).step setup errands move = v.rush (s.step setup' errands move) := by
      cases move with
      | go n => exact go_view errands hv n s
      | tearDown => exact tearDown_view hv s
      | mark => rfl
    show ((v.rush s).step setup errands move).run setup errands moves = _
    rw [hstep]
    exact ih _

end Rush

end Entry

end

end TemplateServer
