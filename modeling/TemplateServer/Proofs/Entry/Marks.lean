import Mathlib.Data.List.Induction
import TemplateServer.Proofs.Entry.Once
import TemplateServer.Proofs.Entry.Retry

/-!
# Asking for a reload while a compilation is under way

Anyone may ask for a reload at any time, also while a request is compiling, and that request takes
the reload request back when it has published its artifact. So it matters when a mark is made: a
source that was changed and marked after the compilation had read it is compiled again only if the
mark came after that point (`Rush.MarkedSince`), or if a look at the source finds it newer. In
production there are no looks, and an earlier mark is lost: the old artifact goes on answering.
`Underway` is what the steps of the compiling request and the marks of the others keep.
-/

namespace TemplateServer.Entry

open TemplateServer.Action

variable {σ κ α : Type}

/-! ## When a request compiles -/

section

variable {setup : Setup σ κ α} {now : Nat} {request : Request} {precompile : Bool}
  {error : Option String} {s s' : Focus (σ × List Question) (κ × List (Job α)) α}

/-- Without a reason to compile the source is not read. -/
theorem Refreshed.not_read {result : Except Failure Unit} {held : Held α}
    (hheld : s.entry.held = some held) (hreq : s.entry.reloadRequested = false)
    (hlook : ¬ LookFindsNewer setup now s.entry s.backend.store.1)
    (h : Refreshed setup.recorded now s result s') {asked : List Question}
    (hasked : s'.questions = s.questions ++ asked) : .read s.entry.identity ∉ asked := by
  have hno {s' : Focus (σ × List Question) (κ × List (Job α)) α}
      (hneed : NeedsCompile setup.recorded now s s') : False := by
    cases hneed with
    | unheld hnone => rw [hheld] at hnone; cases hnone
    | requested _ hreq' => rw [hreq] at hreq'; cases hreq'
    | newer hheld _ hdue hmod hnew =>
      exact hlook ⟨_, _, hheld, hdue, (Prod.mk.inj hmod).1, hnew⟩
  have hsame {asked' : List Question} (h' : s'.questions = s.questions ++ asked') :
      asked = asked' := List.append_cancel_left (hasked.symm.trans h')
  cases h with
  | notDue =>
    rw [hsame (List.append_nil _).symm]
    exact List.not_mem_nil
  | current _ _ _ hmod =>
    obtain ⟨-, rfl⟩ := Prod.mk.inj hmod
    rw [hsame rfl]
    simp
  | undated _ _ _ hmod hhas | vanished _ _ _ hmod hhas =>
    obtain ⟨-, rfl⟩ := Prod.mk.inj hmod
    obtain ⟨-, rfl⟩ := Prod.mk.inj hhas
    rw [hsame (List.append_assoc _ [_] [_])]
    simp
  | destroyed hneed | unreadable hneed | refused hneed | compiled hneed =>
    exact (hno hneed).elim

/-- An entry that holds an artifact, and whose source can be read, compiles if it was asked to or if
it looks and finds a newer source. -/
theorem recompiles_iff {held : Held α} {source : String} (hstill : setup.store.Still)
    (hdead : s.entry.destroyed = false) (hheld : s.entry.held = some held)
    (hread : (setup.store.read s.entry.identity s.backend.store.1).1 = .ok source) :
    Recompiles s ((service setup.recorded now request precompile error).run s).2 ↔
      s.entry.reloadRequested = true ∨ LookFindsNewer setup now s.entry s.backend.store.1 := by
  constructor
  · rintro ⟨⟨asked, hasked, hmem⟩, -⟩
    by_contra hno
    obtain ⟨hreq, hlook⟩ := not_or.mp hno
    rw [Bool.not_eq_true] at hreq
    -- the source is read by the refresh or not at all
    obtain ⟨hquestions, -⟩ := (service_cases setup.recorded now request precompile error s).records
    rw [hquestions] at hasked
    exact (refresh_cases setup.recorded now s).not_read hheld hreq hlook hasked hmem
  · intro hneed
    exact recompiles_of_reason hstill hdead hread (.inr hneed)

/-- In production no look is made. -/
theorem not_lookFindsNewer (hprod : setup.options.development = false) (e : Entry α) (store : σ) :
    ¬ LookFindsNewer setup now e store := by
  rintro ⟨_, _, _, hdue, _⟩
  unfold checkDue at hdue
  rw [hprod, Bool.false_and] at hdue
  cases hdue

end

/-! ## Marks that come in between -/

/-- Answering a request does not change the entry. -/
theorem conclude_entry (setup : Setup σ κ α) (c : Errand) (s : Focus σ κ α) :
    ((conclude setup c).run s).2.entry = s.entry := by
  cases hpre : c.precompile with
  | true =>
    rw [conclude_precompiled hpre]
    rfl
  | false =>
    cases hheld : s.entry.held with
    | none => rw [conclude_unheld hpre hheld]
    | some held =>
      rw [conclude_held hpre hheld rfl]
      rfl

/-- The request that compiles has taken the reload request back. -/
def Stage.hasSettled : Stage α → Bool
  | settled _ | ready | answered _ => true
  | _ => false

/-- Where a request is that has read `source` and found the compiler in the state `compiler`, which
takes the source. -/
def Stage.OnCourse (source : String) (compiler : κ) (s : Focus σ κ α) : Stage α → Prop
  | read _ _ text => text = source ∧ s.backend.compiler = compiler
  | compiled _ _ => True
  | published _ | advanced _ | settled _ | ready | answered _ => s.entry.held.isSome = true
  | called | observed _ | waiting _ | entered _ | alive _ | current _ | dated _ _ => False

namespace Rush

section

variable (setup : Setup σ κ α) (errands : Nat → Errand) (n : Nat) (s : Rush σ κ α)

/-- Among the moves is a mark that came after the request had taken the reload request back. -/
def MarkedSince (moves : List Move) : Prop :=
  ∃ before after, moves = before ++ .mark :: after ∧
    ((s.run setup errands before).stage n).hasSettled = true

variable {setup errands n s}

theorem markedSince_concat {moves : List Move} {move : Move} :
    MarkedSince setup errands n s (moves ++ [move]) ↔
      MarkedSince setup errands n s moves ∨
        move = .mark ∧ ((s.run setup errands moves).stage n).hasSettled = true := by
  constructor
  · rintro ⟨before, after, hmoves, hsettled⟩
    rcases List.eq_nil_or_concat' after with rfl | ⟨after, last, rfl⟩
    · obtain ⟨rfl, hmove⟩ := List.append_inj' hmoves rfl
      cases hmove
      exact .inr ⟨rfl, hsettled⟩
    · have hsplit : moves ++ [move] = (before ++ .mark :: after) ++ [last] := by
        rw [hmoves, List.append_assoc]
        rfl
      obtain ⟨rfl, -⟩ := List.append_inj' hsplit rfl
      exact .inl ⟨before, after, rfl, hsettled⟩
  · rintro (⟨before, after, rfl, hsettled⟩ | ⟨rfl, hsettled⟩)
    · exact ⟨before, after ++ [move], by simp, hsettled⟩
    · exact ⟨moves, [], rfl, hsettled⟩

end

/-- A request is compiling `source`. `since` says that a mark came after it had taken the reload
request back. -/
structure Underway (identity : Identity) (source : String) (compiler : κ) (n : Nat)
    (since : Prop) (s : Rush σ κ α) : Prop where
  named : s.focus.entry.identity = identity
  alive : s.focus.entry.destroyed = false
  course : (s.stage n).OnCourse source compiler s.focus
  settled : (s.stage n).hasSettled = true → (s.focus.entry.reloadRequested = true ↔ since)
  unsettled : (s.stage n).hasSettled = false → ¬ since

namespace Underway

variable {setup : Setup σ κ α} {errands : Nat → Errand} {identity : Identity}
  {source : String} {compiler : κ} {n : Nat} {since : Prop} {s : Rush σ κ α} {artifact : α}

section

variable (h : Underway identity source compiler n since s)

include h

/-- A step of the request. -/
theorem put {before stage : Stage α} {focus : Focus σ κ α} (hstage : s.stage n = before)
    (hnext : before.next setup (errands n) s.focus = (stage, focus))
    (hidentity : focus.entry.identity = s.focus.entry.identity)
    (hdead : focus.entry.destroyed = s.focus.entry.destroyed)
    (hcourse : stage.OnCourse source compiler focus)
    (hsettled : stage.hasSettled = true → (focus.entry.reloadRequested = true ↔ since))
    (hunsettled : stage.hasSettled = false → ¬ since) :
    Underway identity source compiler n since (s.go setup errands n) := by
  rcases go_cases (hstage ▸ hnext) with hgo | ⟨-, hgo⟩
  · rw [hgo]
    exact h
  · rw [hgo]
    refine ⟨hidentity.trans h.named, hdead.trans h.alive, ?_, ?_, ?_⟩
    · rw [put_stage_self]
      exact hcourse
    · rw [put_stage_self]
      exact hsettled
    · rw [put_stage_self]
      exact hunsettled

theorem go (hcompile : (setup.compiler.compile identity source compiler).1 = .ok artifact) :
    Underway identity source compiler n since (s.go setup errands n) := by
  have hcourse := h.course
  have hsettled := h.settled
  have hunsettled := h.unsettled
  cases hstage : s.stage n with
  | read generation modified text =>
    -- the compiler accepts the source
    rw [hstage] at hcourse hunsettled
    obtain ⟨rfl, rfl⟩ := hcourse
    rw [← h.named] at hcompile
    exact h.put hstage (Stage.next_read (Prod.ext hcompile rfl)) rfl rfl trivial
      (fun hno => by cases hno) (fun _ => hunsettled rfl)
  | compiled generation held =>
    -- what was compiled is put in its place, which no mark sees
    rw [hstage] at hunsettled
    have hentry := s.focus.publish_entry setup held
    refine h.put hstage rfl (by rw [hentry]) (by rw [hentry]) ?_ (fun hno => by cases hno)
      (fun _ => hunsettled rfl)
    show (s.focus.publish setup held).entry.held.isSome = true
    rw [hentry]
    rfl
  | published generation =>
    -- the count of the generation concerns no mark
    rw [hstage] at hcourse hunsettled
    exact h.put hstage rfl rfl rfl hcourse (fun hno => by cases hno) (fun _ => hunsettled rfl)
  | advanced generation =>
    -- the reload request is taken back, whoever made it
    rw [hstage] at hcourse hunsettled
    refine h.put hstage rfl rfl rfl hcourse (fun _ => ?_) (fun hno => by cases hno)
    exact iff_of_false (by simp [Focus.settle]) (hunsettled rfl)
  | settled generation =>
    -- a reload is counted, and the flag is left alone
    rw [hstage] at hcourse hsettled
    have hentry : (s.focus.recount generation).entry =
        { s.focus.entry with
          reloads := s.focus.entry.reloads + if 0 < generation then 1 else 0 } := by
      unfold Focus.recount
      split <;> rfl
    refine h.put hstage rfl (by rw [hentry]) (by rw [hentry]) ?_ (fun _ => ?_)
      (fun hno => by cases hno)
    · show (s.focus.recount generation).entry.held.isSome = true
      rw [hentry]
      exact hcourse
    · rw [hentry]
      exact hsettled rfl
  | ready =>
    -- the artifact is executed, and the entry is left alone
    rw [hstage] at hcourse hsettled
    have hentry := conclude_entry setup (errands n) s.focus
    rcases hrun : (conclude setup (errands n)).run s.focus with ⟨answer, focus⟩
    rw [hrun] at hentry
    have hsame : focus.entry = s.focus.entry := hentry
    refine h.put hstage (Stage.next_ready hrun) (by rw [hsame]) (by rw [hsame]) ?_ (fun _ => ?_)
      (fun hno => by cases hno)
    · show focus.entry.held.isSome = true
      rw [hsame]
      exact hcourse
    · rw [hsame]
      exact hsettled rfl
  | answered answer =>
    rw [hstage] at hcourse hsettled
    exact h.put hstage rfl rfl rfl hcourse (fun _ => hsettled rfl) (fun hno => by cases hno)
  | called | observed | waiting | entered | alive | current | dated =>
    -- these stages lie before the source was read
    rw [hstage] at hcourse
    cases hcourse

/-- A mark counts from the point on where the reload request has been taken back. -/
theorem mark :
    Underway identity source compiler n (since ∨ (s.stage n).hasSettled = true) s.mark where
  named := h.named
  alive := h.alive
  course := by
    have hcourse := h.course
    show (s.stage n).OnCourse source compiler (s.focus.update markForReload)
    cases hstage : s.stage n <;> rw [hstage] at hcourse <;> exact hcourse
  settled hsettled := iff_of_true rfl (.inr hsettled)
  unsettled hunsettled := by
    have hsettled : (s.stage n).hasSettled = false := hunsettled
    rw [hsettled]
    rintro (hsince | hno)
    · exact h.unsettled hsettled hsince
    · cases hno

end

/-- What holds after any moves of the request and any marks. -/
theorem run (hcompile : (setup.compiler.compile identity source compiler).1 = .ok artifact)
    (h : Underway identity source compiler n False s) {moves : List Move}
    (hmoves : ∀ move ∈ moves, move = .go n ∨ move = .mark) :
    Underway identity source compiler n (MarkedSince setup errands n s moves)
      (s.run setup errands moves) := by
  induction moves using List.reverseRecOn with
  | nil =>
    have hnone : ¬ MarkedSince setup errands n s [] := by
      rintro ⟨before, after, hmoves, -⟩
      simp at hmoves
    rw [eq_false hnone]
    exact h
  | append_singleton moves move ih =>
    have hbefore := ih fun other hother => hmoves other (List.mem_append_left _ hother)
    rw [run_append, markedSince_concat]
    rcases hmoves move (List.mem_append_right _ List.mem_cons_self) with rfl | rfl
    · have hgo : Move.go n ≠ .mark := by simp
      rw [eq_false hgo, false_and, or_false]
      exact hbefore.go hcompile
    · rw [eq_self, true_and]
      exact hbefore.mark

end Underway

/-- **Which marks are lost.** A request has read the source and compiles it while others ask for
reloads. When it has been answered, the next request compiles again if one of them came after the
reload request had been taken back, or if a look is due and finds a newer source. In production that
is never so. The store may have changed meanwhile. -/
theorem recompiles_after_marks_iff {setup : Setup σ κ α} {errands : Nat → Errand} {n : Nat}
    {s : Rush (σ × List Question) (κ × List (Job α)) α} {generation : Nat} {modified : Option Nat}
    {source text : String} {artifact : α} {moves : List Move} {answer : Except Failure Response}
    {f : Focus (σ × List Question) (κ × List (Job α)) α} {now : Nat} {request : Request}
    {precompile : Bool} {error : Option String} (hstill : setup.store.Still)
    (hread : s.stage n = .read generation modified source)
    (halive : s.focus.entry.destroyed = false)
    (hcompile : (setup.compiler.compile s.focus.entry.identity source
      s.focus.backend.compiler.1).1 = .ok artifact)
    (hmoves : ∀ move ∈ moves, move = .go n ∨ move = .mark)
    (hanswered : (s.run setup.recorded errands moves).stage n = .answered answer)
    (hentry : f.entry = (s.run setup.recorded errands moves).focus.entry)
    (hreadable : (setup.store.read f.entry.identity f.backend.store.1).1 = .ok text) :
    let next := (service setup.recorded now request precompile error).run f
    (Recompiles f next.2 ↔
      MarkedSince setup.recorded errands n s moves ∨
        LookFindsNewer setup now f.entry f.backend.store.1) ∧
      (setup.options.development = false →
        (Recompiles f next.2 ↔ MarkedSince setup.recorded errands n s moves)) := by
  intro next
  have hstart : Underway s.focus.entry.identity source s.focus.backend.compiler n False s := by
    refine ⟨rfl, halive, ?_, ?_, fun _ => id⟩
    · rw [hread]
      exact ⟨rfl, rfl⟩
    · rw [hread]
      rintro ⟨⟩
  have hmade : (setup.recorded.compiler.compile s.focus.entry.identity source
      s.focus.backend.compiler).1 = .ok artifact := hcompile
  have hend : Underway s.focus.entry.identity source s.focus.backend.compiler n
      (MarkedSince setup.recorded errands n s moves) (s.run setup.recorded errands moves) :=
    hstart.run hmade hmoves
  have hcourse := hend.course
  have hflag := hend.settled
  rw [hanswered] at hcourse hflag
  obtain ⟨held, hheld⟩ := Option.isSome_iff_exists.mp hcourse
  have hiff : Recompiles f next.2 ↔ MarkedSince setup.recorded errands n s moves ∨
      LookFindsNewer setup now f.entry f.backend.store.1 := by
    rw [recompiles_iff hstill (by rw [hentry]; exact hend.alive) (by rw [hentry]; exact hheld)
      hreadable, hentry, hflag rfl]
  refine ⟨hiff, fun hprod => ?_⟩
  rw [hiff, or_iff_left (not_lookFindsNewer hprod _ _)]

/-- A request that has read the source of the page. -/
def reading : Rush (Memory × List Question) (Echo.Counts × List (Job String)) String :=
  (start ⟨.fresh page false, ⟨(Memory.empty.put page "v1", []), (.zero, []), 0, []⟩⟩).run
    produced.recorded racers (List.replicate 7 (.go 0))

/-- The page is marked when the reload request has been taken back. -/
def late : List Move := List.replicate 4 (.go 0) ++ [.mark] ++ List.replicate 2 (.go 0)

/-- The page is marked when its first version has been compiled. -/
def early : List Move := [.go 0, .mark] ++ List.replicate 5 (.go 0)

/-- What the moves leave behind when the second version of the page has been put in its place. -/
def afterwards (moves : List Move) :
    Focus (Memory × List Question) (Echo.Counts × List (Job String)) String :=
  let t := reading.run produced.recorded racers moves
  t.focus.withStore ((Memory.empty.put page "v1").put page "v2", t.focus.backend.store.2)

theorem recompiles_after_marks_iff_late :
    let next := (service produced.recorded 0 (.forPath "/p") false none).run (afterwards late)
    reading.stage 0 = .read 0 (some 1) "v1" ∧
      (reading.run produced.recorded racers late).stage 0 = .answered (.ok (.html "v1")) ∧
      MarkedSince produced.recorded racers 0 reading late ∧
      Recompiles (afterwards late) next.2 ∧ next.1 = .ok (.html "v2") := by
  intro next
  have hread : reading.stage 0 = .read 0 (some 1) "v1" := rfl
  have hanswered : (reading.run produced.recorded racers late).stage 0 =
      .answered (.ok (.html "v1")) := rfl
  have hmarked : MarkedSince produced.recorded racers 0 reading late :=
    ⟨List.replicate 4 (.go 0), List.replicate 2 (.go 0), rfl, rfl⟩
  have halive : reading.focus.entry.destroyed = false := rfl
  have hcompile : (produced.compiler.compile reading.focus.entry.identity "v1"
      reading.focus.backend.compiler.1).1 = .ok "v1" := rfl
  have hmoves : ∀ move ∈ late, move = .go 0 ∨ move = .mark := by decide
  have hentry : (afterwards late).entry =
      (reading.run produced.recorded racers late).focus.entry := rfl
  have hreadable : (produced.store.read (afterwards late).entry.identity
      (afterwards late).backend.store.1).1 = .ok "v2" := rfl
  have hiff : Recompiles (afterwards late) next.2 ↔ _ :=
    (recompiles_after_marks_iff Memory.store_still hread halive hcompile hmoves hanswered hentry
      hreadable).2 rfl
  exact ⟨hread, hanswered, hmarked, hiff.mpr hmarked, rfl⟩

/-- A mark that comes while the request is compiling may be lost: the first version goes on
answering. -/
theorem mark_lost :
    let next := (service produced.recorded 0 (.forPath "/p") false none).run (afterwards early)
    reading.stage 0 = .read 0 (some 1) "v1" ∧ Move.mark ∈ early ∧
      (reading.run produced.recorded racers early).stage 0 = .answered (.ok (.html "v1")) ∧
      next.1 = .ok (.html "v1") ∧ ¬ Recompiles (afterwards early) next.2 := by
  refine ⟨rfl, by decide, rfl, rfl, ?_⟩
  rintro ⟨⟨asked, hasked, hmem⟩, -⟩
  -- the next request asked nothing
  have hsame : (afterwards early).questions ++ asked = (afterwards early).questions := hasked.symm
  rw [List.append_right_eq_self.mp hsame] at hmem
  exact absurd hmem (by simp)

end Rush

end TemplateServer.Entry
