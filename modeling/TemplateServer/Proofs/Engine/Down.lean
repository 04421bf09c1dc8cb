import TemplateServer.Proofs.Engine.Turns

/-!
# After the teardown

A teardown closes the cache and leaves nothing loaded. `Down` says that much of an engine, and no
turn takes it back (`Turns.down`): an entry is made only in an open cache. So from then on there is
no entry for any request. A request that can be examined fails with the shutdown, and every failure
is answered by its own text, as the page cannot be served either.
-/

namespace TemplateServer

variable {σ κ α : Type}

namespace Engine

/-- The same with a cache that was closed. -/
def shut (s : Engine σ κ α) : Engine σ κ α :=
  { s with cache := { s.cache with index := [], closed := true } }

/-- The cache is closed, and nothing is loaded. -/
structure Down (s : Engine σ κ α) : Prop where
  closed : s.cache.closed = true
  unloaded : s.cache.index = []

variable {setup : Setup σ κ α} {s s' : Engine σ κ α}

theorem shut_down (s : Engine σ κ α) : s.shut.Down := ⟨rfl, rfl⟩

theorem Down.lookup (h : s.Down) (identity : Identity) : s.cache.lookup identity = none := by
  unfold Cache.lookup
  rw [h.unloaded]
  rfl

theorem Work.down (h : s.Down) (hw : Work setup s s') : s'.Down := by
  cases hw with
  | noted => exact ⟨h.closed, h.unloaded⟩
  | stored => exact ⟨h.closed, h.unloaded⟩
  | loaded _ _ hopen =>
    rw [h.closed] at hopen
    cases hopen
  | marked => exact ⟨h.closed, h.unloaded⟩
  | serviced => exact ⟨h.closed, h.unloaded⟩
  | destroyed => exact ⟨h.closed, h.unloaded⟩

theorem Turn.down (h : s.Down) (ht : Turn setup s s') : s'.Down := by
  cases ht with
  | work hw => exact hw.down h
  | counted => exact ⟨h.closed, h.unloaded⟩
  | closed =>
    unfold onCache Cache.close
    rw [if_pos h.closed]
    exact h

/-- **There is no way back.** -/
theorem Turns.down (h : s.Down) (ht : Turns setup s s') : s'.Down := by
  induction ht with
  | refl => exact h
  | tail _ ht ih => exact Turn.down ih ht

/-- Closing an open cache hands back what was loaded. -/
theorem teardown_eq (setup : Setup σ κ α) {s : Engine σ κ α} (hopen : s.cache.closed = false) :
    ∃ events, s.teardown setup =
      let r := destroyAll setup (s.cache.index.map (·.2)) ⟨0, 0⟩ s.shut
      (r.1, r.2.note events) := by
  have hclose : s.onCache Cache.close = (s.cache.index.map (·.2), s.shut) := by
    unfold onCache Cache.close
    rw [hopen]
    rfl
  unfold teardown
  rw [hclose]
  exact ⟨_, rfl⟩

theorem teardown_down (setup : Setup σ κ α) {s : Engine σ κ α} (hopen : s.cache.closed = false) :
    (s.teardown setup).2.Down := by
  obtain ⟨events, heq⟩ := teardown_eq setup hopen
  rw [heq]
  exact Turns.down s.shut_down (Turns.note (destroyAll_turns setup _ _ _) events)

/-- No request gets an entry. -/
theorem Down.not_admitted (h : s.Down) {ask : StateM σ Bool} {identity : Identity}
    {isErrorPage : Bool} {handle : Handle} : ¬Admitted ask identity isErrorPage s handle s' := by
  intro hadm
  cases hadm with
  | present hlookup =>
    rw [h.lookup] at hlookup
    cases hlookup
  | created _ hopen =>
    rw [h.closed] at hopen
    cases hopen

end Engine

namespace Dispatcher

open Engine

section

variable {d : Dispatcher σ κ α} {now : Nat} {request : Request} {s s' : Engine σ κ α}

theorem Served.of_down {setup : Setup σ κ α} {identity : Identity} {precompile : Bool}
    {error : Option String} {answer : Except Failure Response} (h : s.Down)
    (hserved : Served setup now request identity precompile error s answer s') :
    answer = .error .shutDown := by
  cases hserved with
  | refused => rfl
  | missing _ _ hopen =>
    rw [h.closed] at hopen
    cases hopen
  | lost _ hadm => exact (h.not_admitted hadm).elim
  | answered _ _ hadm => exact (h.not_admitted hadm).elim

/-- A request fails as it always does if it cannot be examined, and with the shutdown if it can. -/
theorem Examined.of_down {answer : Except Failure Response} (h : s.Down)
    (hservice : Examined d now request s answer s') :
    answer = (examine request).bind fun _ => .error .shutDown := by
  cases hservice with
  | refused _ hexamine =>
    rw [hexamine]
    rfl
  | served hexamine hserved =>
    rw [hexamine, hserved.of_down h]
    rfl

/-- A failure is not shown by the page. -/
theorem Shown.of_down {failure : Failure} {response : Response} (h : s.Down)
    (hshown : Shown d now request s failure response s') :
    response = .plain failure.status failure.message := by
  cases hshown with
  | plain => rfl
  | paged _ _ _ hserved =>
    rw [hserved.of_down h]
    rfl

end

variable (d : Dispatcher σ κ α) (now : Nat) (request : Request) {s : Engine σ κ α}

/-- **Every request fails**, and its failure is answered by its text. -/
theorem service_of_down (h : s.Down) :
    ∃ failure, (d.service now request s).1 = .error failure ∧
      (d.respond now request s).1 = .plain failure.status failure.message := by
  have hservice := service_cases d now request s
  have hanswer := hservice.of_down h
  have hdown : (d.service now request s).2.Down := Turns.down h hservice.turns
  unfold respond
  rcases hrun : d.service now request s with ⟨failure | response, s₁⟩
  · rw [hrun] at hdown
    exact ⟨failure, rfl, (errorResponse_cases d now request s₁ failure).of_down hdown⟩
  · rw [hrun] at hanswer
    cases hexamine : examine request with
    | error failure => rw [hexamine] at hanswer; cases hanswer
    | ok => rw [hexamine] at hanswer; cases hanswer

end Dispatcher

end TemplateServer
