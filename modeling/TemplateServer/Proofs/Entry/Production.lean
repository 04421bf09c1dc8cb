import TemplateServer.Proofs.Recorded
import TemplateServer.Proofs.Shelf

/-!
# An entry in production

`OnShelf` says that an entry holds the text that its shelf has frozen, and that a reload was asked
for as the shelf says. A request keeps the two alike: it answers what is taken from the shelf, gives
the compiler what is given there, and asks nothing of the store that would change it
(`Serviced.shelved`).
-/

namespace TemplateServer

/-- Sources in memory and an echoing compiler, in production. -/
def Echo.produced (interval : Nat) : Setup Memory (Echo.Counts × List (Job String)) String :=
  ⟨Memory.store, Echo.compiler.recorded, ⟨false, interval⟩⟩

namespace Entry

variable {interval now : Nat} {s s' : Focus Memory (Echo.Counts × List (Job String)) String}

/-- An entry is as its shelf says. A mark on an entry that holds nothing does not count. -/
structure OnShelf (e : Entry String) (shelf : Shelf) : Prop where
  alive : e.destroyed = false
  frozen : e.held.map (·.artifact) = shelf.frozen
  pending : e.held.isSome = true → e.reloadRequested = shelf.pending

theorem OnShelf.fresh (identity : Identity) (isErrorPage : Bool) {shelf : Shelf}
    (h : shelf.frozen = none) : OnShelf (fresh identity isErrorPage) shelf where
  alive := rfl
  frozen := h.symm
  pending hheld := by cases hheld

/-- A mark on an entry that holds nothing changes nothing. -/
theorem OnShelf.unheld {e : Entry String} {shelf : Shelf} (h : OnShelf e shelf)
    (hheld : e.held = none) (pending : Bool) : OnShelf e { shelf with pending := pending } where
  alive := h.alive
  frozen := h.frozen
  pending hsome := by rw [hheld] at hsome; cases hsome

theorem OnShelf.marked {e : Entry String} {shelf : Shelf} (h : OnShelf e shelf) :
    OnShelf e.markForReload { shelf with pending := true } where
  alive := h.alive
  frozen := h.frozen
  pending _ := rfl

/-- In production no look is ever due. -/
theorem checkDue_produced (e : Entry String) :
    e.checkDue (Echo.produced interval).options now = false := rfl

/-- What has to be compiled is not frozen, or a reload was asked for. -/
theorem NeedsCompile.produced {shelf : Shelf} (hshelf : OnShelf s.entry shelf)
    (h : NeedsCompile (Echo.produced interval) now s s') :
    s = s' ∧ ∀ identity current, shelf.take identity current = shelf.freeze identity current := by
  obtain ⟨frozen, pending⟩ := shelf
  cases h with
  | unheld hheld =>
    -- an empty shelf freezes what it is given
    have hfrozen : none = frozen := by
      have := hshelf.frozen
      rwa [hheld] at this
    subst hfrozen
    exact ⟨rfl, fun _ _ => rfl⟩
  | requested hheld hreq =>
    -- a mark on what is held counts on the shelf too
    have hpending : true = pending := by
      have := hshelf.pending (by rw [hheld]; rfl)
      rwa [hreq] at this
    subst hpending
    refine ⟨rfl, fun _ _ => ?_⟩
    cases frozen <;> rfl
  | newer _ _ hdue =>
    -- in production no look finds anything
    rw [checkDue_produced] at hdue
    cases hdue

/-- The texts that the compiler was given so far. -/
abbrev Focus.given (s : Focus Memory (Echo.Counts × List (Job String)) String) :
    List (Identity × String) := givenOf s.jobs

theorem Focus.succeed_given (held : Held String) :
    (s.succeed (Echo.produced interval) held).given = s.given := by
  rw [given, jobs, succeed_compiler]
  -- what was held before is released, and a release gives the compiler no text
  cases s.entry.held with
  | none => rfl
  | some previous =>
    show givenOf (s.jobs ++ [.release previous.artifact]) = givenOf s.jobs
    unfold givenOf
    rw [List.filterMap_append]
    exact List.append_nil _

/-- What one step does to an entry in production: the entry is as a shelf says, the compiler was
given a text at most, and the store has not changed. -/
structure Shelved (s s' : Focus Memory (Echo.Counts × List (Job String)) String) (shelf : Shelf)
    (given : Option String) : Prop where
  onShelf : OnShelf s'.entry shelf
  identity : s'.entry.identity = s.entry.identity
  store : s'.backend.store = s.backend.store
  given : s'.given = s.given ++ given.toList.map fun text => (s.entry.identity, text)

/-- **A refresh in production** takes the text from the shelf. -/
theorem Refreshed.shelved {shelf : Shelf} {result : Except Failure Unit}
    (hshelf : OnShelf s.entry shelf) (h : Refreshed (Echo.produced interval) now s result s') :
    let taken := shelf.take s.entry.identity (s.backend.store.contents s.entry.identity)
    result = taken.1.map (fun _ => ()) ∧ Shelved s s' taken.2.1 taken.2.2 := by
  intro taken
  have htaken : taken = shelf.take s.entry.identity _ := rfl
  cases h with
  | @notDue held hheld hreq _ =>
    -- what is held is frozen, and nothing is asked for
    obtain ⟨frozen, pending⟩ := shelf
    have hfrozen : some held.artifact = frozen := by
      have := hshelf.frozen
      rwa [hheld] at this
    have hpending : false = pending := by
      have := hshelf.pending (by rw [hheld]; rfl)
      rwa [hreq] at this
    subst hfrozen hpending
    exact ⟨rfl, hshelf, rfl, rfl, (List.append_nil _).symm⟩
  | current _ _ hdue => cases hdue
  | undated _ _ hdue => cases hdue
  | vanished _ _ hdue => cases hdue
  | destroyed hneed hdead =>
    -- the entry was not taken down
    rw [hneed.destroyed_eq, hshelf.alive] at hdead
    cases hdead
  | unreadable hneed _ hmod hread =>
    -- nothing can be read where there is no text
    obtain ⟨rfl, hfreeze⟩ := hneed.produced hshelf
    obtain ⟨-, rfl⟩ := Prod.mk.inj hmod
    have hread : Memory.store.read s.entry.identity s.backend.store = _ := hread
    rw [Memory.read_eq] at hread
    obtain ⟨hanswer, rfl⟩ := Prod.mk.inj hread
    rw [htaken, hfreeze]
    unfold Shelf.freeze
    cases htext : s.backend.store.contents s.entry.identity with
    | none =>
      rw [htext] at hanswer
      cases hanswer
      exact ⟨rfl, hshelf, rfl, rfl, (List.append_nil _).symm⟩
    | some text => rw [htext] at hanswer; cases hanswer
  | refused hneed _ hmod hread hcomp =>
    -- the compiler was given the text, and nothing is frozen anew
    obtain ⟨rfl, hfreeze⟩ := hneed.produced hshelf
    obtain ⟨htext, rfl⟩ := Memory.source_of_read hmod hread
    obtain ⟨hresult, rfl⟩ := Prod.mk.inj hcomp
    have hresult := compile_eq (Prod.ext hresult rfl)
    rw [htaken, hfreeze, htext]
    unfold Shelf.freeze
    dsimp only
    split at hresult
    next hrefused =>
      cases hresult
      rw [if_pos hrefused]
      exact ⟨rfl, ⟨hshelf.alive, hshelf.frozen, hshelf.pending⟩, rfl, rfl, givenOf_compile _ _ _⟩
    next => cases hresult
  | compiled hneed _ hmod hread hcomp =>
    -- the compiler was given the text, which is frozen now
    obtain ⟨rfl, hfreeze⟩ := hneed.produced hshelf
    obtain ⟨htext, rfl⟩ := Memory.source_of_read hmod hread
    obtain ⟨hresult, rfl⟩ := Prod.mk.inj hcomp
    have hresult := compile_eq (Prod.ext hresult rfl)
    rw [htaken, hfreeze, htext]
    unfold Shelf.freeze
    dsimp only
    split at hresult
    next => cases hresult
    next haccepted =>
      cases hresult
      rw [if_neg haccepted]
      refine ⟨rfl, ?_, ?_, ?_, ?_⟩
      · rw [Focus.succeed_entry]
        exact ⟨hshelf.alive, rfl, fun _ => rfl⟩
      · rw [Focus.succeed_entry]
        rfl
      · rw [Focus.succeed_store]
        rfl
      · rw [Focus.succeed_given]
        exact givenOf_compile _ _ _

/-- What answers is on the shelf. -/
theorem frozen_of_take {identity : Identity} {current : Option String} {shelf : Shelf}
    {text : String} (h : (shelf.take identity current).1 = .ok text) :
    (shelf.take identity current).2.1.frozen = some text := by
  unfold Shelf.take at h ⊢
  split at h
  next => cases h; rfl
  next =>
    unfold Shelf.freeze at h ⊢
    split at h
    next => cases h
    next text' =>
      split at h
      next => cases h
      next haccepted =>
        cases h
        rw [if_neg haccepted]

/-- **A request in production** is answered from the shelf. -/
theorem Serviced.shelved {shelf : Shelf} {request : Request} {precompile : Bool}
    {answer : Except Failure Response} (hshelf : OnShelf s.entry shelf)
    (h : Serviced (Echo.produced interval) now request precompile none s answer s') :
    let taken := shelf.take s.entry.identity (s.backend.store.contents s.entry.identity)
    answer = taken.1.map (Shelf.answer precompile) ∧ Shelved s s' taken.2.1 taken.2.2 := by
  intro taken
  -- what the refresh came to is known before the request goes on
  have hrefresh {result : Except Failure Unit} {s₁ : Focus Memory _ String}
      (hr : (refresh (Echo.produced interval) now).run s = (result, s₁)) :
      result = taken.1.map (fun _ => ()) ∧ Shelved s s₁ taken.2.1 taken.2.2 :=
    (Refreshed.of_run _ _ hr).shelved hshelf
  have hok {s₁ : Focus Memory _ String}
      (hr : (refresh (Echo.produced interval) now).run s = (.ok (), s₁)) :
      ∃ text, taken.1 = .ok text ∧ s₁.entry.held.map (·.artifact) = some text := by
    obtain ⟨hresult, hshelved⟩ := hrefresh hr
    cases htext : taken.1 with
    | error failure => rw [htext] at hresult; cases hresult
    | ok text => exact ⟨text, rfl, hshelved.onShelf.frozen.trans (frozen_of_take htext)⟩
  cases h with
  | failed hr =>
    -- the shelf fails as the refresh does
    obtain ⟨hresult, hshelved⟩ := hrefresh hr
    refine ⟨?_, hshelved⟩
    cases htext : taken.1 with
    | error failure => rw [htext] at hresult; cases hresult; rfl
    | ok text => rw [htext] at hresult; cases hresult
  | precompiled hr hpre =>
    obtain ⟨text, htext, -⟩ := hok hr
    obtain ⟨-, hshelved⟩ := hrefresh hr
    refine ⟨?_, hshelved.onShelf, hshelved.identity, hshelved.store, hshelved.given⟩
    rw [htext, hpre]
    rfl
  | unheld hr _ hheld =>
    -- a refresh that succeeds leaves something held
    obtain ⟨text, -, hartifact⟩ := hok hr
    rw [hheld] at hartifact
    cases hartifact
  | @executed s₁ held body compiler _ hr hpre hheld hexec hanswer =>
    obtain ⟨text, htext, hartifact⟩ := hok hr
    obtain ⟨-, hshelved⟩ := hrefresh hr
    rw [hheld] at hartifact
    cases hartifact
    obtain ⟨hbody, rfl⟩ := Prod.mk.inj hexec
    refine ⟨?_, hshelved.onShelf, hshelved.identity, hshelved.store, ?_⟩
    · rw [hanswer, ← hbody, htext, hpre]
      exact execute_eq held.artifact _ request none s₁.backend.compiler.1
    · -- an execution gives the compiler no text
      rw [← hshelved.given]
      show givenOf (s₁.jobs ++ [.execute held.artifact]) = givenOf s₁.jobs
      unfold givenOf
      rw [List.filterMap_append]
      exact List.append_nil _

end Entry

end TemplateServer
