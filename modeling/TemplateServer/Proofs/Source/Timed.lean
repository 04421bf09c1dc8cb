import TemplateServer.Source.Memory

/-!
# Stores whose changes have times

A `TimedStore` answers from sources that carry the times of their last changes. Before it answers
a question it may move on: `step` is what becomes of it then, so that a change can fall between
any two questions of one request.

Two laws carry what is proved about entries over such a store:

* a change that is still to come has a later time than every source that is there (`newer`);
* a source that is there after a step was there before it, or is one of the changes that were still
  to come (`Advances`).

`Moves` is any number of steps. The store in memory (`Memory.timed`) is the one that never moves.
-/

namespace TemplateServer

/-- The texts of the sources that there are. -/
abbrev Contents := Identity → Option String

/-- Sources with the times of their last changes, and the times that may still come. -/
structure Chronicle (σ : Type) where
  find? : Identity → σ → Option (String × Nat)
  Upcoming : σ → Nat → Prop

/-- How the sources may differ between an earlier and a later state. -/
structure Chronicle.Advances {σ : Type} (c : Chronicle σ) (s s' : σ) : Prop where
  upcoming : ∀ {time}, c.Upcoming s' time → c.Upcoming s time
  found : ∀ {identity text time}, c.find? identity s' = some (text, time) →
    c.find? identity s = some (text, time) ∨ c.Upcoming s time

/-- A store that answers from sources with times, after a step of its own. -/
structure TimedStore (σ : Type) extends Chronicle σ where
  step : σ → σ
  /-- The states that the store can be in. -/
  Valid : σ → Prop
  /-- The store will not change by itself. -/
  Settled : σ → Prop
  newer : ∀ {s identity text time later}, Valid s → find? identity s = some (text, time) →
    Upcoming s later → time < later
  valid_step : ∀ {s}, Valid s → Valid (step s)
  advances_step : ∀ {s}, Valid s → toChronicle.Advances s (step s)
  settled_step : ∀ {s}, Settled s → Settled (step s)
  find?_step : ∀ {s} identity, Settled s → find? identity (step s) = find? identity s

namespace Chronicle

variable {σ : Type} (c : Chronicle σ)

/-- The texts of the sources that a state holds. -/
def contents (s : σ) : Contents := fun identity => (c.find? identity s).map (·.1)

variable {c}

theorem Advances.refl (s : σ) : c.Advances s s := ⟨id, .inl⟩

theorem Advances.trans {s s' s'' : σ} (h : c.Advances s s') (h' : c.Advances s' s'') :
    c.Advances s s'' where
  upcoming hup := h.upcoming (h'.upcoming hup)
  found hfind := by
    rcases h'.found hfind with hfind' | hup
    · exact h.found hfind'
    · exact .inr (h.upcoming hup)

end Chronicle

namespace TimedStore

variable {σ : Type} (v : TimedStore σ)

/-- The text of a source, or that there is none. -/
def textOf (identity : Identity) (s : σ) : Except Failure String :=
  match v.find? identity s with
  | some (text, _) => .ok text
  | none => .error (.sourceNotFound identity.text)

/-- The store: each question is answered after a step. -/
def store : SourceStore σ where
  has identity s := ((v.find? identity (v.step s)).isSome, v.step s)
  read identity s := (v.textOf identity (v.step s), v.step s)
  modified identity s := ((v.find? identity (v.step s)).map (·.2), v.step s)

/-- The second state is reached from the first in any number of steps. -/
inductive Moves (s : σ) : σ → Prop
  | refl : Moves s s
  | step {s' : σ} (h : Moves s s') : Moves s (v.step s')

variable {v}

theorem Moves.once (s : σ) : v.Moves s (v.step s) := .step .refl

theorem Moves.trans {s s' s'' : σ} (h : v.Moves s s') (h' : v.Moves s' s'') : v.Moves s s'' := by
  induction h' with
  | refl => exact h
  | step _ ih => exact .step ih

/-! What every step preserves, any number of steps preserves. -/

theorem Moves.valid {s s' : σ} (h : v.Moves s s') (hs : v.Valid s) : v.Valid s' := by
  induction h with
  | refl => exact hs
  | step _ ih => exact v.valid_step ih

theorem Moves.advances {s s' : σ} (h : v.Moves s s') (hs : v.Valid s) : v.Advances s s' := by
  induction h with
  | refl => exact .refl s
  | step h ih => exact ih.trans (v.advances_step (h.valid hs))

/-- What has settled stays so. -/
theorem Moves.settled {s s' : σ} (h : v.Moves s s') (hs : v.Settled s) : v.Settled s' := by
  induction h with
  | refl => exact hs
  | step _ ih => exact v.settled_step ih

/-- What has settled has the same sources after every move. -/
theorem Moves.find? {s s' : σ} (h : v.Moves s s') (hs : v.Settled s) (identity : Identity) :
    v.find? identity s' = v.find? identity s := by
  induction h with
  | refl => rfl
  | step h ih => rw [v.find?_step identity (h.settled hs), ih]

theorem Moves.contents {s s' : σ} (h : v.Moves s s') (hs : v.Settled s) :
    v.contents s' = v.contents s := by
  funext identity
  show (v.find? identity s').map (·.1) = (v.find? identity s).map (·.1)
  rw [h.find? hs]

end TimedStore

/-! ## Memory -/

namespace Memory

/-- A source that is removed is not found any more, and all others are found as before. -/
theorem find?_remove (identity other : Identity) (m : Memory) :
    (m.remove identity).find? other = if other = identity then none else m.find? other := by
  unfold find? remove
  dsimp only
  -- an identity may stand in the list more than once, so every source is looked at
  induction m.sources with
  | nil => simp
  | cons source sources ih =>
    by_cases h : source.1 = identity
    · rw [List.filter_cons_of_neg (by simpa using h), ih, List.lookup_cons]
      by_cases hother : other = identity
      · rw [if_pos hother, if_pos hother]
      · have hne : (other == source.1) = false := by
          rw [h]
          exact beq_eq_false_iff_ne.mpr hother
        rw [if_neg hother, if_neg hother, hne]
    · rw [List.filter_cons_of_pos (by simpa using h), List.lookup_cons, List.lookup_cons, ih]
      by_cases hother : other = identity
      · have hne : (other == source.1) = false := by
          rw [hother]
          exact beq_eq_false_iff_ne.mpr (Ne.symm h)
        rw [if_pos hother, if_pos hother, hne]
      · rw [if_neg hother, if_neg hother]

/-- Puts in a source that was changed at a given time. -/
def putAt (identity : Identity) (text : String) (time : Nat) (m : Memory) : Memory :=
  ⟨(identity, text, time) :: (m.remove identity).sources, time⟩

/-- A source that is put is found with its time, and all others are found as before. -/
theorem find?_putAt (identity other : Identity) (text : String) (time : Nat) (m : Memory) :
    (m.putAt identity text time).find? other =
      if other = identity then some (text, time) else m.find? other := by
  show ((identity, text, time) :: (m.remove identity).sources).lookup other = _
  rw [List.lookup_cons]
  by_cases h : other = identity
  · rw [if_pos h, h, beq_self_eq_true]
  · have hne : (other == identity) = false := beq_eq_false_iff_ne.mpr h
    rw [if_neg h, hne]
    show (m.remove identity).find? other = m.find? other
    rw [find?_remove, if_neg h]

/-- The store in memory numbers its changes and never moves. -/
def timed : TimedStore Memory where
  find? := find?
  Upcoming m time := m.version < time
  step := id
  Valid m := ∀ identity text time, m.find? identity = some (text, time) → time ≤ m.version
  Settled _ := True
  newer hs hfind hup := Nat.lt_of_le_of_lt (hs _ _ _ hfind) hup
  valid_step := id
  advances_step _ := .refl _
  settled_step := id
  find?_step _ _ := rfl

/-- A store in memory does not move by itself. -/
theorem eq_of_moves {m m' : Memory} (h : timed.Moves m m') : m' = m := by
  induction h with
  | refl => rfl
  | step _ ih => exact ih

/-- Seen as a store that knows times, a store in memory answers as before. -/
theorem timed_store : timed.store = store := by
  unfold TimedStore.store store
  congr 1
  funext identity m
  show (timed.textOf identity m, m) = _
  unfold TimedStore.textOf
  show ((match m.find? identity with
    | some (text, _) => Except.ok text
    | none => .error (Failure.sourceNotFound identity.text)), m) = _
  cases m.find? identity <;> rfl

end Memory

end TemplateServer
