import TemplateServer.Proofs.Entry.Trades
import TemplateServer.Proofs.Erasure

/-!
# Counting compilations

Entries count how often they have compiled and how often they have compiled again, and the process
counts the latter over all entries. A compiler that is `tallied` writes down the identity of every
source that it has compiled; `reruns` says how many of them had been compiled before.

A `Reading` is what the counters say about one entry, next to the tally. Whatever a request comes
to, the reading stays as it is or goes to the next one (`Serviced.reads`).
-/

namespace TemplateServer

variable {σ κ α : Type}

/-- How many of the identities have come before: among those seen, or earlier in the list. -/
def reruns : List Identity → List Identity → Nat
  | _, [] => 0
  | seen, identity :: rest => (if identity ∈ seen then 1 else 0) + reruns (seen ++ [identity]) rest

theorem reruns_append (seen since since' : List Identity) :
    reruns seen (since ++ since') = reruns seen since + reruns (seen ++ since) since' := by
  induction since generalizing seen with
  | nil =>
    rw [List.append_nil]
    exact (Nat.zero_add _).symm
  | cons identity since ih =>
    show _ + reruns (seen ++ [identity]) (since ++ since') =
      _ + reruns (seen ++ [identity]) since + _
    rw [ih, List.append_assoc, Nat.add_assoc]
    rfl

/-- The compiler that writes down the identities of the sources that it has compiled, in order. -/
def Compiler.tallied (compiler : Compiler κ α) : Compiler (κ × List Identity) α where
  compile identity source s :=
    match compiler.compile identity source s.1 with
    | (.ok artifact, k) => (.ok artifact, (k, s.2 ++ [identity]))
    | (.error failure, k) => (.error failure, (k, s.2))
  execute artifact context s :=
    ((compiler.execute artifact context s.1).1, ((compiler.execute artifact context s.1).2, s.2))
  release artifact s :=
    ((compiler.release artifact s.1).1, ((compiler.release artifact s.1).2, s.2))
  notes := compiler.notes

/-- The same setup, with the compiler that keeps a tally of its successes. -/
def Setup.tallied (setup : Setup σ κ α) : Setup σ (κ × List Identity) α where
  store := setup.store
  compiler := setup.compiler.tallied
  options := setup.options

namespace View

/-- Does not see the tally. -/
def tally : View (κ × List Identity) α κ α := ⟨Prod.fst, id⟩

/-- Keeping a tally differs from keeping none in what is written down. -/
theorem tally_shows (setup : Setup σ κ α) : tally.Shows setup.tallied setup where
  store := rfl
  options := rfl
  compile identity source s := by
    unfold Setup.tallied Compiler.tallied tally
    dsimp only
    rcases setup.compiler.compile identity source s.1 with ⟨_ | _, k⟩
    · rfl
    · rfl
  execute _ _ _ := rfl
  release _ _ := rfl
  notes := rfl

end View

/-- What the counters say about an entry, and the tally. -/
structure Reading where
  identity : Identity
  generation : Nat
  reloads : Nat
  /-- The reloads of the process. -/
  process : UInt64
  tally : List Identity

/-- One more compilation is counted, and a reload with it if it is not the first. -/
def Reading.advance (r : Reading) : Reading :=
  if 0 < r.generation then
    { r with generation := r.generation + 1, reloads := r.reloads + 1, process := r.process + 1 }
  else { r with generation := r.generation + 1 }

/-- The reading after one more compilation. -/
def Reading.next (r : Reading) : Reading := { r with tally := r.tally ++ [r.identity] }.advance

section

variable (r : Reading)

theorem Reading.next_identity : r.next.identity = r.identity := by
  unfold next advance
  split <;> rfl

theorem Reading.next_generation : r.next.generation = r.generation + 1 := by
  unfold next advance
  split <;> rfl

theorem Reading.next_tally : r.next.tally = r.tally ++ [r.identity] := by
  unfold next advance
  split <;> rfl

/-- A success is a reload of the entry, unless it is the first. -/
theorem Reading.next_reloads : r.next.reloads = r.reloads + if 0 < r.generation then 1 else 0 := by
  unfold next advance
  split <;> rfl

theorem Reading.next_process :
    r.next.process = r.process + .ofNat (if 0 < r.generation then 1 else 0) := by
  unfold next advance
  split
  next => rfl
  next => exact (UInt64.add_zero _).symm

end

namespace Entry

/-- What an entry and its surroundings show. -/
def Focus.reading (s : Focus σ (κ × List Identity) α) : Reading :=
  ⟨s.entry.identity, s.entry.generation, s.entry.reloads, s.backend.reloads, s.backend.compiler.2⟩

variable {setup : Setup σ κ α} {now : Nat} {s s' : Focus σ (κ × List Identity) α}

/-- The time of a look is not among the counts. -/
theorem NeedsCompile.reading_eq (h : NeedsCompile setup.tallied now s s') :
    s'.reading = s.reading := by
  cases h with
  | unheld => rfl
  | requested => rfl
  | newer => rfl

/-- A compilation is counted once. -/
theorem Focus.succeed_reading (held : Held α) (s : Focus σ (κ × List Identity) α) :
    (s.succeed setup.tallied held).reading = s.reading.advance := by
  -- the release of what was held is not tallied
  have htally : (s.succeed setup.tallied held).backend.compiler.2 = s.backend.compiler.2 := by
    rw [succeed_compiler]
    cases s.entry.held with
    | none => rfl
    | some => rfl
  unfold reading Reading.advance
  rw [succeed_entry, succeed_reloads, htally]
  by_cases hpos : 0 < s.entry.generation
  · simp [hpos]
  · simp [hpos]

/-- A refresh shows what was shown, or one success more. -/
theorem Refreshed.reads {result : Except Failure Unit}
    (h : Refreshed setup.tallied now s result s') :
    s'.reading = s.reading ∨ s'.reading = s.reading.next := by
  cases h with
  | notDue => exact .inl rfl
  | current => exact .inl rfl
  | undated => exact .inl rfl
  | vanished => exact .inl rfl
  | destroyed hneed => exact .inl hneed.reading_eq
  | unreadable hneed => exact .inl hneed.reading_eq
  | @refused s₁ _ _ _ source _ compiler hneed _ _ _ hcomp =>
    have htally : compiler.2 = s₁.backend.compiler.2 := by
      unfold Setup.tallied Compiler.tallied at hcomp
      dsimp only at hcomp
      split at hcomp
      next => cases hcomp
      next => cases hcomp; rfl
    left
    rw [← hneed.reading_eq]
    show Reading.mk s₁.entry.identity s₁.entry.generation s₁.entry.reloads s₁.backend.reloads
      compiler.2 = s₁.reading
    rw [htally]
    rfl
  | @compiled s₁ _ _ _ source artifact compiler hneed _ _ _ hcomp =>
    have htally : compiler.2 = s₁.backend.compiler.2 ++ [s₁.entry.identity] := by
      unfold Setup.tallied Compiler.tallied at hcomp
      dsimp only at hcomp
      split at hcomp
      next => cases hcomp; rfl
      next => cases hcomp
    right
    rw [Focus.succeed_reading, ← hneed.reading_eq]
    show (Reading.mk s₁.entry.identity s₁.entry.generation s₁.entry.reloads s₁.backend.reloads
      compiler.2).advance = s₁.reading.next
    rw [htally]
    rfl

/-- **What a request counts**: one compilation, or nothing. -/
theorem Serviced.reads {request : Request} {precompile : Bool} {error : Option String}
    {answer : Except Failure Response}
    (h : Serviced setup.tallied now request precompile error s answer s') :
    s'.reading = s.reading ∨ s'.reading = s.reading.next := by
  cases h with
  | failed hr => exact (Refreshed.of_run _ _ hr).reads
  | precompiled hr => exact (Refreshed.of_run _ _ hr).reads
  | unheld hr => exact (Refreshed.of_run _ _ hr).reads
  | executed hr _ _ hexec =>
    -- an execution is not tallied
    obtain ⟨-, rfl⟩ := Prod.mk.inj hexec
    exact (Refreshed.of_run _ _ hr).reads

/-- Taking down an entry counts nothing. -/
theorem Focus.destroy_reading (s : Focus σ (κ × List Identity) α) :
    (s.destroy setup.tallied).2.reading = s.reading := by
  cases hheld : s.entry.held with
  | none => rw [destroy_unheld _ hheld]; rfl
  | some held => rw [destroy_held _ hheld]; rfl

end Entry

end TemplateServer
