import TemplateServer.Proofs.Ledger

/-!
# The life of one artifact

An entry that compiles its source once has one artifact. `Life` is what can become of it: it is
made, put in place, counted as a generation, taken out and released, and in between it is executed
any number of times. A `Picture` shows how far this has come. It leaves out who does what, so that a
life can be followed through steps of many parties.
-/

namespace TemplateServer

variable {κ α : Type}

/-- A compilation that succeeds takes the next number. -/
theorem Compiler.numbered_compile {compiler : Compiler κ α} {identity : Identity} {source : String}
    {artifact : α} {s : κ × Ledger} (h : (compiler.compile identity source s.1).1 = .ok artifact) :
    compiler.numbered.compile identity source s =
      (.ok (s.2.made.length, artifact),
        (compiler.compile identity source s.1).2, s.2 ++ [.made s.2.made.length]) := by
  rcases hcompile : compiler.compile identity source s.1 with ⟨result, k⟩
  rw [hcompile] at h
  cases h
  unfold numbered
  dsimp only
  rw [hcompile]

namespace Ledger

/-- An artifact was made and executed so many times. -/
def used (uses : Nat) : Ledger := .made 0 :: List.replicate uses (.executed 0)

theorem used_succ (uses : Nat) : used (uses + 1) = used uses ++ [.executed 0] := by
  unfold used
  rw [List.replicate_succ', List.cons_append]

theorem made_used (uses : Nat) : (used uses).made = [0] := by
  induction uses with
  | zero => rfl
  | succ uses ih =>
    rw [used_succ, made_concat, ih]
    rfl

theorem released_used (uses : Nat) : (used uses).released = [] := by
  induction uses with
  | zero => rfl
  | succ uses ih =>
    rw [used_succ, released_concat, ih]
    rfl

/-- As long as nothing was released, anything may be used. -/
theorem spares_of_unreleased {l : Ledger} (h : l.released = []) : l.Pairwise Deed.Spares := by
  refine List.pairwise_iff_forall_sublist.mpr fun {earlier later} hsub number hreleased => ?_
  have hearlier : earlier ∈ l := hsub.subset List.mem_cons_self
  have hmem : number ∈ l.released := List.mem_filterMap.mpr ⟨earlier, hearlier, hreleased⟩
  rw [h] at hmem
  cases hmem

end Ledger

/-- What the one who has the lock still has to do for an artifact. -/
inductive Due
  | nothing
  | publication (number : Nat)
  /-- The artifact is in place, and its generation is not counted. -/
  | count

/-- How far the life of an artifact has come. -/
structure Picture where
  /-- The artifact that is held. -/
  number : Option Nat
  due : Due
  /-- The artifact that was taken out and not yet released. -/
  taken : Option Nat
  generation : Nat
  destroyed : Bool
  ledger : Ledger

/-- How the life of the one artifact goes. -/
inductive Life : Picture → Prop
  | unmade (destroyed : Bool) : Life ⟨none, .nothing, none, 0, destroyed, []⟩
  | made : Life ⟨none, .publication 0, none, 0, false, Ledger.used 0⟩
  | published (uses : Nat) : Life ⟨some 0, .count, none, 0, false, Ledger.used uses⟩
  | held (uses : Nat) (destroyed : Bool) :
      Life ⟨some 0, .nothing, none, 1, destroyed, Ledger.used uses⟩
  | taken (uses : Nat) : Life ⟨none, .nothing, some 0, 1, true, Ledger.used uses⟩
  | released (uses : Nat) (clean : Bool) :
      Life ⟨none, .nothing, none, 1, true, Ledger.used uses ++ [.released 0 clean]⟩

namespace Life

variable {p : Picture} (h : Life p)

include h

/-- At most one artifact is made. -/
theorem length_made : p.ledger.made.length ≤ 1 := by
  cases h with
  | unmade => exact Nat.zero_le 1
  | made | published | held | taken => simp [Ledger.made_used]
  | released => simp [Ledger.made_concat, Ledger.made_used, Deed.made?]

/-- No artifact is used after its release. -/
theorem spares : p.ledger.Pairwise Deed.Spares := by
  cases h with
  | unmade => exact .nil
  | made | published | held | taken => exact Ledger.spares_of_unreleased (Ledger.released_used _)
  | released uses clean =>
    refine List.pairwise_append.mpr
      ⟨Ledger.spares_of_unreleased (Ledger.released_used _), List.pairwise_singleton _ _, ?_⟩
    intro earlier hearlier last _ number hreleased
    have hmem : number ∈ (Ledger.used uses).released :=
      List.mem_filterMap.mpr ⟨earlier, hearlier, hreleased⟩
    rw [Ledger.released_used] at hmem
    cases hmem

/-- After the teardown what was made has been released. -/
theorem released_eq (hnumber : p.number = none) (htaken : p.taken = none)
    (hdead : p.destroyed = true) : p.ledger.released = p.ledger.made := by
  cases h with
  | unmade => rfl
  | made => cases hdead
  | published | held => cases hnumber
  | taken => cases htaken
  | released =>
    rw [Ledger.made_concat, Ledger.made_used, Ledger.released_concat, Ledger.released_used]
    rfl

/-- What was taken out of an entry was taken out by its teardown. -/
theorem bare (hnumber : p.number = none) : p.generation = 0 ∨ p.destroyed = true := by
  cases h with
  | unmade | made => exact .inl rfl
  | published | held => cases hnumber
  | taken | released => exact .inr rfl

/-! The steps of the life. Each is where only the one artifact can take it. -/

/-- The first compilation makes the artifact. -/
theorem make (hdue : p.due = .nothing) (hgeneration : p.generation = 0)
    (halive : p.destroyed = false) :
    Life { p with
      due := .publication p.ledger.made.length
      ledger := p.ledger ++ [.made p.ledger.made.length] } := by
  cases h with
  | unmade =>
    cases halive
    exact .made
  | made | published => cases hdue
  | held | taken | released => cases hgeneration

/-- What is made is published before anything else is made. -/
theorem publish {number : Nat} (hdue : p.due = .publication number) :
    p.number = none ∧ Life { p with number := some number, due := .count } := by
  cases h with
  | made =>
    cases hdue
    exact ⟨rfl, .published 0⟩
  | unmade | published | held | taken | released => cases hdue

/-- What is published is counted. -/
theorem count (hdue : p.due = .count) :
    Life { p with due := .nothing, generation := p.generation + 1 } := by
  cases h with
  | published uses => exact .held uses false
  | unmade | made | held | taken | released => cases hdue

/-- What is published can be used. -/
theorem execute {number : Nat} (hnumber : p.number = some number) :
    Life { p with ledger := p.ledger ++ [.executed number] } := by
  cases h with
  | published uses =>
    cases hnumber
    rw [← Ledger.used_succ]
    exact .published (uses + 1)
  | held uses destroyed =>
    cases hnumber
    rw [← Ledger.used_succ]
    exact .held (uses + 1) destroyed
  | unmade | made | taken | released => cases hnumber

/-- The entry is marked as dead when nothing is half done. -/
theorem flag (hdue : p.due = .nothing) : Life { p with destroyed := true } := by
  cases h with
  | unmade => exact .unmade true
  | made | published => cases hdue
  | held uses => exact .held uses true
  | taken uses => exact .taken uses
  | released uses clean => exact .released uses clean

/-- A dead entry gives its artifact to the teardown. -/
theorem take (hdue : p.due = .nothing) (hdead : p.destroyed = true) (htaken : p.taken = none) :
    Life { p with number := none, taken := p.number } := by
  cases h with
  | unmade => exact .unmade _
  | made | published => cases hdue
  | held uses =>
    cases hdead
    exact .taken uses
  | taken => cases htaken
  | released uses clean => exact .released uses clean

/-- The teardown releases what it has taken. -/
theorem release {number : Nat} (htaken : p.taken = some number) (clean : Bool) :
    Life { p with taken := none, ledger := p.ledger ++ [.released number clean] } := by
  cases h with
  | taken uses =>
    cases htaken
    exact .released uses clean
  | unmade | made | published | held | released => cases htaken

end Life

end TemplateServer
