import Mathlib.Data.List.Basic
import Mathlib.Data.List.Count
import Mathlib.Data.List.Perm.Basic
import Mathlib.Data.List.ReduceOption
import Mathlib.Logic.Relation
import TemplateServer.Entry

/-!
# The ledger of artifacts

An artifact is a value, and two compilations may make the same one. `Compiler.numbered` tells
artifacts apart: each one that is made takes the next number, and a ledger says what was done with
which number. Nothing else about the compiler changes.

What an entry does to its artifact is a `Trade`: it makes the first one, makes another and releases
the one before, executes what it holds, or releases it. Each number that was made is therefore held
by one entry or was released once, and is not used any more once it was released. `Balanced` says
this of a ledger and all that is held, and `Balanced.trade` that every trade keeps it.
-/

namespace TemplateServer

variable {σ κ α : Type}

/-- What was done with an artifact. A release may fail. -/
inductive Deed
  | made (number : Nat)
  | executed (number : Nat)
  | released (number : Nat) (clean : Bool)
deriving DecidableEq

def Deed.made? : Deed → Option Nat
  | made number => some number
  | _ => none

def Deed.released? : Deed → Option Nat
  | released number _ => some number
  | _ => none

/-- The artifact that has to be there still. -/
def Deed.used? : Deed → Option Nat
  | made _ => none
  | executed number => some number
  | released number _ => some number

/-- The later deed does not use what the earlier one has released. -/
def Deed.Spares (earlier later : Deed) : Prop :=
  ∀ number, earlier.released? = some number → later.used? ≠ some number

/-- What was done with artifacts, in order. -/
abbrev Ledger := List Deed

namespace Ledger

/-- The numbers of the artifacts that were made. -/
def made (l : Ledger) : List Nat := l.filterMap Deed.made?

/-- The numbers of the artifacts that were released, well or not. -/
def released (l : Ledger) : List Nat := l.filterMap Deed.released?

theorem made_concat (l : Ledger) (deed : Deed) :
    (l ++ [deed]).made = l.made ++ deed.made?.toList := by
  cases hdeed : deed.made? <;> simp [made, hdeed]

theorem released_concat (l : Ledger) (deed : Deed) :
    (l ++ [deed]).released = l.released ++ deed.released?.toList := by
  cases hdeed : deed.released? <;> simp [released, hdeed]

end Ledger

/-- The compiler whose artifacts have numbers, and its ledger. -/
def Compiler.numbered (compiler : Compiler κ α) : Compiler (κ × Ledger) (Nat × α) where
  compile identity source s :=
    match compiler.compile identity source s.1 with
    | (.ok artifact, k) =>
      (.ok (s.2.made.length, artifact), (k, s.2 ++ [.made s.2.made.length]))
    | (.error failure, k) => (.error failure, (k, s.2))
  execute artifact context s :=
    ((compiler.execute artifact.2 context s.1).1,
      ((compiler.execute artifact.2 context s.1).2, s.2 ++ [.executed artifact.1]))
  release artifact s :=
    ((compiler.release artifact.2 s.1).1,
      ((compiler.release artifact.2 s.1).2,
        s.2 ++ [.released artifact.1 (compiler.release artifact.2 s.1).1.isOk]))
  notes := compiler.notes

/-- The setup whose artifacts have numbers. -/
def Setup.numbered (setup : Setup σ κ α) : Setup σ (κ × Ledger) (Nat × α) where
  store := setup.store
  compiler := setup.compiler.numbered
  options := setup.options

/-- What an entry does at once to the artifact that it holds. -/
inductive Trade : Option Nat × Ledger → Option Nat × Ledger → Prop
  | make (l : Ledger) : Trade (none, l) (some l.made.length, l ++ [.made l.made.length])
  | replace (number : Nat) (clean : Bool) (l : Ledger) :
      Trade (some number, l)
        (some l.made.length, l ++ [.made l.made.length, .released number clean])
  | execute (number : Nat) (l : Ledger) :
      Trade (some number, l) (some number, l ++ [.executed number])
  | release (number : Nat) (clean : Bool) (l : Ledger) :
      Trade (some number, l) (none, l ++ [.released number clean])

/-- Any number of trades. -/
abbrev Trades := Relation.ReflTransGen Trade

/-- A ledger and what the entries hold: the made artifacts are numbered as they were made, each of
them is held or was released, and none is used after its release. -/
structure Balanced (holds : List (Option Nat)) (l : Ledger) : Prop where
  numbered : l.made = List.range l.made.length
  conserved : ∀ number, l.made.count number = holds.count (some number) + l.released.count number
  ordered : l.Pairwise Deed.Spares

namespace Balanced

variable {holds : List (Option Nat)} {l : Ledger}

theorem start : Balanced [] [] where
  numbered := rfl
  conserved _ := rfl
  ordered := .nil

theorem count_made_le (h : Balanced holds l) (number : Nat) : l.made.count number ≤ 1 := by
  rw [h.numbered, List.count_range]
  split <;> omega

/-- What is held was not released. -/
theorem not_mem_released (h : Balanced holds l) {number : Nat} (hmem : some number ∈ holds) :
    number ∉ l.released := by
  intro hreleased
  have hheld : 0 < holds.count (some number) := List.count_pos_iff.mpr hmem
  have hpast : 0 < l.released.count number := List.count_pos_iff.mpr hreleased
  have := h.conserved number
  have := h.count_made_le number
  omega

/-- What is held may be used next. -/
theorem spares (h : Balanced holds l) {number : Nat} (hmem : some number ∈ holds) {later : Deed}
    (huse : later.used? = some number) : ∀ earlier ∈ l, earlier.Spares later := by
  intro earlier hearlier other hreleased heq
  rw [huse] at heq
  cases heq
  exact h.not_mem_released hmem (List.mem_filterMap.mpr ⟨earlier, hearlier, hreleased⟩)

/-- The ledger goes on with a deed that keeps to the numbers, moves what is held accordingly and
uses nothing that was released. -/
theorem goOn {holds' : List (Option Nat)} {deed : Deed} (h : Balanced holds l)
    (hnumber : ∀ number, deed.made? = some number → number = l.made.length)
    (hcount : ∀ number, deed.made?.toList.count number + holds.count (some number) =
      holds'.count (some number) + deed.released?.toList.count number)
    (hspares : ∀ earlier ∈ l, earlier.Spares deed) : Balanced holds' (l ++ [deed]) where
  numbered := by
    rw [Ledger.made_concat]
    cases hmade : deed.made? with
    | none => simpa using h.numbered
    | some number =>
      rw [hnumber number hmade, Option.toList_some, List.length_append, List.length_singleton,
        List.range_succ, ← h.numbered]
  conserved number := by
    have := h.conserved number
    have := hcount number
    rw [Ledger.made_concat, Ledger.released_concat, List.count_append, List.count_append]
    omega
  ordered := by
    refine List.pairwise_append.mpr ⟨h.ordered, List.pairwise_singleton _ _, ?_⟩
    intro earlier hearlier last hlast
    rw [List.mem_singleton.mp hlast]
    exact hspares earlier hearlier

/-- Making an artifact uses none. -/
theorem spares_made (earlier : Deed) (number : Nat) : earlier.Spares (.made number) :=
  fun _ _ hused => by cases hused

theorem count_hold (hold : Option Nat) (number : Nat) :
    [hold].count (some number) = hold.toList.count number := by
  cases hold with
  | none => rfl
  | some other => simp [List.count_singleton]

/-- One hold takes the place of another. -/
theorem count_set {handle : Nat} {hold : Option Nat} (hat : holds[handle]? = some hold)
    (hold' : Option Nat) (number : Nat) :
    (holds.set handle hold').count (some number) + hold.toList.count number =
      holds.count (some number) + hold'.toList.count number := by
  obtain ⟨hlt, hget⟩ := List.getElem?_eq_some_iff.mp hat
  have htoList (o : Option Nat) :
      o.toList.count number = if (o == some number) = true then 1 else 0 := by
    cases o with
    | none => rfl
    | some n => simp [List.count_singleton]
  have hpos : (hold == some number) = true → 0 < holds.count (some number) := by
    intro hhold
    rw [← beq_iff_eq.mp hhold]
    exact List.count_pos_iff.mpr (List.mem_of_getElem? hat)
  rw [List.count_set hlt, hget, htoList, htoList]
  split
  next hhold =>
    have := hpos hhold
    omega
  next => omega

/-- **Every trade of an entry keeps the balance.** -/
theorem trade {handle : Nat} {hold hold' : Option Nat} {l' : Ledger} (h : Balanced holds l)
    (hat : holds[handle]? = some hold) (ht : Trade (hold, l) (hold', l')) :
    Balanced (holds.set handle hold') l' := by
  have hmem : hold ∈ holds := List.mem_of_getElem? hat
  have hset := count_set hat hold'
  cases ht with
  | make =>
    refine h.goOn (fun _ hmade => (Option.some.inj hmade).symm) (fun number => ?_)
      fun earlier _ => spares_made earlier _
    have hafter := hset number
    simp only [Deed.made?, Deed.released?, Option.toList, List.count_nil] at hafter ⊢
    omega
  | execute =>
    refine h.goOn (fun _ hmade => by cases hmade) (fun number => ?_) (h.spares hmem rfl)
    have hafter := hset number
    simp only [Deed.made?, Deed.released?, Option.toList, List.count_nil] at hafter ⊢
    omega
  | release =>
    refine h.goOn (fun _ hmade => by cases hmade) (fun number => ?_) (h.spares hmem rfl)
    have hafter := hset number
    simp only [Deed.made?, Deed.released?, Option.toList, List.count_nil] at hafter ⊢
    omega
  | replace number clean =>
    -- between the two deeds the entry has both artifacts
    have hboth : Balanced (holds ++ [some l.made.length]) (l ++ [.made l.made.length]) := by
      refine h.goOn (fun _ hmade => (Option.some.inj hmade).symm) (fun other => ?_)
        fun earlier _ => spares_made earlier _
      rw [List.count_append, count_hold]
      simp only [Deed.made?, Deed.released?, Option.toList, List.count_nil]
      omega
    have hdone : Balanced (holds.set handle (some l.made.length))
        ((l ++ [.made l.made.length]) ++ [.released number clean]) := by
      refine hboth.goOn (fun _ hmade => by cases hmade) (fun other => ?_)
        (hboth.spares (List.mem_append_left _ hmem) rfl)
      have hafter := hset other
      rw [List.count_append, count_hold]
      simp only [Deed.made?, Deed.released?, Option.toList, List.count_nil] at hafter ⊢
      omega
    rw [List.append_assoc] at hdone
    exact hdone

/-- So does any number of them. -/
theorem trades {handle : Nat} {book book' : Option Nat × Ledger} (ht : Trades book book')
    (hat : holds[handle]? = some book.1) (h : Balanced holds book.2) :
    Balanced (holds.set handle book'.1) book'.2 := by
  have hlt : handle < holds.length := (List.getElem?_eq_some_iff.mp hat).1
  induction ht with
  | refl =>
    rw [← (List.getElem?_eq_some_iff.mp hat).2, List.set_getElem_self]
    exact h
  | tail _ ht ih =>
    have hnext := ih.trade (List.getElem?_set_self hlt) ht
    rw [List.set_set] at hnext
    exact hnext

/-- One more entry holds nothing. -/
theorem unheld (h : Balanced holds l) : Balanced (holds ++ [none]) l where
  numbered := h.numbered
  conserved number := by
    rw [h.conserved number, List.count_append, List.count_singleton]
    rfl
  ordered := h.ordered

/-- What was made is what is held and what was released. -/
theorem made_perm (h : Balanced holds l) : l.made.Perm (l.released ++ holds.reduceOption) := by
  refine List.perm_iff_count.mpr fun number => ?_
  have hheld : holds.reduceOption.count number = holds.count (some number) := by
    clear h
    induction holds with
    | nil => rfl
    | cons hold holds ih =>
      cases hold with
      | none => simpa using ih
      | some other => simp [List.count_cons, ih]
  rw [h.conserved number, List.count_append, hheld, Nat.add_comm]

/-- **Conservation of artifacts.** -/
theorem length_made (h : Balanced holds l) :
    l.made.length = l.released.length + holds.countP Option.isSome := by
  rw [h.made_perm.length_eq, List.length_append, List.reduceOption_length_eq,
    List.countP_eq_length_filter]

/-- No artifact was released twice. -/
theorem nodup_released (h : Balanced holds l) : l.released.Nodup := by
  refine List.nodup_iff_count.mpr fun number => ?_
  have := h.conserved number
  have := h.count_made_le number
  omega

end Balanced

end TemplateServer
