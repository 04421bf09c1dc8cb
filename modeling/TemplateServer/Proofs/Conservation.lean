import Mathlib.Data.List.Range
import TemplateServer.Proofs.Engine.Down
import TemplateServer.Proofs.Entry.Trades
import TemplateServer.Proofs.Erasure

/-!
# No artifact is lost

Artifacts change hands when an entry compiles, compiles again, and is taken down. The ledger of a
whole engine is `Balanced` with what all its entries hold, loaded or not, because every turn of the
engine trades at one entry at most. So each artifact that was ever made is held by one entry or was
released, just once and as the last thing that was done with it.

The teardown is followed entry by entry: it releases what the loaded entries hold, in their order,
goes on after a release that failed, and leaves nothing held.
-/

namespace TemplateServer

variable {σ κ α χ : Type}

/-- A report on one more entry, which was released cleanly or not. -/
def TeardownReport.count (clean : Bool) (report : TeardownReport) : TeardownReport :=
  if clean then { report with released := report.released + 1 }
  else { report with failed := report.failed + 1 }

namespace Engine

/-! ## The balance of an engine -/

/-- The ledger of an engine. -/
abbrev ledger (s : Engine σ (κ × Ledger) (Nat × α)) : Ledger := s.backend.compiler.2

/-- The ledger is balanced with what the entries hold. -/
def InBalance (s : Engine σ (κ × Ledger) (Nat × α)) : Prop :=
  Balanced (s.cache.entries.map Entry.number) s.ledger

variable {setup : Setup σ κ α} {s s' : Engine σ (κ × Ledger) (Nat × α)}

/-- The trades of one entry keep the balance of all. -/
theorem InBalance.putBack {handle : Handle} {e : Entry (Nat × α)}
    {focus : Entry.Focus σ (κ × Ledger) (Nat × α)} (h : s.InBalance)
    (hentry : s.cache.entry? handle = some e)
    (ht : Trades (Entry.Focus.book ⟨e, s.backend⟩) focus.book) :
    (s.putBack handle focus).InBalance := by
  have hat : (s.cache.entries.map Entry.number)[handle]? = some e.number := by
    rw [List.getElem?_map, show s.cache.entries[handle]? = some e from hentry]
    rfl
  have hnext : Balanced ((s.cache.entries.map Entry.number).set handle focus.entry.number) _ :=
    Balanced.trades ht hat h
  unfold InBalance
  show Balanced ((s.cache.entries.set handle focus.entry).map Entry.number) _
  rw [List.map_set]
  exact hnext

/-- Work keeps the balance. -/
theorem Work.inBalance (h : s.InBalance) (hw : Work setup.numbered s s') : s'.InBalance := by
  cases hw with
  | noted => exact h
  | stored => exact h
  | loaded =>
    have hmore := Balanced.unheld h
    unfold InBalance
    show Balanced ((s.cache.entries ++ [Entry.fresh _ _]).map Entry.number) _
    rw [List.map_append]
    exact hmore
  | marked hentry => exact h.putBack hentry .refl
  | serviced hentry hserv => exact h.putBack hentry hserv.trades
  | destroyed hentry => exact h.putBack hentry (Entry.Focus.destroy_trades setup _)

/-- **Every turn keeps the balance.** -/
theorem Turn.inBalance (h : s.InBalance) (ht : Turn setup.numbered s s') : s'.InBalance := by
  cases ht with
  | work hw => exact hw.inBalance h
  | counted => exact h
  | closed =>
    unfold InBalance onCache Cache.close
    dsimp only
    split <;> exact h

/-- Any number of turns keeps the balance. -/
theorem Turns.inBalance (h : s.InBalance) (ht : Turns setup.numbered s s') : s'.InBalance := by
  induction ht with
  | refl => exact h
  | tail _ ht ih => exact Turn.inBalance ih ht

/-! ## The handles of the loaded entries -/

/-- The entries that are loaded. -/
def loaded (s : Engine σ κ α) : List (Entry α) :=
  s.cache.index.filterMap fun i => s.cache.entry? i.2

/-- As long as the cache is open, every entry is loaded, in the order of the handles. -/
def Listed (s : Engine σ κ α) : Prop :=
  s.cache.closed = false → s.cache.index.map (·.2) = List.range s.cache.entries.length

section

variable {setup : Setup σ κ α} {s s' : Engine σ κ α}

/-- An entry that is put back stays listed. -/
theorem Listed.putBack (h : s.Listed) (handle : Handle) (focus : Entry.Focus σ κ α) :
    (s.putBack handle focus).Listed := by
  intro hopen
  show s.cache.index.map (·.2) = List.range (s.cache.entries.set handle focus.entry).length
  rw [List.length_set]
  exact h hopen

/-- Work lists what it makes. -/
theorem Work.listed (h : s.Listed) (hw : Work setup s s') : s'.Listed := by
  cases hw with
  | noted => exact h
  | stored => exact h
  | @loaded identity isErrorPage _ hopen =>
    intro _
    show (s.cache.index ++ [(identity, s.cache.entries.length)]).map (·.2) =
      List.range (s.cache.entries ++ [Entry.fresh identity isErrorPage]).length
    rw [List.map_append, h hopen, List.length_append, List.length_singleton, List.range_succ]
    rfl
  | marked => exact h.putBack _ _
  | serviced => exact h.putBack _ _
  | destroyed => exact h.putBack _ _

theorem Turn.listed (h : s.Listed) (ht : Turn setup s s') : s'.Listed := by
  cases ht with
  | work hw => exact hw.listed h
  | counted => exact h
  | closed =>
    unfold onCache Cache.close
    dsimp only
    split
    next => exact h
    next => intro hopen; cases hopen

theorem Turns.listed (h : s.Listed) (ht : Turns setup s s') : s'.Listed := by
  induction ht with
  | refl => exact h
  | tail _ ht ih => exact Turn.listed ih ht

end

/-! ## The teardown -/

section

variable (setup : Setup σ κ α) (report : TeardownReport) (s : Engine σ κ α) {handle : Handle}
  {e : Entry α}

/-- A handle without an entry has nothing to take down, and counts as taken down. -/
theorem destroyEntry_lost (hentry : s.cache.entry? handle = none) :
    destroyEntry setup report handle s = (report.count true, s) := by
  unfold destroyEntry
  rw [onEntry_none hentry]
  rfl

/-- An entry that holds nothing counts as released. -/
theorem destroyEntry_unheld (hentry : s.cache.entry? handle = some e) (hheld : e.held = none) :
    destroyEntry setup report handle s =
      (report.count true, s.putBack handle ⟨e.retired, s.backend⟩) := by
  unfold destroyEntry
  rw [onEntry_some hentry, Entry.Focus.destroy_unheld setup hheld]
  rfl

/-- What an entry holds is released, and a release that fails is counted. -/
theorem destroyEntry_held {held : Held α} {answer : Except String Unit} {compiler : κ}
    (hentry : s.cache.entry? handle = some e) (hheld : e.held = some held)
    (hrelease : setup.compiler.release held.artifact s.backend.compiler = (answer, compiler)) :
    ∃ events, destroyEntry setup report handle s =
      (report.count answer.isOk,
        (s.putBack handle ⟨e.retired, { s.backend with compiler := compiler }⟩).note events) := by
  have hdestroy : Entry.Focus.destroy setup ⟨e, s.backend⟩ =
      (answer, ⟨e.retired, { s.backend with compiler := compiler }⟩) := by
    rw [Entry.Focus.destroy_held setup hheld, hrelease]
    rfl
  unfold destroyEntry
  rw [onEntry_some hentry, hdestroy]
  cases answer with
  | error reason => exact ⟨_, rfl⟩
  | ok => exact ⟨[], by rw [note_nil]; rfl⟩

/-- An entry is retired, and the others stay. -/
theorem entry_of_destroyEntry (handle other : Handle) :
    (destroyEntry setup report handle s).2.cache.entry? other =
      if other = handle then (s.cache.entry? other).map Entry.retired
      else s.cache.entry? other := by
  cases hentry : s.cache.entry? handle with
  | none =>
    rw [destroyEntry_lost setup report s hentry]
    split
    next heq => rw [heq, hentry]; rfl
    next => rfl
  | some e =>
    have hset (backend : Backend σ κ) :
        (s.putBack handle ⟨e.retired, backend⟩).cache.entry? other =
          if other = handle then (s.cache.entry? other).map Entry.retired
          else s.cache.entry? other := by
      rw [putBack_cache, Cache.entry?_set hentry]
      split
      next heq => rw [heq, hentry]; rfl
      next => rfl
    cases hheld : e.held with
    | none =>
      rw [destroyEntry_unheld setup report s hentry hheld]
      exact hset _
    | some held =>
      obtain ⟨events, heq⟩ := destroyEntry_held setup report s hentry hheld rfl
      rw [heq]
      exact hset _

/-- The entries of these handles are taken down, and all others are as they were. -/
theorem entry_of_destroyAll (handles : List Handle) (other : Handle) :
    (destroyAll setup handles report s).2.cache.entry? other =
      if other ∈ handles then (s.cache.entry? other).map Entry.retired
      else s.cache.entry? other := by
  induction handles generalizing report s with
  | nil => rfl
  | cons handle handles ih =>
    unfold destroyAll
    dsimp only
    rw [ih, entry_of_destroyEntry]
    by_cases hhead : other = handle
    · subst hhead
      rw [if_pos rfl, if_pos List.mem_cons_self, Option.map_map]
      -- an entry that is taken down again stays as it is
      split <;> rfl
    · rw [if_neg hhead]
      simp only [List.mem_cons, hhead, false_or]

/-- The store is not asked when entries are taken down. -/
theorem destroyAll_store (handles : List Handle) :
    (destroyAll setup handles report s).2.backend.store = s.backend.store := by
  induction handles generalizing report s with
  | nil => rfl
  | cons handle handles ih =>
    unfold destroyAll
    dsimp only
    rw [ih]
    cases hentry : s.cache.entry? handle with
    | none => rw [destroyEntry_lost setup report s hentry]
    | some e =>
      cases hheld : e.held with
      | none => rw [destroyEntry_unheld setup report s hentry hheld]; rfl
      | some held =>
        obtain ⟨events, heq⟩ := destroyEntry_held setup report s hentry hheld rfl
        rw [heq]
        rfl

end

/-- Entries were taken down, `count` in all: the artifacts with these numbers were released in this
order, each of them cleanly or not, and the report has counted the entries and the failures. -/
def TakenDown (numbers : List Nat) (count : Nat) (before after : TeardownReport × Ledger) : Prop :=
  ∃ outcomes : List (Nat × Bool),
    outcomes.map (·.1) = numbers ∧
    after.2 = before.2 ++ outcomes.map (fun o => Deed.released o.1 o.2) ∧
    after.1.failed = before.1.failed + outcomes.countP (fun o => !o.2) ∧
    after.1.released + after.1.failed = before.1.released + before.1.failed + count

theorem TakenDown.trans {numbers numbers' : List Nat} {count count' : Nat}
    {a b c : TeardownReport × Ledger} (h : TakenDown numbers count a b)
    (h' : TakenDown numbers' count' b c) :
    TakenDown (numbers ++ numbers') (count + count') a c := by
  obtain ⟨outcomes, hnumbers, hledger, hfailed, hcount⟩ := h
  obtain ⟨outcomes', hnumbers', hledger', hfailed', hcount'⟩ := h'
  refine ⟨outcomes ++ outcomes', ?_, ?_, ?_, ?_⟩
  · rw [List.map_append, hnumbers, hnumbers']
  · rw [hledger', hledger, List.map_append, List.append_assoc]
  · rw [List.countP_append]
    omega
  · omega

section

variable (setup : Setup σ κ α) (report : TeardownReport) (s : Engine σ (κ × Ledger) (Nat × α))

/-- The numbers behind the handles, as far as something is held there. -/
def numbersAt (handles : List Handle) : List Nat :=
  handles.filterMap fun handle => (s.cache.entry? handle).bind Entry.number

/-- Taking one entry down releases what it holds and says so in the report. -/
theorem destroyEntry_takenDown (handle : Handle) :
    let r := destroyEntry setup.numbered report handle s
    TakenDown (s.numbersAt [handle]) 1 (report, s.ledger) (r.1, r.2.ledger) := by
  intro r
  have hr : r = destroyEntry setup.numbered report handle s := rfl
  have hnumbers : s.numbersAt [handle] = ((s.cache.entry? handle).bind Entry.number).toList := by
    unfold numbersAt
    cases hnumber : (s.cache.entry? handle).bind Entry.number <;> simp [hnumber]
  cases hentry : s.cache.entry? handle with
  | none =>
    rw [hr, destroyEntry_lost _ _ _ hentry, hnumbers, hentry]
    exact ⟨[], rfl, (List.append_nil _).symm, rfl, Nat.add_right_comm ..⟩
  | some e =>
    rw [hentry, Option.bind_some] at hnumbers
    cases hheld : e.held with
    | none =>
      rw [hr, destroyEntry_unheld _ _ _ hentry hheld, hnumbers, Entry.number_of_unheld hheld]
      exact ⟨[], rfl, (List.append_nil _).symm, rfl, Nat.add_right_comm ..⟩
    | some held =>
      obtain ⟨events, heq⟩ := destroyEntry_held setup.numbered report s hentry hheld rfl
      rw [hr, heq, hnumbers, Entry.number_of_held hheld]
      let clean := (setup.compiler.release held.artifact.2 s.backend.compiler.1).1.isOk
      refine ⟨[(held.artifact.1, clean)], rfl, rfl, ?_, ?_⟩
      · show (report.count clean).failed = report.failed + [(held.artifact.1, clean)].countP _
        cases clean <;> rfl
      · show (report.count clean).released + (report.count clean).failed = _
        unfold TeardownReport.count
        split <;> dsimp only <;> omega

theorem destroyAll_takenDown {handles : List Handle} (hnodup : handles.Nodup) :
    let r := destroyAll setup.numbered handles report s
    TakenDown (s.numbersAt handles) handles.length (report, s.ledger) (r.1, r.2.ledger) := by
  induction handles generalizing report s with
  | nil => exact ⟨[], rfl, (List.append_nil _).symm, rfl, rfl⟩
  | cons handle handles ih =>
    obtain ⟨hfresh, hnodup⟩ := List.nodup_cons.mp hnodup
    let r := destroyEntry setup.numbered report handle s
    -- the entries that are still to come have not been touched
    have hrest : r.2.numbersAt handles = s.numbersAt handles := by
      refine List.filterMap_congr fun other hother => ?_
      have hne : other ≠ handle := fun heq => hfresh (heq ▸ hother)
      rw [entry_of_destroyEntry, if_neg hne]
    have hboth := (destroyEntry_takenDown setup report s handle).trans (ih r.1 r.2 hnodup)
    rw [hrest] at hboth
    have hcons : s.numbersAt (handle :: handles) = s.numbersAt [handle] ++ s.numbersAt handles := by
      unfold numbersAt
      rw [← List.filterMap_append]
      rfl
    rw [hcons, List.length_cons, Nat.add_comm]
    exact hboth

end

/-- **The teardown of an open engine** releases what is held, entry by entry. -/
theorem teardown_takenDown (setup : Setup σ κ α) {s : Engine σ (κ × Ledger) (Nat × α)}
    (hlisted : s.Listed) (hopen : s.cache.closed = false) :
    let r := s.teardown setup.numbered
    TakenDown (s.loaded.filterMap Entry.number) s.loadedCount (⟨0, 0⟩, s.ledger)
      (r.1, r.2.ledger) := by
  intro r
  have hr : r = s.teardown setup.numbered := rfl
  obtain ⟨events, heq⟩ := teardown_eq setup.numbered hopen
  have hnodup : (s.cache.index.map (·.2)).Nodup := by
    rw [hlisted hopen]
    exact List.nodup_range
  have hdown := destroyAll_takenDown setup ⟨0, 0⟩ s.shut hnodup
  rw [List.length_map] at hdown
  have hnumbers : s.loaded.filterMap Entry.number =
      s.shut.numbersAt (s.cache.index.map (·.2)) := by
    unfold loaded numbersAt
    rw [List.filterMap_filterMap, List.filterMap_map]
    rfl
  rw [hr, heq, hnumbers]
  exact hdown

/-- It retires every entry. -/
theorem teardown_retired (setup : Setup σ κ α) {s : Engine σ κ α}
    (hlisted : s.Listed) (hopen : s.cache.closed = false) :
    ∀ e ∈ (s.teardown setup).2.cache.entries, ∃ before : Entry α, e = before.retired := by
  intro e he
  obtain ⟨events, heq⟩ := teardown_eq setup hopen
  obtain ⟨handle, hentry⟩ := List.mem_iff_getElem?.mp he
  have hentry : (s.teardown setup).2.cache.entry? handle = some e := hentry
  rw [heq, hlisted hopen] at hentry
  have hafter := (entry_of_destroyAll setup ⟨0, 0⟩ s.shut (List.range s.cache.entries.length)
    handle).symm.trans hentry
  split at hafter
  next =>
    obtain ⟨before, -, rfl⟩ := Option.map_eq_some_iff.mp hafter
    exact ⟨before, rfl⟩
  next hout =>
    -- there are no entries behind other handles
    have hlt : handle < s.cache.entries.length := (List.getElem?_eq_some_iff.mp hafter).1
    exact absurd (List.mem_range.mpr hlt) hout

/-- **It leaves nothing held.** -/
theorem teardown_unheld (setup : Setup σ κ α) {s : Engine σ κ α}
    (hlisted : s.Listed) (hopen : s.cache.closed = false) :
    ∀ e ∈ (s.teardown setup).2.cache.entries, e.held = none := by
  intro e he
  obtain ⟨before, rfl⟩ := teardown_retired setup hlisted hopen e he
  rfl

end Engine

/-- **Every artifact is released once.** After any calls, over any store and any compiler, what was
compiled is what was released, well or not, and what is held; no artifact was released twice, nor
executed once it was released. The teardown of an engine that is still open releases what the loaded
entries hold, in their order and whether releases fail or not; its report counts the loaded entries
and the failures, and nothing is held any more. This is said of artifacts that have numbers: without
the numbers the calls are replied to alike and leave the same engine behind. -/
theorem artifacts_released_once (setup : Setup σ κ α) (page : Option Identity) (apply : χ → σ → σ)
    (store : σ) (compiler : κ) (calls : List (Call σ χ)) :
    let plain : Dispatcher σ κ α := ⟨setup, page⟩
    let d : Dispatcher σ (κ × Ledger) (Nat × α) := ⟨setup.numbered, page⟩
    let done := d.calls apply calls (.start store (compiler, []))
    let s := done.2
    let torn := s.teardown setup.numbered
    plain.calls apply calls (.start store compiler) = (done.1, View.numbers.engine s) ∧
    (s.ledger.made.length = s.ledger.released.length + s.cache.entries.countP Entry.isCompiled ∧
      s.ledger.released.Nodup ∧ s.ledger.Pairwise Deed.Spares) ∧
    (s.cache.closed = false →
      Engine.TakenDown (s.loaded.filterMap Entry.number) s.loadedCount (⟨0, 0⟩, s.ledger)
          (torn.1, torn.2.ledger) ∧
        ∀ e ∈ torn.2.cache.entries, e.held = none) := by
  intro plain d done s torn
  have hturns : Engine.Turns setup.numbered _ s :=
    Dispatcher.calls_turns d (.start store (compiler, [])) apply calls
  have hstart : (Engine.start store (compiler, []) : Engine σ (κ × Ledger) (Nat × α)).InBalance :=
    Balanced.start
  have hbalance : s.InBalance := Engine.Turns.inBalance hstart hturns
  have hlisted : s.Listed := Engine.Turns.listed (fun _ => rfl) hturns
  refine ⟨?_, ⟨?_, hbalance.nodup_released, hbalance.ordered⟩, fun hopen =>
    ⟨Engine.teardown_takenDown setup hlisted hopen, Engine.teardown_unheld _ hlisted hopen⟩⟩
  · exact Dispatcher.calls_follow (View.numbers_shows setup) page apply calls
      (.start store (compiler, []))
  · rw [hbalance.length_made, List.countP_map]
    congr 2
    funext e
    exact Option.isSome_map

/-- Of two entries the first cannot be released, and the second is. -/
theorem artifacts_released_once_stuck :
    let p : Identity := ⟨[⟨['p'], by decide⟩], by simp⟩
    let q : Identity := ⟨[⟨['q'], by decide⟩], by simp⟩
    let setup : Setup Memory Echo.Counts String := ⟨Memory.store, Echo.compiler, ⟨true, 0⟩⟩
    let d : Dispatcher Memory (Echo.Counts × Ledger) (Nat × String) := ⟨setup.numbered, none⟩
    let calls : List (Call Memory Edit) :=
      [.step (.change (.put p Echo.stuckSource)), .step (.service 0 (.forPath "/p")),
        .step (.change (.put q "q")), .step (.service 0 (.forPath "/q"))]
    let s := (d.calls Edit.onMemory calls (.start .empty (.zero, []))).2
    let torn := s.teardown setup.numbered
    s.cache.closed = false ∧ torn.1 = ⟨1, 1⟩ ∧ torn.2.ledger.released = [0, 1] ∧
      Engine.TakenDown (s.loaded.filterMap Entry.number) s.loadedCount (⟨0, 0⟩, s.ledger)
        (torn.1, torn.2.ledger) := by
  intro p q setup d calls s torn
  have hopen : s.cache.closed = false := rfl
  exact ⟨hopen, rfl, rfl, ((artifacts_released_once setup none Edit.onMemory .empty .zero
    calls).2.2 hopen).1⟩

end TemplateServer
