import Mathlib.Algebra.Group.Nat.Defs
import Mathlib.Data.List.Dedup
import TemplateServer.Proofs.Engine.Admissions
import TemplateServer.Proofs.Entry.Tally
import TemplateServer.Proofs.Identity

/-!
# What the counters say

An entry counts its reloads, the process counts them over all entries, and the cache counts what is
loaded. The compilations themselves are in the tally of a compiler that is `tallied`, and the
identities that entries were given for are in `Dispatcher.admitted`; the counters agree with both
after any calls.

`Engine.Tallied` says that every entry has counted what the tally says, and is kept by every turn.
The count of the process moves with the tally (`Reckons`), by all that is done to an engine but a
setting of the count.
-/

namespace TemplateServer

variable {σ κ α χ : Type}

namespace Engine

/-- The identities of the sources that were compiled, in order. -/
abbrev tally (s : Engine σ (κ × List Identity) α) : List Identity := s.backend.compiler.2

/-- Every entry has counted its compilations. -/
structure Tallied (s : Engine σ (κ × List Identity) α) : Prop where
  filed : s.cache.Filed
  /-- What was compiled has an entry. -/
  known : ∀ identity ∈ s.tally, identity ∈ s.cache.made
  counted : ∀ {handle e}, s.cache.entry? handle = some e →
    e.generation = s.tally.count e.identity ∧ e.reloads = e.generation - 1

/-- The count of the process has moved with the tally. -/
def Reckons (s s' : Engine σ (κ × List Identity) α) : Prop :=
  ∃ since, s'.tally = s.tally ++ since ∧
    s'.backend.reloads = s.backend.reloads + .ofNat (reruns s.tally since)

variable {setup : Setup σ κ α} {s s₁ s' : Engine σ (κ × List Identity) α}

/-- The count after it was set. -/
theorem Reckons.reloadCount_eq {count : Nat} (h : Reckons s s')
    (hcount : s.backend.reloads = .ofNat count) :
    ∃ since, s'.tally = s.tally ++ since ∧
      s'.reloadCount = (count + reruns s.tally since) % 2 ^ 64 := by
  obtain ⟨since, htally, hreloads⟩ := h
  refine ⟨since, htally, ?_⟩
  unfold reloadCount
  rw [hreloads, hcount, ← UInt64.ofNat_add]
  exact UInt64.toNat_ofNat'

theorem Reckons.of_eq (htally : s'.tally = s.tally)
    (hreloads : s'.backend.reloads = s.backend.reloads) : Reckons s s' :=
  ⟨[], by rw [htally, List.append_nil], by rw [hreloads]; exact (UInt64.add_zero _).symm⟩

theorem Reckons.trans (h : Reckons s s₁) (h' : Reckons s₁ s') : Reckons s s' := by
  obtain ⟨since, htally, hreloads⟩ := h
  obtain ⟨since', htally', hreloads'⟩ := h'
  refine ⟨since ++ since', by rw [htally', htally, List.append_assoc], ?_⟩
  rw [hreloads', hreloads, htally, reruns_append, UInt64.ofNat_add, UInt64.add_assoc]

namespace Tallied

theorem start (store : σ) (compiler : κ) :
    Tallied (.start store (compiler, []) : Engine σ (κ × List Identity) α) where
  filed := .empty
  known _ h := by cases h
  counted h := by cases h

/-- What an entry has not compiled has not been tallied for it. -/
theorem pos_iff (h : s.Tallied) {handle : Handle} {e : Entry α}
    (hentry : s.cache.entry? handle = some e) : 0 < e.generation ↔ e.identity ∈ s.tally := by
  rw [(h.counted hentry).1]
  exact List.count_pos_iff

/-- A fresh entry has no success yet, nor has its identity. -/
theorem load (h : s.Tallied) {identity : Identity} (hlookup : s.cache.lookup identity = none)
    (hopen : s.cache.closed = false) (isErrorPage : Bool) :
    (s.load identity isErrorPage).Tallied where
  filed := h.filed.insert hopen hlookup isErrorPage
  known other hmem := by
    rw [load_cache, Cache.made_insert]
    exact List.mem_append_left _ (h.known other hmem)
  counted {handle e} hentry := by
    rw [load_cache, Cache.entry?_insert] at hentry
    split at hentry
    next =>
      cases hentry
      -- nothing was compiled for an identity that had no entry
      have hnew : identity ∉ s.tally := fun hmem =>
        h.filed.not_mem_made hopen hlookup (h.known identity hmem)
      exact ⟨(List.count_eq_zero.mpr hnew).symm, rfl⟩
    next => exact h.counted hentry

/-- An entry has acted, and has compiled so many times meanwhile. -/
theorem put (h : s.Tallied) {handle : Handle} {e : Entry α}
    {focus : Entry.Focus σ (κ × List Identity) α} {n : Nat}
    (hentry : s.cache.entry? handle = some e) (hid : focus.entry.identity = e.identity)
    (htally : focus.backend.compiler.2 = s.tally ++ List.replicate n e.identity)
    (hgeneration : focus.entry.generation = e.generation + n)
    (hreloads : focus.entry.reloads = focus.entry.generation - 1) :
    (s.putBack handle focus).Tallied where
  filed := h.filed.set hentry hid
  known other hmem := by
    rw [show (s.putBack handle focus).tally = _ from htally] at hmem
    rw [putBack_cache, Cache.made_set hentry hid]
    rcases List.mem_append.mp hmem with hold | hnew
    · exact h.known other hold
    · rw [List.eq_of_mem_replicate hnew]
      exact List.mem_map.mpr ⟨e, List.mem_of_getElem? hentry, rfl⟩
  counted {other e'} hother := by
    rw [show (s.putBack handle focus).tally = _ from htally, List.count_append]
    rw [putBack_cache, Cache.entry?_set hentry] at hother
    split at hother
    next =>
      cases hother
      rw [hid, List.count_replicate_self, hgeneration, (h.counted hentry).1]
      exact ⟨rfl, by rw [hreloads, hgeneration, (h.counted hentry).1]⟩
    next hne =>
      -- what was compiled for one entry does not count for another
      have hdiff : e.identity ≠ e'.identity := fun heq =>
        hne (h.filed.eq_of_identity hentry hother heq.symm)
      rw [List.count_replicate, if_neg (by simpa using hdiff), Nat.add_zero]
      exact h.counted hother

/-- An entry that acts counts nothing, or one compilation. -/
theorem putBack (h : s.Tallied) {handle : Handle} {e : Entry α}
    {focus : Entry.Focus σ (κ × List Identity) α} (hentry : s.cache.entry? handle = some e)
    (hreading : focus.reading = Entry.Focus.reading ⟨e, s.backend⟩ ∨
      focus.reading = (Entry.Focus.reading ⟨e, s.backend⟩).next) :
    (s.putBack handle focus).Tallied ∧ Reckons s (s.putBack handle focus) := by
  obtain ⟨-, hcounted⟩ := h.counted hentry
  let r := Entry.Focus.reading ⟨e, s.backend⟩
  rcases hreading with hsame | hnext
  · -- nothing was compiled
    obtain ⟨hid, hgeneration, hreloads, hprocess, htally⟩ := Reading.mk.inj hsame
    have hafter : focus.entry.reloads = focus.entry.generation - 1 := by
      rw [hreloads, hgeneration]
      exact hcounted
    exact ⟨h.put (n := 0) hentry hid (htally.trans (List.append_nil _).symm) hgeneration hafter,
      .of_eq htally hprocess⟩
  · -- one compilation, which is a reload unless it is the first of the identity
    have hid : focus.entry.identity = e.identity :=
      (congrArg Reading.identity hnext).trans r.next_identity
    have hgeneration : focus.entry.generation = e.generation + 1 :=
      (congrArg Reading.generation hnext).trans r.next_generation
    have htally : focus.backend.compiler.2 = s.tally ++ [e.identity] :=
      (congrArg Reading.tally hnext).trans r.next_tally
    have hreloads : focus.entry.reloads = e.reloads + if 0 < e.generation then 1 else 0 :=
      (congrArg Reading.reloads hnext).trans r.next_reloads
    have hprocess : focus.backend.reloads =
        s.backend.reloads + .ofNat (if 0 < e.generation then 1 else 0) :=
      (congrArg Reading.process hnext).trans r.next_process
    refine ⟨h.put (n := 1) hentry hid htally hgeneration ?_, [e.identity], htally, ?_⟩
    · rw [hreloads, hgeneration]
      split <;> omega
    · rw [putBack_backend, hprocess]
      show _ = _ + UInt64.ofNat ((if e.identity ∈ s.tally then 1 else 0) + 0)
      simp only [h.pos_iff hentry, Nat.add_zero]

end Tallied

/-- Work keeps the tally, and the counter of the process agrees with it. -/
theorem Work.tallied (h : s.Tallied) (hw : Work setup.tallied s s') :
    s'.Tallied ∧ Reckons s s' := by
  cases hw with
  | noted => exact ⟨⟨h.filed, h.known, h.counted⟩, .of_eq rfl rfl⟩
  | stored => exact ⟨⟨h.filed, h.known, h.counted⟩, .of_eq rfl rfl⟩
  | loaded isErrorPage hlookup hopen => exact ⟨h.load hlookup hopen isErrorPage, .of_eq rfl rfl⟩
  | marked hentry => exact h.putBack hentry (.inl rfl)
  | serviced hentry hserv => exact h.putBack hentry hserv.reads
  | destroyed hentry => exact h.putBack hentry (.inl (Entry.Focus.destroy_reading _))

/-- An entry's reloads are its compilations but the first. -/
theorem Tallied.reloads_eq (h : s.Tallied) {e : Entry α} (hmem : e ∈ s.cache.entries) :
    e.reloads = s.tally.count e.identity - 1 := by
  obtain ⟨handle, hentry⟩ := List.mem_iff_getElem?.mp hmem
  obtain ⟨hgeneration, hreloads⟩ := h.counted (show s.cache.entry? handle = some e from hentry)
  rw [hreloads, hgeneration]

/-- What is done to an engine is counted by the entries and by the process alike. -/
theorem Works.tallied (h : s.Tallied) (hworks : Works setup.tallied s s') :
    s'.Tallied ∧ Reckons s s' := by
  induction hworks with
  | refl => exact ⟨h, .of_eq rfl rfl⟩
  | tail _ hw ih =>
    obtain ⟨htallied, hreckons⟩ := ih
    obtain ⟨htallied', hreckons'⟩ := hw.tallied htallied
    exact ⟨htallied', hreckons.trans hreckons'⟩

/-- A closing counts nothing. -/
theorem Tallied.close (h : s.Tallied) : (s.onCache Cache.close).2.Tallied where
  filed := h.filed.close
  known identity hmem := by
    unfold Cache.made
    rw [close_entries]
    exact h.known identity hmem
  counted hentry := by
    unfold Cache.entry? at hentry
    rw [close_entries] at hentry
    exact h.counted hentry

/-- A turn keeps the tally. -/
theorem Turn.tallied (h : s.Tallied) (ht : Turn setup.tallied s s') : s'.Tallied := by
  cases ht with
  | work hw => exact (hw.tallied h).1
  | counted => exact ⟨h.filed, h.known, h.counted⟩
  | closed => exact h.close

theorem Turns.tallied (h : s.Tallied) (ht : Turns setup.tallied s s') : s'.Tallied := by
  induction ht with
  | refl => exact h
  | tail _ ht ih => exact ht.tallied ih

end Engine

namespace Dispatcher

open Engine

variable {setup : Setup σ κ α} {page : Option Identity} {s : Engine σ (κ × List Identity) α}
  (apply : χ → σ → σ)

/-- The counter of the process goes on with the tally in every call that does not set it. -/
theorem call_reckons (h : s.Tallied) {call : Call σ χ}
    (hset : ∀ count, call ≠ .step (.setReloads count)) :
    Reckons s (Dispatcher.call ⟨setup.tallied, page⟩ apply call s).2 := by
  -- a teardown closes the cache, which counts nothing, and then releases
  by_cases hdown : call = .teardown
  · subst hdown
    have hclose : Reckons s (s.onCache Cache.close).2 := .of_eq rfl rfl
    exact hclose.trans (Works.tallied h.close (teardown_works setup.tallied s)).2
  · exact (Works.tallied h (call_works ⟨setup.tallied, page⟩ s apply hset hdown)).2

/-- **Between two settings of the count** it moves with the tally. -/
theorem calls_reckon (h : s.Tallied) {calls : List (Call σ χ)}
    (hset : ∀ count, .step (.setReloads count) ∉ calls) :
    Reckons s (Dispatcher.calls ⟨setup.tallied, page⟩ apply calls s).2 := by
  induction calls generalizing s with
  | nil => exact .of_eq rfl rfl
  | cons call calls ih =>
    have hhead : ∀ count, call ≠ .step (.setReloads count) := fun count heq =>
      hset count (heq ▸ List.mem_cons_self)
    have htail : ∀ count, .step (.setReloads count) ∉ calls := fun count hmem =>
      hset count (List.mem_cons_of_mem call hmem)
    exact (call_reckons apply h hhead).trans
      (ih (Turns.tallied h (call_turns ⟨setup.tallied, page⟩ s apply call)) htail)

end Dispatcher

/-- **The counters agree with what was done.** After any calls, over any store and any compiler:

* there is one entry for each identity, and its reloads are its compilations in the tally but one;
* the reloads of the process are those in the tally since the count was set last, and the count that
  it was set to then, modulo 2^64;
* until the teardown what is loaded are the identities that entries were given for, each one once,
  listed in strict order, and their number does not decrease;
* what is loaded is found under its own identity.

The tally is that of a compiler that writes down what it has compiled; without it the calls are
replied to alike and leave the same engine behind. -/
theorem counters_agree (setup : Setup σ κ α) (page : Option Identity) (apply : χ → σ → σ)
    (store : σ) (compiler : κ) (calls : List (Call σ χ)) :
    let plain : Dispatcher σ κ α := ⟨setup, page⟩
    let d : Dispatcher σ (κ × List Identity) α := ⟨setup.tallied, page⟩
    let start : Engine σ (κ × List Identity) α := .start store (compiler, [])
    let after (calls : List (Call σ χ)) := (d.calls apply calls start).2
    let s := after calls
    plain.calls apply calls (.start store compiler) =
        ((d.calls apply calls start).1, View.tally.engine s) ∧
    ((∀ e ∈ s.cache.entries, e.reloads = s.tally.count e.identity - 1) ∧
      (s.cache.entries.map (·.identity)).Nodup) ∧
    (((∀ count, .step (.setReloads count) ∉ calls) →
        s.reloadCount = reruns [] s.tally % 2 ^ 64) ∧
      ∀ early count late, calls = early ++ .step (.setReloads count) :: late →
        (∀ count, .step (.setReloads count) ∉ late) →
        ∃ since, s.tally = (after early).tally ++ since ∧
          s.reloadCount = (count + reruns (after early).tally since) % 2 ^ 64) ∧
    (.teardown ∉ calls →
      s.loadedCount = (d.admitted apply calls start).dedup.length ∧
      (∀ identity, identity ∈ s.cache.identities ↔ identity ∈ d.admitted apply calls start) ∧
      s.cache.identities.Pairwise fun i j => i.chars < j.chars) ∧
    (∀ more, .teardown ∉ calls ++ more → s.loadedCount ≤ (after (calls ++ more)).loadedCount) ∧
    ∀ identity handle, (identity, handle) ∈ s.cache.index →
      ∃ e, s.cache.entry? handle = some e ∧ e.identity = identity := by
  intro plain d start after s
  have hstart : start.Tallied := .start store compiler
  have htallied (calls : List (Call σ χ)) : (after calls).Tallied :=
    Engine.Turns.tallied hstart (Dispatcher.calls_turns d start apply calls)
  -- only a teardown closes the cache
  have hopen {calls : List (Call σ χ)} (h : .teardown ∉ calls) :
      (after calls).cache.closed = false := by
    have hclosed := Dispatcher.calls_closed_iff d start apply calls
    rw [← Bool.not_eq_true, hclosed]
    rintro (hstart | hdown)
    · cases hstart
    · exact h hdown
  have hmade (identity : Identity) :
      identity ∈ s.cache.made ↔ identity ∈ d.admitted apply calls start := by
    rw [Dispatcher.calls_makes d apply hstart.filed calls identity]
    show identity ∈ [] ∨ _ ↔ _
    simp
  refine ⟨Dispatcher.calls_follow (View.tally_shows setup) page apply calls start,
    ⟨fun e he => (htallied calls).reloads_eq he, (htallied calls).filed.distinct⟩,
    ⟨fun hset => ?_, fun early count late hcalls hset => ?_⟩, fun hdown => ⟨?_, ?_, ?_⟩,
    fun more hdown => ?_, fun identity handle => (htallied calls).filed.entry_of_mem⟩
  · have hreckons : Engine.Reckons start s := Dispatcher.calls_reckon apply hstart hset
    have hzero : start.backend.reloads = .ofNat 0 := rfl
    obtain ⟨since, htally, hreloads⟩ := hreckons.reloadCount_eq hzero
    rw [hreloads, show s.tally = since from htally, Nat.zero_add]
    rfl
  · -- the count is set after the early calls, and only moves with the tally from there
    let reset := (after early).setReloadCount count
    have hturn : Engine.Turn setup.tallied (after early) reset := .counted count
    have hreset : reset.Tallied := hturn.tallied (htallied early)
    have hlate : s = (d.calls apply late reset).2 := by
      show (d.calls apply calls start).2 = _
      rw [hcalls, Dispatcher.calls_append]
      rfl
    have hreckons : Engine.Reckons reset s := hlate ▸ Dispatcher.calls_reckon apply hreset hset
    exact hreckons.reloadCount_eq rfl
  · show s.cache.size = _
    rw [(htallied calls).filed.size_eq (hopen hdown)]
    -- the entries that were made are those of the identities that entries were given for
    have hperm : s.cache.made.Perm (d.admitted apply calls start).dedup :=
      (List.perm_ext_iff_of_nodup (htallied calls).filed.distinct (List.nodup_dedup _)).mpr
        fun identity => by rw [hmade, List.mem_dedup]
    exact hperm.length_eq
  · intro identity
    rw [(htallied calls).filed.identities_eq (hopen hdown), Identity.mem_sort, hmade]
  · rw [(htallied calls).filed.identities_eq (hopen hdown)]
    exact Identity.sort_strict (htallied calls).filed.distinct
  · have hearly : .teardown ∉ calls := fun hmem => hdown (List.mem_append_left more hmem)
    -- what was made stays made
    show s.cache.size ≤ (after (calls ++ more)).cache.size
    rw [(htallied calls).filed.size_eq (hopen hearly),
      (htallied (calls ++ more)).filed.size_eq (hopen hdown)]
    have hlate : after (calls ++ more) = (d.calls apply more s).2 := by
      show (d.calls apply (calls ++ more) start).2 = _
      rw [Dispatcher.calls_append]
    have hkept : s.cache.made ⊆ (after (calls ++ more)).cache.made := fun identity hmem => by
      rw [hlate]
      exact (Dispatcher.calls_makes d apply (htallied calls).filed more identity).mpr (.inl hmem)
    exact (List.subperm_of_subset (htallied calls).filed.distinct hkept).length_le

/-- The count is set to the greatest there is, and a reload takes it to zero. Then a source is
refused, for which the page is made and compiled. -/
theorem counters_agree_wrapped :
    let p : Identity := ⟨[⟨['p'], by decide⟩], by simp⟩
    let q : Identity := ⟨[⟨['q'], by decide⟩], by simp⟩
    let setup : Setup Memory Echo.Counts String := ⟨Memory.store, Echo.compiler, ⟨true, 0⟩⟩
    let d : Dispatcher Memory (Echo.Counts × List Identity) String := ⟨setup.tallied, some q⟩
    let early : List (Call Memory Edit) :=
      [.step (.change (.put q "page")), .step (.change (.put p "v1")),
        .step (.respond 0 (.forPath "/p"))]
    let late : List (Call Memory Edit) :=
      [.step (.change (.put p "v2")), .step (.respond 0 (.forPath "x/../p")),
        .step (.change (.put p Echo.refusedSource)), .step (.respond 0 (.forPath "/p"))]
    let calls := early ++ .step (.setReloads (2 ^ 64 - 1)) :: late
    let start : Engine Memory (Echo.Counts × List Identity) String := .start .empty (.zero, [])
    let s := (d.calls Edit.onMemory calls start).2
    let before := (d.calls Edit.onMemory early start).2
    (∀ count, .step (.setReloads count) ∉ late) ∧ .teardown ∉ calls ∧
      s.tally = [p, p, q] ∧ s.reloadCount = 0 ∧ s.loadedCount = 2 ∧
      (∃ since, s.tally = before.tally ++ since ∧
        s.reloadCount = (2 ^ 64 - 1 + reruns before.tally since) % 2 ^ 64) ∧
      s.loadedCount = (d.admitted Edit.onMemory calls start).dedup.length := by
  intro p q setup d early late calls start s before
  have hset : ∀ count, .step (.setReloads count) ∉ late := by simp [late]
  have hdown : .teardown ∉ calls := by simp [calls, early, late]
  have hagree := counters_agree setup (some q) Edit.onMemory .empty .zero calls
  have hwrapped : s.reloadCount = 0 := by decide +kernel
  exact ⟨hset, hdown, rfl, hwrapped, rfl, hagree.2.2.1.2 early _ late rfl hset,
    (hagree.2.2.2.1 hdown).1⟩

end TemplateServer
