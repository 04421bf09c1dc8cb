import Mathlib.Logic.Function.Basic
import TemplateServer.Proofs.Dispatch
import TemplateServer.Proofs.Engine.Admissions

/-!
# Callers that come for entries at the same time

Any number of callers come for entries, and each goes in two steps. It looks its identity up without
a lock; if nothing is found, it does the rest under the lock of creation (`Engine.enter`), where it
looks again, since another caller may have made the entry meanwhile. `getOrCreate_eq` says that the
two steps with nothing between them are `getOrCreate`.

A `Crowd` is what the callers have come to after any `Move`s: steps of theirs in any order, lookups
by others, and closings of the cache. Its store answers each caller as the caller's `hasSource` says
and is the list of those who asked.

One fact carries the rest: the entries are those of the callers who were told that there is a
source, one for each of them, in the order in which they were told (`Orderly.entries`), and nobody
asks after that for the same identity (`Orderly.asked`). A caller that was late with its lookup
finds the entry when it looks again, because making an entry and loading it are one step under the
lock.
-/

namespace TemplateServer

open TemplateServer.Action

variable {σ κ α : Type}

namespace Engine

/-- What a caller does under the lock of creation: a closed cache refuses it, and in an open one it
looks again before anything is made. -/
def enter (identity : Identity) (isErrorPage : Bool)
    (hasSource : Engine σ κ α → Bool × Engine σ κ α) : Action σ κ α Handle := do
  if (← get).cache.closed then throw .shutDown
  getOrCreate identity isErrorPage hasSource

section

variable (identity : Identity) (isErrorPage : Bool)

/-- A closed cache refuses the caller. -/
theorem enter_closed {hasSource : Engine σ κ α → Bool × Engine σ κ α} {s : Engine σ κ α}
    (hclosed : s.cache.closed = true) :
    (enter identity isErrorPage hasSource).run s = (.error .shutDown, s) := by
  unfold enter
  rw [run_bind_ok (run_get s), if_pos hclosed]
  rfl

/-- An open cache is looked up again. -/
theorem enter_open {hasSource : Engine σ κ α → Bool × Engine σ κ α} {s : Engine σ κ α}
    (hopen : s.cache.closed = false) :
    (enter identity isErrorPage hasSource).run s =
      (getOrCreate identity isErrorPage hasSource).run s := by
  unfold enter
  rw [run_bind_ok (run_get s), hopen, if_neg (by simp)]

/-- A caller goes in two steps: a lookup, and where it finds nothing, the rest under the lock. -/
theorem getOrCreate_eq (hasSource : Engine σ κ α → Bool × Engine σ κ α) (s : Engine σ κ α) :
    (getOrCreate identity isErrorPage hasSource).run s =
      match s.cache.lookup identity with
      | some handle => (.ok handle, s)
      | none => (enter identity isErrorPage hasSource).run s := by
  cases hlookup : s.cache.lookup identity with
  | some handle =>
    unfold getOrCreate Cache.admission
    rw [run_bind_ok (run_get s), hlookup]
    rfl
  | none =>
    cases hclosed : s.cache.closed with
    | false => exact (enter_open identity isErrorPage hclosed).symm
    | true =>
      rw [enter_closed identity isErrorPage hclosed]
      unfold getOrCreate Cache.admission
      rw [run_bind_ok (run_get s), hlookup, hclosed]
      rfl

/-- Where the cache is in order, what a closed cache refuses would not have been found either. -/
theorem enter_eq {s : Engine σ κ α} (h : s.cache.Filed)
    (hasSource : Engine σ κ α → Bool × Engine σ κ α) :
    (enter identity isErrorPage hasSource).run s =
      (getOrCreate identity isErrorPage hasSource).run s := by
  cases hlookup : s.cache.lookup identity with
  | some handle => exact enter_open identity isErrorPage (h.open_of_lookup hlookup)
  | none =>
    have hsteps := getOrCreate_eq identity isErrorPage hasSource s
    rw [hlookup] at hsteps
    exact hsteps.symm

end

end Engine

/-- What a caller comes for, and what the store answers if the caller asks it. -/
structure Caller where
  identity : Identity
  isErrorPage : Bool
  hasSource : Bool

/-- How far a caller has come. -/
inductive Caller.Stage
  | called
  /-- Nothing was found, and the caller wants the lock. -/
  | missed
  | left (result : Except Failure Handle)

/-- What happens next. Callers are known by numbers. -/
inductive Crowd.Move
  | go (caller : Nat)
  /-- Anyone looks an identity up. -/
  | look (identity : Identity)
  | close

/-- The engine that the callers share, and what they have come to. -/
structure Crowd (κ α : Type) where
  /-- The store is the list of the callers who asked it. -/
  engine : Engine (List Nat) κ α
  stage : Nat → Caller.Stage
  /-- What was found by lookups. -/
  found : List (Identity × Handle)
  /-- What the closings have handed back. -/
  handed : List Handle

namespace Crowd

def start (compiler : κ) : Crowd κ α := ⟨.start [] compiler, fun _ => .called, [], []⟩

/-- The cache that the callers share. -/
abbrev cache (s : Crowd κ α) : Cache α := s.engine.cache

/-- Who has asked the store, in order. -/
abbrev askers (s : Crowd κ α) : List Nat := s.engine.backend.store

/-- Leaves an engine behind, and a caller at a stage. -/
def put (n : Nat) (stage : Caller.Stage) (engine : Engine (List Nat) κ α) (s : Crowd κ α) :
    Crowd κ α :=
  { s with engine := engine, stage := Function.update s.stage n stage }

section

variable (n : Nat) (stage : Caller.Stage) (engine : Engine (List Nat) κ α) (s : Crowd κ α)

@[simp] theorem put_stage_self : (s.put n stage engine).stage n = stage := by
  show Function.update s.stage n stage n = stage
  rw [Function.update_self]

theorem put_stage_ne {m : Nat} (h : m ≠ n) : (s.put n stage engine).stage m = s.stage m := by
  show Function.update s.stage n stage m = s.stage m
  rw [Function.update_of_ne h]

theorem put_put (stage' : Caller.Stage) (engine' : Engine (List Nat) κ α) :
    (s.put n stage engine).put n stage' engine' = s.put n stage' engine' := by
  unfold put
  rw [Function.update_idem]

end

section

variable (callers : Nat → Caller)

/-- A caller asks the store whether there is a source. -/
def ask (n : Nat) : StateM (List Nat) Bool :=
  fun askers => ((callers n).hasSource, askers ++ [n])

/-- The next step of a caller. -/
def go (n : Nat) (s : Crowd κ α) : Crowd κ α :=
  let c := callers n
  match s.stage n with
  | .called =>
    match s.cache.lookup c.identity with
    | some handle => s.put n (.left (.ok handle)) s.engine
    | none => s.put n .missed s.engine
  | .missed =>
    let r := (Engine.enter c.identity c.isErrorPage (Engine.onStore (ask callers n))).run s.engine
    s.put n (.left r.1) r.2
  | .left _ => s

/-- A lookup by anyone, which is written down if it finds something. -/
def look (identity : Identity) (s : Crowd κ α) : Crowd κ α :=
  match s.cache.lookup identity with
  | some handle => { s with found := s.found ++ [(identity, handle)] }
  | none => s

/-- A closing, and what it hands back. -/
def close (s : Crowd κ α) : Crowd κ α :=
  let r := s.engine.onCache Cache.close
  { s with engine := r.2, handed := s.handed ++ r.1 }

def step (s : Crowd κ α) : Move → Crowd κ α
  | .go n => s.go callers n
  | .look identity => s.look identity
  | .close => s.close

def run (moves : List Move) (s : Crowd κ α) : Crowd κ α := moves.foldl (step callers) s

/-- The callers who were told that there is a source, in the order in which they asked. -/
def makers (s : Crowd κ α) : List Nat := s.askers.filter fun n => (callers n).hasSource

/-- What the next step of a caller can come to. -/
inductive Went (n : Nat) (s : Crowd κ α) : Crowd κ α → Prop
  | stood {result : Except Failure Handle} (hstage : s.stage n = .left result) : Went n s s
  | hit {handle : Handle} (hstage : s.stage n = .called)
      (hlookup : s.cache.lookup (callers n).identity = some handle) :
      Went n s (s.put n (.left (.ok handle)) s.engine)
  | missed (hstage : s.stage n = .called)
      (hlookup : s.cache.lookup (callers n).identity = none) :
      Went n s (s.put n .missed s.engine)
  /-- Another caller has made the entry meanwhile. -/
  | late {handle : Handle} (events : List Log.Event) (hstage : s.stage n = .missed)
      (hlookup : s.cache.lookup (callers n).identity = some handle) :
      Went n s (s.put n (.left (.ok handle)) (s.engine.note events))
  | refused (events : List Log.Event) (hstage : s.stage n = .missed)
      (hclosed : s.cache.closed = true) :
      Went n s (s.put n (.left (.error .shutDown)) (s.engine.note events))
  | missing (events : List Log.Event) (hstage : s.stage n = .missed)
      (hlookup : s.cache.lookup (callers n).identity = none) (hopen : s.cache.closed = false)
      (hno : (callers n).hasSource = false) :
      Went n s (s.put n (.left (.error (.sourceNotFound (callers n).identity.text)))
        ((s.engine.withStore (s.askers ++ [n])).note events))
  | made (events : List Log.Event) (hstage : s.stage n = .missed)
      (hlookup : s.cache.lookup (callers n).identity = none) (hopen : s.cache.closed = false)
      (hyes : (callers n).hasSource = true) :
      Went n s (s.put n (.left (.ok s.cache.entries.length))
        (((s.engine.withStore (s.askers ++ [n])).load (callers n).identity
          (callers n).isErrorPage).note events))

variable {callers}

theorem go_cases {s : Crowd κ α} (h : s.cache.Filed) (n : Nat) :
    Went callers n s (s.go callers n) := by
  cases hstage : s.stage n with
  | left result =>
    have hgo : s.go callers n = s := by
      unfold go
      rw [hstage]
    rw [hgo]
    exact .stood hstage
  | called =>
    unfold go
    rw [hstage]
    dsimp only
    cases hlookup : s.cache.lookup (callers n).identity with
    | some handle => exact .hit hstage hlookup
    | none => exact .missed hstage hlookup
  | missed =>
    unfold go
    rw [hstage]
    dsimp only
    -- where the cache is in order, the critical section alone does what a whole call does
    rw [Engine.enter_eq _ _ h]
    have hcases := Engine.getOrCreate_cases (ask callers n) (callers n).identity
      (callers n).isErrorPage s.engine []
    rw [Engine.note_nil] at hcases
    generalize (Engine.getOrCreate (callers n).identity (callers n).isErrorPage
      (Engine.onStore (ask callers n))).run s.engine = r at hcases ⊢
    obtain ⟨result, engine⟩ := r
    cases hcases with
    | @admitted handle s' events hadm =>
      cases hadm with
      | present hlookup => exact .late events hstage hlookup
      | created hlookup hopen hask =>
        obtain ⟨hyes, rfl⟩ := Prod.mk.inj hask
        exact .made events hstage hlookup hopen hyes
    | refused events hlookup hclosed => exact .refused events hstage hclosed
    | missing events hlookup hopen hask =>
      obtain ⟨hno, rfl⟩ := Prod.mk.inj hask
      exact .missing events hstage hlookup hopen hno

/-! ## What every order of the moves keeps -/

/-- How the cache, the store and the callers hang together. -/
structure Orderly (callers : Nat → Caller) (s : Crowd κ α) : Prop where
  filed : s.cache.Filed
  /-- The entries are those of the callers who were told that there is a source. -/
  entries : s.cache.entries =
    (s.makers callers).map fun n => .fresh (callers n).identity (callers n).isErrorPage
  /-- After such an answer nobody asks about the same identity. -/
  asked : s.askers.Pairwise fun m n =>
    (callers m).hasSource = true → (callers n).identity ≠ (callers m).identity
  made : ∀ handle n, (s.makers callers)[handle]? = some n → s.stage n = .left (.ok handle)
  given : ∀ n handle, s.stage n = .left (.ok handle) →
    s.cache.made[handle]? = some (callers n).identity
  found : ∀ p ∈ s.found, s.cache.made[p.2]? = some p.1
  handed : s.handed = if s.cache.closed then List.range s.cache.entries.length else []

namespace Orderly

variable {s : Crowd κ α} {identity : Identity} {handle : Handle} {n : Nat}

theorem start (compiler : κ) : Orderly callers (.start compiler : Crowd κ α) where
  filed := .empty
  entries := rfl
  asked := .nil
  made handle n h := by
    have hnobody : (Crowd.start compiler : Crowd κ α).makers callers = [] := rfl
    rw [hnobody] at h
    cases h
  given n handle h := by
    cases h
  found p h := by
    cases h
  handed := rfl

section

variable (h : Orderly callers s)

include h

theorem made_eq : s.cache.made = (s.makers callers).map fun n => (callers n).identity := by
  unfold Cache.made
  rw [h.entries, List.map_map]
  rfl

/-- What a lookup finds is the entry made for the identity. -/
theorem made_of_lookup (hlookup : s.cache.lookup identity = some handle) :
    s.cache.made[handle]? = some identity := by
  obtain ⟨e, he, hid⟩ := h.filed.keyed _ _ hlookup
  have hat : s.cache.entries[handle]? = some e := he
  unfold Cache.made
  rw [List.getElem?_map, hat, Option.map_some, hid]

/-- A caller who asks comes for an identity that nobody was told to have a source. -/
theorem asked_concat (hlookup : s.cache.lookup (callers n).identity = none)
    (hopen : s.cache.closed = false) :
    (s.askers ++ [n]).Pairwise fun m n =>
      (callers m).hasSource = true → (callers n).identity ≠ (callers m).identity := by
  refine List.pairwise_append.mpr ⟨h.asked, List.pairwise_singleton _ _, ?_⟩
  intro m hm n' hn' hyes heq
  rw [List.mem_singleton.mp hn'] at heq
  have hmaker : m ∈ s.makers callers := List.mem_filter.mpr ⟨hm, hyes⟩
  refine h.filed.not_mem_made hopen hlookup ?_
  rw [h.made_eq, heq]
  exact List.mem_map_of_mem hmaker

/-- A caller that makes nothing leaves everything in order. -/
theorem moved {stage : Caller.Stage} {engine : Engine (List Nat) κ α}
    (hstage : ∀ result, s.stage n ≠ .left result)
    (hcache : engine.cache = s.cache)
    (hmakers : (engine.backend.store.filter fun n => (callers n).hasSource) = s.makers callers)
    (hasked : engine.backend.store.Pairwise fun m n =>
      (callers m).hasSource = true → (callers n).identity ≠ (callers m).identity)
    (hgiven : ∀ handle, stage = .left (.ok handle) →
      s.cache.made[handle]? = some (callers n).identity) :
    Orderly callers (s.put n stage engine) where
  filed := by
    show engine.cache.Filed
    rw [hcache]
    exact h.filed
  entries := by
    show engine.cache.entries = (engine.backend.store.filter _).map _
    rw [hcache, hmakers]
    exact h.entries
  asked := hasked
  made handle m hm := by
    have hold : s.stage m = .left (.ok handle) := h.made handle m (hmakers ▸ hm)
    have hne : m ≠ n := by
      rintro rfl
      exact hstage _ hold
    rw [put_stage_ne _ _ _ _ hne]
    exact hold
  given m handle hm := by
    show engine.cache.made[handle]? = _
    rw [hcache]
    by_cases hne : m = n
    · rw [hne, put_stage_self] at hm
      rw [hne]
      exact hgiven handle hm
    · rw [put_stage_ne _ _ _ _ hne] at hm
      exact h.given m handle hm
  found := by
    show ∀ p ∈ s.found, engine.cache.made[p.2]? = some p.1
    rw [hcache]
    exact h.found
  handed := by
    show s.handed = if engine.cache.closed then List.range engine.cache.entries.length else []
    rw [hcache]
    exact h.handed

/-- Each maker has left with its entry, the one that comes last included. -/
theorem stage_of_maker {m : Nat} {engine : Engine (List Nat) κ α} (hstage : s.stage n = .missed)
    (hm : (s.makers callers ++ [n])[handle]? = some m) :
    (s.put n (.left (.ok s.cache.entries.length)) engine).stage m = .left (.ok handle) := by
  have hcount : (s.makers callers).length = s.cache.entries.length := by
    rw [h.entries, List.length_map]
  by_cases hlt : handle < (s.makers callers).length
  · -- an earlier maker, who has left and so is not the one that makes now
    rw [List.getElem?_append_left hlt] at hm
    have hleft : s.stage m = .left (.ok handle) := h.made handle m hm
    have hne : m ≠ n := by
      rintro rfl
      rw [hstage] at hleft
      cases hleft
    rw [put_stage_ne _ _ _ _ hne]
    exact hleft
  · -- the handle behind all others
    have hend : handle < (s.makers callers ++ [n]).length := (List.getElem?_eq_some_iff.mp hm).1
    have heq : handle = (s.makers callers).length := by
      rw [List.length_append, List.length_singleton] at hend
      exact Nat.le_antisymm (Nat.lt_succ_iff.mp hend) (Nat.le_of_not_lt hlt)
    rw [heq, List.getElem?_concat_length] at hm
    cases hm
    rw [put_stage_self, heq, hcount]

/-- A caller who is told that there is a source makes the one entry of its identity. -/
theorem maker (hstage : s.stage n = .missed)
    (hlookup : s.cache.lookup (callers n).identity = none) (hopen : s.cache.closed = false)
    (hyes : (callers n).hasSource = true) {engine : Engine (List Nat) κ α}
    (hcache : engine.cache = (s.cache.insert (callers n).identity (callers n).isErrorPage).2)
    (haskers : engine.backend.store = s.askers ++ [n]) :
    Orderly callers (s.put n (.left (.ok s.cache.entries.length)) engine) := by
  have hmakers : (s.put n (.left (.ok s.cache.entries.length)) engine).makers callers =
      s.makers callers ++ [n] := by
    unfold makers
    rw [show (s.put n _ engine).askers = s.askers ++ [n] from haskers, List.filter_append]
    congr 1
    exact List.filter_cons_of_pos hyes
  have hmade : engine.cache.made = s.cache.made ++ [(callers n).identity] := by
    rw [hcache, Cache.made_insert]
  have hlen : s.cache.made.length = s.cache.entries.length := by
    unfold Cache.made
    rw [List.length_map]
  -- what was known of the entries stays known
  have hkeeps : ∀ {handle : Handle} {identity : Identity},
      s.cache.made[handle]? = some identity → engine.cache.made[handle]? = some identity := by
    intro handle identity hat
    have hlt : handle < s.cache.made.length := (List.getElem?_eq_some_iff.mp hat).1
    rw [hmade, List.getElem?_append_left hlt]
    exact hat
  refine ⟨?filed, ?entries, ?asked, ?made, ?given, ?found, ?handed⟩
  case filed =>
    show engine.cache.Filed
    rw [hcache]
    exact h.filed.insert hopen hlookup _
  case entries =>
    show engine.cache.entries = _
    rw [hmakers, List.map_append, ← h.entries, hcache]
    rfl
  case asked =>
    show engine.backend.store.Pairwise _
    rw [haskers]
    exact h.asked_concat hlookup hopen
  case made =>
    intro handle m hm
    rw [hmakers] at hm
    exact h.stage_of_maker hstage hm
  case given =>
    intro m handle hm
    show engine.cache.made[handle]? = _
    by_cases hne : m = n
    · rw [hne, put_stage_self] at hm
      cases hm
      rw [hne, hmade, ← hlen, List.getElem?_concat_length]
    · rw [put_stage_ne _ _ _ _ hne] at hm
      exact hkeeps (h.given m handle hm)
  case found =>
    intro p hp
    exact hkeeps (h.found p hp)
  case handed =>
    show s.handed = if engine.cache.closed then _ else []
    have hstill : engine.cache.closed = false := by
      rw [hcache]
      exact hopen
    rw [hstill, h.handed, hopen]
    rfl

/-- A step of a caller keeps the order. -/
theorem go (n : Nat) : Orderly callers (s.go callers n) := by
  have hwent : Went callers n s (s.go callers n) := go_cases h.filed n
  generalize s.go callers n = s' at hwent
  cases hwent with
  | stood => exact h
  | hit hstage hlookup =>
    refine h.moved (by simp [hstage]) rfl rfl h.asked ?_
    rintro handle ⟨⟩
    exact h.made_of_lookup hlookup
  | missed hstage => exact h.moved (by simp [hstage]) rfl rfl h.asked (by simp)
  | late events hstage hlookup =>
    refine h.moved (by simp [hstage]) rfl rfl h.asked ?_
    rintro handle ⟨⟩
    exact h.made_of_lookup hlookup
  | refused events hstage => exact h.moved (by simp [hstage]) rfl rfl h.asked (by simp)
  | missing events hstage hlookup hopen hno =>
    refine h.moved (by simp [hstage]) rfl ?_ (h.asked_concat hlookup hopen) (by simp)
    rw [Engine.note_store, Engine.withStore_store, List.filter_append]
    simp [hno, makers]
  | made events hstage hlookup hopen hyes => exact h.maker hstage hlookup hopen hyes rfl rfl

theorem look (identity : Identity) : Orderly callers (s.look identity) := by
  unfold Crowd.look
  cases hlookup : s.cache.lookup identity with
  | none => exact h
  | some handle =>
    refine { h with found := ?_ }
    intro p hp
    rcases List.mem_append.mp hp with hold | hnew
    · exact h.found p hold
    · rw [List.mem_singleton.mp hnew]
      exact h.made_of_lookup hlookup

/-- A closing keeps the order, and hands back the entries that it takes out of the index. -/
theorem close : Orderly callers s.close := by
  have hentries : s.close.cache.entries = s.cache.entries :=
    Engine.close_entries s.engine
  have hmade : s.close.cache.made = s.cache.made := by
    unfold Cache.made
    rw [hentries]
  have hclosed : s.close.cache.closed = true := Engine.close_closed s.engine
  have hhanded : s.close.handed = s.handed ++ s.cache.close.1 := rfl
  refine ⟨h.filed.close, hentries.trans h.entries, h.asked, h.made, ?_, ?_, ?_⟩
  · intro n handle hleft
    rw [hmade]
    exact h.given n handle hleft
  · intro p hp
    rw [hmade]
    exact h.found p hp
  · rw [hhanded, hclosed, if_pos rfl, hentries, h.handed]
    unfold Cache.close
    cases hwas : s.cache.closed with
    | true => exact List.append_nil _
    | false =>
      -- the index of an open cache lists every entry
      show [] ++ s.cache.index.map (·.2) = _
      rw [List.nil_append, h.filed.index_eq hwas, List.zipIdx_map_snd, h.made_eq, h.entries]
      simp [List.range_eq_range']

/-- Every move keeps the order. -/
theorem step (move : Move) : Orderly callers (s.step callers move) := by
  cases move with
  | go n => exact h.go n
  | look identity => exact h.look identity
  | close => exact h.close

theorem run (moves : List Move) : Orderly callers (s.run callers moves) := by
  induction moves generalizing s with
  | nil => exact h
  | cons move moves ih => exact ih (h.step move)

/-- Whatever handle an identity goes by, it is the one of the entry that was made for it. -/
theorem entry_of_made (hmade : s.cache.made[handle]? = some identity) :
    s.cache.handleOf? identity = some handle ∧
      ∃ n ∈ s.makers callers, (callers n).identity = identity ∧
        s.cache.entry? handle = some (.fresh identity (callers n).isErrorPage) := by
  rw [h.made_eq, List.getElem?_map] at hmade
  obtain ⟨n, hn, hid⟩ := Option.map_eq_some_iff.mp hmade
  have hentry : s.cache.entry? handle = some (.fresh identity (callers n).isErrorPage) := by
    show s.cache.entries[handle]? = _
    rw [h.entries, List.getElem?_map, hn, ← hid]
    rfl
  exact ⟨h.filed.handleOf?_of_entry hentry, n, List.mem_of_getElem? hn, hid, hentry⟩

/-- A caller who is refused, or told that there is no source, leaves the cache as it was. -/
theorem go_failed {failure : Failure} (hmissed : s.stage n = .missed)
    (hleft : (s.go callers n).stage n = .left (.error failure)) :
    (s.go callers n).cache = s.cache ∧
      if s.cache.closed then failure = .shutDown ∧ (s.go callers n).askers = s.askers
      else failure = .sourceNotFound (callers n).identity.text ∧
        (callers n).hasSource = false := by
  have hwent : Went callers n s (s.go callers n) := go_cases h.filed n
  generalize s.go callers n = s' at hwent hleft ⊢
  cases hwent with
  | stood hstage | hit hstage | missed hstage =>
    -- the caller has not missed, or has left
    rw [hmissed] at hstage
    cases hstage
  | late | made =>
    -- the caller leaves with an entry
    rw [put_stage_self] at hleft
    cases hleft
  | refused events hstage hclosed =>
    rw [put_stage_self] at hleft
    cases hleft
    rw [if_pos hclosed]
    exact ⟨rfl, rfl, rfl⟩
  | missing events hstage hlookup hopen hno =>
    rw [put_stage_self] at hleft
    cases hleft
    rw [hopen, if_neg (by simp)]
    exact ⟨rfl, rfl, hno⟩

/-- After a closing every entry was handed back, each one once. -/
theorem mem_handed (hclosed : s.cache.closed = true) :
    s.handed.Nodup ∧ ∀ handle, handle ∈ s.handed ↔ ∃ e, s.cache.entry? handle = some e := by
  have hall : s.handed = List.range s.cache.entries.length := by
    rw [h.handed, if_pos hclosed]
  rw [hall]
  refine ⟨List.nodup_range, fun handle => List.mem_range.trans ?_⟩
  constructor
  · intro hlt
    exact ⟨_, List.getElem?_eq_getElem hlt⟩
  · rintro ⟨e, he⟩
    exact (List.getElem?_eq_some_iff.mp he).1

/-- Only a closing closes the cache. -/
theorem closed_step (move : Move) :
    (s.step callers move).cache.closed = true ↔ s.cache.closed = true ∨ move = .close := by
  cases move with
  | go n =>
    have hwent : Went callers n s (s.go callers n) := go_cases h.filed n
    show (s.go callers n).cache.closed = true ↔ _
    generalize s.go callers n = s' at hwent
    cases hwent <;> exact (or_iff_left nofun).symm
  | look identity =>
    show (s.look identity).cache.closed = true ↔ _
    unfold Crowd.look
    cases s.cache.lookup identity <;> exact (or_iff_left nofun).symm
  | close => exact iff_of_true (Engine.close_closed s.engine) (.inr rfl)

/-- The cache is closed once a closing is among the moves, and before that it is not. -/
theorem closed_run (moves : List Move) :
    (s.run callers moves).cache.closed = true ↔
      s.cache.closed = true ∨ Move.close ∈ moves := by
  induction moves generalizing s with
  | nil => exact (or_iff_left List.not_mem_nil).symm
  | cons move moves ih =>
    calc ((s.step callers move).run callers moves).cache.closed = true
      _ ↔ (s.step callers move).cache.closed = true ∨ .close ∈ moves := ih (h.step move)
      _ ↔ (s.cache.closed = true ∨ move = .close) ∨ .close ∈ moves := by rw [h.closed_step]
      _ ↔ s.cache.closed = true ∨ .close ∈ move :: moves := by
        rw [List.mem_cons, or_assoc, @eq_comm _ move]

/-- No move changes a closed cache. -/
theorem step_closed (hclosed : s.cache.closed = true) (move : Move) :
    (s.step callers move).cache = s.cache := by
  cases move with
  | go n =>
    have hwent : Went callers n s (s.go callers n) := go_cases h.filed n
    show (s.go callers n).cache = s.cache
    generalize s.go callers n = s' at hwent
    cases hwent with
    | stood | hit | missed | late | refused => rfl
    | missing _ _ _ hopen | made _ _ _ hopen =>
      rw [hclosed] at hopen
      cases hopen
  | look identity =>
    show (s.look identity).cache = s.cache
    unfold Crowd.look
    cases s.cache.lookup identity <;> rfl
  | close =>
    show s.cache.close.2 = s.cache
    unfold Cache.close
    rw [if_pos hclosed]

/-- A closed cache stays as it is, whatever comes. -/
theorem run_closed (hclosed : s.cache.closed = true) (moves : List Move) :
    (s.run callers moves).cache = s.cache := by
  induction moves generalizing s with
  | nil => rfl
  | cons move moves ih =>
    have hstep : (s.step callers move).cache = s.cache := h.step_closed hclosed move
    exact (ih (h.step move) (by rw [hstep, hclosed])).trans hstep

end

end Orderly

/-- A caller that is not interrupted gets what `getOrCreate` gives. -/
theorem go_go {s : Crowd κ α} {n : Nat} (hcalled : s.stage n = .called) :
    let r := (Engine.getOrCreate (callers n).identity (callers n).isErrorPage
      (Engine.onStore (ask callers n))).run s.engine
    (s.go callers n).go callers n = s.put n (.left r.1) r.2 := by
  intro r
  have hr : r = _ := Engine.getOrCreate_eq (callers n).identity (callers n).isErrorPage
    (Engine.onStore (ask callers n)) s.engine
  cases hlookup : s.cache.lookup (callers n).identity with
  | some handle =>
    rw [hlookup] at hr
    have hfirst : s.go callers n = s.put n (.left (.ok handle)) s.engine := by
      unfold go
      rw [hcalled]
      dsimp only
      rw [hlookup]
    rw [hfirst, hr]
    unfold go
    rw [put_stage_self]
  | none =>
    rw [hlookup] at hr
    have hfirst : s.go callers n = s.put n .missed s.engine := by
      unfold go
      rw [hcalled]
      dsimp only
      rw [hlookup]
    rw [hfirst, hr]
    unfold go
    rw [put_stage_self]
    exact put_put n _ _ s _ _

end

/--
Whatever callers come, whatever the store answers them and in whatever order everyone moves, there
is one entry for each identity.
-/
theorem single_flight (callers : Nat → Caller) (compiler : κ) (moves : List Move) :
    let s := (start compiler : Crowd κ α).run callers moves
    -- an entry is made by a caller who was told that there is a source, and that caller gets it
    s.cache.made.Nodup ∧
    s.cache.entries =
      (s.makers callers).map (fun n => .fresh (callers n).identity (callers n).isErrorPage) ∧
    (∀ handle n, (s.makers callers)[handle]? = some n → s.stage n = .left (.ok handle)) ∧
    -- whoever else gets or finds an entry for the identity gets or finds this one
    (∀ identity handle,
      ((∃ n, (callers n).identity = identity ∧ s.stage n = .left (.ok handle)) ∨
        (identity, handle) ∈ s.found) →
      s.cache.handleOf? identity = some handle ∧
      ∃ n ∈ s.makers callers, (callers n).identity = identity ∧
        s.cache.entry? handle = some (.fresh identity (callers n).isErrorPage)) ∧
    -- and nobody asks about the identity any more
    s.askers.Pairwise (fun m n =>
      (callers m).hasSource = true → (callers n).identity ≠ (callers m).identity) ∧
    -- a caller who is refused, or told that there is no source, leaves the cache as it was
    (∀ n failure, s.stage n = .missed → (s.go callers n).stage n = .left (.error failure) →
      (s.go callers n).cache = s.cache ∧
      if s.cache.closed then failure = .shutDown ∧ (s.go callers n).askers = s.askers
      else failure = .sourceNotFound (callers n).identity.text ∧ (callers n).hasSource = false) ∧
    -- the cache is closed by the first closing and by nothing else
    (s.cache.closed = true ↔ .close ∈ moves) ∧
    -- a closed cache is empty, stays empty and makes nothing
    (s.cache.closed = true →
      s.cache.index = [] ∧ ∀ later, (s.run callers later).cache = s.cache) ∧
    -- closing hands back every entry, each once
    s.handed = (if s.cache.closed then List.range s.cache.entries.length else []) ∧
    (.close ∈ moves →
      s.handed.Nodup ∧ ∀ handle, handle ∈ s.handed ↔ ∃ e, s.cache.entry? handle = some e) ∧
    -- and the two steps of a caller with nothing between them are one call
    (∀ n, s.stage n = .called →
      let r := (Engine.getOrCreate (callers n).identity (callers n).isErrorPage
        (Engine.onStore (ask callers n))).run s.engine
      (s.go callers n).go callers n = s.put n (.left r.1) r.2) := by
  intro s
  have h : Orderly callers s := (Orderly.start compiler).run moves
  have hcloses : s.cache.closed = true ↔ .close ∈ moves :=
    ((Orderly.start compiler).closed_run moves).trans (or_iff_right nofun)
  refine ⟨h.filed.distinct, h.entries, h.made, ?given, h.asked, fun n failure => h.go_failed,
    hcloses, ?closed, h.handed, fun hclose => h.mem_handed (hcloses.mpr hclose),
    fun n hcalled => go_go hcalled⟩
  case given =>
    rintro identity handle (⟨n, rfl, hleft⟩ | hfound)
    · exact h.entry_of_made (h.given n handle hleft)
    · exact h.entry_of_made (h.found _ hfound)
  case closed =>
    intro hclosed
    have hindex := h.filed.index
    rw [if_pos hclosed] at hindex
    exact ⟨hindex, h.run_closed hclosed⟩

/-- Two callers come for one identity, the second for an error page. -/
def rivals (n : Nat) : Caller := ⟨⟨[⟨['m'], by decide⟩], List.cons_ne_nil _ _⟩, n == 1, true⟩

/-- Both miss; the second is the first under the lock, and both get its entry. -/
example :
    let s := (start () : Crowd Unit Unit).run rivals [.go 0, .go 1, .go 1, .go 0, .close]
    s.cache.entries.map (·.isErrorPage) = [true] ∧ s.askers = [1] ∧ s.handed = [0] := by
  decide

end Crowd

end TemplateServer
