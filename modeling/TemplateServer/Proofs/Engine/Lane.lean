import TemplateServer.Proofs.Entry.Lane
import TemplateServer.Proofs.Teardown

/-!
# Engines in a lane

An engine has many entries, and a lane speaks of one identity. `Engine.InLane` says that an engine
is where the lane is, whatever there is of other identities: their entries and handles, and the
numbers of their sources. A request for the identity is answered from the lane and moves the engine
along it (`Served.inLane`); marks of its entry (`mark_made`) and the teardown (`teardown`) move it
as well.
-/

namespace TemplateServer

namespace Lane

variable {options : Options} {now : Nat} {identity : Identity} {precompile : Bool} {l : Lane}

/-- Answers a request for the identity. An entry is made if there is a source. -/
def serve (options : Options) (now : Nat) (identity : Identity) (precompile : Bool) (l : Lane) :
    Except Failure Response × Lane :=
  if l.down then (.error .shutDown, l)
  else if l.made || l.text.isSome then
    let (text, l) := { l with made := true }.refresh options now identity
    (text.map (Shelf.answer precompile), l)
  else (.error (.sourceNotFound identity.text), l)

/-- A request that gets to the entry. -/
theorem serve_entered (options : Options) (now : Nat) (identity : Identity) (precompile : Bool)
    (hopen : l.down = false) (hthere : (l.made || l.text.isSome) = true) :
    l.serve options now identity precompile =
      let done := { l with made := true }.refresh options now identity
      (done.1.map (Shelf.answer precompile), done.2) := by
  unfold serve
  rw [if_neg (by rw [hopen]; exact Bool.false_ne_true), if_pos hthere]

/-- The failures of a lane have their names already. -/
theorem named_serve (options : Options) (now : Nat) (identity : Identity) (precompile : Bool)
    (l : Lane) : (l.serve options now identity precompile).1.mapError (Dispatcher.named identity) =
      (l.serve options now identity precompile).1 := by
  unfold serve
  split
  next => rfl
  next =>
    split
    next =>
      dsimp only
      cases htext : ({ l with made := true }.refresh options now identity).1 with
      | error failure => exact congrArg Except.error (named_refresh htext)
      | ok text => rfl
    next => rfl

/-- A request to the template of the lane. -/
def service (options : Options) (now : Nat) (identity : Identity) (request : Request) (l : Lane) :
    Except Failure Response × Lane :=
  match Dispatcher.examine request with
  | .error failure => (.error failure, l)
  | .ok (_, precompile) => l.serve options now identity precompile

/-- Where no entry was made, nobody has a handle to ask for a reload. -/
def mark (l : Lane) : Lane := if l.made then { l with pending := true } else l

/-- A teardown takes what is held, once. -/
def teardown (l : Lane) : Lane := if l.down then l else { l with held := none, down := true }

/-- The reloads that were counted and whether something is held, if an entry was made. -/
def status (l : Lane) : Option (Nat × Bool) :=
  if l.made then some (l.reloads, l.held.isSome) else none

end Lane

namespace Engine

section

variable {σ κ α : Type}

/-- The entry of an identity, or the one that would be made for it. -/
def entryFor (identity : Identity) (s : Engine σ κ α) : Entry α :=
  (s.cache.made? identity).getD (.fresh identity false)

/-- The reloads that the entry of an identity has counted and whether it holds something, if it was
made. -/
def status (identity : Identity) (s : Engine σ κ α) : Option (Nat × Bool) :=
  (s.cache.made? identity).map fun e => (e.reloads, e.isCompiled)

variable {setup : Setup σ κ α} {s s' : Engine σ κ α} {identity other : Identity}

theorem entryFor_identity (identity : Identity) (s : Engine σ κ α) :
    (s.entryFor identity).identity = identity := by
  unfold entryFor
  cases hmade : s.cache.made? identity with
  | none => rfl
  | some e =>
    obtain ⟨_, -, -, hid⟩ := Cache.handle_of_made? hmade
    exact hid

/-- An identity that an entry was made for has this one. -/
theorem entryFor_of_made {e : Entry α} (h : s.cache.made? identity = some e) :
    s.entryFor identity = e := by
  unfold entryFor
  rw [h]
  rfl

/-- The admission to an entry makes it, or finds what was made, and leaves the others alone. -/
theorem Admitted.made? {ask : StateM σ Bool} {isErrorPage : Bool} {handle : Handle}
    (h : s.cache.Filed) (hadm : Admitted ask identity isErrorPage s handle s') :
    (∃ e, s'.cache.entry? handle = some e ∧ e.identity = identity ∧
        e = (s.cache.made? identity).getD (.fresh identity isErrorPage)) ∧
      ∀ other, other ≠ identity → s'.cache.made? other = s.cache.made? other := by
  cases hadm with
  | present hlookup =>
    obtain ⟨e, he, hid⟩ := h.keyed _ _ hlookup
    have hmade : s.cache.made? identity = some e := hid ▸ h.made?_of_entry he
    exact ⟨⟨e, he, hid, by rw [hmade]; rfl⟩, fun _ _ => rfl⟩
  | @created store hlookup hopen hask =>
    have hnew : identity ∉ s.cache.made := h.not_mem_made hopen hlookup
    constructor
    · refine ⟨_, (Cache.entry?_insert ..).trans (if_pos rfl), rfl, ?_⟩
      rw [Cache.made?_of_not_mem hnew]
      rfl
    · intro other hother
      exact (Cache.made?_insert hnew isErrorPage).trans (if_neg hother)

/-- Letting an identity in leaves a store as it is that questions do not change. -/
theorem Admitted.store_eq {ask : StateM σ Bool} {isErrorPage : Bool} {handle : Handle}
    (hstill : ∀ store, (ask store).2 = store)
    (hadm : Admitted ask identity isErrorPage s handle s') :
    s'.backend.store = s.backend.store := by
  cases hadm with
  | present => rfl
  | created _ _ hask => exact (congrArg Prod.snd hask).symm.trans (hstill _)

/-- A teardown retires what was made. -/
theorem teardown_made? (setup : Setup σ κ α) (h : s.cache.Filed) (hopen : s.cache.closed = false)
    (identity : Identity) : (s.teardown setup).2.cache.made? identity =
      (s.cache.made? identity).map Entry.retired := by
  unfold Cache.made?
  rw [Cache.handleOf?_congr (teardown_made setup s)]
  cases hold : s.cache.handleOf? identity with
  | none => rfl
  | some handle =>
    obtain ⟨e, he, -⟩ := Cache.entry_of_handleOf? hold
    obtain ⟨events, heq⟩ := teardown_eq setup hopen
    have hloaded : handle ∈ s.cache.index.map (·.2) := by
      rw [h.index_eq hopen, List.zipIdx_map_snd, List.mem_range'_1]
      unfold Cache.made
      rw [List.length_map]
      exact ⟨Nat.zero_le _, by simpa using (List.getElem?_eq_some_iff.mp he).1⟩
    show Cache.entry? handle (s.teardown setup).2.cache = (s.cache.entry? handle).map Entry.retired
    rw [heq]
    exact (entry_of_destroyAll setup ⟨0, 0⟩ s.shut _ handle).trans (if_pos hloaded)

/-- A teardown leaves the store as it is. -/
theorem teardown_store (setup : Setup σ κ α) (hopen : s.cache.closed = false) :
    (s.teardown setup).2.backend.store = s.backend.store := by
  obtain ⟨events, heq⟩ := teardown_eq setup hopen
  rw [heq]
  exact destroyAll_store setup ⟨0, 0⟩ s.shut _

end

/-! ## Engines in a lane -/

/-- An engine is where a lane of an identity says. -/
structure InLane (identity : Identity) (s : Engine Memory Echo.Counts String) (l : Lane) :
    Prop where
  filed : s.cache.Filed
  valid : Memory.timed.Valid s.backend.store
  down : s.cache.closed = l.down
  made : (s.cache.made? identity).isSome = l.made
  onLane : Entry.OnLane (s.entryFor identity) s.backend.store l

namespace InLane

variable {identity : Identity} {s s' : Engine Memory Echo.Counts String} {l l' : Lane}

theorem start (identity : Identity) (counts : Echo.Counts) :
    InLane identity (.start .empty counts) .empty where
  filed := .empty
  valid _ _ _ hfind := by cases hfind
  down := rfl
  made := rfl
  onLane := .fresh identity false

/-- The lane has the text of the identity. -/
theorem text_eq (h : InLane identity s l) : s.backend.store.contents identity = l.text := by
  have htext := h.onLane.text
  rw [entryFor_identity] at htext
  exact htext

/-- The entry of the identity is on the lane. -/
theorem onLane_of_made (h : InLane identity s l) {e : Entry String}
    (hmade : s.cache.made? identity = some e) : Entry.OnLane e s.backend.store l := by
  have hlane := h.onLane
  rw [entryFor_of_made hmade] at hlane
  exact hlane

/-- The status of an identity is that of its lane. -/
theorem status_eq (h : InLane identity s l) : s.status identity = l.status := by
  have hmade := h.made
  unfold Engine.status Lane.status
  cases hentry : s.cache.made? identity with
  | none =>
    rw [hentry] at hmade
    rw [← hmade]
    rfl
  | some e =>
    have hlane := h.onLane_of_made hentry
    rw [hentry] at hmade
    rw [← hmade, ← hlane.reloads, ← hlane.held, Option.isSome_map]
    rfl

/-- Where the entry and the store stay as they are, so does the place in the lane. -/
theorem stay (h : InLane identity s l) (hfiled : s'.cache.Filed)
    (hclosed : s'.cache.closed = s.cache.closed)
    (hmade : s'.cache.made? identity = s.cache.made? identity)
    (hstore : s'.backend.store = s.backend.store) : InLane identity s' l where
  filed := hfiled
  valid := hstore ▸ h.valid
  down := hclosed.trans h.down
  made := by rw [hmade]; exact h.made
  onLane := by
    unfold entryFor
    rw [hmade, hstore]
    exact h.onLane

theorem note (h : InLane identity s l) (events : List Log.Event) :
    InLane identity (s.note events) l := h.stay h.filed rfl rfl rfl

/-- The entry has done something, and the lane goes on with it. -/
theorem putBack (h : InLane identity s l) {handle : Handle} {e : Entry String}
    {focus : Entry.Focus Memory Echo.Counts String} (hentry : s.cache.entry? handle = some e)
    (hid : e.identity = identity) (hfocus : focus.entry.identity = e.identity)
    (hstore : focus.backend.store = s.backend.store) (hdown : l'.down = l.down)
    (hmade : l'.made = true) (hlane : Entry.OnLane focus.entry s.backend.store l') :
    InLane identity (s.putBack handle focus) l' := by
  have hnow : (s.putBack handle focus).cache.made? identity = some focus.entry :=
    (h.filed.made?_set hentry hfocus).trans (if_pos hid.symm)
  exact
    { filed := h.filed.set hentry hfocus
      valid := (congrArg _ hstore).mpr h.valid
      down := h.down.trans hdown.symm
      made := by rw [hnow, hmade]; rfl
      onLane := by
        rw [entryFor_of_made hnow, putBack_backend, hstore]
        exact hlane }

/-- A mark on an identity without entries is none. -/
theorem mark_unmade (h : InLane identity s l) (hhandle : s.cache.handleOf? identity = none) :
    InLane identity s l.mark := by
  have hmade := h.made
  unfold Cache.made? at hmade
  rw [hhandle] at hmade
  unfold Lane.mark
  rw [← hmade]
  exact h

/-- A mark on the entry of the identity is a mark on the lane. -/
theorem mark_made (h : InLane identity s l) {handle : Handle}
    (hhandle : s.cache.handleOf? identity = some handle) :
    InLane identity (s.markForReload handle) l.mark := by
  obtain ⟨e, hentry, hid⟩ := Cache.entry_of_handleOf? hhandle
  have hthere : s.cache.made? identity = some e := (Cache.made?_of_handleOf? hhandle).trans hentry
  have hmade : l.made = true := by
    rw [← h.made, hthere]
    rfl
  unfold markForReload Lane.mark
  rw [onEntry_some hentry, if_pos hmade]
  exact h.putBack hentry hid rfl rfl rfl hmade (h.onLane_of_made hthere).marked

/-- A teardown of the engine is a teardown of the lane. -/
theorem teardown (h : InLane identity s l) (setup : Setup Memory Echo.Counts String) :
    InLane identity (s.teardown setup).2 l.teardown := by
  unfold Lane.teardown
  cases hclosed : s.cache.closed with
  | true =>
    -- a second teardown only notes something
    obtain ⟨events, heq⟩ := teardown_of_closed setup hclosed
    rw [heq, ← h.down, hclosed]
    exact h.note events
  | false =>
    have hafter := teardown_made? setup h.filed hclosed identity
    have hstore := teardown_store setup hclosed
    rw [← h.down, hclosed]
    exact
      { filed := Turns.filed h.filed (teardown_turns setup s)
        valid := hstore ▸ h.valid
        down := Dispatcher.teardown_closed ⟨setup, none⟩ s
        made := by
          rw [hafter, Option.isSome_map]
          exact h.made
        onLane := by
          -- the entry of the identity is shut, and so is its lane
          have hlane := h.onLane
          unfold entryFor at hlane ⊢
          rw [hafter, hstore]
          cases hmade : s.cache.made? identity with
          | none =>
            rw [hmade] at hlane
            exact hlane.shut false
          | some e =>
            rw [hmade] at hlane
            exact hlane.shut true }

/-- The admission to the entry, which is made now if it was not before. -/
theorem admitted (h : InLane identity s l) {handle : Handle}
    (hadm : Admitted (Memory.store.has identity) identity false s handle s') :
    (l.down = false ∧ (l.made || l.text.isSome) = true) ∧
      InLane identity s' { l with made := true } ∧
      ∃ e, s'.cache.entry? handle = some e ∧ s'.cache.made? identity = some e := by
  obtain ⟨⟨e, hentry, hid, heq⟩, -⟩ := hadm.made? h.filed
  -- the options do not matter to an admission
  have hworks : Works (Echo.inMemory .standard) s s' := hadm.works
  have hfiled : s'.cache.Filed := Turns.filed h.filed (Works.turns hworks)
  have hnow : s'.cache.made? identity = some e := hid ▸ hfiled.made?_of_entry hentry
  have hstore : s'.backend.store = s.backend.store := hadm.store_eq fun m => rfl
  refine ⟨?_, ?_, e, hentry, hnow⟩
  · cases hadm with
    | present hlookup =>
      -- an entry that is loaded was made before
      have hmade := h.made
      obtain ⟨found, hfound, hsame⟩ := h.filed.keyed _ _ hlookup
      rw [show s.cache.made? identity = some found from hsame ▸ h.filed.made?_of_entry hfound]
        at hmade
      exact ⟨h.down.symm.trans (h.filed.open_of_lookup hlookup), by rw [← hmade]; rfl⟩
    | created _ hopen hask =>
      -- an entry that is made now has a source
      rw [Memory.has_eq, h.text_eq] at hask
      refine ⟨h.down.symm.trans hopen, ?_⟩
      rw [(Prod.mk.inj hask).1, Bool.or_true]
  · exact
      { filed := hfiled
        valid := hstore ▸ h.valid
        down := (Works.closed_eq hworks).trans h.down
        made := by rw [hnow]; rfl
        onLane := by
          rw [entryFor_of_made hnow, heq, hstore]
          exact h.onLane.withMade true }

end InLane

end Engine

namespace Dispatcher

open Engine

section

variable {σ κ α : Type} {setup : Setup σ κ α} {now : Nat} {request : Request}
  {identity : Identity} {precompile : Bool} {error : Option String} {s s' : Engine σ κ α}
  {answer : Except Failure Response}

/-- A request asks questions and nothing else of the store. -/
theorem Served.store_eq (hstill : setup.store.Still)
    (h : Served setup now request identity precompile error s answer s') :
    s'.backend.store = s.backend.store := by
  cases h with
  -- whatever is asked before and after, a question leaves the store alone
  | refused => rfl
  | missing _ _ _ hhas => exact (congrArg Prod.snd hhas).symm.trans (hstill.has _ _)
  | lost _ hadm =>
    have hstore := hadm.store_eq (hstill.has identity)
    exact hstore
  | answered _ _ hadm _ hserv =>
    have hstore := hadm.store_eq (hstill.has identity)
    exact ((Entry.Serviced.of_run hserv).store_eq hstill).trans hstore

/-- A request for an identity leaves the entries of all others as they are. -/
theorem Served.made?_of_other (hfiled : s.cache.Filed)
    (h : Served setup now request identity precompile error s answer s') {other : Identity}
    (hother : other ≠ identity) : s'.cache.made? other = s.cache.made? other := by
  cases h with
  | refused => rfl
  | missing => rfl
  | lost _ hadm => exact (hadm.made? hfiled).2 other hother
  | @answered handle s₁ e focus _ events _ hadm hentry hserv =>
    -- only the entry that answers is put back
    obtain ⟨⟨found, hfound, hid, -⟩, hothers⟩ := hadm.made? hfiled
    rw [hentry] at hfound
    cases hfound
    have hworks : Works setup s s₁ := hadm.works
    have hset : (s₁.cache.set handle focus.entry).made? other = s₁.cache.made? other :=
      ((Turns.filed hfiled hworks.turns).made?_set hentry
        (Entry.Serviced.of_run hserv).identity_eq).trans (if_neg (hid ▸ hother))
    exact hset.trans (hothers other hother)

end

section

variable {options : Options} {now : Nat} {request : Request} {identity : Identity}
  {precompile : Bool} {s s' : Engine Memory Echo.Counts String} {l : Lane}
  {answer : Except Failure Response}

/-- **A request for the identity** is answered from its lane. -/
theorem Served.inLane (h : InLane identity s l)
    (hserved : Served (Echo.inMemory options) now request identity precompile none s answer s') :
    let done := l.serve options now identity precompile
    answer = done.1 ∧ InLane identity s' done.2 := by
  intro done
  have hdone : done = l.serve options now identity precompile := rfl
  cases hserved with
  | refused events _ hclosed =>
    -- a closed cache refuses, and so does a lane that is down
    unfold Lane.serve at hdone
    rw [← h.down, hclosed, if_pos rfl] at hdone
    rw [hdone]
    exact ⟨rfl, h.note events⟩
  | missing events hlookup hopen hhas =>
    -- there is neither an entry nor a text
    have hhas : Memory.store.has identity s.backend.store = _ := hhas
    rw [Memory.has_eq, h.text_eq] at hhas
    obtain ⟨hnone, rfl⟩ := Prod.mk.inj hhas
    have hmade := h.made
    rw [Cache.made?_of_not_mem (h.filed.not_mem_made hopen hlookup)] at hmade
    unfold Lane.serve at hdone
    rw [← h.down, hopen, if_neg Bool.false_ne_true, ← hmade, hnone] at hdone
    rw [hdone]
    exact ⟨rfl, h.note events⟩
  | lost _ hadm hentry =>
    -- whoever is let in has an entry
    obtain ⟨-, -, e, he, -⟩ := h.admitted hadm
    rw [he] at hentry
    cases hentry
  | @answered handle s₁ e focus _ events events' hadm hentry hserv =>
    obtain ⟨⟨hopen, hthere⟩, hlane, e', he', hmade⟩ := h.admitted hadm
    rw [hentry] at he'
    cases he'
    obtain ⟨-, -, -, hid⟩ := Cache.handle_of_made? hmade
    -- what is noted before the entry is asked does not concern it
    let l₁ : Lane := { l with made := true }
    have hopen₁ : l₁.down = false := hopen
    have hserviced := Entry.Serviced.of_run hserv
    have hanswer := hserviced.onLane hopen₁ (hlane.onLane_of_made hmade) hlane.valid
    dsimp only at hanswer
    rw [hid] at hanswer
    obtain ⟨hanswer, hfocus⟩ := hanswer
    obtain ⟨hmade₁, hdown₁⟩ := l₁.refresh_frame options now identity
    have hstore := hserviced.store_eq Memory.store_still
    rw [hstore] at hfocus
    rw [hdone, Lane.serve_entered options now identity precompile hopen hthere]
    have hback := (hlane.note events).putBack hentry hid hserviced.identity_eq hstore hdown₁ hmade₁
      hfocus
    exact ⟨hanswer, hback.note events'⟩

end

end Dispatcher

end TemplateServer
