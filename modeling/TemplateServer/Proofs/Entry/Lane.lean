import TemplateServer.Proofs.Entry.Faithful
import TemplateServer.Proofs.Recorded
import TemplateServer.Proofs.Shelf

/-!
# One identity on its own

A `Lane` is all that the answers about one identity depend on, over sources in memory and an echoing
compiler: the text of its source, what is held and whether the source was put again since, and the
marks, looks and counts of its entry. There are no times of change in it: the numbers that a memory
gives to its sources go up with every source that is put, and only whether the source has a greater
one than what is held matters to an entry.

`OnLane` says that an entry is as its lane says. A request keeps the two alike and is answered from
the lane (`Serviced.onLane`).
-/

namespace TemplateServer

/-- Sources in memory and an echoing compiler. -/
def Echo.inMemory (options : Options) : Setup Memory Echo.Counts String :=
  ⟨Memory.store, Echo.compiler, options⟩

/-- What matters about an identity. -/
structure Lane where
  /-- The text of the source, if there is one. -/
  text : Option String
  /-- An entry was made. -/
  made : Bool
  /-- The text that is answered. -/
  held : Option String
  /-- The source was put after the text that is held. -/
  newer : Bool
  /-- A reload was asked for. -/
  pending : Bool
  /-- When the entry last looked. -/
  last : Option Nat
  generation : Nat
  reloads : Nat
  /-- There was a teardown. -/
  down : Bool

namespace Lane

def empty : Lane := ⟨none, false, none, false, false, none, 0, 0, false⟩

/-- Whether a look at the source is due. -/
def due (options : Options) (now : Nat) (l : Lane) : Bool :=
  options.development && l.last.all fun last => options.checkInterval ≤ now - last

def looked (now : Nat) (l : Lane) : Lane := { l with last := some now }

/-- Holds a text that was compiled. -/
def hold (text : String) (l : Lane) : Lane :=
  { l with
    held := some text
    newer := false
    pending := false
    generation := l.generation + 1
    reloads := l.reloads + if 0 < l.generation then 1 else 0 }

/-- Holds the text that there is, if it is not refused. -/
def compile (identity : Identity) (l : Lane) : Except Failure String × Lane :=
  match l.text with
  | none => (.error (.sourceNotFound identity.text), l)
  | some text =>
    if text = Echo.refusedSource then
      (.error (.compile identity.text "rejected by test compiler"), l)
    else (.ok text, l.hold text)

/-- The text that a request is answered from. -/
def refresh (options : Options) (now : Nat) (identity : Identity) (l : Lane) :
    Except Failure String × Lane :=
  match l.held with
  | none => l.compile identity
  | some held =>
    if l.pending then l.compile identity
    else if !l.due options now then (.ok held, l)
    else
      match l.text with
      | none => (.error (.sourceNotFound identity.text), l.looked now)
      | some _ => if l.newer then (l.looked now).compile identity else (.ok held, l.looked now)

variable {options : Options} {now : Nat} {identity : Identity} {l : Lane}

/-- Where there is no source, this is what is reported. -/
theorem compile_missing (h : l.text = none) :
    l.compile identity = (.error (.sourceNotFound identity.text), l) := by
  unfold compile
  rw [h]

/-- A source that is refused leaves the lane as it was. -/
theorem compile_refused {text : String} (h : l.text = some text)
    (hrefused : text = Echo.refusedSource) :
    l.compile identity = (.error (.compile identity.text "rejected by test compiler"), l) := by
  unfold compile
  rw [h]
  exact if_pos hrefused

/-- Any other source is held. -/
theorem compile_accepted {text : String} (h : l.text = some text)
    (haccepted : text ≠ Echo.refusedSource) : l.compile identity = (.ok text, l.hold text) := by
  unfold compile
  rw [h]
  exact if_neg haccepted

/-- What a compilation leaves alone. -/
theorem compile_frame (identity : Identity) (l : Lane) :
    (l.compile identity).2.made = l.made ∧ (l.compile identity).2.down = l.down := by
  unfold compile
  split
  next => exact ⟨rfl, rfl⟩
  next => split <;> exact ⟨rfl, rfl⟩

/-- What a request is answered from is held. -/
theorem held_of_compile {text : String} (h : (l.compile identity).1 = .ok text) :
    (l.compile identity).2.held = some text := by
  unfold compile at h ⊢
  split at h
  next => cases h
  next =>
    split at h
    next => cases h
    next haccepted =>
      cases h
      rw [if_neg haccepted]
      rfl

/-- The failures of a lane have their names already. -/
theorem named_compile {named : Identity} {failure : Failure}
    (h : (l.compile identity).1 = .error failure) : Dispatcher.named named failure = failure := by
  unfold compile at h
  split at h
  next => cases h; rfl
  next =>
    split at h
    next => cases h; rfl
    next => cases h

/-- **The ways of a refresh**, with a look or without: what is held answers, or the source has gone,
or it is compiled. -/
theorem refresh_cases (options : Options) (now : Nat) (identity : Identity) (l : Lane) :
    ∃ l', (l' = l ∨ l' = l.looked now) ∧
      ((∃ held, l'.held = some held ∧ l.refresh options now identity = (.ok held, l')) ∨
        l.refresh options now identity = (.error (.sourceNotFound identity.text), l') ∨
        l.refresh options now identity = l'.compile identity) := by
  unfold refresh
  cases hheld : l.held with
  | none => exact ⟨l, .inl rfl, .inr (.inr rfl)⟩
  | some held =>
    dsimp only
    by_cases hpending : l.pending = true
    · rw [if_pos hpending]
      exact ⟨l, .inl rfl, .inr (.inr rfl)⟩
    · rw [if_neg hpending]
      by_cases hdue : (!l.due options now) = true
      · rw [if_pos hdue]
        exact ⟨l, .inl rfl, .inl ⟨held, hheld, rfl⟩⟩
      · rw [if_neg hdue]
        refine ⟨l.looked now, .inr rfl, ?_⟩
        cases l.text with
        | none => exact .inr (.inl rfl)
        | some current =>
          dsimp only
          by_cases hnewer : l.newer = true
          · rw [if_pos hnewer]
            exact .inr (.inr rfl)
          · rw [if_neg hnewer]
            exact .inl ⟨held, hheld, rfl⟩

/-- A refresh makes no entry and takes none down. -/
theorem refresh_frame (options : Options) (now : Nat) (identity : Identity) (l : Lane) :
    (l.refresh options now identity).2.made = l.made ∧
      (l.refresh options now identity).2.down = l.down := by
  obtain ⟨l', hl', hways⟩ := l.refresh_cases options now identity
  have hframe : l'.made = l.made ∧ l'.down = l.down := by
    rcases hl' with rfl | rfl <;> exact ⟨rfl, rfl⟩
  rcases hways with ⟨_, -, heq⟩ | heq | heq
  · rw [heq]; exact hframe
  · rw [heq]; exact hframe
  · obtain ⟨hmade, hdown⟩ := l'.compile_frame identity
    rw [heq]
    exact ⟨hmade.trans hframe.1, hdown.trans hframe.2⟩

/-- A refresh that succeeds leaves the text held that it answers. -/
theorem held_of_refresh {text : String} (h : (l.refresh options now identity).1 = .ok text) :
    (l.refresh options now identity).2.held = some text := by
  obtain ⟨l', -, ⟨held, hheld, heq⟩ | heq | heq⟩ := l.refresh_cases options now identity
  · rw [heq] at h ⊢
    cases h
    exact hheld
  · rw [heq] at h
    cases h
  · rw [heq] at h ⊢
    exact held_of_compile h

/-- The failures of a refresh have their names already. -/
theorem named_refresh {named : Identity} {failure : Failure}
    (h : (l.refresh options now identity).1 = .error failure) :
    Dispatcher.named named failure = failure := by
  obtain ⟨l', -, ⟨held, -, heq⟩ | heq | heq⟩ := l.refresh_cases options now identity
  · rw [heq] at h
    cases h
  · rw [heq] at h
    cases h
    rfl
  · rw [heq] at h
    exact named_compile h

end Lane

namespace Entry

/-! ## Stores that stand still -/

section

variable {σ κ α : Type} {setup : Setup σ κ α} {now : Nat} {s s' : Focus σ κ α}

/-- Looking for a reason to compile leaves a store as it is that questions do not change. -/
theorem NeedsCompile.store_eq (hstill : setup.store.Still) (h : NeedsCompile setup now s s') :
    s'.backend.store = s.backend.store := by
  cases h with
  | unheld => rfl
  | requested => rfl
  | newer _ _ _ hmod => exact (congrArg Prod.snd hmod).symm.trans (hstill.modified _ _)

/-- A source is read after its time was asked for, which leaves the store as it was. -/
theorem Refreshed.store_eq (hstill : setup.store.Still) {result : Except Failure Unit}
    (h : Refreshed setup now s result s') : s'.backend.store = s.backend.store := by
  have hread {s₁ : Focus σ κ α} {modified : Option Nat} {store store' : σ}
      {answer : Except Failure String} (hneed : NeedsCompile setup now s s₁)
      (hmod : setup.store.modified s₁.entry.identity s₁.backend.store = (modified, store))
      (hread : setup.store.read s₁.entry.identity store = (answer, store')) :
      store' = s.backend.store := by
    have hfirst : store = s₁.backend.store :=
      (congrArg Prod.snd hmod).symm.trans (hstill.modified _ _)
    have hsecond : store' = store := (congrArg Prod.snd hread).symm.trans (hstill.read _ _)
    rw [hsecond, hfirst, hneed.store_eq hstill]
  have hlook {answer : Option Nat} {found : Bool} {store store' : σ}
      (hmod : setup.store.modified s.entry.identity s.backend.store = (answer, store))
      (hhas : setup.store.has s.entry.identity store = (found, store')) :
      store' = s.backend.store := by
    have hfirst : store = s.backend.store :=
      (congrArg Prod.snd hmod).symm.trans (hstill.modified _ _)
    have hsecond : store' = store := (congrArg Prod.snd hhas).symm.trans (hstill.has _ _)
    rw [hsecond, hfirst]
  cases h with
  | notDue => rfl
  | current _ _ _ hmod => exact (congrArg Prod.snd hmod).symm.trans (hstill.modified _ _)
  | undated _ _ _ hmod hhas => exact hlook hmod hhas
  | vanished _ _ _ hmod hhas => exact hlook hmod hhas
  | destroyed hneed => exact hneed.store_eq hstill
  | unreadable hneed _ hmod h => exact hread hneed hmod h
  | refused hneed _ hmod h => exact hread hneed hmod h
  | compiled hneed _ hmod h =>
    rw [Focus.succeed_store]
    exact hread hneed hmod h

theorem Serviced.store_eq (hstill : setup.store.Still) {request : Request} {precompile : Bool}
    {error : Option String} {answer : Except Failure Response}
    (h : Serviced setup now request precompile error s answer s') :
    s'.backend.store = s.backend.store := by
  have hrefresh {result : Except Failure Unit} {s₁ : Focus σ κ α}
      (hr : (refresh setup now).run s = (result, s₁)) : s₁.backend.store = s.backend.store :=
    (Refreshed.of_run _ _ hr).store_eq hstill
  cases h with
  | failed hr => exact hrefresh hr
  | precompiled hr =>
    have hstore := hrefresh hr
    exact hstore
  | unheld hr => exact hrefresh hr
  | executed hr =>
    have hstore := hrefresh hr
    exact hstore

end

/-! ## Entries and lanes -/

/-- An entry is as its lane says. -/
structure OnLane (e : Entry String) (m : Memory) (l : Lane) : Prop where
  alive : l.down = false → e.destroyed = false
  text : m.contents e.identity = l.text
  held : e.held.map (·.artifact) = l.held
  pending : e.reloadRequested = l.pending
  last : e.lastCheck = l.last
  generation : e.generation = l.generation
  reloads : e.reloads = l.reloads
  newer : ∀ {held text current}, e.held = some held →
    m.find? e.identity = some (text, current) →
    held.modified.all (fun earlier => earlier < current) = l.newer
  /-- What is held is no newer than the newest source. -/
  past : ∀ {held time}, e.held = some held → held.modified = some time → time ≤ m.version

namespace OnLane

variable {e : Entry String} {m m' : Memory} {l : Lane}

/-- A fresh entry without a source is on the empty lane. -/
theorem fresh (identity : Identity) (isErrorPage : Bool) :
    OnLane (.fresh identity isErrorPage) .empty .empty where
  alive _ := rfl
  text := rfl
  held := rfl
  pending := rfl
  last := rfl
  generation := rfl
  reloads := rfl
  newer hheld := by cases hheld
  past hheld := by cases hheld

/-- An entry does not know whether it was made. -/
theorem withMade (h : OnLane e m l) (made : Bool) : OnLane e m { l with made := made } :=
  ⟨h.alive, h.text, h.held, h.pending, h.last, h.generation, h.reloads, h.newer, h.past⟩

/-- Other sources do not matter, as long as the numbers go up. -/
theorem withStore (h : OnLane e m l) (hfind : m'.find? e.identity = m.find? e.identity)
    (hversion : m.version ≤ m'.version) : OnLane e m' l where
  alive := h.alive
  text := by
    show (m'.find? e.identity).map (·.1) = l.text
    rw [hfind]
    exact h.text
  held := h.held
  pending := h.pending
  last := h.last
  generation := h.generation
  reloads := h.reloads
  newer hheld hfind' := h.newer hheld (hfind ▸ hfind')
  past hheld htime := Nat.le_trans (h.past hheld htime) hversion

/-- A source that is put is newer than what is held. -/
theorem put (h : OnLane e m l) (text : String) :
    OnLane e (m.put e.identity text) { l with text := some text, newer := true } where
  alive := h.alive
  text := by
    show (m.putAt e.identity text (m.version + 1)).contents e.identity = some text
    rw [Memory.contents_putAt]
    exact if_pos rfl
  held := h.held
  pending := h.pending
  last := h.last
  generation := h.generation
  reloads := h.reloads
  newer {held _ _} hheld hfind := by
    have hfind : (m.putAt e.identity text (m.version + 1)).find? e.identity = _ := hfind
    rw [Memory.find?_putAt, if_pos rfl] at hfind
    cases hfind
    cases hmodified : held.modified with
    | none => rfl
    | some time => exact decide_eq_true (Nat.lt_succ_of_le (h.past hheld hmodified))
  past hheld htime := Nat.le_succ_of_le (h.past hheld htime)

/-- Where there is no source, nothing is newer. -/
theorem remove (h : OnLane e m l) : OnLane e (m.remove e.identity) { l with text := none } where
  alive := h.alive
  text := by
    rw [Memory.contents_remove]
    exact if_pos rfl
  held := h.held
  pending := h.pending
  last := h.last
  generation := h.generation
  reloads := h.reloads
  newer _ hfind := by
    rw [Memory.find?_remove, if_pos rfl] at hfind
    cases hfind
  past := h.past

/-- A mark on the entry is a mark on the lane. -/
theorem marked (h : OnLane e m l) : OnLane e.markForReload m { l with pending := true } :=
  ⟨h.alive, h.text, h.held, rfl, h.last, h.generation, h.reloads, h.newer, h.past⟩

/-- After a teardown nothing is held, and it does not matter who was taken down. -/
theorem shut (h : OnLane e m l) (destroyed : Bool) :
    OnLane { e with destroyed := destroyed, held := none } m
      { l with held := none, down := true } where
  alive hdown := by cases hdown
  text := h.text
  held := rfl
  pending := h.pending
  last := h.last
  generation := h.generation
  reloads := h.reloads
  newer hheld := by cases hheld
  past hheld := by cases hheld

end OnLane

section

variable {options : Options} {now : Nat} {s s' s₁ : Focus Memory Echo.Counts String} {l : Lane}

/-- The entry looks when the lane does. -/
theorem OnLane.due (h : OnLane s.entry s.backend.store l) :
    s.entry.checkDue options now = l.due options now := by
  unfold checkDue Lane.due
  rw [h.last]

theorem OnLane.looked (h : OnLane s.entry s.backend.store l) (now : Nat) :
    OnLane (s.looked now).entry s.backend.store (l.looked now) :=
  ⟨h.alive, h.text, h.held, h.pending, rfl, h.generation, h.reloads, h.newer, h.past⟩

/-- The lane has the text that the store has. -/
theorem OnLane.text_of_find {e : Entry String} {m : Memory} (h : OnLane e m l)
    {source : Option (String × Nat)} (hfind : m.find? e.identity = source) :
    l.text = source.map (·.1) := by
  rw [← h.text, ← hfind]
  rfl

/-- A text was compiled, with the time that the source has. -/
theorem OnLane.compiled {e : Entry String} {m : Memory} (h : OnLane e m l)
    (hvalid : Memory.timed.Valid m) (text : String) {modified : Option Nat}
    (hmodified : (m.find? e.identity).map (·.2) = modified) :
    OnLane
      { e with
        held := some ⟨text, modified⟩
        generation := e.generation + 1
        reloads := e.reloads + if 0 < e.generation then 1 else 0
        reloadRequested := false }
      m (l.hold text) where
  alive := h.alive
  text := h.text
  held := rfl
  pending := rfl
  last := h.last
  generation := congrArg (· + 1) h.generation
  reloads := by
    show _ = l.reloads + if 0 < l.generation then 1 else 0
    rw [← h.reloads, ← h.generation]
  newer {held text' current} hheld hfind := by
    cases hheld
    have hfind : m.find? e.identity = some (text', current) := hfind
    rw [← hmodified, hfind]
    simp [Lane.hold]
  past {held time} hheld htime := by
    cases hheld
    obtain ⟨⟨found, current⟩, hfind, htime⟩ := Option.map_eq_some_iff.mp (hmodified.trans htime)
    rw [← htime]
    exact hvalid _ _ _ hfind

/-- Where a source has to be compiled, the lane compiles as well. -/
theorem NeedsCompile.onLane (hlane : OnLane s.entry s.backend.store l)
    (h : NeedsCompile (Echo.inMemory options) now s s') :
    ∃ l', (∀ identity, l.refresh options now identity = l'.compile identity) ∧
      OnLane s'.entry s'.backend.store l' := by
  have hheld := hlane.held
  cases h with
  | unheld hnone =>
    rw [hnone] at hheld
    refine ⟨l, fun identity => ?_, hlane⟩
    unfold Lane.refresh
    rw [← hheld]
    rfl
  | requested hsome hreq =>
    rw [hsome] at hheld
    refine ⟨l, fun identity => ?_, hlane⟩
    unfold Lane.refresh
    rw [← hheld, ← hlane.pending, hreq]
    rfl
  | @newer held current store hsome hreq hdue hmod hnew =>
    obtain ⟨hcurrent, rfl⟩ := Prod.mk.inj hmod
    obtain ⟨source, hfind, hsource⟩ := Option.map_eq_some_iff.mp hcurrent
    have htext : some source.1 = l.text := (hlane.text_of_find hfind).symm
    have hnewer : true = l.newer := by
      rw [← hnew, ← hsource]
      exact hlane.newer hsome hfind
    rw [hsome] at hheld
    refine ⟨l.looked now, fun identity => ?_, hlane.looked now⟩
    unfold Lane.refresh
    rw [← hheld, ← hlane.pending, hreq, ← hlane.due,
      show s.entry.checkDue options now = true from hdue, ← htext, ← hnewer]
    rfl

/-- Where nothing has to be compiled, the lane is held. -/
theorem OnLane.refresh_held (hlane : OnLane s.entry s.backend.store l) {held : Held String}
    (hheld : s.entry.held = some held) (hreq : s.entry.reloadRequested = false)
    (identity : Identity) :
    l.refresh options now identity =
      if !s.entry.checkDue options now then (.ok held.artifact, l)
      else
        match l.text with
        | none => (.error (.sourceNotFound identity.text), l.looked now)
        | some _ =>
          if l.newer then (l.looked now).compile identity
          else (.ok held.artifact, l.looked now) := by
  have hartifact := hlane.held
  rw [hheld] at hartifact
  unfold Lane.refresh
  rw [← hartifact, ← hlane.pending, hreq, hlane.due]
  rfl

/-- **A refresh** takes the text from the lane. -/
theorem Refreshed.onLane {result : Except Failure Unit} (hopen : l.down = false)
    (hlane : OnLane s.entry s.backend.store l) (hvalid : Memory.timed.Valid s.backend.store)
    (h : Refreshed (Echo.inMemory options) now s result s') :
    let done := l.refresh options now s.entry.identity
    result = done.1.map (fun _ => ()) ∧ OnLane s'.entry s'.backend.store done.2 := by
  intro done
  have hdone : done = l.refresh options now s.entry.identity := rfl
  cases h with
  | notDue hheld hreq hdue =>
    rw [hlane.refresh_held hheld hreq, show s.entry.checkDue options now = false from hdue] at hdone
    rw [hdone]
    exact ⟨rfl, hlane⟩
  | current hheld hreq hdue hmod hold =>
    obtain ⟨hcurrent, rfl⟩ := Prod.mk.inj hmod
    obtain ⟨source, hfind, rfl⟩ := Option.map_eq_some_iff.mp hcurrent
    have hnewer : l.newer = false := (hlane.newer hheld hfind).symm.trans hold
    rw [hlane.refresh_held hheld hreq, show s.entry.checkDue options now = true from hdue,
      hlane.text_of_find hfind, hnewer] at hdone
    rw [hdone]
    exact ⟨rfl, hlane.looked now⟩
  | undated _ _ _ hmod hhas =>
    -- a source in memory has a time
    obtain ⟨hnone, rfl⟩ := Prod.mk.inj hmod
    rw [Option.map_eq_none_iff] at hnone
    obtain ⟨hsome, -⟩ := Prod.mk.inj hhas
    rw [hnone] at hsome
    cases hsome
  | vanished hheld hreq hdue hmod hhas =>
    obtain ⟨hnone, rfl⟩ := Prod.mk.inj hmod
    obtain ⟨-, rfl⟩ := Prod.mk.inj hhas
    rw [Option.map_eq_none_iff] at hnone
    rw [hlane.refresh_held hheld hreq, show s.entry.checkDue options now = true from hdue,
      hlane.text_of_find hnone] at hdone
    rw [hdone]
    exact ⟨rfl, hlane.looked now⟩
  | destroyed hneed hdead =>
    rw [hneed.destroyed_eq, hlane.alive hopen] at hdead
    cases hdead
  | unreadable hneed _ hmod hread =>
    obtain ⟨l', hcompile, hlane'⟩ := hneed.onLane hlane
    obtain ⟨-, rfl⟩ := Prod.mk.inj hmod
    have hread : Memory.store.read _ _ = _ := hread
    rw [Memory.read_eq, hlane'.text] at hread
    obtain ⟨hanswer, rfl⟩ := Prod.mk.inj hread
    cases htext : l'.text with
    | none =>
      rw [htext] at hanswer
      cases hanswer
      rw [hcompile, ← hneed.identity_eq, Lane.compile_missing htext] at hdone
      rw [hdone]
      exact ⟨rfl, hlane'⟩
    | some text => rw [htext] at hanswer; cases hanswer
  | refused hneed _ hmod hread hcomp =>
    obtain ⟨l', hcompile, hlane'⟩ := hneed.onLane hlane
    obtain ⟨htext, rfl⟩ := Memory.source_of_read hmod hread
    have hresult := compile_eq hcomp
    split at hresult
    next hrefused =>
      cases hresult
      rw [hcompile, ← hneed.identity_eq,
        Lane.compile_refused (hlane'.text.symm.trans htext) hrefused] at hdone
      rw [hdone]
      exact ⟨rfl, hlane'⟩
    next => cases hresult
  | compiled hneed _ hmod hread hcomp =>
    obtain ⟨l', hcompile, hlane'⟩ := hneed.onLane hlane
    obtain ⟨htext, rfl⟩ := Memory.source_of_read hmod hread
    have hresult := compile_eq hcomp
    split at hresult
    next => cases hresult
    next haccepted =>
      cases hresult
      rw [hcompile, ← hneed.identity_eq,
        Lane.compile_accepted (hlane'.text.symm.trans htext) haccepted] at hdone
      rw [← hneed.store_eq Memory.store_still] at hvalid
      rw [hdone, Focus.succeed_store, Focus.succeed_entry]
      -- the time that was asked for before the text is the one that the source has
      exact ⟨rfl, hlane'.compiled hvalid _ (Prod.mk.inj hmod).1⟩

/-- **A request** is answered from the lane. -/
theorem Serviced.onLane {request : Request} {precompile : Bool}
    {answer : Except Failure Response} (hopen : l.down = false)
    (hlane : OnLane s.entry s.backend.store l) (hvalid : Memory.timed.Valid s.backend.store)
    (h : Serviced (Echo.inMemory options) now request precompile none s answer s') :
    let done := l.refresh options now s.entry.identity
    answer = done.1.map (Shelf.answer precompile) ∧ OnLane s'.entry s'.backend.store done.2 := by
  intro done
  have hrefresh {result : Except Failure Unit} {s₁ : Focus Memory Echo.Counts String}
      (hr : (refresh (Echo.inMemory options) now).run s = (result, s₁)) :
      result = done.1.map (fun _ => ()) ∧ OnLane s₁.entry s₁.backend.store done.2 :=
    (Refreshed.of_run _ _ hr).onLane hopen hlane hvalid
  have hok {s₁ : Focus Memory Echo.Counts String}
      (hr : (refresh (Echo.inMemory options) now).run s = (.ok (), s₁)) :
      ∃ text, done.1 = .ok text ∧ s₁.entry.held.map (·.artifact) = some text := by
    obtain ⟨hresult, hlane'⟩ := hrefresh hr
    cases htext : done.1 with
    | error failure => rw [htext] at hresult; cases hresult
    | ok text => exact ⟨text, rfl, hlane'.held.trans (Lane.held_of_refresh htext)⟩
  -- every way of a request ends with its refresh, or with an execution that changes no entry
  cases h with
  | failed hr =>
    obtain ⟨hresult, hlane'⟩ := hrefresh hr
    refine ⟨?_, hlane'⟩
    cases htext : done.1 with
    | error failure => rw [htext] at hresult; cases hresult; rfl
    | ok text => rw [htext] at hresult; cases hresult
  | precompiled hr hpre =>
    obtain ⟨text, htext, -⟩ := hok hr
    obtain ⟨-, hlane'⟩ := hrefresh hr
    refine ⟨?_, hlane'⟩
    rw [htext, hpre]
    rfl
  | unheld hr _ hheld =>
    obtain ⟨text, -, hartifact⟩ := hok hr
    rw [hheld] at hartifact
    cases hartifact
  | @executed s₁ held body compiler _ hr hpre hheld hexec hanswer =>
    obtain ⟨text, htext, hartifact⟩ := hok hr
    obtain ⟨-, hlane'⟩ := hrefresh hr
    rw [hheld] at hartifact
    cases hartifact
    obtain ⟨hbody, rfl⟩ := Prod.mk.inj hexec
    refine ⟨?_, hlane'⟩
    rw [hanswer, ← hbody, htext, hpre]
    exact execute_eq held.artifact s₁.entry.identity request none s₁.backend.compiler

end

end Entry

end TemplateServer
