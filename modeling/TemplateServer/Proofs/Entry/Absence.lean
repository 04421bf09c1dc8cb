import TemplateServer.Proofs.Entry.Retry
import TemplateServer.Proofs.Looks

/-!
# What follows when a source has gone

An entry finds out that its source has gone when it reads or looks. It reads where nothing is held
or a reload was asked for, and as nothing can be compiled this stays so. It looks once per check
interval, and what the look has found is not remembered: until the next look is due, an artifact
that is held answers as if the source were there.

`Absence` is all that decides which requests are told: whether the entry reads, and when it was last
told. `Serviced.of_absent` says what one request does, `visits_missing` what any number of them do
while the source stays away, and the main statement, `told_missing_iff`, which requests are told.
-/

namespace TemplateServer

variable {σ κ α : Type}

/-- In these states of the store an identity has no source, and questions about it lead to no other
states. -/
structure SourceStore.Absent (store : SourceStore σ) (identity : Identity) (gone : σ → Prop) :
    Prop where
  modified : ∀ {s s' answer}, gone s → store.modified identity s = (answer, s') →
    answer = none ∧ gone s'
  has : ∀ {s s' answer}, gone s → store.has identity s = (answer, s') → answer = false ∧ gone s'
  read : ∀ {s s' answer}, gone s → store.read identity s = (answer, s') →
    answer = .error (.sourceNotFound identity.text) ∧ gone s'

/-- In memory a source is absent that was not put in or was removed. -/
theorem Memory.absent (identity : Identity) :
    Memory.store.Absent identity fun m => m.find? identity = none where
  modified hgone h := by
    obtain ⟨rfl, rfl⟩ := Prod.mk.inj h
    exact ⟨by rw [hgone]; rfl, hgone⟩
  has hgone h := by
    obtain ⟨rfl, rfl⟩ := Prod.mk.inj h
    exact ⟨by rw [hgone]; rfl, hgone⟩
  read hgone h := by
    unfold store at h
    dsimp only at h
    rw [hgone] at h
    obtain ⟨rfl, rfl⟩ := Prod.mk.inj h
    exact ⟨rfl, hgone⟩

namespace Entry

/-- A request at this time asks the store for the source, or whether it is there. -/
def asks (options : Options) (now : Nat) (e : Entry α) : Bool :=
  e.held.isNone || e.reloadRequested || e.checkDue options now

/-- What an artifact answers. -/
def answerOf (setup : Setup σ κ α) (request : Request) (precompile : Bool) (error : Option String)
    (held : Held α) (s : Focus σ κ α) : Except Failure Response :=
  if precompile then .ok .compiled
  else
    (setup.compiler.execute held.artifact (.ofRequest s.entry.identity request error)
      s.backend.compiler).1.map .html

section

variable {setup : Setup σ κ α} {gone : σ → Prop} {now : Nat} {s s' : Focus σ κ α}

theorem asks_of_unheld {options : Options} {e : Entry α} (h : e.held = none) :
    e.asks options now = true := by
  unfold asks
  rw [h]
  rfl

theorem asks_of_requested {options : Options} {e : Entry α} (h : e.reloadRequested = true) :
    e.asks options now = true := by
  unfold asks
  rw [h, Bool.or_true]
  rfl

theorem asks_of_due {options : Options} {e : Entry α} (h : e.checkDue options now = true) :
    e.asks options now = true := by
  unfold asks
  rw [h, Bool.or_true]

/-- An entry that does not ask at every request asks when it looks. -/
theorem looks_eq_asks {options : Options} {e : Entry α}
    (h : (e.held.isNone || e.reloadRequested) = false) :
    e.looks options now = e.asks options now := by
  unfold looks asks
  cases hheld : e.held with
  | none => rw [hheld] at h; cases h
  | some held =>
    have hreq : e.reloadRequested = false := by rwa [hheld] at h
    rw [hreq]
    rfl

/-- A request that asks nothing finds something that is held. -/
theorem held_of_not_asks {options : Options} {e : Entry α} (h : e.asks options now = false) :
    ∃ held, e.held = some held := by
  unfold asks at h
  rw [Bool.or_eq_false_iff, Bool.or_eq_false_iff] at h
  exact Option.isSome_iff_exists.mp (Option.isNone_eq_false_iff.mp h.1.1)

/-- An artifact fails in its own way. -/
theorem answerOf_ne (hdoc : setup.Documented) {request : Request} {precompile : Bool}
    {error : Option String} {held : Held α} {name : String} :
    answerOf setup request precompile error held s ≠ .error (.sourceNotFound name) := by
  unfold answerOf
  split
  next => exact fun h => by cases h
  next =>
    rcases hexec : setup.compiler.execute held.artifact (.ofRequest s.entry.identity request error)
      s.backend.compiler with ⟨failure | body, k⟩
    · obtain ⟨_, _, rfl⟩ := hdoc.execute _ _ _ _ _ hexec
      exact fun h => by cases h
    · exact fun h => by cases h

/-- Where there is no source, no look finds a newer one. -/
theorem NeedsCompile.of_absent (habsent : setup.store.Absent s.entry.identity gone)
    (hgone : gone s.backend.store) (h : NeedsCompile setup now s s') :
    s' = s ∧ s.entry.asks setup.options now = true ∧
      s.entry.lookedAt setup.options now = s.entry.lastCheck := by
  cases h with
  | unheld hheld => exact ⟨rfl, asks_of_unheld hheld, lookedAt_of_unheld hheld⟩
  | requested _ hreq => exact ⟨rfl, asks_of_requested hreq, lookedAt_of_requested hreq⟩
  | newer _ _ _ hmod =>
    obtain ⟨hnone, -⟩ := habsent.modified hgone hmod
    cases hnone

/-- What a step of an entry does while its source is absent: the entry remembers its look, and
nothing else changes. -/
structure Missed (gone : σ → Prop) (options : Options) (now : Nat) (s s' : Focus σ κ α) : Prop where
  gone : gone s'.backend.store
  entry : s'.entry = { s.entry with lastCheck := s.entry.lookedAt options now }

/-- **A refresh** whose source is absent says so if it asks, and does nothing if it does not. -/
theorem Refreshed.of_absent {result : Except Failure Unit}
    (habsent : setup.store.Absent s.entry.identity gone) (hgone : gone s.backend.store)
    (halive : s.entry.destroyed = false) (h : Refreshed setup now s result s') :
    Missed gone setup.options now s s' ∧
      (s.entry.asks setup.options now = true ∧
          result = .error (.sourceNotFound s.entry.identity.text) ∨
        s.entry.asks setup.options now = false ∧ result = .ok () ∧ s' = s) := by
  cases h with
  | notDue hheld hreq hdue =>
    refine ⟨⟨hgone, ?_⟩, .inr ⟨?_, rfl, rfl⟩⟩
    · unfold lookedAt looks
      rw [hdue, Bool.and_false]
      rfl
    · unfold asks
      rw [hheld, hreq, hdue]
      rfl
  | current _ _ _ hmod =>
    obtain ⟨hnone, -⟩ := habsent.modified hgone hmod
    cases hnone
  | undated _ _ _ hmod hhas =>
    obtain ⟨-, hgone'⟩ := habsent.modified hgone hmod
    obtain ⟨hfalse, -⟩ := habsent.has hgone' hhas
    cases hfalse
  | vanished hheld hreq hdue hmod hhas =>
    obtain ⟨-, hgone'⟩ := habsent.modified hgone hmod
    obtain ⟨-, hgone''⟩ := habsent.has hgone' hhas
    exact ⟨⟨hgone'', by rw [lookedAt_of_due hheld hreq hdue]; rfl⟩, .inl ⟨asks_of_due hdue, rfl⟩⟩
  | destroyed hneed hdead =>
    rw [hneed.destroyed_eq, halive] at hdead
    cases hdead
  | unreadable hneed _ hmod hread =>
    -- the entry reads at once, so it has not looked
    obtain ⟨rfl, hasks, hlast⟩ := hneed.of_absent habsent hgone
    obtain ⟨-, hgone'⟩ := habsent.modified hgone hmod
    obtain ⟨hfailure, hgone''⟩ := habsent.read hgone' hread
    cases hfailure
    exact ⟨⟨hgone'', by rw [hlast]; rfl⟩, .inl ⟨hasks, rfl⟩⟩
  | refused hneed _ hmod hread =>
    obtain ⟨rfl, -, -⟩ := hneed.of_absent habsent hgone
    obtain ⟨-, hgone'⟩ := habsent.modified hgone hmod
    obtain ⟨hfailure, -⟩ := habsent.read hgone' hread
    cases hfailure
  | compiled hneed _ hmod hread =>
    obtain ⟨rfl, -, -⟩ := hneed.of_absent habsent hgone
    obtain ⟨-, hgone'⟩ := habsent.modified hgone hmod
    obtain ⟨hfailure, -⟩ := habsent.read hgone' hread
    cases hfailure

/-- **A request** whose source is absent is told so if it asks; otherwise what is held answers. -/
theorem Serviced.of_absent {request : Request} {precompile : Bool} {error : Option String}
    {answer : Except Failure Response} (habsent : setup.store.Absent s.entry.identity gone)
    (hgone : gone s.backend.store) (halive : s.entry.destroyed = false)
    (h : Serviced setup now request precompile error s answer s') :
    Missed gone setup.options now s s' ∧
      (s.entry.asks setup.options now = true ∧
          answer = .error (.sourceNotFound s.entry.identity.text) ∨
        s.entry.asks setup.options now = false ∧ ∃ held, s.entry.held = some held ∧
          answer = answerOf setup request precompile error held s) := by
  have hrefresh {result : Except Failure Unit} {s₁ : Focus σ κ α}
      (hr : (refresh setup now).run s = (result, s₁)) :=
    (Refreshed.of_run _ _ hr).of_absent habsent hgone halive
  -- a refresh that succeeds has done nothing
  have hok {s₁ : Focus σ κ α} (hr : (refresh setup now).run s = (.ok (), s₁)) :
      Missed gone setup.options now s s ∧ s.entry.asks setup.options now = false ∧ s₁ = s := by
    obtain ⟨hmissed, ⟨-, hresult⟩ | ⟨hasks, -, rfl⟩⟩ := hrefresh hr
    · cases hresult
    · exact ⟨hmissed, hasks, rfl⟩
  cases h with
  | failed hr =>
    obtain ⟨hmissed, ⟨hasks, hresult⟩ | ⟨-, hresult, -⟩⟩ := hrefresh hr
    · cases hresult
      exact ⟨hmissed, .inl ⟨hasks, rfl⟩⟩
    · cases hresult
  | precompiled hr hpre =>
    obtain ⟨hmissed, hasks, rfl⟩ := hok hr
    obtain ⟨held, hheld⟩ := held_of_not_asks hasks
    refine ⟨⟨hmissed.gone, hmissed.entry⟩, .inr ⟨hasks, held, hheld, ?_⟩⟩
    unfold answerOf
    rw [if_pos hpre]
  | unheld hr _ hheld =>
    obtain ⟨-, hasks, rfl⟩ := hok hr
    rw [asks_of_unheld hheld] at hasks
    cases hasks
  | executed hr hpre hheld hexec hanswer =>
    obtain ⟨hmissed, hasks, rfl⟩ := hok hr
    refine ⟨⟨hmissed.gone, hmissed.entry⟩, .inr ⟨hasks, _, hheld, ?_⟩⟩
    unfold answerOf
    rw [hpre, hexec, hanswer]
    rfl

end

/-! ## While the source stays away -/

/-- What happens to an entry. -/
inductive Visit (σ : Type)
  | mark
  /-- The store changes. -/
  | change (change : σ → σ)
  | service (now : Nat) (request : Request) (precompile : Bool) (error : Option String)

/-- The source is absent afterwards if it was before. -/
def Visit.Keeps (gone : σ → Prop) : Visit σ → Prop
  | change c => ∀ s, gone s → gone (c s)
  | _ => True

/-- What becomes of an entry that is visited. -/
def visit (setup : Setup σ κ α) : Visit σ → Focus σ κ α → Focus σ κ α
  | .mark, s => s.update markForReload
  | .change c, s => s.withStore (c s.backend.store)
  | .service now request precompile error, s =>
    ((service setup now request precompile error).run s).2

/-- What becomes of it in visits, one after the other. -/
def visits (setup : Setup σ κ α) (visits : List (Visit σ)) (s : Focus σ κ α) : Focus σ κ α :=
  visits.foldl (fun s v => visit setup v s) s

/-- How it is known that there is no source. -/
structure Absence where
  /-- Every request asks, as nothing is held or a reload was asked for. -/
  lasting : Bool
  /-- When a request was last told that there is no source. -/
  last : Nat
deriving DecidableEq, Repr

namespace Absence

/-- A request at this time is told that there is no source. -/
def told (interval now : Nat) (a : Absence) : Bool := a.lasting || interval ≤ now - a.last

def visit (interval : Nat) (a : Absence) : Visit σ → Absence
  | .mark => { a with lasting := true }
  | .change _ => a
  | .service now _ _ _ => if a.told interval now then { a with last := now } else a

/-- What is known after the visits. -/
def after (interval : Nat) (visits : List (Visit σ)) (a : Absence) : Absence :=
  visits.foldl (visit interval) a

end Absence

/-- The source of an entry is absent, what the entry holds is still what it held, and an entry that
does not ask at every request has looked when one was last told. -/
structure Missing (options : Options) (gone : σ → Prop) (e : Entry α) (a : Absence)
    (s : Focus σ κ α) : Prop where
  gone : gone s.backend.store
  alive : s.entry.destroyed = false
  identity : s.entry.identity = e.identity
  held : s.entry.held = e.held
  lasting : a.lasting = (s.entry.held.isNone || s.entry.reloadRequested)
  looked : a.lasting = false → options.development = true ∧ s.entry.lastCheck = some a.last

namespace Missing

variable {setup : Setup σ κ α} {gone : σ → Prop} {e : Entry α} {a : Absence} {s : Focus σ κ α}

/-- Those requests ask that are going to be told. -/
theorem asks_eq (h : Missing setup.options gone e a s) (now : Nat) :
    s.entry.asks setup.options now = a.told setup.options.checkInterval now := by
  unfold asks Absence.told
  rw [← h.lasting]
  cases hlasting : a.lasting with
  | true => rfl
  | false =>
    obtain ⟨hdev, hlast⟩ := h.looked hlasting
    unfold checkDue
    rw [hdev, hlast]
    rfl

/-- **A visit** goes by what is known of the absence. -/
theorem visit (h : Missing setup.options gone e a s)
    (habsent : setup.store.Absent e.identity gone) {v : Visit σ} (hkeeps : v.Keeps gone) :
    Missing setup.options gone e (a.visit setup.options.checkInterval v)
      (Entry.visit setup v s) := by
  cases v with
  | mark =>
    refine ⟨h.gone, h.alive, h.identity, h.held, ?_, fun hlasting => by cases hlasting⟩
    show true = (s.entry.held.isNone || true)
    rw [Bool.or_true]
  | change c =>
    exact ⟨hkeeps _ h.gone, h.alive, h.identity, h.held, h.lasting, h.looked⟩
  | service now request precompile error =>
    obtain ⟨hmissed, -⟩ := (service_cases setup now request precompile error s).of_absent
      (h.identity ▸ habsent) h.gone h.alive
    have hentry : (Entry.visit setup (.service now request precompile error) s).entry = _ :=
      hmissed.entry
    unfold Absence.visit
    dsimp only
    refine ⟨hmissed.gone, ?_, ?_, ?_, ?_, fun hlasting => ?_⟩
    · rw [hentry]; exact h.alive
    · rw [hentry]; exact h.identity
    · rw [hentry]; exact h.held
    · rw [hentry, apply_ite Absence.lasting, ite_self]
      exact h.lasting
    · rw [apply_ite Absence.lasting, ite_self] at hlasting
      obtain ⟨hdev, hlast⟩ := h.looked hlasting
      refine ⟨hdev, ?_⟩
      rw [hentry]
      show s.entry.lookedAt setup.options now = _
      unfold lookedAt
      rw [looks_eq_asks (h.lasting.symm.trans hlasting), h.asks_eq]
      split
      next => rfl
      next => exact hlast

/-- **Visits**, as long as the source stays away. -/
theorem visits (h : Missing setup.options gone e a s)
    (habsent : setup.store.Absent e.identity gone) {vs : List (Visit σ)}
    (hkeeps : ∀ v ∈ vs, v.Keeps gone) :
    Missing setup.options gone e (a.after setup.options.checkInterval vs)
      (Entry.visits setup vs s) := by
  induction vs generalizing a s with
  | nil => exact h
  | cons v vs ih =>
    exact ih (h.visit habsent (hkeeps v List.mem_cons_self)) fun w hw =>
      hkeeps w (List.mem_cons_of_mem v hw)

/-- A request that is told, with all that it goes by. -/
theorem of_service {now : Nat} {request : Request} {precompile : Bool} {error : Option String}
    {name : String} {s s₁ : Focus σ κ α} (hdoc : setup.Documented)
    (habsent : setup.store.Absent s.entry.identity gone) (hgone : gone s.backend.store)
    (halive : s.entry.destroyed = false)
    (h : (service setup now request precompile error).run s =
      (.error (.sourceNotFound name), s₁)) :
    Missing setup.options gone s.entry ⟨s.entry.held.isNone || s.entry.reloadRequested, now⟩
      s₁ := by
  obtain ⟨hmissed, ⟨hasks, -⟩ | ⟨-, held, -, hanswer⟩⟩ :=
    (Serviced.of_run h).of_absent habsent hgone halive
  · have hentry := hmissed.entry
    refine ⟨hmissed.gone, by rw [hentry]; exact halive, by rw [hentry], by rw [hentry],
      by rw [hentry], fun hlasting => ?_⟩
    -- the entry was told by a look
    have hlooks := (looks_eq_asks hlasting).trans hasks
    have hdue : s.entry.checkDue setup.options now = true := by
      unfold looks at hlooks
      exact (Bool.and_eq_true_iff.mp hlooks).2
    rw [hentry]
    refine ⟨(Bool.and_eq_true_iff.mp hdue).1, ?_⟩
    show s.entry.lookedAt setup.options now = some now
    unfold lookedAt
    rw [if_pos hlooks]
  · -- an artifact does not answer that its source is missing
    exact absurd hanswer.symm (answerOf_ne hdoc)

end Missing

/-- An entry that asks at every request goes on to do so. -/
theorem Absence.lasting_after {interval : Nat} {a : Absence} (h : a.lasting = true)
    (vs : List (Visit σ)) : (a.after interval vs).lasting = true := by
  induction vs generalizing a with
  | nil => exact h
  | cons v vs ih =>
    refine ih ?_
    cases v with
    | mark => rfl
    | change => exact h
    | service now =>
      unfold Absence.visit
      dsimp only
      split
      next => exact h
      next => exact h

/-- **Who is told that the source has gone.** A request was told so, and the source has stayed away
since, whatever else became of the store. Then a request is told so exactly if nothing is held, a
reload was asked for, or a check interval has passed since a request was last told; all others are
answered by the artifact that is held from before. So everybody is told if there is no check
interval, or if the first request found nothing held or a reload asked for. -/
theorem told_missing_iff {setup : Setup σ κ α} {gone : σ → Prop} {now now' : Nat}
    {request request' : Request} {precompile precompile' : Bool} {error error' : Option String}
    {name : String} {s s₁ : Focus σ κ α} (hdoc : setup.Documented)
    (habsent : setup.store.Absent s.entry.identity gone) (hgone : gone s.backend.store)
    (halive : s.entry.destroyed = false)
    (hfirst : (service setup now request precompile error).run s =
      (.error (.sourceNotFound name), s₁))
    (vs : List (Visit σ)) (hkeeps : ∀ v ∈ vs, v.Keeps gone) :
    let first : Absence := ⟨s.entry.held.isNone || s.entry.reloadRequested, now⟩
    let a := first.after setup.options.checkInterval vs
    let s₂ := visits setup vs s₁
    let answer := ((service setup now' request' precompile' error').run s₂).1
    (answer = .error (.sourceNotFound s.entry.identity.text) ↔
        a.told setup.options.checkInterval now' = true) ∧
      (a.told setup.options.checkInterval now' = false → ∃ held, s.entry.held = some held ∧
        answer = answerOf setup request' precompile' error' held s₂) ∧
      (setup.options.checkInterval = 0 ∨ first.lasting = true →
        a.told setup.options.checkInterval now' = true) := by
  intro first a s₂ answer
  have hmissing : Missing setup.options gone s.entry a s₂ :=
    (Missing.of_service hdoc habsent hgone halive hfirst).visits habsent hkeeps
  have hserv := service_cases setup now' request' precompile' error' s₂
  obtain ⟨-, hanswer⟩ :=
    hserv.of_absent (hmissing.identity ▸ habsent) hmissing.gone hmissing.alive
  rw [hmissing.asks_eq, hmissing.identity, hmissing.held] at hanswer
  have halways : setup.options.checkInterval = 0 ∨ first.lasting = true →
      a.told setup.options.checkInterval now' = true := by
    unfold Absence.told
    rintro (hzero | hlasting)
    · rw [hzero]
      simp
    · rw [Absence.lasting_after hlasting vs, Bool.true_or]
  rcases hanswer with ⟨htold, hanswer⟩ | ⟨htold, held, hheld, hanswer⟩
  · refine ⟨iff_of_true hanswer htold, fun hnot => ?_, halways⟩
    rw [htold] at hnot
    cases hnot
  · refine ⟨iff_of_false (fun hmissing => ?_) (by rw [htold]; exact Bool.false_ne_true),
      fun _ => ⟨held, hheld, hanswer⟩, halways⟩
    exact answerOf_ne hdoc (hanswer.symm.trans hmissing)

/-- The entry of the page after it was compiled and its source was removed. -/
def bereft : Focus Memory Echo.Counts String :=
  let m := Memory.empty.put page "v1"
  let served := ((service echoing 0 (.forPath "/p") false none).run
    ⟨.fresh page false, ⟨m, .zero, 0, []⟩⟩).2
  served.withStore (m.remove page)

/-- What the first look leaves behind. -/
def informed : Focus Memory Echo.Counts String :=
  ((service echoing 5000 (.forPath "/p") false none).run bereft).2

theorem told_missing_iff_bereft :
    let other : Identity := ⟨[⟨['q'], by decide⟩], by simp⟩
    let vs : List (Visit Memory) :=
      [.service 6000 (.forPath "/p") false none, .change (Memory.put other "v1")]
    let a := Absence.after 4000 vs ⟨false, 5000⟩
    (service echoing 5000 (.forPath "/p") false none).run bereft =
        (.error (.sourceNotFound "/p"), informed) ∧
      a.told 4000 9000 = true ∧
      ((service echoing 9000 (.forPath "/p") false none).run (visits echoing vs informed)).1 =
        .error (.sourceNotFound "/p") := by
  intro other vs a
  have hfirst : (service echoing 5000 (.forPath "/p") false none).run bereft =
      (.error (.sourceNotFound "/p"), informed) := rfl
  have hkeeps : ∀ v ∈ vs, v.Keeps fun m => m.find? page = none := by
    rw [List.forall_mem_cons, List.forall_mem_singleton]
    exact ⟨trivial, fun m hgone =>
      (Memory.find?_putAt other page "v1" (m.version + 1) m).trans hgone⟩
  have hgone : bereft.backend.store.find? page = none := rfl
  have htold : a.told 4000 9000 = true := rfl
  exact ⟨hfirst, htold, (told_missing_iff (Echo.documented _) (Memory.absent page) hgone rfl hfirst
    vs hkeeps).1.mpr htold⟩

/-- Who comes within the check interval is answered from a source that has gone. -/
theorem not_missing_within_interval :
    let next := (service echoing 6000 (.forPath "/p") false none).run informed
    (service echoing 5000 (.forPath "/p") false none).run bereft =
        (.error (.sourceNotFound "/p"), informed) ∧
      informed.entry.destroyed = false ∧ informed.backend.store.find? page = none ∧
      next.1 = .ok (.html "v1") := ⟨rfl, rfl, rfl, rfl⟩

end Entry

end TemplateServer
