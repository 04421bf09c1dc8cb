import TemplateServer.Proofs.Entry.Over
import TemplateServer.Proofs.Entry.Retry
import TemplateServer.Proofs.Life

/-!
# The first compilation and the teardown

In production, and as long as nobody asks for a reload, an entry compiles its source once, however
many requests come to it at the same time and whenever it is taken down. What becomes of the one
artifact is a `Life`, and every step of a request or of the teardown is a step of this life or
none.

What the requests know of the entry without having the lock is out of date, but not wrong. Of one
that found nothing there and wants to compile, `Stage.Fits` says that it has seen generation 0, or
that the entry has been taken down since; behind the lock only the first kind gets past the check
of `destroyed`, and only the first of these past the check of the generation.
-/

namespace TemplateServer

open TemplateServer.Action

variable {σ κ α : Type}

/-- The source of an identity can be read whenever the store is as `there` says, and is compiled to
artifacts that work. -/
structure Setup.Serves (setup : Setup σ κ α) (identity : Identity) (there : σ → Prop)
    (works : α → Prop) : Prop where
  modified : ∀ s, there s → there (setup.store.modified identity s).2
  read : ∀ s, there s → ∃ source, (setup.store.read identity s).1 = .ok source
  still : ∀ s, there s → there (setup.store.read identity s).2
  compile : ∀ s source, there s → (setup.store.read identity s).1 = .ok source →
    ∀ k, ∃ artifact, (setup.compiler.compile identity source k).1 = .ok artifact ∧ works artifact
  execute : ∀ artifact context k, works artifact →
    ∃ body, (setup.compiler.execute artifact context k).1 = .ok body

/-- A source in memory stays there, and what echoes works. -/
theorem Echo.serves {identity : Identity} {m : Memory} {source : String} {version : Nat}
    (hfind : m.find? identity = some (source, version)) (hgood : source ≠ refusedSource)
    (options : Options) :
    (⟨Memory.store, compiler, options⟩ : Setup _ _ _).Serves identity (· = m) (fun _ => True) where
  modified _ hm := hm
  read s hm := by
    subst hm
    refine ⟨source, ?_⟩
    unfold Memory.store
    dsimp only
    rw [hfind]
  still s hm := by
    subst hm
    exact Memory.store_still.read identity s
  compile s text hm hread k := by
    subst hm
    unfold Memory.store at hread
    dsimp only at hread
    rw [hfind] at hread
    cases hread
    refine ⟨source, ?_, trivial⟩
    unfold compiler
    dsimp only
    rw [if_neg hgood]
  execute artifact context k _ := by
    unfold compiler
    dsimp only
    cases context.error with
    | none => exact ⟨_, rfl⟩
    | some error => exact ⟨_, rfl⟩

namespace Entry

/-- The answer that a request has come for, given by an artifact that works. -/
def Errand.Satisfied (c : Errand) (setup : Setup σ κ α) (identity : Identity) (works : α → Prop)
    (answer : Except Failure Response) : Prop :=
  ∃ response, answer = .ok response ∧ response.status = 200 ∧
    if c.precompile then response = .compiled
    else ∃ artifact k body, works artifact ∧ response = .html body ∧
      (setup.compiler.execute artifact (.ofRequest identity c.request c.error) k).1 = .ok body

/-- What a request has still to do to the ledger and to the counters. -/
def Stage.due : Stage (Nat × α) → Due
  | compiled _ held => .publication held.artifact.1
  | published _ => .count
  | _ => .nothing

/-- The artifact that the teardown has taken out and not yet released. -/
def Ending.taken? : Ending (Nat × α) → Option Nat
  | taken held => held.map (·.artifact.1)
  | _ => none

/-! ## What a request knows -/

namespace Stage

section

variable (setup : Setup σ κ α) (identity : Identity) (there : σ → Prop) (works : α → Prop)

/-- What is true of an entry when a request has come to a stage. -/
def Fits (c : Errand) (e : Entry (Nat × α)) : Stage (Nat × α) → Prop
  | called | ready => True
  | observed generation => generation ≤ e.generation
  | waiting generation | entered generation => generation = 0 ∨ e.destroyed = true
  | alive generation => generation = 0 ∧ e.destroyed = false
  | current generation | dated generation _ =>
    generation = 0 ∧ e.destroyed = false ∧ e.generation = 0
  | read generation _ source =>
    generation = 0 ∧ e.destroyed = false ∧ e.generation = 0 ∧
      ∃ s, there s ∧ (setup.store.read identity s).1 = .ok source
  | compiled generation held => generation = 0 ∧ e.destroyed = false ∧ works held.artifact.2
  | published generation | advanced generation | settled generation =>
    generation = 0 ∧ e.destroyed = false
  | answered answer =>
    answer = .error .shutDown ∨ c.Satisfied setup identity works answer

variable {setup identity there works} {c : Errand} {e e' : Entry (Nat × α)}
  {stage : Stage (Nat × α)}

/-- What is true of an entry at a stage depends on its generation and on whether it is taken
down. -/
theorem Fits.congr (h : Fits setup identity there works c e stage)
    (hgeneration : e'.generation = e.generation) (hdead : e'.destroyed = e.destroyed) :
    Fits setup identity there works c e' stage := by
  cases stage <;> simp_all [Fits]

/-- What a request knows without having the lock stays true. -/
theorem Fits.mono (h : Fits setup identity there works c e stage) (hlocks : stage.locks = false)
    (hgeneration : e.generation ≤ e'.generation)
    (hdead : e.destroyed = true → e'.destroyed = true) :
    Fits setup identity there works c e' stage := by
  cases stage with
  | called | ready => trivial
  | observed generation => exact Nat.le_trans h hgeneration
  | waiting generation => exact h.imp_right hdead
  | answered answer => exact h
  | _ => cases hlocks

end

end Stage

/-! ## What every order of the moves keeps -/

namespace Ending

/-- The entry has been told that it is taken down. -/
def told : Ending α → Bool
  | flagged | taken _ | done _ => true
  | pending | entered => false

/-- The entry holds nothing any more. -/
def emptied : Ending α → Bool
  | taken _ | done _ => true
  | pending | entered | flagged => false

/-- The teardown says that the entry is dead before it empties it. -/
theorem told_of_emptied {ending : Ending α} (h : ending.emptied = true) : ending.told = true := by
  cases ending with
  | pending | entered => cases h
  | flagged | taken | done => rfl

end Ending

/-- In production an entry looks no further than at what it holds. -/
theorem needsCompile_production {setup : Setup σ κ α} {now : Nat} {s : Focus σ κ α}
    (hprod : setup.options.development = false) (hreq : s.entry.reloadRequested = false) :
    (needsCompile setup now).run s = (.ok s.entry.held.isNone, s) := by
  unfold needsCompile
  rw [run_bind_ok (run_get s)]
  dsimp only
  cases s.entry.held with
  | none => rfl
  | some held =>
    have hdue : s.entry.checkDue setup.options now = false := by
      unfold checkDue
      rw [hprod, Bool.false_and]
    dsimp only
    rw [hreq, hdue]
    rfl

namespace Rush

section

variable (s : Rush σ (κ × Ledger) (Nat × α))

abbrev ledger : Ledger := s.focus.backend.compiler.2

/-- What the one who has the lock has still to do. -/
def due : Due :=
  match s.holder with
  | some (.request n) => (s.stage n).due
  | _ => .nothing

/-- What the ledger and the counters depend on. -/
def picture : Picture :=
  ⟨s.focus.entry.number, s.due, s.ending.taken?, s.focus.entry.generation,
    s.focus.entry.destroyed, s.ledger⟩

variable {s} {n : Nat}

/-- Without the lock there is nothing to do. -/
theorem due_of_unlocked {stage : Stage (Nat × α)} (h : stage.locks = false) :
    stage.due = .nothing := by
  cases stage <;> first | rfl | cases h

/-- The one who has the lock is the one who has something to do. -/
theorem due_eq (h : s.Guarded) (hlocks : (s.stage n).locks = true) : s.due = (s.stage n).due := by
  have hholder : s.holder = some (.request n) := (h (.request n)).mp hlocks
  unfold due
  rw [hholder]

/-- If nobody has the lock, nobody has anything to do. -/
theorem due_free (h : s.holder = none) : s.due = .nothing := by
  unfold due
  rw [h]

/-- A step of the one who has the lock, or takes it, changes what is to be done; any other step does
not. -/
theorem due_put (h : s.Guarded) (stage : Stage (Nat × α))
    (focus : Focus σ (κ × Ledger) (Nat × α)) :
    (s.put n stage focus
      ((Party.request n).passLock (s.stage n).locks stage.locks s.holder)).due =
      if (s.stage n).locks || stage.locks then stage.due else s.due := by
  unfold Party.passLock
  -- by whether the one who steps has the lock afterwards
  cases hafter : stage.locks with
  | true =>
    rw [Bool.or_true, if_pos rfl, if_pos rfl]
    unfold due
    rw [put_holder]
    dsimp only
    rw [put_stage_self]
  | false =>
    cases hbefore : (s.stage n).locks with
    | true => exact (due_free rfl).trans (due_of_unlocked hafter).symm
    | false =>
      -- whoever has the lock is someone else
      show due (s.put n stage focus s.holder) = s.due
      unfold due
      rw [put_holder]
      -- nobody has the lock, or the teardown
      rcases hholder : s.holder with _ | (m | _)
      · rfl
      · have hm : m ≠ n := by
          rintro rfl
          have hlocks : (s.stage m).locks = true := (h (.request m)).mpr hholder
          rw [hbefore] at hlocks
          cases hlocks
        dsimp only
        rw [put_stage_ne _ _ _ _ _ hm]
      · rfl

/-- While the teardown has the lock, no request has anything to do. -/
theorem due_locked (h : s.Guarded) (hlocks : s.ending.locks = true) : s.due = .nothing := by
  have hholder : s.holder = some .teardown := (h .teardown).mp hlocks
  unfold due
  rw [hholder]

/-- A step of the teardown leaves what the requests have to do. -/
theorem due_tearDown (h : s.Guarded) {ending : Ending (Nat × α)}
    {focus : Focus σ (κ × Ledger) (Nat × α)}
    (henter : ending.locks = true → s.ending.locks = true ∨ s.holder = none) :
    due { s with
      focus := focus
      ending := ending
      holder := Party.teardown.passLock s.ending.locks ending.locks s.holder } = s.due := by
  unfold Party.passLock
  cases hafter : ending.locks with
  | true =>
    -- the teardown has the lock afterwards, and so had it before or took it from nobody
    rcases henter hafter with hbefore | hfree
    · exact (due_locked h hbefore).symm
    · exact (due_free hfree).symm
  | false =>
    cases hbefore : s.ending.locks with
    | true => exact (due_locked h hbefore).symm
    | false => rfl

end

section

variable (setup : Setup σ κ α) (identity : Identity) (there : σ → Prop) (works : α → Prop)
  (errands : Nat → Errand)

/-- How the entry, the teardown and all requests hang together. -/
structure Safe (s : Rush σ (κ × Ledger) (Nat × α)) : Prop where
  guarded : s.Guarded
  named : s.focus.entry.identity = identity
  unmarked : s.focus.entry.reloadRequested = false
  stored : there s.focus.backend.store
  working : ∀ held, s.focus.entry.held = some held → works held.artifact.2
  fits : ∀ n, (s.stage n).Fits setup identity there works (errands n) s.focus.entry
  told : s.focus.entry.destroyed = s.ending.told
  emptied : s.ending.emptied = true → s.focus.entry.held = none
  life : Life s.picture

variable {setup identity there works errands} {s : Rush σ (κ × Ledger) (Nat × α)} {n : Nat}

namespace Safe

theorem start (isErrorPage : Bool) {store : σ} (hthere : there store) (k : κ) (reloads : UInt64)
    (log : List Log.Event) :
    Safe setup identity there works errands
      (.start ⟨.fresh identity isErrorPage, ⟨store, (k, []), reloads, log⟩⟩) where
  guarded := .start _
  named := rfl
  unmarked := rfl
  stored := hthere
  working _ h := by cases h
  fits _ := trivial
  told := rfl
  emptied _ := rfl
  life := .unmade false

section

variable (h : Safe setup identity there works errands s)

include h

/-- A step of a request. Where it changes the entry it has the lock, and it neither takes the entry
down nor gives it another identity. -/
theorem put {stage : Stage (Nat × α)} {focus : Focus σ (κ × Ledger) (Nat × α)}
    (henter : stage.locks = true → (s.stage n).locks = true ∨ s.holder = none)
    (hown : (s.stage n).locks = true ∨ focus.entry = s.focus.entry)
    (hidentity : focus.entry.identity = s.focus.entry.identity)
    (hunmarked : focus.entry.reloadRequested = false)
    (hdead : focus.entry.destroyed = s.focus.entry.destroyed)
    (hgeneration : s.focus.entry.generation ≤ focus.entry.generation)
    (hthere : there focus.backend.store)
    (hworks : ∀ held, focus.entry.held = some held → works held.artifact.2)
    (hemptied : s.ending.emptied = true → focus.entry.held = none)
    (hfits : stage.Fits setup identity there works (errands n) focus.entry)
    (hlife : Life ⟨focus.entry.number,
      if (s.stage n).locks || stage.locks then stage.due else s.due, s.ending.taken?,
      focus.entry.generation, focus.entry.destroyed, focus.backend.compiler.2⟩) :
    Safe setup identity there works errands
      (s.put n stage focus
        ((Party.request n).passLock (s.stage n).locks stage.locks s.holder)) where
  guarded := h.guarded.put focus henter
  named := hidentity.trans h.named
  unmarked := hunmarked
  stored := hthere
  working := hworks
  fits m := by
    by_cases hm : m = n
    · subst hm
      rw [put_stage_self]
      exact hfits
    · rw [put_stage_ne _ _ _ _ _ hm, put_focus]
      have hother := h.fits m
      rcases hown with hlocks | hentry
      · -- the others do not have the lock
        have hoff : (s.stage m).locks = false := by
          rw [← Bool.not_eq_true]
          intro hon
          have hn : s.holder = some (.request n) := (h.guarded (.request n)).mp hlocks
          have hm' : s.holder = some (.request m) := (h.guarded (.request m)).mp hon
          rw [hn] at hm'
          cases hm'
          exact hm rfl
        exact hother.mono hoff hgeneration fun hdestroyed => hdead.trans hdestroyed
      · rw [hentry]
        exact hother
  told := hdead.trans h.told
  emptied := hemptied
  life := by
    unfold picture
    rw [due_put h.guarded stage focus]
    exact hlife

/-- A request goes on as its stage says, if it does not have to wait. -/
theorem of_next {before stage : Stage (Nat × α)} {focus : Focus σ (κ × Ledger) (Nat × α)}
    (hstage : s.stage n = before)
    (hnext : before.next setup.numbered (errands n) s.focus = (stage, focus))
    (hput : (stage.locks = true → (s.stage n).locks = true ∨ s.holder = none) →
      Safe setup identity there works errands (s.put n stage focus
        ((Party.request n).passLock (s.stage n).locks stage.locks s.holder))) :
    Safe setup identity there works errands (s.go setup.numbered errands n) := by
  rcases go_cases (hstage ▸ hnext) with hgo | ⟨henter, hgo⟩
  · rw [hgo]
    exact h
  · rw [hgo]
    exact hput henter

/-- A step that leaves the entry and its artifact alone. -/
theorem idle {before stage : Stage (Nat × α)} {focus : Focus σ (κ × Ledger) (Nat × α)}
    (hstage : s.stage n = before)
    (hnext : before.next setup.numbered (errands n) s.focus = (stage, focus))
    (hentry : focus.entry = s.focus.entry) (hledger : focus.backend.compiler.2 = s.ledger)
    (hthere : there focus.backend.store)
    (hfits : stage.Fits setup identity there works (errands n) s.focus.entry)
    (hbefore : before.due = .nothing) (hafter : stage.due = .nothing) :
    Safe setup identity there works errands (s.go setup.numbered errands n) := by
  refine h.of_next hstage hnext fun henter => ?_
  have hdue : (if (s.stage n).locks || stage.locks then stage.due else s.due) = s.due := by
    rw [hafter]
    cases hon : (s.stage n).locks with
    | true => rw [due_eq h.guarded hon, hstage, hbefore, ite_self]
    | false =>
      cases hin : stage.locks with
      | true =>
        have hfree : s.holder = none := (henter hin).resolve_left (by simp [hon])
        rw [due_free hfree, ite_self]
      | false => rfl
  refine h.put henter (.inr hentry) ?_ ?_ ?_ ?_ hthere ?_ ?_ ?_ ?_
  · rw [hentry]
  · rw [hentry]
    exact h.unmarked
  · rw [hentry]
  · exact Nat.le_of_eq (by rw [hentry])
  · rw [hentry]
    exact h.working
  · rw [hentry]
    exact h.emptied
  · rw [hentry]
    exact hfits
  · rw [hdue, hentry, hledger]
    exact h.life

/-- The artifact comes into the hands of the request that makes it. -/
theorem compile (hserves : setup.Serves identity there works) {generation : Nat}
    {modified : Option Nat} {source : String}
    (hstage : s.stage n = .read generation modified source) :
    Safe setup identity there works errands (s.go setup.numbered errands n) := by
  obtain ⟨hzero, halive, hgeneration, st, hst, hsource⟩ :
      Stage.Fits setup identity there works (errands n) s.focus.entry
        (.read generation modified source) := hstage ▸ h.fits n
  have hlocks : (s.stage n).locks = true := by
    rw [hstage]
    rfl
  have hdue : s.due = .nothing := (due_eq h.guarded hlocks).trans (by rw [hstage]; rfl)
  have hlife := h.life.make hdue hgeneration halive
  obtain ⟨artifact, hmade, hworks⟩ :=
    hserves.compile st source hst hsource s.focus.backend.compiler.1
  rw [← h.named] at hmade
  refine h.of_next hstage (Stage.next_read (Compiler.numbered_compile hmade)) fun henter => ?_
  refine h.put henter (.inl hlocks) rfl h.unmarked rfl (Nat.le_refl _) h.stored h.working
    h.emptied ⟨hzero, halive, hworks⟩ ?_
  rw [hlocks]
  exact hlife

/-- Nothing was in place before. -/
theorem publish {generation : Nat} {held : Held (Nat × α)}
    (hstage : s.stage n = .compiled generation held) :
    Safe setup identity there works errands (s.go setup.numbered errands n) := by
  obtain ⟨hzero, halive, hworks⟩ :
      Stage.Fits setup identity there works (errands n) s.focus.entry
        (.compiled generation held) := hstage ▸ h.fits n
  have hlocks : (s.stage n).locks = true := by
    rw [hstage]
    rfl
  have hdue : s.due = .publication held.artifact.1 :=
    (due_eq h.guarded hlocks).trans (by rw [hstage]; rfl)
  obtain ⟨hnumber, hlife⟩ := h.life.publish hdue
  have hpublish : s.focus.publish setup.numbered held = s.focus.hold held := by
    have hunheld : s.focus.entry.held = none := Option.map_eq_none_iff.mp hnumber
    rcases s.focus.publish_cases setup.numbered held with ⟨-, hpublish⟩ | ⟨_, _, hheld, -⟩
    · exact hpublish
    · rw [hunheld] at hheld
      cases hheld
  have hnext : (Stage.compiled generation held).next setup.numbered (errands n) s.focus =
      (.published generation, s.focus.hold held) := by
    rw [← hpublish]
    rfl
  refine h.of_next hstage hnext fun henter => ?_
  refine h.put henter (.inl hlocks) rfl h.unmarked rfl (Nat.le_refl _) h.stored ?_ ?_
    ⟨hzero, halive⟩ ?_
  · rintro held' ⟨⟩
    exact hworks
  · intro hemptied
    have htold := h.told
    rw [halive, Ending.told_of_emptied hemptied] at htold
    cases htold
  · rw [hlocks]
    exact hlife

/-- The request counts what it has published. -/
theorem advance {generation : Nat} (hstage : s.stage n = .published generation) :
    Safe setup identity there works errands (s.go setup.numbered errands n) := by
  have hfits : Stage.Fits setup identity there works (errands n) s.focus.entry
      (.published generation) := hstage ▸ h.fits n
  have hlocks : (s.stage n).locks = true := by
    rw [hstage]
    rfl
  have hdue : s.due = .count := (due_eq h.guarded hlocks).trans (by rw [hstage]; rfl)
  refine h.of_next hstage rfl fun henter => ?_
  refine h.put henter (.inl hlocks) rfl h.unmarked rfl (Nat.le_succ _) h.stored h.working
    h.emptied hfits ?_
  rw [hlocks]
  exact h.life.count hdue

/-- Who comes to the artifact finds it released or may execute it. -/
theorem conclude (hserves : setup.Serves identity there works) (hstage : s.stage n = .ready) :
    Safe setup identity there works errands (s.go setup.numbered errands n) := by
  cases hpre : (errands n).precompile with
  | true =>
    refine h.idle hstage (Stage.next_ready (conclude_precompiled hpre)) rfl rfl h.stored
      (.inr ⟨_, rfl, rfl, ?_⟩) rfl rfl
    rw [if_pos hpre]
  | false =>
    cases hheld : s.focus.entry.held with
    | none =>
      exact h.idle hstage (Stage.next_ready (conclude_unheld hpre hheld)) rfl rfl h.stored
        (.inl rfl) rfl rfl
    | some held =>
      have hworks : works held.artifact.2 := h.working held hheld
      obtain ⟨body, hbody⟩ := hserves.execute held.artifact.2
        (.ofRequest s.focus.entry.identity (errands n).request (errands n).error)
        s.focus.backend.compiler.1 hworks
      refine h.of_next hstage (Stage.next_ready (conclude_held hpre hheld (Prod.ext hbody rfl)))
        fun henter => ?_
      refine h.put henter (.inr rfl) rfl h.unmarked rfl (Nat.le_refl _) h.stored h.working
        h.emptied (.inr ⟨_, rfl, rfl, ?_⟩) ?_
      · rw [if_neg (by simp [hpre])]
        exact ⟨held.artifact.2, _, body, hworks, rfl, h.named ▸ hbody⟩
      · have hunlocked : (s.stage n).locks = false := by
          rw [hstage]
          rfl
        rw [hunlocked]
        exact h.life.execute (number_of_held hheld)

/-- **What every step of a request keeps.** -/
theorem go (hprod : setup.options.development = false) (hserves : setup.Serves identity there works)
    (n : Nat) : Safe setup identity there works errands (s.go setup.numbered errands n) := by
  have hfits := h.fits n
  cases hstage : s.stage n with
  | called => exact h.idle hstage rfl rfl rfl h.stored (Nat.le_refl _) rfl rfl
  | observed generation =>
    rw [hstage] at hfits
    have hneed : (needsCompile setup.numbered (errands n).now).run s.focus = _ :=
      needsCompile_production hprod h.unmarked
    cases hheld : s.focus.entry.held with
    | none =>
      rw [hheld] at hneed
      refine h.idle hstage (Stage.next_observed hneed) rfl rfl h.stored ?_ rfl rfl
      rcases h.life.bare (number_of_unheld hheld) with hzero | hdead
      · have hgeneration : s.focus.entry.generation = 0 := hzero
        exact .inl (Nat.le_zero.mp (hgeneration ▸ hfits))
      · exact .inr hdead
    | some held =>
      rw [hheld] at hneed
      exact h.idle hstage (Stage.next_observed hneed) rfl rfl h.stored trivial rfl rfl
  | waiting generation =>
    rw [hstage] at hfits
    exact h.idle hstage rfl rfl rfl h.stored hfits rfl rfl
  | entered generation =>
    rw [hstage] at hfits
    cases hdead : s.focus.entry.destroyed with
    | true =>
      exact h.idle hstage (Stage.next_entered_dead hdead) rfl rfl h.stored (.inl rfl) rfl rfl
    | false =>
      have hzero : generation = 0 := hfits.resolve_right (by simp [hdead])
      exact h.idle hstage (Stage.next_entered_alive hdead) rfl rfl h.stored ⟨hzero, hdead⟩ rfl rfl
  | alive generation =>
    rw [hstage] at hfits
    obtain ⟨hzero, halive⟩ := hfits
    by_cases hsame : s.focus.entry.generation = generation
    · exact h.idle hstage (Stage.next_alive_same hsame) rfl rfl h.stored
        ⟨hzero, halive, hsame.trans hzero⟩ rfl rfl
    · exact h.idle hstage (Stage.next_alive_other hsame) rfl rfl h.stored trivial rfl rfl
  | current generation =>
    rw [hstage] at hfits
    have hthere := hserves.modified _ h.stored
    rw [← h.named] at hthere
    exact h.idle hstage (Stage.next_current rfl) rfl rfl hthere hfits rfl rfl
  | dated generation modified =>
    rw [hstage] at hfits
    obtain ⟨hzero, halive, hgeneration⟩ := hfits
    obtain ⟨source, hsource⟩ := hserves.read _ h.stored
    have hread := hsource
    have hstill := hserves.still _ h.stored
    rw [← h.named] at hread hstill
    exact h.idle hstage (Stage.next_dated (Prod.ext hread rfl)) rfl rfl hstill
      ⟨hzero, halive, hgeneration, _, h.stored, hsource⟩ rfl rfl
  | read generation modified source => exact h.compile hserves hstage
  | compiled generation held => exact h.publish hstage
  | published generation => exact h.advance hstage
  | advanced generation =>
    rw [hstage] at hfits
    -- nobody has asked for a reload
    have hsettle : s.focus.settle.entry = s.focus.entry := by
      show { s.focus.entry with reloadRequested := false } = s.focus.entry
      rw [← h.unmarked]
    exact h.idle hstage rfl hsettle rfl h.stored hfits rfl rfl
  | settled generation =>
    rw [hstage] at hfits
    obtain ⟨rfl, -⟩ := hfits
    exact h.idle hstage rfl rfl rfl h.stored trivial rfl rfl
  | ready => exact h.conclude hserves hstage
  | answered answer =>
    rw [hstage] at hfits
    exact h.idle hstage rfl rfl rfl h.stored hfits rfl rfl

/-- A step of the teardown. Where it tells the entry that it is taken down it has the lock. -/
theorem putEnding {ending : Ending (Nat × α)} {focus : Focus σ (κ × Ledger) (Nat × α)}
    (henter : ending.locks = true → s.ending.locks = true ∨ s.holder = none)
    (hown : s.ending.locks = true ∨ focus.entry.destroyed = s.focus.entry.destroyed)
    (hidentity : focus.entry.identity = s.focus.entry.identity)
    (hunmarked : focus.entry.reloadRequested = false)
    (hgeneration : focus.entry.generation = s.focus.entry.generation)
    (hdead : s.focus.entry.destroyed = true → focus.entry.destroyed = true)
    (hthere : there focus.backend.store)
    (hworks : ∀ held, focus.entry.held = some held → works held.artifact.2)
    (htold : focus.entry.destroyed = ending.told)
    (hemptied : ending.emptied = true → focus.entry.held = none)
    (hlife : Life ⟨focus.entry.number, s.due, ending.taken?, focus.entry.generation,
      focus.entry.destroyed, focus.backend.compiler.2⟩) :
    Safe setup identity there works errands
      { s with
        focus := focus
        ending := ending
        holder := Party.teardown.passLock s.ending.locks ending.locks s.holder } where
  guarded := h.guarded.tearDown focus henter
  named := hidentity.trans h.named
  unmarked := hunmarked
  stored := hthere
  working := hworks
  fits m := by
    have hfits := h.fits m
    rcases hown with hlocks | hsame
    · -- the requests are outside of the lock
      have hoff : (s.stage m).locks = false := by
        rw [← Bool.not_eq_true]
        intro hon
        have hteardown : s.holder = some .teardown := (h.guarded .teardown).mp hlocks
        have hm : s.holder = some (.request m) := (h.guarded (.request m)).mp hon
        rw [hteardown] at hm
        cases hm
      exact hfits.mono hoff (Nat.le_of_eq hgeneration.symm) hdead
    · -- what a request knows does not depend on what is held
      exact hfits.congr hgeneration hsame
  told := htold
  emptied := hemptied
  life := by
    unfold picture
    rw [due_tearDown h.guarded henter]
    exact hlife

/-- Where the teardown has to wait nothing changes, so only the step that it takes matters. -/
theorem of_ending {before ending : Ending (Nat × α)} {focus : Focus σ (κ × Ledger) (Nat × α)}
    (hending : s.ending = before) (hnext : before.next setup.numbered s.focus = (ending, focus))
    (hput : (ending.locks = true → s.ending.locks = true ∨ s.holder = none) →
      Safe setup identity there works errands
        { s with
          focus := focus
          ending := ending
          holder := Party.teardown.passLock s.ending.locks ending.locks s.holder }) :
    Safe setup identity there works errands (s.tearDown setup.numbered) := by
  rcases tearDown_cases (hending ▸ hnext) with htear | ⟨henter, htear⟩
  · rw [htear]
    exact h
  · rw [htear]
    exact hput henter

/-- **What every step of the teardown keeps.** -/
theorem tearDown : Safe setup identity there works errands (s.tearDown setup.numbered) := by
  have htold := h.told
  have hemptied := h.emptied
  have hlife := h.life
  have hlocked := due_locked h.guarded
  cases hending : s.ending with
  | pending =>
    rw [hending] at htold
    unfold picture at hlife
    rw [hending] at hlife
    refine h.of_ending hending rfl fun henter => ?_
    exact h.putEnding henter (.inr rfl) rfl h.unmarked rfl id h.stored h.working htold
      (fun hno => by cases hno) hlife
  | entered =>
    -- the entry is told that it is dead
    rw [hending] at hlocked
    replace hlife := hlife.flag (hlocked rfl)
    unfold picture at hlife
    rw [hending] at hlife
    refine h.of_ending hending rfl fun henter => ?_
    exact h.putEnding henter (.inl (by rw [hending]; rfl)) rfl h.unmarked rfl (fun _ => rfl)
      h.stored h.working rfl (fun hno => by cases hno) hlife
  | flagged =>
    -- what is held is taken out, under the same lock
    rw [hending] at hlocked htold
    have htaken : s.picture.taken = none := by
      show s.ending.taken? = none
      rw [hending]
      rfl
    refine h.of_ending hending rfl fun henter => ?_
    exact h.putEnding henter (.inr rfl) rfl h.unmarked rfl id h.stored (fun _ hno => by cases hno)
      htold (fun _ => rfl) (hlife.take (hlocked rfl) htold htaken)
  | taken held =>
    rw [hending] at htold hemptied
    cases held with
    | none =>
      unfold picture at hlife
      rw [hending] at hlife
      refine h.of_ending hending rfl fun henter => ?_
      exact h.putEnding henter (.inr rfl) rfl h.unmarked rfl id h.stored h.working htold
        (fun _ => hemptied rfl) hlife
    | some held =>
      have htaken : s.picture.taken = some held.artifact.1 := by
        show s.ending.taken? = _
        rw [hending]
        rfl
      refine h.of_ending hending rfl fun henter => ?_
      exact h.putEnding henter (.inr rfl) rfl h.unmarked rfl id h.stored h.working htold
        (fun _ => hemptied rfl) (hlife.release htaken _)
  | done result =>
    rw [hending] at htold hemptied
    unfold picture at hlife
    rw [hending] at hlife
    refine h.of_ending hending rfl fun henter => ?_
    exact h.putEnding henter (.inr rfl) rfl h.unmarked rfl id h.stored h.working htold
      (fun _ => hemptied rfl) hlife

/-- What every order of the moves keeps, as long as nobody asks for a reload. -/
theorem run (hprod : setup.options.development = false)
    (hserves : setup.Serves identity there works) {moves : List Move} (hmark : .mark ∉ moves) :
    Safe setup identity there works errands (s.run setup.numbered errands moves) := by
  induction moves generalizing s with
  | nil => exact h
  | cons move moves ih =>
    obtain ⟨hmove, hmoves⟩ := not_or.mp fun hor => hmark (List.mem_cons.mpr hor)
    refine ih ?_ hmoves
    cases move with
    | go n => exact h.go hprod hserves n
    | tearDown => exact h.tearDown
    | mark => exact absurd rfl hmove

end

end Safe

end

/-- Who has not been turned away by the check would have kept the teardown from its end. -/
theorem Safe.over {setup : Setup σ κ α} {identity : Identity} {there : σ → Prop}
    {works : α → Prop} {errands : Nat → Errand} {s : Rush σ (κ × Ledger) (Nat × α)}
    {result : Except String Unit} (h : Safe setup identity there works errands s)
    (hdone : s.ending = .done result) : s.Over := by
  have hdead : s.focus.entry.destroyed = true := by
    rw [h.told, hdone]
    rfl
  refine ⟨⟨result, hdone⟩, hdead, h.emptied (by rw [hdone]; rfl), fun n hlocks => ?_⟩
  have hfits := h.fits n
  -- of those under the lock only one that has just entered may not know yet
  cases hstage : s.stage n with
  | entered generation => exact ⟨generation, rfl⟩
  | called | observed | waiting | ready | answered =>
    -- these stages have no lock
    rw [hstage] at hlocks
    cases hlocks
  | alive | published | advanced | settled =>
    -- these stages know that the entry is alive
    rw [hstage] at hfits
    obtain ⟨-, halive⟩ := hfits
    rw [hdead] at halive
    cases halive
  | current | dated | read | compiled =>
    rw [hstage] at hfits
    obtain ⟨-, halive, -⟩ := hfits
    rw [hdead] at halive
    cases halive

/-- **The first compilation and the teardown.** In production, an entry is made for a source that is
there and works; any number of requests come to it, it may be taken down, and nobody asks for a
reload. -/
theorem compiled_once {setup : Setup σ κ α} {identity : Identity} {there : σ → Prop}
    {works : α → Prop} (hprod : setup.options.development = false)
    (hserves : setup.Serves identity there works) {store : σ} (hthere : there store)
    (isErrorPage : Bool) (compiler : κ) (reloads : UInt64) (log : List Log.Event)
    (errands : Nat → Errand) {moves : List Move} (hmark : .mark ∉ moves) :
    let s := (start ⟨.fresh identity isErrorPage, ⟨store, (compiler, []), reloads, log⟩⟩ :
      Rush σ (κ × Ledger) (Nat × α)).run setup.numbered errands moves
    -- the ledger is only kept: without it everything goes the same way
    View.numbers.rush s =
      (start ⟨.fresh identity isErrorPage, ⟨store, compiler, reloads, log⟩⟩).run setup errands
        moves ∧
    -- at most one artifact is ever made
    s.ledger.made.length ≤ 1 ∧
    -- whoever has been answered got what it came for, or was told that there is a teardown
    (∀ n answer, s.stage n = .answered answer →
      answer = .error .shutDown ∨ (errands n).Satisfied setup identity works answer) ∧
    -- and everyone can be answered
    (∀ n, ∃ later answer, .mark ∉ later ∧
      (s.run setup.numbered errands later).stage n = .answered answer) ∧
    -- nothing is executed or released after it was released
    s.ledger.Pairwise Deed.Spares ∧
    -- after the teardown nothing is held any more, what was made has been released once, and
    -- nothing is made, executed or released again
    (∀ result, s.ending = .done result →
      s.ledger.released = s.ledger.made ∧
      ∀ later, (s.run setup.numbered errands later).focus.entry.held = none ∧
        (s.run setup.numbered errands later).ledger = s.ledger) ∧
    -- a request and a teardown that nobody interrupts are one call of `service` and of `destroy`
    (s.holder = none →
      (∀ n, s.stage n = .called → ∃ k,
        let r := (service setup.numbered (errands n).now (errands n).request (errands n).precompile
          (errands n).error).run s.focus
        s.run setup.numbered errands (List.replicate k (.go n)) =
          s.put n (.answered r.1) r.2 none) ∧
      (s.ending = .pending → s.run setup.numbered errands (List.replicate 4 .tearDown) =
        { s with
          focus := (s.focus.destroy setup.numbered).2
          ending := .done (s.focus.destroy setup.numbered).1 })) := by
  intro s
  have h : Safe setup identity there works errands s :=
    (Safe.start isErrorPage hthere compiler reloads log).run hprod hserves hmark
  refine ⟨?_, h.life.length_made, fun n answer hanswer => ?_,
    h.guarded.exists_answered setup.numbered errands, h.life.spares, fun result hdone => ?_,
    fun hfree => ⟨fun n hcalled => alone hcalled hfree, fun hpending => tornDown hpending hfree⟩⟩
  · exact (run_view errands (View.numbers_shows setup) moves _).symm
  · have hfits := h.fits n
    rw [hanswer] at hfits
    exact hfits
  · have hover : s.Over := h.over hdone
    refine ⟨h.life.released_eq (number_of_unheld hover.unheld) ?_ hover.dead, fun later => ?_⟩
    · show s.ending.taken? = none
      rw [hdone]
      rfl
    · obtain ⟨hunheld, hcompiler⟩ := hover.run later
      exact ⟨hunheld, congrArg Prod.snd hcompiler⟩

/-- A request for the page, and one for its compilation only. -/
def racers (n : Nat) : Errand := ⟨0, .forPath "/p", n == 1, none⟩

/-- Both requests find nothing and wait for the lock. The first compiles, the second finds that
done, and before the first executes the artifact the entry is taken down. -/
def race : List Move :=
  [.go 0, .go 0, .go 1, .go 1] ++ List.replicate 10 (.go 0) ++ List.replicate 4 (.go 1) ++
    List.replicate 4 .tearDown ++ [.go 0]

/-- Sources in memory, echoed, in production. -/
def produced : Setup Memory Echo.Counts String := ⟨Memory.store, Echo.compiler, ⟨false, 0⟩⟩

/-- What the race comes to. -/
def raced : Rush Memory (Echo.Counts × Ledger) (Nat × String) :=
  (start ⟨.fresh page false, ⟨Memory.empty.put page "v1", (.zero, []), 0, []⟩⟩).run
    produced.numbered racers race

/-- The race is one of the runs: one request is refused, the other one is answered, and what was
made is released. -/
theorem compiled_once_raced :
    produced.options.development = false ∧
      produced.Serves page (· = Memory.empty.put page "v1") (fun _ => True) ∧
      Move.mark ∉ race ∧
      raced.stage 0 = .answered (.error .shutDown) ∧ raced.stage 1 = .answered (.ok .compiled) ∧
      raced.ending = .done (.ok ()) ∧
      raced.ledger.made.length ≤ 1 ∧ raced.ledger.released = raced.ledger.made := by
  have hserves : produced.Serves page (· = Memory.empty.put page "v1") (fun _ => True) :=
    Echo.serves rfl (by decide) _
  have hmark : Move.mark ∉ race := by decide
  have hdone : raced.ending = .done (.ok ()) := rfl
  obtain ⟨-, hmade, -, -, -, hover, -⟩ :=
    compiled_once rfl hserves rfl false .zero 0 [] racers hmark
  exact ⟨rfl, hserves, hmark, rfl, rfl, hdone, hmade, (hover _ hdone).1⟩

end Rush

end Entry

end TemplateServer
