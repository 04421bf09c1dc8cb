import TemplateServer.Compiler.Echo
import TemplateServer.Proofs.Entry.Refresh
import TemplateServer.Proofs.Source.Timed

/-!
# What an entry holds of a changing source

An entry asks when its source was changed before it reads it, and the source may change between the
two questions. So what is held may be newer than the time that is recorded for it, and it is never
older: `Matches` says how an artifact and its recorded time stand to the store.

* A change that is still to come is newer than the recorded time.
* The source that is there is not older than the recorded time, and if it has just that time, the
  artifact is its text.

`Matches` holds after a compilation wherever the changes fell, and survives every later change of
the store (`Matches.advance`). When the store has settled, a look therefore finds a newer time or
the text that is held, which makes the entry answer as if it had compiled afresh
(`service_settled`).
-/

namespace TemplateServer

/-- What is answered about an identity without any cache, by the texts that there are. -/
def Contents.serve (contents : Contents) (identity : Identity) (precompile : Bool)
    (error : Option String) : Except Failure Response :=
  match contents identity with
  | none => .error (.sourceNotFound identity.text)
  | some text =>
    if text = Echo.refusedSource then
      .error (.compile identity.text "rejected by test compiler")
    else if precompile then .ok .compiled
    else
      match error with
      | none => .ok (.html text)
      | some error => .ok (.html (text ++ "\n" ++ error))

/-- Sources with times, whose artifacts echo them. -/
def Echo.over {σ : Type} (v : TimedStore σ) (options : Options) : Setup σ Echo.Counts String :=
  ⟨v.store, Echo.compiler, options⟩

/-- Every request looks at its source. -/
def Options.eager : Options := ⟨true, 0⟩

namespace Entry

variable {σ : Type} {v : TimedStore σ}

/-- How an artifact and the time recorded with it stand to the store. -/
structure Matches (v : TimedStore σ) (identity : Identity) (s : σ) (held : Held String) : Prop where
  accepted : held.artifact ≠ Echo.refusedSource
  past : ∀ {time later}, held.modified = some time → v.Upcoming s later → time < later
  order : ∀ {time text current}, held.modified = some time →
    v.find? identity s = some (text, current) → time ≤ current
  same : ∀ {time text}, held.modified = some time →
    v.find? identity s = some (text, time) → held.artifact = text

/-- Changes of the store leave what is held right, or show that it is old. -/
theorem Matches.advance {identity : Identity} {s s' : σ} {held : Held String}
    (h : Matches v identity s held) (hadv : v.Advances s s') : Matches v identity s' held where
  accepted := h.accepted
  past hmod hup := h.past hmod (hadv.upcoming hup)
  -- a source that is there now was there before, or came later than the recorded time
  order hmod hfind := by
    rcases hadv.found hfind with hfind | hup
    · exact h.order hmod hfind
    · exact Nat.le_of_lt (h.past hmod hup)
  same hmod hfind := by
    rcases hadv.found hfind with hfind | hup
    · exact h.same hmod hfind
    · exact absurd (h.past hmod hup) (Nat.lt_irrefl _)

/-- What was compiled from a source that was read after its time was asked for is right, wherever
the changes fell. -/
theorem matches_of_read {identity : Identity} {s s' : σ} {text : String} {time : Nat}
    (hs : v.Valid s) (hadv : v.Advances s s') (hread : v.find? identity s' = some (text, time))
    (haccepted : text ≠ Echo.refusedSource) :
    Matches v identity s' ⟨text, (v.find? identity s).map (·.2)⟩ where
  accepted := haccepted
  past hmod hup := by
    obtain ⟨⟨text', time'⟩, hfind, rfl⟩ := Option.map_eq_some_iff.mp hmod
    exact v.newer hs hfind (hadv.upcoming hup)
  order hmod hfind' := by
    obtain ⟨⟨text', time'⟩, hfind, rfl⟩ := Option.map_eq_some_iff.mp hmod
    -- the source was there already, or was put since and is newer
    rcases hadv.found hfind' with hold | hup
    · rw [hfind] at hold
      obtain ⟨-, rfl⟩ := Prod.mk.inj (Option.some.inj hold)
      exact Nat.le_refl _
    · exact Nat.le_of_lt (v.newer hs hfind hup)
  same _ hfind' := by
    rw [hread] at hfind'
    exact (Prod.mk.inj (Option.some.inj hfind')).1

/-- Where the source is not newer than the recorded time, the artifact is its text. -/
theorem Matches.artifact_eq {identity : Identity} {s : σ} {held : Held String} {text : String}
    {current : Nat} (h : Matches v identity s held)
    (hfind : v.find? identity s = some (text, current))
    (hold : held.modified.all (fun earlier => earlier < current) = false) :
    held.artifact = text := by
  obtain ⟨time, hmod, hnot⟩ := (Option.all_eq_false _ _).mp hold
  have hle : current ≤ time := Nat.le_of_not_lt (of_decide_eq_false hnot)
  have heq : time = current := Nat.le_antisymm (h.order hmod hfind) hle
  exact h.same (heq ▸ hmod) hfind

/-- An entry that was not taken down, and holds nothing or what `Matches` the store. -/
structure Faithful (v : TimedStore σ) (e : Entry String) (s : σ) : Prop where
  alive : e.destroyed = false
  holds : ∀ {held}, e.held = some held → Matches v e.identity s held

theorem Faithful.fresh (identity : Identity) (isErrorPage : Bool) (s : σ) :
    Faithful v (fresh identity isErrorPage) s := ⟨rfl, fun hheld => by cases hheld⟩

theorem Faithful.advance {e : Entry String} {s s' : σ} (h : Faithful v e s)
    (hadv : v.Advances s s') : Faithful v e s' :=
  ⟨h.alive, fun hheld => (h.holds hheld).advance hadv⟩

/-- A request for a reload touches nothing of what is held. -/
theorem Faithful.marked {e : Entry String} {s : σ} (h : Faithful v e s) :
    Faithful v e.markForReload s := ⟨h.alive, h.holds⟩

/-- The time of the last look does not matter. -/
theorem Faithful.looked {e : Entry String} {s : σ} (h : Faithful v e s) (last : Option Nat) :
    Faithful v { e with lastCheck := last } s := ⟨h.alive, h.holds⟩

section

variable {options : Options} {now : Nat} {s s' : Focus σ Echo.Counts String}

/-- The store of an entry has moved on, and the entry has stayed itself and is faithful to it. -/
structure Kept (v : TimedStore σ) (s s' : Focus σ Echo.Counts String) : Prop where
  moves : v.Moves s.backend.store s'.backend.store
  identity : s'.entry.identity = s.entry.identity
  faithful : Faithful v s'.entry s'.backend.store

theorem Kept.of_looked {last : Option Nat} (hs : v.Valid s.backend.store)
    (h : Faithful v s.entry s.backend.store) (hmoves : v.Moves s.backend.store s'.backend.store)
    (hentry : s'.entry = { s.entry with lastCheck := last }) : Kept v s s' where
  moves := hmoves
  identity := by rw [hentry]
  faithful := by
    rw [hentry]
    exact (h.advance (hmoves.advances hs)).looked last

/-- Finding a reason to compile at most asks for the time of the source. -/
theorem NeedsCompile.moves (h : NeedsCompile (Echo.over v options) now s s') :
    v.Moves s.backend.store s'.backend.store := by
  cases h with
  | unheld => exact .refl
  | requested => exact .refl
  | newer _ _ _ hmod _ =>
    obtain ⟨-, rfl⟩ := Prod.mk.inj hmod
    exact .once _

theorem NeedsCompile.kept (hs : v.Valid s.backend.store) (h : Faithful v s.entry s.backend.store)
    (hneed : NeedsCompile (Echo.over v options) now s s') : Kept v s s' := by
  obtain ⟨last, hentry⟩ := hneed.entry_eq
  exact .of_looked hs h hneed.moves hentry

/-- What the echoing compiler answers. -/
theorem compile_eq {identity : Identity} {source : String} {n n' : Echo.Counts}
    {result : Except Failure String}
    (h : Echo.compiler.compile identity source n = (result, n')) :
    result = if source = Echo.refusedSource then
      .error (.compile identity.text "rejected by test compiler") else .ok source := by
  unfold Echo.compiler at h
  dsimp only at h
  split at h
  next hrefused => rw [if_pos hrefused]; exact (Prod.mk.inj h).1.symm
  next haccepted => rw [if_neg haccepted]; exact (Prod.mk.inj h).1.symm

/-- A source that could be read is there. -/
theorem find?_of_read {identity : Identity} {store store' : σ} {text : String}
    (h : v.store.read identity store = (.ok text, store')) :
    ∃ time, v.find? identity (v.step store) = some (text, time) := by
  have htext : v.textOf identity (v.step store) = .ok text := (Prod.mk.inj h).1
  unfold TimedStore.textOf at htext
  split at htext
  next found time hfind =>
    cases htext
    exact ⟨time, hfind⟩
  next => cases htext

/-- A refresh keeps an entry faithful, whatever the store does meanwhile. -/
theorem Refreshed.kept {result : Except Failure Unit} (hs : v.Valid s.backend.store)
    (h : Faithful v s.entry s.backend.store)
    (href : Refreshed (Echo.over v options) now s result s') : Kept v s s' := by
  cases href with
  -- what is held answers without a look
  | notDue => exact ⟨.refl, rfl, h⟩
  | current _ _ _ hmod _ =>
    obtain ⟨-, rfl⟩ := Prod.mk.inj hmod
    exact .of_looked hs h (.once _) rfl
  | undated _ _ _ hmod hhas =>
    -- neither question changes anything but the store
    obtain ⟨-, rfl⟩ := Prod.mk.inj hmod
    obtain ⟨-, rfl⟩ := Prod.mk.inj hhas
    exact .of_looked hs h (.step (.once _)) rfl
  | vanished _ _ _ hmod hhas =>
    obtain ⟨-, rfl⟩ := Prod.mk.inj hmod
    obtain ⟨-, rfl⟩ := Prod.mk.inj hhas
    exact .of_looked hs h (.step (.once _)) rfl
  -- the entry has only looked
  | destroyed hneed hdead => exact hneed.kept hs h
  | unreadable hneed _ hmod hread =>
    obtain ⟨last, hentry⟩ := hneed.entry_eq
    obtain ⟨-, rfl⟩ := Prod.mk.inj hmod
    obtain ⟨-, rfl⟩ := Prod.mk.inj hread
    exact .of_looked hs h (.step (.step hneed.moves)) hentry
  | refused hneed _ hmod hread _ =>
    obtain ⟨last, hentry⟩ := hneed.entry_eq
    obtain ⟨-, rfl⟩ := Prod.mk.inj hmod
    obtain ⟨-, rfl⟩ := Prod.mk.inj hread
    exact .of_looked hs h (.step (.step hneed.moves)) hentry
  | @compiled s₁ modified store store' source artifact compiler hneed _ hmod hread hcomp =>
    -- up to the reading the entry is the one that was faithful before
    have hkept := hneed.kept hs h
    have hvalid := hkept.moves.valid hs
    obtain ⟨time, hfind⟩ := find?_of_read hread
    obtain ⟨rfl, rfl⟩ := Prod.mk.inj hmod
    obtain ⟨-, rfl⟩ := Prod.mk.inj hread
    have hresult := compile_eq hcomp
    have haccepted : source ≠ Echo.refusedSource := by
      intro hrefused
      rw [if_pos hrefused] at hresult
      cases hresult
    rw [if_neg haccepted] at hresult
    cases hresult
    constructor
    · rw [Focus.succeed_store]
      exact .step (.step hneed.moves)
    · rw [Focus.succeed_entry]
      exact hneed.identity_eq
    · rw [Focus.succeed_entry, Focus.succeed_store]
      refine ⟨hkept.faithful.alive, fun hheld => ?_⟩
      cases hheld
      -- the time was asked for one step before the text was read
      exact matches_of_read (v.valid_step hvalid) (v.advances_step (v.valid_step hvalid)) hfind
        haccepted

/-- So does what follows the refresh, which asks nothing of the store. -/
theorem Serviced.kept {request : Request} {precompile : Bool} {error : Option String}
    {answer : Except Failure Response} (hs : v.Valid s.backend.store)
    (h : Faithful v s.entry s.backend.store)
    (hserv : Serviced (Echo.over v options) now request precompile error s answer s') :
    Kept v s s' := by
  cases hserv with
  | failed hr => exact (Refreshed.of_run _ _ hr).kept hs h
  | precompiled hr =>
    have hkept := (Refreshed.of_run _ _ hr).kept hs h
    exact ⟨hkept.moves, hkept.identity, hkept.faithful⟩
  | unheld hr => exact (Refreshed.of_run _ _ hr).kept hs h
  | executed hr =>
    have hkept := (Refreshed.of_run _ _ hr).kept hs h
    exact ⟨hkept.moves, hkept.identity, hkept.faithful⟩

/-! ## Once the store has settled -/

/-- What a refresh comes to if the texts are `contents`: a failure, or that the text is held. -/
def Settles (contents : Contents) (identity : Identity) (result : Except Failure Unit)
    (held : Option (Held String)) : Prop :=
  match contents identity with
  | none => result = .error (.sourceNotFound identity.text)
  | some text =>
    if text = Echo.refusedSource then
      result = .error (.compile identity.text "rejected by test compiler")
    else result = .ok () ∧ ∃ modified, held = some ⟨text, modified⟩

theorem Settles.absent {contents : Contents} {identity : Identity} {held : Option (Held String)}
    (h : contents identity = none) :
    Settles contents identity (.error (.sourceNotFound identity.text)) held := by
  unfold Settles
  rw [h]

theorem Settles.present {contents : Contents} {identity : Identity} {text : String}
    {modified : Option Nat} (h : contents identity = some text)
    (haccepted : text ≠ Echo.refusedSource) :
    Settles contents identity (.ok ()) (some ⟨text, modified⟩) := by
  unfold Settles
  rw [h]
  dsimp only
  rw [if_neg haccepted]
  exact ⟨rfl, modified, rfl⟩

theorem checkDue_eager (e : Entry String) : e.checkDue .eager now = true := by
  unfold checkDue Options.eager
  cases e.lastCheck with
  | none => rfl
  | some last => simp

/-- Reading from a settled store answers the text that there is. -/
theorem read_settled {identity : Identity} {store store' store'' : σ}
    {answer : Except Failure String}
    (hset : v.Settled store) (hmoves : v.Moves store store')
    (hread : v.store.read identity store' = (answer, store'')) :
    answer = match v.contents store identity with
      | some text => .ok text
      | none => .error (.sourceNotFound identity.text) := by
  have hanswer : v.textOf identity (v.step store') = answer := (Prod.mk.inj hread).1
  rw [← hanswer, ← hmoves.step.contents hset]
  unfold TimedStore.textOf Chronicle.contents
  cases v.find? identity (v.step store') <;> rfl

/-- A compilation that was needed read the text that there is. -/
theorem text_of_read {s₁ : Focus σ Echo.Counts String} {store : σ} {source : String}
    (hset : v.Settled s.backend.store) (hneed : NeedsCompile (Echo.over v options) now s s₁)
    (hread : v.store.read s₁.entry.identity (v.step s₁.backend.store) = (.ok source, store)) :
    v.contents s.backend.store s.entry.identity = some source := by
  have hanswer := read_settled hset (.step hneed.moves) hread
  rw [hneed.identity_eq] at hanswer
  cases htext : v.contents s.backend.store s.entry.identity with
  | none => rw [htext] at hanswer; cases hanswer
  | some text => rw [htext] at hanswer; cases hanswer; rfl

/-- Over a settled store a refresh comes to what the texts say, unless no look is due. -/
theorem Refreshed.settles_or_kept {result : Except Failure Unit} (hset : v.Settled s.backend.store)
    (h : Faithful v s.entry s.backend.store)
    (href : Refreshed (Echo.over v options) now s result s') :
    (result = .ok () ∧ s' = s ∧ s.entry.held.isSome = true ∧
      s.entry.checkDue options now = false) ∨
    Settles (v.contents s.backend.store) s.entry.identity result s'.entry.held := by
  have hfind {store : σ} (hmoves : v.Moves s.backend.store store) :=
    hmoves.find? hset s.entry.identity
  cases href with
  | notDue hheld _ hdue => exact .inl ⟨rfl, rfl, by rw [hheld]; rfl, hdue⟩
  | @current held time store hheld _ _ hmod hold =>
    -- what is held is kept only if it is the text that is there
    have htime : (v.find? s.entry.identity (v.step s.backend.store)).map (·.2) = some time :=
      (Prod.mk.inj hmod).1
    rw [hfind (.once _)] at htime
    obtain ⟨⟨text, _⟩, hthere, rfl⟩ := Option.map_eq_some_iff.mp htime
    have hmatch := h.holds hheld
    have hcontents : v.contents s.backend.store s.entry.identity = some held.artifact := by
      show (v.find? s.entry.identity s.backend.store).map (·.1) = _
      rw [hthere, hmatch.artifact_eq hthere hold]
      rfl
    refine .inr ?_
    show Settles _ _ _ s.entry.held
    rw [hheld]
    exact .present hcontents hmatch.accepted
  | undated _ _ _ hmod hhas =>
    -- a settled store does not answer that a source is there which has no time
    have htime := (Prod.mk.inj hmod).1
    have hthere := (Prod.mk.inj hhas).1
    rw [← (Prod.mk.inj hmod).2, hfind (.step (.once _))] at hthere
    rw [hfind (.once _)] at htime
    rw [Option.map_eq_none_iff.mp htime] at hthere
    cases hthere
  | vanished _ _ _ hmod hhas =>
    -- the store answers that there is nothing, and so say the texts
    have htime := (Prod.mk.inj hmod).1
    rw [hfind (.once _)] at htime
    refine .inr (.absent ?_)
    show (v.find? s.entry.identity s.backend.store).map (·.1) = none
    rw [Option.map_eq_none_iff.mp htime]
    rfl
  | destroyed hneed hdead =>
    -- an entry that is faithful was not taken down
    rw [hneed.destroyed_eq, h.alive] at hdead
    cases hdead
  | unreadable hneed _ hmod hread =>
    -- the only sources that cannot be read are those that are not there
    obtain ⟨-, rfl⟩ := Prod.mk.inj hmod
    have hanswer := read_settled hset (.step hneed.moves) hread
    rw [hneed.identity_eq] at hanswer
    cases htext : v.contents s.backend.store s.entry.identity with
    | none =>
      rw [htext] at hanswer
      cases hanswer
      exact .inr (.absent htext)
    | some text =>
      rw [htext] at hanswer
      cases hanswer
  | @refused s₁ _ _ _ source _ _ hneed _ hmod hread hcomp =>
    -- the text that was read is the one that is refused
    obtain ⟨-, rfl⟩ := Prod.mk.inj hmod
    have htext := text_of_read hset hneed hread
    have hresult := compile_eq hcomp
    by_cases hrefused : source = Echo.refusedSource
    · rw [if_pos hrefused, hneed.identity_eq] at hresult
      cases hresult
      refine .inr ?_
      unfold Settles
      rw [htext]
      exact (if_pos hrefused).mpr rfl
    · rw [if_neg hrefused] at hresult
      cases hresult
  | @compiled s₁ _ _ _ source _ _ hneed _ hmod hread hcomp =>
    -- the text that was read is not refused, and is held now
    obtain ⟨-, rfl⟩ := Prod.mk.inj hmod
    have htext := text_of_read hset hneed hread
    have hresult := compile_eq hcomp
    by_cases hrefused : source = Echo.refusedSource
    · rw [if_pos hrefused] at hresult
      cases hresult
    · rw [if_neg hrefused] at hresult
      cases hresult
      rw [Focus.succeed_entry]
      exact .inr (.present htext hrefused)

/-- A refresh that looks at a settled store comes to what its texts say. -/
theorem Refreshed.settles {result : Except Failure Unit} (hset : v.Settled s.backend.store)
    (h : Faithful v s.entry s.backend.store)
    (href : Refreshed (Echo.over v .eager) now s result s') :
    Settles (v.contents s.backend.store) s.entry.identity result s'.entry.held := by
  rcases href.settles_or_kept hset h with ⟨-, -, -, hdue⟩ | hsettles
  · -- an eager entry always looks
    rw [checkDue_eager] at hdue
    cases hdue
  · exact hsettles

theorem execute_eq (text : String) (identity : Identity) (request : Request) (error : Option String)
    (n : Echo.Counts) :
    ((Echo.compiler.execute text (.ofRequest identity request error) n).1).map Response.html =
      match error with
      | none => .ok (.html text)
      | some error => .ok (.html (text ++ "\n" ++ error)) := by
  cases error with
  | none => rfl
  | some error => rfl

/-- **An entry hides its cache.** Over a settled store a request that looks at its source answers
what the texts say, whatever the entry has been through. -/
theorem service_settled (request : Request) (precompile : Bool) (error : Option String)
    (hset : v.Settled s.backend.store) (h : Faithful v s.entry s.backend.store) :
    ((service (Echo.over v .eager) now request precompile error).run s).1 =
      (v.contents s.backend.store).serve s.entry.identity precompile error := by
  rcases hr : (refresh (Echo.over v .eager) now).run s with ⟨result, s'⟩
  have hsettles : Settles (v.contents s.backend.store) s.entry.identity result s'.entry.held :=
    (Refreshed.of_run _ _ hr).settles hset h
  unfold Settles at hsettles
  unfold Contents.serve
  cases htext : v.contents s.backend.store s.entry.identity with
  | none =>
    rw [htext] at hsettles
    rw [service_failed (hsettles ▸ hr)]
  | some text =>
    rw [htext] at hsettles
    dsimp only at hsettles ⊢
    by_cases hrefused : text = Echo.refusedSource
    · rw [if_pos hrefused] at hsettles ⊢
      rw [service_failed (hsettles ▸ hr)]
    · rw [if_neg hrefused] at hsettles ⊢
      obtain ⟨rfl, modified, hheld⟩ := hsettles
      cases precompile with
      | true => rw [if_pos rfl, service_precompiled hr]
      | false =>
        rw [if_neg (by simp), service_executed hr hheld rfl]
        exact execute_eq text _ request error _

end

end Entry

end TemplateServer
