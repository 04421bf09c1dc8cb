import TemplateServer.Proofs.Looks

/-!
# How old an answer can be

Between two looks an entry answers from what it holds, whatever the source is by then. What it holds
is no older than its last look: it was the text of the source when it was compiled, or when a look
found that nothing had changed, and a reload that was asked for compiles without a look, which makes
it newer still. `Recent` says this of an entry, with `seen` for the texts that there were when
requests came, and `Refreshed.recent` that a refresh keeps it. A look is not due only within the
check interval after the last one, so an answer is the text of the source, or one that it had at a
request less than the interval ago.

This is so as long as every source compiles and none is removed: an entry that has looked and failed
to compile would answer what it holds until the next look is due.
-/

namespace TemplateServer

/-- The texts after the changes of a session. -/
def textsAfter (steps : List (Step Edit)) : Contents :=
  steps.foldl (fun contents step => (contents.step none Edit.onContents step).2) fun _ => none

/-- The last step is the last one to change the texts. -/
theorem textsAfter_concat (steps : List (Step Edit)) (step : Step Edit) :
    textsAfter (steps ++ [step]) = ((textsAfter steps).step none Edit.onContents step).2 := by
  unfold textsAfter
  rw [List.foldl_append]
  rfl

/-- A request came at this time when the source of an identity had this text. -/
def SeenAt (steps : List (Step Edit)) (identity : Identity) (text : String) (time : Nat) : Prop :=
  ∃ early step late, steps = early ++ step :: late ∧ step.time? = some time ∧
    textsAfter early identity = some text

/-- What was seen stays seen. -/
theorem SeenAt.concat {steps : List (Step Edit)} {identity : Identity} {text : String} {time : Nat}
    (h : SeenAt steps identity text time) (step : Step Edit) :
    SeenAt (steps ++ [step]) identity text time := by
  obtain ⟨early, request, late, rfl, htime, htext⟩ := h
  exact ⟨early, request, late ++ [step], by simp, htime, htext⟩

/-- What there is at a step with a time is seen then. -/
theorem seenAt_concat {steps : List (Step Edit)} {step : Step Edit} {identity : Identity}
    {text : String} {time : Nat} (htime : step.time? = some time)
    (htext : textsAfter steps identity = some text) :
    SeenAt (steps ++ [step]) identity text time := ⟨steps, step, [], rfl, htime, htext⟩

/-- Nothing is seen ahead of the clock. -/
theorem SeenAt.le_clock {steps : List (Step Edit)} {identity : Identity} {text : String}
    {time : Nat} (h : SeenAt steps identity text time) (htime : Chronological steps) :
    time ≤ clock steps := by
  obtain ⟨early, request, late, rfl, hrequest, -⟩ := h
  exact htime.le_clock (by simp) hrequest

/-- The step leaves every source there, and puts in only what compiles. -/
def Step.Adds : Step Edit → Prop
  | .change (.put _ text) => text ≠ Echo.refusedSource
  | .change (.remove _) => False
  | _ => True

namespace Entry

variable {interval now : Nat} {seen seen' : String → Nat → Prop} {e : Entry String}
  {s s' : Focus Memory Echo.Counts String} {text : String}

/-- What is held was seen at its last look or later. -/
def Recent (seen : String → Nat → Prop) (e : Entry String) : Prop :=
  ∀ held, e.held = some held →
    ∃ time, seen held.artifact time ∧ ∀ last, e.lastCheck = some last → last ≤ time

/-- What is recent stays so if more is seen. -/
theorem Recent.mono (h : Recent seen e) (hseen : ∀ {text time}, seen text time → seen' text time) :
    Recent seen' e := by
  intro held hheld
  obtain ⟨time, hold, hlast⟩ := h held hheld
  exact ⟨time, hseen hold, hlast⟩

/-- An answer is the text that there is, or one that was seen within the interval. -/
def NewEnough (seen : String → Nat → Prop) (interval now : Nat) (text body : String) : Prop :=
  body = text ∨ ∃ time, seen body time ∧ now - time < interval

/-- **A refresh** of an entry whose source compiles makes it hold something that is new enough. -/
theorem Refreshed.recent {result : Except Failure Unit}
    (hfaithful : Faithful Memory.timed s.entry s.backend.store)
    (htext : s.backend.store.contents s.entry.identity = some text)
    (haccepted : text ≠ Echo.refusedSource)
    (hpast : ∀ last, s.entry.lastCheck = some last → last ≤ now) (h : Recent seen s.entry)
    (hmore : ∀ {text time}, seen text time → seen' text time) (hnow : seen' text now)
    (href : Refreshed (Echo.over Memory.timed ⟨true, interval⟩) now s result s') :
    result = .ok () ∧ Recent seen' s'.entry ∧
      ∃ held, s'.entry.held = some held ∧ NewEnough seen interval now text held.artifact := by
  rcases href.settles_or_kept trivial hfaithful with ⟨rfl, rfl, hsome, hdue⟩ | hsettles
  · -- the last look was less than the interval ago, and what is held is not older
    obtain ⟨held, hheld⟩ := Option.isSome_iff_exists.mp hsome
    refine ⟨rfl, h.mono hmore, held, hheld, .inr ?_⟩
    obtain ⟨time, hseen, hlast⟩ := h held hheld
    unfold checkDue at hdue
    rw [Bool.true_and] at hdue
    obtain ⟨last, hlook, hwait⟩ := (Option.all_eq_false _ _).mp hdue
    have hold := hlast last hlook
    have hshort : ¬interval ≤ now - last := of_decide_eq_false hwait
    exact ⟨time, hseen, by omega⟩
  · -- what is held is the text that there is now
    have htext : Memory.timed.contents s.backend.store s.entry.identity = some text := htext
    unfold Settles at hsettles
    rw [htext] at hsettles
    dsimp only at hsettles
    rw [if_neg haccepted] at hsettles
    obtain ⟨rfl, modified, hheld⟩ := hsettles
    refine ⟨rfl, fun held hheld' => ?_, _, hheld, .inl rfl⟩
    rw [hheld] at hheld'
    cases hheld'
    refine ⟨now, hnow, fun last hlast => ?_⟩
    rw [href.lastCheck_eq] at hlast
    unfold lookedAt at hlast
    split at hlast
    next => cases hlast; exact Nat.le_refl now
    next => exact hpast last hlast

/-- **A request** answers something that is new enough. -/
theorem Serviced.recent {request : Request} {precompile : Bool} {error : Option String}
    {answer : Except Failure Response}
    (hfaithful : Faithful Memory.timed s.entry s.backend.store)
    (htext : s.backend.store.contents s.entry.identity = some text)
    (haccepted : text ≠ Echo.refusedSource)
    (hpast : ∀ last, s.entry.lastCheck = some last → last ≤ now) (h : Recent seen s.entry)
    (hmore : ∀ {text time}, seen text time → seen' text time) (hnow : seen' text now)
    (hserv : Serviced (Echo.over Memory.timed ⟨true, interval⟩) now request precompile error s
      answer s') :
    Recent seen' s'.entry ∧ (precompile = false → error = none →
      ∃ body, answer = .ok (.html body) ∧ NewEnough seen interval now text body) := by
  have hrefresh {result : Except Failure Unit} {s₁ : Focus Memory Echo.Counts String}
      (hr : (refresh (Echo.over Memory.timed ⟨true, interval⟩) now).run s = (result, s₁)) :=
    (Refreshed.of_run _ _ hr).recent hfaithful htext haccepted hpast h hmore hnow
  cases hserv with
  | failed hr =>
    obtain ⟨hresult, -⟩ := hrefresh hr
    cases hresult
  | precompiled hr hpre =>
    obtain ⟨-, hrecent, -⟩ := hrefresh hr
    exact ⟨hrecent, fun hordinary => by rw [hpre] at hordinary; cases hordinary⟩
  | unheld hr _ hheld =>
    obtain ⟨-, -, held, hheld', -⟩ := hrefresh hr
    rw [hheld] at hheld'
    cases hheld'
  | @executed s₁ held body compiler _ hr hpre hheld hexec hanswer =>
    obtain ⟨-, hrecent, held', hheld', hnew⟩ := hrefresh hr
    rw [hheld] at hheld'
    cases hheld'
    refine ⟨hrecent, fun _ hnone => ⟨held.artifact, ?_, hnew⟩⟩
    obtain ⟨hbody, rfl⟩ := Prod.mk.inj hexec
    subst hnone
    rw [hanswer, ← hbody]
    exact execute_eq held.artifact s₁.entry.identity request none s₁.backend.compiler

end Entry

namespace Dispatcher

open Engine

variable {interval now : Nat} {page : Option Identity} {texts : Contents}
  {seen seen' : Identity → String → Nat → Prop} {s s' : Engine Memory Echo.Counts String}

/-- The cache is sound, every entry has a source that compiles, and holds what was seen at its last
look or later. -/
structure Timely (texts : Contents) (seen : Identity → String → Nat → Prop)
    (s : Engine Memory Echo.Counts String) : Prop where
  sound : Cache.Sound Memory.timed s.cache s.backend.store
  contents : s.backend.store.contents = texts
  accepted : ∀ {identity text}, texts identity = some text → text ≠ Echo.refusedSource
  sourced : ∀ {handle e}, s.cache.entry? handle = some e → ∃ text, texts e.identity = some text
  recent : ∀ {handle e}, s.cache.entry? handle = some e → Entry.Recent (seen e.identity) e

namespace Timely

/-- The log does not matter, and more may have been seen. -/
theorem mono (h : Timely texts seen s)
    (hmore : ∀ {identity text time}, seen identity text time → seen' identity text time)
    (events : List Log.Event) : Timely texts seen' (s.note events) where
  sound := h.sound
  contents := h.contents
  accepted := h.accepted
  sourced := h.sourced
  recent hentry := (h.recent hentry).mono hmore

theorem note (h : Timely texts seen s) (events : List Log.Event) :
    Timely texts seen (s.note events) := h.mono id events

theorem start (counts : Echo.Counts) :
    Timely (textsAfter []) seen (.start .empty counts) where
  sound := .empty fun _ _ _ hfind => by cases hfind
  contents := rfl
  accepted h := by cases h
  sourced h := by cases h
  recent h := by cases h

/-- A source is put in that compiles. -/
theorem put (h : Timely texts seen s) {identity : Identity} {text : String}
    (haccepted : text ≠ Echo.refusedSource)
    (hmore : ∀ {identity text time}, seen identity text time → seen' identity text time) :
    Timely (texts.set identity (some text)) seen'
      (s.withStore (s.backend.store.put identity text)) where
  sound := h.sound.advance (Edit.tracks.valid (.put identity text) h.sound.valid)
    (Edit.tracks.advances (.put identity text) h.sound.valid)
  contents := by
    rw [← h.contents]
    exact Edit.tracks.contents (.put identity text) trivial
  accepted {other found} hfound := by
    unfold Contents.set at hfound
    split at hfound
    next => cases hfound; exact haccepted
    next => exact h.accepted hfound
  sourced {handle e} hentry := by
    obtain ⟨found, hfound⟩ := h.sourced hentry
    unfold Contents.set
    split
    next => exact ⟨text, rfl⟩
    next => exact ⟨found, hfound⟩
  recent hentry := (h.recent hentry).mono hmore

/-- An entry is made where there is a source. -/
theorem load (h : Timely texts seen s) {identity : Identity} {text : String}
    (htext : texts identity = some text) (isErrorPage : Bool) :
    Timely texts seen (s.load identity isErrorPage) where
  sound := h.sound.insert isErrorPage
  contents := h.contents
  accepted := h.accepted
  sourced {handle e} hentry := by
    rw [load_cache, Cache.entry?_insert] at hentry
    split at hentry
    next => cases hentry; exact ⟨text, htext⟩
    next => exact h.sourced hentry
  recent {handle e} hentry := by
    rw [load_cache, Cache.entry?_insert] at hentry
    split at hentry
    next => cases hentry; exact fun _ hheld => by cases hheld
    next => exact h.recent hentry

/-- An entry may change that stays itself, faithful and recent. -/
theorem putBack (h : Timely texts seen s) {handle : Handle} {e : Entry String}
    {focus : Entry.Focus Memory Echo.Counts String} (hentry : s.cache.entry? handle = some e)
    (hstore : focus.backend.store = s.backend.store)
    (hidentity : focus.entry.identity = e.identity)
    (hfaithful : Entry.Faithful Memory.timed focus.entry s.backend.store)
    (hrecent : Entry.Recent (seen e.identity) focus.entry) :
    Timely texts seen (s.putBack handle focus) where
  sound := by
    rw [putBack_backend, hstore]
    exact h.sound.set hentry hidentity hfaithful
  contents := by
    rw [putBack_backend, hstore]
    exact h.contents
  accepted := h.accepted
  sourced {other found} hfound := by
    rw [putBack_cache, Cache.entry?_set hentry] at hfound
    split at hfound
    next =>
      cases hfound
      rw [hidentity]
      exact h.sourced hentry
    next => exact h.sourced hfound
  recent {other found} hfound := by
    rw [putBack_cache, Cache.entry?_set hentry] at hfound
    split at hfound
    next =>
      cases hfound
      rw [hidentity]
      exact hrecent
    next => exact h.recent hfound

/-- The entry that a request gets is there, and its last look is past. -/
theorem admitted (h : Timely texts seen s) {looks : List Look} (hpaced : Paced interval now looks s)
    {identity : Identity} {isErrorPage : Bool} {handle : Handle}
    (hadm : Admitted (Memory.timed.store.has identity) identity isErrorPage s handle s') :
    Timely texts seen s' ∧ ∃ e, s'.cache.entry? handle = some e ∧ e.identity = identity ∧
      ∀ last, e.lastCheck = some last → last ≤ now := by
  cases hadm with
  | present hlookup =>
    obtain ⟨e, hentry, hid⟩ := h.sound.keyed _ _ hlookup
    exact ⟨h, e, hentry, hid, fun last hlast => hpaced.lastCheck_le hentry hlast⟩
  | created _ _ hask =>
    obtain ⟨hsome, rfl⟩ := Prod.mk.inj hask
    have htext : ∃ text, texts identity = some text := by
      rw [← h.contents]
      show ∃ text, (s.backend.store.find? identity).map (·.1) = some text
      rw [← Option.isSome_iff_exists, Option.isSome_map]
      exact hsome
    obtain ⟨text, htext⟩ := htext
    refine ⟨h.load htext isErrorPage, .fresh identity isErrorPage, ?_, rfl, fun _ hlast => by
      cases hlast⟩
    rw [load_cache, Cache.entry?_insert]
    exact if_pos rfl

end Timely

/-- **A request to an identity** is answered by a text that is new enough, if it has a source. -/
theorem Served.timely {looks : List Look} {request : Request} {identity : Identity}
    {precompile : Bool} {error : Option String} {answer : Except Failure Response}
    (h : Timely texts seen s) (hpaced : Paced interval now looks s)
    (hmore : ∀ {identity text time}, seen identity text time → seen' identity text time)
    (hnow : ∀ {identity text}, texts identity = some text → seen' identity text now)
    (hserved : Served (Echo.over Memory.timed ⟨true, interval⟩) now request identity precompile
      error s answer s') :
    Timely texts seen' s' ∧ (precompile = false → error = none →
      match texts identity with
      | none => answer = .error (.sourceNotFound identity.text)
      | some text =>
        ∃ body, answer = .ok (.html body) ∧
          Entry.NewEnough (seen identity) interval now text body) := by
  cases hserved with
  | refused _ _ hclosed =>
    -- without a teardown nobody is refused
    rw [h.sound.isOpen] at hclosed
    cases hclosed
  | missing events _ _ hhas =>
    -- there is no source, and so say the texts
    obtain ⟨hnone, rfl⟩ := Prod.mk.inj hhas
    refine ⟨h.mono hmore events, fun _ _ => ?_⟩
    have habsent : texts identity = none := by
      rw [← h.contents]
      show (s.backend.store.find? identity).map (·.1) = none
      rw [← Option.isNone_iff_eq_none, ← Option.isSome_eq_false_iff, Option.isSome_map]
      exact hnone
    rw [habsent]
  | lost _ hadm hentry =>
    -- an identity that is let in has an entry
    obtain ⟨-, e, he, -⟩ := h.admitted hpaced hadm
    rw [he] at hentry
    cases hentry
  | @answered handle s₁ e focus _ events events' hadm hentry hserv =>
    obtain ⟨htimely, e', he', hid, hpast⟩ := h.admitted hpaced hadm
    rw [hentry] at he'
    cases he'
    obtain ⟨text, htext⟩ := htimely.sourced hentry
    have hserviced := Entry.Serviced.of_run hserv
    have hkept := hserviced.kept htimely.sound.valid (htimely.sound.faithful hentry)
    have hstore : focus.backend.store = s₁.backend.store := Memory.eq_of_moves hkept.moves
    -- what the entry answers is new enough, for the text that the store has
    obtain ⟨hrecent, hanswer⟩ := hserviced.recent (htimely.sound.faithful hentry)
      ((congrFun htimely.contents _).trans htext) (h.accepted htext) hpast
      (htimely.recent hentry) hmore (hnow htext)
    refine ⟨?_, ?_⟩
    · exact ((htimely.mono hmore []).putBack hentry hstore hkept.identity
        (hstore ▸ hkept.faithful) hrecent).note events'
    · rw [← hid, htext]
      exact hanswer

section

variable {looks : List Look} {request : Request} (h : Timely texts seen s)
  (hpaced : Paced interval now looks s)
  (hnow : ∀ {identity text}, texts identity = some text → seen' identity text now)

include h hpaced hnow

/-- An ordinary request is answered by a text that is new enough, if it has a source. -/
theorem Examined.timely {answer : Except Failure Response}
    (hmore : ∀ {identity text time}, seen identity text time → seen' identity text time)
    (hservice : Examined (echoing Memory.timed ⟨true, interval⟩ page) now request s answer s') :
    Timely texts seen' s' ∧ ∀ {identity}, examine request = .ok (identity, false) →
      match texts identity with
      | none => answer = .error (.sourceNotFound identity.text)
      | some text =>
        ∃ body, answer = .ok (.html body) ∧
          Entry.NewEnough (seen identity) interval now text body := by
  cases hservice with
  | refused _ hexamine =>
    refine ⟨h.mono hmore _, fun hok => ?_⟩
    rw [hexamine] at hok
    cases hok
  | @served identity _ _ _ hexamine hserved =>
    obtain ⟨htimely, hanswer⟩ := hserved.timely h hpaced hmore hnow
    refine ⟨htimely, fun hok => ?_⟩
    rw [hexamine] at hok
    cases hok
    have hanswer := hanswer rfl rfl
    cases htext : texts identity with
    | none =>
      rw [htext] at hanswer
      exact congrArg (Except.mapError (named identity)) hanswer
    | some text =>
      rw [htext] at hanswer
      obtain ⟨body, hbody, hnew⟩ := hanswer
      exact ⟨body, congrArg (Except.mapError (named identity)) hbody, hnew⟩

/-- The page for a failure holds no text that was not seen. -/
theorem Shown.timely {failure : Failure} {response : Response}
    (hmore : ∀ {identity text time}, seen identity text time → seen' identity text time)
    (hshown : Shown (echoing Memory.timed ⟨true, interval⟩ page) now request s failure response
      s') : Timely texts seen' s' := by
  cases hshown with
  | plain events => exact h.mono hmore events
  | paged events _ _ hserved => exact (hserved.timely h hpaced hmore hnow).1.note events

theorem respond_timely
    (hmore : ∀ {identity text time}, seen identity text time → seen' identity text time) :
    Timely texts seen' ((echoing Memory.timed ⟨true, interval⟩ page).respond now request s).2 := by
  have hservice := service_cases (echoing Memory.timed ⟨true, interval⟩ page) now request s
  have hpaced' := hservice.paced hpaced
  have htimely := (hservice.timely h hpaced hnow hmore).1
  unfold respond
  split
  next hrun => rw [hrun] at htimely; exact htimely
  next failure s₁ hrun =>
    rw [hrun] at htimely hpaced'
    exact (errorResponse_cases _ now request s₁ failure).timely htimely hpaced' hnow id

end

/-- A step that takes no source away and adds none that is refused keeps every entry timely. -/
theorem step_timely {steps : List (Step Edit)} {step : Step Edit} {looks : List Look}
    (hadds : step.Adds) (hnow : now ≤ step.time?.getD now)
    (h : Timely (textsAfter steps) (SeenAt steps) s) (hpaced : Paced interval now looks s) :
    Timely (textsAfter (steps ++ [step])) (SeenAt (steps ++ [step]))
      ((echoing Memory.timed ⟨true, interval⟩ page).step Edit.onMemory step s).2 := by
  rw [textsAfter_concat]
  have hmore {identity : Identity} {text : String} {time : Nat}
      (hseen : SeenAt steps identity text time) : SeenAt (steps ++ [step]) identity text time :=
    hseen.concat step
  cases step with
  | change edit =>
    cases edit with
    -- no step takes a source away
    | remove identity => exact hadds.elim
    | put identity text => exact h.put hadds hmore
  | mark handle =>
    show Timely (textsAfter steps) _ (s.markForReload handle)
    unfold markForReload
    have hmarked := h.mono hmore []
    rw [note_nil] at hmarked
    cases hentry : s.cache.entry? handle with
    | none =>
      rw [onEntry_none hentry]
      exact hmarked
    | some e =>
      -- a mark changes nothing that is held
      rw [onEntry_some hentry]
      have hrecent := hmarked.recent hentry
      exact hmarked.putBack hentry rfl rfl (h.sound.faithful hentry).marked hrecent
  | setReloads count =>
    exact ⟨h.sound, h.contents, h.accepted, h.sourced, fun hentry => (h.recent hentry).mono hmore⟩
  | service time request =>
    exact ((service_cases _ time request s).timely h (hpaced.mono hnow rfl) (seenAt_concat rfl)
      hmore).1
  | respond time request =>
    exact respond_timely h (hpaced.mono hnow rfl) (seenAt_concat rfl) hmore

/-- **The entries of a session** stay timely. -/
theorem run_timely (counts : Echo.Counts) {steps : List (Step Edit)} (htime : Chronological steps)
    (hadds : ∀ step ∈ steps, step.Adds) :
    Timely (textsAfter steps) (SeenAt steps)
      ((echoing Memory.timed ⟨true, interval⟩ page).run Edit.onMemory steps
        (.start .empty counts)).2 := by
  induction steps using List.reverseRecOn with
  | nil => exact .start counts
  | append_singleton steps step ih =>
    -- time goes on from the steps before to the last one
    obtain ⟨hsteps, hclock⟩ := htime.concat
    rw [clock_concat] at hclock
    rw [run_concat]
    exact step_timely (hadds step (by simp)) hclock
      (ih hsteps fun earlier hmem => hadds earlier (List.mem_append_left _ hmem))
      (run_paced (echoing Memory.timed ⟨true, interval⟩ page) Edit.onMemory .empty counts hsteps)

end Dispatcher

/-- **Checks are apart, and answers are not old.** In development mode with any check interval, over
sources in memory: the looks of each entry at its source are apart by the interval, and an entry
remembers the last of them. If all sources that are put in compile and none is removed, an ordinary
request for an identity that has a source is answered by the text of the source, or by one that it
had when a request came less than the interval ago. After a teardown no entry looks any more, and
every request fails. -/
theorem looks_spaced_and_answers_recent (page : Option Identity) (interval : Nat)
    (counts : Echo.Counts) (steps : List (Step Edit)) (htime : Chronological steps) :
    let d : Dispatcher Memory Echo.Counts String :=
      ⟨⟨Memory.store, Echo.compiler, ⟨true, interval⟩⟩, page⟩
    let looks := d.looks Edit.onMemory steps (.start .empty counts)
    let s := (d.run Edit.onMemory steps (.start .empty counts)).2
    (Spaced interval looks ∧
      ∀ handle e, s.cache.entry? handle = some e → e.lastCheck = lastLook handle looks) ∧
    ((∀ step ∈ steps, step.Adds) → ∀ now request identity, clock steps ≤ now →
      Dispatcher.examine request = .ok (identity, false) →
      match textsAfter steps identity with
      | none => (d.service now request s).1 = .error (.sourceNotFound identity.text)
      | some text => ∃ body, (d.service now request s).1 = .ok (.html body) ∧
          (d.respond now request s).1 = .html body ∧
          (body = text ∨
            ∃ time, SeenAt steps identity body time ∧ time ≤ now ∧ now - time < interval)) ∧
    ∀ later : List (Step Edit),
      let torn := (s.teardown d.setup).2
      let s' := (d.run Edit.onMemory later torn).2
      d.looks Edit.onMemory later torn = [] ∧ ∀ now request, ∃ failure,
        (d.service now request s').1 = .error failure ∧
          (d.respond now request s').1 = .plain failure.status failure.message := by
  rw [← Memory.timed_store]
  intro d looks s
  have hpaced : Paced interval (clock steps) looks s :=
    Dispatcher.run_paced d Edit.onMemory .empty counts htime
  refine ⟨⟨hpaced.spaced, fun handle e hentry => hpaced.remembered hentry⟩, ?_, ?_⟩
  · intro hadds now request identity hnow hexamine
    have htimely : Dispatcher.Timely (textsAfter steps) (SeenAt steps) s :=
      Dispatcher.run_timely counts htime hadds
    have hanswer := ((Dispatcher.service_cases d now request s).timely htimely
      (hpaced.mono hnow rfl) (seenAt_concat rfl)
      fun hseen => hseen.concat (.service now request)).2 hexamine
    cases htext : textsAfter steps identity with
    | none =>
      rw [htext] at hanswer
      exact hanswer
    | some text =>
      rw [htext] at hanswer
      obtain ⟨body, hbody, hnew⟩ := hanswer
      refine ⟨body, hbody, Dispatcher.respond_of_service d now request s hbody, ?_⟩
      exact hnew.imp_right fun ⟨time, hseen, hshort⟩ =>
        ⟨time, hseen, Nat.le_trans (hseen.le_clock htime) hnow, hshort⟩
  · -- a teardown retires every entry, and a retired entry neither looks nor answers
    intro later torn s'
    have hvalid : Memory.timed.Valid Memory.empty := fun _ _ _ hfind => by cases hfind
    obtain ⟨-, hsound⟩ : _ ∧ Cache.Sound Memory.timed s.cache s.backend.store :=
      Dispatcher.run_kept page ⟨true, interval⟩ Edit.tracks.toAdmits steps (.empty hvalid)
    have hdown : torn.Down := Engine.teardown_down d.setup hsound.isOpen
    refine ⟨d.looks_of_down Edit.onMemory hdown later, fun now request => ?_⟩
    exact d.service_of_down now request (Engine.Turns.down hdown (d.run_turns torn Edit.onMemory
      later))

/-- With looks at 5 and at 9, a source that changes after 9 is answered as it was at 9, since the
next look is due at 13. -/
theorem looks_spaced_and_answers_recent_between_looks :
    let p : Identity := ⟨[⟨['p'], by decide⟩], by simp⟩
    let d : Dispatcher Memory Echo.Counts String :=
      ⟨⟨Memory.store, Echo.compiler, ⟨true, 4⟩⟩, none⟩
    let steps : List (Step Edit) :=
      [.change (.put p "v1"), .service 0 (.forPath "/p"), .service 5 (.forPath "/p"),
        .respond 8 (.forPath "/p"), .service 9 (.forPath "/p"), .change (.put p "v2")]
    let looks := d.looks Edit.onMemory steps (.start .empty .zero)
    let s := (d.run Edit.onMemory steps (.start .empty .zero)).2
    Chronological steps ∧ looks = [⟨0, 5⟩, ⟨0, 9⟩] ∧ Spaced 4 looks ∧
      (d.service 12 (.forPath "/p") s).1 = .ok (.html "v1") ∧
      ∃ body, (d.service 12 (.forPath "/p") s).1 = .ok (.html body) ∧
        (d.respond 12 (.forPath "/p") s).1 = .html body ∧
        (body = "v2" ∨ ∃ time, SeenAt steps p body time ∧ time ≤ 12 ∧ 12 - time < 4) := by
  intro p d steps looks s
  have htime : Chronological steps := show [0, 5, 8, 9].Pairwise (· ≤ ·) by decide
  have hadds : ∀ step ∈ steps, step.Adds := by
    simp [steps, Step.Adds, Echo.refusedSource]
  have hall := looks_spaced_and_answers_recent none 4 .zero steps htime
  have hlooks : looks = [⟨0, 5⟩, ⟨0, 9⟩] := by decide +kernel
  exact ⟨htime, hlooks, hall.1.1, rfl, hall.2.1 hadds 12 (.forPath "/p") p (by decide) rfl⟩

end TemplateServer
