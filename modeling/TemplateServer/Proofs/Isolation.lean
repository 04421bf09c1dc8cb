import TemplateServer.Proofs.Engine.Lane

/-!
# Identities do not interfere

Whoever takes away from a session all that concerns other identities sees no difference in the rest:
the requests are answered alike, and the entry of the identity counts the same reloads and holds an
artifact at the same moments (`identity_isolated`).

The two sessions are never in the same state. They number their sources differently, give out other
handles and count other reloads in all. But both go as the lane of the identity says. What concerns
another identity leaves an engine where it is in the lane (`occasion_other`); what concerns the
identity is answered from the lane, and moves the engine along it (`occasion_own`).
-/

namespace TemplateServer

/-- The identity whose source changes. -/
def Edit.identity : Edit → Identity
  | .put identity _ => identity
  | .remove identity => identity

/-- The other sources stay as they are. -/
theorem Edit.find?_of_other (change : Edit) (m : Memory) {identity : Identity}
    (h : identity ≠ change.identity) : (change.onMemory m).find? identity = m.find? identity := by
  cases change with
  | put put text => exact (Memory.find?_putAt put identity text _ m).trans (if_neg h)
  | remove removed => exact (Memory.find?_remove removed identity m).trans (if_neg h)

/-- What may happen: a source changes, a reload of an identity is asked for, a request comes in, or
everything is taken down. -/
inductive Occasion
  | edit (change : Edit)
  | mark (identity : Identity)
  | service (now : Nat) (request : Request)
  | teardown

namespace Occasion

/-- The identity that is concerned, if it is one. -/
def identity? : Occasion → Option Identity
  | .edit change => some change.identity
  | .mark identity => some identity
  | .service _ request => request.resolve.toOption
  | .teardown => none

/-- No other identity is concerned. -/
def concerns (identity : Identity) (o : Occasion) : Bool :=
  o.identity?.all fun other => other = identity

/-- A request that can be examined concerns the identity that it is dispatched to. -/
theorem concerns_service {request : Request} {other : Identity} {precompile : Bool}
    (h : Dispatcher.examine request = .ok (other, precompile)) (identity : Identity) (now : Nat) :
    (Occasion.service now request).concerns identity = decide (other = identity) := by
  show request.resolve.toOption.all _ = _
  rw [(Dispatcher.examine_ok h).1]
  rfl

/-- What happens on each occasion, one after the other: the answers, and what is left behind. -/
def transcript {τ β : Type} (answer : Occasion → τ → β × τ) :
    List Occasion → τ → List (Occasion × β) × τ
  | [], s => ([], s)
  | o :: rest, s =>
    let (reply, s) := answer o s
    let (replies, s) := transcript answer rest s
    ((o, reply) :: replies, s)

theorem transcript_map_fst {τ β : Type} (answer : Occasion → τ → β × τ) (occasions : List Occasion)
    (s : τ) : (transcript answer occasions s).1.map (·.1) = occasions := by
  induction occasions generalizing s with
  | nil => rfl
  | cons o rest ih => exact congrArg (o :: ·) (ih _)

end Occasion

/-- Does what there is to do on an occasion. A mark reaches the entry of an identity by the handle
that was given out for it, loaded or not. -/
def Dispatcher.occasion {κ α : Type} (d : Dispatcher Memory κ α) :
    Occasion → Engine Memory κ α → Option (Except Failure Response) × Engine Memory κ α
  | .edit change, s => (none, s.withStore (change.onMemory s.backend.store))
  | .mark identity, s =>
    match s.cache.handleOf? identity with
    | none => (none, s)
    | some handle => (none, s.markForReload handle)
  | .service now request, s =>
    let (answer, s) := d.service now request s
    (some answer, s)
  | .teardown, s => (none, (s.teardown d.setup).2)

namespace Lane

def edit : Edit → Lane → Lane
  | .put _ text, l => { l with text := some text, newer := true }
  | .remove _, l => { l with text := none }

/-- What happens on an occasion that concerns no other identity. -/
def occasion (options : Options) (identity : Identity) :
    Occasion → Lane → Option (Except Failure Response) × Lane
  | .edit change, l => (none, l.edit change)
  | .mark _, l => (none, l.mark)
  | .service now request, l =>
    let (answer, l) := l.service options now identity request
    (some answer, l)
  | .teardown, l => (none, l.teardown)

end Lane

namespace Dispatcher

open Engine

section

variable {options : Options} {page : Option Identity} {now : Nat} {request : Request}
  {identity : Identity} {s s' : Engine Memory Echo.Counts String} {l : Lane}
  {answer : Except Failure Response}

theorem Examined.inLane (h : InLane identity s l)
    (hown : (Occasion.service now request).concerns identity = true)
    (hservice : Examined ⟨Echo.inMemory options, page⟩ now request s answer s') :
    let done := l.service options now identity request
    answer = done.1 ∧ InLane identity s' done.2 := by
  intro done
  have hdone : done = l.service options now identity request := rfl
  unfold Lane.service at hdone
  cases hservice with
  | refused events hexamine =>
    rw [hexamine] at hdone
    rw [hdone]
    exact ⟨rfl, h.note events⟩
  | @served other precompile answer _ hexamine hserved =>
    have hother : other = identity := by
      rw [Occasion.concerns_service hexamine] at hown
      exact of_decide_eq_true hown
    subst hother
    obtain ⟨hanswer, hlane⟩ := hserved.inLane h
    rw [hexamine] at hdone
    rw [hdone]
    refine ⟨?_, hlane⟩
    rw [hanswer]
    exact Lane.named_serve options now other precompile l

/-- A request for another identity changes nothing about this one. -/
theorem Examined.inLane_other (h : InLane identity s l)
    (hother : (Occasion.service now request).concerns identity = false)
    (hservice : Examined ⟨Echo.inMemory options, page⟩ now request s answer s') :
    InLane identity s' l := by
  cases hservice with
  | refused events => exact h.note events
  | @served other _ _ _ hexamine hserved =>
    have hne : identity ≠ other := by
      rw [Occasion.concerns_service hexamine] at hother
      exact Ne.symm (of_decide_eq_false hother)
    exact h.stay (Turns.filed h.filed (Works.turns hserved.works))
      (Works.closed_eq hserved.works) (hserved.made?_of_other h.filed hne)
      (hserved.store_eq Memory.store_still)

end

section

variable (options : Options) (page : Option Identity) {identity : Identity}
  {s : Engine Memory Echo.Counts String} {l : Lane} {o : Occasion}

/-- What concerns another identity. -/
theorem occasion_other (h : InLane identity s l) (hother : o.concerns identity = false) :
    InLane identity ((⟨Echo.inMemory options, page⟩ : Dispatcher _ _ _).occasion o s).2 l := by
  cases o with
  | edit change =>
    -- a source of another identity is put or removed
    have hne : identity ≠ change.identity := Ne.symm (of_decide_eq_false hother)
    refine ⟨h.filed, Edit.tracks.valid change h.valid, h.down, h.made, ?_⟩
    refine h.onLane.withStore ?_ (change.version_le _)
    rw [entryFor_identity]
    exact change.find?_of_other _ hne
  | mark marked =>
    -- only the entry of the other identity is marked
    have hne : identity ≠ marked := Ne.symm (of_decide_eq_false hother)
    unfold Dispatcher.occasion
    dsimp only
    cases hhandle : s.cache.handleOf? marked with
    | none => exact h
    | some handle =>
      obtain ⟨e, hentry, hid⟩ := Cache.entry_of_handleOf? hhandle
      have hset : (s.cache.set handle e.markForReload).made? identity = s.cache.made? identity :=
        (h.filed.made?_set hentry (show e.markForReload.identity = e.identity from rfl)).trans
          (if_neg (hid ▸ hne))
      show InLane identity (s.markForReload handle) l
      unfold markForReload
      rw [onEntry_some hentry]
      exact h.stay (h.filed.set hentry rfl) rfl hset rfl
  | service now request =>
    -- the request is for the other identity
    exact (service_cases ⟨Echo.inMemory options, page⟩ now request s).inLane_other h hother
  -- a teardown concerns every identity
  | teardown => cases hother

/-- **What concerns the identity**, or every identity alike. -/
theorem occasion_own (h : InLane identity s l) (hown : o.concerns identity = true) :
    let done := (⟨Echo.inMemory options, page⟩ : Dispatcher _ _ _).occasion o s
    let done' := l.occasion options identity o
    done.1 = done'.1 ∧ InLane identity done.2 done'.2 := by
  intro done done'
  cases o with
  | edit change =>
    have hvalid := Edit.tracks.valid change h.valid
    have hid : change.identity = identity := of_decide_eq_true hown
    subst hid
    cases change with
    | put put text =>
      have hlane := h.onLane.put text
      rw [entryFor_identity] at hlane
      exact ⟨rfl, h.filed, hvalid, h.down, h.made, hlane⟩
    | remove removed =>
      have hlane := h.onLane.remove
      rw [entryFor_identity] at hlane
      exact ⟨rfl, h.filed, hvalid, h.down, h.made, hlane⟩
  | mark marked =>
    have hid : marked = identity := of_decide_eq_true hown
    subst hid
    have hdone : done = Dispatcher.occasion _ (.mark marked) s := rfl
    unfold Dispatcher.occasion at hdone
    dsimp only at hdone
    cases hhandle : s.cache.handleOf? marked with
    | none =>
      -- a mark is lost where no entry was made
      rw [hhandle] at hdone
      rw [hdone]
      exact ⟨rfl, h.mark_unmade hhandle⟩
    | some handle =>
      rw [hhandle] at hdone
      rw [hdone]
      exact ⟨rfl, h.mark_made hhandle⟩
  | service now request =>
    obtain ⟨hanswer, hlane⟩ :=
      (service_cases ⟨Echo.inMemory options, page⟩ now request s).inLane h hown
    exact ⟨congrArg some hanswer, hlane⟩
  | teardown => exact ⟨rfl, h.teardown _⟩

/-- **A whole session** is answered about the identity as its lane says, which knows nothing of what
concerns the others. -/
theorem transcript_inLane (h : InLane identity s l) (occasions : List Occasion) :
    let d : Dispatcher Memory Echo.Counts String := ⟨Echo.inMemory options, page⟩
    let full := Occasion.transcript d.occasion occasions s
    let done := Occasion.transcript (Lane.occasion options identity)
      (occasions.filter (Occasion.concerns identity)) l
    full.1.filter (fun o => o.1.concerns identity) = done.1 ∧ InLane identity full.2 done.2 := by
  intro d full done
  -- the lane is the same in both cases, or moves on with the engine
  induction occasions generalizing s l with
  | nil => exact ⟨rfl, h⟩
  | cons o rest ih =>
    let next := Occasion.transcript d.occasion rest (d.occasion o s).2
    cases hconcerns : o.concerns identity with
    | false =>
      -- what concerns others is skipped on both sides
      have hskip : ¬o.concerns identity = true := by
        rw [hconcerns]
        exact Bool.false_ne_true
      obtain ⟨hanswers, hlane⟩ := ih (occasion_other options page h hconcerns)
      have hdone : done = Occasion.transcript (Lane.occasion options identity)
          (rest.filter (Occasion.concerns identity)) l := by
        show Occasion.transcript _ (List.filter _ (o :: rest)) l = _
        rw [List.filter_cons_of_neg hskip]
      have hfull : full.1.filter (fun o => o.1.concerns identity) =
          next.1.filter fun o => o.1.concerns identity := List.filter_cons_of_neg hskip
      rw [hdone]
      exact ⟨hfull.trans hanswers, hlane⟩
    | true =>
      -- what concerns the identity is answered alike on both sides
      obtain ⟨hanswer, hlane⟩ := occasion_own options page h hconcerns
      obtain ⟨hanswers, hlane'⟩ := ih hlane
      have hdone : done = Occasion.transcript (Lane.occasion options identity)
          (o :: rest.filter (Occasion.concerns identity)) l := by
        show Occasion.transcript _ (List.filter _ (o :: rest)) l = _
        rw [List.filter_cons_of_pos hconcerns]
      have hfull : full.1.filter (fun o => o.1.concerns identity) =
          (o, (d.occasion o s).1) :: next.1.filter (fun o => o.1.concerns identity) :=
        List.filter_cons_of_pos hconcerns
      rw [hdone]
      refine ⟨?_, hlane'⟩
      rw [hfull, hanswers, hanswer]
      rfl

end

end Dispatcher

/-- **Identities do not interfere.** In either mode and with any check interval, over sources in
memory and an echoing compiler, take away from any session all that concerns other identities. Then
what is left is answered as before, and at every point of the session, which is where an earlier
part of it ends, the entry of the identity has counted the same reloads and holds something or not
as before, if it was made at all. Both are what the lane of the identity says, where there are no
other identities and no numbers of sources. -/
theorem identity_isolated (options : Options) (page : Option Identity) (counts : Echo.Counts)
    (identity : Identity) (early late : List Occasion) :
    let d : Dispatcher Memory Echo.Counts String :=
      ⟨⟨Memory.store, Echo.compiler, options⟩, page⟩
    let session := early ++ late
    let own := Occasion.concerns identity
    let after := fun occasions => Occasion.transcript d.occasion occasions (.start .empty counts)
    let lane := fun occasions =>
      Occasion.transcript (Lane.occasion options identity) occasions .empty
    ((after session).1.filter (fun o => own o.1) = (after (session.filter own)).1 ∧
      (after early).2.status identity = (after (early.filter own)).2.status identity) ∧
    (after (session.filter own)).1 = (lane (session.filter own)).1 ∧
      (after (early.filter own)).2.status identity = (lane (early.filter own)).2.status := by
  intro d session own after lane
  have hstart := Engine.InLane.start identity counts
  have hfull (occasions : List Occasion) :
      (after occasions).1.filter (fun o => own o.1) = (lane (occasions.filter own)).1 ∧
        (after occasions).2.status identity = (lane (occasions.filter own)).2.status := by
    obtain ⟨hanswers, hlane⟩ := Dispatcher.transcript_inLane options page hstart occasions
    exact ⟨hanswers, hlane.status_eq⟩
  -- nothing is taken away from a session a second time
  have halone (occasions : List Occasion) :
      (after (occasions.filter own)).1 = (lane (occasions.filter own)).1 ∧
        (after (occasions.filter own)).2.status identity =
          (lane (occasions.filter own)).2.status := by
    obtain ⟨hanswers, hstatus⟩ := hfull (occasions.filter own)
    have hagain : (occasions.filter own).filter own = occasions.filter own :=
      List.filter_eq_self.mpr fun o ho => (List.mem_filter.mp ho).2
    have hall : (after (occasions.filter own)).1.filter (fun o => own o.1) =
        (after (occasions.filter own)).1 := by
      refine List.filter_eq_self.mpr fun o ho => ?_
      have hmem : o.1 ∈ (after (occasions.filter own)).1.map (·.1) := List.mem_map_of_mem ho
      rw [Occasion.transcript_map_fst] at hmem
      exact (List.mem_filter.mp hmem).2
    rw [hagain] at hanswers hstatus
    exact ⟨hall.symm.trans hanswers, hstatus⟩
  exact ⟨⟨(hfull session).1.trans (halone session).1.symm,
    (hfull early).2.trans (halone early).2.symm⟩, (halone session).1, (halone early).2⟩

/-- What happens to another identity gives greater numbers to the sources, and no more. -/
example :
    let p : Identity := ⟨[⟨['p'], by decide⟩], by simp⟩
    let q : Identity := ⟨[⟨['q'], by decide⟩], by simp⟩
    let d : Dispatcher Memory Echo.Counts String :=
      ⟨⟨Memory.store, Echo.compiler, ⟨true, 0⟩⟩, none⟩
    let session : List Occasion :=
      [.edit (.put p "v1"), .edit (.put q "w1"), .service 0 (.forPath "/q"),
        .service 1 (.forPath "/p"), .edit (.put q "w2"), .edit (.put p "v2"), .mark q,
        .service 2 (.forPath "/p"), .teardown, .service 3 (.forPath "/p")]
    let s := Occasion.transcript d.occasion session (.start .empty .zero)
    s.1.filterMap (·.2) =
        [.ok (.html "w1"), .ok (.html "v1"), .ok (.html "v2"), .error .shutDown] ∧
      s.2.status p = some (1, false) := ⟨rfl, rfl⟩

end TemplateServer
