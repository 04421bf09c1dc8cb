import Mathlib.Logic.Relation
import TemplateServer.Proofs.Dispatch
import TemplateServer.Proofs.Session

/-!
# What can happen to an engine

Everything that is done to an engine, from a request to a teardown, comes to a few kinds of things
that happen one after the other: something is noted, the store is asked, an entry is made, an entry
acts, the cache is closed. `Turn` lists them. What every turn preserves is preserved by whatever is
done to an engine, in any order (`Dispatcher.calls_turns`), so an invariant needs one short proof
for each kind of turn and nothing about requests or error pages.

Most turns are `Work`: requests come to nothing else, and neither does anything but setting the
count of reloads and closing the cache (`Dispatcher.call_works`).

`Call` is what callers can do: the steps of a session, and besides them the admission of an entry,
a request to an entry whose handle was kept, and the teardown.
-/

namespace TemplateServer

variable {σ κ α χ : Type}

namespace Engine

/-- What happens to an engine at once while it is used. -/
inductive Work (setup : Setup σ κ α) (s : Engine σ κ α) : Engine σ κ α → Prop
  | noted (events : List Log.Event) : Work setup s (s.note events)
  /-- The store was asked, or has changed. -/
  | stored (store : σ) : Work setup s (s.withStore store)
  /-- An entry is made where there is none. -/
  | loaded {identity : Identity} (isErrorPage : Bool) (hlookup : s.cache.lookup identity = none)
      (hopen : s.cache.closed = false) : Work setup s (s.load identity isErrorPage)
  | marked {handle : Handle} {e : Entry α} (hentry : s.cache.entry? handle = some e) :
      Work setup s (s.putBack handle ⟨e.markForReload, s.backend⟩)
  /-- An entry answers a request. -/
  | serviced {handle : Handle} {e : Entry α} {now : Nat} {request : Request} {precompile : Bool}
      {error : Option String} {answer : Except Failure Response} {focus : Entry.Focus σ κ α}
      (hentry : s.cache.entry? handle = some e)
      (hserv : Entry.Serviced setup now request precompile error ⟨e, s.backend⟩ answer focus) :
      Work setup s (s.putBack handle focus)
  /-- An entry is taken down. -/
  | destroyed {handle : Handle} {e : Entry α} (hentry : s.cache.entry? handle = some e) :
      Work setup s (s.putBack handle (Entry.Focus.destroy setup ⟨e, s.backend⟩).2)

/-- What happens to an engine at once. -/
inductive Turn (setup : Setup σ κ α) (s : Engine σ κ α) : Engine σ κ α → Prop
  | work {s' : Engine σ κ α} (h : Work setup s s') : Turn setup s s'
  | counted (count : Nat) : Turn setup s (s.setReloadCount count)
  | closed : Turn setup s (s.onCache Cache.close).2

/-- What happens to an engine that is used, in time. -/
abbrev Works (setup : Setup σ κ α) := Relation.ReflTransGen (Work setup)

/-- What happens to an engine in time. -/
abbrev Turns (setup : Setup σ κ α) := Relation.ReflTransGen (Turn setup)

variable {setup : Setup σ κ α} {s s' : Engine σ κ α}

theorem Works.turns (h : Works setup s s') : Turns setup s s' :=
  Relation.ReflTransGen.mono (fun _ _ hw => Turn.work hw) _ _ h

/-- The cache stays open, or closed. -/
theorem Works.closed_eq (h : Works setup s s') : s'.cache.closed = s.cache.closed := by
  induction h with
  | refl => rfl
  | tail _ hwork ih =>
    rw [← ih]
    cases hwork <;> rfl

theorem Turns.note (h : Turns setup s s') (events : List Log.Event) :
    Turns setup s (s'.note events) := h.tail (.work (.noted events))

theorem Works.note (h : Works setup s s') (events : List Log.Event) :
    Works setup s (s'.note events) := h.tail (.noted events)

theorem Admitted.works {ask : StateM σ Bool} {identity : Identity} {isErrorPage : Bool}
    {handle : Handle} (h : Admitted ask identity isErrorPage s handle s') : Works setup s s' := by
  cases h with
  | present => exact .refl
  | created hlookup hopen => exact .tail (.single (.stored _)) (.loaded isErrorPage hlookup hopen)

theorem Asked.works {ask : StateM σ Bool} {identity : Identity} {isErrorPage : Bool}
    {result : Except Failure Handle} (h : Asked ask identity isErrorPage s result s') :
    Works setup s s' := by
  cases h with
  | admitted events hadm => exact Works.note hadm.works events
  | refused events => exact .single (.noted events)
  | missing events => exact Works.note (.single (.stored _)) events

theorem markForReload_works (handle : Handle) : Works setup s (s.markForReload handle) := by
  unfold markForReload
  cases hentry : s.cache.entry? handle with
  | none => rw [onEntry_none hentry]
  | some e =>
    rw [onEntry_some hentry]
    exact .single (.marked hentry)

variable (setup)

/-- Taking one entry down is work. -/
theorem destroyEntry_works (report : TeardownReport) (handle : Handle) (s : Engine σ κ α) :
    Works setup s (destroyEntry setup report handle s).2 := by
  unfold destroyEntry
  cases hentry : s.cache.entry? handle with
  | none => rw [onEntry_none hentry]
  | some e =>
    rw [onEntry_some hentry]
    split
    next h =>
      obtain ⟨-, rfl⟩ := Prod.mk.inj h
      exact Works.note (.single (.destroyed hentry)) _
    next h =>
      obtain ⟨-, rfl⟩ := Prod.mk.inj h
      exact .single (.destroyed hentry)

theorem destroyAll_works (handles : List Handle) (report : TeardownReport) (s : Engine σ κ α) :
    Works setup s (destroyAll setup handles report s).2 := by
  induction handles generalizing report s with
  | nil => exact .refl
  | cons handle handles ih =>
    exact (destroyEntry_works setup report handle s).trans (ih _ _)

theorem destroyAll_turns (handles : List Handle) (report : TeardownReport) (s : Engine σ κ α) :
    Turns setup s (destroyAll setup handles report s).2 :=
  Works.turns (destroyAll_works setup handles report s)

/-- The cache is closed, and the rest of a teardown is work like any other. -/
theorem teardown_works (s : Engine σ κ α) :
    Works setup (s.onCache Cache.close).2 (s.teardown setup).2 :=
  Works.note (destroyAll_works setup _ _ _) _

theorem teardown_turns (s : Engine σ κ α) : Turns setup s (s.teardown setup).2 :=
  .head .closed (Works.turns (teardown_works setup s))

end Engine

open Engine

/-- What callers do. -/
inductive Call (σ χ : Type)
  | step (step : Step χ)
  /-- The entry of an identity is asked for; `ask` is the question whether there is a source. -/
  | create (identity : Identity) (isErrorPage : Bool) (ask : StateM σ Bool)
  /-- An entry whose handle was kept is asked to answer a request. -/
  | enter (handle : Handle) (now : Nat) (request : Request) (precompile : Bool)
      (error : Option String)
  | teardown

/-- What a call answers. -/
inductive Reply
  | stepped (answer : Answer)
  | admitted (result : Except Failure Handle)
  | entered (result : Option (Except Failure Response))
  | tornDown (report : TeardownReport)

namespace Dispatcher

open Engine

/-- Every request is one to the entry of an identity, after which there is no other work. -/
theorem Served.works {setup : Setup σ κ α} {s s' : Engine σ κ α} {now : Nat} {request : Request}
    {identity : Identity} {precompile : Bool} {error : Option String}
    {answer : Except Failure Response}
    (h : Served setup now request identity precompile error s answer s') : Works setup s s' := by
  cases h with
  | refused events => exact .single (.noted events)
  | missing events => exact Works.note (.single (.stored _)) events
  | lost events hadm => exact Works.note hadm.works events
  | answered events events' hadm hentry hserv =>
    exact Works.note ((Works.note hadm.works events).tail
      (.serviced hentry (Entry.Serviced.of_run hserv))) events'

variable {d : Dispatcher σ κ α} {now : Nat} {request : Request} {s s' : Engine σ κ α}

theorem Examined.works {answer : Except Failure Response} (h : Examined d now request s answer s') :
    Works d.setup s s' := by
  cases h with
  | refused events => exact .single (.noted events)
  | served _ hserved => exact hserved.works

theorem Examined.turns {answer : Except Failure Response} (h : Examined d now request s answer s') :
    Turns d.setup s s' := h.works.turns

theorem Shown.works {failure : Failure} {response : Response}
    (h : Shown d now request s failure response s') : Works d.setup s s' := by
  cases h with
  | plain events => exact .single (.noted events)
  | paged events _ _ hserved => exact Works.note hserved.works events

theorem Responded.works {response : Response} (h : Responded d now request s response s') :
    Works d.setup s s' := by
  cases h with
  | answered hservice => exact hservice.works
  | failed hservice hshown => exact hservice.works.trans hshown.works

variable (d s) (apply : χ → σ → σ)

/-- All steps but one are work. -/
theorem step_works {step : Step χ} (h : ∀ count, step ≠ .setReloads count) :
    Works d.setup s (d.step apply step s).2 := by
  cases step with
  | change c => exact .single (.stored _)
  | mark handle => exact markForReload_works handle
  | setReloads count => exact absurd rfl (h count)
  | service now request => exact (service_cases d now request s).works
  | respond now request => exact (respond_cases d now request s).works

/-- A step of a session is made of turns. -/
theorem step_turns (step : Step χ) : Turns d.setup s (d.step apply step s).2 := by
  by_cases h : ∃ count, step = .setReloads count
  · obtain ⟨count, rfl⟩ := h
    exact .single (.counted count)
  · exact (step_works d s apply fun count hstep => h ⟨count, hstep⟩).turns

theorem run_turns (steps : List (Step χ)) : Turns d.setup s (d.run apply steps s).2 := by
  induction steps generalizing s with
  | nil => exact .refl
  | cons step steps ih => exact (step_turns d s apply step).trans (ih _)

/-- Does what a caller wants. -/
def call : Call σ χ → Engine σ κ α → Reply × Engine σ κ α
  | .step step, s =>
    let (answer, s) := d.step apply step s
    (.stepped answer, s)
  | .create identity isErrorPage ask, s =>
    let (result, s) := (getOrCreate identity isErrorPage (onStore ask)).run s
    (.admitted result, s)
  | .enter handle now request precompile error, s =>
    let act := (Entry.service d.setup now request precompile error).run
    let (result, s) := s.onEntry handle act
    (.entered result, s)
  | .teardown, s =>
    let (report, s) := s.teardown d.setup
    (.tornDown report, s)

/-- Does what callers want, one after the other. -/
def calls : List (Call σ χ) → Engine σ κ α → List Reply × Engine σ κ α
  | [], s => ([], s)
  | call :: rest, s =>
    let (reply, s) := d.call apply call s
    let (replies, s) := calls rest s
    (reply :: replies, s)

theorem calls_append (early late : List (Call σ χ)) :
    d.calls apply (early ++ late) s =
      ((d.calls apply early s).1 ++ (d.calls apply late (d.calls apply early s).2).1,
        (d.calls apply late (d.calls apply early s).2).2) := by
  induction early generalizing s with
  | nil => rfl
  | cons call early ih =>
    let rest := d.calls apply (early ++ late) (d.call apply call s).2
    show ((d.call apply call s).1 :: rest.1, rest.2) = _
    rw [show rest = _ from ih (d.call apply call s).2]
    rfl

/-- All calls but two are work. -/
theorem call_works {call : Call σ χ} (hset : ∀ count, call ≠ .step (.setReloads count))
    (hdown : call ≠ .teardown) : Works d.setup s (d.call apply call s).2 := by
  cases call with
  | step step => exact step_works d s apply fun count hstep => hset count (congrArg Call.step hstep)
  | create identity isErrorPage ask =>
    have hasked := getOrCreate_cases ask identity isErrorPage s []
    rw [note_nil] at hasked
    exact hasked.works
  | enter handle now request precompile error =>
    unfold Dispatcher.call
    dsimp only
    cases hentry : s.cache.entry? handle with
    | none => rw [onEntry_none hentry]
    | some e =>
      rw [onEntry_some hentry]
      exact .single (.serviced hentry (Entry.service_cases d.setup now request precompile error _))
  | teardown => exact absurd rfl hdown

theorem call_turns (call : Call σ χ) : Turns d.setup s (d.call apply call s).2 := by
  by_cases hdown : call = .teardown
  · subst hdown
    exact teardown_turns d.setup s
  · by_cases hset : ∃ count, call = .step (.setReloads count)
    · obtain ⟨count, rfl⟩ := hset
      exact .single (.counted count)
    · exact (call_works d s apply (fun count hcall => hset ⟨count, hcall⟩) hdown).turns

/-- **Whatever callers do, the engine takes turns.** -/
theorem calls_turns (calls : List (Call σ χ)) : Turns d.setup s (d.calls apply calls s).2 := by
  induction calls generalizing s with
  | nil => exact .refl
  | cons call calls ih => exact (call_turns d s apply call).trans (ih _)

end Dispatcher

end TemplateServer
