import TemplateServer.Proofs.Engine.Callers
import TemplateServer.Proofs.Entry.Rush

/-!
# A request on its way through the engine

Where several requests are serviced at the same time, each of them goes in steps: it is examined,
looks its entry up, goes under the lock of creation if it finds none, and then goes through the
entry step by step. A `Passage` is how far it has come, and `Passage.next` its next step. The steps
in an entry are those of a rush (`Entry.Stage.next`), and those before are the ones of a crowd.

The steps are those of `Dispatcher.service`: a request that nobody interrupts goes as `service`,
with the same notes (`Passage.ends_sent`). It has a bounded number of steps (`Passage.left_next`).
-/

namespace TemplateServer

open TemplateServer.Action

variable {σ κ α : Type}

namespace Dispatcher

open Engine

/-- How far a request has come. -/
inductive Passage (α : Type)
  | sent
  /-- It is known what the request is for, and whether it asks for compilation only. -/
  | examined (identity : Identity) (precompile : Bool)
  /-- No entry was found, and the request wants the lock of creation. -/
  | missed (identity : Identity) (precompile : Bool)
  /-- The request has come to the entry behind a handle. -/
  | admitted (identity : Identity) (precompile : Bool) (handle : Handle) (stage : Entry.Stage α)
  | served (answer : Except Failure Response)

namespace Passage

/-- What a request comes with to its entry. -/
def errand (now : Nat) (request : Request) (precompile : Bool) : Entry.Errand :=
  ⟨now, request, precompile, none⟩

/-- A request has got the entry behind a handle. -/
def dispatch (identity : Identity) (precompile : Bool) (handle : Handle) (s : Engine σ κ α) :
    Passage α × Engine σ κ α :=
  (.admitted identity precompile handle .called,
    s.note [event .trace s!"Dispatching {identity}"])

/-- A request has come to a stage in its entry. -/
def arrive (identity : Identity) (precompile : Bool) (handle : Handle) (stage : Entry.Stage α)
    (s : Engine σ κ α) : Passage α × Engine σ κ α :=
  match stage with
  | .answered (.ok response) =>
    (.served (.ok response), s.note [event .trace s!"Done {identity} -> {response.status}"])
  | .answered (.error failure) => (.served (.error (named identity failure)), s)
  | stage => (.admitted identity precompile handle stage, s)

section

variable (d : Dispatcher σ κ α) (now : Nat) (request : Request)

/-- The next step of a request. -/
def next : Passage α → Engine σ κ α → Passage α × Engine σ κ α
  | .sent, s =>
    let s := s.note (examineNotes request)
    match examine request with
    | .error failure => (.served (.error failure), s)
    | .ok (identity, precompile) => (.examined identity precompile, s)
  | .examined identity precompile, s =>
    let s := s.note [event .trace s!"CacheLookup {identity}"]
    match s.cache.lookup identity with
    | some handle => dispatch identity precompile handle s
    | none => (.missed identity precompile, s)
  | .missed identity precompile, s =>
    match (enter identity false (onStore (d.setup.store.has identity))).run s with
    | (.ok handle, s) => dispatch identity precompile handle s
    | (.error failure, s) => (.served (.error (named identity failure)), s)
  | .admitted identity precompile handle stage, s =>
    match s.onEntry handle (stage.next d.setup (errand now request precompile)) with
    | (none, s) => (.served (.error .shutDown), s)
    | (some stage, s) => arrive identity precompile handle stage s
  | .served answer, s => (.served answer, s)

/-- Step by step a request comes to an answer, with nobody else moving. -/
inductive Ends : Passage α → Engine σ κ α → Except Failure Response × Engine σ κ α → Prop
  | served (answer : Except Failure Response) (s : Engine σ κ α) :
      Ends (.served answer) s (answer, s)
  | step {passage passage' : Passage α} {s s' : Engine σ κ α}
      {r : Except Failure Response × Engine σ κ α}
      (hnext : passage.next d now request s = (passage', s')) (hrest : Ends passage' s' r) :
      Ends passage s r

end

/-- At most so many steps are left. -/
def left : Passage α → Nat
  | sent => 17
  | examined .. => 16
  | missed .. => 15
  | admitted _ _ _ stage => stage.left + 1
  | served _ => 0

/-! ## Single steps -/

section

variable {d : Dispatcher σ κ α} {now : Nat} {request : Request} {s s' : Engine σ κ α}
  {identity : Identity} {precompile : Bool} {handle : Handle} {failure : Failure}

/-- A request that cannot be examined is answered with that. -/
theorem next_sent_error (h : examine request = .error failure) :
    sent.next d now request s = (.served (.error failure), s.note (examineNotes request)) := by
  unfold next
  dsimp only
  rw [h]

/-- A request is examined before anything is looked up. -/
theorem next_sent_ok (h : examine request = .ok (identity, precompile)) :
    sent.next d now request s =
      (.examined identity precompile, s.note (examineNotes request)) := by
  unfold next
  dsimp only
  rw [h]

/-- What is noted when an entry is looked up. -/
def lookupEvent (identity : Identity) : Log.Event := event .trace s!"CacheLookup {identity}"

/-- An entry that is found gets the request. -/
theorem next_examined_found (h : s.cache.lookup identity = some handle) :
    (examined identity precompile).next d now request s =
      dispatch identity precompile handle (s.note [lookupEvent identity]) := by
  unfold next
  dsimp only
  rw [note_cache, h]
  rfl

/-- Where none is found, the request wants the lock of creation. -/
theorem next_examined_unloaded (h : s.cache.lookup identity = none) :
    (examined identity precompile).next d now request s =
      (.missed identity precompile, s.note [lookupEvent identity]) := by
  unfold next
  dsimp only
  rw [note_cache, h]
  rfl

/-- Under the lock of creation an entry is found or made, and it gets the request. -/
theorem next_missed_ok
    (h : (enter identity false (onStore (d.setup.store.has identity))).run s = (.ok handle, s')) :
    (missed identity precompile).next d now request s = dispatch identity precompile handle s' := by
  unfold next
  dsimp only
  rw [h]

/-- If there is no entry to be had, the request fails for that. -/
theorem next_missed_error
    (h : (enter identity false (onStore (d.setup.store.has identity))).run s =
      (.error failure, s')) :
    (missed identity precompile).next d now request s =
      (.served (.error (named identity failure)), s') := by
  unfold next
  dsimp only
  rw [h]

variable {stage : Entry.Stage α}

/-- An entry that is gone cannot be asked. -/
theorem next_admitted_lost (h : s.cache.entry? handle = none) :
    (admitted identity precompile handle stage).next d now request s =
      (.served (.error .shutDown), s) := by
  unfold next
  dsimp only
  rw [onEntry_none h]

/-- The request goes on inside its entry. -/
theorem next_admitted {e : Entry α} (h : s.cache.entry? handle = some e) :
    (admitted identity precompile handle stage).next d now request s =
      arrive identity precompile handle
        (stage.next d.setup (errand now request precompile) ⟨e, s.backend⟩).1
        (s.putBack handle
          (stage.next d.setup (errand now request precompile) ⟨e, s.backend⟩).2) := by
  unfold next
  dsimp only
  rw [onEntry_some h]

/-- A request was served or is on its way. -/
theorem served_or (passage : Passage α) :
    (∃ answer, passage = .served answer) ∨ ∀ answer, passage ≠ .served answer := by
  cases passage with
  | served answer => exact .inl ⟨answer, rfl⟩
  | _ => exact .inr fun _ => nofun

/-- A step inside an entry is a step of the whole way. -/
theorem left_arrive (identity : Identity) (precompile : Bool) (handle : Handle)
    (stage : Entry.Stage α) (s : Engine σ κ α) :
    (arrive identity precompile handle stage s).1.left ≤ stage.left + 1 := by
  cases stage with
  | answered answer => cases answer <;> exact Nat.zero_le _
  | _ => exact Nat.le_refl _

/-- Every step brings the answer nearer. -/
theorem left_next (d : Dispatcher σ κ α) (now : Nat) (request : Request) (passage : Passage α)
    (s : Engine σ κ α) (h : ∀ answer, passage ≠ .served answer) :
    (passage.next d now request s).1.left < passage.left := by
  cases passage with
  | served answer => exact absurd rfl (h answer)
  | sent =>
    cases hexamine : examine request with
    | error => rw [next_sent_error hexamine]; simp [left]
    | ok examined =>
      obtain ⟨identity, precompile⟩ := examined
      rw [next_sent_ok hexamine]
      simp [left]
  | examined identity =>
    cases hlookup : s.cache.lookup identity with
    | some => rw [next_examined_found hlookup]; simp [dispatch, left, Entry.Stage.left]
    | none => rw [next_examined_unloaded hlookup]; simp [left]
  | missed identity =>
    -- whether it is let in or not, the lock is behind the request
    rcases henter : (enter identity false (onStore (d.setup.store.has identity))).run s with
      ⟨_ | _, s'⟩
    · rw [next_missed_error henter]; simp [left]
    · rw [next_missed_ok henter]; simp [dispatch, left, Entry.Stage.left]
  | admitted identity precompile handle stage =>
    cases hentry : s.cache.entry? handle with
    | none => rw [next_admitted_lost hentry]; simp [left]
    | some e =>
      rw [next_admitted hentry]
      rcases Entry.Stage.left_next d.setup (errand now request precompile) stage ⟨e, s.backend⟩
        with ⟨answer, rfl⟩ | hless
      · cases answer <;> exact Nat.succ_pos _
      · exact Nat.lt_of_le_of_lt (left_arrive ..) (Nat.succ_lt_succ hless)

/-! ## Nobody interrupts -/

/-- What a request comes to when its entry has answered. -/
def finish (identity : Identity) (answer : Except Failure Response) (s : Engine σ κ α) :
    Except Failure Response × Engine σ κ α :=
  match answer with
  | .ok response => (.ok response, s.note [event .trace s!"Done {identity} -> {response.status}"])
  | .error failure => (.error (named identity failure), s)

/-- An answer of the entry ends the request. -/
theorem ends_answered (answer : Except Failure Response) :
    Ends d now request (arrive identity precompile handle (.answered answer) s).1
      (arrive identity precompile handle (.answered answer) s).2 (finish identity answer s) := by
  cases answer <;> exact .served _ _

/-- An entry has answered a request, or the request stays in it. -/
theorem answered_or (identity : Identity) (precompile : Bool) (handle : Handle)
    (stage : Entry.Stage α) (s : Engine σ κ α) :
    (∃ answer, stage = .answered answer) ∨
      arrive identity precompile handle stage s =
        (.admitted identity precompile handle stage, s) := by
  cases stage with
  | answered answer => exact .inl ⟨answer, rfl⟩
  | _ => exact .inr rfl

/-- A request goes through its entry as the entry goes. -/
theorem ends_arrive {focus : Entry.Focus σ κ α} {r : Except Failure Response × Entry.Focus σ κ α}
    (h : Entry.Stage.Ends d.setup (errand now request precompile) stage focus r)
    (s : Engine σ κ α) (hlt : handle < s.cache.entries.length) :
    Ends d now request (arrive identity precompile handle stage (s.putBack handle focus)).1
      (arrive identity precompile handle stage (s.putBack handle focus)).2
      (finish identity r.1 (s.putBack handle r.2)) := by
  induction h with
  | answered answer focus => exact ends_answered answer
  | @step stage stage' focus focus' r hnext hrest ih =>
    -- an answer of the entry ends the request, any other stage is inside
    rcases answered_or identity precompile handle stage (s.putBack handle focus) with
      ⟨answer, rfl⟩ | harrive
    · cases hnext
      exact ih
    · -- the engine keeps the entry between two steps, so each finds it as the last has left it
      have hentry : (s.putBack handle focus).cache.entry? handle = some focus.entry :=
        List.getElem?_set_self hlt
      rw [harrive]
      refine .step (next_admitted hentry) ?_
      have hfocus : (⟨focus.entry, (s.putBack handle focus).backend⟩ : Entry.Focus σ κ α) = focus :=
        rfl
      rw [hfocus, hnext, putBack_putBack]
      exact ih

/-- What is noted when a request comes to its entry. -/
def dispatchEvent (identity : Identity) : Log.Event := event .trace s!"Dispatching {identity}"

/-- What is left of a service when an entry was given. -/
def dispatched (d : Dispatcher σ κ α) (now : Nat) (request : Request) (identity : Identity)
    (precompile : Bool) (handle : Handle) (s : Engine σ κ α) :
    Except Failure Response × Engine σ κ α :=
  match s.cache.entry? handle with
  | none => (.error .shutDown, s.note [dispatchEvent identity])
  | some e =>
    let s := s.note [dispatchEvent identity]
    let r := (Entry.service d.setup now request precompile none).run ⟨e, s.backend⟩
    finish identity r.1 (s.putBack handle r.2)

/-- A request that is given to an entry ends as the entry services it. -/
theorem ends_dispatch :
    Ends d now request (dispatch identity precompile handle s).1
      (dispatch identity precompile handle s).2
      (dispatched d now request identity precompile handle s) := by
  unfold dispatched
  cases hentry : s.cache.entry? handle with
  -- a handle that leads nowhere answers nothing
  | none => exact .step (next_admitted_lost hentry) (.served _ _)
  | some e =>
    have hlt : handle < s.cache.entries.length := (List.getElem?_eq_some_iff.mp hentry).1
    have hself : (s.note [dispatchEvent identity]).putBack handle
        ⟨e, (s.note [dispatchEvent identity]).backend⟩ = s.note [dispatchEvent identity] :=
      putBack_self hentry
    have hcalled := Entry.Stage.ends_called d.setup (errand now request precompile)
      ⟨e, (s.note [dispatchEvent identity]).backend⟩
    have hends : Ends d now request
        (arrive identity precompile handle .called
          ((s.note [dispatchEvent identity]).putBack handle ⟨e, _⟩)).1
        (arrive identity precompile handle .called
          ((s.note [dispatchEvent identity]).putBack handle ⟨e, _⟩)).2 _ :=
      ends_arrive hcalled (s.note [dispatchEvent identity]) hlt
    rw [hself] at hends
    exact hends

/-! ## The service -/

section

variable (hexamine : examine request = .ok (identity, precompile))

include hexamine

/-- A request with an entry is what the entry makes of it. -/
theorem service_admitted
    (h : (getOrCreate identity false (onStore (d.setup.store.has identity))).run
      (s.note (examineNotes request ++ [lookupEvent identity])) = (.ok handle, s')) :
    d.service now request s = dispatched d now request identity precompile handle s' := by
  unfold lookupEvent at h
  unfold service
  rw [hexamine]
  dsimp only
  unfold serviceIdentity dispatched dispatchEvent
  rw [run_bind_ok (run_modify _ _), note_note]
  dsimp only
  rw [Option.isSome_none, run_bind_ok h, run_bind_ok (run_modify _ _), run_bind, run_modifyGet]
  cases hentry : s'.cache.entry? handle with
  | none =>
    rw [onEntry_none (by rw [note_cache]; exact hentry)]
    rfl
  | some e =>
    rw [onEntry_some (by rw [note_cache]; exact hentry)]
    dsimp only
    rcases (Entry.service d.setup now request precompile none).run
      ⟨e, (s'.note [event .trace s!"Dispatching {identity}"]).backend⟩ with ⟨_ | _, focus⟩
    · rfl
    · rfl

/-- A request without one fails. -/
theorem service_unadmitted
    (h : (getOrCreate identity false (onStore (d.setup.store.has identity))).run
      (s.note (examineNotes request ++ [lookupEvent identity])) = (.error failure, s')) :
    d.service now request s = (.error (named identity failure), s') := by
  unfold lookupEvent at h
  unfold service
  rw [hexamine]
  dsimp only
  unfold serviceIdentity
  rw [run_bind_ok (run_modify _ _), note_note]
  dsimp only
  rw [Option.isSome_none, run_bind_error h]

end

/-- **A request that nobody interrupts goes as `service`.** -/
theorem ends_sent (d : Dispatcher σ κ α) (now : Nat) (request : Request) (s : Engine σ κ α) :
    Ends d now request .sent s (d.service now request s) := by
  cases hexamine : examine request with
  | error failure =>
    -- a request that cannot be examined stays outside
    have hservice : d.service now request s = (.error failure, s.note (examineNotes request)) := by
      unfold service
      rw [hexamine]
    rw [hservice]
    exact .step (next_sent_error hexamine) (.served _ _)
  | ok examined =>
    obtain ⟨identity, precompile⟩ := examined
    refine .step (next_sent_ok hexamine) ?_
    have hadmission := getOrCreate_eq identity false (onStore (d.setup.store.has identity))
      (s.note (examineNotes request ++ [lookupEvent identity]))
    cases hlookup : s.cache.lookup identity with
    | some handle =>
      -- the entry was there at the first look
      rw [note_cache, hlookup] at hadmission
      rw [service_admitted hexamine hadmission]
      have hnext : (examined identity precompile).next d now request
            (s.note (examineNotes request)) =
          dispatch identity precompile handle
            (s.note (examineNotes request ++ [lookupEvent identity])) := by
        rw [next_examined_found (by rw [note_cache]; exact hlookup), note_note]
      exact .step hnext ends_dispatch
    | none =>
      -- the request takes the lock, and looks again under it
      rw [note_cache, hlookup] at hadmission
      refine .step (next_examined_unloaded hlookup) ?_
      rw [note_note]
      rcases henter : (enter identity false (onStore (d.setup.store.has identity))).run
        (s.note (examineNotes request ++ [lookupEvent identity])) with ⟨failure | handle, s'⟩
      · rw [henter] at hadmission
        rw [service_unadmitted hexamine hadmission]
        exact .step (next_missed_error henter) (.served _ _)
      · rw [henter] at hadmission
        rw [service_admitted hexamine hadmission]
        exact .step (next_missed_ok henter) ends_dispatch

end

end Passage

end Dispatcher

end TemplateServer
