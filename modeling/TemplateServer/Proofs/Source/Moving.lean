import TemplateServer.Proofs.Source.Timed

/-!
# A store that changes while it is asked

`Moving` is a store whose sources are changed by a history that nobody waits for. The history is
cut into batches, and one batch happens before each question; a batch may be empty. Where the
times in the history increase (`Increasing`), the store is a `TimedStore`: what is ahead of a
state is newer than all that it holds (`Follows`), and every batch keeps that.
-/

namespace TemplateServer

/-- A change to the sources. -/
inductive Change
  | put (identity : Identity) (text : String) (time : Nat)
  | remove (identity : Identity)

/-- The time of a source that is put. -/
def Change.time? : Change → Option Nat
  | .put _ _ time => some time
  | .remove _ => none

/-- The times of the sources that are put, in order. -/
def Change.times (changes : List Change) : List Nat := changes.filterMap Change.time?

/-- Every source that is put is newer than those before it. -/
def Increasing (changes : List Change) : Prop := (Change.times changes).Pairwise (· < ·)

instance (changes : List Change) : Decidable (Increasing changes) :=
  inferInstanceAs (Decidable ((Change.times changes).Pairwise (· < ·)))

/-- A time of a list of changes is that of the first one or of another one. -/
theorem Change.mem_times_cons {c : Change} {changes : List Change} {time : Nat} :
    time ∈ times (c :: changes) ↔ c.time? = some time ∨ time ∈ times changes := by
  unfold times
  rw [List.filterMap_cons]
  cases htime : c.time? with
  | none => simp
  | some put =>
    rw [List.mem_cons, Option.some_inj]
    exact or_congr_left eq_comm

/-- A history in order goes on in order, and with newer sources than it began. -/
theorem Increasing.of_cons {c : Change} {changes : List Change} (h : Increasing (c :: changes)) :
    Increasing changes ∧
      ∀ {time later}, c.time? = some time → later ∈ Change.times changes → time < later := by
  unfold Increasing Change.times at h
  rw [List.filterMap_cons] at h
  cases htime : c.time? with
  | none =>
    rw [htime] at h
    exact ⟨h, fun hput => by cases hput⟩
  | some put =>
    rw [htime] at h
    obtain ⟨hfirst, hrest⟩ := List.pairwise_cons.mp h
    refine ⟨hrest, fun hput hlater => ?_⟩
    cases hput
    exact hfirst _ hlater

/-- Sets or takes away the text of one source. -/
def Contents.set (identity : Identity) (text : Option String) (contents : Contents) : Contents :=
  fun other => if other = identity then text else contents other

/-- What a change makes of the texts. -/
def Contents.change (contents : Contents) : Change → Contents
  | .put identity text _ => contents.set identity (some text)
  | .remove identity => contents.set identity none

/-- The texts after a history of changes that begins without sources. -/
def Contents.after (history : List Change) : Contents := history.foldl Contents.change fun _ => none

namespace Memory

/-- What a change makes of the sources. -/
def change (m : Memory) : Change → Memory
  | .put identity text time => m.putAt identity text time
  | .remove identity => m.remove identity

/-- What changes make of the sources, one after the other. -/
def changes (m : Memory) (batch : List Change) : Memory := batch.foldl change m

/-- The texts of the sources. -/
abbrev contents (m : Memory) : Contents := timed.contents m

/-- Reading answers the contents, and leaves the store as it is. -/
theorem read_eq (identity : Identity) (m : Memory) :
    store.read identity m = ((match m.contents identity with
      | some text => .ok text
      | none => .error (.sourceNotFound identity.text)), m) := by
  unfold store
  dsimp only
  show _ = (match (m.find? identity).map (·.1) with
    | some text => Except.ok text
    | none => .error (Failure.sourceNotFound identity.text), m)
  cases m.find? identity <;> rfl

/-- The store says whether there are contents. -/
theorem has_eq (identity : Identity) (m : Memory) :
    store.has identity m = ((m.contents identity).isSome, m) := by
  show ((m.find? identity).isSome, m) = (((m.find? identity).map (·.1)).isSome, m)
  rw [Option.isSome_map]

/-- What was read is the text that there is. -/
theorem source_of_read {identity : Identity} {m m' m'' : Memory} {modified : Option Nat}
    {source : String} (hmod : store.modified identity m = (modified, m'))
    (hread : store.read identity m' = (.ok source, m'')) :
    m.contents identity = some source ∧ m'' = m := by
  obtain ⟨-, rfl⟩ := Prod.mk.inj hmod
  rw [read_eq] at hread
  obtain ⟨hanswer, rfl⟩ := Prod.mk.inj hread
  cases htext : m.contents identity with
  | none => rw [htext] at hanswer; cases hanswer
  | some text => rw [htext] at hanswer; cases hanswer; exact ⟨rfl, rfl⟩

/-- A source that is put replaces the contents of its identity, whatever the time. -/
theorem contents_putAt (identity : Identity) (text : String) (time : Nat) (m : Memory) :
    (m.putAt identity text time).contents = m.contents.set identity (some text) := by
  funext other
  show ((m.putAt identity text time).find? other).map (·.1) = _
  rw [find?_putAt]
  unfold Contents.set
  split
  next => rfl
  next => rfl

/-- A source that is removed leaves no contents of its identity. -/
theorem contents_remove (identity : Identity) (m : Memory) :
    (m.remove identity).contents = m.contents.set identity none := by
  funext other
  show ((m.remove identity).find? other).map (·.1) = _
  rw [find?_remove]
  unfold Contents.set
  split
  next => rfl
  next => rfl

/-- A change does to the contents what it does to the store. -/
theorem contents_change (m : Memory) (c : Change) :
    (m.change c).contents = m.contents.change c := by
  cases c with
  | put identity text time => exact contents_putAt identity text time m
  | remove identity => exact contents_remove identity m

theorem contents_changes (m : Memory) (batch : List Change) :
    (m.changes batch).contents = batch.foldl Contents.change m.contents := by
  induction batch generalizing m with
  | nil => rfl
  | cons c batch ih =>
    show ((m.change c).changes batch).contents = _
    rw [ih, contents_change]
    rfl

/-- The changes ahead are in order, and newer than what is there. -/
structure Follows (m : Memory) (ahead : List Change) : Prop where
  increasing : Increasing ahead
  newer : ∀ {identity text time later}, m.find? identity = some (text, time) →
    later ∈ Change.times ahead → time < later

/-- A source that is there after a change was there before, or was put by it. -/
theorem found_of_change {m : Memory} {c : Change} {identity : Identity} {text : String} {time : Nat}
    (h : (m.change c).find? identity = some (text, time)) :
    m.find? identity = some (text, time) ∨ c.time? = some time := by
  cases c with
  | put other newText newTime =>
    rw [change, find?_putAt] at h
    by_cases hid : identity = other
    · rw [if_pos hid] at h
      obtain ⟨-, rfl⟩ := Prod.mk.inj (Option.some.inj h)
      exact .inr rfl
    · rw [if_neg hid] at h
      exact .inl h
  | remove other =>
    rw [change, find?_remove] at h
    by_cases hid : identity = other
    · rw [if_pos hid] at h
      cases h
    · rw [if_neg hid] at h
      exact .inl h

/-- One change keeps the order. -/
theorem Follows.change {m : Memory} {c : Change} {ahead : List Change}
    (h : m.Follows (c :: ahead)) : (m.change c).Follows ahead := by
  obtain ⟨hrest, hfirst⟩ := h.increasing.of_cons
  refine ⟨hrest, fun hfind hlater => ?_⟩
  rcases found_of_change hfind with hfind | hput
  · exact h.newer hfind (Change.mem_times_cons.mpr (.inr hlater))
  · exact hfirst hput hlater

/-- A batch of changes keeps the order, and what is there after it was there before or was put. -/
theorem Follows.changes {m : Memory} {batch ahead : List Change} (h : m.Follows (batch ++ ahead)) :
    (m.changes batch).Follows ahead ∧
      ∀ {identity text time}, (m.changes batch).find? identity = some (text, time) →
        m.find? identity = some (text, time) ∨ time ∈ Change.times batch := by
  induction batch generalizing m with
  | nil => exact ⟨h, .inl⟩
  | cons c batch ih =>
    obtain ⟨hrest, hfound⟩ := ih (Follows.change h)
    refine ⟨hrest, fun hfind => ?_⟩
    -- a source that the later changes left alone may still have been put by the first
    rcases hfound hfind with hfind | hmem
    · rcases found_of_change hfind with hfind | hput
      · exact .inl hfind
      · exact .inr (Change.mem_times_cons.mpr (.inl hput))
    · exact .inr (Change.mem_times_cons.mpr (.inr hmem))

end Memory

/-- Sources, and the batches of the history that are still ahead. -/
structure Moving where
  memory : Memory
  ahead : List (List Change)

namespace Moving

/-- The next batch happens. -/
def step (s : Moving) : Moving :=
  match s.ahead with
  | [] => s
  | batch :: ahead => ⟨s.memory.changes batch, ahead⟩

/-- All that is ahead has happened. -/
def final (s : Moving) : Memory := s.memory.changes s.ahead.flatten

/-- A step does not change what the store comes to in the end. -/
theorem step_final (s : Moving) : s.step.final = s.final := by
  unfold step
  split
  next => rfl
  next batch ahead hahead =>
    unfold final Memory.changes
    rw [hahead, List.flatten_cons, List.foldl_append]

/-- Nothing is left of the history. -/
def Settled (s : Moving) : Prop := s.ahead.flatten = []

instance (s : Moving) : Decidable s.Settled :=
  decidable_of_iff (s.ahead.flatten.isEmpty = true) List.isEmpty_iff

/-- What a settled store holds is the end of its history. -/
theorem Settled.final_eq {s : Moving} (h : s.Settled) : s.final = s.memory := by
  unfold final
  rw [show s.ahead.flatten = [] from h]
  rfl

theorem Settled.step {s : Moving} (h : s.Settled) : s.step.Settled ∧ s.step.memory = s.memory := by
  unfold Moving.step
  split
  next => exact ⟨h, rfl⟩
  next batch ahead hahead =>
    unfold Settled at h
    rw [hahead, List.flatten_cons, List.append_eq_nil_iff] at h
    obtain ⟨rfl, hrest⟩ := h
    exact ⟨hrest, rfl⟩

/-- What is ahead follows on what is there. -/
def Valid (s : Moving) : Prop := s.memory.Follows s.ahead.flatten

theorem Valid.step {s : Moving} (h : s.Valid) : s.step.Valid := by
  unfold Moving.step
  split
  next => exact h
  next batch ahead hahead =>
    unfold Valid at h
    rw [hahead, List.flatten_cons] at h
    exact (Memory.Follows.changes h).1

/-- The sources, their times, and the times ahead. -/
def chronicle : Chronicle Moving where
  find? identity s := s.memory.find? identity
  Upcoming s time := time ∈ Change.times s.ahead.flatten

/-- No step goes back in time. -/
theorem Valid.advances_step {s : Moving} (h : s.Valid) : chronicle.Advances s s.step := by
  unfold Moving.step
  split
  next => exact .refl s
  next batch ahead hahead =>
    unfold Valid at h
    rw [hahead, List.flatten_cons] at h
    -- the times ahead are those of this batch and then those of the batches after it
    have htimes : Change.times s.ahead.flatten =
        Change.times batch ++ Change.times ahead.flatten := by
      rw [hahead, List.flatten_cons]
      exact List.filterMap_append
    constructor
    · intro time hup
      show time ∈ Change.times s.ahead.flatten
      rw [htimes]
      exact List.mem_append_right _ hup
    · intro identity text time hfind
      rcases (Memory.Follows.changes h).2 hfind with hold | hput
      · exact .inl hold
      · refine .inr ?_
        show time ∈ Change.times s.ahead.flatten
        rw [htimes]
        exact List.mem_append_left _ hput

/-- The store that moves on before each answer. -/
def timed : TimedStore Moving where
  toChronicle := chronicle
  step := step
  Valid := Valid
  Settled := Settled
  newer h hfind hup := h.newer hfind hup
  valid_step h := h.step
  advances_step h := h.advances_step
  settled_step h := h.step.1
  find?_step identity h := by
    show (Moving.step _).memory.find? identity = _
    rw [h.step.2]
    rfl

/-- A store without sources, with a history before it. -/
def start (history : List (List Change)) : Moving := ⟨.empty, history⟩

theorem start_valid {history : List (List Change)} (h : Increasing history.flatten) :
    (start history).Valid := ⟨h, fun hfind _ => by cases hfind⟩

/-- The texts at the end of a history. -/
theorem start_final (history : List (List Change)) :
    (start history).final.contents = Contents.after history.flatten :=
  Memory.contents_changes _ _

/-- Once the store is settled, it holds what the whole history comes to. -/
theorem contents_of_moves {history : List (List Change)} {s : Moving}
    (h : timed.Moves (start history) s) (hs : s.Settled) :
    timed.contents s = Contents.after history.flatten := by
  -- the end of the history is the same from every state on the way
  have hfinal : s.final = (start history).final := by
    clear hs
    induction h with
    | refl => rfl
    | step _ ih => exact (step_final _).trans ih
  rw [← start_final, ← hfinal, hs.final_eq]
  rfl

end Moving

end TemplateServer
