import TemplateServer.Proofs.Session

/-!
# What production answers

In production nobody looks whether a source has changed. What is answered about an identity can be
told from two things: the text that was compiled last, which is frozen, and whether a reload was
asked for since. `Shelf` is that much of an identity, and `Stock` all shelves with the texts of the
sources and a list of what was compiled.

A text is frozen for the first time or at the cost of a mark. `Stock.Frugal` keeps the account, so
an identity is compiled once, and once more for each mark at most (`Frugal.successes_le`).
-/

namespace TemplateServer

/-- What becomes of a site: its sources change, a reload of an identity is asked for, or a request
comes in. -/
inductive Act
  | edit (edit : Edit)
  | mark (identity : Identity)
  | service (now : Nat) (request : Request)

/-- A reload of this identity is asked for. -/
def Act.marks (identity : Identity) : Act → Bool
  | .mark marked => marked = identity
  | _ => false

namespace Dispatcher

variable {κ α : Type} (d : Dispatcher Memory κ α)

/-- Does one thing. A mark concerns the entry that is loaded, if there is one. -/
def act : Act → Engine Memory κ α → Option (Except Failure Response) × Engine Memory κ α
  | .edit edit, s => (none, s.withStore (edit.onMemory s.backend.store))
  | .mark identity, s =>
    match s.cache.lookup identity with
    | none => (none, s)
    | some handle => (none, s.markForReload handle)
  | .service now request, s =>
    let (answer, s) := d.service now request s
    (some answer, s)

/-- Does one thing after the other. -/
def acts :
    List Act → Engine Memory κ α → List (Option (Except Failure Response)) × Engine Memory κ α
  | [], s => ([], s)
  | a :: rest, s =>
    let (answer, s) := d.act a s
    let (answers, s) := acts rest s
    (answer :: answers, s)

end Dispatcher

/-! ## The shelves -/

/-- What is known of an identity. -/
structure Shelf where
  /-- The text that is answered from. -/
  frozen : Option String
  /-- A reload was asked for. -/
  pending : Bool

namespace Shelf

def empty : Shelf := ⟨none, false⟩

/-- Freezes the text that there is, if it is not refused: what to answer from, the shelf then, and
what the compiler was given. -/
def freeze (identity : Identity) (current : Option String) (s : Shelf) :
    Except Failure String × Shelf × Option String :=
  match current with
  | none => (.error (.sourceNotFound identity.text), s, none)
  | some text =>
    if text = Echo.refusedSource then
      (.error (.compile identity.text "rejected by test compiler"), s, some text)
    else (.ok text, ⟨some text, false⟩, some text)

/-- A text that is frozen answers as long as no reload is asked for. -/
def take (identity : Identity) (current : Option String) (s : Shelf) :
    Except Failure String × Shelf × Option String :=
  match s with
  | ⟨some text, false⟩ => (.ok text, s, none)
  | _ => s.freeze identity current

/-- Where nothing is frozen, the text that there is is taken. -/
theorem take_unfrozen {identity : Identity} {current : Option String} {s : Shelf}
    (h : s.frozen = none) : s.take identity current = s.freeze identity current := by
  obtain ⟨frozen, pending⟩ := s
  cases h
  rfl

/-- The failures of a shelf have their names already. -/
theorem named_take {identity named : Identity} {current : Option String} {s : Shelf}
    {failure : Failure} (h : (s.take identity current).1 = .error failure) :
    Dispatcher.named named failure = failure := by
  unfold take at h
  split at h
  next => cases h
  next =>
    unfold freeze at h
    split at h
    next => cases h; rfl
    next =>
      split at h
      next => cases h; rfl
      next => cases h

/-- What a text answers. -/
def answer (precompile : Bool) (text : String) : Response :=
  if precompile then .compiled else .html text

end Shelf

/-- The texts of the sources, the shelves, and what was compiled. -/
structure Stock where
  contents : Contents
  shelf : Identity → Shelf
  compiled : List (Identity × String)

namespace Stock

def empty : Stock := ⟨fun _ => none, fun _ => .empty, []⟩

/-- Another shelf for one identity. -/
def setShelf (identity : Identity) (shelf : Shelf) (r : Stock) : Stock :=
  { r with shelf := fun other => if other = identity then shelf else r.shelf other }

theorem setShelf_self (identity : Identity) (r : Stock) :
    r.setShelf identity (r.shelf identity) = r := by
  unfold setShelf
  congr 1
  funext other
  split
  next hother => rw [hother]
  next => rfl

/-- Answers a request for one identity from its shelf. -/
def serve (identity : Identity) (precompile : Bool) (r : Stock) :
    Except Failure Response × Stock :=
  let (text, shelf, given) := (r.shelf identity).take identity (r.contents identity)
  (text.map (Shelf.answer precompile),
    { r.setShelf identity shelf with
      compiled := r.compiled ++ given.toList.map fun text => (identity, text) })

/-- The failures of a stock have their names already. -/
theorem named_serve (r : Stock) (identity : Identity) (precompile : Bool) :
    (r.serve identity precompile).1.mapError (Dispatcher.named identity) =
      (r.serve identity precompile).1 := by
  have hanswer : (r.serve identity precompile).1 =
      ((r.shelf identity).take identity (r.contents identity)).1.map (Shelf.answer precompile) :=
    rfl
  rw [hanswer]
  cases htake : ((r.shelf identity).take identity (r.contents identity)).1 with
  | error failure => exact congrArg Except.error (Shelf.named_take htake)
  | ok text => rfl

/-- Where nothing is frozen and there is no source, nothing changes. -/
theorem serve_missing {r : Stock} {identity : Identity} {precompile : Bool}
    (habsent : r.contents identity = none) (hfrozen : (r.shelf identity).frozen = none) :
    r.serve identity precompile = (.error (.sourceNotFound identity.text), r) := by
  unfold serve
  rw [habsent, Shelf.take_unfrozen hfrozen]
  show (_, { r.setShelf identity (r.shelf identity) with compiled := r.compiled ++ [] }) = _
  rw [setShelf_self, List.append_nil]
  rfl

/-- Answers a request. -/
def service (request : Request) (r : Stock) : Except Failure Response × Stock :=
  match request.resolve with
  | .error failure => (.error failure, r)
  | .ok identity =>
    match Directive.detect request.query with
    | .error failure => (.error failure, r)
    | .ok precompile => r.serve identity precompile

/-- A request that cannot be examined leaves the stock as it is. -/
theorem service_unexamined (r : Stock) {request : Request} {failure : Failure}
    (h : Dispatcher.examine request = .error failure) :
    r.service request = (.error failure, r) := by
  unfold service
  rcases Dispatcher.examine_error h with hresolve | ⟨identity, hresolve, hdetect⟩
  · rw [hresolve]
  · rw [hresolve]
    dsimp only
    rw [hdetect]

/-- A request that is examined is served from the shelf of its identity. -/
theorem service_examined (r : Stock) {request : Request} {identity : Identity} {precompile : Bool}
    (h : Dispatcher.examine request = .ok (identity, precompile)) :
    r.service request = r.serve identity precompile := by
  obtain ⟨hresolve, hdetect⟩ := Dispatcher.examine_ok h
  unfold service
  rw [hresolve]
  dsimp only
  rw [hdetect]

/-- What an act answers, and the stock after it. -/
def act : Act → Stock → Option (Except Failure Response) × Stock
  | .edit edit, r => (none, { r with contents := edit.onContents r.contents })
  | .mark identity, r =>
    (none, r.setShelf identity { r.shelf identity with pending := true })
  | .service _ request, r =>
    let (answer, r) := r.service request
    (some answer, r)

/-- What acts answer, one after the other. -/
def acts : List Act → Stock → List (Option (Except Failure Response)) × Stock
  | [], r => ([], r)
  | a :: rest, r =>
    let (answer, r) := r.act a
    let (answers, r) := acts rest r
    (answer :: answers, r)

end Stock

/-! ## How often a text is frozen -/

/-- How often a text of an identity was compiled and not refused. -/
def successes (identity : Identity) (compiled : List (Identity × String)) : Nat :=
  compiled.countP fun c => c.1 = identity ∧ c.2 ≠ Echo.refusedSource

theorem successes_append (identity : Identity) (compiled compiled' : List (Identity × String)) :
    successes identity (compiled ++ compiled') =
      successes identity compiled + successes identity compiled' := List.countP_append

/-- Texts of another identity do not count. -/
theorem successes_other {identity other : Identity} (h : other ≠ identity) (given : Option String) :
    successes identity (given.toList.map fun text => (other, text)) = 0 := by
  cases given with
  | none => rfl
  | some text => simp [successes, h]

namespace Shelf

/-- One text may have been frozen without a mark. -/
def credit (s : Shelf) : Nat := if s.frozen.isSome then 1 else 0

/-- A mark on a frozen text is worth one more compilation. -/
def owed (s : Shelf) : Nat := if s.frozen.isSome && s.pending then 1 else 0

/-- Where a first text or a mark pays for it, a text may be frozen. -/
theorem freeze_owed (identity : Identity) (current : Option String) {s : Shelf}
    (h : s.credit ≤ s.owed) :
    let frozen := s.freeze identity current
    successes identity (frozen.2.2.toList.map fun text => (identity, text)) + frozen.2.1.owed +
      s.credit ≤ frozen.2.1.credit + s.owed := by
  unfold freeze
  cases current with
  | none =>
    show 0 + s.owed + s.credit ≤ s.credit + s.owed
    omega
  | some text =>
    by_cases hrefused : text = Echo.refusedSource
    · have hcount : successes identity [(identity, text)] = 0 := by simp [successes, hrefused]
      dsimp only
      rw [if_pos hrefused]
      show successes identity [(identity, text)] + s.owed + s.credit ≤ s.credit + s.owed
      omega
    · have hcount : successes identity [(identity, text)] = 1 := by simp [successes, hrefused]
      dsimp only
      rw [if_neg hrefused]
      show successes identity [(identity, text)] + 0 + s.credit ≤ 1 + s.owed
      omega

/-- A text that is frozen is the first one, or a mark is used up. -/
theorem take_owed (identity : Identity) (current : Option String) (s : Shelf) :
    let taken := s.take identity current
    successes identity (taken.2.2.toList.map fun text => (identity, text)) + taken.2.1.owed +
      s.credit ≤ taken.2.1.credit + s.owed := by
  rcases s with ⟨_ | text, _ | _⟩
  · exact freeze_owed identity current (Nat.zero_le _)
  · exact freeze_owed identity current (Nat.zero_le _)
  · exact Nat.le_refl 1
  · exact freeze_owed identity current (Nat.le_refl 1)

end Shelf

namespace Stock

/-- The texts that were frozen, and a mark that is still to be used, are paid for by the first one
and the marks so far. -/
def Frugal (identity : Identity) (marks : Nat) (r : Stock) : Prop :=
  successes identity r.compiled + (r.shelf identity).owed ≤ (r.shelf identity).credit + marks

variable {identity : Identity} {marks : Nat} {r : Stock}

/-- Serving any identity costs no more than is paid for. -/
theorem Frugal.serve (h : r.Frugal identity marks) (other : Identity) (precompile : Bool) :
    (r.serve other precompile).2.Frugal identity marks := by
  have howed := (r.shelf other).take_owed other (r.contents other)
  unfold Frugal at h ⊢
  unfold Stock.serve
  rcases htake : (r.shelf other).take other (r.contents other) with ⟨text, shelf, given⟩
  rw [htake] at howed
  dsimp only [setShelf] at howed ⊢
  rw [successes_append]
  by_cases hother : identity = other
  · subst hother
    rw [if_pos rfl]
    omega
  · rw [if_neg hother, successes_other (Ne.symm hother)]
    exact h

/-- A mark pays for one compilation more. -/
theorem Frugal.act (h : r.Frugal identity marks) (a : Act) :
    (r.act a).2.Frugal identity (marks + if a.marks identity then 1 else 0) := by
  cases a with
  | edit => exact h
  | mark marked =>
    by_cases hmarked : identity = marked
    · subst hmarked
      have hmarks : (Act.mark identity).marks identity = true := by simp [Act.marks]
      have hshelf : ((r.act (.mark identity)).2.shelf identity) =
          { r.shelf identity with pending := true } := if_pos rfl
      have howed : Shelf.owed { r.shelf identity with pending := true } ≤ 1 := by
        unfold Shelf.owed
        split <;> omega
      have hcredit : Shelf.credit { r.shelf identity with pending := true } =
          (r.shelf identity).credit := rfl
      unfold Frugal at h ⊢
      rw [hmarks, if_pos rfl, hshelf, hcredit]
      show successes identity r.compiled + _ ≤ _
      omega
    · have hmarks : (Act.mark marked).marks identity = false := by
        simpa [Act.marks] using Ne.symm hmarked
      have hshelf : (r.act (.mark marked)).2.shelf identity = r.shelf identity := if_neg hmarked
      unfold Frugal at h ⊢
      rw [hmarks, if_neg Bool.false_ne_true, hshelf]
      exact h
  | service now request =>
    show ((r.service request).2).Frugal identity marks
    cases hexamine : Dispatcher.examine request with
    | error failure =>
      rw [service_unexamined r hexamine]
      exact h
    | ok examined =>
      obtain ⟨other, precompile⟩ := examined
      rw [service_examined r hexamine]
      exact h.serve other precompile

theorem Frugal.acts (h : r.Frugal identity marks) (acts : List Act) :
    (r.acts acts).2.Frugal identity (marks + acts.countP (Act.marks identity)) := by
  induction acts generalizing r marks with
  | nil => exact h
  | cons a acts ih =>
    have hrest := ih (h.act a)
    rw [List.countP_cons, Nat.add_comm (acts.countP _), ← Nat.add_assoc]
    exact hrest

/-- Each identity is compiled once, and once more for a mark. -/
theorem Frugal.successes_le (h : r.Frugal identity marks) :
    successes identity r.compiled ≤ 1 + marks := by
  have hcredit : (r.shelf identity).credit ≤ 1 := by
    unfold Shelf.credit
    split <;> omega
  unfold Frugal at h
  omega

end Stock

end TemplateServer
