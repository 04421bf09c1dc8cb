import TemplateServer.Proofs.Entry.Refresh
import TemplateServer.Proofs.Ledger

/-!
# What an entry does with its artifact

Whatever a request comes to, and whatever becomes of the entry, the artifact that is held and the
ledger have moved by trades. A compilation is the only way to come by an artifact; it is put in
place by `Focus.publish`, which releases the one before, so every artifact that an entry has had is
held or was released.
-/

namespace TemplateServer.Entry

variable {σ κ α : Type} {setup : Setup σ κ α}

/-- The number of the artifact that is held. -/
def number (e : Entry (Nat × α)) : Option Nat := e.held.map (·.artifact.1)

theorem number_of_held {e : Entry (Nat × α)} {held : Held (Nat × α)} (h : e.held = some held) :
    e.number = some held.artifact.1 := by
  unfold number
  rw [h]
  rfl

theorem number_of_unheld {e : Entry (Nat × α)} (h : e.held = none) : e.number = none := by
  unfold number
  rw [h]
  rfl

/-- What the ledger says, and the number that is held. -/
def Focus.book (s : Focus σ (κ × Ledger) (Nat × α)) : Option Nat × Ledger :=
  (s.entry.number, s.backend.compiler.2)

section

variable {now : Nat} {s s' : Focus σ (κ × Ledger) (Nat × α)}

theorem NeedsCompile.book_eq (h : NeedsCompile setup.numbered now s s') : s'.book = s.book := by
  cases h with
  | unheld => rfl
  | requested => rfl
  | newer => rfl

/-- An artifact that has just been made takes the place of the one that is held. -/
theorem Focus.succeed_trade {artifact : α} {k : κ} {l : Ledger} (modified : Option Nat)
    (hcompiler : s.backend.compiler = (k, l ++ [.made l.made.length])) :
    Trade (s.entry.number, l)
      (s.succeed setup.numbered ⟨(l.made.length, artifact), modified⟩).book := by
  have hbook : (s.succeed setup.numbered ⟨(l.made.length, artifact), modified⟩).book =
      (s.publish setup.numbered ⟨(l.made.length, artifact), modified⟩).book := by
    unfold succeed
    split <;> rfl
  rw [hbook]
  rcases s.publish_cases setup.numbered ⟨(l.made.length, artifact), modified⟩ with
    ⟨hheld, hpublish⟩ | ⟨previous, events, hheld, hpublish⟩
  · have hafter : (s.publish setup.numbered ⟨(l.made.length, artifact), modified⟩).book =
        (some l.made.length, l ++ [.made l.made.length]) := by
      rw [hpublish]
      refine Prod.ext rfl ?_
      show s.backend.compiler.2 = _
      rw [hcompiler]
    rw [number_of_unheld hheld, hafter]
    exact .make l
  · have hafter : (s.publish setup.numbered ⟨(l.made.length, artifact), modified⟩).book =
        (some l.made.length, l ++ [.made l.made.length, .released previous.artifact.1
          (setup.compiler.release previous.artifact.2 k).1.isOk]) := by
      rw [hpublish, hcompiler]
      refine Prod.ext rfl ?_
      show (l ++ [.made l.made.length]) ++ [_] = _
      rw [List.append_assoc]
      rfl
    rw [number_of_held hheld, hafter]
    exact .replace _ _ l

/-- A refresh trades at most once. -/
theorem Refreshed.trades {result : Except Failure Unit}
    (h : Refreshed setup.numbered now s result s') : Trades s.book s'.book := by
  cases h with
  | notDue => exact .refl
  | current => exact .refl
  | undated => exact .refl
  | vanished => exact .refl
  | destroyed hneed =>
    rw [hneed.book_eq]
  | unreadable hneed =>
    rw [← hneed.book_eq]
    exact .refl
  | @refused s₁ modified store store' source failure compiler hneed hdead hmod hread hcomp =>
    have hbook : compiler.2 = s₁.backend.compiler.2 := by
      unfold Setup.numbered Compiler.numbered at hcomp
      dsimp only at hcomp
      split at hcomp
      next => cases hcomp
      next => cases hcomp; rfl
    rw [← hneed.book_eq]
    show Trades s₁.book (s₁.entry.number, compiler.2)
    rw [hbook]
    exact .refl
  | @compiled s₁ modified store store' source artifact compiler hneed hdead hmod hread hcomp =>
    rw [← hneed.book_eq]
    refine .single ?_
    unfold Setup.numbered Compiler.numbered at hcomp
    dsimp only at hcomp
    split at hcomp
    next artifact' k _ =>
      obtain ⟨hartifact, rfl⟩ := Prod.mk.inj hcomp
      cases hartifact
      exact Focus.succeed_trade (s := ((s₁.withStore store').withCompiler _).note _) modified rfl
    next => cases hcomp

/-- A request trades at most twice: it may compile, and execute what is held then. -/
theorem Serviced.trades {request : Request} {precompile : Bool} {error : Option String}
    {answer : Except Failure Response}
    (h : Serviced setup.numbered now request precompile error s answer s') :
    Trades s.book s'.book := by
  cases h with
  | failed hr => exact (Refreshed.of_run _ _ hr).trades
  | precompiled hr => exact (Refreshed.of_run _ _ hr).trades
  | unheld hr => exact (Refreshed.of_run _ _ hr).trades
  | @executed s₁ held body compiler _ hr _ hheld hexec _ =>
    refine (Refreshed.of_run _ _ hr).trades.tail ?_
    obtain ⟨-, rfl⟩ := Prod.mk.inj hexec
    show Trade (s₁.entry.number, s₁.backend.compiler.2) (s₁.entry.number, _ ++ [_])
    rw [number_of_held hheld]
    exact .execute _ _

end

/-- The entry after it was taken down. -/
def retired {β : Type} (e : Entry β) : Entry β := { e with destroyed := true, held := none }

section

variable (setup)

/-- Taking down an entry that holds nothing only retires it. -/
theorem Focus.destroy_unheld {s : Focus σ κ α} (h : s.entry.held = none) :
    s.destroy setup = (.ok (), s.update retired) := by
  unfold destroy
  rw [h]
  rfl

/-- Taking down any other entry releases its artifact. -/
theorem Focus.destroy_held {s : Focus σ κ α} {held : Held α} (h : s.entry.held = some held) :
    s.destroy setup =
      ((setup.compiler.release held.artifact s.backend.compiler).1,
        (s.update retired).withCompiler
          (setup.compiler.release held.artifact s.backend.compiler).2) := by
  unfold destroy
  rw [h]
  rfl

theorem Focus.destroy_entry (s : Focus σ κ α) : (s.destroy setup).2.entry = s.entry.retired := by
  cases hheld : s.entry.held with
  | none =>
    rw [destroy_unheld _ hheld]
    rfl
  | some held =>
    rw [destroy_held _ hheld]
    rfl

/-- To take down an entry is to release what it holds. -/
theorem Focus.destroy_trades (s : Focus σ (κ × Ledger) (Nat × α)) :
    Trades s.book (s.destroy setup.numbered).2.book := by
  cases hheld : s.entry.held with
  | none =>
    rw [destroy_unheld _ hheld]
    show Trades (s.entry.number, s.backend.compiler.2) (none, s.backend.compiler.2)
    rw [number_of_unheld hheld]
  | some held =>
    rw [destroy_held _ hheld]
    show Trades (s.entry.number, s.backend.compiler.2) (none, s.backend.compiler.2 ++ [_])
    rw [number_of_held hheld]
    exact .single (.release _ _ _)

end

end TemplateServer.Entry
