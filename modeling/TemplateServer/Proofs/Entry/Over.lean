import TemplateServer.Proofs.Entry.Rush

/-!
# After the teardown of an entry

When the teardown has come to its end, requests may still be on their way, and others may come. They
find nothing in the entry, and behind the lock the check turns them away. This holds of every store
and every compiler, in production or not, and also if someone asks for a reload.
-/

namespace TemplateServer.Entry.Rush

open TemplateServer.Action

variable {σ κ α : Type} {setup : Setup σ κ α} {errands : Nat → Errand} {s : Rush σ κ α}

/-- The teardown has come to its end, and behind the lock nobody is past the check. -/
structure Over (s : Rush σ κ α) : Prop where
  done : ∃ result, s.ending = .done result
  dead : s.focus.entry.destroyed = true
  unheld : s.focus.entry.held = none
  outside : ∀ n, (s.stage n).locks = true → ∃ generation, s.stage n = .entered generation

namespace Over

/-- A step that leaves the entry and the compiler alone and does not get past the check. -/
theorem idle (h : s.Over) {n : Nat} {before stage : Stage α} {focus : Focus σ κ α}
    (hstage : s.stage n = before)
    (hnext : before.next setup (errands n) s.focus = (stage, focus))
    (hentry : focus.entry = s.focus.entry)
    (hcompiler : focus.backend.compiler = s.focus.backend.compiler)
    (houtside : stage.locks = true → ∃ generation, stage = .entered generation) :
    (s.go setup errands n).Over ∧
      (s.go setup errands n).focus.backend.compiler = s.focus.backend.compiler := by
  rcases go_cases (hstage ▸ hnext) with hgo | ⟨-, hgo⟩
  · rw [hgo]
    exact ⟨h, rfl⟩
  · rw [hgo]
    refine ⟨⟨h.done, ?_, ?_, fun m => ?_⟩, hcompiler⟩
    · rw [put_focus, hentry]
      exact h.dead
    · rw [put_focus, hentry]
      exact h.unheld
    · by_cases hm : m = n
      · rw [hm, put_stage_self]
        exact houtside
      · rw [put_stage_ne _ _ _ _ _ hm]
        exact h.outside m

theorem go (h : s.Over) (n : Nat) :
    (s.go setup errands n).Over ∧
      (s.go setup errands n).focus.backend.compiler = s.focus.backend.compiler := by
  have houtside := h.outside n
  cases hstage : s.stage n with
  | called => exact h.idle hstage rfl rfl rfl (fun hlocks => by cases hlocks)
  | observed generation =>
    have hneed : (needsCompile setup (errands n).now).run s.focus = (.ok true, s.focus) := by
      unfold needsCompile
      rw [run_bind_ok (run_get _)]
      dsimp only
      rw [h.unheld]
      rfl
    exact h.idle hstage (Stage.next_observed hneed) rfl rfl (fun hlocks => by cases hlocks)
  | waiting generation => exact h.idle hstage rfl rfl rfl fun _ => ⟨generation, rfl⟩
  | entered generation =>
    exact h.idle hstage (Stage.next_entered_dead h.dead) rfl rfl (fun hlocks => by cases hlocks)
  | ready =>
    cases hpre : (errands n).precompile with
    | true =>
      exact h.idle hstage (Stage.next_ready (conclude_precompiled hpre)) rfl rfl
        (fun hlocks => by cases hlocks)
    | false =>
      exact h.idle hstage (Stage.next_ready (conclude_unheld hpre h.unheld)) rfl rfl
        (fun hlocks => by cases hlocks)
  | answered answer => exact h.idle hstage rfl rfl rfl (fun hlocks => by cases hlocks)
  | _ =>
    rw [hstage] at houtside
    obtain ⟨_, hentered⟩ := houtside rfl
    cases hentered

/-- **After the teardown nothing is compiled, executed, released or put in place**, whoever moves,
also if someone asks for a reload. -/
theorem run (h : s.Over) (moves : List Move) :
    (s.run setup errands moves).focus.entry.held = none ∧
      (s.run setup errands moves).focus.backend.compiler = s.focus.backend.compiler := by
  induction moves generalizing s with
  | nil => exact ⟨h.unheld, rfl⟩
  | cons move moves ih =>
    have hstep : (s.step setup errands move).Over ∧
        (s.step setup errands move).focus.backend.compiler = s.focus.backend.compiler := by
      cases move with
      | go n => exact h.go n
      | tearDown =>
        obtain ⟨result, hdone⟩ := h.done
        have hnext : s.ending.next setup s.focus = (.done result, s.focus) := by
          rw [hdone]
          rfl
        show (s.tearDown setup).Over ∧ (s.tearDown setup).focus.backend.compiler = _
        rcases tearDown_cases hnext with htear | ⟨-, htear⟩
        · rw [htear]
          exact ⟨h, rfl⟩
        · rw [htear]
          exact ⟨⟨⟨result, rfl⟩, h.dead, h.unheld, h.outside⟩, rfl⟩
      | mark => exact ⟨⟨h.done, h.dead, h.unheld, h.outside⟩, rfl⟩
    obtain ⟨hover, hcompiler⟩ := hstep
    obtain ⟨hunheld, hlast⟩ := ih hover
    exact ⟨hunheld, hlast.trans hcompiler⟩

end Over

end TemplateServer.Entry.Rush
