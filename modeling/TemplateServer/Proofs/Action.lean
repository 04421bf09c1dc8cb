/-!
# Running actions

Entries and engines act in `ExceptT ε (StateM S)`: an action may fail, and the state that it has
reached is kept then. The lemmas here run such an action one step at a time. `run_bind` is the one
that matters: what follows an action is run where that action has ended, and not at all if it
failed.
-/

namespace TemplateServer.Action

variable {ε S β γ : Type}

theorem run_pure (a : β) (s : S) : (pure a : ExceptT ε (StateM S) β).run s = (.ok a, s) := rfl

theorem run_get (s : S) : (get : ExceptT ε (StateM S) S).run s = (.ok s, s) := rfl

theorem run_modify (f : S → S) (s : S) :
    (modify f : ExceptT ε (StateM S) PUnit).run s = (.ok ⟨⟩, f s) := rfl

theorem run_modifyGet (f : S → β × S) (s : S) :
    (modifyGet f : ExceptT ε (StateM S) β).run s = (.ok (f s).1, (f s).2) := rfl

/-- A step that answers a result is a step that may fail. -/
theorem run_mk_modifyGet (f : S → Except ε β × S) (s : S) :
    (ExceptT.mk (modifyGet f) : ExceptT ε (StateM S) β).run s = f s := rfl

theorem run_bind (x : ExceptT ε (StateM S) β) (f : β → ExceptT ε (StateM S) γ) (s : S) :
    (x >>= f).run s =
      match x.run s with
      | (.ok a, s') => (f a).run s'
      | (.error e, s') => (.error e, s') := by
  show (ExceptT.bindCont f) (x.run s).1 (x.run s).2 = _
  rcases x.run s with ⟨r, s'⟩
  cases r <;> rfl

/-- An action that succeeds hands its answer and its state on. -/
theorem run_bind_ok {x : ExceptT ε (StateM S) β} {f : β → ExceptT ε (StateM S) γ} {s s' : S} {a : β}
    (h : x.run s = (.ok a, s')) : (x >>= f).run s = (f a).run s' := by
  rw [run_bind, h]

/-- Nothing follows an action that failed. -/
theorem run_bind_error {x : ExceptT ε (StateM S) β} {f : β → ExceptT ε (StateM S) γ} {s s' : S}
    {e : ε} (h : x.run s = (.error e, s')) : (x >>= f).run s = (.error e, s') := by
  rw [run_bind, h]

end TemplateServer.Action
