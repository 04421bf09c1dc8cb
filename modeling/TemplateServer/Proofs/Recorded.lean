import TemplateServer.Compiler.Echo
import TemplateServer.Entry
import TemplateServer.Source.Memory

/-!
# Recording what the collaborators are asked

`Setup.recorded` is a setup whose store and compiler answer as before and write down what they were
asked. A statement about which questions a request puts, or about what it has compiled, executed and
released, is a statement about the records.

`SourceStore.Still` and `Setup.Documented` are what callers may rely on: that questions do not
change a store, and in which ways a source or an artifact may fail.
-/

namespace TemplateServer

variable {σ κ α : Type}

/-- A question put to a store. -/
inductive Question
  | has (identity : Identity)
  | read (identity : Identity)
  | modified (identity : Identity)
deriving DecidableEq

/-- Something that a compiler was told to do. -/
inductive Job (α : Type)
  | compile (identity : Identity) (source : String)
  | execute (artifact : α)
  | release (artifact : α)

/-- The store that records the questions, in order. -/
def SourceStore.recorded (store : SourceStore σ) : SourceStore (σ × List Question) where
  has identity s :=
    ((store.has identity s.1).1, ((store.has identity s.1).2, s.2 ++ [.has identity]))
  read identity s :=
    ((store.read identity s.1).1, ((store.read identity s.1).2, s.2 ++ [.read identity]))
  modified identity s :=
    ((store.modified identity s.1).1,
      ((store.modified identity s.1).2, s.2 ++ [.modified identity]))

/-- The compiler that records its jobs, in order. -/
def Compiler.recorded (compiler : Compiler κ α) : Compiler (κ × List (Job α)) α where
  compile identity source s :=
    ((compiler.compile identity source s.1).1,
      ((compiler.compile identity source s.1).2, s.2 ++ [.compile identity source]))
  execute artifact context s :=
    ((compiler.execute artifact context s.1).1,
      ((compiler.execute artifact context s.1).2, s.2 ++ [.execute artifact]))
  release artifact s :=
    ((compiler.release artifact s.1).1,
      ((compiler.release artifact s.1).2, s.2 ++ [.release artifact]))
  notes := compiler.notes

/-- The text that the compiler was given. -/
def Job.given? {α : Type} : Job α → Option (Identity × String)
  | compile identity source => some (identity, source)
  | _ => none

/-- What was compiled, in order, whether it was refused or not. -/
def givenOf {α : Type} (jobs : List (Job α)) : List (Identity × String) := jobs.filterMap Job.given?

theorem givenOf_compile {α : Type} (jobs : List (Job α)) (identity : Identity) (source : String) :
    givenOf (jobs ++ [.compile identity source]) = givenOf jobs ++ [(identity, source)] := by
  unfold givenOf
  rw [List.filterMap_append]
  rfl

/-- The identity whose source was read. -/
def Question.read? : Question → Option Identity
  | .read identity => some identity
  | _ => none

/-- What was read, in order, whether there was a text or not. -/
def readsOf (asked : List Question) : List Identity := asked.filterMap Question.read?

theorem readsOf_append (asked asked' : List Question) :
    readsOf (asked ++ asked') = readsOf asked ++ readsOf asked' := List.filterMap_append

theorem mem_readsOf {identity : Identity} {asked : List Question} :
    identity ∈ readsOf asked ↔ .read identity ∈ asked := by
  unfold readsOf
  rw [List.mem_filterMap]
  constructor
  · rintro ⟨_ | _ | _, hmem, h⟩
    · cases h
    · cases h
      exact hmem
    · cases h
  · exact fun hmem => ⟨_, hmem, rfl⟩

/-- The setup that records. -/
def Setup.recorded (setup : Setup σ κ α) : Setup (σ × List Question) (κ × List (Job α)) α where
  store := setup.store.recorded
  compiler := setup.compiler.recorded
  options := setup.options

/-- Questions leave the store as it is. -/
structure SourceStore.Still (store : SourceStore σ) : Prop where
  has : ∀ identity s, (store.has identity s).2 = s
  read : ∀ identity s, (store.read identity s).2 = s
  modified : ∀ identity s, (store.modified identity s).2 = s

/-- Sources and artifacts fail in their own ways: what cannot be read is missing or unreadable, and
what cannot be executed has failed in its execution. -/
structure Setup.Documented (setup : Setup σ κ α) : Prop where
  read : ∀ identity s failure s', setup.store.read identity s = (.error failure, s') →
    (∃ name, failure = .sourceNotFound name) ∨ ∃ error, failure = .io error
  execute : ∀ artifact context s failure s',
    setup.compiler.execute artifact context s = (.error failure, s') →
    ∃ name reason, failure = .execution name reason

/-- Recording adds no failures. -/
theorem Setup.Documented.recorded {setup : Setup σ κ α} (h : setup.Documented) :
    setup.recorded.Documented where
  read identity s failure _ hread :=
    h.read identity s.1 failure _ (Prod.ext (Prod.mk.inj hread).1 rfl)
  execute artifact context s failure _ hexec :=
    h.execute artifact context s.1 failure _ (Prod.ext (Prod.mk.inj hexec).1 rfl)

/-- Questions leave a memory as it is. -/
theorem Memory.store_still : Memory.store.Still where
  has _ _ := rfl
  read identity m := by
    unfold Memory.store
    dsimp only
    cases m.find? identity <;> rfl
  modified _ _ := rfl

/-- Of the sources in memory some are missing and none is unreadable; what echoes never fails. -/
theorem Echo.documented (options : Options) :
    (⟨Memory.store, Echo.compiler, options⟩ : Setup _ _ _).Documented where
  read identity m failure _ h := by
    unfold Memory.store at h
    dsimp only at h
    cases hfind : m.find? identity with
    | none =>
      rw [hfind] at h
      exact .inl ⟨identity.text, (Except.error.inj (Prod.mk.inj h).1).symm⟩
    | some => rw [hfind] at h; cases h
  execute _ context _ _ _ h := by
    unfold Echo.compiler at h
    dsimp only at h
    cases herr : context.error with
    | none => rw [herr] at h; cases h
    | some => rw [herr] at h; cases h

namespace Entry.Focus

/-- The questions that were put to the store. -/
abbrev questions {κ : Type} (s : Focus (σ × List Question) κ α) : List Question := s.backend.store.2

/-- The jobs that the compiler was given. -/
abbrev jobs {σ : Type} (s : Focus σ (κ × List (Job α)) α) : List (Job α) := s.backend.compiler.2

end Entry.Focus

end TemplateServer
