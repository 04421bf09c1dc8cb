import TemplateServer.Compiler.Template
import TemplateServer.Proofs.Dispatch
import TemplateServer.Proofs.Entry.Refresh
import TemplateServer.Proofs.Recorded
import TemplateServer.Source.Files

/-!
# Where failures come from

Each kind of failure has one origin. A store fails for want of a source or with an I/O error, an
artifact fails in its execution, and a compiler refuses sources: that is what `Setup.Documented` and
`Compiler.Refuses` ask of the collaborators, and what those of a site in files do. All other
failures are those of the examination, before an entry is asked, and of the teardown
(`service_failure`). So a request whose path resolves does not fail for its path.
-/

namespace TemplateServer

variable {σ κ α : Type}

/-- The failures of an entry and of those that it asks. -/
def Failure.isOfEntry : Failure → Bool
  | sourceNotFound _ | io _ | compile .. | execution .. | shutDown => true
  | identityResolution _ | malformedDirective .. | dispatch _ => false

/-- What a compiler fails with is that it refuses the source. -/
def Compiler.Refuses (compiler : Compiler κ α) : Prop :=
  ∀ identity source n failure n', compiler.compile identity source n = (.error failure, n') →
    ∃ name reason, failure = .compile name reason

/-! ## Collaborators -/

theorem exists_of_mapError {ε ε' β : Type} {result : Except ε β} {f : ε → ε'} {e' : ε'}
    (h : result.mapError f = .error e') : ∃ e, e' = f e := by
  cases result with
  | error e => cases h; exact ⟨e, rfl⟩
  | ok => cases h

theorem Template.compiler_refuses : Template.compiler.Refuses := by
  intro identity source n failure n' h
  have hanswer : (Document.ofSource identity.text source).mapError (.compile identity.text) =
      .error failure := congrArg Prod.fst h
  exact ⟨_, exists_of_mapError hanswer⟩

/-- The collaborators of a site in files. -/
theorem Template.documented (root : String) (options : Options) :
    (⟨Files.store root, Template.compiler, options⟩ : Setup _ _ _).Documented where
  read identity t failure t' h := by
    unfold Files.store at h
    dsimp only at h
    split at h
    next => cases h
    next refusal _ =>
      cases h
      cases refusal with
      | missing => exact .inl ⟨_, rfl⟩
      | _ => exact .inr ⟨_, rfl⟩
  execute document context n failure n' h := by
    have hanswer : (document.render (Value.ofContext context)).mapError (.execution document.name) =
        .error failure := congrArg Prod.fst h
    exact ⟨_, exists_of_mapError hanswer⟩

/-! ## Entries -/

section

variable {setup : Setup σ κ α} {now : Nat} {failure : Failure}

theorem Entry.Refreshed.isOfEntry (hsetup : setup.Documented)
    (hcompiler : setup.compiler.Refuses) {result : Except Failure Unit}
    {s s' : Entry.Focus σ κ α} (h : Entry.Refreshed setup now s result s')
    (hresult : result = .error failure) : failure.isOfEntry = true := by
  cases h with
  | notDue => cases hresult
  | current => cases hresult
  | undated => cases hresult
  | vanished => cases hresult; rfl
  | destroyed => cases hresult; rfl
  | unreadable _ _ _ hread =>
    cases hresult
    rcases hsetup.read _ _ _ _ hread with ⟨name, rfl⟩ | ⟨error, rfl⟩ <;> rfl
  | refused _ _ _ _ hcomp =>
    cases hresult
    obtain ⟨name, reason, rfl⟩ := hcompiler _ _ _ _ _ hcomp
    rfl
  | compiled => cases hresult

theorem Entry.Serviced.isOfEntry (hsetup : setup.Documented)
    (hcompiler : setup.compiler.Refuses) {request : Request}
    {precompile : Bool} {error : Option String} {answer : Except Failure Response}
    {s s' : Entry.Focus σ κ α} (h : Entry.Serviced setup now request precompile error s answer s')
    (hanswer : answer = .error failure) : failure.isOfEntry = true := by
  cases h with
  | failed hr =>
    cases hanswer
    exact (Entry.Refreshed.of_run _ _ hr).isOfEntry hsetup hcompiler rfl
  | precompiled => cases hanswer
  | unheld => cases hanswer; rfl
  | @executed s' held body compiler answer hr hpre hheld hexec hbody =>
    cases body with
    | error failure' =>
      rw [hbody] at hanswer
      cases hanswer
      obtain ⟨name, reason, rfl⟩ := hsetup.execute _ _ _ _ _ hexec
      rfl
    | ok body => rw [hbody] at hanswer; cases hanswer

end

/-! ## Requests -/

namespace Dispatcher

variable {d : Dispatcher σ κ α} {now : Nat} {request : Request} {s s' : Engine σ κ α}
  {failure : Failure}

theorem Served.isOfEntry {setup : Setup σ κ α} (hsetup : setup.Documented)
    (hcompiler : setup.compiler.Refuses) {identity : Identity}
    {precompile : Bool} {error : Option String} {answer : Except Failure Response}
    (h : Served setup now request identity precompile error s answer s')
    (hanswer : answer = .error failure) : failure.isOfEntry = true := by
  cases h with
  | refused => cases hanswer; rfl
  | missing => cases hanswer; rfl
  | lost => cases hanswer; rfl
  | answered _ _ _ _ hserv => exact (Entry.Serviced.of_run hserv).isOfEntry hsetup hcompiler hanswer

/-- **The origins of failures.** A request fails for its path, for its directive, or in its
entry. -/
theorem service_failure (hsetup : d.setup.Documented)
    (hcompiler : d.setup.compiler.Refuses)
    (h : (d.service now request s).1 = .error failure) :
    request.resolve = .error failure ∨ Directive.detect request.query = .error failure ∨
      ∃ identity failure', failure'.isOfEntry = true ∧ failure = named identity failure' := by
  have hcases := service_cases d now request s
  generalize hanswer : d.service now request s = r at hcases h
  obtain ⟨answer, s'⟩ := r
  dsimp only at hcases h
  cases hcases with
  | refused _ hexamine =>
    cases h
    rcases examine_error hexamine with hresolve | ⟨_, _, hdetect⟩
    · exact .inl hresolve
    · exact .inr (.inl hdetect)
  | @served identity precompile answer' s' hexamine hserved =>
    cases answer' with
    | error failure' =>
      cases h
      exact .inr (.inr ⟨identity, failure', hserved.isOfEntry hsetup hcompiler rfl, rfl⟩)
    | ok response => cases h

/-- A directive that cannot be read is no matter of the path. -/
theorem detect_error {query : Option String} (h : Directive.detect query = .error failure) :
    ∃ value, failure = .malformedDirective Directive.name value := by
  unfold Directive.detect at h
  split at h
  next => cases h
  next found _ =>
    unfold Directive.ofRest at h
    split at h
    next => cases h
    next =>
      dsimp only at h
      split at h
      next => cases h
      next =>
        split at h
        next =>
          split at h
          next => cases h
          next => cases h; exact ⟨_, rfl⟩
        next => cases h

theorem named_ne_identityResolution {identity : Identity} {failure : Failure}
    (h : failure.isOfEntry = true) (reason : String) :
    named identity failure ≠ .identityResolution reason := by
  intro hnamed
  cases failure with
  | identityResolution => cases h
  | io => cases hnamed
  | _ => cases hnamed

/-- A request whose path resolves does not fail for its path. -/
theorem service_ne_identityResolution (hsetup : d.setup.Documented)
    (hcompiler : d.setup.compiler.Refuses) {identity : Identity}
    (hresolve : request.resolve = .ok identity) (reason : String) :
    (d.service now request s).1 ≠ .error (.identityResolution reason) := by
  intro h
  rcases service_failure hsetup hcompiler h with hpath | hdirective | ⟨_, failure', hof, hnamed⟩
  · rw [hresolve] at hpath
    cases hpath
  · obtain ⟨value, hvalue⟩ := detect_error hdirective
    cases hvalue
  · exact named_ne_identityResolution hof reason hnamed.symm

end Dispatcher

end TemplateServer
