import TemplateServer.Proofs.Engine.Turns
import TemplateServer.Proofs.Ledger
import TemplateServer.Proofs.Recorded

/-!
# What compilers write down changes nothing

A compiler that numbers its artifacts, or that keeps a record of its jobs, has a richer state and
richer artifacts than the compiler that does the work. Entries and engines pass artifacts on without
looking into them, so what is written down cannot change what they do: seen through the `View` that
forgets it, every run is the run of the plain compiler (`Dispatcher.calls_follow`). So what is
proved of a ledger or of a record is about the sessions of any compiler.

The proofs follow the definitions. `Follows` relates two steps whose states are seen through a
function, `ActsAs` two actions that may fail, and there is one lemma for each way of putting actions
together.
-/

namespace TemplateServer

open TemplateServer.Action

/-! ## Steps that follow steps -/

section

variable {S S' ε β β' γ γ' : Type}

/-- The first step does what the second one does, when its state is seen through `F` and its answer
through `r`. -/
def Follows (F : S' → S) (r : β' → β) (a' : S' → β' × S') (a : S → β × S) : Prop :=
  ∀ s, a (F s) = (r (a' s).1, F (a' s).2)

/-- The same of actions. They fail alike. -/
def ActsAs (F : S' → S) (r : β' → β) (a' : ExceptT ε (StateM S') β') (a : ExceptT ε (StateM S) β) :
    Prop := Follows F (Except.map r) a'.run a.run

namespace ActsAs

variable {F : S' → S} {r : β' → β} {r' : γ' → γ}

theorem pure (b : β') : ActsAs F r (pure b : ExceptT ε (StateM S') β') (pure (r b)) := fun _ => rfl

theorem throw (e : ε) : ActsAs F r (throw e : ExceptT ε (StateM S') β') (throw e) := fun _ => rfl

/-- A change of the state is followed by a change that is the same through the view. -/
theorem modify {f' : S' → S'} {f : S → S} (h : ∀ s, f (F s) = F (f' s)) :
    ActsAs F id (modify f' : ExceptT ε (StateM S') PUnit) (modify f) := by
  intro s
  rw [run_modify, run_modify, h]
  rfl

/-- A step that answers a result is a step that may fail. -/
theorem mk_modifyGet {f' : S' → Except ε β × S'} {f : S → Except ε β × S} (h : Follows F id f' f) :
    ActsAs F id (ExceptT.mk (modifyGet f') : ExceptT ε (StateM S') β)
      (ExceptT.mk (modifyGet f)) := by
  intro s
  rw [run_mk_modifyGet, run_mk_modifyGet, h, Except.map_id]

theorem modifyGet {f' : S' → β' × S'} {f : S → β × S} (h : Follows F r f' f) :
    ActsAs F r (modifyGet f' : ExceptT ε (StateM S') β') (modifyGet f) := by
  intro s
  rw [run_modifyGet, run_modifyGet, h]
  rfl

/-- One action after another. What the second one does with an answer it does with the answer
seen. -/
theorem bind {a' : ExceptT ε (StateM S') β'} {a : ExceptT ε (StateM S) β}
    {k' : β' → ExceptT ε (StateM S') γ'} {k : β → ExceptT ε (StateM S) γ} (h : ActsAs F r a' a)
    (hk : ∀ b, ActsAs F r' (k' b) (k (r b))) : ActsAs F r' (a' >>= k') (a >>= k) := by
  intro s
  rw [run_bind, run_bind, h s]
  rcases a'.run s with ⟨e | b, s'⟩
  · rfl
  · exact hk b s'

/-- What follows reads the state. -/
theorem get_bind {k' : S' → ExceptT ε (StateM S') γ'} {k : S → ExceptT ε (StateM S) γ}
    (hk : ∀ s, ActsAs F r' (k' s) (k (F s))) : ActsAs F r' (get >>= k') (get >>= k) := by
  intro s
  rw [run_bind_ok (run_get s), run_bind_ok (run_get (F s))]
  exact hk s s

/-- Nothing follows a failure. -/
theorem throw_bind (e : ε) (k' : β' → ExceptT ε (StateM S') γ') (k : β → ExceptT ε (StateM S) γ) :
    ActsAs F r' (MonadExcept.throw e >>= k') (MonadExcept.throw e >>= k) := fun _ => rfl

/-- A choice that does not depend on the state. -/
theorem ite {c : Prop} [Decidable c] {a' b' : ExceptT ε (StateM S') β'}
    {a b : ExceptT ε (StateM S) β} (ha : ActsAs F r a' a) (hb : ActsAs F r b' b) :
    ActsAs F r (if c then a' else b') (if c then a else b) := by
  split
  next => exact ha
  next => exact hb

end ActsAs

end

variable {σ κ' α' κ α β β' χ : Type}

/-! ## Views -/

/-- How the states and the artifacts of one compiler are seen as those of another. -/
structure View (κ' α' κ α : Type) where
  compiler : κ' → κ
  artifact : α' → α

namespace View

/-- Does not see the numbers and the ledger. -/
def numbers : View (κ × Ledger) (Nat × α) κ α := ⟨Prod.fst, Prod.snd⟩

/-- Does not see the record. -/
def record : View (κ × List (Job α)) α κ α := ⟨Prod.fst, id⟩

section

variable (v : View κ' α' κ α)

def held (h : Held α') : Held α := ⟨v.artifact h.artifact, h.modified⟩

def entry (e : Entry α') : Entry α := { e with held := e.held.map v.held }

/-- The store is seen as it is. -/
def backend (b : Backend σ κ') : Backend σ κ := { b with compiler := v.compiler b.compiler }

def focus (s : Entry.Focus σ κ' α') : Entry.Focus σ κ α := ⟨v.entry s.entry, v.backend s.backend⟩

theorem focus_held (s : Entry.Focus σ κ' α') :
    (v.focus s).entry.held = s.entry.held.map v.held := rfl

/-- A cache as it is seen: the same index, with entries that are seen. -/
def cache (c : Cache α') : Cache α := { c with entries := c.entries.map v.entry }

def engine (s : Engine σ κ' α') : Engine σ κ α := ⟨v.cache s.cache, v.backend s.backend⟩

/-- The setups differ in what the view does not see. -/
structure Shows (setup' : Setup σ κ' α') (setup : Setup σ κ α) : Prop where
  store : setup.store = setup'.store
  options : setup.options = setup'.options
  compile : ∀ identity source,
    Follows v.compiler (Except.map v.artifact) (setup'.compiler.compile identity source)
      (setup.compiler.compile identity source)
  execute : ∀ artifact context,
    Follows v.compiler id (setup'.compiler.execute artifact context)
      (setup.compiler.execute (v.artifact artifact) context)
  release : ∀ artifact,
    Follows v.compiler id (setup'.compiler.release artifact)
      (setup.compiler.release (v.artifact artifact))
  notes : setup.compiler.notes = setup'.compiler.notes

end

/-- Numbering artifacts differs from not numbering them in what is written down. -/
theorem numbers_shows (setup : Setup σ κ α) : numbers.Shows setup.numbered setup where
  store := rfl
  options := rfl
  compile identity source s := by
    unfold Setup.numbered Compiler.numbered numbers
    dsimp only
    rcases setup.compiler.compile identity source s.1 with ⟨_ | _, k⟩
    · rfl
    · rfl
  execute _ _ _ := rfl
  release _ _ := rfl
  notes := rfl

/-- Keeping a record of the jobs differs from keeping none in what is written down. -/
theorem record_shows (store : SourceStore σ) (compiler : Compiler κ α) (options : Options) :
    record.Shows ⟨store, compiler.recorded, options⟩ ⟨store, compiler, options⟩ where
  store := rfl
  options := rfl
  compile _ _ _ := Prod.ext (Except.map_id ▸ rfl) rfl
  execute _ _ _ := rfl
  release _ _ := rfl
  notes := rfl

end View

section

variable {v : View κ' α' κ α} {setup' : Setup σ κ' α'} {setup : Setup σ κ α}

/-! ## Entries -/

namespace Entry

/-- The store is asked the same, whatever compiler there is. -/
theorem Focus.onStore_follows (ask : StateM σ β) :
    Follows v.focus id (onStore ask : Focus σ κ' α' → _) (onStore ask) := fun _ => rfl

/-- What a compiler does is followed in an entry that it is done for. -/
theorem Focus.onCompiler_follows {act' : StateM κ' β'} {act : StateM κ β} {r : β' → β}
    (h : Follows v.compiler r act' act) :
    Follows v.focus r (onCompiler act' : Focus σ κ' α' → _) (onCompiler act) := by
  intro s
  have hact : act (v.focus s).backend.compiler = _ := h s.backend.compiler
  rw [onCompiler_eq, onCompiler_eq, hact]
  rfl

/-- The same artifact is published. -/
theorem Focus.publish_view (hv : v.Shows setup' setup) (held : Held α') (s : Focus σ κ' α') :
    (v.focus s).publish setup (v.held held) = v.focus (s.publish setup' held) := by
  let published := s.update fun e => { e with held := some held }
  have hpublished :
      (v.focus s).update (fun e => { e with held := some (v.held held) }) = v.focus published := rfl
  unfold publish
  rw [hpublished, v.focus_held]
  cases s.entry.held with
  | none => rfl
  | some previous =>
    have hrelease : (v.focus published).onCompiler
        (setup.compiler.release (v.held previous).artifact) = _ :=
      onCompiler_follows (hv.release previous.artifact) published
    dsimp only [Option.map_some]
    rw [hrelease]
    rcases published.onCompiler (setup'.compiler.release previous.artifact) with ⟨_ | _, s'⟩
    · rfl
    · rfl

/-- A teardown takes the same artifact and reports the same. -/
theorem Focus.destroy_follows (hv : v.Shows setup' setup) :
    Follows v.focus id (destroy setup') (destroy setup) := by
  intro s
  unfold destroy
  rw [v.focus_held]
  cases s.entry.held with
  | none => rfl
  | some held =>
    exact onCompiler_follows (hv.release held.artifact)
      (s.update fun e => { e with destroyed := true, held := none })

/-- The reasons to compile do not depend on what is written down. -/
theorem needsCompile_actsAs (hv : v.Shows setup' setup) (now : Nat) :
    ActsAs v.focus id (needsCompile setup' now) (needsCompile setup now) := by
  unfold needsCompile
  rw [hv.store, hv.options]
  refine ActsAs.get_bind fun s => ?_
  dsimp only
  rw [v.focus_held]
  cases s.entry.held with
  | none => exact .pure true
  | some held =>
    refine .ite (.pure true) (.ite (.pure false) ?_)
    refine .bind (.modify fun _ => rfl) fun _ => ?_
    refine .bind (.modifyGet (Focus.onStore_follows _)) fun current => ?_
    cases current with
    | some current => exact .pure _
    | none =>
      refine .bind (.modifyGet (Focus.onStore_follows _)) fun found => ?_
      exact .ite (.pure false) (.throw _)

/-- A compilation reads the same source and makes an artifact that is seen as the same. -/
theorem compileSource_actsAs (hv : v.Shows setup' setup) :
    ActsAs v.focus v.held (compileSource setup') (compileSource setup) := by
  unfold compileSource
  rw [hv.store, hv.notes]
  refine ActsAs.get_bind fun s => ?_
  refine .bind (.modifyGet (Focus.onStore_follows _)) fun modified => ?_
  refine .bind (.mk_modifyGet (Focus.onStore_follows _)) fun source => ?_
  refine .bind (.modifyGet (Focus.onCompiler_follows (hv.compile _ _))) fun result => ?_
  cases result with
  | ok artifact => exact .bind (.modify fun _ => rfl) fun _ => .pure _
  | error failure => exact .bind (.modify fun _ => rfl) fun _ => .throw failure

theorem recompile_actsAs (hv : v.Shows setup' setup) (observed : Nat) :
    ActsAs v.focus id (recompile setup' observed) (recompile setup observed) := by
  unfold recompile
  refine ActsAs.get_bind fun s => ?_
  refine .ite (.throw_bind _ _ _) (.ite ?_ (.pure _))
  refine .bind (compileSource_actsAs hv) fun held => ?_
  refine .bind (.modify fun s => ?_) fun _ => .ite (.modify fun s => rfl) (.pure _)
  rw [Focus.publish_view hv]
  rfl

/-- A refresh does the same and fails for the same. -/
theorem refresh_actsAs (hv : v.Shows setup' setup) (now : Nat) :
    ActsAs v.focus id (refresh setup' now) (refresh setup now) := by
  unfold refresh
  refine ActsAs.get_bind fun s => ?_
  refine .bind (needsCompile_actsAs hv now) fun needed => ?_
  exact .ite (recompile_actsAs hv _) (.pure _)

/-- The same text comes of executing what is held. -/
theorem run_actsAs (hv : v.Shows setup' setup) (request : Request) (error : Option String) :
    ActsAs v.focus id (run setup' request error) (run setup request error) := by
  unfold run
  refine ActsAs.get_bind fun s => ?_
  dsimp only
  rw [v.focus_held]
  cases s.entry.held with
  | none => exact .throw _
  | some held =>
    exact .bind (.mk_modifyGet (Focus.onCompiler_follows (hv.execute _ _))) fun body => .pure _

/-- A request is answered the same by one entry. -/
theorem service_actsAs (hv : v.Shows setup' setup) (now : Nat) (request : Request)
    (precompile : Bool) (error : Option String) :
    ActsAs v.focus id (service setup' now request precompile error)
      (service setup now request precompile error) := by
  unfold service
  refine .bind (refresh_actsAs hv now) fun _ => .ite ?_ (run_actsAs hv request error)
  exact .bind (.modify fun _ => rfl) fun _ => .pure _

end Entry

/-! ## Engines -/

namespace View

theorem entry?_cache (v : View κ' α' κ α) (handle : Handle) (c : Cache α') :
    Cache.entry? handle (v.cache c) = (c.entry? handle).map v.entry := by
  unfold Cache.entry? cache
  rw [List.getElem?_map]

theorem set_cache (v : View κ' α' κ α) (handle : Handle) (e : Entry α') (c : Cache α') :
    (v.cache c).set handle (v.entry e) = v.cache (c.set handle e) := by
  unfold Cache.set cache
  rw [List.map_set]

/-- A new entry holds nothing, so it is seen as it is. -/
theorem insert_cache (v : View κ' α' κ α) (identity : Identity) (isErrorPage : Bool)
    (c : Cache α') :
    (v.cache c).insert identity isErrorPage =
      ((c.insert identity isErrorPage).1, v.cache (c.insert identity isErrorPage).2) := by
  unfold Cache.insert cache
  rw [List.map_append, List.length_map]
  rfl

end View

namespace Engine

theorem note_view (events : List Log.Event) (s : Engine σ κ' α') :
    (v.engine s).note events = v.engine (s.note events) := rfl

theorem onStore_follows (ask : StateM σ β) :
    Follows v.engine id (onStore ask : Engine σ κ' α' → _) (onStore ask) := fun _ => rfl

/-- What is done with one entry is followed in the whole engine. -/
theorem onEntry_follows {r : β' → β} (handle : Handle)
    {act' : Entry.Focus σ κ' α' → β' × Entry.Focus σ κ' α'}
    {act : Entry.Focus σ κ α → β × Entry.Focus σ κ α} (h : Follows v.focus r act' act) :
    Follows v.engine (Option.map r) (onEntry handle act') (onEntry handle act) := by
  intro s
  have hview : Cache.entry? handle (v.engine s).cache = _ := v.entry?_cache handle s.cache
  cases hentry : s.cache.entry? handle with
  | none =>
    rw [hentry] at hview
    rw [onEntry_none hentry, onEntry_none hview]
    rfl
  | some e =>
    rw [hentry] at hview
    have hact : act ⟨v.entry e, (v.engine s).backend⟩ = _ := h ⟨e, s.backend⟩
    rw [onEntry_some hentry, onEntry_some hview, hact]
    refine Prod.ext rfl ?_
    exact congrArg (Engine.mk · _) (v.set_cache handle _ s.cache)

/-- A mark is set on the same entry. -/
theorem markForReload_view (handle : Handle) (s : Engine σ κ' α') :
    (v.engine s).markForReload handle = v.engine (s.markForReload handle) := by
  have hmark : Follows v.focus id
      (fun focus : Entry.Focus σ κ' α' => ((), focus.update Entry.markForReload))
      fun focus => ((), focus.update Entry.markForReload) := fun _ => rfl
  unfold markForReload
  rw [onEntry_follows handle hmark s]

/-- The same entry is found, or made where the store has the same answer. -/
theorem getOrCreate_actsAs {has' : Engine σ κ' α' → Bool × Engine σ κ' α'}
    {has : Engine σ κ α → Bool × Engine σ κ α} (identity : Identity) (isErrorPage : Bool)
    (h : Follows v.engine id has' has) :
    ActsAs v.engine id (getOrCreate identity isErrorPage has')
      (getOrCreate identity isErrorPage has) := by
  have hinsert : Follows v.engine id
      (onCache (Cache.insert identity isErrorPage) : Engine σ κ' α' → _)
      (onCache (Cache.insert identity isErrorPage)) := by
    intro s
    unfold onCache
    rw [show (v.engine s).cache = v.cache s.cache from rfl, v.insert_cache]
    rfl
  unfold getOrCreate
  refine ActsAs.get_bind fun s => ?_
  rw [show (v.engine s).cache.admission identity = s.cache.admission identity from rfl]
  cases s.cache.admission identity with
  | present handle => exact .pure handle
  | refused => exact .throw _
  | needsSource =>
    refine .bind (.modifyGet h) fun found => .ite ?_ ?_
    · refine .bind (.modifyGet hinsert) fun handle => ?_
      exact .bind (.modify fun _ => rfl) fun _ => .pure _
    · exact .bind (.modify fun _ => rfl) fun _ => .throw _

/-- One entry of a teardown adds the same to the report. -/
theorem destroyEntry_follows (hv : v.Shows setup' setup) (report : TeardownReport)
    (handle : Handle) :
    Follows v.engine id (destroyEntry setup' report handle) (destroyEntry setup report handle) := by
  intro s
  have hentry : Cache.entry? handle (v.engine s).cache = _ := v.entry?_cache handle s.cache
  unfold destroyEntry
  rw [onEntry_follows handle (Entry.Focus.destroy_follows hv) s, hentry]
  rcases s.onEntry handle (Entry.Focus.destroy setup') with ⟨_ | (_ | _), s'⟩
  · rfl
  · -- the note names the entry
    cases s.cache.entry? handle <;> rfl
  · rfl

theorem destroyAll_follows (hv : v.Shows setup' setup) (handles : List Handle)
    (report : TeardownReport) :
    Follows v.engine id (destroyAll setup' handles report) (destroyAll setup handles report) := by
  intro s
  induction handles generalizing report s with
  | nil => rfl
  | cons handle handles ih =>
    unfold destroyAll
    rw [destroyEntry_follows hv report handle s]
    exact ih _ _

/-- The teardown of an engine takes the same entries down and reports the same. -/
theorem teardown_follows (hv : v.Shows setup' setup) :
    Follows v.engine id (teardown setup') (teardown setup) := by
  intro s
  have hclose : (v.engine s).onCache Cache.close =
      ((s.onCache Cache.close).1, v.engine (s.onCache Cache.close).2) := by
    unfold onCache Cache.close
    rw [show (v.engine s).cache.closed = s.cache.closed from rfl]
    cases s.cache.closed <;> rfl
  unfold teardown
  rw [hclose]
  dsimp only
  rw [destroyAll_follows hv]
  rfl

end Engine

/-! ## Dispatchers -/

namespace Dispatcher

variable (hv : v.Shows setup' setup) (page : Option Identity) (now : Nat) (request : Request)

include hv

/-- A template is served the same. -/
theorem serviceIdentity_actsAs (identity : Identity) (precompile : Bool) (error : Option String) :
    ActsAs v.engine id (serviceIdentity ⟨setup', page⟩ now request identity precompile error)
      (serviceIdentity ⟨setup, page⟩ now request identity precompile error) := by
  unfold serviceIdentity
  dsimp only
  rw [hv.store]
  refine .bind (.modify fun _ => rfl) fun _ => ?_
  refine .bind (Engine.getOrCreate_actsAs _ _ (Engine.onStore_follows _)) fun handle => ?_
  refine .bind (.modify fun _ => rfl) fun _ => ?_
  have hservice := Entry.service_actsAs hv now request precompile error
  refine .bind (.modifyGet (Engine.onEntry_follows _ hservice)) fun result => ?_
  match result with
  | none => exact .throw _
  | some (.error failure) => exact .throw _
  | some (.ok response) => exact .bind (.modify fun _ => rfl) fun _ => .pure _

/-- A request fails the same or is answered the same. -/
theorem service_follows :
    Follows v.engine id (service ⟨setup', page⟩ now request)
      (service ⟨setup, page⟩ now request) := by
  intro s
  unfold service
  dsimp only
  cases examine request with
  | error failure => rfl
  | ok examined =>
    obtain ⟨identity, precompile⟩ := examined
    dsimp only
    rw [Engine.note_view, serviceIdentity_actsAs hv page now request identity precompile none
      (s.note _)]
    rcases (serviceIdentity ⟨setup', page⟩ now request identity precompile none).run
      (s.note (examineNotes request)) with ⟨_ | _, s'⟩
    · rfl
    · rfl

/-- A failure is answered the same, with a page or without. -/
theorem errorResponse_follows (failure : Failure) :
    Follows v.engine id (errorResponse ⟨setup', page⟩ now request failure)
      (errorResponse ⟨setup, page⟩ now request failure) := by
  intro s
  unfold errorResponse
  dsimp only
  split
  next => rfl
  next =>
    cases page with
    | none => rfl
    | some page =>
      let line := s!"{request.method} {request.uri}"
      dsimp only
      rw [Engine.note_view, serviceIdentity_actsAs hv (some page) now request page false _
        (s.note _)]
      rcases (serviceIdentity ⟨setup', some page⟩ now request page false (some failure.message)).run
        (s.note [event .error s!"{line} failed: {failure.message}"]) with ⟨_ | _, s'⟩
      · rfl
      · rfl

/-- A request is responded to the same. -/
theorem respond_follows :
    Follows v.engine id (respond ⟨setup', page⟩ now request)
      (respond ⟨setup, page⟩ now request) := by
  intro s
  unfold respond
  rw [service_follows hv page now request s]
  rcases service ⟨setup', page⟩ now request s with ⟨failure | response, s'⟩
  · exact errorResponse_follows hv page now request failure s'
  · rfl

variable (apply : χ → σ → σ)

theorem step_follows (step : Step χ) :
    Follows v.engine id (Dispatcher.step ⟨setup', page⟩ apply step)
      (Dispatcher.step ⟨setup, page⟩ apply step) := by
  intro s
  unfold Dispatcher.step
  cases step with
  | change c => rfl
  | mark handle => exact Prod.ext rfl (Engine.markForReload_view handle s)
  | setReloads count => rfl
  | service now request =>
    dsimp only
    rw [service_follows hv page now request s]
    rfl
  | respond now request =>
    dsimp only
    rw [respond_follows hv page now request s]
    rfl

theorem call_follows (call : Call σ χ) :
    Follows v.engine id (Dispatcher.call ⟨setup', page⟩ apply call)
      (Dispatcher.call ⟨setup, page⟩ apply call) := by
  intro s
  unfold Dispatcher.call
  cases call with
  | step step =>
    dsimp only
    rw [step_follows hv page apply step s]
    rfl
  | create identity isErrorPage ask =>
    have hasked := Engine.getOrCreate_actsAs (v := v) identity isErrorPage
      (Engine.onStore_follows ask) s
    dsimp only
    rw [hasked, Except.map_id]
    rfl
  | enter handle now request precompile error =>
    have hservice := Entry.service_actsAs hv now request precompile error
    dsimp only
    rw [Engine.onEntry_follows handle hservice s, Except.map_id, Option.map_id]
    rfl
  | teardown =>
    dsimp only
    rw [Engine.teardown_follows hv s]
    rfl

/-- **Seen through the view, whatever callers do goes as it goes without.** -/
theorem calls_follow (calls : List (Call σ χ)) :
    Follows v.engine id (Dispatcher.calls ⟨setup', page⟩ apply calls)
      (Dispatcher.calls ⟨setup, page⟩ apply calls) := by
  intro s
  induction calls generalizing s with
  | nil => rfl
  | cons call calls ih =>
    unfold Dispatcher.calls
    rw [call_follows hv page apply call s]
    dsimp only
    rw [ih]
    rfl

end Dispatcher

end

end TemplateServer
