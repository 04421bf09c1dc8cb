import TemplateServer.Proofs.Engine.Admissions
import TemplateServer.Proofs.Engine.Lane
import TemplateServer.Proofs.Entry.Warm
import TemplateServer.Proofs.Erasure
import TemplateServer.Proofs.Isolation

/-!
# Precompilation

A request for compilation only makes its template ready and runs nothing. What it leaves behind is
an identity that is warm (`Engine.Warm`): it is loaded, and its entry is warm. Whatever callers do
then, the identity stays warm and its source is not compiled again, if they let its source and its
entry alone (`call_warm`, `calls_warm`), so that every later request finds the artifact that was
made (`Served.of_warm`).

Requests that are for other identities may have other entries compile and change other entries, but
not this one: an entry has one identity, and a handle leads to one entry.
-/

namespace TemplateServer

variable {σ κ α : Type}

/-- The job is not to compile the source of an identity. -/
def Job.Spares (identity : Identity) (job : Job α) : Prop :=
  ∀ source, job ≠ .compile identity source

/-- Preparing one template is no compilation of another one. -/
theorem Job.Prepares.spares {identity other : Identity} {job : Job α} (h : job.Prepares other)
    (hne : other ≠ identity) : job.Spares identity := by
  rintro source rfl
  exact hne (Eq.symm h)

namespace Engine

/-- What the compiler was told in between. -/
def Adds (P : Job α → Prop) (s s' : Engine σ (κ × List (Job α)) α) : Prop :=
  ∃ added, s'.backend.compiler.2 = s.backend.compiler.2 ++ added ∧ ∀ job ∈ added, P job

section

variable {P : Job α → Prop} {s s₁ s' : Engine σ (κ × List (Job α)) α}

theorem Adds.of_eq (h : s'.backend.compiler = s.backend.compiler) : Adds P s s' :=
  ⟨[], by rw [h, List.append_nil], by simp⟩

theorem Adds.trans (h : Adds P s s₁) (h' : Adds P s₁ s') : Adds P s s' := by
  obtain ⟨added, hadded, hall⟩ := h
  obtain ⟨added', hadded', hall'⟩ := h'
  refine ⟨added ++ added', ?_, List.forall_mem_append.mpr ⟨hall, hall'⟩⟩
  rw [hadded', hadded, List.append_assoc]

end

/-- The entry that a request gets is loaded. -/
theorem Admitted.loaded {s s' : Engine σ κ α} {ask : StateM σ Bool} {identity : Identity}
    {isErrorPage : Bool} {handle : Handle}
    (h : Admitted ask identity isErrorPage s handle s') :
    s'.cache.lookup identity = some handle := by
  cases h with
  | present hlookup => exact hlookup
  | created hlookup =>
    rw [load_cache, Cache.lookup_insert, if_pos rfl]
    show (s.cache.lookup identity).or _ = _
    rw [hlookup]
    rfl

/-- An identity is loaded, and the entry behind its handle is warm. -/
structure Warm (options : Options) (identity : Identity) (handle : Handle) (artifact : α)
    (s : Engine Memory κ α) : Prop where
  filed : s.cache.Filed
  loaded : s.cache.lookup identity = some handle
  entry : ∃ e, s.cache.entry? handle = some e ∧ e.Warm options artifact s.backend.store

namespace Warm

variable {options : Options} {identity : Identity} {handle : Handle} {artifact : α}

section

variable {s : Engine Memory κ α} (h : Warm options identity handle artifact s)

include h

theorem note (events : List Log.Event) : Warm options identity handle artifact (s.note events) :=
  ⟨h.filed, h.loaded, h.entry⟩

/-- The store may change, but for the source of the identity. -/
theorem withStore {store : Memory}
    (hfind : store.find? identity = s.backend.store.find? identity) :
    Warm options identity handle artifact (s.withStore store) where
  filed := h.filed
  loaded := h.loaded
  entry := by
    obtain ⟨e, he, hwarm⟩ := h.entry
    obtain ⟨e', he', hid⟩ := h.filed.keyed _ _ h.loaded
    rw [he] at he'
    cases he'
    exact ⟨e, he, hwarm.of_find? (hid ▸ hfind)⟩

/-- Other entries may be made. -/
theorem load {other : Identity} (hlookup : s.cache.lookup other = none)
    (hopen : s.cache.closed = false) (isErrorPage : Bool) :
    Warm options identity handle artifact (s.load other isErrorPage) where
  filed := h.filed.insert hopen hlookup isErrorPage
  loaded := by
    rw [load_cache, Cache.lookup_insert, h.loaded]
    rfl
  entry := by
    obtain ⟨e, he, hwarm⟩ := h.entry
    have hlt : handle < s.cache.entries.length := (List.getElem?_eq_some_iff.mp he).1
    refine ⟨e, ?_, hwarm⟩
    rw [load_cache, Cache.entry?_insert, if_neg (Nat.ne_of_lt hlt)]
    exact he

/-- An entry may change. If it is the one behind the handle, it has to stay warm. -/
theorem putBack {other : Handle} {e : Entry α} {focus : Entry.Focus Memory κ α}
    (hentry : s.cache.entry? other = some e) (hid : focus.entry.identity = e.identity)
    (hstore : focus.backend.store = s.backend.store)
    (hwarm : other = handle → focus.entry.Warm options artifact s.backend.store) :
    Warm options identity handle artifact (s.putBack other focus) where
  filed := h.filed.set hentry hid
  loaded := h.loaded
  entry := by
    obtain ⟨e', he', hwarm'⟩ := h.entry
    rw [putBack_cache, Cache.entry?_set hentry, putBack_backend, hstore]
    by_cases hother : handle = other
    · exact ⟨focus.entry, if_pos hother, hwarm hother.symm⟩
    · exact ⟨e', (if_neg hother).trans he', hwarm'⟩

theorem markForReload {marked : Handle} (hmarked : marked ≠ handle) :
    Warm options identity handle artifact (s.markForReload marked) := by
  unfold Engine.markForReload
  cases hentry : s.cache.entry? marked with
  | none =>
    rw [onEntry_none hentry]
    exact h
  | some e =>
    rw [onEntry_some hentry]
    exact h.putBack hentry rfl rfl fun heq => absurd heq hmarked

/-- An entry may be asked for, and the question may change other sources. -/
theorem admitted {ask : StateM Memory Bool} {other : Identity} {isErrorPage : Bool}
    {found : Handle} {s' : Engine Memory κ α}
    (hask : ∀ m, (ask m).2.find? identity = m.find? identity)
    (hadm : Admitted ask other isErrorPage s found s') :
    Warm options identity handle artifact s' ∧ s'.backend.compiler = s.backend.compiler := by
  cases hadm with
  | present => exact ⟨h, rfl⟩
  | @created store hlookup hopen hanswer =>
    have hfind : store.find? identity = s.backend.store.find? identity := by
      rw [← hask s.backend.store, hanswer]
    exact ⟨(h.withStore hfind).load hlookup hopen isErrorPage, rfl⟩

/-- Asking for an entry keeps this one warm and does not concern the compiler. -/
theorem asked {ask : StateM Memory Bool} {other : Identity} {isErrorPage : Bool}
    {result : Except Failure Handle} {s' : Engine Memory κ α}
    (hask : ∀ m, (ask m).2.find? identity = m.find? identity)
    (hasked : Asked ask other isErrorPage s result s') :
    Warm options identity handle artifact s' ∧ s'.backend.compiler = s.backend.compiler := by
  cases hasked with
  | admitted events hadm =>
    obtain ⟨hwarm, hcompiler⟩ := h.admitted hask hadm
    exact ⟨hwarm.note events, hcompiler⟩
  | refused events => exact ⟨h.note events, rfl⟩
  | @missing store events _ _ hanswer =>
    have hfind : store.find? identity = s.backend.store.find? identity := by
      rw [← hask s.backend.store, hanswer]
    exact ⟨(h.withStore hfind).note events, rfl⟩

end

/-- **An entry answers a request.** The one behind the handle executes at most, and any other entry
is of another identity. -/
theorem serviced {compiler : Compiler κ α} {s : Engine Memory (κ × List (Job α)) α} {now : Nat}
    {request : Request} {precompile : Bool} {error : Option String} {other : Handle} {e : Entry α}
    {answer : Except Failure Response} {focus : Entry.Focus Memory (κ × List (Job α)) α}
    (h : Warm options identity handle artifact s) (hentry : s.cache.entry? other = some e)
    (hserv : Entry.Serviced ⟨Memory.store, compiler.recorded, options⟩ now request precompile error
      ⟨e, s.backend⟩ answer focus) :
    Warm options identity handle artifact (s.putBack other focus) ∧
      Adds (Job.Spares identity) s (s.putBack other focus) := by
  have hstore : focus.backend.store = s.backend.store := hserv.store_eq Memory.store_still
  obtain ⟨e', he', hwarm⟩ := h.entry
  by_cases hother : other = handle
  · subst hother
    rw [hentry] at he'
    cases he'
    obtain ⟨hwarm', hanswer⟩ := hserv.of_warm hwarm
    rw [hstore] at hwarm'
    refine ⟨h.putBack hentry hserv.identity_eq hstore fun _ => hwarm', ?_⟩
    have hcompiler : focus.backend.compiler = _ := congrArg Prod.snd hanswer
    cases precompile with
    | true => exact .of_eq hcompiler
    | false =>
      refine ⟨[.execute artifact], congrArg Prod.snd hcompiler, ?_⟩
      exact List.forall_mem_singleton.mpr fun source => nofun
  · refine ⟨h.putBack hentry hserv.identity_eq hstore fun heq => absurd heq hother, ?_⟩
    obtain ⟨found, hfound, hid⟩ := h.filed.keyed _ _ h.loaded
    have hne : e.identity ≠ identity := fun heq =>
      hother (h.filed.eq_of_identity hfound hentry (heq.trans hid.symm))
    obtain ⟨done, hdone, hall⟩ := hserv.prepares
    refine ⟨done, hdone, fun job hjob => ?_⟩
    rcases hall job hjob with hprepares | ⟨-, executed, rfl⟩
    · exact hprepares.spares hne
    · exact fun source => nofun

end Warm

end Engine

/-- The call leaves the source and the entry of an identity alone, but for requests. -/
def Call.Leaves (identity : Identity) (handle : Handle) : Call Memory Edit → Prop
  | .step (.change edit) => edit.identity ≠ identity
  | .step (.mark marked) => marked ≠ handle
  | .create _ _ ask => ∀ m, (ask m).2.find? identity = m.find? identity
  | .teardown => False
  | _ => True

namespace Dispatcher

open Engine

section

variable {compiler : Compiler κ α} {options : Options} {page : Option Identity} {now : Nat}
  {request : Request} {identity : Identity} {handle : Handle} {artifact : α}
  {s s' : Engine Memory (κ × List (Job α)) α}

/-- A request, be it for this identity or for another. -/
theorem Served.warm {other : Identity} {precompile : Bool} {error : Option String}
    {answer : Except Failure Response} (h : Warm options identity handle artifact s)
    (hserved : Served ⟨Memory.store, compiler.recorded, options⟩ now request other precompile error
      s answer s') :
    Warm options identity handle artifact s' ∧ Adds (Job.Spares identity) s s' := by
  have hask : ∀ m, (Memory.store.has other m).2.find? identity = m.find? identity := fun m => rfl
  cases hserved with
  | refused events => exact ⟨h.note events, .of_eq rfl⟩
  | missing events hlookup hopen hhas =>
    have hasked : Asked (Memory.store.has other) other error.isSome s _ _ :=
      .missing events hlookup hopen hhas
    obtain ⟨hwarm, hcompiler⟩ := h.asked hask hasked
    exact ⟨hwarm, .of_eq hcompiler⟩
  | lost events hadm =>
    obtain ⟨hwarm, hcompiler⟩ := h.admitted hask hadm
    exact ⟨hwarm.note events, .of_eq hcompiler⟩
  | answered events events' hadm hentry hserv =>
    obtain ⟨hwarm, hcompiler⟩ := h.admitted hask hadm
    obtain ⟨hwarm', hadds⟩ := (hwarm.note events).serviced hentry (Entry.Serviced.of_run hserv)
    exact ⟨hwarm'.note events', Adds.trans (.of_eq hcompiler) hadds⟩

/-- A request keeps the entry warm, and does not compile its template. -/
theorem Examined.warm {answer : Except Failure Response}
    (h : Warm options identity handle artifact s)
    (hservice : Examined ⟨⟨Memory.store, compiler.recorded, options⟩, page⟩ now request s answer
      s') :
    Warm options identity handle artifact s' ∧ Adds (Job.Spares identity) s s' := by
  cases hservice with
  | refused events => exact ⟨h.note events, .of_eq rfl⟩
  | served _ hserved => exact hserved.warm h

theorem Shown.warm {failure : Failure} {response : Response}
    (h : Warm options identity handle artifact s)
    (hshown : Shown ⟨⟨Memory.store, compiler.recorded, options⟩, page⟩ now request s failure
      response s') :
    Warm options identity handle artifact s' ∧ Adds (Job.Spares identity) s s' := by
  cases hshown with
  | plain events => exact ⟨h.note events, .of_eq rfl⟩
  | paged events _ _ hserved =>
    obtain ⟨hwarm, hadds⟩ := hserved.warm h
    exact ⟨hwarm.note events, hadds⟩

theorem Responded.warm {response : Response} (h : Warm options identity handle artifact s)
    (hresponded : Responded ⟨⟨Memory.store, compiler.recorded, options⟩, page⟩ now request s
      response s') :
    Warm options identity handle artifact s' ∧ Adds (Job.Spares identity) s s' := by
  cases hresponded with
  | answered hservice => exact hservice.warm h
  | failed hservice hshown =>
    obtain ⟨hwarm, hadds⟩ := hservice.warm h
    obtain ⟨hwarm', hadds'⟩ := hshown.warm hwarm
    exact ⟨hwarm', hadds.trans hadds'⟩

/-- **A call keeps the identity warm**, if it leaves it alone. -/
theorem call_warm (page : Option Identity) {call : Call Memory Edit}
    (h : Warm options identity handle artifact s)
    (hleaves : call.Leaves identity handle) :
    let d : Dispatcher Memory (κ × List (Job α)) α :=
      ⟨⟨Memory.store, compiler.recorded, options⟩, page⟩
    let s' := (d.call Edit.onMemory call s).2
    Warm options identity handle artifact s' ∧ Adds (Job.Spares identity) s s' := by
  intro d s'
  -- only requests and entered services reach the compiler; the other calls add no job
  cases call with
  | step step =>
    cases step with
    | change edit =>
      exact ⟨h.withStore (edit.find?_of_other _ (Ne.symm hleaves)), .of_eq rfl⟩
    | mark marked =>
      refine ⟨h.markForReload hleaves, .of_eq ?_⟩
      show (s.markForReload marked).backend.compiler = _
      unfold markForReload
      cases hentry : s.cache.entry? marked with
      | none => rw [onEntry_none hentry]
      | some e => rw [onEntry_some hentry]; rfl
    | setReloads count => exact ⟨⟨h.filed, h.loaded, h.entry⟩, .of_eq rfl⟩
    | service now request => exact (service_cases d now request s).warm h
    | respond now request => exact (respond_cases d now request s).warm h
  | create other isErrorPage ask =>
    have hasked := getOrCreate_cases ask other isErrorPage s []
    rw [note_nil] at hasked
    obtain ⟨hwarm, hcompiler⟩ := h.asked hleaves hasked
    exact ⟨hwarm, .of_eq hcompiler⟩
  | enter entered now request precompile error =>
    -- the handle may be that of any entry, loaded or given up, or of none
    have hs' : s' = (s.onEntry entered
        (Entry.service d.setup now request precompile error).run).2 := rfl
    cases hentry : s.cache.entry? entered with
    | none =>
      rw [onEntry_none hentry] at hs'
      rw [hs']
      exact ⟨h, .of_eq rfl⟩
    | some e =>
      rw [onEntry_some hentry] at hs'
      rw [hs']
      exact h.serviced hentry (Entry.service_cases d.setup now request precompile error _)
  | teardown => exact hleaves.elim

/-- **So do any number of calls.** -/
theorem calls_warm (page : Option Identity) {calls : List (Call Memory Edit)}
    (h : Warm options identity handle artifact s)
    (hleaves : ∀ call ∈ calls, call.Leaves identity handle) :
    let d : Dispatcher Memory (κ × List (Job α)) α :=
      ⟨⟨Memory.store, compiler.recorded, options⟩, page⟩
    let s' := (d.calls Edit.onMemory calls s).2
    Warm options identity handle artifact s' ∧ Adds (Job.Spares identity) s s' := by
  intro d s'
  induction calls generalizing s with
  | nil => exact ⟨h, .of_eq rfl⟩
  | cons call calls ih =>
    obtain ⟨hcall, hcalls⟩ := List.forall_mem_cons.mp hleaves
    obtain ⟨hwarm, hadds⟩ := call_warm page h hcall
    obtain ⟨hwarm', hadds'⟩ := ih hwarm hcalls
    exact ⟨hwarm', hadds.trans hadds'⟩

/-- **A request for a warm identity** is answered from the artifact. -/
theorem Served.of_warm {precompile : Bool} {error : Option String}
    {answer : Except Failure Response} (h : Warm options identity handle artifact s)
    (hserved : Served ⟨Memory.store, compiler.recorded, options⟩ now request identity precompile
      error s answer s') :
    (answer, s'.backend.compiler) = Entry.fromArtifact compiler.recorded artifact
      (.ofRequest identity request error) precompile s.backend.compiler := by
  obtain ⟨e, he, hwarm⟩ := h.entry
  obtain ⟨e', he', hid⟩ := h.filed.keyed _ _ h.loaded
  rw [he] at he'
  cases he'
  have hloaded {found : Handle} {s₁ : Engine Memory (κ × List (Job α)) α}
      (hadm : Admitted (Memory.store.has identity) identity error.isSome s found s₁) :
      found = handle ∧ s₁ = s := by
    cases hadm with
    | present hlookup =>
      rw [h.loaded] at hlookup
      exact ⟨(Option.some.inj hlookup).symm, rfl⟩
    | created hlookup =>
      rw [h.loaded] at hlookup
      cases hlookup
  cases hserved with
  | refused _ hlookup =>
    rw [h.loaded] at hlookup
    cases hlookup
  | missing _ hlookup =>
    rw [h.loaded] at hlookup
    cases hlookup
  | lost _ hadm hentry =>
    obtain ⟨rfl, rfl⟩ := hloaded hadm
    rw [he] at hentry
    cases hentry
  | answered events _ hadm hentry hserv =>
    obtain ⟨rfl, rfl⟩ := hloaded hadm
    rw [he] at hentry
    cases hentry
    obtain ⟨-, hanswer⟩ := (Entry.Serviced.of_run hserv).of_warm hwarm
    rw [← hid]
    exact hanswer

end

/-! ## Precompilation -/

section

variable {store : SourceStore σ} {compiler : Compiler κ α} {options : Options} {now : Nat}
  {request : Request} {identity : Identity}

/-- A request for compilation only executes nothing. Where it succeeds, its identity is loaded and
compiled. -/
theorem Served.precompiled {s s' : Engine σ (κ × List (Job α)) α} {error : Option String}
    {answer : Except Failure Response}
    (hserved : Served ⟨store, compiler.recorded, options⟩ now request identity true error s answer
      s') :
    Adds (fun job => ∀ executed, job ≠ .execute executed) s s' ∧
      ∀ response, answer = .ok response → response = .compiled ∧
        ∃ handle e, s'.cache.lookup identity = some handle ∧ s'.cache.entry? handle = some e ∧
          e.isCompiled = true := by
  cases hserved with
  | refused => exact ⟨.of_eq rfl, nofun⟩
  | missing => exact ⟨.of_eq rfl, nofun⟩
  | lost _ hadm => exact ⟨.of_eq (by cases hadm <;> rfl), nofun⟩
  | @answered handle s₁ e focus _ events events' hadm hentry hserv =>
    have hserviced := Entry.Serviced.of_run hserv
    constructor
    · have hcompiler : s₁.backend.compiler = s.backend.compiler := by cases hadm <;> rfl
      obtain ⟨done, hdone, hall⟩ := hserviced.prepares
      refine .trans (.of_eq hcompiler) ⟨done, hdone, fun job hjob => ?_⟩
      rcases hall job hjob with hprepares | ⟨hpre, -⟩
      · rintro executed rfl
        exact hprepares
      · cases hpre
    · rintro response rfl
      have hput := Cache.entry?_set_self hentry focus.entry
      cases hserviced with
      | precompiled hr =>
        have hcompiled := (Entry.Refreshed.of_run _ _ hr).isCompiled
        exact ⟨rfl, handle, _, hadm.loaded, hput, hcompiled⟩
      | executed _ hpre => cases hpre

/-- **Where it succeeds, the identity is warm.** -/
theorem Served.warms {s s' : Engine Memory κ α} {error : Option String} {response : Response}
    (hoptions : options.development = false ∨ options.checkInterval = 0) (hfiled : s.cache.Filed)
    (hserved : Served ⟨Memory.store, compiler, options⟩ now request identity true error s
      (.ok response) s') :
    ∃ handle artifact, Warm options identity handle artifact s' := by
  have hfiled' : s'.cache.Filed := hserved.works.turns.filed hfiled
  cases hserved with
  | @answered handle s₁ e focus _ events events' hadm hentry hserv =>
    have hput := Cache.entry?_set_self hentry focus.entry
    cases Entry.Serviced.of_run hserv with
    | precompiled hr =>
      obtain ⟨artifact, hwarm⟩ := (Entry.Refreshed.of_run _ _ hr).warms hoptions
      exact ⟨handle, artifact, hfiled', hadm.loaded, _, hput, hwarm⟩
    | executed _ hpre => cases hpre

/-- A request to compile only executes nothing. If it is answered, its template is compiled. -/
theorem Examined.precompiled {page : Option Identity} {s s' : Engine σ (κ × List (Job α)) α}
    {answer : Except Failure Response} (hdetect : Directive.detect request.query = .ok true)
    (hservice : Examined ⟨⟨store, compiler.recorded, options⟩, page⟩ now request s answer s') :
    Adds (fun job => ∀ executed, job ≠ .execute executed) s s' ∧
      ∀ response, answer = .ok response → response = .compiled ∧
        ∃ identity handle e, request.resolve = .ok identity ∧
          s'.cache.lookup identity = some handle ∧ s'.cache.entry? handle = some e ∧
          e.isCompiled = true := by
  cases hservice with
  | refused => exact ⟨.of_eq rfl, nofun⟩
  | @served identity precompile answer _ hexamine hserved =>
    obtain ⟨hresolve, hdetected⟩ := examine_ok hexamine
    rw [hdetect] at hdetected
    cases hdetected
    obtain ⟨hadds, hanswer⟩ := hserved.precompiled
    refine ⟨hadds, fun response hresponse => ?_⟩
    cases answer with
    | error => cases hresponse
    | ok response' =>
      cases hresponse
      obtain ⟨hcompiled, handle, e, hentry⟩ := hanswer response rfl
      exact ⟨hcompiled, identity, handle, e, hresolve, hentry⟩

/-- If the sources cannot have changed unseen, it leaves the entry warm. -/
theorem Examined.warms {page : Option Identity} {s s' : Engine Memory κ α} {response : Response}
    (hoptions : options.development = false ∨ options.checkInterval = 0) (hfiled : s.cache.Filed)
    (hdetect : Directive.detect request.query = .ok true)
    (hservice : Examined ⟨⟨Memory.store, compiler, options⟩, page⟩ now request s (.ok response)
      s') :
    ∃ identity handle artifact, request.resolve = .ok identity ∧
      Warm options identity handle artifact s' := by
  generalize hanswer : Except.ok response = answer at hservice
  cases hservice with
  | refused => cases hanswer
  | @served identity precompile answer _ hexamine hserved =>
    obtain ⟨hresolve, hdetected⟩ := examine_ok hexamine
    rw [hdetect] at hdetected
    cases hdetected
    cases answer with
    | error => cases hanswer
    | ok response' =>
      obtain ⟨handle, artifact, hwarm⟩ := hserved.warms hoptions hfiled
      exact ⟨identity, handle, artifact, hresolve, hwarm⟩

/-- How a request for a warm identity is answered, and what the compiler is told. -/
def RepliesFrom (compiler : Compiler κ α) (identity : Identity) (artifact : α) (request : Request)
    (s : Engine Memory (κ × List (Job α)) α)
    (reply : Except Failure Response × Engine Memory (κ × List (Job α)) α) : Prop :=
  match Directive.detect request.query with
  | .error failure => reply.1 = .error failure ∧ reply.2.backend.compiler = s.backend.compiler
  | .ok true => reply.1 = .ok .compiled ∧ reply.2.backend.compiler = s.backend.compiler
  | .ok false =>
    let context := RenderContext.ofRequest identity request none
    let body := (compiler.execute artifact context s.backend.compiler.1).1
    reply.1 = (body.map Response.html).mapError (named identity) ∧
      reply.2.backend.compiler.2 = s.backend.compiler.2 ++ [.execute artifact]

/-- A request for a template that is warm is answered from its artifact. -/
theorem Examined.of_warm {page : Option Identity} {handle : Handle} {artifact : α}
    {s s' : Engine Memory (κ × List (Job α)) α} {answer : Except Failure Response}
    (h : Warm options identity handle artifact s) (hresolve : request.resolve = .ok identity)
    (hservice : Examined ⟨⟨Memory.store, compiler.recorded, options⟩, page⟩ now request s answer
      s') :
    RepliesFrom compiler identity artifact request s (answer, s') := by
  unfold RepliesFrom
  cases hservice with
  | refused events hexamine =>
    rcases examine_error hexamine with hfailed | ⟨_, -, hdetect⟩
    · rw [hresolve] at hfailed
      cases hfailed
    · rw [hdetect]
      exact ⟨rfl, rfl⟩
  | @served served precompile _ _ hexamine hserved =>
    obtain ⟨hserves, hdetect⟩ := examine_ok hexamine
    rw [hresolve] at hserves
    cases hserves
    have hreply := hserved.of_warm h
    rw [hdetect]
    cases precompile with
    | true =>
      obtain ⟨rfl, hcompiler⟩ := Prod.mk.inj hreply
      exact ⟨rfl, hcompiler⟩
    | false =>
      obtain ⟨rfl, hcompiler⟩ := Prod.mk.inj hreply
      exact ⟨rfl, congrArg Prod.snd hcompiler⟩

end

end Dispatcher

open Engine

/-- **Precompilation makes ready and runs nothing.** Over any store and any compiler, whose record
the answers do not depend on, a request for compilation only has no artifact executed. If it
succeeds, it is answered as compiled, and its identity is loaded and compiled then.

Over sources in memory, in production or where every request looks, it does not matter what went
before. If callers leave the source and the entry alone after that, the source is not compiled
again, and at any time a request for the identity, spelled in any way, is refused for its own
directive, or answered as compiled without any work, or answered by the one execution of that
artifact. -/
theorem precompile_warms (compiler : Compiler κ α) (options : Options) (page : Option Identity) :
    (∀ (σ : Type) (store : SourceStore σ) (now : Nat) (request : Request)
      (s : Engine σ (κ × List (Job α)) α),
      let d : Dispatcher σ (κ × List (Job α)) α := ⟨⟨store, compiler.recorded, options⟩, page⟩
      let plain : Dispatcher σ κ α := ⟨⟨store, compiler, options⟩, page⟩
      let done := d.service now request s
      plain.service now request (View.record.engine s) = (done.1, View.record.engine done.2) ∧
        (Directive.detect request.query = .ok true →
          Adds (fun job => ∀ executed, job ≠ .execute executed) s done.2 ∧
            ∀ response, done.1 = .ok response → response = .compiled ∧
              ∃ identity handle e, request.resolve = .ok identity ∧
                done.2.cache.lookup identity = some handle ∧
                done.2.cache.entry? handle = some e ∧ e.isCompiled = true)) ∧
    ∀ (memory : Memory) (state : κ) (early : List (Call Memory Edit)) (now : Nat)
      (request : Request) (response : Response),
      let d : Dispatcher Memory (κ × List (Job α)) α :=
        ⟨⟨Memory.store, compiler.recorded, options⟩, page⟩
      let before := (d.calls Edit.onMemory early (.start memory (state, []))).2
      let done := d.service now request before
      options.development = false ∨ options.checkInterval = 0 →
      Directive.detect request.query = .ok true → done.1 = .ok response →
      ∃ identity handle artifact, request.resolve = .ok identity ∧
        Engine.Warm options identity handle artifact done.2 ∧
        ∀ late : List (Call Memory Edit), (∀ call ∈ late, call.Leaves identity handle) →
          let s := (d.calls Edit.onMemory late done.2).2
          Adds (Job.Spares identity) done.2 s ∧
            ∀ (later : Nat) (again : Request), again.resolve = .ok identity →
              Dispatcher.RepliesFrom compiler identity artifact again s
                (d.service later again s) := by
  constructor
  · intro σ store now request s d plain done
    have hrecord := View.record_shows store compiler options
    refine ⟨Dispatcher.service_follows hrecord page now request s, fun hdetect => ?_⟩
    exact (Dispatcher.service_cases d now request s).precompiled hdetect
  · intro memory state early now request response d before done hoptions hdetect hdone
    have hfiled : before.cache.Filed :=
      Turns.filed .empty (d.calls_turns (.start memory (state, [])) Edit.onMemory early)
    have hservice := Dispatcher.service_cases d now request before
    rw [show (d.service now request before).1 = .ok response from hdone] at hservice
    obtain ⟨identity, handle, artifact, hresolve, hwarm⟩ := hservice.warms hoptions hfiled hdetect
    refine ⟨identity, handle, artifact, hresolve, hwarm, fun late hleaves => ?_⟩
    obtain ⟨hwarm', hadds⟩ := Dispatcher.calls_warm page hwarm hleaves
    refine ⟨hadds, fun later again hagain => ?_⟩
    exact (Dispatcher.service_cases d later again _).of_warm hwarm' hagain

/-- A source is compiled, changes, and is precompiled. What happens to another source then does not
matter, and a request by another path is answered from the new text. -/
theorem precompile_warms_changed :
    let p : Identity := ⟨[⟨['p'], by decide⟩], by simp⟩
    let q : Identity := ⟨[⟨['q'], by decide⟩], by simp⟩
    let d : Dispatcher Memory (Echo.Counts × List (Job String)) String :=
      ⟨⟨Memory.store, Echo.compiler.recorded, ⟨true, 0⟩⟩, none⟩
    let early : List (Call Memory Edit) :=
      [.step (.change (.put p "v1")), .step (.service 0 (.forPath "/p")),
        .step (.change (.put p "v2"))]
    let before := (d.calls Edit.onMemory early (.start .empty (.zero, []))).2
    let done := d.service 1 (.get "/p?jsp_precompile=true") before
    let late : List (Call Memory Edit) :=
      [.step (.change (.put q "w")), .step (.respond 2 (.forPath "/q"))]
    let s := (d.calls Edit.onMemory late done.2).2
    Directive.detect (Request.get "/p?jsp_precompile=true").query = .ok true ∧
      done.1 = .ok .compiled ∧
      (∃ handle, ∀ call ∈ late, call.Leaves p handle) ∧ Adds (Job.Spares p) done.2 s ∧
      (d.service 3 (.forPath "x/../p") s).1 = .ok (.html "v2") := by
  intro p q d early before done late s
  have hdetect : Directive.detect (Request.get "/p?jsp_precompile=true").query = .ok true := rfl
  have hdone : done.1 = .ok .compiled := rfl
  obtain ⟨identity, handle, artifact, hresolve, -, hlate⟩ :=
    (precompile_warms Echo.compiler ⟨true, 0⟩ none).2 .empty .zero early 1
      (.get "/p?jsp_precompile=true") .compiled (.inr rfl) hdetect hdone
  have hidentity : identity = p := Except.ok.inj (hresolve.symm.trans rfl)
  subst hidentity
  have hleaves : ∀ call ∈ late, call.Leaves p handle := by
    simp [late, Call.Leaves, Edit.identity, p, q]
  have hanswer : (d.service 3 (.forPath "x/../p") s).1 = .ok (.html "v2") := by decide +kernel
  exact ⟨hdetect, hdone, ⟨handle, hleaves⟩, (hlate late hleaves).1, hanswer⟩

end TemplateServer
