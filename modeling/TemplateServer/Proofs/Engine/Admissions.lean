import TemplateServer.Proofs.Cache
import TemplateServer.Proofs.Engine.Turns
import TemplateServer.Proofs.Entry.Trades

/-!
# Which entries are made

An engine that started empty keeps its cache `Filed`, whatever is done to it. `Dispatcher.admitted`
collects, call by call, the identities whose entries were asked for and given: by a request, by the
page that shows a failure, or by a caller who wanted no more than the entry. The entries that were
ever made are those of the identities in this list (`calls_makes`).

The cache is closed by the teardown and by nothing else (`calls_closed_iff`).
-/

namespace TemplateServer

variable {σ κ α χ : Type}

namespace Engine

section

variable {setup : Setup σ κ α} {s s' : Engine σ κ α}

/-- Work leaves the cache in order. -/
theorem Work.filed (h : s.cache.Filed) (hw : Work setup s s') : s'.cache.Filed := by
  cases hw with
  | noted => exact h
  | stored => exact h
  | loaded isErrorPage hlookup hopen => exact h.insert hopen hlookup isErrorPage
  | marked hentry => exact h.set hentry rfl
  | serviced hentry hserv => exact h.set hentry hserv.identity_eq
  | destroyed hentry =>
    refine h.set hentry ?_
    rw [Entry.Focus.destroy_entry]
    rfl

theorem Turn.filed (h : s.cache.Filed) (ht : Turn setup s s') : s'.cache.Filed := by
  cases ht with
  | work hw => exact hw.filed h
  | counted => exact h
  | closed => exact h.close

theorem Turns.filed (h : s.cache.Filed) (ht : Turns setup s s') : s'.cache.Filed := by
  induction ht with
  | refl => exact h
  | tail _ ht ih => exact ht.filed ih

/-- In a closed cache no entry is made. -/
theorem Works.made_eq (hclosed : s.cache.closed = true) (h : Works setup s s') :
    s'.cache.made = s.cache.made := by
  induction h with
  | refl => rfl
  | @tail s₁ s₂ hworks hw ih =>
    rw [← ih]
    cases hw with
    | noted => rfl
    | stored => rfl
    | loaded _ _ hopen =>
      rw [Works.closed_eq hworks, hclosed] at hopen
      cases hopen
    | marked hentry => exact Cache.made_set hentry rfl
    | serviced hentry hserv => exact Cache.made_set hentry hserv.identity_eq
    | destroyed hentry =>
      refine Cache.made_set hentry ?_
      rw [Entry.Focus.destroy_entry]
      rfl

end

/-- A closing closes the cache. -/
theorem close_closed (s : Engine σ κ α) : (s.onCache Cache.close).2.cache.closed = true := by
  show s.cache.close.2.closed = true
  unfold Cache.close
  split
  next hclosed => exact hclosed
  next => rfl

/-- Entries outlive their cache. -/
theorem close_entries (s : Engine σ κ α) :
    (s.onCache Cache.close).2.cache.entries = s.cache.entries := by
  show s.cache.close.2.entries = s.cache.entries
  unfold Cache.close
  split <;> rfl

/-- A teardown makes no entry and forgets none. -/
theorem teardown_made (setup : Setup σ κ α) (s : Engine σ κ α) :
    (s.teardown setup).2.cache.made = s.cache.made :=
  (Works.made_eq (close_closed s) (teardown_works setup s)).trans
    (congrArg (List.map _) (close_entries s))

/-- Entries were made for these identities, as far as they had none. -/
def Makes (identities : List Identity) (s s' : Engine σ κ α) : Prop :=
  ∀ identity, identity ∈ s'.cache.made ↔ identity ∈ s.cache.made ∨ identity ∈ identities

section

variable {s s₁ s' : Engine σ κ α} {identities identities' : List Identity}

theorem Makes.of_eq (h : s'.cache.made = s.cache.made) : Makes [] s s' := by
  intro identity
  rw [h]
  simp

/-- What is made in two runs is what is made in both together. -/
theorem Makes.trans (h : Makes identities s s₁) (h' : Makes identities' s₁ s') :
    Makes (identities ++ identities') s s' := by
  intro identity
  rw [h' identity, h identity, List.mem_append, or_assoc]

/-- Only the entries matter. -/
theorem Makes.congr (h : Makes identities s s₁) (hmade : s'.cache.made = s₁.cache.made) :
    Makes identities s s' := by
  intro identity
  rw [hmade]
  exact h identity

/-- An identity that is let in is made, if it was not made before. -/
theorem Admitted.makes {ask : StateM σ Bool} {identity : Identity} {isErrorPage : Bool}
    {handle : Handle} (h : s.cache.Filed)
    (hadm : Admitted ask identity isErrorPage s handle s') : Makes [identity] s s' := by
  intro other
  rw [List.mem_singleton]
  cases hadm with
  | present hlookup =>
    have hthere := h.mem_made_of_lookup hlookup
    constructor
    · exact .inl
    · rintro (hmem | rfl)
      · exact hmem
      · exact hthere
  | created =>
    rw [load_cache, Cache.made_insert, List.mem_append, List.mem_singleton]
    rfl

end

/-- The identity, if its entry is asked for and given. `ask` is the question whether there is a
source. -/
def admits (identity : Identity) (isErrorPage : Bool) (ask : StateM σ Bool) (s : Engine σ κ α) :
    List Identity :=
  match ((getOrCreate identity isErrorPage (onStore ask)).run s).1 with
  | .ok _ => [identity]
  | .error _ => []

section

variable {s s' : Engine σ κ α} {ask : StateM σ Bool} {identity : Identity} {isErrorPage : Bool}

/-- An identity is let in if it is found, or if the cache is open and there is a source. -/
theorem admits_eq (ask : StateM σ Bool) (identity : Identity) (isErrorPage : Bool)
    (s : Engine σ κ α) :
    s.admits identity isErrorPage ask =
      if (s.cache.lookup identity).isSome ∨
          (s.cache.closed = false ∧ (ask s.backend.store).1 = true) then [identity] else [] := by
  have hasked := getOrCreate_cases ask identity isErrorPage s []
  dsimp only at hasked
  rw [note_nil] at hasked
  unfold admits
  rcases hrun : (getOrCreate identity isErrorPage (onStore ask)).run s with ⟨result, s'⟩
  rw [hrun] at hasked
  cases hasked with
  | admitted events hadm =>
    cases hadm with
    | present hlookup => rw [hlookup, if_pos (.inl rfl)]
    | created _ hopen hask => rw [if_pos (.inr ⟨hopen, by rw [hask]⟩)]
  | refused events hlookup hclosed =>
    rw [hlookup, hclosed, if_neg]
    simp
  | missing events hlookup hopen hask =>
    rw [hlookup, hask, if_neg]
    simp

/-- The engine admits what it has let in. -/
theorem admits_of_admitted {handle : Handle}
    (hadm : Admitted ask identity isErrorPage s handle s') :
    s.admits identity isErrorPage ask = [identity] := by
  rw [admits_eq]
  cases hadm with
  | present hlookup => rw [hlookup, if_pos (.inl rfl)]
  | created _ hopen hask => rw [if_pos (.inr ⟨hopen, by rw [hask]⟩)]

/-- Asking for an entry makes it if and only if it is let in. -/
theorem Asked.makes {result : Except Failure Handle} (h : s.cache.Filed)
    (hasked : Asked ask identity isErrorPage s result s') :
    Makes (s.admits identity isErrorPage ask) s s' := by
  cases hasked with
  | admitted events hadm =>
    rw [admits_of_admitted hadm]
    exact (hadm.makes h).congr rfl
  | refused events hlookup hclosed =>
    rw [admits_eq, hlookup, hclosed, if_neg (by simp)]
    exact .of_eq rfl
  | missing events hlookup hopen hask =>
    rw [admits_eq, hlookup, hask, if_neg (by simp)]
    exact .of_eq rfl

end

end Engine

namespace Dispatcher

open Engine

section

variable (d : Dispatcher σ κ α)

/-- The identity that a request is given the entry of. -/
def admittedOfService (request : Request) (s : Engine σ κ α) : List Identity :=
  match examine request with
  | .error _ => []
  | .ok (identity, _) => s.admits identity false (d.setup.store.has identity)

/-- The page, if a failure is given its entry. -/
def admittedOfError (failure : Failure) (s : Engine σ κ α) : List Identity :=
  if failure.isClientError then []
  else
    match d.errorPage with
    | none => []
    | some page => s.admits page true (d.setup.store.has page)

/-- The identities let in by a response: that of the request, and that of the page if there is one
to be shown. -/
def admittedOfRespond (now : Nat) (request : Request) (s : Engine σ κ α) : List Identity :=
  d.admittedOfService request s ++
    match d.service now request s with
    | (.ok _, _) => []
    | (.error failure, s) => d.admittedOfError failure s

/-- The identities that a call is given entries of. -/
def admittedOf : Call σ χ → Engine σ κ α → List Identity
  | .step (.service _ request), s => d.admittedOfService request s
  | .step (.respond now request), s => d.admittedOfRespond now request s
  | .create identity isErrorPage ask, s => s.admits identity isErrorPage ask
  | _, _ => []

/-- The identities that calls are given entries of, in order. -/
def admitted (apply : χ → σ → σ) : List (Call σ χ) → Engine σ κ α → List Identity
  | [], _ => []
  | call :: rest, s => d.admittedOf call s ++ admitted apply rest (d.call apply call s).2

end

section

variable {d : Dispatcher σ κ α} {now : Nat} {request : Request} {s s' : Engine σ κ α}

/-- **A request for an identity** makes its entry, or none. -/
theorem Served.makes {setup : Setup σ κ α} {identity : Identity} {precompile : Bool}
    {error : Option String} {answer : Except Failure Response} (h : s.cache.Filed)
    (hserved : Served setup now request identity precompile error s answer s') :
    Makes (s.admits identity error.isSome (setup.store.has identity)) s s' := by
  cases hserved with
  | refused events hlookup hclosed =>
    exact Asked.makes h (.refused events hlookup hclosed)
  | missing events hlookup hopen hhas =>
    exact Asked.makes h (.missing events hlookup hopen hhas)
  | lost events hadm => exact Asked.makes h (.admitted events hadm)
  | answered events events' hadm hentry hserv =>
    rw [admits_of_admitted hadm]
    exact (hadm.makes h).congr
      (Cache.made_set hentry (Entry.Serviced.of_run hserv).identity_eq)

/-- A request makes the identity that it lets in. -/
theorem Examined.makes {answer : Except Failure Response} (h : s.cache.Filed)
    (hservice : Examined d now request s answer s') :
    Makes (d.admittedOfService request s) s s' := by
  unfold admittedOfService
  cases hservice with
  | refused _ hexamine =>
    rw [hexamine]
    exact .of_eq rfl
  | served hexamine hserved =>
    have hmakes := hserved.makes h
    rw [hexamine]
    exact hmakes

/-- A page for a failure makes its own. -/
theorem Shown.makes {failure : Failure} {response : Response} (h : s.cache.Filed)
    (hshown : Shown d now request s failure response s') :
    Makes (d.admittedOfError failure s) s s' := by
  unfold admittedOfError
  cases hshown with
  | plain _ hplain =>
    rcases hplain with hclient | hpage
    · rw [if_pos hclient]
      exact .of_eq rfl
    · rw [hpage]
      split <;> exact .of_eq rfl
  | paged events hserver hpage hserved =>
    have hmakes := hserved.makes h
    rw [hserver, hpage]
    exact hmakes.congr rfl

variable (d now request)

/-- A response makes those of both. -/
theorem respond_makes (h : s.cache.Filed) :
    Makes (d.admittedOfRespond now request s) s (d.respond now request s).2 := by
  have hservice := service_cases d now request s
  unfold admittedOfRespond respond
  rcases hrun : d.service now request s with ⟨failure | response, s₁⟩
  · rw [hrun] at hservice
    exact (hservice.makes h).trans
      ((errorResponse_cases d now request s₁ failure).makes (Turns.filed h hservice.turns))
  · rw [hrun] at hservice
    exact (hservice.makes h).trans (.of_eq rfl)

variable (apply : χ → σ → σ)

/-- A call makes the identities that it is given entries of. -/
theorem call_makes (h : s.cache.Filed) (call : Call σ χ) :
    Makes (d.admittedOf call s) s (d.call apply call s).2 := by
  cases call with
  | step step =>
    cases step with
    | change => exact .of_eq rfl
    | mark handle =>
      show Makes [] s (s.markForReload handle)
      unfold markForReload
      cases hentry : s.cache.entry? handle with
      | none => rw [onEntry_none hentry]; exact .of_eq rfl
      | some e => rw [onEntry_some hentry]; exact .of_eq (Cache.made_set hentry rfl)
    | setReloads => exact .of_eq rfl
    | service now request => exact (service_cases d now request s).makes h
    | respond now request => exact respond_makes d now request h
  | create identity isErrorPage ask =>
    have hasked := getOrCreate_cases ask identity isErrorPage s []
    dsimp only at hasked
    rw [note_nil] at hasked
    exact hasked.makes h
  | enter handle now request precompile error =>
    unfold Dispatcher.call
    dsimp only
    cases hentry : s.cache.entry? handle with
    | none => rw [onEntry_none hentry]; exact .of_eq rfl
    | some e =>
      rw [onEntry_some hentry]
      have hserv := Entry.service_cases d.setup now request precompile error ⟨e, s.backend⟩
      exact .of_eq (Cache.made_set hentry hserv.identity_eq)
  | teardown => exact .of_eq (teardown_made d.setup s)

/-- **The entries that were ever made** are those that were asked for and given. -/
theorem calls_makes (h : s.cache.Filed) (calls : List (Call σ χ)) :
    Makes (d.admitted apply calls s) s (d.calls apply calls s).2 := by
  induction calls generalizing s with
  | nil => exact .of_eq rfl
  | cons call calls ih =>
    exact (call_makes d apply h call).trans (ih (Turns.filed h (call_turns d s apply call)))

end

section

variable (d : Dispatcher σ κ α) (s : Engine σ κ α) (apply : χ → σ → σ)

/-- Calls other than a teardown leave the cache open or closed. -/
theorem call_closed_eq {call : Call σ χ} (h : call ≠ .teardown) :
    (d.call apply call s).2.cache.closed = s.cache.closed := by
  by_cases hset : ∃ count, call = .step (.setReloads count)
  · obtain ⟨count, rfl⟩ := hset
    rfl
  · exact Works.closed_eq (call_works d s apply (fun count hcall => hset ⟨count, hcall⟩) h)

theorem teardown_closed : (s.teardown d.setup).2.cache.closed = true :=
  (Works.closed_eq (teardown_works d.setup s)).trans (close_closed s)

/-- **The teardown closes the cache**, and nothing else does. -/
theorem calls_closed_iff (calls : List (Call σ χ)) :
    (d.calls apply calls s).2.cache.closed = true ↔
      s.cache.closed = true ∨ .teardown ∈ calls := by
  induction calls generalizing s with
  | nil => simp [Dispatcher.calls]
  | cons call calls ih =>
    show (d.calls apply calls (d.call apply call s).2).2.cache.closed = true ↔ _
    rw [ih, List.mem_cons]
    by_cases hcall : call = .teardown
    · subst hcall
      have hclosed : (d.call apply .teardown s).2.cache.closed = true := d.teardown_closed s
      rw [hclosed]
      simp
    · rw [call_closed_eq d s apply hcall]
      simp [Ne.symm hcall]

end

end Dispatcher

end TemplateServer
