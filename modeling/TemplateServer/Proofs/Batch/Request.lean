import TemplateServer.Proofs.Batch.Item
import TemplateServer.Proofs.Http.Front
import TemplateServer.Proofs.Passage

/-!
# One request of a batch

The request for an identity finds this identity again, whatever characters it has
(`examine_request`), and goes through an engine that only the batch has used. `Passage.goes` is the
step lemma: whichever step it takes, the engine stays `Prepared`, what was there goes on being there
(`Engine.Grows`), no entry is made but the one of its identity, and what it is answered in the end
is what is to become of the identity.
-/

namespace TemplateServer

open TemplateServer.Action

variable {κ α : Type}

/-- The request for an identity is for this identity, and asks for compilation only. -/
theorem Batch.examine_request (identity : Identity) :
    Dispatcher.examine (Batch.request identity) = .ok (identity, true) := by
  have hresolve : (Batch.request identity).resolve = .ok identity := by
    show Identity.parse (identity.text ++ "") = .ok identity
    rw [String.append_empty]
    exact Identity.parse_eq_ok_iff.mpr identity.normalize_text
  have hdetect : Directive.detect (Batch.request identity).query = .ok true := rfl
  unfold Dispatcher.examine
  rw [hresolve, hdetect]
  rfl

namespace Engine

variable (m : Memory) (verdict : Identity → String → Except Failure Unit)

/-- An engine that only requests for compilation have come to. -/
structure Prepared (s : Engine Memory κ α) : Prop where
  store : s.backend.store = m
  filed : s.cache.Filed
  isOpen : s.cache.closed = false
  entries : ∀ handle e, s.cache.entry? handle = some e → e.Prepared m verdict

/-- How the entries of an engine go on. -/
def Grows (s s' : Engine Memory κ α) : Prop :=
  ∀ handle e, s.cache.entry? handle = some e →
    ∃ e', s'.cache.entry? handle = some e' ∧ e.Grows e'

section

variable {s s' : Engine Memory κ α} {handle : Handle} {e : Entry α}

theorem Prepared.start (k : κ) : Prepared m verdict (.start m k : Engine Memory κ α) where
  store := rfl
  filed := .empty
  isOpen := rfl
  entries _ _ hentry := by cases hentry

theorem Grows.refl (s : Engine Memory κ α) : Grows s s := fun _ e hentry => ⟨e, hentry, .refl e⟩

theorem mem_made_of_entry (h : s.cache.entry? handle = some e) : e.identity ∈ s.cache.made :=
  List.mem_map.mpr ⟨e, List.mem_of_getElem? h, rfl⟩

/-- What was made stays made. -/
theorem Grows.mem_made (h : Grows s s') {identity : Identity} (hmade : identity ∈ s.cache.made) :
    identity ∈ s'.cache.made := by
  obtain ⟨e, he, rfl⟩ := List.mem_map.mp hmade
  obtain ⟨handle, hentry⟩ := List.mem_iff_getElem?.mp he
  obtain ⟨e', hentry', hgrows⟩ := h handle e hentry
  rw [← hgrows.identity]
  exact mem_made_of_entry hentry'

variable {m verdict}

theorem Prepared.note (h : s.Prepared m verdict) (events : List Log.Event) :
    (s.note events).Prepared m verdict := ⟨h.store, h.filed, h.isOpen, h.entries⟩

/-- An entry goes on. -/
theorem Prepared.putBack (h : s.Prepared m verdict) (hentry : s.cache.entry? handle = some e)
    {focus : Entry.Focus Memory κ α} (hprepared : focus.entry.Prepared m verdict)
    (hgrows : e.Grows focus.entry) (hstore : focus.backend.store = s.backend.store) :
    (s.putBack handle focus).Prepared m verdict ∧ s.Grows (s.putBack handle focus) := by
  have hset (other : Handle) : (s.putBack handle focus).cache.entry? other =
      if other = handle then some focus.entry else s.cache.entry? other :=
    Cache.entry?_set hentry focus.entry other
  refine ⟨⟨hstore.trans h.store, h.filed.set hentry hgrows.identity, h.isOpen, ?_⟩, ?_⟩
  · intro other e' hentry'
    rw [hset] at hentry'
    split at hentry'
    next => cases hentry'; exact hprepared
    next => exact h.entries other e' hentry'
  · intro other e' hentry'
    by_cases hother : other = handle
    · rw [hother, hentry] at hentry'
      cases hentry'
      exact ⟨focus.entry, by rw [hset, if_pos hother], hgrows⟩
    · exact ⟨e', by rw [hset, if_neg hother]; exact hentry', .refl e'⟩

/-- An entry is made for a source that there is. -/
theorem Prepared.load (h : s.Prepared m verdict) {identity : Identity}
    (hlookup : s.cache.lookup identity = none) (hfound : (m.find? identity).isSome = true)
    (isErrorPage : Bool) :
    (s.load identity isErrorPage).Prepared m verdict ∧ s.Grows (s.load identity isErrorPage) := by
  have hinsert (other : Handle) : (s.load identity isErrorPage).cache.entry? other =
      if other = s.cache.entries.length then some (.fresh identity isErrorPage)
      else s.cache.entry? other := Cache.entry?_insert identity isErrorPage other s.cache
  refine ⟨⟨h.store, h.filed.insert h.isOpen hlookup isErrorPage, h.isOpen, ?_⟩, ?_⟩
  · intro other e hentry
    rw [hinsert] at hentry
    split at hentry
    next => cases hentry; exact .fresh m verdict hfound isErrorPage
    next => exact h.entries other e hentry
  · intro other e hentry
    have hlt : other < s.cache.entries.length := (List.getElem?_eq_some_iff.mp hentry).1
    exact ⟨e, by rw [hinsert, if_neg (Nat.ne_of_lt hlt)]; exact hentry, .refl e⟩

end

end Engine

namespace Dispatcher.Passage

open Engine

section

variable (m : Memory) (verdict : Identity → String → Except Failure Unit) (identity : Identity)

/-- What is true of an engine when the request for an identity has come so far. -/
def Suits (s : Engine Memory κ α) : Passage α → Prop
  | sent => True
  | examined identity' precompile | missed identity' precompile =>
    identity' = identity ∧ precompile = true
  | admitted identity' precompile handle stage =>
    identity' = identity ∧ precompile = true ∧
      ∃ e, s.cache.entry? handle = some e ∧ e.identity = identity ∧ stage.Suits m verdict e
  | served answer =>
    answer = Batch.answer m verdict identity ∧
      ((m.find? identity).isSome = true → identity ∈ s.cache.made)

/-- What a step of the request leaves behind. -/
structure Goes (compiler : Compiler κ α) (s : Engine Memory κ α) (passage : Passage α)
    (s' : Engine Memory κ α) : Prop where
  prepared : s'.Prepared m verdict
  suits : passage.Suits m verdict identity s'
  grows : s.Grows s'
  made : ∀ other ∈ s'.cache.made, other ∈ s.cache.made ∨ other = identity
  spares : compiler.Spares s.backend.compiler s'.backend.compiler

end

variable {m : Memory} {verdict : Identity → String → Except Failure Unit} {identity : Identity}
  {compiler : Compiler κ α} {options : Options} {page : Option Identity} {now : Nat}
  {s s' : Engine Memory κ α} {passage : Passage α} {handle : Handle} {e : Entry α}

/-- What others do takes nothing from what is known. -/
theorem Suits.of_grows (h : passage.Suits m verdict identity s) (hgrows : s.Grows s') :
    passage.Suits m verdict identity s' := by
  cases passage with
  | sent => trivial
  | examined | missed => exact h
  | admitted =>
    obtain ⟨hidentity, hpre, e, hentry, hown, hsuits⟩ := h
    obtain ⟨e', hentry', hentries⟩ := hgrows _ e hentry
    exact ⟨hidentity, hpre, e', hentry', hentries.identity.trans hown, hsuits.of_grows hentries⟩
  | served => exact ⟨h.1, fun hfound => hgrows.mem_made (h.2 hfound)⟩

/-- Taking note of something is no more than that. -/
theorem Goes.noted (h : s.Prepared m verdict) (events : List Log.Event)
    (hsuits : passage.Suits m verdict identity s) :
    Goes m verdict identity compiler s passage (s.note events) where
  prepared := h.note events
  suits := hsuits.of_grows (.refl s)
  grows := .refl s
  made _ hother := .inl hother
  spares := .refl

theorem Goes.note (h : Goes m verdict identity compiler s passage s') (events : List Log.Event) :
    Goes m verdict identity compiler s passage (s'.note events) :=
  ⟨h.prepared.note events, h.suits.of_grows (.refl s'), h.grows, h.made, h.spares⟩

/-- What is answered is what is to become of the identity. -/
theorem suits_served (hentry : s.cache.entry? handle = some e) (hidentity : e.identity = identity)
    {answer : Except Failure Response}
    (hanswer : answer.mapError (named identity) = Batch.answer m verdict identity) :
    (served (answer.mapError (named identity)) : Passage α).Suits m verdict identity s :=
  ⟨hanswer, fun _ => hidentity ▸ mem_made_of_entry hentry⟩

theorem Goes.arrive {stage : Entry.Stage α} (hentry : s'.cache.entry? handle = some e)
    (hidentity : e.identity = identity) (hsuits : stage.Suits m verdict e)
    (hprepared : s'.Prepared m verdict) (hgrows : s.Grows s')
    (hmade : ∀ other ∈ s'.cache.made, other ∈ s.cache.made ∨ other = identity)
    (hspares : compiler.Spares s.backend.compiler s'.backend.compiler) :
    Goes m verdict identity compiler s (arrive identity true handle stage s').1
      (arrive identity true handle stage s').2 := by
  rcases answered_or identity true handle stage s' with ⟨answer, rfl⟩ | harrive
  · have hanswer : answer.mapError (named e.identity) = Batch.answer m verdict e.identity := hsuits
    rw [hidentity] at hanswer
    have hserved := suits_served hentry hidentity hanswer
    cases answer with
    | ok response => exact Goes.note ⟨hprepared, hserved, hgrows, hmade, hspares⟩ _
    | error failure => exact ⟨hprepared, hserved, hgrows, hmade, hspares⟩
  · rw [harrive]
    exact ⟨hprepared, ⟨rfl, rfl, e, hentry, hidentity, hsuits⟩, hgrows, hmade, hspares⟩

/-- An entry that the cache has for the identity is the one to go to. -/
theorem Goes.dispatch (hentry : s'.cache.entry? handle = some e)
    (hidentity : e.identity = identity) (hprepared : s'.Prepared m verdict) (hgrows : s.Grows s')
    (hmade : ∀ other ∈ s'.cache.made, other ∈ s.cache.made ∨ other = identity)
    (hspares : compiler.Spares s.backend.compiler s'.backend.compiler) :
    Goes m verdict identity compiler s (dispatch identity true handle s').1
      (dispatch identity true handle s').2 := by
  have hsuits : (admitted identity true handle .called : Passage α).Suits m verdict identity s' :=
    ⟨rfl, rfl, e, hentry, hidentity, trivial⟩
  exact Goes.note ⟨hprepared, hsuits, hgrows, hmade, hspares⟩ _

/-- The request goes on in its entry. -/
theorem Goes.step (h : s.Prepared m verdict) (hentry : s.cache.entry? handle = some e)
    (hidentity : e.identity = identity) {stage : Entry.Stage α} {focus : Entry.Focus Memory κ α}
    (hgoes : Entry.Goes m verdict compiler ⟨e, s.backend⟩ stage focus) :
    Goes m verdict identity compiler s
      (Passage.arrive identity true handle stage (s.putBack handle focus)).1
      (Passage.arrive identity true handle stage (s.putBack handle focus)).2 := by
  obtain ⟨hprepared, hgrows⟩ := h.putBack hentry hgoes.prepared hgoes.grows hgoes.store
  have hafter : (s.putBack handle focus).cache.entry? handle = some focus.entry :=
    Cache.entry?_set_self hentry focus.entry
  refine .arrive hafter (hgoes.grows.identity.trans hidentity) hgoes.suits hprepared hgrows
    (fun other hother => .inl ?_) hgoes.spares
  rw [putBack_cache, Cache.made_set hentry hgoes.grows.identity] at hother
  exact hother

/-- What the request is given under the lock of creation. -/
theorem Goes.enter (h : s.Prepared m verdict) {result : Except Failure Handle}
    (henter : (Engine.enter identity false (onStore (Memory.store.has identity))).run s =
      (result, s')) :
    (∃ handle e, result = .ok handle ∧ s'.cache.entry? handle = some e ∧ e.identity = identity ∧
        s'.Prepared m verdict ∧ s.Grows s' ∧ s'.backend.compiler = s.backend.compiler ∧
        ∀ other ∈ s'.cache.made, other ∈ s.cache.made ∨ other = identity) ∨
      ∃ events, result = .error (.sourceNotFound identity.text) ∧ s' = s.note events ∧
        m.find? identity = none := by
  have hasked := getOrCreate_cases (Memory.store.has identity) identity false s []
  rw [note_nil, ← enter_open identity false h.isOpen, henter] at hasked
  dsimp only at hasked
  cases hasked with
  | @admitted handle s₁ events hadm =>
    left
    cases hadm with
    | present hlookup =>
      obtain ⟨e, hentry, hidentity⟩ := h.filed.keyed _ _ hlookup
      exact ⟨handle, e, rfl, hentry, hidentity, h.note events, .refl s, rfl, fun _ => .inl⟩
    | created hlookup _ hask =>
      obtain ⟨hfound, rfl⟩ := Prod.mk.inj hask
      rw [h.store] at hfound
      obtain ⟨hprepared, hgrows⟩ := h.load hlookup hfound false
      have hentry : Cache.entry? s.cache.entries.length (s.load identity false).cache =
          some (.fresh identity false) := (Cache.entry?_insert ..).trans (if_pos rfl)
      refine ⟨_, _, rfl, hentry, rfl, hprepared.note events, hgrows, rfl, fun other hother => ?_⟩
      have hmade : other ∈ s.cache.made ++ [identity] := by
        rw [← Cache.made_insert identity false s.cache]
        exact hother
      rwa [List.mem_append, List.mem_singleton] at hmade
  | refused _ _ hclosed =>
    rw [h.isOpen] at hclosed
    cases hclosed
  | missing events _ _ hhas =>
    obtain ⟨hmissing, rfl⟩ := Prod.mk.inj hhas
    rw [h.store, Option.isSome_eq_false_iff, Option.isNone_iff_eq_none] at hmissing
    exact .inr ⟨events, rfl, rfl, hmissing⟩

theorem suits_missing (hmissing : m.find? identity = none) :
    (served (.error (named identity (.sourceNotFound identity.text))) : Passage α).Suits m verdict
      identity s := by
  refine ⟨?_, fun hfound => by rw [hmissing] at hfound; cases hfound⟩
  unfold Batch.answer Batch.outcome
  rw [hmissing]
  rfl

/-- **What a step of the request for an identity does.** -/
theorem goes (hjudges : compiler.Judges verdict) (h : s.Prepared m verdict)
    (hsuits : passage.Suits m verdict identity s) :
    let d : Dispatcher Memory κ α := ⟨⟨Memory.store, compiler, options⟩, page⟩
    Goes m verdict identity compiler s (passage.next d now (Batch.request identity) s).1
      (passage.next d now (Batch.request identity) s).2 := by
  intro d
  cases passage with
  | sent =>
    rw [next_sent_ok (Batch.examine_request identity)]
    exact .noted h _ ⟨rfl, rfl⟩
  | examined sought =>
    obtain ⟨rfl, rfl⟩ := hsuits
    cases hlookup : s.cache.lookup sought with
    | some handle =>
      obtain ⟨e, hentry, hidentity⟩ := h.filed.keyed _ _ hlookup
      rw [next_examined_found hlookup]
      exact .dispatch hentry hidentity (h.note _) (.refl s) (fun _ => .inl) .refl
    | none =>
      rw [next_examined_unloaded hlookup]
      exact .noted h _ ⟨rfl, rfl⟩
  | missed sought =>
    obtain ⟨rfl, rfl⟩ := hsuits
    rcases henter : (Engine.enter sought false (onStore (Memory.store.has sought))).run s with
      ⟨result, s'⟩
    rcases Goes.enter h henter with
      ⟨handle, e, rfl, hentry, hidentity, hprepared, hgrows, hcompiler, hmade⟩ |
        ⟨events, rfl, hleft, hmissing⟩
    · rw [next_missed_ok (d := ⟨⟨Memory.store, compiler, options⟩, page⟩) henter]
      exact .dispatch hentry hidentity hprepared hgrows hmade (hcompiler ▸ .refl)
    · rw [next_missed_error (d := ⟨⟨Memory.store, compiler, options⟩, page⟩) henter, hleft]
      exact .noted h events (suits_missing hmissing)
  | admitted sought _ handle stage =>
    obtain ⟨rfl, rfl, e, hentry, hidentity, hstage⟩ := hsuits
    rw [next_admitted hentry]
    exact .step h hentry hidentity
      (Entry.Stage.goes hjudges rfl (h.entries handle e hentry) h.store hstage)
  | served answer => exact ⟨h, hsuits, .refl s, fun _ => .inl, .refl⟩

end Dispatcher.Passage

end TemplateServer
