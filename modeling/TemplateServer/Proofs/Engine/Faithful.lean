import TemplateServer.Proofs.Cache
import TemplateServer.Proofs.Dispatch
import TemplateServer.Proofs.Entry.Faithful

/-!
# The engine over a changing store

`Cache.Sound` is the invariant of an engine that has not been torn down: the index leads to
entries of the right identities, and every entry is faithful to the store. A request keeps it
whatever the store does meanwhile (`Served.kept`). If the store has settled, the request is
answered by the texts that there are (`Served.settled`), whether its entry was there or had to be
made.
-/

namespace TemplateServer

namespace Cache

variable {α : Type}

variable {σ : Type}

/-- The invariant of the cache of a running engine. -/
structure Sound (v : TimedStore σ) (c : Cache String) (s : σ) : Prop where
  isOpen : c.closed = false
  valid : v.Valid s
  keyed : c.Keyed
  faithful : ∀ {handle e}, c.entry? handle = some e → Entry.Faithful v e s

namespace Sound

variable {v : TimedStore σ} {c : Cache String} {s : σ}

theorem empty (hs : v.Valid s) : Sound v .empty s where
  isOpen := rfl
  valid := hs
  keyed := .empty
  faithful h := by cases h

/-- The store may change. -/
theorem advance {s' : σ} (h : Sound v c s) (hs : v.Valid s') (hadv : v.Advances s s') :
    Sound v c s' where
  isOpen := h.isOpen
  valid := hs
  keyed := h.keyed
  faithful he := (h.faithful he).advance hadv

theorem moves {s' : σ} (h : Sound v c s) (hmoves : v.Moves s s') : Sound v c s' :=
  h.advance (hmoves.valid h.valid) (hmoves.advances h.valid)

/-- An entry may be made where there is none. -/
theorem insert {identity : Identity} (h : Sound v c s) (isErrorPage : Bool) :
    Sound v (c.insert identity isErrorPage).2 s where
  isOpen := h.isOpen
  valid := h.valid
  keyed := h.keyed.insert identity isErrorPage
  faithful {handle e} he := by
    rw [entry?_insert] at he
    by_cases hhandle : handle = c.entries.length
    · rw [if_pos hhandle] at he
      cases he
      exact .fresh identity isErrorPage s
    · rw [if_neg hhandle] at he
      exact h.faithful he

/-- An entry may change, as long as it stays itself and faithful. -/
theorem set {handle : Handle} {e e' : Entry String} (h : Sound v c s)
    (he : c.entry? handle = some e) (hid : e'.identity = e.identity)
    (hfaithful : Entry.Faithful v e' s) : Sound v (c.set handle e') s where
  isOpen := h.isOpen
  valid := h.valid
  keyed := h.keyed.set he hid
  faithful {other found} hfound := by
    rw [entry?_set he] at hfound
    by_cases hother : other = handle
    · rw [if_pos hother] at hfound
      cases hfound
      exact hfaithful
    · rw [if_neg hother] at hfound
      exact h.faithful hfound

end Sound

end Cache

namespace Dispatcher

open Engine

variable {σ : Type} {v : TimedStore σ} {options : Options} {now : Nat} {request : Request}
  {identity : Identity} {precompile isErrorPage : Bool} {error : Option String}
  {s s' : Engine σ Echo.Counts String}

/-- Admitting an entry keeps the invariant, and the entry is one of the identity. -/
theorem admitted_kept {handle : Handle} (h : Cache.Sound v s.cache s.backend.store)
    (hadm : Admitted (v.store.has identity) identity isErrorPage s handle s') :
    v.Moves s.backend.store s'.backend.store ∧ Cache.Sound v s'.cache s'.backend.store ∧
      ∃ e, s'.cache.entry? handle = some e ∧ e.identity = identity := by
  cases hadm with
  | present hlookup => exact ⟨.refl, h, h.keyed _ _ hlookup⟩
  | created hlookup _ hhas =>
    obtain ⟨-, rfl⟩ := Prod.mk.inj hhas
    refine ⟨.once _, (h.moves (.once _)).insert isErrorPage, .fresh identity isErrorPage, ?_, rfl⟩
    rw [load_cache, Cache.entry?_insert]
    exact if_pos rfl

/-- A request keeps the invariant, whatever the store does meanwhile. -/
theorem Served.kept {result : Except Failure Response} (h : Cache.Sound v s.cache s.backend.store)
    (hserved : Served (Echo.over v options) now request identity precompile error s result s') :
    v.Moves s.backend.store s'.backend.store ∧ Cache.Sound v s'.cache s'.backend.store := by
  cases hserved with
  | refused => exact ⟨.refl, h⟩
  | missing _ _ _ hhas =>
    obtain ⟨-, rfl⟩ := Prod.mk.inj hhas
    exact ⟨.once _, h.moves (.once _)⟩
  | lost _ hadm =>
    obtain ⟨hmoves, hsound, -⟩ := admitted_kept h hadm
    exact ⟨hmoves, hsound⟩
  | @answered handle s₁ e focus _ events _ hadm hentry hserv =>
    obtain ⟨hmoves, hsound, -⟩ := admitted_kept h hadm
    have hkept : Entry.Kept v ⟨e, (s₁.note events).backend⟩ focus :=
      (Entry.Serviced.of_run hserv).kept hsound.valid (hsound.faithful hentry)
    refine ⟨hmoves.trans hkept.moves, ?_⟩
    exact (hsound.moves hkept.moves).set hentry hkept.identity hkept.faithful

/-- Where the store has settled, a request is answered by the texts that there are. -/
theorem Served.settled {result : Except Failure Response}
    (h : Cache.Sound v s.cache s.backend.store) (hset : v.Settled s.backend.store)
    (hserved : Served (Echo.over v .eager) now request identity precompile error s result s') :
    result = (v.contents s.backend.store).serve identity precompile error := by
  cases hserved with
  | refused _ _ hclosed =>
    rw [h.isOpen] at hclosed
    cases hclosed
  | missing _ _ _ hhas =>
    have hnone : (v.find? identity (v.step s.backend.store)).isSome = false := (Prod.mk.inj hhas).1
    rw [v.find?_step identity hset] at hnone
    unfold Contents.serve Chronicle.contents
    rw [Option.isSome_eq_false_iff, Option.isNone_iff_eq_none] at hnone
    rw [hnone]
    rfl
  | lost _ hadm hentry =>
    obtain ⟨-, -, e, he, -⟩ := admitted_kept h hadm
    rw [he] at hentry
    cases hentry
  | @answered handle s₁ e focus _ events _ hadm hentry hserv =>
    -- the store may have moved under the admission, but its texts are the same
    obtain ⟨hmoves, hsound, e', he', hid⟩ := admitted_kept h hadm
    rw [hentry] at he'
    cases he'
    have hanswer : ((Entry.service (Echo.over v .eager) now request precompile error).run
        ⟨e, (s₁.note events).backend⟩).1 = _ :=
      Entry.service_settled request precompile error (hmoves.settled hset) (hsound.faithful hentry)
    rw [hserv] at hanswer
    rw [← hid, ← hmoves.contents hset]
    exact hanswer

end Dispatcher

end TemplateServer
