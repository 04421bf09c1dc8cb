import TemplateServer.Proofs.Cache
import TemplateServer.Proofs.Entry.Production
import TemplateServer.Proofs.Erasure

/-!
# Production mode

A dispatcher in production and the stock of its shelves answer every session alike, and compile the
same texts in the same order (`acts_shelved`). `Dispatcher.Shelved` relates the two: it goes over
the cache as a map from identities to entries, where an entry that has not been made yet is like one
that holds nothing. A request changes the entry of its identity as `Entry.Serviced.shelved` says,
and no other.
-/

namespace TemplateServer

namespace Dispatcher

open Engine

variable {interval now : Nat} {page : Option Identity}
  {s s' : Engine Memory (Echo.Counts × List (Job String)) String} {r : Stock}

/-- The entry of an identity, or the one that would be made for it. -/
def entryOf (identity : Identity) (s : Engine Memory (Echo.Counts × List (Job String)) String) :
    Entry String :=
  (s.cache.find? identity).getD (.fresh identity false)

/-- An engine and a stock that say the same. -/
structure Shelved (s : Engine Memory (Echo.Counts × List (Job String)) String) (r : Stock) :
    Prop where
  isOpen : s.cache.closed = false
  keyed : s.cache.Keyed
  contents : s.backend.store.contents = r.contents
  compiled : givenOf s.backend.compiler.2 = r.compiled
  onShelf : ∀ identity, Entry.OnShelf (entryOf identity s) (r.shelf identity)

namespace Shelved

theorem start (counts : Echo.Counts) : Shelved (.start .empty (counts, [])) .empty where
  isOpen := rfl
  keyed := .empty
  contents := rfl
  compiled := rfl
  onShelf identity := .fresh identity false rfl

/-- The log does not matter. -/
theorem note (h : Shelved s r) (events : List Log.Event) : Shelved (s.note events) r :=
  ⟨h.isOpen, h.keyed, h.contents, h.compiled, h.onShelf⟩

/-- What is behind the handle of an identity is on its shelf. -/
theorem onShelf_of_lookup (h : Shelved s r) {identity : Identity} {handle : Handle}
    {e : Entry String} (hlookup : s.cache.lookup identity = some handle)
    (hentry : s.cache.entry? handle = some e) : Entry.OnShelf e (r.shelf identity) := by
  have hshelf := h.onShelf identity
  unfold entryOf at hshelf
  rw [Cache.find?_of_lookup hlookup, hentry] at hshelf
  exact hshelf

/-- An entry that was made has nothing frozen, as there was nothing before. -/
theorem load (h : Shelved s r) {identity : Identity} (hlookup : s.cache.lookup identity = none)
    (isErrorPage : Bool) : Shelved (s.load identity isErrorPage) r where
  isOpen := h.isOpen
  keyed := h.keyed.insert identity isErrorPage
  contents := h.contents
  compiled := h.compiled
  onShelf other := by
    have hshelf := h.onShelf other
    unfold entryOf at hshelf ⊢
    rw [load_cache, Cache.find?_insert h.keyed hlookup]
    split
    next hother =>
      rw [hother, Cache.find?_of_unloaded hlookup] at hshelf
      rw [hother]
      exact .fresh identity isErrorPage hshelf.frozen.symm
    next => exact hshelf

/-- An entry has done something, and its shelf likewise. -/
theorem putBack (h : Shelved s r) {identity : Identity} {handle : Handle} {e : Entry String}
    {focus : Entry.Focus Memory (Echo.Counts × List (Job String)) String} {shelf : Shelf}
    {given : Option String} (hlookup : s.cache.lookup identity = some handle)
    (hentry : s.cache.entry? handle = some e)
    (hfocus : Entry.Shelved ⟨e, s.backend⟩ focus shelf given) :
    Shelved (s.putBack handle focus)
      { r.setShelf identity shelf with
        compiled := r.compiled ++ given.toList.map fun text => (identity, text) } where
  isOpen := h.isOpen
  keyed := h.keyed.set hentry hfocus.identity
  contents := by
    rw [putBack_backend, hfocus.store]
    exact h.contents
  compiled := by
    obtain ⟨found, hfound, hid⟩ := h.keyed _ _ hlookup
    rw [hentry] at hfound
    cases hfound
    rw [← hid, ← h.compiled]
    exact hfocus.given
  onShelf other := by
    have hshelf := h.onShelf other
    unfold entryOf at hshelf ⊢
    rw [putBack_cache, Cache.find?_set h.keyed hlookup hentry]
    unfold Stock.setShelf
    dsimp only
    split
    next => exact hfocus.onShelf
    next => exact hshelf

/-- A mark of an identity that has no entry does not count. -/
theorem mark_unloaded (h : Shelved s r) {identity : Identity}
    (hlookup : s.cache.lookup identity = none) :
    Shelved s (r.setShelf identity { r.shelf identity with pending := true }) where
  isOpen := h.isOpen
  keyed := h.keyed
  contents := h.contents
  compiled := h.compiled
  onShelf other := by
    have hshelf := h.onShelf other
    unfold Stock.setShelf
    dsimp only
    split
    next hother =>
      rw [hother] at hshelf ⊢
      refine hshelf.unheld ?_ true
      unfold entryOf
      rw [Cache.find?_of_unloaded hlookup]
      rfl
    next => exact hshelf

theorem mark_loaded (h : Shelved s r) {identity : Identity} {handle : Handle}
    (hlookup : s.cache.lookup identity = some handle) :
    Shelved (s.markForReload handle)
      (r.setShelf identity { r.shelf identity with pending := true }) := by
  obtain ⟨e, hentry, -⟩ := h.keyed _ _ hlookup
  have hfocus : Entry.Shelved ⟨e, s.backend⟩ ⟨e.markForReload, s.backend⟩
      { r.shelf identity with pending := true } none :=
    ⟨(h.onShelf_of_lookup hlookup hentry).marked, rfl, rfl, (List.append_nil _).symm⟩
  have hmarked := h.putBack hlookup hentry hfocus
  rw [Option.toList_none, List.map_nil, List.append_nil] at hmarked
  unfold markForReload
  rw [onEntry_some hentry]
  exact hmarked

/-- The entry that a request gets is the one of its shelf. -/
theorem admitted (h : Shelved s r) {identity : Identity} {isErrorPage : Bool} {handle : Handle}
    (hadm : Admitted (Memory.store.has identity) identity isErrorPage s handle s') :
    Shelved s' r ∧ s'.cache.lookup identity = some handle := by
  cases hadm with
  | present hlookup => exact ⟨h, hlookup⟩
  | created hlookup _ hask =>
    rw [Memory.has_eq] at hask
    obtain ⟨-, rfl⟩ := Prod.mk.inj hask
    refine ⟨h.load hlookup isErrorPage, ?_⟩
    rw [load_cache, Cache.lookup_insert, if_pos rfl]
    show (s.cache.lookup identity).or _ = _
    rw [hlookup]
    rfl

end Shelved

/-- **A request goes as the shelf says.** -/
theorem Served.shelved {request : Request} {identity : Identity} {precompile : Bool}
    {answer : Except Failure Response} (h : Shelved s r)
    (hserved : Served (Echo.produced interval) now request identity precompile none s answer s') :
    answer = (r.serve identity precompile).1 ∧ Shelved s' (r.serve identity precompile).2 := by
  cases hserved with
  | refused _ _ hclosed =>
    rw [h.isOpen] at hclosed
    cases hclosed
  | missing events hlookup _ hhas =>
    have hhas : Memory.store.has identity s.backend.store = _ := hhas
    rw [Memory.has_eq, h.contents] at hhas
    obtain ⟨hnone, rfl⟩ := Prod.mk.inj hhas
    have habsent : r.contents identity = none := by
      rw [← Option.isNone_iff_eq_none, ← Option.isSome_eq_false_iff]
      exact hnone
    have hfrozen := (h.onShelf identity).frozen
    unfold entryOf at hfrozen
    rw [Cache.find?_of_unloaded hlookup] at hfrozen
    rw [Stock.serve_missing habsent hfrozen.symm]
    exact ⟨rfl, h.note events⟩
  | lost _ hadm hentry =>
    obtain ⟨hshelved, hlookup⟩ := h.admitted hadm
    obtain ⟨e, he, -⟩ := hshelved.keyed _ _ hlookup
    rw [he] at hentry
    cases hentry
  | @answered handle s₁ e focus _ events events' hadm hentry hserv =>
    obtain ⟨hshelved, hlookup⟩ := h.admitted hadm
    obtain ⟨e', he', hid⟩ := hshelved.keyed _ _ hlookup
    rw [hentry] at he'
    cases he'
    have hfocus := (Entry.Serviced.of_run hserv).shelved (hshelved.onShelf_of_lookup hlookup hentry)
    dsimp only at hfocus
    rw [hid, note_store, hshelved.contents] at hfocus
    obtain ⟨hanswer, hfocus⟩ := hfocus
    exact ⟨hanswer, (Shelved.putBack (hshelved.note events) hlookup hentry hfocus).note events'⟩

theorem Examined.shelved {request : Request} {answer : Except Failure Response} (h : Shelved s r)
    (hservice : Examined ⟨Echo.produced interval, page⟩ now request s answer s') :
    answer = (r.service request).1 ∧ Shelved s' (r.service request).2 := by
  cases hservice with
  | refused _ hexamine =>
    rw [Stock.service_unexamined r hexamine]
    exact ⟨rfl, h.note _⟩
  | @served identity precompile _ _ hexamine hserved =>
    rw [Stock.service_examined r hexamine]
    obtain ⟨hanswer, hshelved⟩ := hserved.shelved h
    rw [hanswer]
    exact ⟨Stock.named_serve r identity precompile, hshelved⟩

theorem act_shelved (a : Act) (h : Shelved s r) :
    let done := (⟨Echo.produced interval, page⟩ : Dispatcher _ _ _).act a s
    done.1 = (r.act a).1 ∧ Shelved done.2 (r.act a).2 := by
  intro done
  cases a with
  | edit edit =>
    refine ⟨rfl, h.isOpen, h.keyed, ?_, h.compiled, h.onShelf⟩
    exact (Edit.tracks.contents edit trivial).trans (congrArg edit.onContents h.contents)
  | mark identity =>
    have hdone : done = Dispatcher.act ⟨Echo.produced interval, page⟩ (.mark identity) s := rfl
    unfold Dispatcher.act at hdone
    dsimp only at hdone
    cases hlookup : s.cache.lookup identity with
    | none =>
      rw [hlookup] at hdone
      rw [hdone]
      exact ⟨rfl, h.mark_unloaded hlookup⟩
    | some handle =>
      rw [hlookup] at hdone
      rw [hdone]
      exact ⟨rfl, h.mark_loaded hlookup⟩
  | service now request =>
    obtain ⟨hanswer, hshelved⟩ := (service_cases ⟨Echo.produced interval, page⟩ now request
      s).shelved h
    exact ⟨congrArg some hanswer, hshelved⟩

theorem acts_shelved (acts : List Act) (h : Shelved s r) :
    let done := (⟨Echo.produced interval, page⟩ : Dispatcher _ _ _).acts acts s
    done.1 = (r.acts acts).1 ∧ Shelved done.2 (r.acts acts).2 := by
  induction acts generalizing s r with
  | nil => exact ⟨rfl, h⟩
  | cons a acts ih =>
    obtain ⟨hanswer, hshelved⟩ := act_shelved a h
    obtain ⟨hanswers, hshelved⟩ := ih hshelved
    exact ⟨List.cons_eq_cons.mpr ⟨hanswer, hanswers⟩, hshelved⟩

/-! ## Without the record -/

section

variable {κ' α' κ α : Type} {v : View κ' α' κ α} {setup' : Setup Memory κ' α'}
  {setup : Setup Memory κ α} (hv : v.Shows setup' setup) (page : Option Identity)

include hv

theorem act_follows (a : Act) :
    Follows v.engine id (act ⟨setup', page⟩ a) (act ⟨setup, page⟩ a) := by
  intro s
  unfold act
  cases a with
  | edit edit => rfl
  | mark identity =>
    dsimp only
    rw [show (v.engine s).cache.lookup identity = s.cache.lookup identity from rfl]
    cases s.cache.lookup identity with
    | none => rfl
    | some handle => exact Prod.ext rfl (Engine.markForReload_view handle s)
  | service now request =>
    dsimp only
    rw [service_follows hv page now request s]
    rfl

theorem acts_follow (acts : List Act) :
    Follows v.engine id (Dispatcher.acts ⟨setup', page⟩ acts)
      (Dispatcher.acts ⟨setup, page⟩ acts) := by
  intro s
  induction acts generalizing s with
  | nil => rfl
  | cons a acts ih =>
    unfold Dispatcher.acts
    rw [act_follows hv page a s]
    dsimp only
    rw [ih]
    rfl

end

end Dispatcher

/-- **Production.** Whatever becomes of the sources, every request is answered as the shelf of its
identity says: from the text that is frozen, as long as no reload was asked for, and otherwise from
the text that there is. The compiler is given the same texts in the same order, and of each identity
it compiles one, and one more for each mark at most. Without the record of what the compiler is
given, the answers and the engine are the same. -/
theorem acts_eq_stock_in_production (page : Option Identity) (interval : Nat)
    (counts : Echo.Counts) (acts : List Act) :
    let plain : Dispatcher Memory Echo.Counts String :=
      ⟨⟨Memory.store, Echo.compiler, ⟨false, interval⟩⟩, page⟩
    let d : Dispatcher Memory (Echo.Counts × List (Job String)) String :=
      ⟨⟨Memory.store, Echo.compiler.recorded, ⟨false, interval⟩⟩, page⟩
    let s := d.acts acts (.start .empty (counts, []))
    let r := Stock.empty.acts acts
    plain.acts acts (.start .empty counts) = (s.1, View.record.engine s.2) ∧
    s.1 = r.1 ∧ givenOf s.2.backend.compiler.2 = r.2.compiled ∧
      ∀ identity, successes identity (givenOf s.2.backend.compiler.2) ≤
        1 + acts.countP (Act.marks identity) := by
  intro plain d s r
  obtain ⟨hanswers, hshelved⟩ : s.1 = r.1 ∧ Dispatcher.Shelved s.2 r.2 :=
    Dispatcher.acts_shelved acts (.start counts)
  refine ⟨?_, hanswers, hshelved.compiled, fun identity => ?_⟩
  · exact Dispatcher.acts_follow (View.record_shows Memory.store Echo.compiler ⟨false, interval⟩)
      page acts (.start .empty (counts, []))
  · have hstart : Stock.empty.Frugal identity 0 := Nat.le_refl 0
    have hend := (hstart.acts acts).successes_le
    rw [hshelved.compiled]
    rw [Nat.zero_add] at hend
    exact hend

/-- A source that has gone is answered from the text that was compiled, until a reload is asked
for; that request stays until there is a source again. -/
example :
    let p : Identity := ⟨[⟨['p'], by decide⟩], by simp⟩
    let d : Dispatcher Memory (Echo.Counts × List (Job String)) String :=
      ⟨⟨Memory.store, Echo.compiler.recorded, ⟨false, 0⟩⟩, none⟩
    (d.acts [.edit (.put p "v1"), .service 0 (.forPath "/p"), .edit (.remove p),
      .service 1 (.forPath "x/../p"), .mark p, .service 2 (.forPath "/p"), .edit (.put p "v2"),
      .service 3 (.forPath "/p")] (.start .empty (.zero, []))).1 =
    [none, some (.ok (.html "v1")), none, some (.ok (.html "v1")), none,
      some (.error (.sourceNotFound "/p")), none, some (.ok (.html "v2"))] := rfl

end TemplateServer
