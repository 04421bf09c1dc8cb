import TemplateServer.Cache

/-!
# The cache as a map

Callers know the cache as a map from identities to entries: `find?` looks an identity up and goes to
the entry that its handle leads to. In a `Keyed` cache every handle in the index leads to an entry
of the right identity. Then an entry that is made, and an entry that changes, concern their own
identity and no other (`find?_insert`, `find?_set`).

In a `Filed` cache there is one entry for each identity, and as long as the cache is open the index
lists them all. This is how every cache is that started empty.
-/

namespace TemplateServer.Cache

variable {α : Type} {c : Cache α} {identity : Identity} {handle : Handle} {e e' : Entry α}

/-- An identity that is inserted is found under the next handle, and all others as before. -/
theorem lookup_insert (identity other : Identity) (isErrorPage : Bool) (c : Cache α) :
    (c.insert identity isErrorPage).2.lookup other =
      (c.lookup other).or (if other = identity then some c.entries.length else none) := by
  unfold lookup insert
  dsimp only
  rw [List.lookup_append]
  congr 1
  rw [List.lookup_cons]
  by_cases h : other = identity
  · rw [if_pos h, h, beq_self_eq_true]
  · rw [if_neg h, beq_eq_false_iff_ne.mpr h]
    rfl

/-- The next handle is that of the new entry, and all others lead where they led. -/
theorem entry?_insert (identity : Identity) (isErrorPage : Bool) (handle : Handle) (c : Cache α) :
    Cache.entry? handle (c.insert identity isErrorPage).2 =
      if handle = c.entries.length then some (.fresh identity isErrorPage)
      else c.entry? handle := by
  unfold entry? insert
  dsimp only
  by_cases h : handle = c.entries.length
  · rw [if_pos h, h, List.getElem?_concat_length]
  · rw [if_neg h]
    by_cases hlt : handle < c.entries.length
    · rw [List.getElem?_append_left hlt]
    · have hle : c.entries.length ≤ handle := Nat.le_of_not_lt hlt
      have hgt : (c.entries ++ [Entry.fresh identity isErrorPage]).length ≤ handle := by
        rw [List.length_append, List.length_singleton]
        exact Nat.lt_of_le_of_ne hle (Ne.symm h)
      rw [List.getElem?_eq_none hgt, List.getElem?_eq_none hle]

/-- A handle that leads to an entry leads to the one put in its place, and all others lead where
they led. -/
theorem entry?_set (h : c.entry? handle = some e) (e' : Entry α) (other : Handle) :
    Cache.entry? other (c.set handle e') = if other = handle then some e' else c.entry? other := by
  unfold entry? set at *
  dsimp only
  obtain ⟨hlt, -⟩ := List.getElem?_eq_some_iff.mp h
  by_cases hother : other = handle
  · rw [if_pos hother, hother, List.getElem?_set_self hlt]
  · rw [if_neg hother, List.getElem?_set_ne (Ne.symm hother)]

theorem entry?_set_self (h : c.entry? handle = some e) (e' : Entry α) :
    Cache.entry? handle (c.set handle e') = some e' := by
  rw [entry?_set h, if_pos rfl]

/-- The index leads to entries of the right identities. -/
def Keyed (c : Cache α) : Prop :=
  ∀ identity handle, c.lookup identity = some handle →
    ∃ e, c.entry? handle = some e ∧ e.identity = identity

theorem Keyed.empty : Keyed (.empty : Cache α) := fun _ _ h => by cases h

/-- An entry may be made where there is none. -/
theorem Keyed.insert (h : c.Keyed) (identity : Identity) (isErrorPage : Bool) :
    (c.insert identity isErrorPage).2.Keyed := by
  intro other handle hlookup
  rw [lookup_insert] at hlookup
  rw [entry?_insert]
  -- a handle that was there before is found first, and is none of the new one
  rcases Option.or_eq_some_iff.mp hlookup with hold | ⟨-, hnew⟩
  · obtain ⟨e, he, hid⟩ := h _ _ hold
    have hlt : handle < c.entries.length := (List.getElem?_eq_some_iff.mp he).1
    exact ⟨e, by rw [if_neg (Nat.ne_of_lt hlt)]; exact he, hid⟩
  · by_cases hid : other = identity
    · rw [if_pos hid] at hnew
      cases hnew
      exact ⟨_, if_pos rfl, hid.symm⟩
    · rw [if_neg hid] at hnew
      cases hnew

/-- An entry may change, as long as it keeps its identity. -/
theorem Keyed.set (h : c.Keyed) (he : c.entry? handle = some e) (hid : e'.identity = e.identity) :
    (c.set handle e').Keyed := by
  intro identity other hlookup
  obtain ⟨found, hfound, hidentity⟩ := h _ _ (show c.lookup identity = some other from hlookup)
  rw [entry?_set he]
  by_cases hother : other = handle
  · rw [hother, he] at hfound
    cases hfound
    exact ⟨e', if_pos hother, hid.trans hidentity⟩
  · exact ⟨found, by rw [if_neg hother]; exact hfound, hidentity⟩

/-- The entry that is loaded for an identity. -/
def find? (identity : Identity) (c : Cache α) : Option (Entry α) :=
  (c.lookup identity).bind fun handle => c.entry? handle

/-- The entry of an identity is the one that its handle leads to. -/
theorem find?_of_lookup (h : c.lookup identity = some handle) :
    c.find? identity = c.entry? handle := by
  unfold find?
  rw [h]
  rfl

theorem find?_of_unloaded (h : c.lookup identity = none) : c.find? identity = none := by
  unfold find?
  rw [h]
  rfl

/-- A new entry is that of its identity, and those of all others stay. -/
theorem find?_insert (h : c.Keyed) (hlookup : c.lookup identity = none) (isErrorPage : Bool)
    (other : Identity) :
    Cache.find? other (c.insert identity isErrorPage).2 =
      if other = identity then some (.fresh identity isErrorPage) else c.find? other := by
  by_cases hother : other = identity
  · have hnew : Cache.lookup other (c.insert identity isErrorPage).2 = some c.entries.length := by
      rw [lookup_insert, hother, hlookup, if_pos rfl]
      rfl
    rw [find?_of_lookup hnew, entry?_insert, if_pos rfl, if_pos hother]
  · rw [if_neg hother]
    have hsame : Cache.lookup other (c.insert identity isErrorPage).2 = c.lookup other := by
      rw [lookup_insert, if_neg hother, Option.or_none]
    cases hold : c.lookup other with
    | none => rw [find?_of_unloaded (hsame.trans hold), find?_of_unloaded hold]
    | some handle =>
      obtain ⟨e, he, -⟩ := h _ _ hold
      have hlt : handle < c.entries.length := (List.getElem?_eq_some_iff.mp he).1
      rw [find?_of_lookup (hsame.trans hold), find?_of_lookup hold, entry?_insert,
        if_neg (Nat.ne_of_lt hlt)]

/-- Putting an entry in place of one changes what is found for its identity and for no other. -/
theorem find?_set (h : c.Keyed) (hlookup : c.lookup identity = some handle)
    (he : c.entry? handle = some e) (e' : Entry α) (other : Identity) :
    Cache.find? other (c.set handle e') =
      if other = identity then some e' else c.find? other := by
  have hsame : Cache.lookup other (c.set handle e') = c.lookup other := rfl
  by_cases hother : other = identity
  · rw [find?_of_lookup (hsame.trans (hother ▸ hlookup)), entry?_set he, if_pos rfl, if_pos hother]
  · rw [if_neg hother]
    cases hold : c.lookup other with
    | none => rw [find?_of_unloaded (hsame.trans hold), find?_of_unloaded hold]
    | some handle' =>
      -- entries of different identities have different handles
      have hne : handle' ≠ handle := by
        intro heq
        obtain ⟨found, hfound, hid⟩ := h _ _ hlookup
        obtain ⟨found', hfound', hid'⟩ := h _ _ hold
        rw [heq, hfound] at hfound'
        cases hfound'
        exact hother (hid'.symm.trans hid)
      rw [find?_of_lookup (hsame.trans hold), find?_of_lookup hold, entry?_set he, if_neg hne]

/-- The identities that entries were ever made for, in the order of the handles. -/
def made (c : Cache α) : List Identity := c.entries.map (·.identity)

theorem made_insert (identity : Identity) (isErrorPage : Bool) (c : Cache α) :
    (c.insert identity isErrorPage).2.made = c.made ++ [identity] := by
  unfold made insert
  rw [List.map_append]
  rfl

/-- Putting an entry in place of one of the same identity makes nothing. -/
theorem made_set (he : c.entry? handle = some e) (hid : e'.identity = e.identity) :
    (c.set handle e').made = c.made := by
  obtain ⟨hlt, hat⟩ := List.getElem?_eq_some_iff.mp (show c.entries[handle]? = some e from he)
  have hlt : handle < (c.entries.map (·.identity)).length := by rwa [List.length_map]
  have hmade : (c.entries.map (·.identity))[handle] = e.identity := by rw [List.getElem_map, hat]
  unfold made set
  rw [List.map_set, hid, ← hmade, List.set_getElem_self]

/-- There is one entry for each identity, and an open cache has all of them loaded. -/
structure Filed (c : Cache α) : Prop where
  distinct : c.made.Nodup
  index : c.index = if c.closed then [] else c.made.zipIdx

namespace Filed

theorem empty : Filed (.empty : Cache α) := ⟨.nil, rfl⟩

/-- What is loaded is there, under its own identity. -/
theorem entry_of_mem (h : c.Filed) (hmem : (identity, handle) ∈ c.index) :
    ∃ e, c.entry? handle = some e ∧ e.identity = identity := by
  rw [h.index] at hmem
  split at hmem
  next => cases hmem
  next =>
    have hat : c.made[handle]? = some identity := List.mk_mem_zipIdx_iff_getElem?.mp hmem
    unfold made at hat
    rw [List.getElem?_map] at hat
    exact Option.map_eq_some_iff.mp hat

/-- In a cache in order, handles lead to entries of the identities they are found for. -/
theorem keyed (h : c.Filed) : c.Keyed := by
  intro identity handle hlookup
  obtain ⟨before, after, hindex, -⟩ := List.lookup_eq_some_iff.mp hlookup
  exact h.entry_of_mem (hindex ▸ List.mem_append_right before List.mem_cons_self)

/-- An identity has one handle. -/
theorem eq_of_identity (h : c.Filed) {other : Handle} (he : c.entry? handle = some e)
    (he' : c.entry? other = some e') (hid : e'.identity = e.identity) : other = handle := by
  have hmade : c.made[other]? = c.made[handle]? := by
    unfold made
    rw [List.getElem?_map, List.getElem?_map, show c.entries[other]? = some e' from he',
      show c.entries[handle]? = some e from he, Option.map_some, Option.map_some, hid]
  have hlt : other < c.made.length := by
    unfold made
    rw [List.length_map]
    exact (List.getElem?_eq_some_iff.mp he').1
  exact (List.getElem?_inj hlt h.distinct).mp hmade

/-- What is found was made. -/
theorem mem_made_of_lookup (h : c.Filed) (hlookup : c.lookup identity = some handle) :
    identity ∈ c.made := by
  obtain ⟨e, he, hid⟩ := h.keyed _ _ hlookup
  exact List.mem_map.mpr ⟨e, List.mem_of_getElem? he, hid⟩

/-- In a closed cache nothing is loaded. -/
theorem open_of_lookup (h : c.Filed) (hlookup : c.lookup identity = some handle) :
    c.closed = false := by
  cases hclosed : c.closed with
  | false => rfl
  | true =>
    unfold lookup at hlookup
    rw [h.index, hclosed] at hlookup
    cases hlookup

section

variable (h : c.Filed) (hopen : c.closed = false)

include h hopen

/-- An open cache lists every identity that an entry was made for, with its handle. -/
theorem index_eq : c.index = c.made.zipIdx := by
  rw [h.index, hopen]
  rfl

/-- An open cache counts all entries. -/
theorem size_eq : c.size = c.made.length := by
  unfold size
  rw [h.index_eq hopen, List.length_zipIdx]

theorem identities_eq : c.identities = Identity.sort c.made := by
  unfold identities
  rw [h.index_eq hopen, List.zipIdx_map_fst]

/-- In an open cache, what is not found was not made. -/
theorem not_mem_made (hlookup : c.lookup identity = none) : identity ∉ c.made := by
  intro hmem
  obtain ⟨handle, hlt, hat⟩ := List.mem_iff_getElem.mp hmem
  have hindex : (identity, handle) ∈ c.index := by
    rw [h.index_eq hopen]
    exact List.mk_mem_zipIdx_iff_getElem?.mpr (List.getElem?_eq_some_iff.mpr ⟨hlt, hat⟩)
  have hno := List.lookup_eq_none_iff.mp hlookup _ hindex
  simp at hno

/-- An insertion leaves the cache in order, if nothing is found for its identity. -/
theorem insert (hlookup : c.lookup identity = none) (isErrorPage : Bool) :
    (c.insert identity isErrorPage).2.Filed where
  distinct := by
    rw [made_insert]
    refine List.nodup_append.mpr ⟨h.distinct, List.nodup_cons.mpr ⟨List.not_mem_nil, .nil⟩, ?_⟩
    intro other hmem new hnew heq
    rw [List.mem_singleton.mp hnew] at heq
    exact h.not_mem_made hopen hlookup (heq ▸ hmem)
  index := by
    rw [made_insert, List.zipIdx_append]
    show c.index ++ [(identity, c.entries.length)] = if c.closed then [] else _
    rw [hopen, h.index_eq hopen]
    unfold made
    simp

end

/-- An entry may change, as long as it keeps its identity. -/
theorem set (h : c.Filed) (he : c.entry? handle = some e) (hid : e'.identity = e.identity) :
    (c.set handle e').Filed where
  distinct := by
    rw [made_set he hid]
    exact h.distinct
  index := by
    rw [made_set he hid]
    exact h.index

/-- A cache that is closed is in order. -/
theorem close (h : c.Filed) : c.close.2.Filed := by
  unfold Cache.close
  split
  next => exact h
  next => exact ⟨h.distinct, rfl⟩

end Filed

/-! ## What was made stays known -/

/-- The handle that was given out for an identity. It stays good when the cache is closed. -/
def handleOf? (identity : Identity) (c : Cache α) : Option Handle :=
  c.made.findIdx? (· = identity)

/-- The entry that was made for an identity, loaded or not. -/
def made? (identity : Identity) (c : Cache α) : Option (Entry α) :=
  (c.handleOf? identity).bind fun handle => c.entry? handle

/-- The handle that an identity goes by is the handle of an entry of that identity. -/
theorem entry_of_handleOf? (h : c.handleOf? identity = some handle) :
    ∃ e, c.entry? handle = some e ∧ e.identity = identity := by
  obtain ⟨hlt, hat, -⟩ := List.findIdx?_eq_some_iff_getElem.mp h
  have hmade : c.made[handle]? = some identity :=
    List.getElem?_eq_some_iff.mpr ⟨hlt, of_decide_eq_true hat⟩
  unfold made at hmade
  rw [List.getElem?_map] at hmade
  exact Option.map_eq_some_iff.mp hmade

/-- Only the identities that entries were made for matter. -/
theorem handleOf?_congr {c' : Cache α} (h : c'.made = c.made) :
    c'.handleOf? identity = c.handleOf? identity := by
  unfold handleOf?
  rw [h]

theorem handleOf?_of_not_mem (h : identity ∉ c.made) : c.handleOf? identity = none := by
  refine List.findIdx?_eq_none_iff.mpr fun other hmem => decide_eq_false fun heq => ?_
  exact h (heq ▸ hmem)

theorem made?_of_not_mem (h : identity ∉ c.made) : c.made? identity = none := by
  unfold made?
  rw [handleOf?_of_not_mem h]
  rfl

/-- The entry made for an identity is the one that its handle leads to. -/
theorem made?_of_handleOf? (h : c.handleOf? identity = some handle) :
    c.made? identity = c.entry? handle := by
  unfold made?
  rw [h]
  rfl

/-- The entry made for an identity has a handle, and that identity. -/
theorem handle_of_made? (h : c.made? identity = some e) :
    ∃ handle, c.handleOf? identity = some handle ∧ c.entry? handle = some e ∧
      e.identity = identity := by
  obtain ⟨handle, hhandle, he⟩ := Option.bind_eq_some_iff.mp h
  obtain ⟨e', he', hid⟩ := entry_of_handleOf? hhandle
  rw [he] at he'
  cases he'
  exact ⟨handle, hhandle, he, hid⟩

/-- What is made for a new identity is a fresh entry, and what was made for all others stays. -/
theorem made?_insert {other : Identity} (hnew : identity ∉ c.made) (isErrorPage : Bool) :
    (c.insert identity isErrorPage).2.made? other =
      if other = identity then some (.fresh identity isErrorPage) else c.made? other := by
  have hhandle : (c.insert identity isErrorPage).2.handleOf? other =
      (c.handleOf? other).or (if other = identity then some c.entries.length else none) := by
    unfold handleOf?
    rw [made_insert, List.findIdx?_append]
    congr 1
    by_cases hother : other = identity
    · rw [if_pos hother, hother]
      simp [List.findIdx?_cons, made]
    · rw [if_neg hother]
      simp [List.findIdx?_cons, Ne.symm hother]
  by_cases hother : other = identity
  · rw [if_pos hother] at hhandle ⊢
    rw [hother, handleOf?_of_not_mem hnew, Option.none_or] at hhandle
    rw [hother, made?_of_handleOf? hhandle, entry?_insert, if_pos rfl]
  · rw [if_neg hother, Option.or_none] at hhandle
    rw [if_neg hother]
    unfold made?
    rw [hhandle]
    cases hold : c.handleOf? other with
    | none => rfl
    | some handle =>
      obtain ⟨e, he, -⟩ := entry_of_handleOf? hold
      have hlt : handle < c.entries.length := (List.getElem?_eq_some_iff.mp he).1
      show Cache.entry? handle (c.insert identity isErrorPage).2 = c.entry? handle
      rw [entry?_insert, if_neg (Nat.ne_of_lt hlt)]

namespace Filed

/-- In a cache in order, an entry goes by its own handle. -/
theorem handleOf?_of_entry (h : c.Filed) (he : c.entry? handle = some e) :
    c.handleOf? e.identity = some handle := by
  have hmem : e.identity ∈ c.made := List.mem_map.mpr ⟨e, List.mem_of_getElem? he, rfl⟩
  cases hhandle : c.handleOf? e.identity with
  | none =>
    have hno := List.findIdx?_eq_none_iff.mp hhandle e.identity hmem
    simp at hno
  | some other =>
    obtain ⟨e', he', hid⟩ := entry_of_handleOf? hhandle
    rw [h.eq_of_identity he he' hid]

/-- In a cache in order, an entry is the one made for its identity. -/
theorem made?_of_entry (h : c.Filed) (he : c.entry? handle = some e) :
    c.made? e.identity = some e := (made?_of_handleOf? (h.handleOf?_of_entry he)).trans he

/-- In a cache in order, putting an entry in place of one changes what was made for its identity and
for no other. -/
theorem made?_set (h : c.Filed) {other : Identity} (he : c.entry? handle = some e)
    (hid : e'.identity = e.identity) :
    (c.set handle e').made? other = if other = e.identity then some e' else c.made? other := by
  have hset : Cache.entry? handle (c.set handle e') = some e' := entry?_set_self he e'
  by_cases hother : other = e.identity
  · rw [if_pos hother, hother, ← hid]
    exact (h.set he hid).made?_of_entry hset
  · rw [if_neg hother]
    unfold made?
    rw [handleOf?_congr (made_set he hid)]
    cases hold : c.handleOf? other with
    | none => rfl
    | some handle' =>
      obtain ⟨found, hfound, hidentity⟩ := entry_of_handleOf? hold
      have hne : handle' ≠ handle := by
        intro heq
        rw [heq, he] at hfound
        cases hfound
        exact hother hidentity.symm
      show Cache.entry? handle' (c.set handle e') = c.entry? handle'
      rw [entry?_set he, if_neg hne]

end Filed

end TemplateServer.Cache
