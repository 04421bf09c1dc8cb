import Mathlib.Data.List.Induction
import Mathlib.Data.String.Basic
import TemplateServer.Dict

/-!
# Keys and values of a dictionary

Every operation of a `Dict` is a change under one key: it keeps the keys in ascending order
(`Ordered.alter`), so that a key stands there once, and is seen under that key and nowhere else
(`find?_alter`). A grouping is such changes, one for each pair, so it keeps for each key the values
of that key, all of them and in the order of the pairs (`find?_group`). Insertions one after the
other keep the last value of each key (`find?_insertAll`).

What a dictionary holds determines it (`Ordered.eq_of_find?`), so insertions under different keys
can change places.
-/

namespace TemplateServer.Dict

variable {β : Type} {d : Dict β} {key name : String} {f : Option β → β}

/-! ## Changes under one key -/

theorem mem_keys_cons {p : String × β} : name ∈ keys (p :: d) ↔ name = p.1 ∨ name ∈ keys d :=
  List.mem_cons

/-- A change adds its key and takes none away. -/
theorem mem_keys_alter : name ∈ keys (d.alter key f) ↔ name = key ∨ name ∈ keys d := by
  induction d with
  | nil => exact List.mem_cons
  | cons p d ih =>
    unfold alter
    split
    next hkey =>
      rw [mem_keys_cons, mem_keys_cons, hkey]
      simp
    next =>
      split
      next => exact mem_keys_cons
      next =>
        rw [mem_keys_cons, ih, mem_keys_cons]
        exact or_left_comm

theorem ordered_cons {p : String × β} :
    Ordered (p :: d) ↔ (∀ name ∈ keys d, p.1 < name) ∧ d.Ordered := by
  unfold Ordered keys
  simp

/-- A change keeps the keys in ascending order. -/
theorem Ordered.alter (h : d.Ordered) : (Dict.alter key f d).Ordered := by
  induction d with
  | nil => exact List.pairwise_singleton _ _
  | cons p d ih =>
    obtain ⟨hfirst, hrest⟩ := ordered_cons.mp h
    unfold Dict.alter
    split
    next => exact ordered_cons.mpr ⟨hfirst, hrest⟩
    next hne =>
      split
      next hlt =>
        refine ordered_cons.mpr ⟨fun name hname => ?_, h⟩
        rcases mem_keys_cons.mp hname with rfl | hname
        · exact hlt
        · exact lt_trans hlt (hfirst name hname)
      next hnot =>
        have hlt : p.1 < key := lt_of_le_of_ne (not_lt.mp hnot) (Ne.symm hne)
        refine ordered_cons.mpr ⟨fun name hname => ?_, ih hrest⟩
        rcases mem_keys_alter.mp hname with rfl | hname
        · exact hlt
        · exact hfirst name hname

/-- There is a value under the keys only. -/
theorem find?_isSome_iff : (d.find? name).isSome = true ↔ name ∈ keys d := by
  induction d with
  | nil => simp [find?, keys]
  | cons p d ih =>
    rw [mem_keys_cons, ← ih]
    by_cases hname : name = p.1 <;> simp [find?, hname]

theorem find?_eq_none (h : name ∉ keys d) : d.find? name = none := by
  rw [← Option.not_isSome_iff_eq_none, find?_isSome_iff]
  exact h

/-- A change is seen under its key and nowhere else. -/
theorem find?_alter (h : d.Ordered) :
    (d.alter key f).find? name = if name = key then some (f (d.find? key)) else d.find? name := by
  induction d with
  | nil => rfl
  | cons p d ih =>
    obtain ⟨hfirst, hrest⟩ := ordered_cons.mp h
    unfold alter
    split
    next hkey =>
      subst hkey
      by_cases hname : name = p.1 <;> simp [find?, hname]
    next hne =>
      split
      next hlt =>
        -- the keys that follow are greater still, so the new key is not among them
        have hnot : key ∉ keys d := fun hmem =>
          absurd (lt_trans hlt (hfirst key hmem)) (lt_irrefl key)
        simp [find?, hne, find?_eq_none hnot]
      next =>
        by_cases hname : name = p.1
        · simp [find?, hname, Ne.symm hne]
        · simp only [find?, hname, hne, if_false]
          exact ih hrest

/-! ## Changes one after the other -/

section

variable {γ : Type} {change : String × γ → Option β → β} {pairs : List (String × γ)}

/-- Any number of changes keeps the order. -/
theorem Ordered.alterAll (h : d.Ordered) :
    (pairs.foldl (fun d p => d.alter p.1 (change p)) d).Ordered := by
  induction pairs generalizing d with
  | nil => exact h
  | cons p pairs ih => exact ih h.alter

/-- Every key that is changed is there, with all that were there before. -/
theorem mem_keys_alterAll :
    name ∈ keys (pairs.foldl (fun d p => d.alter p.1 (change p)) d) ↔
      name ∈ pairs.map (·.1) ∨ name ∈ keys d := by
  induction pairs generalizing d with
  | nil => simp
  | cons p pairs ih =>
    rw [List.foldl_cons, ih, mem_keys_alter, List.map_cons, List.mem_cons, or_left_comm, or_assoc]

end

/-! ## Groupings -/

/-- The values that the pairs give to a name, in order. -/
def valuesOf (name : String) (pairs : List (String × β)) : List β :=
  (pairs.filter fun p => p.1 = name).map (·.2)

theorem valuesOf_cons (p : String × β) (pairs : List (String × β)) :
    valuesOf name (p :: pairs) =
      if p.1 = name then p.2 :: valuesOf name pairs else valuesOf name pairs := by
  unfold valuesOf
  by_cases hname : p.1 = name <;> simp [hname]

section

variable {groups : Dict (List β)}

/-- A further value stands after those that are there. -/
theorem find?_push {value : β} (h : groups.Ordered) :
    (groups.push key value).find? name =
      if name = key then some ((groups.find? key).getD [] ++ [value]) else groups.find? name :=
  find?_alter h

variable {pairs : List (String × β)}

/-- What is pushed under a name comes behind what is there. -/
theorem find?_pushAll (h : groups.Ordered) :
    ((pairs.foldl (fun d p => d.push p.1 p.2) groups).find? name).getD [] =
      (groups.find? name).getD [] ++ valuesOf name pairs := by
  induction pairs generalizing groups with
  | nil => simp [valuesOf]
  | cons p pairs ih =>
    have hordered : (groups.push p.1 p.2).Ordered := h.alter
    rw [List.foldl_cons, ih hordered, find?_push h, valuesOf_cons]
    by_cases hname : p.1 = name
    · rw [if_pos hname, if_pos hname.symm, hname, Option.getD_some, List.append_assoc]
      rfl
    · rw [if_neg hname, if_neg (Ne.symm hname)]

end

variable {pairs : List (String × β)}

/-- Groups stand in the order of their names. -/
theorem ordered_group (pairs : List (String × β)) : (group pairs).Ordered :=
  Ordered.alterAll List.Pairwise.nil

/-- There is a group for every name, and no other. -/
theorem mem_keys_group : name ∈ keys (group pairs) ↔ name ∈ pairs.map (·.1) := by
  unfold group push
  rw [mem_keys_alterAll]
  simp [keys]

/-- **A grouping keeps every value**, under its own key and in the order of the pairs. -/
theorem find?_group (pairs : List (String × β)) (name : String) :
    (group pairs).find? name =
      if name ∈ pairs.map (·.1) then some (valuesOf name pairs) else none := by
  split
  next hname =>
    obtain ⟨values, hvalues⟩ := Option.isSome_iff_exists.mp
      (find?_isSome_iff.mpr (mem_keys_group.mpr hname))
    have hall : ((group pairs).find? name).getD [] = valuesOf name pairs :=
      find?_pushAll List.Pairwise.nil
    rw [hvalues, Option.getD_some] at hall
    rw [hvalues, hall]
  next hname => exact find?_eq_none (mt mem_keys_group.mp hname)

/-! ## What a dictionary holds -/

section

variable {d' : Dict β} {value value' : β}

/-- A dictionary holds what is found in it. -/
theorem Ordered.mem_iff (h : d.Ordered) : (name, value) ∈ d ↔ d.find? name = some value := by
  induction d with
  | nil => simp [find?]
  | cons p d ih =>
    obtain ⟨hfirst, hrest⟩ := ordered_cons.mp h
    rw [List.mem_cons, ih hrest]
    by_cases hname : name = p.1
    · subst hname
      -- the first key does not come again
      have hnone : find? p.1 d = none :=
        find?_eq_none fun hmem => absurd (hfirst p.1 hmem) (lt_irrefl _)
      rw [hnone]
      simp [find?, Prod.ext_iff, eq_comm]
    · simp [find?, hname, Prod.ext_iff]

/-- Dictionaries are equal in which the same is found. -/
theorem Ordered.eq_of_find? (h : d.Ordered) (h' : d'.Ordered)
    (hfind : ∀ name, d.find? name = d'.find? name) : d = d' := by
  have hnodup : ∀ {e : Dict β}, e.Ordered → e.Nodup := fun he =>
    he.imp fun hlt heq => absurd (heq ▸ hlt) (lt_irrefl _)
  have hperm : d.Perm d' := by
    refine (List.perm_ext_iff_of_nodup (hnodup h) (hnodup h')).mpr fun p => ?_
    rw [h.mem_iff, h'.mem_iff, hfind]
  exact hperm.eq_of_pairwise (fun p q _ _ hpq hqp => absurd hpq (lt_asymm hqp)) h h'

/-- Insertions under different keys can change places. -/
theorem Ordered.insert_comm (h : d.Ordered) (hne : key ≠ name) :
    (d.insert key value).insert name value' = (d.insert name value').insert key value := by
  refine Ordered.eq_of_find? (h.alter.alter) (h.alter.alter) fun other => ?_
  simp only [find?_insert]
  split
  next hother =>
    rw [if_neg (hother ▸ Ne.symm hne)]
  next => rfl

end

/-! ## The last value -/

/-- `value` stands in the last pair whose key is of the kind. -/
def LastValue (isKind : String → Prop) (pairs : List (String × β)) (value : β) : Prop :=
  ∃ before key after, pairs = before ++ (key, value) :: after ∧ isKind key ∧
    ∀ later ∈ after, ¬ isKind later.1

section

variable {isKind : String → Prop} {value : β}

/-- The last value is that of the last pair, if it is of the kind. -/
theorem lastValue_concat {p : String × β} :
    LastValue isKind (pairs ++ [p]) value ↔
      isKind p.1 ∧ p.2 = value ∨ ¬ isKind p.1 ∧ LastValue isKind pairs value := by
  constructor
  · rintro ⟨before, key, after, hpairs, hkey, hafter⟩
    rcases List.eq_nil_or_concat' after with rfl | ⟨after, last, rfl⟩
    · obtain ⟨-, hp⟩ := List.append_inj' hpairs rfl
      obtain rfl := List.singleton_inj.mp hp
      exact .inl ⟨hkey, rfl⟩
    · rw [← List.cons_append, ← List.append_assoc] at hpairs
      obtain ⟨hinit, hp⟩ := List.append_inj' hpairs rfl
      obtain rfl := List.singleton_inj.mp hp
      refine .inr ⟨hafter p (by simp), before, key, after, hinit, hkey, fun later hlater => ?_⟩
      exact hafter later (List.mem_append_left _ hlater)
  · rintro (⟨hp, rfl⟩ | ⟨hp, before, key, after, rfl, hkey, hafter⟩)
    · exact ⟨pairs, p.1, [], rfl, hp, by simp⟩
    · refine ⟨before, key, after ++ [p], by simp, hkey, fun later hlater => ?_⟩
      rcases List.mem_append.mp hlater with hlater | hlater
      · exact hafter later hlater
      · obtain rfl := List.mem_singleton.mp hlater
        exact hp

/-- The last value under keys that are changed first. -/
theorem lastValue_map {f : String → String} :
    LastValue isKind (pairs.map fun p => (f p.1, p.2)) value ↔
      LastValue (fun key => isKind (f key)) pairs value := by
  induction pairs using List.reverseRecOn with
  | nil => simp [LastValue]
  | append_singleton pairs p ih =>
    rw [List.map_append, List.map_singleton, lastValue_concat, lastValue_concat, ih]

/-- A name stands in a dictionary once, so its last value is its value. -/
theorem Ordered.lastValue_iff (h : d.Ordered) :
    LastValue (· = name) d value ↔ d.find? name = some value := by
  rw [← h.mem_iff]
  constructor
  · rintro ⟨before, key, after, rfl, rfl, -⟩
    exact List.mem_append_right _ List.mem_cons_self
  · intro hmem
    obtain ⟨before, after, rfl⟩ := List.append_of_mem hmem
    refine ⟨before, name, after, rfl, rfl, fun later hlater => ?_⟩
    have hrest := (List.pairwise_append.mp h).2.1
    exact ((List.pairwise_cons.mp hrest).1 later hlater).ne'

/-- **Insertions keep the last value** of every key. -/
theorem find?_insertAll (h : d.Ordered) (pairs : List (String × β)) :
    (pairs.foldl (fun d p => d.insert p.1 p.2) d).find? name = some value ↔
      LastValue (· = name) (d ++ pairs) value := by
  induction pairs using List.reverseRecOn with
  | nil =>
    rw [List.append_nil]
    exact h.lastValue_iff.symm
  | append_singleton pairs p ih =>
    rw [List.foldl_concat, find?_insert, ← List.append_assoc, lastValue_concat, ← ih]
    by_cases hname : name = p.1
    · simp [hname]
    · simp [hname, Ne.symm hname]

/-- Every name that is inserted is there, with all that were there before. -/
theorem mem_keys_insertAll :
    name ∈ keys (pairs.foldl (fun d p => d.insert p.1 p.2) d) ↔ name ∈ (d ++ pairs).map (·.1) := by
  unfold insert
  rw [mem_keys_alterAll, List.map_append, List.mem_append, or_comm]
  rfl

/-- A dictionary made of pairs stands in the order of their names. -/
theorem ordered_ofPairs (pairs : List (String × β)) : (ofPairs pairs).Ordered :=
  Ordered.alterAll List.Pairwise.nil

theorem mem_keys_ofPairs : name ∈ keys (ofPairs pairs) ↔ name ∈ pairs.map (·.1) :=
  mem_keys_insertAll

/-- A dictionary made of pairs has the last value of each name. -/
theorem find?_ofPairs :
    (ofPairs pairs).find? name = some value ↔ LastValue (· = name) pairs value :=
  find?_insertAll List.Pairwise.nil pairs

/-- Neighbours under different keys can change places. -/
theorem ofPairs_swap {p q : String × β} (hne : p.1 ≠ q.1) (before after : List (String × β)) :
    ofPairs (before ++ q :: p :: after) = ofPairs (before ++ p :: q :: after) := by
  unfold ofPairs
  rw [List.foldl_append, List.foldl_append, List.foldl_cons, List.foldl_cons, List.foldl_cons,
    List.foldl_cons]
  exact congrArg (fun d => after.foldl (fun d p => d.insert p.1 p.2) d)
    ((ordered_ofPairs before).insert_comm hne.symm)

end

end TemplateServer.Dict
