/-!
# Doing something with every element

An action that may fail is done with each element of a list, in order. If it comes to its end, it
has succeeded with every element, and the answers are in the order of the elements
(`map_eq_of_mapM`).
-/

namespace TemplateServer.Traverse

variable {ε β γ : Type} {f : β → Except ε γ} {xs : List β} {ys : List γ}

theorem mapM_congr_of_mem {g : β → Except ε γ} (h : ∀ x ∈ xs, f x = g x) :
    xs.mapM f = xs.mapM g := by
  induction xs with
  | nil => rfl
  | cons x xs ih =>
    rw [List.mapM_cons, List.mapM_cons, h x List.mem_cons_self,
      ih fun y hy => h y (List.mem_cons_of_mem _ hy)]

/-- What was done with the first element, and what with the others. -/
theorem mapM_cons_ok {x : β} (h : (x :: xs).mapM f = .ok ys) :
    ∃ y ys', f x = .ok y ∧ xs.mapM f = .ok ys' ∧ ys = y :: ys' := by
  rw [List.mapM_cons] at h
  cases hx : f x with
  | error e => rw [hx] at h; cases h
  | ok y =>
    rw [hx] at h
    cases hxs : xs.mapM f with
    | error e => rw [hxs] at h; cases h
    | ok ys' =>
      rw [hxs] at h
      cases h
      exact ⟨y, ys', rfl, rfl, rfl⟩

/-- The answers are those to the elements. -/
theorem map_eq_of_mapM (h : xs.mapM f = .ok ys) : xs.map f = ys.map .ok := by
  induction xs generalizing ys with
  | nil => cases h; rfl
  | cons x xs ih =>
    obtain ⟨y, ys', hy, hys, rfl⟩ := mapM_cons_ok h
    rw [List.map_cons, List.map_cons, hy, ih hys]

theorem mem_of_mapM (h : xs.mapM f = .ok ys) (y : γ) : y ∈ ys ↔ ∃ x ∈ xs, f x = .ok y := by
  have hmem : y ∈ ys ↔ Except.ok y ∈ ys.map (Except.ok (ε := ε)) := by
    constructor
    · exact List.mem_map_of_mem
    · intro hy
      obtain ⟨y', hy', heq⟩ := List.mem_map.mp hy
      rw [← Except.ok.inj heq]
      exact hy'
  rw [hmem, ← map_eq_of_mapM h, List.mem_map]

/-- Every element has its answer. -/
theorem ok_of_mapM (h : xs.mapM f = .ok ys) {x : β} (hx : x ∈ xs) : ∃ y ∈ ys, f x = .ok y := by
  have hmem : f x ∈ ys.map (Except.ok (ε := ε)) := by
    rw [← map_eq_of_mapM h]
    exact List.mem_map_of_mem hx
  obtain ⟨y, hy, heq⟩ := List.mem_map.mp hmem
  exact ⟨y, hy, heq.symm⟩

/-- Where different elements have different answers, no answer comes twice. -/
theorem nodup_of_mapM (h : xs.mapM f = .ok ys) (hxs : xs.Nodup)
    (hinj : ∀ x ∈ xs, ∀ x' ∈ xs, f x = f x' → x = x') : ys.Nodup := by
  have hmap : (xs.map f).Nodup := by
    unfold List.Nodup
    rw [List.pairwise_map]
    exact hxs.imp_of_mem fun hx hx' hne heq => hne (hinj _ hx _ hx' heq)
  rw [map_eq_of_mapM h] at hmap
  unfold List.Nodup at hmap
  rw [List.pairwise_map] at hmap
  exact hmap.imp fun hne heq => hne (congrArg _ heq)

/-- Lists without repetitions that are the answers to different elements, and are apart, make one
list without repetitions. -/
theorem flatten_of_mapM {f : β → Except ε (List γ)} {yss : List (List γ)} {P : β → γ → Prop}
    (hxs : xs.Nodup) (hapart : ∀ {x x' y}, P x y → P x' y → x = x')
    (hf : ∀ x ∈ xs, ∀ ys, f x = .ok ys → ys.Nodup ∧ ∀ y, y ∈ ys ↔ P x y)
    (h : xs.mapM f = .ok yss) :
    yss.flatten.Nodup ∧ ∀ y, y ∈ yss.flatten ↔ ∃ x ∈ xs, P x y := by
  induction xs generalizing yss with
  | nil =>
    cases h
    exact ⟨List.nodup_nil, fun y => by simp⟩
  | cons x xs ih =>
    obtain ⟨hnotin, hnodup⟩ := List.nodup_cons.mp hxs
    obtain ⟨ys, yss, hfirst, hrest, rfl⟩ := mapM_cons_ok h
    obtain ⟨hys, hmem⟩ := hf x List.mem_cons_self ys hfirst
    obtain ⟨hyss, hmems⟩ := ih hnodup (fun x' hx' => hf x' (List.mem_cons_of_mem _ hx')) hrest
    rw [List.flatten_cons]
    constructor
    · refine List.nodup_append.mpr ⟨hys, hyss, fun y hy y' hy' heq => ?_⟩
      obtain ⟨x', hx', hP'⟩ := (hmems y').mp hy'
      have hP := (hmem y).mp hy
      rw [heq] at hP
      rw [hapart hP hP'] at hnotin
      exact hnotin hx'
    · intro y
      rw [List.mem_append, hmem, hmems]
      constructor
      · rintro (hP | ⟨x', hx', hP⟩)
        · exact ⟨x, List.mem_cons_self, hP⟩
        · exact ⟨x', List.mem_cons_of_mem _ hx', hP⟩
      · rintro ⟨x', hx', hP⟩
        rcases List.mem_cons.mp hx' with rfl | hx'
        · exact .inl hP
        · exact .inr ⟨x', hx', hP⟩

end TemplateServer.Traverse
