import Mathlib.Data.List.TakeWhile
import TemplateServer.Proofs.Files.Walk
import TemplateServer.Proofs.Files.Write

/-!
# Directories are made on the way

A file below the working directory can be written if nothing is in the way (`HasRoom.writeText`): at
the places of its directories stand directories or nothing (`Clear`), and at its own a file or
nothing. The directories that are missing are made one below the other, and what `makeAlong` has
made so far is always a way down from directory to directory (`Made`), along which names are
resolved as they are (`makeAlong_clear`).
-/

namespace TemplateServer.Files

variable {name : String} {names : List String}

/-! ## Paths below the working directory -/

/-- From the empty path names lead to themselves. -/
theorem filePath_empty (h : ∀ name ∈ names, IsComponent name) :
    filePath "" names = relativePath names := by
  by_cases hne : names = []
  · rw [hne]
    rfl
  · rw [filePath_eq hne h]
    unfold joinPath
    simp

/-- A path goes on with one more name. -/
theorem relativePath_concat (h : ∀ n ∈ names ++ [name], IsComponent n) :
    relativePath (names ++ [name]) = joinPath (relativePath names) name := by
  have hnames : ∀ n ∈ names, IsComponent n := fun n hn => h n (List.mem_append_left _ hn)
  rw [← filePath_empty h, ← Tree.filePath_concat, filePath_empty hnames]

/-- A path is taken apart into the names that it was made of. -/
theorem namesOf_relativePath (hne : names ≠ []) (h : ∀ name ∈ names, IsComponent name) :
    namesOf (relativePath names) = names := by
  unfold namesOf
  rw [pieces_relativePath hne h, map_ofList_toList]

theorem ne_nil_of_component (h : IsComponent name) : name.toList ≠ [] :=
  fun hnil => h.not_empty (String.toList_eq_nil_iff.mp hnil)

theorem ne_dot_of_component (h : IsComponent name) : name.toList ≠ ['.'] :=
  fun hdot => h.not_here (String.toList_inj.mp hdot)

/-- The path begins with the first name, which neither is a dot nor holds a slash. -/
theorem splitHead_relativePath (hne : names ≠ []) (h : ∀ name ∈ names, IsComponent name) :
    splitHead (relativePath names).toList = ([], (relativePath names).toList) := by
  have hpieces := pieces_relativePath hne h
  obtain ⟨name, names, rfl⟩ := List.exists_cons_of_ne_nil hne
  have hname := h name List.mem_cons_self
  unfold splitHead
  split
  next heq =>
    rw [heq] at hpieces
    exact absurd (List.cons.inj hpieces).1.symm (ne_nil_of_component hname)
  next heq =>
    rw [heq] at hpieces
    exact absurd (List.cons.inj hpieces).1.symm (ne_dot_of_component hname)
  next heq =>
    rw [heq] at hpieces
    exact absurd (List.cons.inj hpieces).1.symm (ne_dot_of_component hname)
  next => rfl

/-- No name leads nowhere, so none is dropped. -/
theorem dropTrailing_names (h : ∀ name ∈ names, IsComponent name) :
    dropTrailing isIdle (names.map String.toList) = names.map String.toList := by
  have hbusy : ∀ cs ∈ (names.map String.toList).reverse, ¬ isIdle cs = true := by
    intro cs hcs
    obtain ⟨name, hname, rfl⟩ := List.mem_map.mp (List.mem_reverse.mp hcs)
    have hempty := ne_nil_of_component (h name hname)
    have hhere := ne_dot_of_component (h name hname)
    simp [isIdle, hempty, hhere]
  unfold dropTrailing
  rw [List.dropWhile_eq_self_iff.mpr fun hpos => hbusy _ (List.getElem_mem hpos),
    List.reverse_reverse]

/-- The directory of a file is what stands before its name. -/
theorem parent?_relativePath (h : ∀ n ∈ names ++ [name], IsComponent n) :
    parent? (relativePath (names ++ [name])) = some (relativePath names) := by
  have hne : names ++ [name] ≠ [] := by simp
  have hnames : ∀ n ∈ names, IsComponent n := fun n hn => h n (List.mem_append_left _ hn)
  have hlast : (names ++ [name]).map String.toList = names.map String.toList ++ [name.toList] := by
    simp
  unfold parent?
  rw [splitHead_relativePath hne h]
  simp only [pieces_relativePath hne h, dropTrailing_names h]
  rw [hlast, List.dropLast_concat, dropTrailing_names hnames, if_neg (by simp)]
  rfl

theorem relativePath_ne_empty (hne : names ≠ []) (h : ∀ name ∈ names, IsComponent name) :
    relativePath names ≠ "" := by
  intro hempty
  have hnames := namesOf_relativePath hne h
  rw [hempty] at hnames
  have hname : "" ∈ names := hnames ▸ List.mem_cons_self
  exact (h "" hname).not_empty rfl

/-- A path of names is without flaw, if it is not too long. -/
theorem flaw?_relativePath (hne : names ≠ []) (h : ∀ name ∈ names, IsComponent name)
    (hshort : Utf8.length (relativePath names) ≤ maxPathLength) :
    Tree.flaw? (relativePath names) = none := by
  refine Tree.flaw?_eq_none_iff.mpr ⟨relativePath_ne_empty hne h, fun hnul => ?_, hshort⟩
  rw [relativePath_toList] at hnul
  rcases Text.mem_joinWith hnul with hslash | ⟨cs, hcs, hmem⟩
  · cases hslash
  · obtain ⟨name, hname, rfl⟩ := List.mem_map.mp hcs
    exact (h name hname).no_nul hmem

namespace Tree

variable {t : Tree} {origin place added other : Place} {node : Node}
  {before : List String}

/-- A path of names is followed from the working directory. -/
theorem start_relativePath (t : Tree) (hne : names ≠ []) (h : ∀ name ∈ names, IsComponent name) :
    t.start (relativePath names) = t.here := by
  have hstarts : ¬ (relativePath names).startsWith "/" = true := by
    rw [String.startsWith_string_iff]
    rintro ⟨rest, hrest⟩
    have hpieces := pieces_relativePath hne h
    obtain ⟨name, names, rfl⟩ := List.exists_cons_of_ne_nil hne
    rw [← hrest] at hpieces
    exact ne_nil_of_component (h name List.mem_cons_self) (List.cons.inj hpieces).1.symm
  unfold start
  rw [if_neg hstarts]

/-! ## Ways down -/

/-- Nothing but directories stands where the names lead. -/
def Clear (t : Tree) : Place → List String → Prop
  | _, [] => True
  | place, name :: names =>
    (t.isDirectory (place ++ [name]) = true ∨ t.node? (place ++ [name]) = none) ∧
      Clear t (place ++ [name]) names

/-- A directory stands at a place, and wherever the names lead from there. -/
def Made (t : Tree) : Place → List String → Prop
  | place, [] => t.isDirectory place = true
  | place, name :: names => t.isDirectory place = true ∧ Made t (place ++ [name]) names

theorem Made.first (h : t.Made place names) : t.isDirectory place = true := by
  cases names with
  | nil => exact h
  | cons name names => exact h.1

theorem Made.last (h : t.Made place names) : t.isDirectory (place ++ names) = true := by
  induction names generalizing place with
  | nil =>
    rw [List.append_nil]
    exact h
  | cons name names ih => simpa using ih h.2

theorem Made.concat (h : t.Made place names)
    (hlast : t.isDirectory (place ++ names ++ [name]) = true) : t.Made place (names ++ [name]) := by
  induction names generalizing place with
  | nil => exact ⟨h, by simpa [Made] using hlast⟩
  | cons next names ih => exact ⟨h.1, ih h.2 (by simpa using hlast)⟩

/-- A name is looked up in a directory. -/
theorem looked_of_component (h : IsComponent name) (hdir : t.isDirectory place = true) :
    t.Looked place name :=
  ⟨hdir, ⟨not_or.mpr ⟨h.not_empty, h.not_here⟩, h.not_above⟩, Nat.not_lt.mpr h.short⟩

/-- Names are resolved from directory to directory as they are. -/
theorem Made.resolveFrom_append (h : t.Made place names)
    (hnames : ∀ name ∈ names, IsComponent name) (links : Nat) (rest : List String) :
    t.resolveFrom links place (names ++ rest) = t.resolveFrom links (place ++ names) rest := by
  induction names generalizing place with
  | nil => simp
  | cons name names ih =>
    have hlooked := looked_of_component (hnames name List.mem_cons_self) h.1
    obtain ⟨modified, hnode⟩ := isDirectory_iff.mp h.2.first
    rw [List.cons_append, resolveFrom_down hlooked.directory hlooked.down, if_neg hlooked.short,
      hnode]
    have htail := ih h.2 fun n hn => hnames n (List.mem_cons_of_mem name hn)
    simpa using htail

/-- A path through directories that are there leads to a file in the last one. -/
theorem Made.leadsTo (h : t.Made place names) (hnames : ∀ n ∈ names ++ [name], IsComponent n)
    (htakes : t.TakesFile (place ++ names ++ [name])) (links : Nat) :
    t.LeadsTo links place (names ++ [name]) (place ++ names ++ [name]) := by
  induction names generalizing place with
  | nil =>
    rw [List.append_nil] at htakes ⊢
    exact .last (looked_of_component (hnames name (by simp)) h) htakes
  | cons next names ih =>
    have hnext := looked_of_component (hnames next (by simp)) h.1
    have hrest : ∀ n ∈ names ++ [name], IsComponent n := fun n hn =>
      hnames n (List.mem_cons_of_mem next hn)
    have htail := ih h.2 hrest (by simpa using htakes)
    exact .down hnext h.2.first (by simpa using htail)

/-! ## Making directories -/

/-- What is added is found where it was added. -/
theorem node?_add_self (hne : place ≠ []) (hfree : t.node? place = none) :
    (t.add place node).node? place = some node := by
  unfold node? at hfree ⊢
  rw [if_neg (by simpa using hne)] at hfree ⊢
  rw [Tree.add, List.lookup_append, hfree]
  simp

theorem node?_add_of_ne (h : other ≠ place) : (t.add place node).node? other = t.node? other := by
  have hlast : [(place, node)].lookup other = none := by
    rw [List.lookup_eq_none_iff]
    simpa using h
  unfold node? Tree.add
  rw [List.lookup_append, hlast, Option.or_none]

/-- Directories stay directories. -/
theorem isDirectory_add (hfree : t.node? added = none) (h : t.isDirectory place = true) :
    (t.add added node).isDirectory place = true := by
  obtain ⟨modified, hnode⟩ := isDirectory_iff.mp h
  have hne : place ≠ added := by
    rintro rfl
    rw [hfree] at hnode
    cases hnode
  exact isDirectory_iff.mpr ⟨modified, by rw [node?_add_of_ne hne, hnode]⟩

/-- Directories that are there stay there. -/
theorem Made.add (h : t.Made place names) (hfree : t.node? added = none) :
    (t.add added node).Made place names := by
  induction names generalizing place with
  | nil => exact isDirectory_add hfree h
  | cons name names ih => exact ⟨isDirectory_add hfree h.1, ih h.2⟩

/-- What is added stands above all places that are looked at. -/
theorem Clear.add (h : t.Clear place names) (hshort : added.length ≤ place.length) :
    (t.add added node).Clear place names := by
  induction names generalizing place with
  | nil => trivial
  | cons name names ih =>
    have hne : place ++ [name] ≠ added := by
      rintro rfl
      simp only [List.length_append, List.length_singleton] at hshort
      omega
    refine ⟨?_, ih h.2 (by rw [List.length_append]; omega)⟩
    unfold isDirectory
    rw [node?_add_of_ne hne]
    exact h.1

/-- The directories on a clear way are made, and what stands beyond it stays as it is. -/
theorem makeAlong_clear (hmade : t.Made origin before) (hclear : t.Clear (origin ++ before) names)
    (hnames : ∀ name ∈ before ++ names, IsComponent name) :
    ∃ t', t.makeAlong origin before names = .ok t' ∧ t'.Made origin (before ++ names) ∧
      t'.here = t.here ∧
      ∀ other, (origin ++ before ++ names).length < other.length →
        t'.node? other = t.node? other := by
  induction names generalizing before t with
  | nil => exact ⟨t, rfl, by simpa using hmade, rfl, fun _ _ => rfl⟩
  | cons name names ih =>
    have hbefore : ∀ n ∈ before, IsComponent n := fun n hn => hnames n (List.mem_append_left _ hn)
    have hlooked := looked_of_component (hnames name (by simp)) hmade.last
    have hfound : t.resolveFrom maxLinks origin before = .ok (origin ++ before) := by
      have := hmade.resolveFrom_append hbefore maxLinks []
      rwa [List.append_nil, resolveFrom_nil] at this
    obtain ⟨hstands, hclear⟩ := hclear
    have hone : before ++ name :: names = before ++ [name] ++ names := by simp
    rw [hone] at hnames ⊢
    rw [show origin ++ before ++ name :: names = origin ++ (before ++ [name]) ++ names by simp,
      makeAlong, hmade.resolveFrom_append hbefore,
      resolveFrom_down hlooked.directory hlooked.down, if_neg hlooked.short]
    rw [List.append_assoc] at hclear
    rcases hstands with hdir | hfree
    · obtain ⟨modified, hnode⟩ := isDirectory_iff.mp hdir
      simp only [hnode, resolveFrom_nil, hdir, Bool.not_true, Bool.and_false, Bool.false_eq_true,
        if_false]
      exact ih (hmade.concat hdir) hclear hnames
    · have hnew : (t.add (origin ++ before ++ [name]) (.directory 0)).isDirectory
          (origin ++ before ++ [name]) = true :=
        isDirectory_iff.mpr ⟨0, node?_add_self (by simp) hfree⟩
      obtain ⟨t', hmake, hway, hsame, hbeyond⟩ := ih ((hmade.add hfree).concat hnew)
        (hclear.add (by simp)) hnames
      simp only [hfree, hfound, Option.isSome_none, Bool.false_eq_true, if_false]
      refine ⟨t', hmake, hway, hsame, fun other hother => ?_⟩
      rw [hbeyond other hother, node?_add_of_ne]
      rintro rfl
      simp at hother

/-- Directories are made where nothing is in their way, and what lies deeper than all of them stays
as it is. -/
theorem makeDirectories_clear (hhere : t.isDirectory t.here = true) (hclear : t.Clear t.here names)
    (hnames : ∀ name ∈ names, IsComponent name)
    (hshort : Utf8.length (relativePath names) ≤ maxPathLength) :
    ∃ t', t.makeDirectories (relativePath names) = .ok t' ∧ t'.Made t'.here names ∧
      t'.here = t.here ∧
      ∀ other, (t.here ++ names).length < other.length → t'.node? other = t.node? other := by
  by_cases hne : names = []
  · subst hne
    exact ⟨t, rfl, hhere, rfl, fun _ _ => rfl⟩
  · have hstart : t.Made t.here [] := hhere
    have hway : t.Clear (t.here ++ []) names := by rwa [List.append_nil]
    obtain ⟨t', hmake, hmade, hsame, hbeyond⟩ := makeAlong_clear hstart hway hnames
    refine ⟨t', ?_, by simpa [hsame] using hmade, hsame, by simpa using hbeyond⟩
    unfold makeDirectories
    rw [if_neg (by simpa [String.isEmpty_iff] using relativePath_ne_empty hne hnames),
      flaw?_relativePath hne hnames hshort, start_relativePath t hne hnames,
      namesOf_relativePath hne hnames]
    exact hmake

/-- Nothing is in the way of a file that stands below the working directory. -/
structure HasRoom (t : Tree) (names : List String) (name : String) : Prop where
  here : t.isDirectory t.here = true
  clear : t.Clear t.here names
  components : ∀ n ∈ names ++ [name], IsComponent n
  takesFile : t.TakesFile (t.here ++ names ++ [name])
  short : Utf8.length (relativePath (names ++ [name])) ≤ maxPathLength

/-- **A file can be written where there is room for it.** -/
theorem HasRoom.writeText (h : t.HasRoom names name) :
    ∃ made, t.makeDirectories (relativePath names) = .ok made ∧
      ∀ text, ∃ t', made.writeText (relativePath (names ++ [name])) text = .ok t' := by
  have hnames : ∀ n ∈ names, IsComponent n := fun n hn =>
    h.components n (List.mem_append_left _ hn)
  have hlength := length_lt_joinPath (relativePath names) (h.components name (by simp))
  rw [← relativePath_concat h.components] at hlength
  have hshort := h.short
  obtain ⟨made, hmake, hmade, hsame, hbeyond⟩ :=
    makeDirectories_clear h.here h.clear hnames (by omega)
  have htakes : made.TakesFile (made.here ++ names ++ [name]) := by
    rw [hsame]
    refine ⟨by simp, ?_⟩
    rw [hbeyond _ (by simp)]
    exact h.takesFile.2
  have hplace := fileFrom_eq_ok_iff.mpr (hmade.leadsTo h.components htakes maxLinks)
  have hne : names ++ [name] ≠ [] := by simp
  refine ⟨made, hmake, fun text => ?_⟩
  unfold Tree.writeText
  rw [flaw?_relativePath hne h.components h.short, start_relativePath made hne h.components,
    namesOf_relativePath hne h.components]
  simp only [hplace]
  exact ⟨_, rfl⟩

/-- In the working directory there is room under any name that nothing else has. -/
theorem hasRoom_here (hhere : t.isDirectory t.here = true) (hname : IsComponent name)
    (htakes : t.TakesFile (t.here ++ [name])) : t.HasRoom [] name where
  here := hhere
  clear := trivial
  components n hn := by
    obtain rfl := List.mem_singleton.mp hn
    exact hname
  takesFile := by rwa [List.append_nil]
  short := by
    have hpath : relativePath ([] ++ [name]) = name := String.ofList_toList
    have hmost : maxNameLength ≤ maxPathLength := by decide
    rw [hpath]
    exact Nat.le_trans hname.short hmost

end Tree

end TemplateServer.Files
