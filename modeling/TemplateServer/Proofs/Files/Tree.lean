import TemplateServer.Proofs.Files.Path

/-!
# Resolving paths in a tree

In a well-formed tree every node stands in a directory and has a name of its own there. What a
path is resolved to is then never a link (`resolveFrom_stands`), and a path can be resolved in
parts: what follows a part is resolved from where the part has led, with the links that are left
(`resolveFrom_append`).
-/

namespace TemplateServer.Files.Tree

/-- What every file system sees to. -/
structure WellFormed (t : Tree) : Prop where
  here : t.isDirectory t.here = true
  distinct : (t.nodes.map (·.1)).Nodup
  parent : ∀ n ∈ t.nodes, t.isDirectory n.1.dropLast = true
  named : ∀ n ∈ t.nodes, ∃ name, n.1.getLast? = some name ∧ IsComponent name

variable {t : Tree}

/-- A node that is no link stands at the place. -/
def Stands (t : Tree) (place : Place) : Prop :=
  (∃ content modified, t.node? place = some (.file content modified)) ∨ t.isDirectory place = true

theorem isDirectory_iff {place : Place} :
    t.isDirectory place = true ↔ ∃ modified, t.node? place = some (.directory modified) := by
  unfold isDirectory
  constructor
  · intro h
    split at h
    next modified hnode => exact ⟨modified, hnode⟩
    next => cases h
  · rintro ⟨modified, hnode⟩
    rw [hnode]

theorem isDirectory_top : t.isDirectory [] = true := rfl

/-- What stands at a place other than the top is one of the nodes. -/
theorem mem_of_node? {place : Place} {node : Node} (hne : place ≠ [])
    (h : t.node? place = some node) : (place, node) ∈ t.nodes := by
  unfold node? at h
  rw [if_neg (by simpa using hne)] at h
  obtain ⟨before, after, hsplit, -⟩ := List.lookup_eq_some_iff.mp h
  rw [hsplit]
  exact List.mem_append_right _ List.mem_cons_self

theorem WellFormed.parent_of_node? (hwf : t.WellFormed) {place : Place} {node : Node}
    (h : t.node? place = some node) : t.isDirectory place.dropLast = true := by
  by_cases hne : place = []
  · rw [hne]
    exact isDirectory_top
  · exact hwf.parent _ (mem_of_node? hne h)

/-- A node is what stands at its place. -/
theorem WellFormed.node?_of_mem (hwf : t.WellFormed) {place : Place} {node : Node}
    (h : (place, node) ∈ t.nodes) : t.node? place = some node := by
  obtain ⟨name, hname, -⟩ := hwf.named _ h
  have hne : place ≠ [] := by
    intro hnil
    rw [hnil] at hname
    cases hname
  unfold node?
  rw [if_neg (by simpa using hne)]
  obtain ⟨before, after, hsplit⟩ := List.append_of_mem h
  refine List.lookup_eq_some_iff.mpr ⟨before, after, hsplit, fun other hother => ?_⟩
  have hdistinct := hwf.distinct
  rw [hsplit, List.map_append, List.map_cons] at hdistinct
  have hnotin := (List.nodup_append.mp hdistinct).2.2 other.1 (List.mem_map_of_mem hother) place
    List.mem_cons_self
  exact bne_iff_ne.mpr (Ne.symm hnotin)

/-- Where a child of a place stands. -/
theorem place_of_child {place at' : Place} {name : String}
    (h : (if at'.dropLast == place && at'.length == place.length + 1 then at'.getLast? else none) =
      some name) : at' = place ++ [name] := by
  split at h
  next hplace =>
    obtain ⟨before, hat⟩ := List.getLast?_eq_some_iff.mp h
    rw [Bool.and_eq_true] at hplace
    rw [← eq_of_beq hplace.1, hat, List.dropLast_concat]
  next => cases h

/-- The names in a directory are those that something stands under. -/
theorem WellFormed.mem_children (hwf : t.WellFormed) {place : Place} {name : String} :
    name ∈ t.children place ↔ (t.node? (place ++ [name])).isSome = true := by
  unfold children
  rw [List.mem_filterMap]
  constructor
  · rintro ⟨⟨at', node⟩, hmem, hname⟩
    obtain rfl : at' = place ++ [name] := place_of_child hname
    rw [hwf.node?_of_mem hmem]
    rfl
  · intro h
    obtain ⟨node, hnode⟩ := Option.isSome_iff_exists.mp h
    refine ⟨(place ++ [name], node), mem_of_node? (by simp) hnode, ?_⟩
    simp

/-- A name in a directory is a component. -/
theorem WellFormed.component (hwf : t.WellFormed) {place : Place} {name : String}
    (h : name ∈ t.children place) : IsComponent name := by
  obtain ⟨node, hnode⟩ := Option.isSome_iff_exists.mp (hwf.mem_children.mp h)
  obtain ⟨name', hlast, hcomponent⟩ := hwf.named _ (mem_of_node? (by simp) hnode)
  rw [List.getLast?_concat] at hlast
  cases hlast
  exact hcomponent

/-- No name stands twice in a directory. -/
theorem WellFormed.children_nodup (hwf : t.WellFormed) (place : Place) :
    (t.children place).Nodup := by
  have hdistinct := hwf.distinct
  unfold List.Nodup at hdistinct
  rw [List.pairwise_map] at hdistinct
  unfold children List.Nodup
  rw [List.pairwise_filterMap]
  refine hdistinct.imp fun {n n'} hne name hname name' hname' heq => hne ?_
  rw [place_of_child hname, place_of_child hname', heq]

/-! ## Resolving -/

section

variable {links : Nat} {place : Place} {name : String} {names : List String}

theorem resolveFrom_nil : t.resolveFrom links place [] = .ok place := by
  rw [resolveFrom]

theorem resolveFrom_notDirectory (h : t.isDirectory place = false) :
    t.resolveFrom links place (name :: names) = .error .notDirectory := by
  rw [resolveFrom, h]
  rfl

theorem resolveFrom_idle (hdir : t.isDirectory place = true) (h : name = "" ∨ name = ".") :
    t.resolveFrom links place (name :: names) = t.resolveFrom links place names := by
  rw [resolveFrom, hdir, if_neg (by simp), if_pos h]

theorem resolveFrom_up (hdir : t.isDirectory place = true) :
    t.resolveFrom links place (".." :: names) = t.resolveFrom links place.dropLast names := by
  rw [resolveFrom, hdir, if_neg (by simp), if_neg (by decide), if_pos rfl]

/-- A name that leads down is one that a node may have. -/
def LeadsDown (name : String) : Prop :=
  ¬ (name = "" ∨ name = ".") ∧ name ≠ ".."

/-- A component is looked up. -/
theorem resolveFrom_down (hdir : t.isDirectory place = true) (h : LeadsDown name) :
    t.resolveFrom links place (name :: names) =
      if maxNameLength < Utf8.length name then .error .nameTooLong
      else
        match t.node? (place ++ [name]) with
        | none => .error .missing
        | some (.link target) =>
          match links with
          | 0 => .error .tooManyLinks
          | links + 1 =>
            t.resolveFrom links (if target.startsWith "/" then [] else place)
              (namesOf target ++ names)
        | some _ => t.resolveFrom links (place ++ [name]) names := by
  rewrite [resolveFrom, hdir, if_neg (by simp), if_neg h.1, if_neg h.2]
  split
  next => rfl
  next =>
    cases hnode : t.node? (place ++ [name]) with
    | none => rfl
    | some node =>
      cases node with
      | file => rfl
      | directory => rfl
      | link target => cases links <;> rfl

end

/-- A path is resolved in parts. -/
theorem resolveFrom_append (t : Tree) (links : Nat) (place : Place) (names : List String) :
    (∃ refusal, t.resolveFrom links place names = .error refusal ∧
      ∀ rest, t.resolveFrom links place (names ++ rest) = .error refusal) ∨
    ∃ place' links', t.resolveFrom links place names = .ok place' ∧
      ∀ rest, t.resolveFrom links place (names ++ rest) = t.resolveFrom links' place' rest := by
  -- by the recursion of `resolveFrom`: the cases go on where a name leads on, and else end it
  induction links, place, names using resolveFrom.induct t with
  | case1 links place => exact .inr ⟨place, links, resolveFrom_nil, fun rest => rfl⟩
  | case2 links place name names hdir =>
    -- nothing leads on from what is no directory
    have hdir' : t.isDirectory place = false := by simpa using hdir
    exact .inl ⟨_, resolveFrom_notDirectory hdir', fun rest => resolveFrom_notDirectory hdir'⟩
  | case3 links place name names hdir hidle ih =>
    -- an empty name or a dot leads nowhere
    have hdir' : t.isDirectory place = true := by simpa using hdir
    simp only [List.cons_append, resolveFrom_idle hdir' hidle]
    exact ih
  | case4 links place names hdir hidle ih =>
    -- two dots lead to the parent
    have hdir' : t.isDirectory place = true := by simpa using hdir
    simp only [List.cons_append, resolveFrom_up hdir']
    exact ih
  | case5 links place name names hdir hidle hup hlong =>
    -- the name is too long
    have hdir' : t.isDirectory place = true := by simpa using hdir
    simp only [List.cons_append, resolveFrom_down hdir' ⟨hidle, hup⟩, if_pos hlong]
    exact .inl ⟨_, rfl, fun _ => rfl⟩
  | case6 links place name names hdir hidle hup hlong hnode =>
    -- nothing has the name
    have hdir' : t.isDirectory place = true := by simpa using hdir
    simp only [List.cons_append, resolveFrom_down hdir' ⟨hidle, hup⟩, if_neg hlong, hnode]
    exact .inl ⟨_, rfl, fun _ => rfl⟩
  | case7 place name names hdir hidle hup hlong target hnode =>
    -- one link too many
    have hdir' : t.isDirectory place = true := by simpa using hdir
    simp only [List.cons_append, resolveFrom_down hdir' ⟨hidle, hup⟩, if_neg hlong, hnode]
    exact .inl ⟨_, rfl, fun _ => rfl⟩
  | case8 place name names hdir hidle hup hlong target hnode links ih =>
    -- a link leads on from its target
    have hdir' : t.isDirectory place = true := by simpa using hdir
    simp only [List.cons_append, resolveFrom_down hdir' ⟨hidle, hup⟩, if_neg hlong, hnode]
    simpa using ih
  | case9 links place name names hdir hidle hup hlong node hlink hnode ih =>
    -- a file or a directory leads on from itself
    have hdir' : t.isDirectory place = true := by simpa using hdir
    have hdown (rest : List String) :
        t.resolveFrom links place (name :: rest) = t.resolveFrom links (place ++ [name]) rest := by
      rw [resolveFrom_down hdir' ⟨hidle, hup⟩, if_neg hlong, hnode]
      cases node with
      | file => rfl
      | directory => rfl
      | link target => exact (hlink target rfl).elim
    simp only [List.cons_append, hdown]
    exact ih

/-- In a well-formed tree a path is resolved to a node that is no link. -/
theorem WellFormed.resolveFrom_stands (hwf : t.WellFormed) {links : Nat} {place place' : Place}
    {names : List String} (hplace : t.Stands place)
    (h : t.resolveFrom links place names = .ok place') : t.Stands place' := by
  induction links, place, names using resolveFrom.induct t with
  | case1 links place =>
    -- the way is at its end
    rw [resolveFrom_nil] at h
    cases h
    exact hplace
  | case2 links place name names hdir =>
    rw [resolveFrom_notDirectory (by simpa using hdir)] at h
    cases h
  | case3 links place name names hdir hidle ih =>
    rw [resolveFrom_idle (by simpa using hdir) hidle] at h
    exact ih hplace h
  | case4 links place names hdir hidle ih =>
    have hdir' : t.isDirectory place = true := by simpa using hdir
    rw [resolveFrom_up hdir'] at h
    obtain ⟨_, hnode⟩ := isDirectory_iff.mp hdir'
    exact ih (.inr (hwf.parent_of_node? hnode)) h
  | case5 links place name names hdir hidle hup hlong =>
    rw [resolveFrom_down (by simpa using hdir) ⟨hidle, hup⟩, if_pos hlong] at h
    cases h
  | case6 links place name names hdir hidle hup hlong hnode =>
    rw [resolveFrom_down (by simpa using hdir) ⟨hidle, hup⟩, if_neg hlong, hnode] at h
    cases h
  | case7 place name names hdir hidle hup hlong target hnode =>
    rw [resolveFrom_down (by simpa using hdir) ⟨hidle, hup⟩, if_neg hlong, hnode] at h
    cases h
  | case8 place name names hdir hidle hup hlong target hnode links ih =>
    have hdir' : t.isDirectory place = true := by simpa using hdir
    rw [resolveFrom_down hdir' ⟨hidle, hup⟩, if_neg hlong, hnode] at h
    -- the target of a link is looked up from the top or from the directory that it stands in
    refine ih (.inr ?_) (by simpa using h)
    split
    next => exact isDirectory_top
    next => exact hdir'
  | case9 links place name names hdir hidle hup hlong node hlink hnode ih =>
    rw [resolveFrom_down (by simpa using hdir) ⟨hidle, hup⟩, if_neg hlong, hnode] at h
    cases node with
    | file content modified => exact ih (.inl ⟨content, modified, hnode⟩) h
    | directory modified => exact ih (.inr (isDirectory_iff.mpr ⟨modified, hnode⟩)) h
    | link target => exact (hlink target rfl).elim

/-- An empty name leads nowhere, wherever a name follows. -/
theorem resolveFrom_skip (t : Tree) (links : Nat) (place : Place) (names : List String)
    (name : String) (rest : List String) :
    t.resolveFrom links place (names ++ "" :: name :: rest) =
      t.resolveFrom links place (names ++ name :: rest) := by
  rcases t.resolveFrom_append links place names with ⟨refusal, -, h⟩ | ⟨place', links', -, h⟩
  · rw [h, h]
  · rw [h, h]
    cases hdir : t.isDirectory place' with
    | false => rw [resolveFrom_notDirectory hdir, resolveFrom_notDirectory hdir]
    | true => rw [resolveFrom_idle hdir (.inl rfl)]

/-- The path of a file is resolved as the root and then the names below it. -/
theorem resolveFrom_filePath (t : Tree) (links : Nat) (place : Place) {root : String}
    {names : List String} (hroot : root ≠ "") (h : ∀ name ∈ names, IsComponent name) :
    t.resolveFrom links place (namesOf (filePath root names)) =
      t.resolveFrom links place (namesOf root ++ names) := by
  cases names with
  | nil =>
    rw [List.append_nil]
    rfl
  | cons name names =>
    rcases namesOf_filePath hroot (by simp) h with heq | ⟨before, hbefore, heq⟩
    · rw [heq]
    · rw [heq, hbefore, List.append_assoc, List.singleton_append, resolveFrom_skip]

end TemplateServer.Files.Tree
