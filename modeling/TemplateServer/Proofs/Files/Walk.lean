import TemplateServer.Proofs.Files.Tree
import TemplateServer.Proofs.Traverse

/-!
# What a walk finds

A walk follows the tree downward while a path is resolved from the top, so the two have to agree
on every file: `walk_spec` says that a walk that comes to its end has listed each regular file
below the root exactly once, by the names that lead to it. `filesBelow_spec` is the induction.
What carries it is that the walk stands where the path of its names would be resolved to
(`reach`), and that a directory is opened by that path.

The bound on the depth is never reached: `filesBelow_succ` shows that a path would be too long
before.
-/

namespace TemplateServer.Files.Tree

variable {t : Tree} {root : String}

/-- Where names below a root lead, be the path as long as it may. -/
def reach (t : Tree) (root : String) (names : List String) : Except Refusal Place :=
  t.resolveFrom maxLinks (t.start root) (namesOf root ++ names)

/-- A regular file stands below the root where the names lead. -/
def IsFileAt (t : Tree) (root : String) (names : List String) : Prop :=
  (∀ name ∈ names, IsComponent name) ∧
    ∃ place content modified, t.reach root names = .ok place ∧
      t.node? place = some (.file content modified)

/-! ## Paths below a root -/

/-- What a root without flaws is like. -/
theorem flaw?_eq_none_iff {path : String} :
    flaw? path = none ↔
      path ≠ "" ∧ '\x00' ∉ path.toList ∧ Utf8.length path ≤ maxPathLength := by
  unfold flaw?
  constructor
  · intro h
    split at h
    next => cases h
    next hempty =>
      split at h
      next => cases h
      next hnul =>
        split at h
        next => cases h
        next hlong =>
          exact ⟨fun heq => hempty (String.isEmpty_iff.mpr heq), by simpa using hnul,
            Nat.le_of_not_lt hlong⟩
  · rintro ⟨hempty, hnul, hlong⟩
    rw [if_neg (fun heq => hempty (String.isEmpty_iff.mp heq)), if_neg (by simpa using hnul),
      if_neg (Nat.not_lt.mpr hlong)]

/-- A path that is resolved has no flaws. -/
theorem flaw?_of_resolve {path : String} {place : Place} (h : t.resolve path = .ok place) :
    flaw? path = none := by
  unfold resolve at h
  split at h
  next => cases h
  next hflaw => exact hflaw

/-- The path of a file begins with its root. -/
theorem filePath_toList (root : String) {names : List String}
    (h : ∀ name ∈ names, IsComponent name) :
    ∃ tail, (filePath root names).toList = root.toList ++ tail ∧
      ∀ c ∈ tail, c = '/' ∨ ∃ name ∈ names, c ∈ name.toList := by
  by_cases hne : names = []
  · rw [hne]
    exact ⟨[], (List.append_nil _).symm, fun c hc => by cases hc⟩
  · have hrel : ∀ c ∈ (relativePath names).toList, c = '/' ∨ ∃ name ∈ names, c ∈ name.toList := by
      intro c hc
      rw [relativePath_toList] at hc
      rcases Text.mem_joinWith hc with rfl | ⟨cs, hcs, hmem⟩
      · exact .inl rfl
      · obtain ⟨name, hname, rfl⟩ := List.mem_map.mp hcs
        exact .inr ⟨name, hname, hmem⟩
    rw [filePath_eq hne h, joinPath_toList]
    unfold joinHead
    split
    next => exact ⟨_, rfl, hrel⟩
    next =>
      refine ⟨'/' :: (relativePath names).toList, by simp, fun c hc => ?_⟩
      rcases List.mem_cons.mp hc with rfl | hc
      · exact .inl rfl
      · exact hrel c hc

theorem start_filePath (t : Tree) (hroot : root ≠ "") {names : List String}
    (h : ∀ name ∈ names, IsComponent name) : t.start (filePath root names) = t.start root := by
  obtain ⟨tail, htail, -⟩ := filePath_toList root h
  obtain ⟨c, cs, hcons⟩ := List.exists_cons_of_ne_nil fun hnil =>
    hroot (String.toList_eq_nil_iff.mp hnil)
  have hstarts : (filePath root names).startsWith "/" = root.startsWith "/" := by
    rw [Bool.eq_iff_iff, String.startsWith_string_iff, String.startsWith_string_iff, htail, hcons]
    simp
  unfold start
  rw [hstarts]

/-- The path of a file is resolved where its names lead, if it is not too long. -/
theorem resolve_filePath (t : Tree) (hroot : flaw? root = none) {names : List String}
    (h : ∀ name ∈ names, IsComponent name) :
    t.resolve (filePath root names) =
      if maxPathLength < Utf8.length (filePath root names) then .error .nameTooLong
      else t.reach root names := by
  obtain ⟨hempty, hnul, -⟩ := flaw?_eq_none_iff.mp hroot
  obtain ⟨tail, htail, hchars⟩ := filePath_toList root h
  have hempty' : ¬ (filePath root names).isEmpty = true := by
    intro heq
    have hlist : (filePath root names).toList = [] :=
      String.toList_eq_nil_iff.mpr (String.isEmpty_iff.mp heq)
    rw [htail] at hlist
    exact hempty (String.toList_eq_nil_iff.mp (List.append_eq_nil_iff.mp hlist).1)
  have hnul' : ¬ (filePath root names).toList.contains '\x00' = true := by
    intro heq
    rw [List.contains_iff_mem, htail] at heq
    rcases List.mem_append.mp heq with hmem | hmem
    · exact hnul hmem
    · rcases hchars _ hmem with hslash | ⟨name, hname, hmem⟩
      · cases hslash
      · exact (h name hname).no_nul hmem
  unfold resolve flaw?
  -- the path is longer than the root, so it is not empty, and only its length may be refused
  rw [if_neg hempty', if_neg hnul']
  split
  next refusal hflaw =>
    split at hflaw
    next hlong =>
      rw [if_pos hlong]
      cases hflaw
      rfl
    next => cases hflaw
  next hflaw =>
    split at hflaw
    next => cases hflaw
    next hlong =>
      rw [if_neg hlong, start_filePath t hempty h]
      exact resolveFrom_filePath t _ _ hempty h

/-- The store has a file where a path leads to one. -/
theorem hasFile_iff {path : String} :
    t.hasFile path = true ↔ ∃ place content modified, t.resolve path = .ok place ∧
      t.node? place = some (.file content modified) := by
  unfold hasFile follow
  cases hresolve : t.resolve path with
  | error refusal =>
    constructor
    · intro hfile
      cases hfile
    · rintro ⟨place, content, modified, hplace, -⟩
      cases hplace
  | ok place =>
    dsimp only [bind, Except.bind]
    constructor
    · intro hfile
      cases hnode : t.node? place with
      | none => rw [hnode] at hfile; cases hfile
      | some node =>
        cases node with
        | file content modified => exact ⟨place, content, modified, rfl, hnode⟩
        | directory modified => rw [hnode] at hfile; cases hfile
        | link target => rw [hnode] at hfile; cases hfile
    · rintro ⟨place', content, modified, hplace, hnode⟩
      cases hplace
      rw [hnode]

/-- The store has a file where one stands, if the path is not too long to be followed. -/
theorem hasFile_filePath (t : Tree) (hroot : flaw? root = none) {names : List String}
    (h : ∀ name ∈ names, IsComponent name) :
    t.hasFile (filePath root names) = true ↔
      Utf8.length (filePath root names) ≤ maxPathLength ∧ t.IsFileAt root names := by
  rw [hasFile_iff, resolve_filePath t hroot h]
  by_cases hlong : maxPathLength < Utf8.length (filePath root names)
  · rw [if_pos hlong]
    constructor
    · rintro ⟨place, content, modified, hplace, -⟩
      cases hplace
    · rintro ⟨hle, -⟩
      exact absurd hle (Nat.not_le.mpr hlong)
  · rw [if_neg hlong]
    constructor
    · intro hfile
      exact ⟨Nat.le_of_not_lt hlong, h, hfile⟩
    · rintro ⟨-, -, hfile⟩
      exact hfile

/-! ## Going down -/

/-- From a directory a component is looked up in it. -/
theorem reach_down {names : List String} {place : Place} {name : String}
    (hreach : t.reach root names = .ok place) (hdir : t.isDirectory place = true)
    (h : IsComponent name) :
    ∃ links, ∀ rest, t.reach root (names ++ name :: rest) =
      match t.node? (place ++ [name]) with
      | none => .error .missing
      | some (.link target) =>
        match links with
        | 0 => .error .tooManyLinks
        | links + 1 =>
          t.resolveFrom links (if target.startsWith "/" then [] else place)
            (namesOf target ++ rest)
      | some _ => t.resolveFrom links (place ++ [name]) rest := by
  unfold reach at hreach ⊢
  rcases t.resolveFrom_append maxLinks (t.start root) (namesOf root ++ names)
    with ⟨refusal, herr, -⟩ | ⟨place', links, hok, hrest⟩
  · rw [hreach] at herr
    cases herr
  · rw [hreach] at hok
    cases hok
    refine ⟨links, fun rest => ?_⟩
    rewrite [← List.append_assoc, hrest, resolveFrom_down hdir
      ⟨not_or.mpr ⟨h.not_empty, h.not_here⟩, h.not_above⟩, if_neg (Nat.not_lt.mpr h.short)]
    rfl

/-- The names of a node that is no link lead to its place. -/
theorem reach_of_stands {names : List String} {place : Place} {name : String}
    (hreach : t.reach root names = .ok place) (hdir : t.isDirectory place = true)
    (h : IsComponent name) (hstands : t.Stands (place ++ [name])) :
    t.reach root (names ++ [name]) = .ok (place ++ [name]) := by
  obtain ⟨links, hdown⟩ := reach_down hreach hdir h
  rw [hdown]
  rcases hstands with ⟨content, modified, hnode⟩ | hdir'
  · rw [hnode]
    exact resolveFrom_nil
  · obtain ⟨modified, hnode⟩ := isDirectory_iff.mp hdir'
    rw [hnode]
    exact resolveFrom_nil

/-- Where names lead on from a directory, something stands under the first of them. -/
theorem isSome_of_reach {names rest : List String} {place place' : Place} {name : String}
    (hreach : t.reach root names = .ok place) (hdir : t.isDirectory place = true)
    (h : IsComponent name) (hrest : t.reach root (names ++ name :: rest) = .ok place') :
    (t.node? (place ++ [name])).isSome = true := by
  obtain ⟨links, hdown⟩ := reach_down hreach hdir h
  rw [hdown] at hrest
  cases hnode : t.node? (place ++ [name]) with
  | none => rw [hnode] at hrest; cases hrest
  | some node => rfl

/-- No names lead on from a file. -/
theorem eq_nil_of_reach {names rest : List String} {place place' : Place}
    (hreach : t.reach root names = .ok place) (hfile : t.isDirectory place = false)
    (hrest : t.reach root (names ++ rest) = .ok place') : rest = [] := by
  cases rest with
  | nil => rfl
  | cons name rest =>
    unfold reach at hreach hrest
    rcases t.resolveFrom_append maxLinks (t.start root) (namesOf root ++ names)
      with ⟨refusal, herr, -⟩ | ⟨place', links, hok, happend⟩
    · rw [hreach] at herr
      cases herr
    · rw [hreach] at hok
      cases hok
      rw [← List.append_assoc, happend, resolveFrom_notDirectory hfile] at hrest
      cases hrest

theorem not_isDirectory_of_file {place : Place} {content : List UInt8} {modified : Nat}
    (h : t.node? place = some (.file content modified)) : t.isDirectory place = false := by
  unfold isDirectory
  rw [h]

/-- Below names that lead to a file there is this file only. -/
theorem isFileAt_of_file {names : List String} {place : Place} {content : List UInt8}
    {modified : Nat} (hnames : ∀ name ∈ names, IsComponent name)
    (hreach : t.reach root names = .ok place)
    (hnode : t.node? place = some (.file content modified)) (file : List String) :
    file = names ↔ ∃ rest, file = names ++ rest ∧ t.IsFileAt root file := by
  constructor
  · rintro rfl
    exact ⟨[], (List.append_nil _).symm, hnames, place, content, modified, hreach, hnode⟩
  · rintro ⟨rest, rfl, -, place', _, _, hplace', -⟩
    rw [eq_nil_of_reach hreach (not_isDirectory_of_file hnode) hplace', List.append_nil]

/-- The files below a directory are those below the names in it. -/
theorem isFileAt_of_directory (hwf : t.WellFormed) {names : List String} {place : Place}
    (hreach : t.reach root names = .ok place) (hdir : t.isDirectory place = true)
    (file : List String) :
    (∃ name ∈ t.children place, ∃ rest, file = (names ++ [name]) ++ rest ∧ t.IsFileAt root file) ↔
      ∃ rest, file = names ++ rest ∧ t.IsFileAt root file := by
  constructor
  · rintro ⟨name, -, rest, rfl, hfile⟩
    exact ⟨name :: rest, by rw [List.append_assoc, List.singleton_append], hfile⟩
  · rintro ⟨rest, rfl, hfile⟩
    obtain ⟨hnames, place', content, modified, hplace', hnode⟩ := hfile
    cases rest with
    | nil =>
      rw [List.append_nil, hreach] at hplace'
      cases hplace'
      rw [not_isDirectory_of_file hnode] at hdir
      cases hdir
    | cons name rest =>
      have hname : IsComponent name :=
        hnames name (List.mem_append_right _ List.mem_cons_self)
      refine ⟨name, hwf.mem_children.mpr (isSome_of_reach hreach hdir hname hplace'), rest, ?_,
        hnames, place', content, modified, hplace', hnode⟩
      rw [List.append_assoc, List.singleton_append]

/-- Names lead to a node that is no link. -/
theorem reach_stands (hwf : t.WellFormed) {names : List String} {place : Place}
    (h : t.reach root names = .ok place) : t.Stands place := by
  refine hwf.resolveFrom_stands (.inr ?_) h
  unfold start
  split
  next => exact isDirectory_top
  next => exact hwf.here

/-! ## Below a directory -/

/-- What is found in a directory is what is found under each of the names in it. -/
def foundInside (t : Tree) (depth : Nat) (above : List (Place × String)) (path : String)
    (names : List String) (place : Place) : Except WalkError (List (List String)) := do
  let found ← (t.children place).mapM fun name =>
    t.filesBelow depth ((place, path) :: above) (joinPath path name) (names ++ [name])
      (place ++ [name])
  return found.flatten

/-- The ways in which a walk comes to its end at a place. -/
inductive Walked (t : Tree) (depth : Nat) (above : List (Place × String)) (path : String)
    (names : List String) (place : Place) : List (List String) → Prop
  /-- A file stands there. -/
  | file {content : List UInt8} {modified : Nat}
      (hnode : t.node? place = some (.file content modified)) :
      Walked t depth above path names place [names]
  /-- A directory stands there, and could be opened. -/
  | directory {modified : Nat} {dir : Place} {found : List (List String)}
      (hnode : t.node? place = some (.directory modified)) (hresolve : t.resolve path = .ok dir)
      (hinside : t.foundInside depth above path names dir = .ok found) :
      Walked t depth above path names place found
  /-- A link to something other than a directory stands there. -/
  | leaf {target : String} {dir : Place} (hnode : t.node? place = some (.link target))
      (hresolve : t.resolve path = .ok dir) (hdir : t.isDirectory dir = false) :
      Walked t depth above path names place [names]
  /-- A link to a directory stands there, and not to one above. -/
  | linked {target : String} {dir : Place} {found : List (List String)}
      (hnode : t.node? place = some (.link target)) (hresolve : t.resolve path = .ok dir)
      (hdir : t.isDirectory dir = true)
      (hinside : t.foundInside depth above path names dir = .ok found) :
      Walked t depth above path names place found

section

variable {depth : Nat} {above : List (Place × String)} {path : String} {names : List String}
  {place dir : Place} {found : List (List String)}

theorem filesBelow_file {content : List UInt8} {modified : Nat}
    (hnode : t.node? place = some (.file content modified)) :
    t.filesBelow (depth + 1) above path names place = .ok [names] := by
  unfold filesBelow
  rw [hnode]

theorem filesBelow_directory {modified : Nat}
    (hnode : t.node? place = some (.directory modified)) (hresolve : t.resolve path = .ok dir) :
    t.filesBelow (depth + 1) above path names place =
      t.foundInside depth above path names dir := by
  unfold filesBelow
  rw [hnode]
  dsimp only
  rw [hresolve]
  rfl

theorem filesBelow_cases (h : t.filesBelow (depth + 1) above path names place = .ok found) :
    Walked t depth above path names place found := by
  cases hnode : t.node? place with
  | none =>
    unfold filesBelow at h
    rw [hnode] at h
    cases h
  | some node =>
    cases node with
    | file content modified =>
      rw [filesBelow_file hnode] at h
      cases h
      exact .file hnode
    | directory modified =>
      -- a directory that cannot be opened ends the walk
      cases hresolve : t.resolve path with
      | error refusal =>
        unfold filesBelow at h
        rw [hnode] at h
        dsimp only at h
        rw [hresolve] at h
        cases h
      | ok dir =>
        rw [filesBelow_directory hnode hresolve] at h
        exact .directory hnode hresolve h
    | link target =>
      unfold filesBelow at h
      rw [hnode] at h
      dsimp only at h
      cases hresolve : t.resolve path with
      | error refusal => rw [hresolve] at h; cases h
      | ok dir =>
        rw [hresolve] at h
        dsimp only at h
        cases hdir : t.isDirectory dir with
        | false =>
          -- a link to something that is no directory counts as a file
          rw [hdir, if_pos (by simp)] at h
          cases h
          exact .leaf hnode hresolve hdir
        | true =>
          -- a link to a directory above would never come to an end
          rw [hdir, if_neg (by simp)] at h
          split at h
          next => cases h
          next => exact .linked hnode hresolve hdir h

theorem foundInside_ok (h : t.foundInside depth above path names dir = .ok found) :
    ∃ founds, (t.children dir).mapM (fun name =>
        t.filesBelow depth ((dir, path) :: above) (joinPath path name) (names ++ [name])
          (dir ++ [name])) = .ok founds ∧ founds.flatten = found := by
  unfold foundInside at h
  cases hfounds : (t.children dir).mapM fun name =>
      t.filesBelow depth ((dir, path) :: above) (joinPath path name) (names ++ [name])
        (dir ++ [name]) with
  | error e => rw [hfounds] at h; cases h
  | ok founds =>
    rw [hfounds] at h
    exact ⟨founds, rfl, Except.ok.inj h⟩

end

theorem filePath_concat (root : String) (names : List String) (name : String) :
    joinPath (filePath root names) name = filePath root (names ++ [name]) := by
  unfold filePath
  rw [List.foldl_append]
  rfl

/-- A path that is resolved is not too long, and leads where its names lead. -/
theorem reach_of_resolve (hroot : flaw? root = none) {names : List String} {place : Place}
    (hnames : ∀ name ∈ names, IsComponent name) (h : t.resolve (filePath root names) = .ok place) :
    t.reach root names = .ok place := by
  rw [resolve_filePath t hroot hnames] at h
  split at h
  next => cases h
  next => exact h

/-! ## The walk -/

/-- The files at and below some names, each once. -/
def Lists (t : Tree) (root : String) (names : List String) (found : List (List String)) : Prop :=
  found.Nodup ∧ ∀ file, file ∈ found ↔ ∃ rest, file = names ++ rest ∧ t.IsFileAt root file

/-- A file is all that there is at and below its names. -/
theorem lists_file {names : List String} {place : Place} {content : List UInt8} {modified : Nat}
    (hnames : ∀ name ∈ names, IsComponent name) (hreach : t.reach root names = .ok place)
    (hnode : t.node? place = some (.file content modified)) : Lists t root names [names] := by
  refine ⟨List.pairwise_singleton _ _, fun file => ?_⟩
  rw [List.mem_singleton]
  exact isFileAt_of_file hnames hreach hnode file

/-- Where the files below each name in a directory are listed, so are those below the directory. -/
theorem lists_inside (hwf : t.WellFormed) {depth : Nat} {above : List (Place × String)}
    {names : List String} {dir : Place} {found : List (List String)}
    (hreach : t.reach root names = .ok dir) (hdir : t.isDirectory dir = true)
    (hbelow : ∀ name ∈ t.children dir, ∀ found,
      t.filesBelow depth ((dir, filePath root names) :: above)
        (filePath root (names ++ [name])) (names ++ [name]) (dir ++ [name]) = .ok found →
      Lists t root (names ++ [name]) found)
    (h : t.foundInside depth above (filePath root names) names dir = .ok found) :
    Lists t root names found := by
  obtain ⟨founds, hfounds, rfl⟩ := foundInside_ok h
  simp only [filePath_concat] at hfounds
  -- below different names there are different files, so nothing is listed twice
  have hapart {name name' : String} {file : List String}
      (hname : ∃ rest, file = (names ++ [name]) ++ rest ∧ t.IsFileAt root file)
      (hname' : ∃ rest, file = (names ++ [name']) ++ rest ∧ t.IsFileAt root file) :
      name = name' := by
    obtain ⟨rest, rfl, -⟩ := hname
    obtain ⟨rest', heq, -⟩ := hname'
    rw [List.append_assoc, List.append_assoc] at heq
    exact (List.cons.inj (List.append_cancel_left heq)).1
  obtain ⟨hnodup, hmem⟩ := Traverse.flatten_of_mapM
    (P := fun name file => ∃ rest, file = (names ++ [name]) ++ rest ∧ t.IsFileAt root file)
    (hwf.children_nodup dir) hapart hbelow hfounds
  refine ⟨hnodup, fun file => ?_⟩
  rw [hmem, isFileAt_of_directory hwf hreach hdir]

/-- What a walk finds at and below a place is each file there, once. -/
theorem filesBelow_spec (hwf : t.WellFormed) (hroot : flaw? root = none) {depth : Nat}
    {above : List (Place × String)} {names : List String} {place : Place}
    {found : List (List String)} (hnames : ∀ name ∈ names, IsComponent name)
    (hplace : t.Stands place → t.reach root names = .ok place)
    (h : t.filesBelow depth above (filePath root names) names place = .ok found) :
    Lists t root names found := by
  induction depth generalizing above names place found with
  | zero => cases h
  | succ depth ih =>
    have hbelow {dir : Place} (hreach : t.reach root names = .ok dir)
        (hdir : t.isDirectory dir = true) (name : String) (hname : name ∈ t.children dir)
        (found : List (List String))
        (hfound : t.filesBelow depth ((dir, filePath root names) :: above)
          (filePath root (names ++ [name])) (names ++ [name]) (dir ++ [name]) = .ok found) :
        Lists t root (names ++ [name]) found := by
      have hcomponent := hwf.component hname
      refine ih (fun n hn => ?_) (reach_of_stands hreach hdir hcomponent) hfound
      rcases List.mem_append.mp hn with hn | hn
      · exact hnames n hn
      · rw [List.mem_singleton.mp hn]
        exact hcomponent
    cases filesBelow_cases h with
    | file hnode => exact lists_file hnames (hplace (.inl ⟨_, _, hnode⟩)) hnode
    | directory hnode hresolve hinside =>
      have hdir : t.isDirectory place = true := isDirectory_iff.mpr ⟨_, hnode⟩
      -- the directory is opened by its path, which leads back to it
      have hreach := reach_of_resolve hroot hnames hresolve
      rw [hplace (.inr hdir)] at hreach
      cases hreach
      exact lists_inside hwf (hplace (.inr hdir)) hdir (hbelow (hplace (.inr hdir)) hdir) hinside
    | leaf hnode hresolve hdir =>
      have hreach := reach_of_resolve hroot hnames hresolve
      -- no link leads to a link, so what is not a directory is a file
      rcases reach_stands hwf hreach with ⟨content, modified, hfile⟩ | hdir'
      · exact lists_file hnames hreach hfile
      · rw [hdir] at hdir'
        cases hdir'
    | linked hnode hresolve hdir hinside =>
      have hreach := reach_of_resolve hroot hnames hresolve
      exact lists_inside hwf hreach hdir (hbelow hreach hdir) hinside

/-- The root of a walk that comes to its end leads somewhere. -/
theorem resolve_of_walk {found : List (List String)} (h : t.walk root = .ok found) :
    ∃ place, t.resolve root = .ok place := by
  unfold walk at h
  cases hresolve : t.resolve root with
  | error refusal => rw [hresolve] at h; cases h
  | ok place => exact ⟨place, rfl⟩

/-- **What a walk finds.** A walk that comes to its end has found each regular file below the root,
and each of them once. -/
theorem walk_spec (hwf : t.WellFormed) {found : List (List String)} (h : t.walk root = .ok found) :
    found.Nodup ∧ ∀ file, file ∈ found ↔ t.IsFileAt root file := by
  obtain ⟨place, hresolve⟩ := resolve_of_walk h
  unfold walk at h
  rw [hresolve] at h
  have hroot : flaw? root = none := flaw?_of_resolve hresolve
  have hnames : ∀ name ∈ ([] : List String), IsComponent name := fun name hname => by cases hname
  have hreach : t.reach root [] = .ok place := reach_of_resolve hroot hnames hresolve
  obtain ⟨hnodup, hmem⟩ := filesBelow_spec hwf hroot hnames (fun _ => hreach) h
  refine ⟨hnodup, fun file => ?_⟩
  rw [hmem]
  -- the root adds no names
  constructor
  · rintro ⟨rest, -, hfile⟩
    exact hfile
  · intro hfile
    exact ⟨file, rfl, hfile⟩

/-! ## The bound on the depth -/

theorem length_lt_joinPath (path : String) {name : String} (h : IsComponent name) :
    Utf8.length path < Utf8.length (joinPath path name) := by
  have hname : 0 < name.utf8ByteSize := by
    apply Nat.pos_of_ne_zero
    intro hzero
    exact h.not_empty (String.utf8ByteSize_eq_zero_iff.mp hzero)
  unfold joinPath Utf8.length
  split
  next =>
    rw [String.utf8ByteSize_append]
    omega
  next =>
    rw [String.utf8ByteSize_append, String.utf8ByteSize_append]
    omega

/-- Walking one directory deeper changes nothing, since the path of any directory that deep is too
long. -/
theorem filesBelow_succ (hwf : t.WellFormed) {depth : Nat} {above : List (Place × String)}
    {path : String} {names : List String} {place : Place}
    (h : maxPathLength < Utf8.length path + depth) :
    t.filesBelow (depth + 1) above path names place =
      t.filesBelow (depth + 2) above path names place := by
  induction depth generalizing above path names place with
  | zero =>
    -- the path is too long itself, so that nothing below it is looked at
    have hlong (dir : Place) : t.resolve path ≠ .ok dir := by
      intro hresolve
      have hle := (flaw?_eq_none_iff.mp (flaw?_of_resolve hresolve)).2.2
      omega
    unfold filesBelow
    dsimp only
    cases t.node? place with
    | none => rfl
    | some node =>
      cases hresolve : t.resolve path with
      | error refusal => cases node <;> rfl
      | ok dir => exact (hlong dir hresolve).elim
  | succ depth ih =>
    have hbelow (dir : Place) (name : String) (hname : name ∈ t.children dir) :
        t.filesBelow (depth + 1) ((dir, path) :: above) (joinPath path name) (names ++ [name])
            (dir ++ [name]) =
          t.filesBelow (depth + 2) ((dir, path) :: above) (joinPath path name) (names ++ [name])
            (dir ++ [name]) := by
      have hlonger := length_lt_joinPath path (hwf.component hname)
      exact ih (by omega)
    rw [filesBelow, filesBelow]
    simp only [Traverse.mapM_congr_of_mem (hbelow _)]

/-- No walk is cut short: with any greater bound on the depth it would end the same way. -/
theorem walk_eq (hwf : t.WellFormed) {depth : Nat} (hdepth : maxPathLength < depth)
    {place : Place} (h : t.resolve root = .ok place) :
    t.walk root = t.filesBelow depth [] root [] place := by
  have hempty := (flaw?_eq_none_iff.mp (flaw?_of_resolve h)).1
  have hlength : 0 < Utf8.length root :=
    Nat.pos_of_ne_zero fun hzero => hempty (String.utf8ByteSize_eq_zero_iff.mp hzero)
  obtain ⟨more, rfl⟩ := Nat.exists_eq_add_of_le hdepth
  unfold walk
  rw [h]
  dsimp only
  induction more with
  | zero => rfl
  | succ more ih =>
    rw [ih (by omega), show maxPathLength + 1 + more = (maxPathLength + more) + 1 by omega,
      filesBelow_succ hwf (by omega)]
    congr 1
    omega

end TemplateServer.Files.Tree
