import TemplateServer.Proofs.Files.Tree
import TemplateServer.Proofs.Text.Utf8

/-!
# What is written is read

A text that is written through a path is read through the same path (`readText_writeText`). To write
follows the names of a path as to read does, but for the last name, which may be missing; `LeadsTo`
has one constructor for each way on. Neither a directory nor a link stands at the place where the
names lead to (`LeadsTo.takesFile`), so none of those on the way is replaced by the file, and the
names lead to the same place afterwards.
-/

namespace TemplateServer.Files.Tree

/-- A file can be put at the place: there is one, or nothing. -/
def TakesFile (t : Tree) (place : Place) : Prop :=
  place ≠ [] ∧
    (t.node? place = none ∨ ∃ content modified, t.node? place = some (.file content modified))

/-- A node at a place is looked up under a name. -/
structure Looked (t : Tree) (place : Place) (name : String) : Prop where
  directory : t.isDirectory place = true
  down : LeadsDown name
  short : ¬ maxNameLength < Utf8.length name

/-- The names lead from a place to a place for a file. -/
inductive LeadsTo (t : Tree) : Nat → Place → List String → Place → Prop
  | idle {links : Nat} {place target : Place} {name : String} {names : List String} :
      t.isDirectory place = true → name = "" ∨ name = "." →
      LeadsTo t links place names target → LeadsTo t links place (name :: names) target
  | up {links : Nat} {place target : Place} {names : List String} : t.isDirectory place = true →
      LeadsTo t links place.dropLast names target → LeadsTo t links place (".." :: names) target
  | link {links : Nat} {place target : Place} {name link : String} {names : List String} :
      t.Looked place name → t.node? (place ++ [name]) = some (.link link) →
      LeadsTo t links (if link.startsWith "/" then [] else place) (namesOf link ++ names) target →
      LeadsTo t (links + 1) place (name :: names) target
  | down {links : Nat} {place target : Place} {name : String} {names : List String} :
      t.Looked place name → t.isDirectory (place ++ [name]) = true →
      LeadsTo t links (place ++ [name]) names target → LeadsTo t links place (name :: names) target
  | last {links : Nat} {place : Place} {name : String} :
      t.Looked place name → t.TakesFile (place ++ [name]) →
      LeadsTo t links place [name] (place ++ [name])

variable {t t' : Tree} {links : Nat} {place target other : Place} {name path text : String}
  {names : List String} {content : List UInt8}

/-! ## Where the names lead to -/

theorem fileFrom_notDirectory (h : t.isDirectory place = false) :
    t.fileFrom links place (name :: names) = .error .notDirectory := by
  rw [fileFrom, h]
  rfl

/-- A name that not only slashes follow is looked up. -/
theorem fileFrom_looked (hlooked : t.Looked place name)
    (hslash : ¬ (names ≠ [] ∧ ∀ other ∈ names, other = "")) :
    t.fileFrom links place (name :: names) =
      match t.node? (place ++ [name]) with
      | none => if names = [] then .ok (place ++ [name]) else .error .missing
      | some (.link link) =>
        match links with
        | 0 => .error .tooManyLinks
        | links + 1 =>
          t.fileFrom links (if link.startsWith "/" then [] else place) (namesOf link ++ names)
      | some (.file ..) =>
        if names = [] then .ok (place ++ [name]) else t.fileFrom links (place ++ [name]) names
      | some (.directory _) => t.fileFrom links (place ++ [name]) names := by
  obtain ⟨hdir, ⟨hidle, hup⟩, hshort⟩ := hlooked
  rewrite [fileFrom, if_neg (by simpa using hdir), if_neg hidle, if_neg hup, if_neg hslash,
    if_neg hshort]
  cases hnode : t.node? (place ++ [name]) with
  | none => rfl
  | some node =>
    cases node with
    | file => rfl
    | directory => rfl
    | link => cases links <;> rfl

theorem leadsTo_of_fileFrom (h : t.fileFrom links place names = .ok target) :
    t.LeadsTo links place names target := by
  -- by the recursion of `fileFrom`: a case refuses, or it is one of the ways on
  induction links, place, names using fileFrom.induct t with
  | case1 links place =>
    rw [fileFrom] at h
    cases h
  | case2 links place name names hdir =>
    rw [fileFrom_notDirectory (by simpa using hdir)] at h
    cases h
  | case3 links place name names hdir hidle ih =>
    rw [fileFrom, if_neg hdir, if_pos hidle] at h
    exact .idle (by simpa using hdir) hidle (ih h)
  | case4 links place names hdir hidle ih =>
    rw [fileFrom, if_neg hdir, if_neg hidle, if_pos rfl] at h
    exact .up (by simpa using hdir) (ih h)
  | case5 links place name names hdir hidle hup hslash =>
    rw [fileFrom, if_neg hdir, if_neg hidle, if_neg hup, if_pos hslash] at h
    cases h
  | case6 links place name names hdir hidle hup hslash hlong =>
    rw [fileFrom, if_neg hdir, if_neg hidle, if_neg hup, if_neg hslash, if_pos hlong] at h
    cases h
  | case7 links place name hdir hidle hup hshort hnode hslash =>
    -- a name that is not there is where the file is put
    have hlooked : t.Looked place name := ⟨by simpa using hdir, ⟨hidle, hup⟩, hshort⟩
    rw [fileFrom_looked hlooked hslash, hnode] at h
    obtain rfl : place ++ [name] = target := by simpa using h
    exact .last hlooked ⟨by simp, .inl hnode⟩
  | case8 links place name names hdir hidle hup hslash hshort hnode hmore =>
    -- a slash behind a name that is not there
    have hlooked : t.Looked place name := ⟨by simpa using hdir, ⟨hidle, hup⟩, hshort⟩
    rw [fileFrom_looked hlooked hslash, hnode] at h
    simp [hmore] at h
  | case9 place name names hdir hidle hup hslash hshort link hnode =>
    -- one link too many
    have hlooked : t.Looked place name := ⟨by simpa using hdir, ⟨hidle, hup⟩, hshort⟩
    rw [fileFrom_looked hlooked hslash, hnode] at h
    cases h
  | case10 place name names hdir hidle hup hslash hshort link hnode links ih =>
    have hlooked : t.Looked place name := ⟨by simpa using hdir, ⟨hidle, hup⟩, hshort⟩
    rw [fileFrom_looked hlooked hslash, hnode] at h
    have hlink := ih (by simpa using h)
    exact .link hlooked hnode (by simpa using hlink)
  | case11 links place name hdir hidle hup hshort content modified hnode hslash =>
    -- a file that is there is written over
    have hlooked : t.Looked place name := ⟨by simpa using hdir, ⟨hidle, hup⟩, hshort⟩
    rw [fileFrom_looked hlooked hslash, hnode] at h
    obtain rfl : place ++ [name] = target := by simpa using h
    exact .last hlooked ⟨by simp, .inr ⟨_, _, hnode⟩⟩
  | case12 links place name names hdir hidle hup hslash hshort content modified hnode hmore =>
    -- nothing lies below a file
    have hlooked : t.Looked place name := ⟨by simpa using hdir, ⟨hidle, hup⟩, hshort⟩
    rw [fileFrom_looked hlooked hslash, hnode] at h
    obtain ⟨next, names, rfl⟩ := List.exists_cons_of_ne_nil hmore
    have hfile : t.isDirectory (place ++ [name]) = false := by rw [isDirectory, hnode]
    simp [fileFrom_notDirectory hfile] at h
  | case13 links place name names hdir hidle hup hslash hshort modified hnode ih =>
    have hlooked : t.Looked place name := ⟨by simpa using hdir, ⟨hidle, hup⟩, hshort⟩
    rw [fileFrom_looked hlooked hslash, hnode] at h
    exact .down hlooked (isDirectory_iff.mpr ⟨_, hnode⟩) (ih h)

/-- Names that lead to a file do not end in a slash. -/
theorem LeadsTo.exists_getLast? (h : t.LeadsTo links place names target) :
    ∃ last, names.getLast? = some last ∧ last ≠ "" := by
  induction h with
  | idle _ _ _ ih | up _ _ ih | down _ _ _ ih =>
    obtain ⟨last, hlast, hne⟩ := ih
    exact ⟨last, by rw [List.getLast?_cons, hlast]; rfl, hne⟩
  | @link links place target name link names hlooked _ _ ih =>
    obtain ⟨last, hlast, hne⟩ := ih
    -- the names of the link are followed by those that are left
    cases names with
    | nil => exact ⟨name, rfl, fun h => hlooked.down.1 (.inl h)⟩
    | cons next names =>
      refine ⟨last, ?_, hne⟩
      rw [List.getLast?_append, List.getLast?_cons, Option.some_or] at hlast
      rw [List.getLast?_cons, List.getLast?_cons, Option.getD_some, hlast]
  | last hlooked _ => exact ⟨_, rfl, fun h => hlooked.down.1 (.inl h)⟩

/-- Not only slashes follow where names go on. -/
theorem LeadsTo.not_slashes (front : List String)
    (h : t.LeadsTo links place (front ++ names) target) :
    ¬ (names ≠ [] ∧ ∀ other ∈ names, other = "") := by
  rintro ⟨hmore, hslash⟩
  obtain ⟨last, hlast, hne⟩ := h.exists_getLast?
  rw [List.getLast?_append, List.getLast?_eq_some_getLast hmore, Option.some_or] at hlast
  obtain rfl := Option.some.inj hlast
  exact hne (hslash _ (List.getLast_mem hmore))

/-- `LeadsTo` says where a file is put. -/
theorem fileFrom_eq_ok_iff :
    t.fileFrom links place names = .ok target ↔ t.LeadsTo links place names target := by
  refine ⟨leadsTo_of_fileFrom, fun h => ?_⟩
  induction h with
  | idle hdir hidle _ ih =>
    rw [fileFrom, if_neg (by simpa using hdir), if_pos hidle]
    exact ih
  | up hdir _ ih =>
    rw [fileFrom, if_neg (by simpa using hdir), if_neg (by decide), if_pos rfl]
    exact ih
  | link hlooked hnode hleads ih =>
    rw [fileFrom_looked hlooked (LeadsTo.not_slashes _ hleads), hnode]
    exact ih
  | down hlooked hdir hleads ih =>
    obtain ⟨modified, hnode⟩ := isDirectory_iff.mp hdir
    rw [fileFrom_looked hlooked (LeadsTo.not_slashes [] hleads), hnode]
    exact ih
  | last hlooked htakes =>
    rw [fileFrom_looked hlooked (by simp)]
    obtain ⟨-, hnode | ⟨_, _, hnode⟩⟩ := htakes
    · rw [hnode]
      rfl
    · rw [hnode]
      rfl

theorem LeadsTo.takesFile (h : t.LeadsTo links place names target) : t.TakesFile target := by
  induction h with
  | idle _ _ _ ih => exact ih
  | up _ _ ih => exact ih
  | link _ _ _ ih => exact ih
  | down _ _ _ ih => exact ih
  | last _ htakes => exact htakes

/-! ## The file that is put there -/

theorem node?_putFile_self (h : place ≠ []) :
    (t.putFile place content).node? place = some (.file content 0) := by
  have hnone : (t.nodes.filter (fun n => n.1 ≠ place)).lookup place = none := by
    rw [List.lookup_eq_none_iff]
    intro n hn
    exact bne_iff_ne.mpr (Ne.symm (by simpa using (List.mem_filter.mp hn).2))
  unfold node? putFile
  rw [if_neg (by simpa using h), List.lookup_append, hnone]
  simp

theorem lookup_filter_of_ne (h : other ≠ place) (nodes : List (Place × Node)) :
    (nodes.filter (fun n => n.1 ≠ place)).lookup other = nodes.lookup other := by
  induction nodes with
  | nil => rfl
  | cons n nodes ih =>
    by_cases hn : n.1 = place
    · have hother : (other == n.1) = false := by simpa [hn] using h
      rw [List.filter_cons_of_neg (by simpa using hn), ih, List.lookup_cons, hother]
    · rw [List.filter_cons_of_pos (by simpa using hn), List.lookup_cons, List.lookup_cons, ih]

theorem node?_putFile_of_ne (h : other ≠ place) :
    (t.putFile place content).node? other = t.node? other := by
  have hlast : [(place, Node.file content 0)].lookup other = none := by
    rw [List.lookup_eq_none_iff]
    simpa using h
  unfold node? putFile
  rw [List.lookup_append, lookup_filter_of_ne h, hlast, Option.or_none]

/-- What is no file stays where it is. -/
theorem TakesFile.node?_putFile {node : Node} (h : t.TakesFile place)
    (hnode : t.node? other = some node)
    (hother : ∀ content modified, node ≠ .file content modified) :
    (t.putFile place content).node? other = some node := by
  have hne : other ≠ place := by
    rintro rfl
    obtain ⟨-, hfree | ⟨_, _, hfile⟩⟩ := h
    · rw [hnode] at hfree
      cases hfree
    · rw [hnode] at hfile
      exact hother _ _ (Option.some.inj hfile)
  rw [node?_putFile_of_ne hne, hnode]

theorem TakesFile.isDirectory_putFile (h : t.TakesFile place) (hdir : t.isDirectory other = true) :
    (t.putFile place content).isDirectory other = true := by
  obtain ⟨modified, hnode⟩ := isDirectory_iff.mp hdir
  exact isDirectory_iff.mpr ⟨modified, h.node?_putFile hnode fun _ _ h => by cases h⟩

/-- The names lead to the file that was put where they lead to. -/
theorem LeadsTo.resolveFrom_putFile (h : t.LeadsTo links place names target) :
    (t.putFile target content).resolveFrom links place names = .ok target := by
  have htakes := h.takesFile
  induction h with
  | idle hdir hidle _ ih =>
    rw [resolveFrom_idle (htakes.isDirectory_putFile hdir) hidle]
    exact ih htakes
  | up hdir _ ih =>
    rw [resolveFrom_up (htakes.isDirectory_putFile hdir)]
    exact ih htakes
  | link hlooked hnode _ ih =>
    rw [resolveFrom_down (htakes.isDirectory_putFile hlooked.directory) hlooked.down,
      if_neg hlooked.short, htakes.node?_putFile hnode fun _ _ h => by cases h]
    exact ih htakes
  | down hlooked hdir _ ih =>
    obtain ⟨modified, hnode⟩ := isDirectory_iff.mp hdir
    rw [resolveFrom_down (htakes.isDirectory_putFile hlooked.directory) hlooked.down,
      if_neg hlooked.short, htakes.node?_putFile hnode fun _ _ h => by cases h]
    exact ih htakes
  | last hlooked _ =>
    rw [resolveFrom_down (htakes.isDirectory_putFile hlooked.directory) hlooked.down,
      if_neg hlooked.short, node?_putFile_self htakes.1]
    exact resolveFrom_nil

/-! ## Texts -/

/-- **What is written is read.** -/
theorem readText_writeText (h : t.writeText path text = .ok t') : t'.readText path = .ok text := by
  unfold writeText at h
  split at h
  next => cases h
  next hflaw =>
    split at h
    next target htarget =>
      cases h
      have hleads := leadsTo_of_fileFrom htarget
      have hresolve : (t.putFile target text.toUTF8.toList).resolve path = .ok target := by
        unfold resolve
        rw [hflaw]
        exact hleads.resolveFrom_putFile
      have hdecode : Utf8.decode? text.toUTF8.toList = some text.toList :=
        Utf8.decode?_eq_some_iff.mpr (Utf8.toList_toUTF8 text)
      simp only [readText, follow, hresolve, bind, Except.bind,
        node?_putFile_self hleads.takesFile.1, hdecode, String.ofList_toList]
    next => cases h

/-- Whether a path can be written does not depend on the text. -/
theorem writeText_cases (path : String) (t : Tree) :
    (∃ refusal, ∀ text, t.writeText path text = .error refusal) ∨
      ∀ text, ∃ t', t.writeText path text = .ok t' := by
  unfold writeText
  split
  next refusal _ => exact .inl ⟨refusal, fun _ => rfl⟩
  next =>
    split
    next => exact .inr fun text => ⟨_, rfl⟩
    next refusal _ => exact .inl ⟨refusal, fun _ => rfl⟩

end TemplateServer.Files.Tree
