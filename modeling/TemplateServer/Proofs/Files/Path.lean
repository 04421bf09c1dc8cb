import TemplateServer.Discover
import TemplateServer.Proofs.Identity

/-!
# Paths below a root

A walk builds the path of a file name by name (`filePath`), and an identity is put under the root
in one step. Both are the root, a slash where it does not end in one, and the names with a slash
between each two (`filePath_eq`), so two files below a root have the same path only if they have
the same names. The relative path of an identity starts with a name, so the root is never left out
(`Identity.fileUnder_eq_joinPath`).
-/

namespace TemplateServer

open Files

/-- A name that a file may have in its directory. -/
structure IsComponent (name : String) : Prop where
  not_empty : name ≠ ""
  not_here : name ≠ "."
  not_above : name ≠ ".."
  no_slash : '/' ∉ name.toList
  no_nul : '\x00' ∉ name.toList
  short : Utf8.length name ≤ maxNameLength

/-- The path of the names below a root, as a walk builds it. -/
def filePath (root : String) (names : List String) : String := names.foldl joinPath root

/-- What stands before the name when it is joined to a directory. -/
def joinHead (directory : String) : List Char :=
  if directory.isEmpty || directory.endsWith "/" then directory.toList
  else directory.toList ++ ['/']

theorem joinPath_toList (directory name : String) :
    (joinPath directory name).toList = joinHead directory ++ name.toList := by
  unfold joinPath joinHead
  split
  next => exact String.toList_append
  next =>
    rw [String.toList_append, String.toList_append]
    rfl

/-- Under one root different paths stay different. -/
theorem joinPath_inj {root a b : String} (h : joinPath root a = joinPath root b) : a = b := by
  have hlist : (joinPath root a).toList = (joinPath root b).toList := by rw [h]
  rw [joinPath_toList, joinPath_toList] at hlist
  exact String.toList_inj.mp (List.append_cancel_left hlist)

theorem endsWith_slash_iff (s : String) :
    s.endsWith "/" = true ↔ ∃ before, s.toList = before ++ ['/'] := by
  rw [← String.endsWith_toSlice, String.Slice.endsWith_string_iff]
  constructor
  · rintro ⟨before, h⟩
    exact ⟨before, by simpa using h.symm⟩
  · rintro ⟨before, h⟩
    exact ⟨before, by simpa using h.symm⟩

/-- A path that a name was joined to ends in that name, and not in a slash. -/
theorem joinHead_joinPath {directory name : String} (h : IsComponent name) :
    joinHead (joinPath directory name) = (joinPath directory name).toList ++ ['/'] := by
  have hne : name.toList ≠ [] := fun hnil => h.not_empty (String.toList_eq_nil_iff.mp hnil)
  have hempty : (joinPath directory name).isEmpty = false := by
    rw [String.isEmpty_eq_false_iff]
    intro hnil
    have hlist := joinPath_toList directory name
    rw [hnil] at hlist
    exact hne (List.append_eq_nil_iff.mp hlist.symm).2
  have hend : (joinPath directory name).endsWith "/" = false := by
    rw [Bool.eq_false_iff]
    intro hslash
    obtain ⟨before, hbefore⟩ := (endsWith_slash_iff _).mp hslash
    obtain ⟨init, last, hlast⟩ := (List.eq_nil_or_concat name.toList).resolve_left hne
    rw [List.concat_eq_append] at hlast
    rw [joinPath_toList, hlast, ← List.append_assoc] at hbefore
    have hslash' : [last] = ['/'] := (List.append_inj' hbefore rfl).2
    rw [List.singleton_inj.mp hslash'] at hlast
    apply h.no_slash
    rw [hlast]
    exact List.mem_append_right _ List.mem_cons_self
  unfold joinHead
  rw [hempty, hend]
  rfl

/-- A relative path starts with the first character of a name, which is no slash. -/
theorem Identity.relative_startsWith_slash (i : Identity) : i.relative.startsWith "/" = false := by
  rw [Bool.eq_false_iff]
  intro hstarts
  rw [String.startsWith_string_iff, Identity.relative_toList] at hstarts
  obtain ⟨rest, hrest⟩ := hstarts
  obtain ⟨names, hne⟩ := i
  cases names with
  | nil => exact hne rfl
  | cons name names =>
    obtain ⟨first, hfirst⟩ := Text.joinWith_cons_prefix '/' name.val (names.map (·.val))
    obtain ⟨c, cs, hname⟩ := List.exists_cons_of_ne_nil name.property.1
    rw [List.map_cons, ← hfirst, hname] at hrest
    have hmem : c ∈ name.val := hname ▸ List.mem_cons_self
    have hsep : isSeparator c = false := Identity.not_isSeparator hmem
    have hslash : c = '/' := (List.cons.inj hrest).1.symm
    rw [hslash, isSeparator_slash] at hsep
    cases hsep

/-- A source is put under the root, whatever the root. -/
theorem Identity.fileUnder_eq_joinPath (root : String) (i : Identity) :
    i.fileUnder root = joinPath root i.relative := by
  unfold Identity.fileUnder Files.join
  rw [i.relative_startsWith_slash]
  rfl

theorem relativePath_toList (names : List String) :
    (relativePath names).toList = Text.joinWith '/' (names.map String.toList) := by
  unfold relativePath
  exact String.toList_ofList

/-- A walk that goes down by names builds the path of the names under the root. -/
theorem filePath_eq {root : String} {names : List String} (hne : names ≠ [])
    (h : ∀ name ∈ names, IsComponent name) :
    filePath root names = joinPath root (relativePath names) := by
  -- the walk takes the first name to the root, so the root changes along the induction
  induction names generalizing root with
  | nil => exact absurd rfl hne
  | cons name names ih =>
    cases names with
    | nil =>
      show joinPath root name = joinPath root (String.ofList name.toList)
      rw [String.ofList_toList]
    | cons next names =>
      have hname := h name List.mem_cons_self
      show filePath (joinPath root name) (next :: names) = _
      rw [ih (by simp) fun n hn => h n (List.mem_cons_of_mem _ hn)]
      apply String.toList_inj.mp
      rw [joinPath_toList, joinHead_joinPath hname, joinPath_toList, joinPath_toList,
        relativePath_toList, relativePath_toList]
      show _ = joinHead root ++ (name.toList ++ '/' :: Text.joinWith '/' (_ :: _))
      simp

theorem map_ofList_toList (names : List String) :
    (names.map String.toList).map String.ofList = names := by
  rw [List.map_map]
  exact (List.map_congr_left fun name _ => String.ofList_toList).trans (List.map_id names)

/-- The pieces of a relative path are its names. -/
theorem pieces_relativePath {names : List String} (hne : names ≠ [])
    (h : ∀ name ∈ names, IsComponent name) :
    Text.pieces (· == '/') (relativePath names).toList = names.map String.toList := by
  rw [relativePath_toList]
  refine Text.pieces_joinWith (by simpa using hne) rfl ?_
  intro cs hcs c hc
  obtain ⟨name, hname, rfl⟩ := List.mem_map.mp hcs
  exact beq_eq_false_iff_ne.mpr fun heq => (h name hname).no_slash (heq ▸ hc)

/-- Files with the same relative path have the same names. -/
theorem relativePath_inj {names names' : List String} (hne : names ≠ []) (hne' : names' ≠ [])
    (h : ∀ name ∈ names, IsComponent name) (h' : ∀ name ∈ names', IsComponent name)
    (heq : relativePath names = relativePath names') : names = names' := by
  have hmap : names.map String.toList = names'.map String.toList := by
    rw [← pieces_relativePath hne h, heq, pieces_relativePath hne' h']
  rw [← map_ofList_toList names, hmap, map_ofList_toList]

/-- Before a name stands the root with a slash, which is its own last character or is added. -/
theorem joinHead_cases {root : String} (hroot : root ≠ "") :
    joinHead root = root.toList ++ ['/'] ∨
      ∃ before, root.toList = before ++ ['/'] ∧ joinHead root = before ++ ['/'] := by
  unfold joinHead
  rw [String.isEmpty_eq_false_iff.mpr hroot, Bool.false_or]
  split
  next hend =>
    obtain ⟨before, hbefore⟩ := (endsWith_slash_iff root).mp hend
    exact .inr ⟨before, hbefore, hbefore⟩
  next => exact .inl rfl

/-- The names in the path of a file: those in the root, but for an empty one after its last slash,
and those below it. -/
theorem namesOf_filePath {root : String} {names : List String} (hroot : root ≠ "")
    (hne : names ≠ [])
    (h : ∀ name ∈ names, IsComponent name) :
    namesOf (filePath root names) = namesOf root ++ names ∨
      ∃ before, namesOf root = before ++ [""] ∧
        namesOf (filePath root names) = before ++ names := by
  rw [filePath_eq hne h]
  unfold namesOf
  rw [joinPath_toList]
  have hsplit (before : List Char) :
      (Text.pieces (· == '/') (before ++ ['/'] ++ (relativePath names).toList)).map String.ofList =
        (Text.pieces (· == '/') before).map String.ofList ++ names := by
    rw [List.append_assoc, List.singleton_append, Text.pieces_append _ _ (by rfl),
      pieces_relativePath hne h, List.map_append, map_ofList_toList]
  rcases joinHead_cases hroot with hhead | ⟨before, hbefore, hhead⟩
  · rw [hhead, hsplit]
    exact .inl rfl
  · -- the last slash of the root is the one before the first name
    rw [hhead, hsplit, hbefore]
    refine .inr ⟨_, ?_, rfl⟩
    rw [Text.pieces_append _ _ (by rfl), List.map_append]
    rfl

end TemplateServer
