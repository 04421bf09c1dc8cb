import TemplateServer.Proofs.Files.Path
import TemplateServer.Resolve

/-!
# Requests stay under the document root

The parts of a path are what it starts from and the names that lead on from there; a path leads to
another place than a second one only if the parts differ. Under any root the parts of the file of a
source are those of the root and then the names of its identity (`partsOf_fileUnder`). A request
cannot bring any other name into them: what it names is made of pieces of its own path
(`Identity.sublist_of_parse`), and a piece that would lead up, or nowhere, is none of them.

`resolve_confined` puts this together for every request that resolves, whichever of its parts named
the template.
-/

namespace TemplateServer

/-! ## The parts of a path -/

namespace Files

/-- What a path starts from, and the names that lead on from there, without those that lead
nowhere. -/
def partsOf (path : List Char) : List Char × List (List Char) :=
  ((splitHead path).1,
    (Text.pieces (· == '/') (splitHead path).2).filter fun name => !isIdle name)

/-- What follows a slash does not change what a path starts from. -/
theorem splitHead_append {path : List Char} (hne : path ≠ []) (rest : List Char) :
    splitHead (path ++ '/' :: rest) =
      ((splitHead path).1, (splitHead path).2 ++ '/' :: rest) := by
  obtain ⟨c, cs, rfl⟩ := List.exists_cons_of_ne_nil hne
  by_cases hslash : c = '/'
  · rw [hslash]
    rfl
  · by_cases hdot : c = '.'
    · rw [hdot]
      -- a dot stands alone only if nothing or a slash follows it
      cases cs with
      | nil => rfl
      | cons d ds =>
        by_cases hd : d = '/'
        · rw [hd]
          rfl
        · simp [splitHead, hd]
    · simp [splitHead, hslash, hdot]

/-- A path that starts with a name starts from nowhere else. -/
theorem splitHead_joinWith {names : List (List Char)} (h : ∀ name ∈ names, IsName name) :
    splitHead (Text.joinWith '/' names) = ([], Text.joinWith '/' names) := by
  cases names with
  | nil => rfl
  | cons name names =>
    obtain ⟨hempty, hdot, -, hsep⟩ := h name List.mem_cons_self
    obtain ⟨c, cs, rfl⟩ := List.exists_cons_of_ne_nil hempty
    have hno {d : Char} (hd : d ∈ c :: cs) : d ≠ '/' := by
      rintro rfl
      have hfalse := hsep '/' hd
      cases hfalse
    have hc : c ≠ '/' := hno List.mem_cons_self
    cases cs with
    | nil =>
      have hc' : c ≠ '.' := fun heq => hdot (by rw [heq])
      cases names <;> simp [Text.joinWith, splitHead, hc, hc']
    | cons d ds =>
      have hd : d ≠ '/' := hno (List.mem_cons_of_mem _ List.mem_cons_self)
      cases names <;> simp [Text.joinWith, splitHead, hc, hd]

/-- Names that are joined are taken apart into the same names, and all of them lead on. -/
theorem filter_pieces_joinWith {names : List (List Char)} (hne : names ≠ [])
    (h : ∀ name ∈ names, IsName name) :
    (Text.pieces (· == '/') (Text.joinWith '/' names)).filter (fun name => !isIdle name) =
      names := by
  rw [Text.pieces_joinWith hne (by rfl)]
  · rw [List.filter_eq_self]
    intro name hname
    obtain ⟨hempty, hdot, -, -⟩ := h name hname
    simp [isIdle, hempty, hdot]
  · intro name hname c hc
    have hsep := (h name hname).2.2.2 c hc
    exact (Bool.or_eq_false_iff.mp hsep).1

/-- What stands after a slash adds its names to those before it. -/
theorem partsOf_append {directory : List Char} (hne : directory ≠ []) (rest : List Char) :
    partsOf (directory ++ '/' :: rest) = ((partsOf directory).1, (partsOf directory).2 ++
      (Text.pieces (· == '/') rest).filter fun name => !isIdle name) := by
  unfold partsOf
  rw [splitHead_append hne]
  dsimp only
  rw [Text.pieces_append _ _ (by rfl), List.filter_append]

/-- **Under a root.** Joined names that are put under a root add their own parts to those of the
root, and nothing else. -/
theorem partsOf_joinHead (root : String) {names : List (List Char)} (hne : names ≠ [])
    (h : ∀ name ∈ names, IsName name) :
    partsOf (joinHead root ++ Text.joinWith '/' names) =
      ((partsOf root.toList).1, (partsOf root.toList).2 ++ names) := by
  by_cases hroot : root = ""
  · rw [hroot]
    show partsOf (Text.joinWith '/' names) = ([], names)
    unfold partsOf
    rw [splitHead_joinWith h, filter_pieces_joinWith hne h]
  · have hchars : root.toList ≠ [] := fun hnil => hroot (String.toList_eq_nil_iff.mp hnil)
    rcases joinHead_cases hroot with hhead | ⟨before, hbefore, hhead⟩
    · rw [hhead, List.append_assoc, List.singleton_append, partsOf_append hchars,
        filter_pieces_joinWith hne h]
    · -- the root ends in the slash that stands before the first name
      rw [hhead, hbefore, List.append_assoc, List.singleton_append]
      by_cases hnil : before = []
      · rw [hnil]
        show (['/'], _) = (['/'], [] ++ names)
        rw [List.nil_append]
        exact congrArg _ (filter_pieces_joinWith hne h)
      · rw [partsOf_append hnil, partsOf_append hnil, filter_pieces_joinWith hne h]
        show (_, _) = (_, _ ++ [] ++ names)
        rw [List.append_nil]

end Files

open Files

/-! ## The names of an identity -/

namespace Identity

/-- The file of a source: the root, a slash if the root does not end in one, and the names. -/
theorem fileUnder_toList (root : String) (i : Identity) :
    (i.fileUnder root).toList = joinHead root ++ Text.joinWith '/' (i.names.map (·.val)) := by
  rw [fileUnder_eq_joinPath, joinPath_toList, relative_toList]

theorem partsOf_fileUnder (root : String) (i : Identity) :
    partsOf (i.fileUnder root).toList =
      ((partsOf root.toList).1, (partsOf root.toList).2 ++ i.names.map (·.val)) := by
  rw [fileUnder_toList]
  exact partsOf_joinHead root i.map_val_ne_nil isName_of_mem

/-- Under one root different identities have different files. -/
theorem eq_of_partsOf_fileUnder {root : String} {i j : Identity}
    (h : partsOf (i.fileUnder root).toList = partsOf (j.fileUnder root).toList) : i = j := by
  rw [partsOf_fileUnder, partsOf_fileUnder] at h
  exact eq_of_names (List.append_cancel_left (Prod.mk.inj h).2)

end Identity

/-- **Confinement.** The file of the source that a request resolves to is under the root, whatever
the request says and whatever the root: its path is the root, a slash if the root has none at its
end, and one or more ordinary names, all of them pieces of the path that names the template. No
other identity has that file. -/
theorem resolve_confined (r : Request) (root : String) {i : Identity} (h : r.resolve = .ok i) :
    ∃ names : List (List Char), names ≠ [] ∧
      (∀ name ∈ names, name ≠ [] ∧ name ≠ ['.'] ∧ name ≠ ['.', '.'] ∧ '/' ∉ name ∧ '\x5c' ∉ name) ∧
      names.Sublist (Text.pieces isSeparator r.target.toList) ∧
      root.toList <+: (i.fileUnder root).toList ∧
      (i.fileUnder root).toList = joinHead root ++ Text.joinWith '/' names ∧
      partsOf (i.fileUnder root).toList =
        ((partsOf root.toList).1, (partsOf root.toList).2 ++ names) ∧
      ∀ j : Identity, partsOf (j.fileUnder root).toList = partsOf (i.fileUnder root).toList →
        j = i := by
  refine ⟨i.names.map (·.val), i.map_val_ne_nil, ?_, Identity.sublist_of_parse h, ?_,
    i.fileUnder_toList root, i.partsOf_fileUnder root, fun j => Identity.eq_of_partsOf_fileUnder⟩
  · intro name hname
    obtain ⟨hempty, hdot, hdots, hsep⟩ := Identity.isName_of_mem name hname
    refine ⟨hempty, hdot, hdots, fun hmem => ?_, fun hmem => ?_⟩
    · cases hsep _ hmem
    · cases hsep _ hmem
  · rw [i.fileUnder_toList root]
    unfold joinHead
    split
    next => exact List.prefix_append _ _
    next =>
      rw [List.append_assoc]
      exact List.prefix_append _ _

/-- Servlet path and path info are joined without a slash, and make a piece that leads up where
neither had one. -/
theorem resolve_confined_joined :
    let r := (Request.forPath "").withPathInfo "/docs/." "./pages\\index"
    let i : Identity := ⟨[⟨['p', 'a', 'g', 'e', 's'], by decide⟩, ⟨['i', 'n', 'd', 'e', 'x'], by decide⟩],
      by simp⟩
    r.resolve = .ok i ∧
      ∃ names : List (List Char), names ≠ [] ∧
        (∀ name ∈ names,
          name ≠ [] ∧ name ≠ ['.'] ∧ name ≠ ['.', '.'] ∧ '/' ∉ name ∧ '\x5c' ∉ name) ∧
        names.Sublist (Text.pieces isSeparator r.target.toList) ∧
        "/srv/".toList <+: (i.fileUnder "/srv/").toList ∧
        (i.fileUnder "/srv/").toList = joinHead "/srv/" ++ Text.joinWith '/' names ∧
        partsOf (i.fileUnder "/srv/").toList =
          ((partsOf "/srv/".toList).1, (partsOf "/srv/".toList).2 ++ names) ∧
        ∀ j : Identity,
          partsOf (j.fileUnder "/srv/").toList = partsOf (i.fileUnder "/srv/").toList → j = i := by
  intro r i
  have hresolve : r.resolve = .ok i := by cbv
  exact ⟨hresolve, resolve_confined r "/srv/" hresolve⟩

end TemplateServer
