import Mathlib
import TemplateServer.Proofs.Files.Walk
import TemplateServer.Proofs.Identity
import TemplateServer.Source.Files

/-!
# Discovered templates and the store

A template is found as a file by its names below the root, and it is served as a source by its
identity. `Agrees` says that the identities that were discovered are just those under which the
store has the templates, each under its own. Whether this is so depends on the names only: a
backslash is an ordinary character in the name of a file and a separator in a path of an identity,
and a file whose path is too long is listed in its directory and cannot be opened.
-/

namespace TemplateServer

open Files

/-- A template is a file below the root whose path from there a pattern matches. -/
structure IsTemplate (t : Tree) (root : String) (patterns : List Glob.Pattern)
    (names : List String) : Prop where
  file : t.IsFileAt root names
  selected : patterns.any (·.matches (relativePath names)) = true

/-- The identities are in one-to-one correspondence with the templates, and the store finds every
template under its identity. -/
structure Agrees (t : Tree) (root : String) (patterns : List Glob.Pattern)
    (ids : List Identity) : Prop where
  increasing : ids.Pairwise fun i j => i.chars < j.chars
  stored : ∀ i ∈ ids, ((Files.store root).has i t).1 = true
  identified : ∀ {names}, IsTemplate t root patterns names →
    ∃ i ∈ ids, Identity.parse (relativePath names) = .ok i ∧ i.fileUnder root = filePath root names
  listed : ∀ i ∈ ids, ∃ names, IsTemplate t root patterns names ∧
    Identity.parse (relativePath names) = .ok i
  distinct : ∀ {names names' i}, IsTemplate t root patterns names →
    IsTemplate t root patterns names' → Identity.parse (relativePath names) = .ok i →
    Identity.parse (relativePath names') = .ok i → names = names'

/-- The names are such that an identity can stand for them, and their path can be followed. -/
structure Plain (root : String) (names : List String) : Prop where
  no_backslash : ∀ name ∈ names, '\x5c' ∉ name.toList
  short : Utf8.length (filePath root names) ≤ maxPathLength

variable {t : Tree} {root : String} {patterns : List Glob.Pattern} {ids : List Identity}

theorem IsTemplate.components {names : List String} (h : IsTemplate t root patterns names) :
    ∀ name ∈ names, IsComponent name := h.file.1

/-- A component without backslashes is a name. -/
theorem isName_of_component {name : String} (h : IsComponent name) (hback : '\x5c' ∉ name.toList) :
    IsName name.toList := by
  refine ⟨fun hnil => h.not_empty (String.toList_eq_nil_iff.mp hnil),
    fun hdot => h.not_here (String.toList_inj.mp hdot),
    fun hdots => h.not_above (String.toList_inj.mp hdots), fun c hc => ?_⟩
  unfold isSeparator
  rw [Bool.or_eq_false_iff, beq_eq_false_iff_ne, beq_eq_false_iff_ne]
  exact ⟨fun heq => h.no_slash (heq ▸ hc), fun heq => hback (heq ▸ hc)⟩

/-- Without backslashes the identity of a file has its names. -/
theorem relative_of_parse {names : List String} {i : Identity} (hne : names ≠ [])
    (h : ∀ name ∈ names, IsComponent name) (hback : ∀ name ∈ names, '\x5c' ∉ name.toList)
    (hparse : Identity.parse (relativePath names) = .ok i) : i.relative = relativePath names := by
  have hnames : ∀ cs ∈ names.map String.toList, IsName cs := by
    intro cs hcs
    obtain ⟨name, hname, rfl⟩ := List.mem_map.mp hcs
    exact isName_of_component (h name hname) (hback name hname)
  obtain ⟨j, hj, hval⟩ := Identity.parse_joined (by simpa using hne) hnames
  have heq : i = j := Except.ok.inj (hparse.symm.trans hj)
  apply String.toList_inj.mp
  rw [heq, Identity.relative_toList, hval, relativePath_toList]

/-- The identities among some files are those of the files that a pattern matches. -/
theorem discoverAmong_ok {found : List (List String)} (h : discoverAmong patterns found = .ok ids) :
    ∃ parsed, (found.filter fun names => patterns.any (·.matches (relativePath names))).mapM
        (fun names => Identity.parse (relativePath names)) = .ok parsed ∧
      ids = Identity.sort parsed := by
  have hchosen : (found.map relativePath).filter (fun path => patterns.any (·.matches path)) =
      (found.filter fun names => patterns.any (·.matches (relativePath names))).map relativePath :=
    List.filter_map
  unfold discoverAmong at h
  dsimp only at h
  rw [hchosen, List.mapM_map] at h
  change (do
    let parsed ← (found.filter fun names => patterns.any (·.matches (relativePath names))).mapM
      (fun names => Identity.parse (relativePath names))
    return Identity.sort parsed) = _ at h
  cases hparsed : (found.filter fun names => patterns.any (·.matches (relativePath names))).mapM
      (fun names => Identity.parse (relativePath names)) with
  | error failure => rw [hparsed] at h; cases h
  | ok parsed =>
    rw [hparsed] at h
    cases h
    exact ⟨parsed, rfl, rfl⟩

/-- What was discovered: the templates were listed once each, and have identities. -/
theorem discover_ok (hwf : t.WellFormed) (h : discover root patterns t = .ok ids) :
    Tree.flaw? root = none ∧
    ∃ (chosen : List (List String)) (parsed : List Identity), chosen.Nodup ∧
      (∀ names, names ∈ chosen ↔ IsTemplate t root patterns names) ∧
      chosen.mapM (fun names => Identity.parse (relativePath names)) = .ok parsed ∧
      ids = Identity.sort parsed := by
  unfold discover at h
  cases hwalk : t.walk root with
  | error e => rw [hwalk] at h; cases h
  | ok found =>
    rw [hwalk] at h
    dsimp only at h
    cases hamong : discoverAmong patterns found with
    | error failure => rw [hamong] at h; cases h
    | ok identities =>
      rw [hamong] at h
      cases h
      obtain ⟨place, hresolve⟩ := Tree.resolve_of_walk hwalk
      obtain ⟨hnodup, hmem⟩ := Tree.walk_spec hwf hwalk
      obtain ⟨parsed, hparsed, hids⟩ := discoverAmong_ok hamong
      refine ⟨Tree.flaw?_of_resolve hresolve, _, parsed, hnodup.filter _, fun names => ?_, hparsed,
        hids⟩
      rw [List.mem_filter, hmem]
      constructor
      · rintro ⟨hfile, hselected⟩
        exact ⟨hfile, hselected⟩
      · rintro ⟨hfile, hselected⟩
        exact ⟨hfile, hselected⟩

/-- A template that has an identity is below the root, and not the root itself. -/
theorem ne_nil_of_parse {names : List String} {i : Identity}
    (h : Identity.parse (relativePath names) = .ok i) : names ≠ [] := by
  rintro rfl
  exact Identity.parse_empty i h

/-- A path that differs from the identity's holds a backslash. -/
theorem no_backslash_of_fileUnder {names : List String} {i : Identity} (hne : names ≠ [])
    (h : ∀ name ∈ names, IsComponent name) (hpath : i.fileUnder root = filePath root names) :
    ∀ name ∈ names, '\x5c' ∉ name.toList := by
  have hjoined : joinPath root i.relative = joinPath root (relativePath names) := by
    rw [← filePath_eq hne h, ← Identity.fileUnder_eq_joinPath]
    exact hpath
  intro name hname hmem
  apply i.no_backslash
  rw [joinPath_inj hjoined, relativePath_toList]
  exact Text.mem_joinWith_of_mem (List.mem_map_of_mem hname) hmem

/-- The identities are those of the templates, every template has one, and they are in strict order
where no two templates have the same. -/
theorem discover_spec (hwf : t.WellFormed) (h : discover root patterns t = .ok ids) :
    (∀ i, i ∈ ids ↔ ∃ names, IsTemplate t root patterns names ∧
        Identity.parse (relativePath names) = .ok i) ∧
      (∀ {names}, IsTemplate t root patterns names →
        ∃ i ∈ ids, Identity.parse (relativePath names) = .ok i) ∧
      ((∀ {names names' i}, IsTemplate t root patterns names →
          IsTemplate t root patterns names' → Identity.parse (relativePath names) = .ok i →
          Identity.parse (relativePath names') = .ok i → names = names') →
        ids.Pairwise fun i j => i.chars < j.chars) := by
  obtain ⟨-, chosen, parsed, hnodup, hchosen, hparsed, rfl⟩ := discover_ok hwf h
  have hparse {names : List String} (htemplate : IsTemplate t root patterns names) :
      ∃ i ∈ Identity.sort parsed, Identity.parse (relativePath names) = .ok i := by
    obtain ⟨i, hi, heq⟩ := Traverse.ok_of_mapM hparsed ((hchosen names).mpr htemplate)
    exact ⟨i, Identity.mem_sort.mpr hi, heq⟩
  refine ⟨fun i => ?_, hparse, fun hdistinct => ?_⟩
  · rw [Identity.mem_sort, Traverse.mem_of_mapM hparsed]
    simp only [hchosen]
  · refine Identity.sort_strict (Traverse.nodup_of_mapM hparsed hnodup ?_)
    intro names hmem names' hmem' heq
    obtain ⟨i, -, hnames⟩ := hparse ((hchosen names).mp hmem)
    exact hdistinct ((hchosen names).mp hmem) ((hchosen names').mp hmem') hnames (heq ▸ hnames)

section

variable {names names' : List String} {i : Identity}

theorem IsTemplate.relative_eq (htemplate : IsTemplate t root patterns names)
    (hplain : Plain root names) (hnames : Identity.parse (relativePath names) = .ok i) :
    i.relative = relativePath names :=
  relative_of_parse (ne_nil_of_parse hnames) htemplate.components hplain.no_backslash hnames

/-- The identity of a plain template is put under the root where its file is. -/
theorem IsTemplate.fileUnder_eq (htemplate : IsTemplate t root patterns names)
    (hplain : Plain root names) (hnames : Identity.parse (relativePath names) = .ok i) :
    i.fileUnder root = filePath root names := by
  rw [Identity.fileUnder_eq_joinPath, htemplate.relative_eq hplain hnames,
    filePath_eq (ne_nil_of_parse hnames) htemplate.components]

/-- Plain templates with the same identity are the same. -/
theorem IsTemplate.eq_of_identity (htemplate : IsTemplate t root patterns names)
    (htemplate' : IsTemplate t root patterns names') (hplain : Plain root names)
    (hplain' : Plain root names') (hnames : Identity.parse (relativePath names) = .ok i)
    (hnames' : Identity.parse (relativePath names') = .ok i) : names = names' := by
  refine relativePath_inj (ne_nil_of_parse hnames) (ne_nil_of_parse hnames')
    htemplate.components htemplate'.components ?_
  rw [← htemplate.relative_eq hplain hnames, htemplate'.relative_eq hplain' hnames']

/-- A template that the store has under its identity is plain. -/
theorem IsTemplate.plain (hroot : Tree.flaw? root = none)
    (htemplate : IsTemplate t root patterns names)
    (hnames : Identity.parse (relativePath names) = .ok i)
    (hpath : i.fileUnder root = filePath root names)
    (hstored : t.hasFile (i.fileUnder root) = true) : Plain root names := by
  rw [hpath, Tree.hasFile_filePath t hroot htemplate.components] at hstored
  exact ⟨no_backslash_of_fileUnder (ne_nil_of_parse hnames) htemplate.components hpath, hstored.1⟩

end

/-- **When discovery agrees with the store.** Where discovery succeeds, the identities that it
answers are in one-to-one correspondence with the templates, and name their very files in the
store, exactly if no template has a backslash in one of its names or a path that is too long. -/
theorem discover_agrees_iff (hwf : t.WellFormed) (h : discover root patterns t = .ok ids) :
    Agrees t root patterns ids ↔ ∀ names, IsTemplate t root patterns names → Plain root names := by
  obtain ⟨hroot, -⟩ := discover_ok hwf h
  obtain ⟨hlisted, hparse, hstrict⟩ := discover_spec hwf h
  constructor
  · intro hagrees names htemplate
    obtain ⟨i, hi, hnames, hpath⟩ := hagrees.identified htemplate
    exact htemplate.plain hroot hnames hpath (hagrees.stored i hi)
  · intro hplain
    have hdistinct {names names' : List String} {i : Identity}
        (htemplate : IsTemplate t root patterns names)
        (htemplate' : IsTemplate t root patterns names')
        (hnames : Identity.parse (relativePath names) = .ok i)
        (hnames' : Identity.parse (relativePath names') = .ok i) : names = names' :=
      htemplate.eq_of_identity htemplate' (hplain names htemplate) (hplain names' htemplate')
        hnames hnames'
    constructor
    · exact hstrict hdistinct
    · intro i hi
      obtain ⟨names, htemplate, hnames⟩ := (hlisted i).mp hi
      show t.hasFile (i.fileUnder root) = true
      -- the file of the identity is the template, which can be opened
      rw [htemplate.fileUnder_eq (hplain names htemplate) hnames,
        Tree.hasFile_filePath t hroot htemplate.components]
      exact ⟨(hplain names htemplate).short, htemplate.file⟩
    · intro names htemplate
      obtain ⟨i, hi, hnames⟩ := hparse htemplate
      exact ⟨i, hi, hnames, htemplate.fileUnder_eq (hplain names htemplate) hnames⟩
    · intro i hi
      exact (hlisted i).mp hi
    · exact hdistinct

/-! ## Two files for one identity -/

/-- Two files below the root, whose paths differ in a slash and a backslash. -/
def slashed : Tree :=
  ⟨["w"], [(["w"], .directory 0), (["w", "site"], .directory 0), (["w", "site", "a"], .directory 0),
    (["w", "site", "a", "b"], .file [] 0), (["w", "site", "a\x5cb"], .file [] 0)]⟩

/-- The identity of the file in the directory. -/
def nestedIdentity : Identity := ⟨[⟨['a'], by decide⟩, ⟨['b'], by decide⟩], by simp⟩

/-- The pattern that matches every path. -/
def everything : Glob.Pattern := ⟨"*", [.anySequence]⟩

/-- The pattern that matches the paths in the directory. -/
def inDirectory : Glob.Pattern := ⟨"a/*", [.char 'a', .char '/', .anySequence]⟩

theorem slashed_wellFormed : slashed.WellFormed where
  here := by decide
  distinct := by decide
  parent := by decide
  named := by
    intro n hn
    simp only [slashed, List.mem_cons, List.not_mem_nil, or_false] at hn
    rcases hn with rfl | rfl | rfl | rfl | rfl
    all_goals exact ⟨_, rfl, by decide, by decide, by decide, by decide, by decide, by decide⟩

theorem slashed_walk : slashed.walk "site" = .ok [["a", "b"], ["a\x5cb"]] := by
  have hsite : slashed.resolve "site" = .ok ["w", "site"] := by
    unfold Tree.resolve
    rw [Tree.flaw?_eq_none_iff.mpr ⟨by decide, by decide, by cbv⟩]
    cbv
  have hdirectory : slashed.resolve "site/a" = .ok ["w", "site", "a"] := by
    unfold Tree.resolve
    rw [Tree.flaw?_eq_none_iff.mpr ⟨by decide, by decide, by cbv⟩]
    cbv
  have hpath : joinPath "site" "a" = "site/a" := by cbv
  have hchildren : slashed.children ["w", "site"] = ["a", "a\x5cb"] := by cbv
  have hchildren' : slashed.children ["w", "site", "a"] = ["b"] := by cbv
  -- both directories are opened by their paths, and the bound on the depth plays no part
  have hbelow (depth : Nat) (above : List (Place × String)) :
      slashed.filesBelow (depth + 2) above "site/a" ["a"] ["w", "site", "a"] =
        .ok [["a", "b"]] := by
    rw [Tree.filesBelow_directory rfl hdirectory, Tree.foundInside, hchildren', List.mapM_cons]
    rfl
  have hfound (depth : Nat) :
      slashed.filesBelow (depth + 3) [] "site" [] ["w", "site"] =
        .ok [["a", "b"], ["a\x5cb"]] := by
    rw [Tree.filesBelow_directory rfl hsite, Tree.foundInside, hchildren, List.mapM_cons, hpath]
    dsimp only [List.nil_append, List.cons_append]
    rw [hbelow]
    rfl
  unfold Tree.walk
  rw [hsite]
  exact hfound 4093

theorem discover_agrees_inDirectory :
    slashed.WellFormed ∧ discover "site" [inDirectory] slashed = .ok [nestedIdentity] ∧
      Agrees slashed "site" [inDirectory] [nestedIdentity] := by
  have hdiscover : discover "site" [inDirectory] slashed = .ok [nestedIdentity] := by
    unfold discover
    rw [slashed_walk]
    cbv
  have hplain (names : List String) (htemplate : IsTemplate slashed "site" [inDirectory] names) :
      Plain "site" names := by
    have hfound : names ∈ [["a", "b"], ["a\x5cb"]] :=
      ((Tree.walk_spec slashed_wellFormed slashed_walk).2 names).mpr htemplate.file
    rcases List.mem_cons.mp hfound with rfl | hother
    · exact ⟨by decide, by cbv⟩
    · obtain rfl := List.mem_singleton.mp hother
      have hselected := htemplate.selected
      rw [show [inDirectory].any (·.matches (relativePath ["a\x5cb"])) = false by cbv] at hselected
      cases hselected
  exact And.intro slashed_wellFormed (And.intro hdiscover
    ((discover_agrees_iff slashed_wellFormed hdiscover).mpr hplain))

/-- Where both files are templates, one identity is listed for the two of them. -/
theorem not_agrees_slashed :
    slashed.WellFormed ∧
      discover "site" [everything] slashed = .ok [nestedIdentity, nestedIdentity] ∧
      ¬ Agrees slashed "site" [everything] [nestedIdentity, nestedIdentity] := by
  have hdiscover : discover "site" [everything] slashed = .ok [nestedIdentity, nestedIdentity] := by
    unfold discover
    rw [slashed_walk]
    cbv
  have hnot : ¬ Agrees slashed "site" [everything] [nestedIdentity, nestedIdentity] := by
    intro hagrees
    have hlt := (List.pairwise_cons.mp hagrees.increasing).1 nestedIdentity List.mem_cons_self
    exact List.lt_irrefl _ hlt
  exact And.intro slashed_wellFormed (And.intro hdiscover hnot)

end TemplateServer
