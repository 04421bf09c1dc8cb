import TemplateServer.Proofs.Identity
import TemplateServer.Resolve

/-!
# Paths that go on

A path that is put together from two leads where the second one leads from the end of the first, so
each part may be replaced by any other path that leads to the same place, and in particular by the
path of the identity that it leads to (`normalize_by_parts`). What has been normalized can therefore
be handed on as a path and is normalized to the same identity again.

Nothing of this is an induction over the text: the walk along a joined path is one walk after the
other (`follow_continued`), and a walk that ends somewhere ends there, by the same names, also on
top of any trail (`follow_onto`).
-/

namespace TemplateServer

/-- The same reason, told of another path. -/
def PathError.quoting (path : String) : PathError → PathError
  | noTemplate _ => noTemplate path
  | escapesRoot _ => escapesRoot path

/-- A walk that ends somewhere leaves alone what was on the trail before. -/
theorem follow_onto {trail trail' : List Name} {moves : List Move}
    (h : follow trail moves = some trail') (before : List Name) :
    follow (trail ++ before) moves = some (trail' ++ before) := by
  induction moves generalizing trail with
  | nil =>
    obtain rfl : trail = trail' := by cases trail <;> exact Option.some.inj h
    cases trail ++ before <;> rfl
  | cons move moves ih =>
    cases move with
    | stay =>
      rw [follow_stay] at h ⊢
      exact ih h
    | down name =>
      rw [follow_down_cons] at h ⊢
      exact ih h
    | up =>
      -- the walk never goes above its start, so it takes no name that was there before
      cases trail with
      | nil => cases h
      | cons name trail =>
        have hrest : follow trail moves = some trail' := h
        exact ih hrest

namespace Identity

/-- A path, a separator, and a path from there on. -/
def continued (path : String) (separator : Char) (rest : String) : String :=
  path ++ String.singleton separator ++ rest

variable {path path' rest : String} {separator separator' : Char} {i : Identity}

theorem continued_toList (path : String) (separator : Char) (rest : String) :
    (continued path separator rest).toList = path.toList ++ separator :: rest.toList := by
  unfold continued
  simp

/-- The walk along a path that goes on is the walk along its first part and then, from there, the
walk along the second. -/
theorem follow_continued (hsep : isSeparator separator = true) (path rest : String) :
    follow [] (movesOf (continued path separator rest).toList) =
      (follow [] (movesOf path.toList)).bind (follow · (movesOf rest.toList)) := by
  unfold movesOf
  rw [continued_toList, Text.pieces_append _ _ hsep, List.map_append, follow_append]

/-- Paths whose walks end alike lead to the same identity or are refused for the same reason. -/
theorem normalize_of_follow
    (h : follow [] (movesOf path.toList) = follow [] (movesOf path'.toList)) :
    normalize path = (normalize path').mapError (.quoting path) := by
  unfold normalize
  rw [h]
  cases follow [] (movesOf path'.toList) with
  | none => rfl
  | some trail => cases trail <;> rfl

/-- The walk along a path that leads to no identity. -/
theorem follow_of_error {e : PathError} (h : normalize path = .error e) :
    (follow [] (movesOf path.toList) = some [] ∧ e = .noTemplate path) ∨
      (follow [] (movesOf path.toList) = none ∧ e = .escapesRoot path) := by
  unfold normalize at h
  cases hfollow : follow [] (movesOf path.toList) with
  | none =>
    rw [hfollow] at h
    cases h
    exact .inr ⟨rfl, rfl⟩
  | some trail =>
    rw [hfollow] at h
    cases trail with
    | nil =>
      cases h
      exact .inl ⟨rfl, rfl⟩
    | cons name trail => cases h

/-- The first part of a path may be replaced by the path of the identity that it leads to. -/
theorem normalize_continued_ok (hsep : isSeparator separator = true)
    (hsep' : isSeparator separator' = true) (h : normalize path = .ok i)
    (h' : normalize path' = .ok i) (rest : String) :
    normalize (continued path separator rest) =
      (normalize (continued path' separator' rest)).mapError
        (.quoting (continued path separator rest)) := by
  rw [normalize_eq_ok_iff] at h h'
  apply normalize_of_follow
  rw [follow_continued hsep, follow_continued hsep', h, h']

/-- A first part that leads back to the root may be left out. -/
theorem normalize_continued_noTemplate {quoted : String} (hsep : isSeparator separator = true)
    (h : normalize path = .error (.noTemplate quoted)) (rest : String) :
    normalize (continued path separator rest) =
      (normalize rest).mapError (.quoting (continued path separator rest)) := by
  rcases follow_of_error h with ⟨hfollow, -⟩ | ⟨-, heq⟩
  · apply normalize_of_follow
    rw [follow_continued hsep, hfollow]
    rfl
  · cases heq

/-- No path comes back from above the root. -/
theorem normalize_continued_escapesRoot {quoted : String} (hsep : isSeparator separator = true)
    (h : normalize path = .error (.escapesRoot quoted)) (rest : String) :
    normalize (continued path separator rest) =
      .error (.escapesRoot (continued path separator rest)) := by
  rcases follow_of_error h with ⟨-, heq⟩ | ⟨hfollow, -⟩
  · cases heq
  · unfold normalize
    rw [follow_continued hsep, hfollow]
    rfl

/-- The second part of a path may be replaced by the path of the identity that it leads to. -/
theorem normalize_continued_rest (hsep : isSeparator separator = true)
    (hsep' : isSeparator separator' = true) (h : normalize rest = .ok i) (path : String) :
    normalize (continued path separator rest) =
      (normalize (continued path separator' i.text)).mapError
        (.quoting (continued path separator rest)) := by
  have hrest := normalize_eq_ok_iff.mp h
  have htext := normalize_eq_ok_iff.mp i.normalize_text
  apply normalize_of_follow
  rw [follow_continued hsep, follow_continued hsep']
  cases follow [] (movesOf path.toList) with
  | none => rfl
  | some trail => exact (follow_onto hrest trail).trans (follow_onto htext trail).symm

end Identity

namespace Request

/-- A request for a path asks for what the path leads to. -/
theorem resolve_forPath (path : String) : (forPath path).resolve = Identity.parse path :=
  congrArg Identity.parse String.append_empty

/-- So it does with a query. -/
theorem resolve_forPath_withQuery (path query : String) :
    ((forPath path).withQuery query).resolve = Identity.parse path :=
  congrArg Identity.parse String.append_empty

end Request

namespace Identity

/-- **Paths are normalized by their parts.** Both slashes separate the parts, and a refusal of one
path is compared with a refusal of another as if it were of the first.

* The first part of a path may be replaced by the path of the identity that it leads to, may be left
  out where it leads to the root, and takes the whole path above the root where it goes above it.
* The second part may be replaced by the path of the identity that it leads to.
* The path of an identity, with or without its first slash, leads to this identity, and a request
  for it resolves to this identity, with any query or without one. -/
theorem normalize_by_parts :
    (∀ (path rest : String) (separator separator' : Char),
      isSeparator separator = true → isSeparator separator' = true →
      let whole := continued path separator rest
      (∀ i, normalize path = .ok i →
        normalize whole = (normalize (continued i.text separator' rest)).mapError (.quoting whole)) ∧
      (∀ quoted, normalize path = .error (.noTemplate quoted) →
        normalize whole = (normalize rest).mapError (.quoting whole)) ∧
      (∀ quoted, normalize path = .error (.escapesRoot quoted) →
        normalize whole = .error (.escapesRoot whole)) ∧
      ∀ j, normalize rest = .ok j →
        normalize whole = (normalize (continued path separator' j.text)).mapError
          (.quoting whole)) ∧
    ∀ i : Identity, normalize i.text = .ok i ∧ normalize i.relative = .ok i ∧
      (Request.forPath i.text).resolve = .ok i ∧
      ∀ query, ((Request.forPath i.text).withQuery query).resolve = .ok i := by
  refine ⟨fun path rest separator separator' hsep hsep' => ⟨fun i h => ?_, fun quoted h => ?_,
    fun quoted h => ?_, fun j h => ?_⟩, fun i => ⟨i.normalize_text, i.normalize_relative, ?_, ?_⟩⟩
  · exact normalize_continued_ok hsep hsep' h i.normalize_text rest
  · exact normalize_continued_noTemplate hsep h rest
  · exact normalize_continued_escapesRoot hsep h rest
  · exact normalize_continued_rest hsep hsep' h path
  · rw [Request.resolve_forPath]
    exact parse_eq_ok_iff.mpr i.normalize_text
  · intro query
    rw [Request.resolve_forPath_withQuery]
    exact parse_eq_ok_iff.mpr i.normalize_text

/-- The second part climbs out of the directory that the first one leads to, or above the root, and
the first part may climb there itself. -/
theorem normalize_by_parts_climbing :
    let d : Identity := ⟨[⟨['d'], by decide⟩], by decide⟩
    isSeparator '/' = true ∧ isSeparator '\x5c' = true ∧
      (normalize "x/../d" = .ok d ∧
        normalize (continued "x/../d" '\x5c' "../../e") =
          (normalize (continued d.text '/' "../../e")).mapError
            (.quoting (continued "x/../d" '\x5c' "../../e"))) ∧
      (normalize "d\\.." = .error (.noTemplate "d\\..") ∧
        normalize (continued "d\\.." '/' "..") =
          (normalize "..").mapError (.quoting (continued "d\\.." '/' ".."))) ∧
      (normalize ".." = .error (.escapesRoot "..") ∧
        normalize (continued ".." '/' "d") = .error (.escapesRoot (continued ".." '/' "d"))) ∧
      normalize (continued ".." '/' "./d") =
        (normalize (continued ".." '\x5c' d.text)).mapError
          (.quoting (continued ".." '/' "./d")) := by
  intro d
  obtain ⟨hparts, -⟩ := normalize_by_parts
  have hd : normalize "x/../d" = .ok d := rfl
  have hroot : normalize "d\\.." = .error (.noTemplate "d\\..") := rfl
  have habove : normalize ".." = .error (.escapesRoot "..") := rfl
  exact ⟨rfl, rfl, ⟨hd, (hparts _ _ _ _ rfl rfl).1 d hd⟩,
    ⟨hroot, (hparts _ _ _ '/' rfl rfl).2.1 _ hroot⟩,
    ⟨habove, (hparts _ _ _ '/' rfl rfl).2.2.1 _ habove⟩, (hparts _ _ _ _ rfl rfl).2.2.2 d rfl⟩

end Identity

end TemplateServer
