import TemplateServer.Proofs.Text.Occurrence
import TemplateServer.Resolve

/-!
# One signal names the template

Three parts of a request could name its template. `NamedBy` says which of them does, `Signal.Means`
which path it means, without the search that corrects the path of an include: the corrected path is
the longest suffix of the request URI that starts with the path.

Every request is named by one signal, every signal means one path, and the request resolves to what
this path leads to (`resolve_by_one_signal`). So nothing else in a request takes part in its
resolution, neither in the identity nor in the text of a failure.
-/

namespace TemplateServer

/-- What can name the template of a request. -/
inductive Signal
  /-- The alias attribute. -/
  | aliased (path : String)
  /-- The path of an include, and the request URI that goes with it. -/
  | included (path : String) (uri : Option String)
  /-- The path of the request itself. -/
  | direct (path : String)
deriving DecidableEq

/-- The paths that a signal means. -/
inductive Signal.Means : Signal → String → Prop
  | aliased (path : String) : Means (.aliased path) path
  /-- The path of an include occurs in the request URI. -/
  | corrected {path uri target : String} (hne : path ≠ "")
      (htarget : Text.LongestFrom path.toList uri.toList target.toList) :
      Means (.included path (some uri)) target
  /-- There is nothing to correct the path of an include by. -/
  | kept {path : String} {uri : Option String}
      (h : path = "" ∨ ∀ u, uri = some u → ¬ path.toList <:+: u.toList) :
      Means (.included path uri) path
  | direct (path : String) : Means (.direct path) path

/-- The signal that names the template of a request: the first one that is there. -/
inductive Request.NamedBy (r : Request) : Signal → Prop
  | aliased {path : String} (h : r.attribute? aliasAttribute = some path) : NamedBy r (.aliased path)
  | included {path : String} (halias : r.attribute? aliasAttribute = none)
      (h : r.attribute? includePathAttribute = some path) :
      NamedBy r (.included path (r.attribute? includeUriAttribute))
  | direct (halias : r.attribute? aliasAttribute = none)
      (hinclude : r.attribute? includePathAttribute = none) :
      NamedBy r (.direct (r.servletPath ++ r.pathInfo.getD ""))

/-! ## The path that is meant -/

/-- The longest suffix starts where the path occurs, so there is none where it does not. -/
theorem Signal.infix_of_longestFrom {path uri target : String}
    (h : Text.LongestFrom path.toList uri.toList target.toList) : path.toList <:+: uri.toList :=
  h.starts.isInfix.trans h.suffix.isInfix

theorem Signal.Means.unique {signal : Signal} {path path' : String} (h : signal.Means path)
    (h' : signal.Means path') : path = path' := by
  cases h with
  | aliased => cases h'; rfl
  | direct => cases h'; rfl
  | corrected hne htarget =>
    cases h' with
    | corrected _ htarget' => exact String.toList_inj.mp (htarget.unique htarget')
    | kept hno =>
      rcases hno with hempty | hno
      · exact absurd hempty hne
      · exact absurd (infix_of_longestFrom htarget) (hno _ rfl)
  | kept hno =>
    cases h' with
    | kept => rfl
    | corrected hne htarget =>
      rcases hno with hempty | hno
      · exact absurd hempty hne
      · exact absurd (infix_of_longestFrom htarget) (hno _ rfl)

/-- The search finds the path that an include means. -/
theorem means_includeTarget (path : String) (uri : Option String) :
    (Signal.included path uri).Means (includeTarget path uri) := by
  unfold includeTarget
  split
  next hempty => exact .kept (.inl (String.isEmpty_iff.mp hempty))
  next hne =>
    have hne' : path ≠ "" := fun heq => hne (String.isEmpty_iff.mpr heq)
    cases uri with
    | none => exact .kept (.inr fun u hu => by cases hu)
    | some uri =>
      rw [Option.bind_some]
      split
      next current hfound =>
        refine .corrected hne' ?_
        rw [String.toList_ofList]
        exact Text.suffixFrom?_eq_some_iff.mp hfound
      next hnone =>
        refine .kept (.inr fun u hu => ?_)
        cases hu
        exact Text.suffixFrom?_eq_none_iff.mp hnone

/-- Every signal means a path. -/
theorem Signal.exists_means (signal : Signal) : ∃ path, signal.Means path := by
  cases signal with
  | aliased path => exact ⟨path, .aliased path⟩
  | included path uri => exact ⟨_, means_includeTarget path uri⟩
  | direct path => exact ⟨path, .direct path⟩

/-! ## The signal that decides -/

namespace Request

variable {r r' : Request} {signal signal' : Signal} {path : String}

theorem NamedBy.unique (h : r.NamedBy signal) (h' : r.NamedBy signal') : signal = signal' := by
  cases h with
  | aliased halias =>
    cases h' with
    | aliased halias' => rw [halias] at halias'; cases halias'; rfl
    | included hnone => rw [halias] at hnone; cases hnone
    | direct hnone => rw [halias] at hnone; cases hnone
  | included hnone hinclude =>
    cases h' with
    | aliased halias => rw [halias] at hnone; cases hnone
    | included _ hinclude' => rw [hinclude] at hinclude'; cases hinclude'; rfl
    | direct _ hnone' => rw [hinclude] at hnone'; cases hnone'
  | direct hnone hnone' =>
    cases h' with
    | aliased halias => rw [halias] at hnone; cases hnone
    | included _ hinclude => rw [hinclude] at hnone'; cases hnone'
    | direct => rfl

/-- A request is named by a signal, which means its target. -/
theorem exists_namedBy (r : Request) : ∃ signal, r.NamedBy signal ∧ signal.Means r.target := by
  unfold target
  cases halias : r.attribute? aliasAttribute with
  | some path => exact ⟨.aliased path, .aliased halias, .aliased path⟩
  | none =>
    cases hinclude : r.attribute? includePathAttribute with
    | some path => exact ⟨_, .included halias hinclude, means_includeTarget path _⟩
    | none => exact ⟨_, .direct halias hinclude, .direct _⟩

/-- A request is resolved by the path that its signal means. -/
theorem resolve_of_namedBy (h : r.NamedBy signal) (hmeans : signal.Means path) :
    r.resolve = Identity.parse path := by
  obtain ⟨signal', h', htarget⟩ := r.exists_namedBy
  rw [h.unique h'] at hmeans
  rw [hmeans.unique htarget]
  rfl

end Request

/-- **One signal decides.** Every request is named by exactly one signal, every signal means exactly
one path, and a request resolves to what the path leads to that its signal means. So requests that
are named by the same signal resolve to the same identity, or fail alike, whatever else they
hold. -/
theorem resolve_by_one_signal :
    (∀ r : Request, ∃ signal, r.NamedBy signal ∧ ∀ other, r.NamedBy other → other = signal) ∧
    (∀ signal : Signal, ∃ path, signal.Means path ∧ ∀ other, signal.Means other → other = path) ∧
    (∀ (r : Request) (signal : Signal) (path : String), r.NamedBy signal → signal.Means path →
      r.resolve = Identity.parse path) ∧
    ∀ (r r' : Request) (signal : Signal), r.NamedBy signal → r'.NamedBy signal →
      r.resolve = r'.resolve := by
  refine ⟨fun r => ?_, fun signal => ?_, fun r signal path h hmeans => ?_,
    fun r r' signal h h' => ?_⟩
  · obtain ⟨signal, h, -⟩ := r.exists_namedBy
    exact ⟨signal, h, fun other hother => hother.unique h⟩
  · obtain ⟨path, h⟩ := signal.exists_means
    exact ⟨path, h, fun other hother => hother.unique h⟩
  · exact Request.resolve_of_namedBy h hmeans
  · obtain ⟨path, hmeans⟩ := signal.exists_means
    rw [Request.resolve_of_namedBy h hmeans, Request.resolve_of_namedBy h' hmeans]

/-- An include whose path occurs in its request URI twice, in overlapping places. -/
def Request.overlapping : Request :=
  ((forPath "/outer").withAttribute includePathAttribute "aa").withAttribute includeUriAttribute
    "/aaab"

/-- The same include from another request. -/
def Request.overlappingElsewhere : Request :=
  ((((overlapping.withPathInfo "/x" "/y").withQuery "a=b").withMethod "post").withHeader "Host" "h")
    |>.withAttribute "user" "u"

theorem resolve_by_one_signal_overlapping :
    let signal : Signal := .included "aa" (some "/aaab")
    Request.overlapping.NamedBy signal ∧ Request.overlappingElsewhere.NamedBy signal ∧
      signal.Means "aaab" ∧ Request.overlapping.resolve = Identity.parse "aaab" ∧
      Request.overlapping.resolve = Request.overlappingElsewhere.resolve := by
  intro signal
  have hnamed : Request.overlapping.NamedBy signal := .included rfl rfl
  have hnamed' : Request.overlappingElsewhere.NamedBy signal := .included rfl rfl
  have hmeans : signal.Means "aaab" :=
    .corrected (by decide) (Text.suffixFrom?_eq_some_iff.mp rfl)
  obtain ⟨-, -, hresolve, hsame⟩ := resolve_by_one_signal
  exact ⟨hnamed, hnamed', hmeans, hresolve _ _ _ hnamed hmeans, hsame _ _ _ hnamed hnamed'⟩

end TemplateServer
