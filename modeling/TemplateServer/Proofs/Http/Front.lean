import TemplateServer.Http.Front
import TemplateServer.Proofs.Failure
import TemplateServer.Proofs.Identity
import TemplateServer.Proofs.Text.Percent

/-!
# The front end and the resolver agree

The path of an HTTP request is judged by the front end and resolved again by the dispatcher, from
another field. `Converted` tells once in which ways the front end can end, by the text that the path
reads when it is decoded once; where the request goes on to the dispatcher, it resolves there to
the identity of this text.

The other way round, every identity can be asked for: whichever characters of its path are escaped,
and in whichever case, a request that is sent there resolves to it (`toRequest_of_spells`).
-/

namespace TemplateServer

namespace Http

namespace HttpRequest

/-! ## What becomes of a request -/

variable {r : HttpRequest} {path : String} {identity : Identity}

/-- The path of a request, percent-decoded once, reads `path`. -/
def Reads (r : HttpRequest) (path : String) : Prop :=
  Text.decodePercent r.target.path.toUTF8.toList = path.toUTF8.toList

/-- A path is decoded as it reads. -/
theorem decode?_eq_some_iff_reads {cs : List Char} :
    Utf8.decode? (Text.decodePercent r.target.path.toUTF8.toList) = some cs ↔
      r.Reads (String.ofList cs) := by
  rw [Utf8.decode?_eq_some_iff]
  unfold Reads
  rw [Utf8.toList_toUTF8 (String.ofList cs), String.toList_ofList]

/-- The path of a request reads one text at most. -/
theorem Reads.unique {path' : String} (h : r.Reads path) (h' : r.Reads path') : path = path' := by
  rw [← String.ofList_toList (s := path), ← decode?_eq_some_iff_reads] at h
  rw [← String.ofList_toList (s := path'), ← decode?_eq_some_iff_reads, h] at h'
  exact String.toList_inj.mp (Option.some.inj h')

/-- A path that reads as a text is decoded, if the text has no zero character. -/
theorem decodePath_ok (h : r.Reads path) (hnul : '\x00' ∉ path.toList) :
    decodePath r.target.path = .ok path := by
  have hdecode := decode?_eq_some_iff_reads.mpr (by rw [String.ofList_toList]; exact h)
  unfold decodePath
  rw [hdecode]
  simp [hnul]

/-- Any other path is refused for its encoding. -/
theorem decodePath_error (h : ¬ ∃ path, r.Reads path ∧ '\x00' ∉ path.toList) :
    decodePath r.target.path = .error (.encoding r.target.path) := by
  unfold decodePath
  cases hdecode : Utf8.decode? (Text.decodePercent r.target.path.toUTF8.toList) with
  | none => rfl
  | some cs =>
    have hreads := decode?_eq_some_iff_reads.mp hdecode
    by_cases hnul : '\x00' ∈ cs
    · simp [hnul]
    · exact absurd ⟨_, hreads, by rw [String.toList_ofList]; exact hnul⟩ h

/-- The ways in which an HTTP request becomes one of the dispatcher, or does not. -/
inductive Converted (r : HttpRequest) : Except Rejection Request → Prop
  /-- The path reads no text, or one with NUL. -/
  | encoding (hno : ¬ ∃ path, r.Reads path ∧ '\x00' ∉ path.toList) :
      Converted r (.error (.encoding r.target.path))
  /-- The path reads a text that leads to no template. -/
  | refused {path : String} {e : PathError} (hreads : r.Reads path) (hnul : '\x00' ∉ path.toList)
      (hpath : Identity.normalize path = .error e) : Converted r (.error (.refused e))
  /-- The path reads a text that leads to a template, and the dispatcher finds this template. -/
  | accepted {path : String} {identity : Identity} {request : Request} (hreads : r.Reads path)
      (hnul : '\x00' ∉ path.toList) (hpath : Identity.normalize path = .ok identity)
      (hresolve : request.resolve = .ok identity) : Converted r (.ok request)

/-- A request is converted in one of these ways. -/
theorem toRequest_cases (r : HttpRequest) : Converted r r.toRequest := by
  unfold toRequest
  by_cases h : ∃ path, r.Reads path ∧ '\x00' ∉ path.toList
  · obtain ⟨path, hreads, hnul⟩ := h
    rw [decodePath_ok hreads hnul]
    cases hpath : Identity.normalize path with
    | error e =>
      simp only [bind, Except.bind, hpath]
      exact .refused hreads hnul hpath
    | ok identity =>
      simp only [bind, Except.bind, hpath]
      refine .accepted hreads hnul hpath ?_
      -- neither the method nor the headers count, and there are no attributes
      show Identity.parse (path ++ "") = .ok identity
      rw [String.append_empty]
      exact Identity.parse_eq_ok_iff.mpr hpath
  · rw [decodePath_error h]
    exact .encoding h

/-- The text that a path reads decides. -/
theorem Converted.of_reads {result : Except Rejection Request} (h : Converted r result)
    (hreads : r.Reads path) (hnul : '\x00' ∉ path.toList) :
    match Identity.normalize path with
    | .error e => result = .error (.refused e)
    | .ok identity => ∃ request, result = .ok request ∧ request.resolve = .ok identity := by
  cases h with
  | encoding hno => exact absurd ⟨path, hreads, hnul⟩ hno
  | refused hreads' _ hpath =>
    rw [← hreads'.unique hreads, hpath]
  | accepted hreads' _ hpath hresolve =>
    rw [← hreads'.unique hreads, hpath]
    exact ⟨_, rfl, hresolve⟩

/-- A request is refused for its encoding if and only if its path reads as no text without a zero
character. -/
theorem toRequest_eq_encoding_iff {sent : String} :
    r.toRequest = .error (.encoding sent) ↔
      sent = r.target.path ∧ ¬ ∃ path, r.Reads path ∧ '\x00' ∉ path.toList := by
  have hcases := r.toRequest_cases
  constructor
  · intro h
    rw [h] at hcases
    cases hcases with
    | encoding hno => exact ⟨rfl, hno⟩
  · rintro ⟨rfl, hno⟩
    generalize r.toRequest = result at hcases ⊢
    cases hcases with
    | encoding => rfl
    | refused hreads hnul => exact absurd ⟨_, hreads, hnul⟩ hno
    | accepted hreads hnul => exact absurd ⟨_, hreads, hnul⟩ hno

/-- A request is refused for its path if and only if the path reads as one that names no template.
-/
theorem toRequest_eq_refused_iff {e : PathError} :
    r.toRequest = .error (.refused e) ↔
      ∃ path, r.Reads path ∧ '\x00' ∉ path.toList ∧ Identity.normalize path = .error e := by
  have hcases := r.toRequest_cases
  constructor
  · intro h
    rw [h] at hcases
    cases hcases with
    | refused hreads hnul hpath => exact ⟨_, hreads, hnul, hpath⟩
  · rintro ⟨path, hreads, hnul, hpath⟩
    have hresult := hcases.of_reads hreads hnul
    rw [hpath] at hresult
    exact hresult

/-- A request names a template if and only if its path reads as one that does. -/
theorem toRequest_resolves_iff :
    (∃ request, r.toRequest = .ok request ∧ request.resolve = .ok identity) ↔
      ∃ path, r.Reads path ∧ '\x00' ∉ path.toList ∧ Identity.normalize path = .ok identity := by
  have hcases := r.toRequest_cases
  constructor
  · rintro ⟨request, h, hresolve⟩
    rw [h] at hcases
    cases hcases with
    | accepted hreads hnul hpath hresolve' =>
      rw [hresolve'] at hresolve
      cases hresolve
      exact ⟨_, hreads, hnul, hpath⟩
  · rintro ⟨path, hreads, hnul, hpath⟩
    have hresult := hcases.of_reads hreads hnul
    rw [hpath] at hresult
    exact hresult

/-- What is dispatched resolves. -/
theorem resolve_of_toRequest {request : Request} (h : r.toRequest = .ok request) :
    ∃ identity, request.resolve = .ok identity := by
  have hcases := r.toRequest_cases
  rw [h] at hcases
  cases hcases with
  | accepted _ _ _ hresolve => exact ⟨_, hresolve⟩

end HttpRequest

/-! ## Spellings of paths -/

namespace Target

/-- The characters that mean nothing but themselves in a target. -/
def isKept (c : Char) : Bool := c != '%' && c != '?' && c != '#'

/-- A path that can be sent: it consists of characters that paths may hold, and is not too long. -/
def isSendable (path : List Char) : Bool :=
  path.all isPathChar && decide (Utf8.length (String.ofList path) ≤ maxLength)

/-- A target that starts with a slash and holds neither a query nor a fragment is a path. -/
theorem parse?_path {cs : List Char} (hquery : '?' ∉ cs) (hfragment : '#' ∉ cs) :
    parse? (String.ofList ('/' :: cs)) =
      if isSendable ('/' :: cs) then some ⟨none, none, String.ofList ('/' :: cs), none⟩
      else none := by
  have huncut {d : Char} (hd : d ∉ cs) (hslash : ('/' == d) = false) :
      Text.cut (· == d) ('/' :: cs) = ('/' :: cs, none) := by
    refine Text.cut_eq_self fun c hc => ?_
    rcases List.mem_cons.mp hc with rfl | hmem
    · exact hslash
    · exact beq_eq_false_iff_ne.mpr fun heq => hd (heq ▸ hmem)
  have hpath : pathAndQuery? ('/' :: cs) =
      if ('/' :: cs).all isPathChar then some ('/' :: cs, none) else none := by
    unfold pathAndQuery?
    rw [huncut hfragment (by decide)]
    dsimp only
    rw [huncut hquery (by decide)]
    simp
  unfold parse? isSendable
  by_cases hlength : Utf8.length (String.ofList ('/' :: cs)) ≤ maxLength
  · rw [if_neg (Nat.not_lt.mpr hlength), String.toList_ofList, decide_eq_true hlength,
      Bool.and_true]
    show (do
      let found ← pathAndQuery? ('/' :: cs)
      some (⟨none, none, String.ofList found.1, found.2.map String.ofList⟩ : Target)) = _
    rw [hpath]
    cases ('/' :: cs).all isPathChar with
    | false => rfl
    | true => rfl
  · rw [if_pos (Nat.not_le.mp hlength), decide_eq_false hlength, Bool.and_false]
    rfl

end Target

namespace HttpRequest

variable {method : String} {headers : List (String × String)} {cs : List Char} {r : HttpRequest}

/-- A method and headers that can be sent. -/
def areSendable (method : String) (headers : List (String × String)) : Bool :=
  isToken method && headers.all fun h => isToken h.1 && h.2.toList.all isValueChar

/-- A target that is a path alone is sent as it is. -/
theorem build?_path (hquery : '?' ∉ cs) (hfragment : '#' ∉ cs) :
    build? method (String.ofList ('/' :: cs)) headers =
      if Target.isSendable ('/' :: cs) && areSendable method headers then
        some ⟨method, ⟨none, none, String.ofList ('/' :: cs), none⟩,
          headers.map fun h => (h.1.map Char.toLower, h.2)⟩
      else none := by
  unfold build?
  rw [Target.parse?_path hquery hfragment]
  cases Target.isSendable ('/' :: cs) with
  | false => rfl
  | true => rfl

/-- A spelling of a path is sent as it is. -/
theorem build?_spelled {path spelled : List Char} (h : Text.Spells Target.isKept path spelled) :
    build? method (String.ofList ('/' :: spelled)) headers =
      (if Target.isSendable ('/' :: spelled) && areSendable method headers then
        some ⟨method, ⟨none, none, String.ofList ('/' :: spelled), none⟩,
          headers.map fun h => (h.1.map Char.toLower, h.2)⟩
      else none) :=
  build?_path (h.not_mem (by decide) (by decide) (by decide))
    (h.not_mem (by decide) (by decide) (by decide))

/-- What is sent so reads the path. -/
theorem reads_of_build?_spelled {path spelled : List Char}
    (h : Text.Spells Target.isKept path spelled)
    (hbuild : build? method (String.ofList ('/' :: spelled)) headers = some r) :
    r.Reads (String.ofList ('/' :: path)) := by
  have htarget : r.target.path = String.ofList ('/' :: spelled) := by
    rw [build?_spelled h] at hbuild
    split at hbuild
    next => cases hbuild; rfl
    next => cases hbuild
  have hslash : Text.Spells Target.isKept ('/' :: path) ('/' :: spelled) := .kept (by decide) h
  unfold Reads
  rw [htarget, Utf8.toList_toUTF8, Utf8.toList_toUTF8, String.toList_ofList, String.toList_ofList]
  exact hslash.decodePercent (by decide)

/-- Every spelling of the path of an identity is a way of asking for it. -/
theorem toRequest_of_spells {identity : Identity} {path spelled : List Char}
    (hpath : identity.chars = '/' :: path) (hnul : '\x00' ∉ identity.chars)
    (h : Text.Spells Target.isKept path spelled)
    (hbuild : build? method (String.ofList ('/' :: spelled)) headers = some r) :
    ∃ request, r.toRequest = .ok request ∧ request.resolve = .ok identity := by
  refine toRequest_resolves_iff.mpr ⟨identity.text, ?_, ?_, identity.normalize_text⟩
  · unfold Identity.text
    rw [hpath]
    exact reads_of_build?_spelled h hbuild
  · unfold Identity.text
    rw [String.toList_ofList]
    exact hnul

/-- **Every template can be asked for**, unless its path is very long: there is a spelling that can
be sent. -/
theorem exists_target {identity : Identity} (hnul : '\x00' ∉ identity.chars)
    (hlength : 3 * Utf8.length identity.text ≤ Target.maxLength) :
    ∃ target r request, build? "GET" target [] = some r ∧ r.toRequest = .ok request ∧
      request.resolve = .ok identity := by
  obtain ⟨path, hpath⟩ : ∃ path, identity.chars = '/' :: path := ⟨_, identity.chars_eq⟩
  have hspells := Text.spells_escapeAll Target.isKept path
  have hdigits : (Text.upperDigits.all fun c =>
      decide (c.toNat ≤ 0x7F) && Target.isPathChar c) = true := by decide
  simp only [List.all_eq_true, Bool.and_eq_true, decide_eq_true_eq] at hdigits
  have hascii : ∀ c ∈ '/' :: Text.escapeAll path, c.toNat ≤ 0x7F ∧ Target.isPathChar c = true := by
    intro c hc
    rcases List.mem_cons.mp hc with rfl | hmem
    · decide
    · rcases Text.mem_escapeAll hmem with rfl | hdigit
      · decide
      · exact hdigits c hdigit
  have hsend : Target.isSendable ('/' :: Text.escapeAll path) = true := by
    unfold Target.isSendable
    rw [Bool.and_eq_true, List.all_eq_true, decide_eq_true_eq, Utf8.length_ofList,
      Utf8.length_encode_of_ascii fun c hc => (hascii c hc).1, List.length_cons,
      Text.length_escapeAll]
    refine ⟨fun c hc => (hascii c hc).2, ?_⟩
    unfold Identity.text at hlength
    rw [Utf8.length_ofList, hpath, Utf8.encode_cons, List.length_append] at hlength
    have hslash : (String.utf8EncodeChar '/').length = 1 := rfl
    omega
  have hbuild : build? "GET" (String.ofList ('/' :: Text.escapeAll path)) [] = _ :=
    build?_spelled hspells
  rw [hsend, if_pos (by decide)] at hbuild
  obtain ⟨request, hrequest, hresolve⟩ := toRequest_of_spells hpath hnul hspells hbuild
  exact ⟨_, _, request, hbuild, hrequest, hresolve⟩

end HttpRequest

/-- **The front end and the resolver agree, and every template can be asked for.**

A request is rejected for its encoding exactly if its path, decoded once, is no text without NUL; it
is rejected for its path exactly if this text leads above the root, or nowhere but to the root, and
otherwise it is dispatched and resolves to what the text leads to, so that the dispatcher does not
fail for the path.

Whatever spelling of the path of an identity can be sent, it is accepted and resolves to this
identity; and it can be sent if the characters that no target holds are escaped and it is not too
long. -/
theorem front_end_agrees :
    (∀ r : HttpRequest,
      (∀ sent, r.toRequest = .error (.encoding sent) ↔
        sent = r.target.path ∧ ¬ ∃ path, r.Reads path ∧ '\x00' ∉ path.toList) ∧
      (∀ e, r.toRequest = .error (.refused e) ↔
        ∃ path, r.Reads path ∧ '\x00' ∉ path.toList ∧ Identity.normalize path = .error e) ∧
      (∀ identity,
        (∃ request, r.toRequest = .ok request ∧ request.resolve = .ok identity) ↔
          ∃ path, r.Reads path ∧ '\x00' ∉ path.toList ∧ Identity.normalize path = .ok identity) ∧
      ∀ request, r.toRequest = .ok request →
        (∃ identity, request.resolve = .ok identity) ∧
        ∀ (σ κ α : Type) (d : Dispatcher σ κ α), d.setup.Documented → d.setup.compiler.Refuses →
          ∀ (now : Nat) (s : Engine σ κ α) (reason : String),
            (d.service now request s).1 ≠ .error (.identityResolution reason)) ∧
    (∀ path e, Identity.normalize path = .error e ↔
      Identity.EscapesRoot path ∧ e = .escapesRoot path ∨
        ¬ Identity.EscapesRoot path ∧ Identity.EndsAtRoot path ∧ e = .noTemplate path) ∧
    (∀ path, (Rejection.encoding path).status = 400 ∧
      (Rejection.refused (.escapesRoot path)).status = 400 ∧
      (Rejection.refused (.noTemplate path)).status = 404) ∧
    ∀ (identity : Identity) (path spelled : List Char), identity.chars = '/' :: path →
      '\x00' ∉ identity.chars → Text.Spells Target.isKept path spelled →
      ∀ (method : String) (headers : List (String × String)),
        ((HttpRequest.build? method (String.ofList ('/' :: spelled)) headers).isSome =
          (Target.isSendable ('/' :: spelled) && HttpRequest.areSendable method headers)) ∧
        ∀ r, HttpRequest.build? method (String.ofList ('/' :: spelled)) headers = some r →
          ∃ request, r.toRequest = .ok request ∧ request.resolve = .ok identity := by
  refine ⟨fun r => ⟨fun sent => HttpRequest.toRequest_eq_encoding_iff,
    fun e => HttpRequest.toRequest_eq_refused_iff,
    fun identity => HttpRequest.toRequest_resolves_iff, fun request h => ?_⟩,
    fun path e => Identity.normalize_eq_error_iff, fun path => ⟨rfl, rfl, rfl⟩, ?_⟩
  · obtain ⟨identity, hresolve⟩ := HttpRequest.resolve_of_toRequest h
    refine ⟨⟨identity, hresolve⟩, fun σ κ α d hsetup hcompiler now s reason => ?_⟩
    exact Dispatcher.service_ne_identityResolution hsetup hcompiler hresolve reason
  · intro identity path spelled hpath hnul hspells method headers
    refine ⟨?_, fun r hbuild => HttpRequest.toRequest_of_spells hpath hnul hspells hbuild⟩
    rw [HttpRequest.build?_spelled hspells]
    split
    next hsend => rw [hsend]; rfl
    next hsend => rw [Bool.eq_false_iff.mpr hsend]; rfl

/-- A template whose name has to be escaped. -/
def rate : Identity := ⟨[⟨['5', '%', 'é'], by decide⟩], by decide⟩

/-- A site in files. -/
def site : Dispatcher Files.Tree Unit Template.Document :=
  ⟨⟨Files.store "site", Template.compiler, .standard⟩, none⟩

/-- A template with a percent sign and an accent in its name. -/
theorem front_end_agrees_rate :
    ∃ r request, HttpRequest.build? "GET" (String.ofList "/5%25%C3%a9".toList) [] = some r ∧
      r.toRequest = .ok request ∧ request.resolve = .ok rate ∧
      ∀ s reason, (site.service 0 request s).1 ≠ .error (.identityResolution reason) := by
  have haccent : Text.Escapes (String.utf8EncodeChar 'é') ['%', 'C', '3', '%', 'a', '9'] :=
    .cons (by decide) (by decide) (.cons (by decide) (by decide) .nil)
  have hpercent : Text.Escapes (String.utf8EncodeChar '%') ['%', '2', '5'] :=
    .cons (by decide) (by decide) .nil
  have hspells : Text.Spells Target.isKept ['5', '%', 'é'] "5%25%C3%a9".toList :=
    .kept (by decide) (.escaped hpercent (.escaped haccent .nil))
  obtain ⟨hsome, hresolves⟩ :=
    front_end_agrees.2.2.2 rate _ _ rfl (by decide) hspells "GET" []
  have hsend : Target.isSendable ('/' :: "5%25%C3%a9".toList) = true := by
    unfold Target.isSendable
    rw [Utf8.length_ofList]
    decide
  rw [hsend] at hsome
  obtain ⟨r, hbuild⟩ := Option.isSome_iff_exists.mp (hsome.trans (by decide))
  obtain ⟨request, hrequest, hresolve⟩ := hresolves r hbuild
  obtain ⟨-, hservice⟩ := (front_end_agrees.1 r).2.2.2 request hrequest
  have hsite := hservice _ _ _ site (Template.documented _ _) Template.compiler_refuses 0
  exact ⟨r, request, hbuild, hrequest, hresolve, hsite⟩

end Http

end TemplateServer
