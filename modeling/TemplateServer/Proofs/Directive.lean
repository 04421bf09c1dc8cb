import TemplateServer.Directive
import TemplateServer.Proofs.Text.Occurrence

/-!
# The directive among the parameters

The directive is looked for in the query string as a whole. What is found there is what a reader of
the parameters would find: the first parameter that mentions the name decides, by what follows the
first mention in it, and the parameters after it do not matter (`detect_by_first_mention`). There is
no ampersand in the name, so no mention reaches from one parameter into the next, and the value is
cut where the parameter ends.
-/

namespace TemplateServer.Directive

/-- The texts between the ampersands of a query string. -/
def parameters (query : String) : List (List Char) := query.toList.splitOn '&'

/-- In the first parameter that mentions the name, `rest` follows the first mention. -/
def FirstMention (query : String) (rest : List Char) : Prop :=
  ∃ before parameter after lead,
    parameters query = before ++ parameter :: after ∧
    (∀ p ∈ before, ¬ name.toList <:+: p) ∧
    parameter = lead ++ name.toList ++ rest ∧
    ∀ lead' rest', parameter = lead' ++ name.toList ++ rest' → lead.length ≤ lead'.length

/-- What is decided by the text that follows the name in its parameter. -/
inductive Decides : List Char → Except Failure Bool → Prop
  | bare : Decides [] (.ok true)
  | yes : Decides ('=' :: "true".toList) (.ok true)
  /-- To ask for no compilation is to ask for one. -/
  | no : Decides ('=' :: "false".toList) (.ok true)
  | malformed {value : String} (hyes : value ≠ "true") (hno : value ≠ "false") :
      Decides ('=' :: value.toList) (.error (.malformedDirective name value))
  /-- The mention is part of some other name or value. -/
  | other {c : Char} {rest : List Char} (hc : c ≠ '=') : Decides (c :: rest) (.ok false)

theorem name_ne_nil : name.toList ≠ [] := by decide

theorem ampersand_not_mem_name : '&' ∉ name.toList := by decide

/-! ## What follows the name -/

section

variable {rest : List Char} {outcome : Except Failure Bool}

/-- What an assigned value decides. -/
def ofValue (value : String) : Except Failure Bool :=
  if value = "true" ∨ value = "false" then .ok true else .error (.malformedDirective name value)

/-- A value ends at the next ampersand. -/
theorem ofRest_assigned (rest : List Char) :
    ofRest ('=' :: rest) = ofValue (String.ofList (Text.cut (· == '&') rest).1) := by
  unfold ofRest ofValue
  simp

/-- A name that goes on is another name. -/
theorem ofRest_other {c : Char} (hamp : c ≠ '&') (heq : c ≠ '=') :
    ofRest (c :: rest) = .ok false := by
  unfold ofRest
  simp [hamp, heq]

theorem cut_of_not_mem (h : '&' ∉ rest) : Text.cut (· == '&') rest = (rest, none) := by
  refine Text.cut_eq_self fun c hc => ?_
  rw [beq_eq_false_iff_ne]
  exact fun heq => h (heq ▸ hc)

/-- What follows the name is looked at up to the next ampersand. -/
theorem ofRest_append (rest more : List Char) : ofRest (rest ++ '&' :: more) = ofRest rest := by
  cases rest with
  | nil => rfl
  | cons c rest =>
    rw [List.cons_append]
    by_cases hamp : c = '&'
    · rw [hamp]
      rfl
    · by_cases heq : c = '='
      · rw [heq, ofRest_assigned, ofRest_assigned, Text.cut_append_cons_fst _ _ (by rfl)]
      · rw [ofRest_other hamp heq, ofRest_other hamp heq]

/-- What stands behind the name decides. -/
theorem decides_ofRest (h : '&' ∉ rest) : Decides rest (ofRest rest) := by
  cases rest with
  | nil => exact .bare
  | cons c rest =>
    rw [List.mem_cons, not_or] at h
    by_cases heq : c = '='
    · subst heq
      obtain ⟨value, rfl⟩ : ∃ value : String, value.toList = rest :=
        ⟨String.ofList rest, String.toList_ofList⟩
      rw [ofRest_assigned, cut_of_not_mem h.2, String.ofList_toList]
      unfold ofValue
      split
      next hvalue =>
        rcases hvalue with rfl | rfl
        · exact .yes
        · exact .no
      next hvalue =>
        rw [not_or] at hvalue
        exact .malformed hvalue.1 hvalue.2
    · rw [ofRest_other (Ne.symm h.1) heq]
      exact .other heq

theorem ofRest_of_decides (h : '&' ∉ rest) (hd : Decides rest outcome) : ofRest rest = outcome := by
  cases hd with
  | bare => rfl
  | yes => rfl
  | no => rfl
  | @malformed value hyes hno =>
    rw [List.mem_cons, not_or] at h
    rw [ofRest_assigned, cut_of_not_mem h.2, String.ofList_toList]
    unfold ofValue
    rw [if_neg (by simp [hyes, hno])]
  | @other c rest hc =>
    rw [List.mem_cons, not_or] at h
    exact ofRest_other (Ne.symm h.1) hc

end

variable {query : String} {rest : List Char} {outcome : Except Failure Bool}

/-! ## Mentions -/

/-- A query is its parameters with ampersands between them. -/
theorem intercalate_parameters (query : String) :
    ['&'].intercalate (parameters query) = query.toList := List.intercalate_splitOn '&'

/-- No parameter has an ampersand. -/
theorem ampersand_not_mem {p : List Char} (h : p ∈ parameters query) : '&' ∉ p := by
  unfold parameters at h
  rw [List.splitOn_eq_splitOnP, ← Text.pieces_eq_splitOnP] at h
  intro hmem
  have hno := Text.not_isDelim_of_mem_pieces h hmem
  cases hno

/-- Where no parameter mentions the name, there is no directive. -/
theorem detect_of_unmentioned (h : ∀ p ∈ parameters query, ¬ name.toList <:+: p) :
    detect (some query) = .ok false := by
  have hfound := Text.suffixFrom?_intercalate_eq_none name_ne_nil ampersand_not_mem_name h
  rw [intercalate_parameters] at hfound
  unfold detect
  rw [Option.bind_some, hfound]

/-- The first mention is what is found. -/
theorem detect_of_firstMention (h : FirstMention query rest) :
    detect (some query) = ofRest rest := by
  obtain ⟨before, parameter, after, lead, hparameters, hbefore, rfl, hfirst⟩ := h
  have hlongest : Text.LongestFrom name.toList (lead ++ name.toList ++ rest)
      (name.toList ++ rest) := by
    refine ⟨⟨lead, (List.append_assoc _ _ _).symm⟩, List.prefix_append _ _, ?_⟩
    rintro zs ⟨lead', hlead⟩ ⟨rest', rfl⟩
    have hle := hfirst lead' rest' (by rw [← hlead, List.append_assoc])
    have hlength := congrArg List.length hlead
    simp only [List.length_append] at hlength ⊢
    omega
  obtain ⟨more, hfound, hmore⟩ := Text.suffixFrom?_intercalate name_ne_nil
    ampersand_not_mem_name hbefore (Text.suffixFrom?_eq_some_iff.mpr hlongest) after
  rw [← hparameters, intercalate_parameters] at hfound
  have hdrop : (name.toList ++ rest ++ more).drop name.length = rest ++ more := by
    rw [List.append_assoc]
    exact List.drop_left
  unfold detect
  rw [Option.bind_some, hfound]
  dsimp only
  rw [hdrop]
  rcases hmore with rfl | ⟨others, rfl⟩
  · rw [List.append_nil]
  · exact ofRest_append rest others

/-- Where a parameter mentions the name, there is a first mention. -/
theorem exists_firstMention (h : ∃ p ∈ parameters query, name.toList <:+: p) :
    ∃ rest, FirstMention query rest := by
  obtain ⟨p, hp, hmention⟩ := h
  obtain ⟨parameter, hfind⟩ : ∃ parameter, (parameters query).find?
      (fun p => decide (name.toList <:+: p)) = some parameter := by
    rw [← Option.isSome_iff_exists, List.find?_isSome]
    exact ⟨p, hp, decide_eq_true hmention⟩
  obtain ⟨hparameter, before, after, hparameters, hbefore⟩ :=
    List.find?_eq_some_iff_append.mp hfind
  obtain ⟨found, hfound⟩ : ∃ found, Text.suffixFrom? name.toList parameter = some found := by
    rw [← Option.ne_none_iff_exists']
    exact fun hnone => Text.suffixFrom?_eq_none_iff.mp hnone (of_decide_eq_true hparameter)
  obtain ⟨⟨lead, hlead⟩, ⟨rest, rfl⟩, hlongest⟩ := Text.longestFrom_of_suffixFrom? hfound
  refine ⟨rest, before, parameter, after, lead, hparameters, fun q hq => ?_, ?_, ?_⟩
  · simpa using hbefore q hq
  · rw [← hlead, List.append_assoc]
  · intro lead' rest' heq
    have hle := hlongest (name.toList ++ rest') ⟨lead', by rw [heq, List.append_assoc]⟩
      (List.prefix_append _ _)
    have hlength := congrArg List.length (hlead.trans heq)
    simp only [List.length_append] at hle hlength
    omega

/-- A query that holds the name has a parameter that mentions it. -/
theorem exists_mention (h : name.toList <:+: query.toList) :
    ∃ p ∈ parameters query, name.toList <:+: p := by
  by_cases hmention : ∃ p ∈ parameters query, name.toList <:+: p
  · exact hmention
  · have hnone := Text.suffixFrom?_intercalate_eq_none name_ne_nil ampersand_not_mem_name
      (fun p hp hp' => hmention ⟨p, hp, hp'⟩)
    rw [intercalate_parameters, Text.suffixFrom?_eq_none_iff] at hnone
    exact absurd h hnone

/-- Further parameters after a mention are not looked at. -/
theorem detect_append (h : name.toList <:+: query.toList) (more : String) :
    detect (some (query ++ "&" ++ more)) = detect (some query) := by
  obtain ⟨found, hfound⟩ : ∃ found, Text.suffixFrom? name.toList query.toList = some found := by
    rw [← Option.ne_none_iff_exists']
    exact fun hnone => Text.suffixFrom?_eq_none_iff.mp hnone h
  have hmore : (query ++ "&" ++ more).toList = query.toList ++ '&' :: more.toList := by simp
  obtain ⟨rest, rfl⟩ := (Text.longestFrom_of_suffixFrom? hfound).starts
  have hdrop (after : List Char) : (name.toList ++ after).drop name.length = after :=
    List.drop_left
  unfold detect
  rw [Option.bind_some, Option.bind_some, hmore, hfound, Text.suffixFrom?_append hfound]
  dsimp only
  rw [List.append_assoc, hdrop, hdrop]
  exact ofRest_append rest more.toList

/-- The rest behind a mention is within its parameter. -/
theorem FirstMention.ampersand_not_mem (h : FirstMention query rest) : '&' ∉ rest := by
  obtain ⟨before, parameter, after, lead, hparameters, -, rfl, -⟩ := h
  have hmem : lead ++ name.toList ++ rest ∈ parameters query := by
    rw [hparameters]
    exact List.mem_append_right _ List.mem_cons_self
  exact fun hrest => Directive.ampersand_not_mem hmem (List.mem_append_right _ hrest)

/-- **The first parameter that mentions the directive decides.** A query in which no parameter
mentions it, or no query, asks for nothing. Otherwise the text that follows the first mention in the
first parameter with a mention decides: nothing, or the value `true` or `false`, is the directive,
any other value is malformed, and any other text makes the mention a part of something else. So what
is added after a mention, as further parameters, changes nothing. -/
theorem detect_by_first_mention :
    detect none = .ok false ∧
    ∀ query : String,
      (∀ outcome, detect (some query) = outcome ↔
        (∀ p ∈ parameters query, ¬ name.toList <:+: p) ∧ outcome = .ok false ∨
          ∃ rest, FirstMention query rest ∧ Decides rest outcome) ∧
      (name.toList <:+: query.toList →
        (∃ rest, FirstMention query rest) ∧
          ∀ more, detect (some (query ++ "&" ++ more)) = detect (some query)) := by
  refine ⟨rfl, fun query => ⟨fun outcome => ⟨?_, ?_⟩, fun h => ⟨?_, fun more => ?_⟩⟩⟩
  · rintro rfl
    by_cases h : ∃ p ∈ parameters query, name.toList <:+: p
    · obtain ⟨rest, hfirst⟩ := exists_firstMention h
      rw [detect_of_firstMention hfirst]
      exact .inr ⟨rest, hfirst, decides_ofRest hfirst.ampersand_not_mem⟩
    · have hno : ∀ p ∈ parameters query, ¬ name.toList <:+: p := fun p hp hmention =>
        h ⟨p, hp, hmention⟩
      exact .inl ⟨hno, detect_of_unmentioned hno⟩
  · rintro (⟨h, rfl⟩ | ⟨rest, hfirst, hdecides⟩)
    · exact detect_of_unmentioned h
    · rw [detect_of_firstMention hfirst]
      exact ofRest_of_decides hfirst.ampersand_not_mem hdecides
  · exact exists_firstMention (exists_mention h)
  · exact detect_append h more

/-- The directive stands inside the value of one parameter and again in the next, where it is
malformed. -/
theorem detect_by_first_mention_hidden :
    let query := "größe=jsp_precompile=true&jsp_precompile=no"
    name.toList <:+: query.toList ∧
      (∃ rest, FirstMention query rest) ∧
        ∀ more, detect (some (query ++ "&" ++ more)) = detect (some query) := by
  intro query
  have hmention : name.toList <:+: query.toList :=
    ⟨"größe=".toList, "=true&jsp_precompile=no".toList, by simp [name, query]⟩
  exact ⟨hmention, (detect_by_first_mention.2 query).2 hmention⟩

example :
    detect (some "größe=jsp_precompile=true&jsp_precompile=no") = .ok true ∧
      detect (some "jsp_precompiled=true&jsp_precompile") = .ok false ∧
      detect (some "a&b=jsp_precompile=jsp_precompile&jsp_precompile") =
        .error (.malformedDirective "jsp_precompile" "jsp_precompile") := ⟨rfl, rfl, rfl⟩

end TemplateServer.Directive
