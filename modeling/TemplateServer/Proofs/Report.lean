import TemplateServer.Report

/-!
# Reports keep the cause

On its way to the user an error collects contexts, and `Fault.report` decides by the cause what is
shown of it. `report_keeps_cause` says what a user can rely on, whatever the contexts: the text of
the cause can be read in the report, the class of a failed request is that of its failure, and where
nothing better is known the report lists every text on the way down once, in order.

Causes fall into two kinds. The report of one that is `Known` has a text of its own, and the
contexts are left out (`report_of_known`). The report of any other is the list of the texts, which
has numbers from the second text on (`causeList_cons`).
-/

namespace TemplateServer

/-- The text of a cause without what is beneath it. -/
def Cause.text : Cause → String
  | failure f => f.message
  | io error _ => error.message
  | config diagnostic => diagnostic
  | message text _ => text

/-- Something better is known of the cause than the texts on the way to it. -/
def Cause.Known : Cause → Prop
  | failure _ | config _ => True
  | io error _ => error.kind = .permissionDenied ∨ error.kind = .addrInUse
  | message .. => False

/-- A text stands in a message as it is. -/
def Quotes (message text : String) : Prop := ∃ before after, message = before ++ text ++ after

namespace Quotes

theorem self (text : String) : Quotes text text := ⟨"", "", by simp⟩

theorem after {message text : String} (before : String) (h : Quotes message text) :
    Quotes (before ++ message) text := by
  obtain ⟨front, back, rfl⟩ := h
  exact ⟨before ++ front, back, by simp [String.append_assoc]⟩

theorem followed {message text : String} (h : Quotes message text) (rest : String) :
    Quotes (message ++ rest) text := by
  obtain ⟨front, back, rfl⟩ := h
  exact ⟨front, back ++ rest, by simp [String.append_assoc]⟩

end Quotes

/-! ## Lists of causes -/

/-- One cause on its line, under its number. -/
def numberedLine (cause : String × Nat) : String := s!"\n  {cause.2}: {cause.1}"

/-- Causes are numbered from the given number on, a line for each. -/
theorem numberedLines_eq (n : Nat) (causes : List String) :
    numberedLines n causes = String.join ((causes.zipIdx n).map numberedLine) := by
  induction causes generalizing n with
  | nil => rfl
  | cons cause causes ih =>
    rw [List.zipIdx_cons, List.map_cons, String.join_cons, ← ih (n + 1)]
    rfl

/-- The first text stands alone, and all others have numbers from 1 on. -/
theorem causeList_cons (text : String) (causes : List String) :
    causeList (text :: causes) =
      if causes = [] then text
      else text ++ "\n\nCaused by:" ++ String.join ((causes.zipIdx 1).map numberedLine) := by
  cases causes with
  | nil => rfl
  | cons cause causes =>
    rw [if_neg (List.cons_ne_nil _ _), ← numberedLines_eq]
    rfl

/-- Every cause is quoted. -/
theorem numberedLines_quotes {text : String} (n : Nat) {causes : List String} (h : text ∈ causes) :
    Quotes (numberedLines n causes) text := by
  induction causes generalizing n with
  | nil => cases h
  | cons cause causes ih =>
    rcases List.mem_cons.mp h with rfl | hrest
    · exact ((Quotes.self text).after s!"\n  {n}: ").followed (numberedLines (n + 1) causes)
    · exact (ih (n + 1) hrest).after s!"\n  {n}: {cause}"

/-- Every text can be read in the list. -/
theorem causeList_quotes {text : String} {texts : List String} (h : text ∈ texts) :
    Quotes (causeList texts) text := by
  cases texts with
  | nil => cases h
  | cons outermost causes =>
    cases causes with
    | nil =>
      rw [List.mem_singleton.mp h]
      exact .self outermost
    | cons cause causes =>
      rcases List.mem_cons.mp h with rfl | hrest
      · exact ((Quotes.self text).followed _).followed _
      · exact (numberedLines_quotes 1 hrest).after _

/-! ## Reports -/

/-- The text of a cause is one of those that are shown of it. -/
theorem Cause.text_mem_texts (cause : Cause) : cause.text ∈ cause.texts := by
  cases cause with
  | failure f => cases f <;> exact List.mem_cons_self
  | io => exact List.mem_cons_self
  | config => exact List.mem_cons_self
  | message => exact List.mem_cons_self

/-- An error of the operating system is reported as a failure of the dispatch, which is of the same
class. -/
theorem Failure.report_status (f : Failure) : f.report.failure.status = f.status := by
  cases f <;> rfl

/-- The report of a failed request quotes its text. -/
theorem Failure.report_quotes (f : Failure) : Quotes f.report.failure.message f.message := by
  cases f with
  | io error => exact (Quotes.self _).after "Dispatch failed: "
  | _ => exact .self _

namespace Fault

/-- The contexts do not matter where the cause is known. -/
theorem report_of_known {fault : Fault} (h : fault.cause.Known) :
    fault.report = (ofCause fault.cause).report := by
  obtain ⟨cause, contexts⟩ := fault
  cases cause with
  | failure => rfl
  | config => rfl
  | message => cases h
  | io error =>
    obtain ⟨kind, message⟩ := error
    rcases h with hkind | hkind <;> cases hkind <;> rfl

/-- Of any other cause all texts are listed. -/
theorem report_of_unknown {fault : Fault} (h : ¬fault.cause.Known) :
    fault.report = ⟨.dispatch (causeList fault.texts), none, none⟩ := by
  obtain ⟨cause, contexts⟩ := fault
  cases cause with
  | failure => exact absurd trivial h
  | config => exact absurd trivial h
  | message => rfl
  | io error =>
    obtain ⟨kind, message⟩ := error
    cases kind with
    | permissionDenied => exact absurd (.inl rfl) h
    | addrInUse => exact absurd (.inr rfl) h
    | notFound | invalidData | other => rfl

/-- The report of an error quotes its root cause. -/
theorem report_quotes (fault : Fault) : Quotes fault.report.failure.message fault.cause.text := by
  by_cases h : fault.cause.Known
  · rw [report_of_known h]
    cases hcause : fault.cause with
    | failure f => exact f.report_quotes
    | config diagnostic =>
      exact ((Quotes.self _).after "invalid configuration: ").after "Dispatch failed: "
    | message => rw [hcause] at h; cases h
    | io error =>
      obtain ⟨kind, message⟩ := error
      rw [hcause] at h
      rcases h with hkind | hkind
      · cases hkind
        exact ((Quotes.self _).after "permission denied: ").after "Dispatch failed: "
      · cases hkind
        exact ((Quotes.self _).after "listen address unavailable: ").after "Dispatch failed: "
  · rw [report_of_unknown h]
    have hmem : fault.cause.text ∈ fault.texts :=
      List.mem_append_right _ fault.cause.text_mem_texts
    exact (causeList_quotes hmem).after "Dispatch failed: "

/-- Whatever is not the failure of a request is reported as a failure of the dispatch. -/
theorem report_dispatch {fault : Fault} (h : ∀ f, fault.cause ≠ .failure f) :
    ∃ message, fault.report.failure = .dispatch message := by
  by_cases hknown : fault.cause.Known
  · rw [report_of_known hknown]
    cases hcause : fault.cause with
    | failure f => exact absurd hcause (h f)
    | config => exact ⟨_, rfl⟩
    | message => rw [hcause] at hknown; cases hknown
    | io error =>
      obtain ⟨kind, message⟩ := error
      cases kind <;> exact ⟨_, rfl⟩
  · rw [report_of_unknown hknown]
    exact ⟨_, rfl⟩

end Fault

/-- **Reports keep the root cause and its class.** Whatever contexts an error has collected, the
text of its cause can be read in what is shown. If a request has failed, the status shown is that of
its failure, and the caller is at fault as before; any other cause is shown with the status 500, and
is not the caller's fault. A cause that nothing better is known of is shown by the outermost text
alone, or by this and all other texts down to the last, each once, in order, numbered from 1. -/
theorem report_keeps_cause (fault : Fault) :
    Quotes fault.report.failure.message fault.cause.text ∧
    (∀ f, fault.cause = .failure f →
      fault.report.failure.status = f.status ∧
        fault.report.failure.isClientError = f.isClientError) ∧
    ((∀ f, fault.cause ≠ .failure f) →
      fault.report.failure.status = 500 ∧ fault.report.failure.isClientError = false) ∧
    (¬fault.cause.Known →
      ∃ outermost causes, fault.contexts ++ fault.cause.texts = outermost :: causes ∧
        fault.report.failure = .dispatch
          (if causes = [] then outermost
          else outermost ++ "\n\nCaused by:" ++
            String.join ((causes.zipIdx 1).map numberedLine))) := by
  refine ⟨fault.report_quotes, fun f hf => ?_, fun hother => ?_, fun hunknown => ?_⟩
  · have hreport : fault.report = f.report := by
      rw [Fault.report_of_known (by rw [hf]; trivial), hf]
      rfl
    have hstatus : fault.report.failure.status = f.status := by rw [hreport, f.report_status]
    refine ⟨hstatus, ?_⟩
    unfold Failure.isClientError
    rw [hstatus]
  · obtain ⟨message, hmessage⟩ := Fault.report_dispatch hother
    rw [hmessage]
    exact ⟨rfl, rfl⟩
  · have hne : fault.texts ≠ [] := List.ne_nil_of_mem
      (List.mem_append_right _ fault.cause.text_mem_texts)
    obtain ⟨outermost, causes, htexts⟩ := List.exists_cons_of_ne_nil hne
    refine ⟨outermost, causes, htexts, ?_⟩
    rw [Fault.report_of_unknown hunknown, htexts, causeList_cons]

/-- A file that is missing is not known better; what was being done when it was missed is. A request
that has failed keeps its class under any contexts. -/
theorem report_keeps_cause_missing :
    let missing : Fault :=
      ⟨.io ⟨.notFound, "No such file"⟩, ["Cannot start", "Failed to read config"]⟩
    let failed : Fault := ⟨.failure (.sourceNotFound "/p"), ["Cannot render"]⟩
    (¬missing.cause.Known ∧ (∀ f, missing.cause ≠ .failure f) ∧
      missing.report.failure.status = 500 ∧
      missing.report.failure =
        .dispatch "Cannot start\n\nCaused by:\n  1: Failed to read config\n  2: No such file") ∧
    failed.cause = .failure (.sourceNotFound "/p") ∧ failed.report.failure.status = 404 := by
  intro missing failed
  have hunknown : ¬missing.cause.Known := by
    rintro (h | h) <;> cases h
  have hother : ∀ f, missing.cause ≠ .failure f := fun f h => nomatch h
  obtain ⟨-, -, hstatus, hlist⟩ := report_keeps_cause missing
  obtain ⟨outermost, causes, htexts, hreport⟩ := hlist hunknown
  cases htexts
  refine ⟨⟨hunknown, hother, (hstatus hother).1, ?_⟩, rfl, ?_⟩
  · rw [hreport]
    decide
  · exact ((report_keeps_cause failed).2.1 _ rfl).1

end TemplateServer
