import TemplateServer.Config
import TemplateServer.Proofs.Files.Make
import TemplateServer.Proofs.Toml.RoundTrip

/-!
# Settings survive their file, key by key

`Config.survives_its_file`: settings that are saved are loaded again as they were, whatever
characters their texts are made of, and a document that gives only some settings leaves all others
at their defaults. Between the two stands the document: `plain_document` says that the settings can
be written down and read back, and `foldlM_take` that a document of entries that are the settings'
own takes just these over (`taking`), be they given in whatever order. A key that is none of the
settings is refused, and the document with it (`foldlM_take_error`).
-/

namespace TemplateServer.Config

variable {c base : Config} {document : Toml.Document} {given : String → Bool}
  {e : String × Toml.Value} {name path text : String} {files saved : Files.Tree}

/-- The keys of the settings. -/
def keys : List String :=
  ["root", "listen", "development", "check_interval_secs", "error_page", "templates"]

/-- Settings that are those of `c` under the given keys, and those of `base` under all others. -/
def taking (base : Config) (given : String → Bool) (c : Config) : Config where
  root := if given "root" then c.root else base.root
  listen := if given "listen" then c.listen else base.listen
  development := if given "development" then c.development else base.development
  checkIntervalSecs :=
    if given "check_interval_secs" then c.checkIntervalSecs else base.checkIntervalSecs
  errorPage := if given "error_page" then c.errorPage else base.errorPage
  templates := if given "templates" then c.templates else base.templates

/-- The interval can be written into a document. -/
def Writable (c : Config) : Prop := (c.checkIntervalSecs : Int) ≤ Toml.maxInteger

/-! ## Documents of settings -/

/-- One setting of a document. -/
def take (c : Config) (e : String × Toml.Value) : Except String Config :=
  match c.set? e.1 e.2 with
  | some c => .ok c
  | none => .error e.1

theorem ofDocument_eq (document : Toml.Document) :
    ofDocument document = document.foldlM take standard := rfl

/-- What stands in the document of some settings: each under its key, and no page if there is
none. -/
theorem mem_document :
    e ∈ c.document ↔
      e = ("root", .text c.root) ∨ e = ("listen", .text c.listen) ∨
      e = ("development", .flag c.development) ∨
      e = ("check_interval_secs", .integer c.checkIntervalSecs) ∨
      (∃ page, c.errorPage = some page ∧ e = ("error_page", .text page)) ∨
      e = ("templates", .texts c.templates) := by
  unfold Config.document
  cases c.errorPage with
  | none => simp
  | some page => simp

/-- A document has no keys but those of the settings. -/
theorem mem_keys_of_mem (he : e ∈ c.document) : e.1 ∈ keys := by
  rcases mem_document.mp he with rfl | rfl | rfl | rfl | ⟨page, -, rfl⟩ | rfl <;> simp [keys]

/-- Only the settings that a document can give matter. -/
theorem taking_congr {given' : String → Bool} (h : ∀ e ∈ c.document, given e.1 = given' e.1) :
    standard.taking given c = standard.taking given' c := by
  have hroot := h _ (mem_document.mpr (.inl rfl))
  have hlisten := h _ (mem_document.mpr (.inr (.inl rfl)))
  have hdevelopment := h _ (mem_document.mpr (.inr (.inr (.inl rfl))))
  have hinterval := h _ (mem_document.mpr (.inr (.inr (.inr (.inl rfl)))))
  have htemplates := h _ (mem_document.mpr (.inr (.inr (.inr (.inr (.inr rfl))))))
  have hpage : (if given "error_page" then c.errorPage else standard.errorPage) =
      if given' "error_page" then c.errorPage else standard.errorPage := by
    cases herror : c.errorPage with
    | none => simp [standard]
    | some page =>
      rw [h _ (mem_document.mpr (.inr (.inr (.inr (.inr (.inl ⟨page, herror, rfl⟩))))))]
  simp only [taking, hroot, hlisten, hdevelopment, hinterval, htemplates, hpage]

/-- A setting replaces the one that is there. -/
theorem set?_of_mem (hc : c.Writable) (he : e ∈ c.document) (base : Config) :
    ∃ next, base.set? e.1 e.2 = some next ∧
      ∀ given, next.taking given c = base.taking (fun name => e.1 == name || given name) c := by
  have hseconds : (c.checkIntervalSecs : Int) ≤ maxSeconds :=
    Int.le_trans hc (by decide)
  rcases mem_document.mp he with rfl | rfl | rfl | rfl | ⟨page, hpage, rfl⟩ | rfl
  · exact ⟨{ base with root := c.root }, rfl, fun given => by simp [taking]⟩
  · exact ⟨{ base with listen := c.listen }, rfl, fun given => by simp [taking]⟩
  · exact ⟨{ base with development := c.development }, rfl, fun given => by simp [taking]⟩
  · exact ⟨{ base with checkIntervalSecs := c.checkIntervalSecs }, by simp [set?, hseconds],
      fun given => by simp [taking]⟩
  · exact ⟨{ base with errorPage := some page }, rfl, fun given => by simp [taking, hpage]⟩
  · exact ⟨{ base with templates := c.templates }, rfl, fun given => by simp [taking]⟩

/-- A document of settings of `c` takes over those that it gives. -/
theorem foldlM_take (hc : c.Writable) (h : ∀ e ∈ document, e ∈ c.document) (base : Config) :
    document.foldlM take base = .ok (base.taking (fun name => document.any (·.1 == name)) c) := by
  induction document generalizing base with
  | nil => rfl
  | cons e document ih =>
    obtain ⟨next, hset, htaking⟩ := set?_of_mem hc (h e List.mem_cons_self) base
    have htake : base.take e = .ok next := by rw [take, hset]
    rw [List.foldlM_cons, htake]
    simp only [List.any_cons, ← htaking]
    exact ih (fun e he => h e (List.mem_cons_of_mem _ he)) next

/-- No other key can be set. -/
theorem set?_eq_none (h : name ∉ keys) (value : Toml.Value) (c : Config) :
    c.set? name value = none := by
  unfold set?
  split
  next => exact absurd (by decide) h
  next => exact absurd (by decide) h
  next => exact absurd (by decide) h
  next => exact absurd (by decide) h
  next => exact absurd (by decide) h
  next => exact absurd (by decide) h
  next => rfl

/-- A document with a key that is no setting is refused. Where all its settings are those of `c`, it
is for such a key. -/
theorem foldlM_take_error (hc : c.Writable) (h : ∃ e ∈ document, e.1 ∉ keys) (base : Config) :
    ∃ name, document.foldlM take base = .error name ∧
      ((∀ e ∈ document, e.1 ∈ keys → e ∈ c.document) → name ∉ keys) := by
  induction document generalizing base with
  | nil =>
    obtain ⟨e, he, -⟩ := h
    cases he
  | cons e document ih =>
    rw [List.foldlM_cons]
    cases hset : base.set? e.1 e.2 with
    | none =>
      have htake : base.take e = .error e.1 := by rw [take, hset]
      rw [htake]
      refine ⟨e.1, rfl, fun hown hkey => ?_⟩
      obtain ⟨next, hnext, -⟩ := set?_of_mem hc (hown e List.mem_cons_self hkey) base
      rw [hset] at hnext
      cases hnext
    | some next =>
      have htake : base.take e = .ok next := by rw [take, hset]
      have hrest : ∃ e ∈ document, e.1 ∉ keys := by
        obtain ⟨other, hother, hkey⟩ := h
        rcases List.mem_cons.mp hother with rfl | hother
        · rw [set?_eq_none hkey] at hset
          cases hset
        · exact ⟨other, hother, hkey⟩
      rw [htake]
      obtain ⟨name, herror, hname⟩ := ih hrest next
      exact ⟨name, herror, fun hown => hname fun e he => hown e (List.mem_cons_of_mem _ he)⟩

/-- The keys of the settings need no quotes. -/
theorem isBareKey_of_mem_keys (h : name ∈ keys) : Toml.IsBareKey name := by
  have hkeys : (keys.all fun name => name != "" && name.toList.all Toml.isBareKeyChar) = true := by
    decide +kernel
  obtain ⟨hne, hbare⟩ := Bool.and_eq_true_iff.mp (List.all_eq_true.mp hkeys name h)
  exact ⟨bne_iff_ne.mp hne, List.all_eq_true.mp hbare⟩

/-- Settings can be written down. -/
theorem plain_document (hc : c.Writable) : Toml.Plain c.document where
  bare e he := isBareKey_of_mem_keys (mem_keys_of_mem he)
  distinct := by
    unfold Config.document
    cases c.errorPage with
    | none => simp
    | some page => simp
  fits e he := by
    rcases mem_document.mp he with rfl | rfl | rfl | rfl | ⟨page, -, rfl⟩ | rfl
    · trivial
    · trivial
    · trivial
    · exact ⟨Int.le_trans (by decide) (Int.natCast_nonneg _), hc⟩
    · trivial
    · trivial

/-! ## Texts -/

/-- A text that gives the settings under some keys. -/
theorem parse_given (hc : c.Writable) (hread : Toml.read text = .ok document)
    (h : ∀ e, e ∈ document ↔ e ∈ c.document ∧ given e.1 = true) :
    parse text = .ok (standard.taking given c) := by
  have htake := foldlM_take hc (fun e he => ((h e).mp he).1) standard
  have hgiven : standard.taking (fun name => document.any (·.1 == name)) c =
      standard.taking given c := by
    refine taking_congr fun e he => ?_
    rw [Bool.eq_iff_iff, List.any_eq_true]
    constructor
    · rintro ⟨other, hother, hname⟩
      exact beq_iff_eq.mp hname ▸ ((h other).mp hother).2
    · intro hname
      exact ⟨e, (h e).mpr ⟨he, hname⟩, beq_self_eq_true e.1⟩
  simp only [parse, hread, ofDocument_eq, htake, hgiven]

/-- The text of all settings. -/
theorem parse_write (hc : c.Writable) : parse (Toml.write c.document) = .ok c := by
  have hall : parse (Toml.write c.document) = .ok (standard.taking (fun _ => true) c) :=
    parse_given hc (Toml.read_write (plain_document hc)) fun e => (and_iff_left rfl).symm
  exact hall

/-- A text with a key that is no setting. -/
theorem parse_refused (hc : c.Writable) (hread : Toml.read text = .ok document)
    (h : ∃ e ∈ document, e.1 ∉ keys) :
    ∃ name, parse text = .error (.refused name) ∧
      ((∀ e ∈ document, e.1 ∈ keys → e ∈ c.document) → name ∉ keys) := by
  obtain ⟨name, herror, hname⟩ := foldlM_take_error hc h standard
  refine ⟨name, ?_, hname⟩
  simp only [parse, hread, ofDocument_eq, herror]

/-! ## Files -/

/-- A text that gives settings is loaded. -/
theorem load_of_parse (hread : files.readText path = .ok text) (hparse : parse text = .ok c) :
    load path files = .ok c := by
  simp only [load, hread, hparse]

/-- A text that gives no settings is reported with its file. -/
theorem load_of_not_parsed {error : ParseError} (hread : files.readText path = .ok text)
    (hparse : parse text = .error error) :
    load path files = .error ((Fault.ofCause (.config error.message)).inContext
      s!"Failed to parse config from {path}") := by
  simp only [load, hread, hparse]

/-- The directory that a file of settings stands in. -/
def directory (path : String) : String := (Files.parent? path).getD ""

/-! ### Saving is to make the directory and to write the text -/

section

variable {made : Files.Tree} {refusal : Files.Refusal}

/-- Settings are saved if their directory can be made and their text can be written. -/
theorem save_of_written (hc : c.Writable)
    (hmake : files.makeDirectories (directory path) = .ok made)
    (hwrite : made.writeText path (Toml.write c.document) = .ok saved) :
    save path c files = .ok saved := by
  have htext : c.write = .ok (Toml.write c.document) := if_neg (Int.not_lt.mpr hc)
  unfold directory at hmake
  simp only [save, hmake, htext, Except.bind, hwrite]

/-- If the text cannot be written, it is said of which file. -/
theorem save_of_not_written (hc : c.Writable)
    (hmake : files.makeDirectories (directory path) = .ok made)
    (hwrite : made.writeText path (Toml.write c.document) = .error refusal) :
    save path c files = .error ((Fault.ofCause (.io refusal.error)).inContext
      s!"Failed to write config to {path}") := by
  have htext : c.write = .ok (Toml.write c.document) := if_neg (Int.not_lt.mpr hc)
  unfold directory at hmake
  simp only [save, hmake, htext, Except.bind, hwrite]

/-- If the directory cannot be made, it is said which. -/
theorem save_of_not_made (hmake : files.makeDirectories (directory path) = .error refusal) :
    save path c files = .error ((Fault.ofCause (.io refusal.error)).inContext
      s!"Failed to create config directory: {directory path}") := by
  unfold directory at hmake ⊢
  simp only [save, hmake]

/-- What was saved is loaded. -/
theorem load_save (hc : c.Writable) (h : save path c files = .ok saved) :
    load path saved = .ok c := by
  cases hmake : files.makeDirectories (directory path) with
  | error refusal =>
    rw [save_of_not_made hmake] at h
    cases h
  | ok made =>
    cases hwrite : made.writeText path (Toml.write c.document) with
    | error refusal =>
      rw [save_of_not_written hc hmake hwrite] at h
      cases h
    | ok saved' =>
      rw [save_of_written hc hmake hwrite] at h
      obtain rfl := Except.ok.inj h
      exact load_of_parse (Files.Tree.readText_writeText hwrite) (parse_write hc)

/-- Whether settings can be saved is up to the files and the path. -/
theorem save_cases (path : String) (files : Files.Tree) :
    (∀ c : Config, c.Writable → ∃ saved, save path c files = .ok saved) ∨
      ∃ error context, ∀ c : Config, c.Writable →
        save path c files = .error ((Fault.ofCause (.io error)).inContext context) := by
  cases hmake : files.makeDirectories (directory path) with
  | error refusal => exact .inr ⟨_, _, fun c _ => save_of_not_made hmake⟩
  | ok made =>
    rcases Files.Tree.writeText_cases path made with ⟨refusal, hrefused⟩ | hwritten
    · exact .inr ⟨_, _, fun c hc => save_of_not_written hc hmake (hrefused _)⟩
    · refine .inl fun c hc => ?_
      obtain ⟨saved, hsaved⟩ := hwritten (Toml.write c.document)
      exact ⟨saved, save_of_written hc hmake hsaved⟩

end

/-- Settings can be saved where there is room for a file. -/
theorem save_of_hasRoom (hc : c.Writable) {names : List String} (h : files.HasRoom names name) :
    ∃ saved, save (relativePath (names ++ [name])) c files = .ok saved := by
  obtain ⟨made, hmake, hwrite⟩ := h.writeText
  obtain ⟨saved, hsaved⟩ := hwrite (Toml.write c.document)
  have hdirectory : directory (relativePath (names ++ [name])) = relativePath names := by
    rw [directory, Files.parent?_relativePath h.components, Option.getD_some]
  exact ⟨saved, save_of_written hc (by rw [hdirectory]; exact hmake) hsaved⟩

/-- **Settings survive their file, key by key.** Settings that are saved are loaded again as they
were; saving goes wrong only where the system refuses the file, whatever the settings are, and not
where there is room for it. A document that gives the settings under some keys, in any order, loads
to these settings and to the defaults under all other keys, and there is such a document for every
choice of keys. A document with a key that is no setting is refused; if its settings are otherwise
those of `c`, it is refused for such a key. -/
theorem survives_its_file (c : Config) (hc : c.Writable) :
    (∀ path files saved, save path c files = .ok saved → load path saved = .ok c) ∧
    (∀ path files,
      (∃ saved, save path c files = .ok saved) ∨
        ∃ error context, ∀ other : Config, other.Writable →
          save path other files = .error ((Fault.ofCause (.io error)).inContext context)) ∧
    (∀ names name, ∀ files : Files.Tree, files.HasRoom names name →
      ∃ saved, save (relativePath (names ++ [name])) c files = .ok saved) ∧
    (∀ (given : String → Bool) (document : Toml.Document) (text path : String)
      (files : Files.Tree),
      Toml.read text = .ok document →
      (∀ e, e ∈ document ↔ e ∈ c.document ∧ given e.1 = true) →
      files.readText path = .ok text →
      load path files = .ok (standard.taking given c)) ∧
    (∀ given : String → Bool, ∃ document : Toml.Document,
      Toml.read (Toml.write document) = .ok document ∧
        ∀ e, e ∈ document ↔ e ∈ c.document ∧ given e.1 = true) ∧
    (∀ (document : Toml.Document) (text path : String) (files : Files.Tree),
      Toml.read text = .ok document →
      (∃ e ∈ document, e.1 ∉ keys) →
      files.readText path = .ok text →
      (∃ diagnostic, load path files = .error ((Fault.ofCause (.config diagnostic)).inContext
        s!"Failed to parse config from {path}")) ∧
      ∃ name, parse text = .error (.refused name) ∧
        ((∀ e ∈ document, e.1 ∈ keys → e ∈ c.document) → name ∉ keys)) := by
  refine ⟨fun path files saved h => load_save hc h, fun path files => ?_,
    fun names name files h => save_of_hasRoom hc h, ?_, fun given => ?_, ?_⟩
  · exact (save_cases path files).imp (fun h => h c hc) id
  · intro given document text path files hread h hfile
    exact load_of_parse hfile (parse_given hc hread h)
  · refine ⟨c.document.filter fun e => given e.1, ?_, fun e => List.mem_filter⟩
    exact Toml.read_write ((plain_document hc).filter _)
  · intro document text path files hread hother hfile
    obtain ⟨name, hrefused, hname⟩ := parse_refused hc hread hother
    exact ⟨⟨_, load_of_not_parsed hfile hrefused⟩, name, hrefused, hname⟩

/-- Settings with characters of all kinds are saved below a directory that is made for them; of a
document with two settings the others are the defaults, and one with a misspelled key is refused. -/
theorem survives_its_file_quoted :
    let c : Config :=
      { root := "it's \"C:\\srv\"", listen := "", development := false, checkIntervalSecs := 9
        errorPage := none, templates := ["a\nb\r\t'''", "\x00\x7f", "*.tpl"] }
    let here := Files.Tree.workingIn ["srv"]
    let two := "development = false # no\nlisten = ''\n"
    let misspelled := "development = false\ntemplate = []\n"
    c.Writable ∧
      (∃ saved, save "conf/a.toml" c here = .ok saved ∧ load "conf/a.toml" saved = .ok c) ∧
      (∃ files, here.writeText "b.toml" two = .ok files ∧
        load "b.toml" files = .ok { standard with listen := "", development := false }) ∧
      ∃ files, here.writeText "b.toml" misspelled = .ok files ∧
        (∃ diagnostic, load "b.toml" files = .error ((Fault.ofCause (.config diagnostic)).inContext
          "Failed to parse config from b.toml")) ∧
        ∃ name ∉ keys, parse misspelled = .error (.refused name) := by
  intro c here two misspelled
  have hc : c.Writable := show (9 : Int) ≤ Toml.maxInteger by decide
  obtain ⟨hload, -, hsave, hgiven, -, hrefused⟩ := survives_its_file c hc
  have hwrite : ∀ text, ∃ files, here.writeText "b.toml" text = .ok files := by
    have hname : IsComponent "b.toml" :=
      ⟨by decide, by decide, by decide, by decide, by decide, by decide⟩
    obtain ⟨made, hmake, hwrite⟩ :=
      (Files.Tree.hasRoom_here (t := here) rfl hname ⟨by simp, .inl rfl⟩).writeText
    obtain rfl : here = made := Except.ok.inj hmake
    exact hwrite
  refine ⟨hc, ?_, ?_, ?_⟩
  · have hroom : here.HasRoom ["conf"] "a.toml" :=
      { here := rfl
        clear := ⟨.inr rfl, trivial⟩
        components := by
          intro n hn
          rcases List.mem_cons.mp hn with rfl | hn
          · exact ⟨by decide, by decide, by decide, by decide, by decide, by decide⟩
          · obtain rfl := List.mem_singleton.mp hn
            exact ⟨by decide, by decide, by decide, by decide, by decide, by decide⟩
        takesFile := ⟨by simp, .inl rfl⟩
        short := by decide +kernel }
    obtain ⟨saved, hsaved⟩ := hsave ["conf"] "a.toml" here hroom
    have hpath : relativePath (["conf"] ++ ["a.toml"]) = "conf/a.toml" := by decide +kernel
    rw [hpath] at hsaved
    exact ⟨saved, hsaved, hload _ _ _ hsaved⟩
  · obtain ⟨files, hfiles⟩ := hwrite two
    refine ⟨files, hfiles, ?_⟩
    refine hgiven (fun name => name == "listen" || name == "development")
      [("development", .flag false), ("listen", .text "")] two _ _ (by decide +kernel) ?_
      (Files.Tree.readText_writeText hfiles)
    intro e
    rw [mem_document]
    constructor
    · intro he
      rcases List.mem_cons.mp he with rfl | he
      · simp [c]
      · obtain rfl := List.mem_singleton.mp he
        simp [c]
    · rintro ⟨rfl | rfl | rfl | rfl | ⟨page, hpage, rfl⟩ | rfl, hgiven⟩ <;> simp [c] at *
  · obtain ⟨files, hfiles⟩ := hwrite misspelled
    obtain ⟨hfails, name, hparse, hname⟩ := hrefused
      [("development", .flag false), ("template", .texts [])] misspelled _ _ (by decide +kernel)
      (by simp [keys]) (Files.Tree.readText_writeText hfiles)
    exact ⟨files, hfiles, hfails, name, hname (by simp [keys, mem_document, c]), hparse⟩

end TemplateServer.Config
