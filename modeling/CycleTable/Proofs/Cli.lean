import CycleTable.Cli
import CycleTable.Proofs.Cli.Request
import CycleTable.Proofs.Scan.Names
import CycleTable.Proofs.Scan.Strict

/-! # How a run ends

A run of the command writes the whole list on one line, or nothing at all. Which of the two, and
the exit code, is decided by the command line, by the page it asks for and by the scan of that
page. The log has no say in it, and neither has what the command line does not ask for. All this
holds whatever the readers of command lines, pages and settings are.
-/
namespace CycleTable.Cli

variable {Argument Fault Config : Type}

/-- The policy that a selector stands for. -/
inductive Selects : PolicySelector → Policy → Prop
  | lenient : Selects .lenient .lenient
  | strict : Selects .strict .strict

def Asks (command : Command Argument Fault Config) (arguments : List Argument)
    (path : Option PagePath) (policy : Policy) : Prop :=
  ∃ selector, command.request arguments = .ok (.extract ⟨path, selector⟩) ∧
    Selects selector policy

def Refuses (command : Command Argument Fault Config) (arguments : List Argument) : Prop :=
  ∃ fault, command.request arguments = .error fault

section Page

variable (files : PagePath → Except ReadFailure ByteArray) (input : ByteArray)

/-- The bytes of the page that is asked for. They come from the standard input without a path,
and if the path is a dash; else they come from the file with that path. -/
inductive PageBytes : Option PagePath → ByteArray → Prop
  | absent : PageBytes none input
  | dash {path : PagePath} (hpath : path.NamesInput) : PageBytes (some path) input
  | file {path : PagePath} {bytes : ByteArray} (hpath : ¬ path.NamesInput)
    (hread : files path = .ok bytes) : PageBytes (some path) bytes

def Readable (path : Option PagePath) (page : String) : Prop :=
  ∃ bytes, PageBytes files input path bytes ∧ String.fromUTF8? bytes = some page

end Page

section Run

variable (command : Command Argument Fault Config)
  (files : PagePath → Except ReadFailure ByteArray) (input : ByteArray)

/-- A command line that is accepted, whose page can be read, and whose policy lets the scan of
the page give a list. -/
inductive Prints (arguments : List Argument) (text : String) : Prop
  | list {path : Option PagePath} {policy : Policy} {page : String}
    (hasks : Asks command arguments path policy) (hpage : Readable files input path page)
    (hscan : Scan.extract (tableOfRows (command.rows page)) policy = .ok text) :
    Prints arguments text

/-- A command line that is accepted and fails: its page cannot be read, or the scan of the page
meets a cell that it does not accept. -/
inductive Fails (arguments : List Argument) : Prop
  | unreadable {path : Option PagePath} {policy : Policy}
    (hasks : Asks command arguments path policy)
    (hpage : ¬ ∃ page, Readable files input path page) : Fails arguments
  | scan {path : Option PagePath} {policy : Policy} {page : String} {error : ScanError}
    (hasks : Asks command arguments path policy) (hpage : Readable files input path page)
    (hscan : Scan.extract (tableOfRows (command.rows page)) policy = .error error) :
    Fails arguments

/-- What is seen of a run from outside when the command line does not ask for help: the whole
list on one line, or nothing and the reason in the exit code. -/
structure Ends (arguments : List Argument) (outcome : Outcome) : Prop where
  printed_iff : outcome.exit = 0 ↔ ∃ text, Prints command files input arguments text
  refused_iff : outcome.exit = 2 ↔ Refuses command arguments
  failed_iff : outcome.exit = 1 ↔ Fails command files input arguments
  whole : ∀ text, Prints command files input arguments text →
    outcome.output = text ++ "\n" ∧ outcome.output.toList.count '\n' = 1
  nothing : (¬ ∃ text, Prints command files input arguments text) → outcome.output = ""

end Run

def Outcome.Agrees (left right : Outcome) : Prop :=
  left.exit = right.exit ∧ left.output = right.output

variable {command : Command Argument Fault Config}
  {files : PagePath → Except ReadFailure ByteArray} {input : ByteArray}
  {arguments : List Argument} {path : Option PagePath} {policy : Policy}

theorem selects_iff {selector : PolicySelector} :
    Selects selector policy ↔ selector.policy = policy := by
  constructor
  · intro h
    cases h with
    | lenient => rfl
    | strict => rfl
  · rintro rfl
    cases selector with
    | lenient => exact .lenient
    | strict => exact .strict

theorem decode_eq_ok_iff {bytes : ByteArray} {page : String} :
    decode bytes = .ok page ↔ String.fromUTF8? bytes = some page := by
  unfold decode
  cases String.fromUTF8? bytes <;> simp

theorem pageBytes_none_iff {bytes : ByteArray} :
    PageBytes files input none bytes ↔ bytes = input := by
  constructor
  · rintro ⟨⟩
    rfl
  · rintro rfl
    exact .absent

theorem pageBytes_of_dash {name : PagePath} {bytes : ByteArray} (h : name.NamesInput) :
    PageBytes files input (some name) bytes ↔ bytes = input := by
  constructor
  · intro hbytes
    cases hbytes with
    | dash => rfl
    | file hname => exact absurd h hname
  · rintro rfl
    exact .dash h

theorem pageBytes_of_file {name : PagePath} {bytes : ByteArray} (h : ¬ name.NamesInput) :
    PageBytes files input (some name) bytes ↔ files name = .ok bytes := by
  constructor
  · intro hbytes
    cases hbytes with
    | dash hname => exact absurd hname h
    | file _ hread => exact hread
  · exact PageBytes.file h

theorem readPage_eq_ok_iff {page : String} :
    readPage files input path = .ok page ↔ Readable files input path page := by
  cases path with
  | none =>
    simp only [readPage, Readable, pageBytes_none_iff, exists_eq_left, decode_eq_ok_iff]
  | some name =>
    rw [readPage]
    by_cases h : name.NamesInput
    · rw [if_pos (PagePath.isDash_iff.2 h)]
      simp only [Readable, pageBytes_of_dash h, exists_eq_left, decode_eq_ok_iff]
    · rw [if_neg (mt PagePath.isDash_iff.1 h)]
      simp only [Readable, pageBytes_of_file h, bind_eq_ok_iff, decode_eq_ok_iff]

theorem run_eq_of_asks (h : Asks command arguments path policy) :
    command.run files input arguments = command.extract policy (readPage files input path) := by
  obtain ⟨selector, hrequest, hselects⟩ := h
  rw [Command.run, hrequest, ← selects_iff.1 hselects]

theorem run_of_prints {text : String} (h : Prints command files input arguments text) :
    (command.run files input arguments).exit = 0 ∧
      (command.run files input arguments).output = text ++ "\n" := by
  obtain ⟨hasks, hpage, hscan⟩ := h
  rw [run_eq_of_asks hasks, readPage_eq_ok_iff.2 hpage]
  simp only [Command.extract, hscan]
  exact ⟨trivial, trivial⟩

theorem run_of_refused (h : Refuses command arguments) :
    (command.run files input arguments).exit = 2 ∧
      (command.run files input arguments).output = "" := by
  obtain ⟨fault, hfault⟩ := h
  rw [Command.run, hfault]
  exact ⟨rfl, rfl⟩

theorem run_of_fails (h : Fails command files input arguments) :
    (command.run files input arguments).exit = 1 ∧
      (command.run files input arguments).output = "" := by
  cases h with
  | unreadable hasks hpage =>
    rw [run_eq_of_asks hasks]
    cases hread : readPage files input _ with
    | error failure => exact ⟨rfl, rfl⟩
    | ok page => exact absurd ⟨page, readPage_eq_ok_iff.1 hread⟩ hpage
  | scan hasks hpage hscan =>
    rw [run_eq_of_asks hasks, readPage_eq_ok_iff.2 hpage]
    simp only [Command.extract, hscan]
    exact ⟨trivial, trivial⟩

theorem prints_or_fails (h : Asks command arguments path policy) :
    (∃ text, Prints command files input arguments text) ∨
      Fails command files input arguments := by
  by_cases hpage : ∃ page, Readable files input path page
  · obtain ⟨page, hpage⟩ := hpage
    cases hscan : Scan.extract (tableOfRows (command.rows page)) policy with
    | ok text => exact Or.inl ⟨text, .list h hpage hscan⟩
    | error error => exact Or.inr (.scan h hpage hscan)
  · exact Or.inr (.unreadable h hpage)

theorem ending_cases (h : command.request arguments ≠ .ok .help) :
    (∃ text, Prints command files input arguments text) ∨
      Fails command files input arguments ∨ Refuses command arguments := by
  cases hrequest : command.request arguments with
  | error fault => exact Or.inr (Or.inr ⟨fault, hrequest⟩)
  | ok request =>
    cases request with
    | help => exact absurd hrequest h
    | extract asked =>
      have hasks : Asks command arguments asked.page asked.onMalformed.policy :=
        ⟨asked.onMalformed, hrequest, selects_iff.2 rfl⟩
      exact (prints_or_fails hasks).imp_right Or.inl

/-- The three endings have different exit codes, so that each code names its ending. -/
theorem ending_of_exit {code : Nat} (h : command.request arguments ≠ .ok .help)
    (hexit : (command.run files input arguments).exit = code) :
    code = 0 ∧ (∃ text, Prints command files input arguments text) ∨
    code = 1 ∧ Fails command files input arguments ∨
    code = 2 ∧ Refuses command arguments := by
  rcases ending_cases h with ⟨text, hprints⟩ | hfails | hrefused
  · exact Or.inl ⟨hexit ▸ (run_of_prints hprints).1, text, hprints⟩
  · exact Or.inr (Or.inl ⟨hexit ▸ (run_of_fails hfails).1, hfails⟩)
  · exact Or.inr (Or.inr ⟨hexit ▸ (run_of_refused hrefused).1, hrefused⟩)

theorem count_newline_of_prints {text : String}
    (h : Prints command files input arguments text) :
    (text ++ "\n").toList.count '\n' = 1 := by
  obtain ⟨-, -, hscan⟩ := h
  rw [String.toList_append, List.count_append,
    List.count_eq_zero.2 (Scan.newline_not_mem_extract hscan)]
  rfl

theorem execute_ends (config : Config) (h : command.request arguments ≠ .ok .help) :
    Ends command files input arguments (command.execute config files input arguments) where
  printed_iff := by
    constructor
    · intro hexit
      simpa using ending_of_exit h hexit
    · rintro ⟨text, hprints⟩
      exact (run_of_prints hprints).1
  refused_iff := by
    constructor
    · intro hexit
      simpa using ending_of_exit h hexit
    · intro hrefused
      exact (run_of_refused hrefused).1
  failed_iff := by
    constructor
    · intro hexit
      simpa using ending_of_exit h hexit
    · intro hfails
      exact (run_of_fails hfails).1
  whole := by
    intro text hprints
    have houtput : (command.execute config files input arguments).output = text ++ "\n" :=
      (run_of_prints hprints).2
    exact ⟨houtput, houtput ▸ count_newline_of_prints hprints⟩
  nothing := by
    intro hnone
    rcases ending_cases h with hprints | hfails | hrefused
    · exact absurd hprints hnone
    · exact (run_of_fails hfails).2
    · exact (run_of_refused hrefused).2

theorem prints_of_lenient {page : String} (h : Asks command arguments path .lenient)
    (hpage : Readable files input path page) :
    ∃ text, Prints command files input arguments text := by
  have hentries := Scan.lenient_entries (tableOfRows (command.rows page))
  exact ⟨_, .list h hpage (Scan.extract_eq_ok_iff.2 ⟨_, hentries, rfl⟩)⟩

theorem Asks.unique {path' : Option PagePath} {policy' : Policy}
    (h : Asks command arguments path policy) (h' : Asks command arguments path' policy') :
    path = path' ∧ policy = policy' := by
  obtain ⟨selector, hrequest, hselects⟩ := h
  obtain ⟨selector', hrequest', hselects'⟩ := h'
  obtain ⟨rfl, rfl⟩ : path = path' ∧ selector = selector' := by
    simpa using hrequest.symm.trans hrequest'
  exact ⟨rfl, (selects_iff.1 hselects).symm.trans (selects_iff.1 hselects')⟩

theorem Readable.unique {page page' : String} (h : Readable files input path page)
    (h' : Readable files input path page') : page = page' := by
  have hok := (readPage_eq_ok_iff.2 h).symm.trans (readPage_eq_ok_iff.2 h')
  exact Except.ok.inj hok

section Pair

variable {files' : PagePath → Except ReadFailure ByteArray} {input' : ByteArray}
  {arguments' : List Argument} {path' : Option PagePath}

theorem Prints.lenient {page text : String} (h : Prints command files input arguments text)
    (hasks : Asks command arguments path policy) (hpage : Readable files input path page)
    (hasks' : Asks command arguments' path' .lenient)
    (hpage' : Readable files' input' path' page) :
    Prints command files' input' arguments' text := by
  obtain ⟨hown, hread, hscan⟩ := h
  obtain ⟨rfl, rfl⟩ := hown.unique hasks
  obtain rfl := hread.unique hpage
  obtain ⟨es, hes, rfl⟩ := Scan.extract_eq_ok_iff.1 hscan
  exact .list hasks' hpage' (Scan.extract_eq_ok_iff.2 ⟨es, Scan.lenient_entries_of_ok hes, rfl⟩)

theorem agrees_of_prints {text : String} (h : Prints command files input arguments text)
    (h' : Prints command files' input' arguments' text) (config config' : Config) :
    (command.execute config files input arguments).exit = 0 ∧
      (command.execute config files input arguments).Agrees
        (command.execute config' files' input' arguments') := by
  obtain ⟨hexit, houtput⟩ := run_of_prints h
  obtain ⟨hexit', houtput'⟩ := run_of_prints h'
  exact ⟨hexit, hexit.trans hexit'.symm, houtput.trans houtput'.symm⟩

theorem agrees_of_page (h : Asks command arguments path policy)
    (hpage : readPage files input path = readPage files' input' path) (config config' : Config) :
    (command.execute config files input arguments).Agrees
      (command.execute config' files' input' arguments) := by
  have hrun : command.run files input arguments = command.run files' input' arguments := by
    rw [run_eq_of_asks h, run_eq_of_asks h, hpage]
  exact ⟨congrArg Run.exit hrun, congrArg Run.output hrun⟩

end Pair

theorem readPage_file {name : PagePath} (h : ¬ name.NamesInput) :
    readPage files input (some name) = files name >>= decode :=
  if_neg (mt PagePath.isDash_iff.1 h)

theorem readPage_input (h : ∀ name, path = some name → name.NamesInput) :
    readPage files input path = decode input := by
  cases path with
  | none => rfl
  | some name => exact if_pos (PagePath.isDash_iff.2 (h name rfl))

/-- A run that is not asked for help prints the whole list on one line or nothing, and its exit
code says which. A lenient run never gives up on a page that it has read, and prints whatever a
strict run prints of the same page. Neither the setting of the log nor what the command line
does not ask for has a say in it: the standard input and other files beside a named file, or the
files beside the standard input. -/
theorem run_prints_all_or_nothing (command : Command Argument Fault Config) (config : Config)
    (files : PagePath → Except ReadFailure ByteArray) (input : ByteArray)
    (arguments : List Argument) (h : command.request arguments ≠ .ok .help) :
    Ends command files input arguments (command.execute config files input arguments) ∧
    (∀ path page, Asks command arguments path .lenient → Readable files input path page →
      (command.execute config files input arguments).exit = 0) ∧
    (∀ path page, Asks command arguments path .strict → Readable files input path page →
      (command.execute config files input arguments).exit = 0 →
      ∀ config' files' input' arguments' path',
        Asks command arguments' path' .lenient → Readable files' input' path' page →
        (command.execute config' files' input' arguments').exit = 0 ∧
        (command.execute config' files' input' arguments').Agrees
          (command.execute config files input arguments)) ∧
    (∀ config', (command.execute config' files input arguments).Agrees
      (command.execute config files input arguments)) ∧
    (∀ name policy, Asks command arguments (some name) policy → ¬ name.NamesInput →
      ∀ files' input', files' name = files name →
        (command.execute config files' input' arguments).Agrees
          (command.execute config files input arguments)) ∧
    (∀ path policy, Asks command arguments path policy →
      (∀ name, path = some name → name.NamesInput) →
      ∀ files', (command.execute config files' input arguments).Agrees
        (command.execute config files input arguments)) := by
  have hends : Ends command files input arguments
      (command.execute config files input arguments) := execute_ends config h
  refine ⟨hends, ?_, ?_, fun config' => ⟨rfl, rfl⟩, ?_, ?_⟩
  · intro path page hasks hpage
    exact hends.printed_iff.2 (prints_of_lenient hasks hpage)
  · intro path page hasks hpage hexit config' files' input' arguments' path' hasks' hpage'
    obtain ⟨text, hprints⟩ := hends.printed_iff.1 hexit
    have hprints' := hprints.lenient hasks hpage hasks' hpage'
    exact agrees_of_prints hprints' hprints config' config
  · intro name policy hasks hname files' input' hread
    apply agrees_of_page hasks
    rw [readPage_file hname, readPage_file hname, hread]
  · intro path policy hasks hpath files'
    apply agrees_of_page hasks
    rw [readPage_input hpath, readPage_input hpath]

/-- With its own readers the command asks for the page and the policy that its arguments name. -/
theorem asks_iff_names {arguments : List String} : Asks extractor arguments path policy ↔
    ∃ page selector, Names arguments page selector ∧ path = page.map PagePath.ofText ∧
      Selects (selector.getD .lenient) policy := by
  constructor
  · rintro ⟨selector, hrequest, hselects⟩
    obtain ⟨page, named, hnames, hasked⟩ := Request.parse_eq_extract_iff.1 hrequest
    obtain ⟨rfl, rfl⟩ := Arguments.mk.inj hasked
    exact ⟨page, named, hnames, rfl, hselects⟩
  · rintro ⟨page, named, hnames, rfl, hselects⟩
    have hrequest := Request.parse_eq_extract_iff.2 ⟨page, named, hnames, rfl⟩
    exact ⟨named.getD .lenient, hrequest, hselects⟩

def goodPage : String :=
  "<table><tr><th>x0</th></tr><tr><td>NOP<br>1 4t</td></tr></table>"

def mixedPage : String :=
  "<table><tr><th>x0</th></tr><tr><td>NOP<br>1 4t</td><td>X</td></tr></table>"

def twoPages : Directory := [("good.html", goodPage.toUTF8), ("mixed.html", mixedPage.toUTF8)]

theorem fromUTF8?_toUTF8 (page : String) : String.fromUTF8? page.toUTF8 = some page :=
  dif_pos page.isValidUTF8

theorem goodPage_rows : tableOfRows (extractor.rows goodPage) = [[], ["NOP\n1 4t"]] := by
  decide +kernel

theorem mixedPage_rows : tableOfRows (extractor.rows mixedPage) = [[], ["NOP\n1 4t", "X"]] := by
  decide +kernel

theorem readable_input (page : String) :
    Readable twoPages.read page.toUTF8 (some (PagePath.ofText "-")) page :=
  ⟨_, .dash (PagePath.isDash_iff.1 rfl), fromUTF8?_toUTF8 page⟩

theorem readable_goodPage :
    Readable twoPages.read input (some (PagePath.ofText "good.html")) goodPage := by
  have hfile : ¬ (PagePath.ofText "good.html").NamesInput :=
    mt PagePath.isDash_iff.2 Bool.false_ne_true
  exact ⟨_, .file hfile rfl, fromUTF8?_toUTF8 goodPage⟩

theorem goodPage_printed :
    Prints extractor twoPages.read mixedPage.toUTF8 ["good.html", "--on-malformed=strict"]
      (Initializer.render [⟨0, "NOP", 4, 4⟩]) := by
  refine .list ⟨.strict, rfl, .strict⟩ readable_goodPage ?_
  rw [goodPage_rows]
  exact Scan.extract_eq_ok_iff.2 ⟨_, by decide +kernel, rfl⟩

theorem mixedPage_printed :
    Prints extractor twoPages.read mixedPage.toUTF8 ["-"]
      (Initializer.render [⟨0, "NOP", 4, 4⟩, .invalid 1]) := by
  refine .list ⟨.lenient, rfl, .lenient⟩ (readable_input mixedPage) ?_
  rw [mixedPage_rows]
  exact Scan.extract_eq_ok_iff.2 ⟨_, by decide +kernel, rfl⟩

theorem mixedPage_given_up :
    Fails extractor twoPages.read mixedPage.toUTF8 ["--on-malformed", "strict", "-"] := by
  have hscan : Scan.extract (tableOfRows (extractor.rows mixedPage)) .strict =
      .error ⟨1, 1, 1, .missingTimingLine⟩ := by
    rw [mixedPage_rows]
    exact map_eq_error_iff.2 (by decide +kernel)
  exact .scan ⟨.strict, rfl, .strict⟩ (readable_input mixedPage) hscan

/-- Two short pages. Of the second one a strict run gives up what a lenient run prints. -/
theorem short_pages_endings :
    (extractor.execute none twoPages.read mixedPage.toUTF8 ["-"]).output =
      Initializer.render [⟨0, "NOP", 4, 4⟩, .invalid 1] ++ "\n" ∧
    (extractor.execute (some "trace") twoPages.read mixedPage.toUTF8
      ["--on-malformed", "strict", "-"]).exit = 1 ∧
    (extractor.execute none twoPages.read mixedPage.toUTF8 ["--on-malformed=loose"]).exit = 2 ∧
    (extractor.execute none twoPages.read mixedPage.toUTF8
      ["good.html", "--on-malformed=strict"]).output =
        Initializer.render [⟨0, "NOP", 4, 4⟩] ++ "\n" ∧
    (extractor.execute (some "off") twoPages.read goodPage.toUTF8 ["-"]).Agrees
      (extractor.execute none twoPages.read mixedPage.toUTF8
        ["good.html", "--on-malformed=strict"]) := by
  obtain ⟨hlenient, -⟩ :=
    run_prints_all_or_nothing extractor none twoPages.read mixedPage.toUTF8 ["-"] nofun
  obtain ⟨hstrict, -⟩ := run_prints_all_or_nothing extractor (some "trace") twoPages.read
    mixedPage.toUTF8 ["--on-malformed", "strict", "-"] nofun
  obtain ⟨hrefused, -⟩ := run_prints_all_or_nothing extractor none twoPages.read
    mixedPage.toUTF8 ["--on-malformed=loose"] nofun
  obtain ⟨hgood, -, hsame, -⟩ := run_prints_all_or_nothing extractor none twoPages.read
    mixedPage.toUTF8 ["good.html", "--on-malformed=strict"] nofun
  refine ⟨(hlenient.whole _ mixedPage_printed).1, hstrict.failed_iff.2 mixedPage_given_up,
    hrefused.refused_iff.2 ⟨_, rfl⟩, (hgood.whole _ goodPage_printed).1, ?_⟩
  have hexit := hgood.printed_iff.2 ⟨_, goodPage_printed⟩
  exact (hsame _ goodPage ⟨.strict, rfl, .strict⟩ readable_goodPage hexit (some "off") _ _ ["-"] _
    ⟨.lenient, rfl, .lenient⟩ (readable_input goodPage)).2

end CycleTable.Cli
