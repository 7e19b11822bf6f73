import CycleTable.Cli.Request
import CycleTable.Proofs.Outcome
import Mathlib.Tactic.Common

/-! # What a command line asks for

A command line that is accepted and no call for help names at most one page and at most one way
to handle malformed cells, in any order. What it asks for is what it names. A page is the
standard input if its path is a dash.
-/
namespace CycleTable.Cli

namespace PagePath

/-- The path of the standard input: a dash, with nothing behind it but slashes and single
dots. -/
def NamesInput (path : PagePath) : Prop :=
  ∃ parts : List PagePath, (∀ part ∈ parts, part = [] ∨ part = [dot]) ∧
    path = [slash].intercalate ([dash] :: parts)

theorem components_eq_dash_iff {path first : PagePath} {rest : List PagePath}
    (h : path.splitOn slash = first :: rest) :
    path.components = components [dash] ↔
      first = [dash] ∧ ∀ part ∈ rest, part = [] ∨ part = [dot] := by
  have hdash : components [dash] = [[dash]] := rfl
  rw [hdash, components, h]
  by_cases hfirst : first = []
  · subst hfirst
    by_cases hrest : rest = []
    · simp [hrest]
    · simp [hrest, slash, dash]
  · simp only [ne_eq, hfirst, not_false_eq_true, if_true, List.singleton_append, List.cons.injEq,
      List.filter_eq_nil_iff, decide_eq_true_eq, not_and_or, not_not]

theorem isDash_iff {path : PagePath} : path.isDash = true ↔ path.NamesInput := by
  obtain ⟨first, rest, hparts⟩ := List.exists_cons_of_ne_nil (List.splitOn_ne_nil slash path)
  have hpath : [slash].intercalate (first :: rest) = path := by
    rw [← hparts]
    exact List.intercalate_splitOn slash
  rw [isDash, beq_iff_eq, components_eq_dash_iff hparts]
  constructor
  · rintro ⟨rfl, hrest⟩
    exact ⟨rest, hrest, hpath.symm⟩
  · rintro ⟨parts, hdots, rfl⟩
    have hclean : ∀ part ∈ [dash] :: parts, slash ∉ part := by
      intro part hpart
      rcases List.mem_cons.1 hpart with rfl | hpart
      · decide
      · rcases hdots part hpart with rfl | rfl
        · decide
        · decide
    rw [List.splitOn_intercalate slash hclean (List.cons_ne_nil _ _)] at hparts
    obtain ⟨rfl, rfl⟩ := List.cons.inj hparts
    exact ⟨rfl, hdots⟩

end PagePath

/-- Command lines that are no calls for help, with the page and the selector that they name. -/
inductive Names : List String → Option String → Option PolicySelector → Prop
  | nothing : Names [] none none
  | dashes : Names ["--"] none none
  | pageBehindDashes {page : String} (hpage : page ≠ "") : Names ["--", page] (some page) none
  | page {page : String} {rest : List String} {selector : Option PolicySelector}
    (hpage : page ≠ "") (hplain : isOption page = false) (hrest : Names rest none selector) :
    Names (page :: rest) (some page) selector
  | option {rest : List String} {page : Option String} (selector : PolicySelector)
    (hrest : Names rest page none) :
    Names ("--on-malformed" :: selector.name :: rest) page (some selector)
  | attached {rest : List String} {page : Option String} (selector : PolicySelector)
    (hrest : Names rest page none) :
    Names (("--on-malformed=" ++ selector.name) :: rest) page (some selector)

variable {taken next after : Taken} {arguments : List String} {name : String}
  {page : Option String} {selector : Option PolicySelector} {asked : Arguments}

theorem PolicySelector.ofName?_eq_some_iff {selector : PolicySelector} :
    ofName? name = some selector ↔ name = selector.name := by
  constructor
  · intro h
    have hname := List.find?_some h
    exact (eq_of_beq hname).symm
  · rintro rfl
    cases selector <;> rfl

theorem addPage_eq_ok_iff : taken.addPage name = .ok next ↔
    taken.page = none ∧ name ≠ "" ∧ next = ⟨some name, taken.selector⟩ := by
  unfold Taken.addPage
  split_ifs with hpage hname
  · simp [Option.isSome_iff_ne_none.1 hpage]
  · simp [hname]
  · rw [Bool.not_eq_true, Option.isSome_eq_false_iff, Option.isNone_iff_eq_none] at hpage
    simp [hpage, hname, eq_comm]

theorem addSelector_eq_ok_iff : taken.addSelector name = .ok next ↔
    taken.selector = none ∧ ∃ selector : PolicySelector,
      name = selector.name ∧ next = ⟨taken.page, some selector⟩ := by
  unfold Taken.addSelector
  split_ifs with hselector
  · simp [Option.isSome_iff_ne_none.1 hselector]
  · rw [Bool.not_eq_true, Option.isSome_eq_false_iff, Option.isNone_iff_eq_none] at hselector
    simp only [hselector, true_and, ← PolicySelector.ofName?_eq_some_iff]
    cases PolicySelector.ofName? name with
    | none => simp
    | some selector => simp [eq_comm]

/-- What has been taken once a command line is read that names a page and a selector. Each of the
two may be named once. -/
structure Adds (taken : Taken) (page : Option String) (selector : Option PolicySelector)
    (asked : Arguments) : Prop where
  onePage : taken.page = none ∨ page = none
  oneSelector : taken.selector = none ∨ selector = none
  asked_eq : .extract asked = Taken.request ⟨page.or taken.page, selector.or taken.selector⟩

theorem Adds.of_addPage (hfree : taken.page = none)
    (h : Adds ⟨some name, taken.selector⟩ page selector asked) :
    page = none ∧ Adds taken (some name) selector asked := by
  obtain ⟨honePage, honeSelector, hasked⟩ := h
  have hpage : page = none := honePage.resolve_left nofun
  subst hpage
  exact ⟨rfl, Or.inl hfree, honeSelector, hasked⟩

theorem Adds.of_addSelector {chosen : PolicySelector} (hfree : taken.selector = none)
    (h : Adds ⟨taken.page, some chosen⟩ page selector asked) :
    selector = none ∧ Adds taken page (some chosen) asked := by
  obtain ⟨honePage, honeSelector, hasked⟩ := h
  have hselector : selector = none := honeSelector.resolve_left nofun
  subst hselector
  exact ⟨rfl, honePage, Or.inl hfree, hasked⟩

theorem foldlM_addPage_eq_ok (h : arguments.foldlM Taken.addPage taken = .ok after) :
    arguments = [] ∧ after = taken ∨
      ∃ name, arguments = [name] ∧ taken.page = none ∧ name ≠ "" ∧
        after = ⟨some name, taken.selector⟩ := by
  cases arguments with
  | nil =>
    cases h
    exact Or.inl ⟨rfl, rfl⟩
  | cons name arguments =>
    rw [List.foldlM_cons] at h
    obtain ⟨next, hnext, hrest⟩ := bind_eq_ok_iff.1 h
    obtain ⟨hfree, hname, rfl⟩ := addPage_eq_ok_iff.1 hnext
    cases arguments with
    | nil =>
      cases hrest
      exact Or.inr ⟨name, rfl, hfree, hname, rfl⟩
    | cons second arguments =>
      -- A second page is refused whatever comes behind it.
      rw [List.foldlM_cons] at hrest
      obtain ⟨other, hother, -⟩ := bind_eq_ok_iff.1 hrest
      cases (addPage_eq_ok_iff.1 hother).1

theorem attachedName?_eq_some_iff {argument : String} :
    attachedName? argument = some name ↔ argument = "--on-malformed=" ++ name := by
  rw [attachedName?, Option.map_eq_some_iff]
  constructor
  · rintro ⟨rest, hrest, rfl⟩
    have htext := Text.drop?_eq_some.1 hrest
    rw [← String.toList_inj, htext, String.toList_append, @String.toList_ofList rest]
  · rintro rfl
    refine ⟨name.toList, ?_, String.ofList_toList⟩
    rw [Text.drop?_eq_some, String.toList_append]

theorem exists_names_of_readArguments (h : readArguments taken arguments = .ok (.extract asked)) :
    ∃ page selector, Names arguments page selector ∧ Adds taken page selector asked := by
  fun_induction readArguments taken arguments with
  | case1 taken =>
    exact ⟨none, none, .nothing, Or.inr rfl, Or.inr rfl, (Except.ok.inj h).symm⟩
  | case2 taken pages =>
    obtain ⟨after, hafter, hrequest⟩ := bind_eq_ok_iff.1 h
    have hasked : .extract asked = after.request := (Except.ok.inj hrequest).symm
    rcases foldlM_addPage_eq_ok hafter with ⟨rfl, rfl⟩ | ⟨name, rfl, hfree, hname, rfl⟩
    · exact ⟨none, none, .dashes, Or.inr rfl, Or.inr rfl, hasked⟩
    · exact ⟨some name, none, .pageBehindDashes hname, Or.inl hfree, Or.inr rfl, hasked⟩
  | case5 taken name rest _ ih =>
    obtain ⟨next, hnext, hrest⟩ := bind_eq_ok_iff.1 h
    obtain ⟨hfree, chosen, rfl, rfl⟩ := addSelector_eq_ok_iff.1 hnext
    obtain ⟨page, selector, hnames, hadds⟩ := ih _ hrest
    obtain ⟨rfl, hall⟩ := hadds.of_addSelector hfree
    exact ⟨page, some chosen, .option chosen hnames, hall⟩
  | case7 taken argument rest _ _ _ _ name hname ih =>
    obtain ⟨next, hnext, hrest⟩ := bind_eq_ok_iff.1 h
    obtain ⟨hfree, chosen, rfl, rfl⟩ := addSelector_eq_ok_iff.1 hnext
    obtain ⟨page, selector, hnames, hadds⟩ := ih _ hrest
    obtain ⟨rfl, hall⟩ := hadds.of_addSelector hfree
    rw [attachedName?_eq_some_iff.1 hname]
    exact ⟨page, some chosen, .attached chosen hnames, hall⟩
  | case9 taken argument rest _ _ _ _ _ hplain ih =>
    obtain ⟨next, hnext, hrest⟩ := bind_eq_ok_iff.1 h
    obtain ⟨hfree, hname, rfl⟩ := addPage_eq_ok_iff.1 hnext
    obtain ⟨page, selector, hnames, hadds⟩ := ih _ hrest
    obtain ⟨rfl, hall⟩ := hadds.of_addPage hfree
    exact ⟨some argument, selector, .page hname (Bool.not_eq_true _ ▸ hplain) hnames, hall⟩
  -- The other cases refuse an argument or ask for help.
  | case3 | case4 | case6 | case8 => cases h

theorem isOption_of_asksForHelp {argument : String} (h : asksForHelp argument = true) :
    isOption argument = true := by
  unfold asksForHelp at h
  rcases Bool.or_eq_true_iff.1 h with hlong | hshort
  · rw [eq_of_beq hlong]
    rfl
  · split at hshort
    · rename_i rest htext
      simp [isOption, htext]
    · cases hshort

theorem readArguments_page (hplain : isOption name = false) :
    readArguments taken (name :: arguments) =
      (taken.addPage name >>= fun next => readArguments next arguments) := by
  have hne : ∀ option, isOption option = true → name ≠ option := by
    rintro option hoption rfl
    cases hoption.symm.trans hplain
  have hhelp : asksForHelp name = false := by
    apply Bool.eq_false_iff.2
    intro hasks
    exact hne name (isOption_of_asksForHelp hasks) rfl
  have hattached : attachedName? name = none := by
    cases hname : attachedName? name with
    | none => rfl
    | some selector =>
      rw [attachedName?_eq_some_iff.1 hname, isOption, String.toList_append] at hplain
      cases hplain
  rw [readArguments, hhelp, hattached, hplain]
  · rfl
  · exact hne "--" rfl
  · intro hname
    exact absurd hname (hne "--on-malformed" rfl)
  · intro other rest hname
    exact absurd hname (hne "--on-malformed" rfl)

theorem readArguments_option (selector : PolicySelector) :
    readArguments taken ("--on-malformed" :: selector.name :: arguments) =
      (taken.addSelector selector.name >>= fun next => readArguments next arguments) := by
  cases selector with
  | lenient => rfl
  | strict => rfl

theorem readArguments_attached (selector : PolicySelector) :
    readArguments taken (("--on-malformed=" ++ selector.name) :: arguments) =
      (taken.addSelector selector.name >>= fun next => readArguments next arguments) := by
  cases selector with
  | lenient => rfl
  | strict => rfl

theorem readArguments_of_names (h : Names arguments page selector)
    (hadds : Adds taken page selector asked) :
    readArguments taken arguments = .ok (.extract asked) := by
  induction h generalizing taken with
  | nothing => exact congrArg Except.ok hadds.asked_eq.symm
  | dashes => exact congrArg Except.ok hadds.asked_eq.symm
  | pageBehindDashes hpage =>
    have hfree := hadds.onePage.resolve_right nofun
    rw [readArguments, List.foldlM_cons, addPage_eq_ok_iff.2 ⟨hfree, hpage, rfl⟩]
    exact congrArg Except.ok hadds.asked_eq.symm
  | page hpage hplain _ ih =>
    have hfree := hadds.onePage.resolve_right nofun
    rw [readArguments_page hplain, addPage_eq_ok_iff.2 ⟨hfree, hpage, rfl⟩]
    exact ih ⟨Or.inr rfl, hadds.oneSelector, hadds.asked_eq⟩
  | option chosen _ ih =>
    have hfree := hadds.oneSelector.resolve_right nofun
    rw [readArguments_option, addSelector_eq_ok_iff.2 ⟨hfree, chosen, rfl, rfl⟩]
    exact ih ⟨hadds.onePage, Or.inr rfl, hadds.asked_eq⟩
  | attached chosen _ ih =>
    have hfree := hadds.oneSelector.resolve_right nofun
    rw [readArguments_attached, addSelector_eq_ok_iff.2 ⟨hfree, chosen, rfl, rfl⟩]
    exact ih ⟨hadds.onePage, Or.inr rfl, hadds.asked_eq⟩

/-- A command line asks for a page if and only if it is of the form above, and then for what it
names. Without a selector cells are handled leniently. -/
theorem Request.parse_eq_extract_iff : Request.parse arguments = .ok (.extract asked) ↔
    ∃ page selector, Names arguments page selector ∧
      asked = ⟨page.map PagePath.ofText, selector.getD .lenient⟩ := by
  constructor
  · intro h
    obtain ⟨page, selector, hnames, hadds⟩ := exists_names_of_readArguments h
    refine ⟨page, selector, hnames, ?_⟩
    have hasked := Request.extract.inj hadds.asked_eq
    rwa [Option.or_none, Option.or_none] at hasked
  · rintro ⟨page, selector, hnames, rfl⟩
    apply readArguments_of_names hnames
    refine ⟨Or.inl rfl, Or.inl rfl, ?_⟩
    rw [Option.or_none, Option.or_none]
    rfl

end CycleTable.Cli
