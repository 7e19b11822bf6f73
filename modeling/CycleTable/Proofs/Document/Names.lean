import CycleTable.Document
import CycleTable.Proofs.Document.Normal
import CycleTable.Proofs.Initializer.RoundTrip
import CycleTable.Proofs.Scan.Names

/-! # Names from a document

The text of a cell of a document is normal, and so its first line is tidy. Every name that a scan
of a document gives is tidy therefore, and the list of the entries is one line. That list reads
back unless a name looks like its own end.
-/
namespace CycleTable

open Layout (Tidy innerText)

theorem exists_cell_of_mem_cells {document : List Node} {text : String}
    (h : text ∈ (tableRows document).cells) : ∃ children, text = innerText children := by
  obtain ⟨texts, htexts, htext⟩ := List.mem_flatten.1 h
  obtain ⟨row, -, rfl⟩ := List.mem_map.1 (List.mem_of_mem_drop htexts)
  obtain ⟨children, -, rfl⟩ := List.mem_map.1 htext
  exact ⟨children, rfl⟩

theorem tidy_invalidName : Tidy Entry.invalidName.toList :=
  Layout.tidy_of_no_white (by simp [Entry.invalidName, Text.isAsciiWhite])

theorem tidy_name_of_entries {document : List Node} {policy : Policy} {es : List Entry}
    (h : Scan.entries (tableRows document) policy = .ok es) {e : Entry} (he : e ∈ es) :
    Tidy e.name.toList := by
  rcases Scan.name_of_entries h he with hname | ⟨text, htext, hname⟩
  · rw [hname]
    exact tidy_invalidName
  · obtain ⟨children, rfl⟩ := exists_cell_of_mem_cells htext
    rw [hname, String.toList_ofList]
    exact (Layout.normal_innerText children).tidy_before

theorem Initializer.parse_render_newline {es : List Entry}
    (hlines : ∀ e ∈ es, '\n' ∉ e.name.toList) :
    parse (render es ++ "\n") = .ok es ↔
      ∀ e ∈ es, ∀ t, Written.IsTerminator t → ¬ t <:+: e.name.toList := by
  constructor
  · intro h e he
    exact (readable_of_parseRest h e he).2
  · intro h
    exact parse_render_append ⟨"\n", by simp [Text.isWhite]⟩ fun e he => ⟨hlines e he, h e he⟩

/-- The names that a scan gives, and the list that is written from it. For a document, white
space is tidy in the names and only spaces in the list, and no other character of a cell is lost
or made up. For any other table, names and list are still on one line each. -/
theorem names_and_list_on_one_line (document : List Node) (rows : Table) (policy : Policy) :
    (∀ es, Scan.entries (tableRows document) policy = .ok es →
      (∀ e ∈ es, Tidy e.name.toList) ∧
      ∃ text, Scan.extract (tableRows document) policy = .ok text ∧
        (∀ c ∈ text.toList, Text.isAsciiWhite c → c = ' ') ∧
        (Initializer.parse (text ++ "\n") = .ok es ↔
          ∀ e ∈ es, ∀ t, Written.IsTerminator t → ¬ t <:+: e.name.toList)) ∧
    (∀ children, (innerText children).toList.filter Layout.isKept =
      (Layout.shownAll children).filterMap Layout.Piece.char?) ∧
    (∀ es, Scan.entries rows policy = .ok es → ∀ e ∈ es, '\n' ∉ e.name.toList) ∧
    (∀ text, Scan.extract rows policy = .ok text → '\n' ∉ text.toList) := by
  refine ⟨fun es hes => ?_, Layout.filter_innerText, fun es => Scan.newline_not_mem_name,
    fun text => Scan.newline_not_mem_extract⟩
  have htidy : ∀ e ∈ es, Tidy e.name.toList := fun e he => tidy_name_of_entries hes he
  refine ⟨htidy, Initializer.render es, Scan.extract_eq_ok_iff.2 ⟨es, hes, rfl⟩, ?_,
    Initializer.parse_render_newline (Scan.newline_not_mem_name hes)⟩
  intro c hc hwhite
  rcases Initializer.white_render hc hwhite with hspace | ⟨e, he, hname⟩
  · exact hspace
  · exact (htidy e he).spaces c hname hwhite

/-- A document with white space of each kind in a name, and with a name that looks like its own
end. -/
def messyDocument : List Node :=
  [.element "table"
    [.element "tr" [],
      .element "tr"
        [.element "td" [.text "\tLD\r\n  A,", .comment "to", .element "b" [.text " B\u00a0"],
            .text "\n", .element "br" [], .text "1 4t"],
          .element "td" [.text "\", 1, 2 \x7d,", .element "br" [], .text "2 8t"]]]]

def messyEntries : List Entry := [⟨0, "LD A, B\u00a0", 4, 4⟩, ⟨1, "\", 1, 2 \x7d,", 8, 8⟩]

theorem messy_names_on_one_line :
    Scan.entries (tableRows messyDocument) .strict = .ok messyEntries ∧
    (∀ e ∈ messyEntries, Tidy e.name.toList) ∧
    Initializer.parse (Initializer.render messyEntries ++ "\n") ≠ .ok messyEntries := by
  have hentries : Scan.entries (tableRows messyDocument) .strict = .ok messyEntries := by
    decide +kernel
  have hextract := Scan.extract_eq_ok_iff.2 ⟨_, hentries, rfl⟩
  have hend : Written.IsTerminator "\", 1, 2 \x7d,".toList :=
    ⟨['1'], ['2'], Numeral.isRun_singleton rfl, Numeral.isRun_singleton rfl, by decide⟩
  obtain ⟨htidy, text, htext, -, hreads⟩ :=
    (names_and_list_on_one_line messyDocument [] .strict).1 _ hentries
  obtain rfl := Except.ok.inj (hextract.symm.trans htext)
  refine ⟨hentries, htidy, fun hparse => ?_⟩
  have hname : (⟨1, "\", 1, 2 \x7d,", 8, 8⟩ : Entry) ∈ messyEntries := by decide
  exact hreads.1 hparse _ hname _ hend List.infix_rfl

end CycleTable
