import ScopePaint.CommandLine.Highlight
import ScopePaint.Proofs.Document.ReportTexts
import ScopePaint.Proofs.Document.WholeLines
import ScopePaint.Proofs.Style.EscapeSequences

/-!
# The command line loses no text

Whatever file is highlighted, if it can be tokenized it is printed as a whole
(`CommandLine.shows_whole_text`). For a terminal, what is printed leaves the text without the
carriage returns at the ends of its lines, once the escape sequences are taken out. As reports, what
is printed has a line for each line of the file, in order, and from each of them a record is read in
which the texts of the tokens make up the line.
-/

set_option autoImplicit false

namespace ScopePaint

/-- The lines of a text are its pieces, without a carriage return at their ends. -/
theorem Document.map_toList_splitLines (text : String) :
    (splitLines text).map String.toList =
      (Text.splitAt '\n' text.toList).map Text.withoutReturn := by
  unfold splitLines Text.split
  rw [List.map_map, List.map_map]
  refine List.map_congr_left fun line _ => ?_
  unfold Text.withoutReturn
  simp only [Function.comp_apply, String.toList_ofList]
  cases line.reverse with
  | nil => exact String.toList_ofList
  | cons c rest =>
    by_cases hreturn : c = '\r'
    · subst hreturn
      exact String.toList_ofList
    · simp [hreturn]

/-- Looking up all places of a list gives the list. -/
theorem map_getD_range (texts : List String) :
    ((List.range texts.length).map fun index => ((texts[index]?).getD "").toList) =
      texts.map String.toList := by
  refine List.ext_getElem (by simp) fun index hindex hindex' => ?_
  rw [List.length_map] at hindex'
  simp [List.getElem?_eq_getElem hindex']

namespace CommandLine

open Document (ofText)

section Standing

variable {base : Library} {id : Nat} {theme : Theme} {texts : List String} {p : Prepared}

/-- What a terminal shows of a document is its text, and what is printed for it leaves that. -/
theorem showTerminal_of_stands (h : Document.Stands base id theme texts p.library p.document)
    (hb : base.Built) (hl : base.Loaded)
    (hrefresh : (p.document.refresh p.library (p.document.lines.length - 1)).1.isOk = true)
    (selected : Bool) :
    ∃ (t : StyledText) (pieces : List TerminalPiece) (lib' : Library),
      (p.document.styled p.library
        (if selected then some ⟨0, p.document.lines.length⟩ else none)).1 = .ok t ∧
      t.terminalPieces? = some pieces ∧
      showTerminal p selected = (String.join (pieces.map TerminalPiece.render), .ok (), lib') ∧
      pieces.flatMap TerminalPiece.shown = Text.joinLines (texts.map String.toList) ∧
      Leaves (showTerminal p selected).1.toList (Text.joinLines (texts.map String.toList)) := by
  obtain ⟨t, lib', d', hstyled⟩ := Document.exists_styled hrefresh
    (if selected then some ⟨0, p.document.lines.length⟩ else none)
  obtain ⟨pieces, hpieces, hshown⟩ := h.terminalPieces? hb hl hstyled
  have hshow : showTerminal p selected =
      (String.join (pieces.map TerminalPiece.render), .ok (), lib') := by
    unfold showTerminal
    dsimp only
    rw [hstyled]
    dsimp only
    rw [hpieces]
  refine ⟨t, pieces, lib', congrArg Prod.fst hstyled, hpieces, hshow, hshown, ?_⟩
  rw [hshow, ← hshown]
  exact TerminalPiece.leaves pieces

/-- The lines of a document are reported in order, each with all of its text, and each on a line
from which the report is read. -/
theorem showReport_of_stands (h : Document.Stands base id theme texts p.library p.document)
    (hb : base.Built) (hl : base.Loaded)
    (hok : ∀ index < texts.length,
      (base.tokensFromScratch id theme none texts index).isOk = true) :
    ∃ (reports : List LineReport) (lib' : Library) (written : List (List Char)),
      showReport p =
        (String.join (reports.map fun r => r.toJson.compact ++ "\n"), .ok (), lib') ∧
      reports.map (·.line) = List.range texts.length ∧
      reports.map (fun r => r.tokens.flatMap (·.text)) = texts.map String.toList ∧
      Text.splitAt '\n' (showReport p).1.toList = written ++ [[]] ∧
      written.map (fun line => Data.readJson (String.ofList line)) =
        reports.map fun r => some r.tree := by
  have hcount : p.document.lines.length = texts.length := by rw [← h.texts, List.length_map]
  have hin : ∀ index ∈ List.range texts.length, index < texts.length :=
    fun index hindex => List.mem_range.1 hindex
  obtain ⟨reports, lib', d', hreports, hnumbers, htexts⟩ :=
    h.reportLines hb hl hin fun index hindex => hok index (hin index hindex)
  obtain ⟨written, hwritten, hread⟩ := LineReport.read_written reports
  have hshow : showReport p =
      (String.join (reports.map fun r => r.toJson.compact ++ "\n"), .ok (), lib') := by
    unfold showReport Document.report
    rw [hcount, hreports]
    rfl
  refine ⟨reports, lib', written, hshow, hnumbers, ?_, ?_, hread⟩
  · rw [htexts, map_getD_range]
  · rw [hshow]
    exact hwritten

end Standing

/-- **The command line loses no text.** If all lines of a text can be tokenized, in a library of
loaded grammars, it is shown as codes and text on a terminal, whether it is selected or not, and the
text is all of it, but for one carriage return at the end of each line: what is printed leaves it
once the escape sequences are taken out, and if there is no escape character in the text that is all
that is not in an escape sequence. And there is a report for each line, by its number, in which the
texts of the tokens make up the line: what is printed has just as many lines, each of which is read
as the record of its report. -/
theorem shows_whole_text {lib : Library} (hb : lib.Built) (hl : lib.Loaded) {id : Nat}
    {theme : Theme} {source : String}
    (htokens : ∀ index < (Text.splitAt '\n' source.toList).length,
      ((ofText id theme source).tokens lib index).1.isOk = true) :
    let p : Prepared := ⟨lib, ofText id theme source⟩
    (∀ selected, ∃ (t : StyledText) (pieces : List TerminalPiece) (lib' : Library),
      (p.document.styled lib (if selected then some ⟨0, p.document.lines.length⟩ else none)).1 =
        .ok t ∧ t.terminalPieces? = some pieces ∧
      showTerminal p selected = (String.join (pieces.map TerminalPiece.render), .ok (), lib') ∧
      pieces.flatMap TerminalPiece.shown = Text.dropReturns source.toList ∧
      Leaves (showTerminal p selected).1.toList (Text.dropReturns source.toList) ∧
      ('\x1b' ∉ source.toList →
        withoutEscapes false (showTerminal p selected).1.toList =
          Text.dropReturns source.toList)) ∧
    ∃ (reports : List LineReport) (lib' : Library) (written : List (List Char)),
      showReport p =
        (String.join (reports.map fun r => r.toJson.compact ++ "\n"), .ok (), lib') ∧
      reports.map (·.line) = List.range (Text.splitAt '\n' source.toList).length ∧
      reports.map (fun r => r.tokens.flatMap (·.text)) =
        (Text.splitAt '\n' source.toList).map Text.withoutReturn ∧
      Text.splitAt '\n' (showReport p).1.toList = written ++ [[]] ∧
      written.map (fun line => Data.readJson (String.ofList line)) =
        reports.map fun r => some r.tree := by
  intro p
  have hstands : Document.Stands lib id theme (Document.splitLines source) lib p.document :=
    .ofTexts lib id theme (Document.splitLines source)
  have hlines := Document.map_toList_splitLines source
  have hlength : (Document.splitLines source).length = (Text.splitAt '\n' source.toList).length := by
    have hmap := congrArg List.length hlines
    rwa [List.length_map, List.length_map] at hmap
  constructor
  · intro selected
    have hlast : p.document.lines.length - 1 < (Text.splitAt '\n' source.toList).length := by
      have hpos := List.length_pos_of_ne_nil (Text.splitAt_ne_nil '\n' source.toList)
      have hcount : p.document.lines.length = (Document.splitLines source).length := by
        rw [← hstands.texts, List.length_map]
      omega
    have hrefresh := htokens (p.document.lines.length - 1) hlast
    rw [Document.isOk_tokens_eq_refresh] at hrefresh
    obtain ⟨t, pieces, lib', hstyled, hpieces, hshow, hshown, hleaves⟩ :=
      showTerminal_of_stands (p := p) hstands hb hl hrefresh selected
    rw [hlines, Text.joinLines_map_withoutReturn] at hshown hleaves
    refine ⟨t, pieces, lib', hstyled, hpieces, hshow, hshown, hleaves, fun hplain => ?_⟩
    exact hleaves.withoutEscapes_eq fun hescape =>
      hplain ((Text.dropReturns_sublist source.toList).subset hescape)
  · have hscratch : ∀ index < (Document.splitLines source).length,
        (lib.tokensFromScratch id theme none (Document.splitLines source) index).isOk = true := by
      intro index hindex
      rw [← hstands.isOk_tokens hb.sound index]
      exact htokens index (hlength ▸ hindex)
    obtain ⟨reports, lib', written, hshow, hnumbers, htexts, hwritten, hread⟩ :=
      showReport_of_stands (p := p) hstands hb hl hscratch
    exact ⟨reports, lib', written, hshow, hlength ▸ hnumbers, htexts.trans hlines, hwritten, hread⟩

/-- Two lines of brackets, of which the first one loses a carriage return. -/
theorem shows_whole_text_brackets :
    let p : Prepared := ⟨bracketLibrary, ofText 0 Theme.builtin "[a\r\n]"⟩
    (∀ index < 2, (p.document.tokens bracketLibrary index).1.isOk = true) ∧
      withoutEscapes false (showTerminal p true).1.toList = "[a\n]".toList ∧
      (∃ (pieces : List TerminalPiece) (lib' : Library),
        showTerminal p true = (String.join (pieces.map TerminalPiece.render), .ok (), lib') ∧
        pieces.flatMap TerminalPiece.shown = "[a\n]".toList) ∧
      ∃ (reports : List LineReport) (lib' : Library) (written : List (List Char)),
        showReport p =
          (String.join (reports.map fun r => r.toJson.compact ++ "\n"), .ok (), lib') ∧
        reports.map (·.line) = [0, 1] ∧
        reports.map (fun r => r.tokens.flatMap (·.text)) = ["[a".toList, "]".toList] ∧
        Text.splitAt '\n' (showReport p).1.toList = written ++ [[]] ∧
        written.map (fun line => Data.readJson (String.ofList line)) =
          reports.map fun r => some r.tree := by
  have hsplit : Text.splitAt '\n' "[a\r\n]".toList = ["[a\r".toList, "]".toList] := by
    decide +kernel
  have htokens : ∀ index < 2,
      ((ofText 0 Theme.builtin "[a\r\n]").tokens bracketLibrary index).1.isOk = true := by
    decide +kernel
  have hall : ∀ index < (Text.splitAt '\n' "[a\r\n]".toList).length,
      ((ofText 0 Theme.builtin "[a\r\n]").tokens bracketLibrary index).1.isOk = true := by
    rw [hsplit]
    exact htokens
  obtain ⟨hterminal, hreport⟩ :=
    shows_whole_text built_bracketLibrary loaded_bracketLibrary hall
  have hdrop : Text.dropReturns "[a\r\n]".toList = "[a\n]".toList := by decide +kernel
  obtain ⟨-, pieces, lib', -, -, hshow, hshown, -, hplain⟩ := hterminal true
  obtain ⟨reports, lib'', written, hreports, hnumbers, htexts, hwritten, hread⟩ := hreport
  rw [hsplit] at hnumbers htexts
  refine ⟨htokens, ?_, ⟨pieces, lib', hshow, hshown.trans hdrop⟩,
    ⟨reports, lib'', written, hreports, hnumbers, ?_, hwritten, hread⟩⟩
  · exact (hplain (by decide +kernel)).trans hdrop
  · exact htexts.trans (by decide +kernel)

end CommandLine

end ScopePaint
