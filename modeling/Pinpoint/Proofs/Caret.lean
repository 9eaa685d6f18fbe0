import Pinpoint.Proofs.Expansion
import Pinpoint.Proofs.Replay

/-! The printed report of an error. Its caret stands below the token that the error is about. -/

namespace Pinpoint

namespace Report

theorem dropLead_append (lead body : String) : dropLead lead (lead ++ body) = body := by
  have hlead : lead.toList.isPrefixOf (lead ++ body).toList = true := by simp
  rw [dropLead, if_pos hlead, ← String.toList_inj, String.toList_ofList, String.toList_append,
    ← String.length_toList, List.drop_left]

/-- The text of a report, row by row. -/
theorem layout_eq_rows (place : Location) (line : String) (margin : Nat) (message : String) :
    let number := place.line.repr
    let gutter := String.ofList (List.replicate number.length ' ')
    layout place line margin message =
      place.name ++ ":" ++ number ++ ":" ++ place.column.repr ++ ":\n" ++
        gutter ++ " |\n" ++
        (number ++ " | " ++ line) ++ "\n" ++
        (gutter ++ " | " ++ String.ofList (List.replicate margin ' ')) ++ "^\n" ++
        message := by
  intro number gutter
  unfold layout
  rw [← String.append_assoc, ← String.append_assoc, ← String.append_assoc, ← String.append_assoc]
  rfl

end Report

namespace Layout

variable {τ : Type} [CharLike τ]

/-- The rest of the line from offset `k` on. -/
def ahead (ts : List τ) (k : Nat) : List τ := (ts.drop k).takeWhile fun t => !CharLike.isNewline t

/-- The whole line that holds offset `k`, between the newlines around it. -/
def lineAt (ts : List τ) (k : Nat) : List τ := lastLine (ts.take k) ++ ahead ts k

/-- The counts that a report at offset `k` makes: those on the way there, the columns of its line and
that of the caret. -/
structure ReportFits (o : Origin) (ts : List τ) (k : Nat) : Prop extends WayFits o ts k where
  line : columnAfter o.tabWidth 1 (lineAt ts k) < Count.limit
  caret : (leadAfter o (ts.take k)).length + (place o (ts.take k)).column < Count.limit

/-- There is room where a report at offset `k` asks for it: at each tab for the line up to there with the
spaces of the tab, and for the spaces before the caret. The rest of its text is written without asking,
so this is not all that a report takes up in memory. -/
structure ReportRoom (o : Origin) (ts : List τ) (k : Nat) : Prop where
  line : TabsFit o.tabWidth 1 0 (text (lineAt ts k))
  caret : (leadAfter o (ts.take k)).length +
    (expand o.tabWidth 1 (text (lastLine (ts.take k)))).length < Count.textLimit

/-- The token at offset `k` shows at an index of a line: as its character, as the first space of a
tab, or as the end of the line if it is a newline or if no token is there. -/
def ShowsAt (ts : List τ) (k : Nat) (shown : List Char) (index : Nat) : Prop :=
  match ts[k]? with
  | none => index = shown.length
  | some t =>
    if CharLike.isNewline t then index = shown.length
    else shown[index]? = some (if CharLike.isTab t then ' ' else CharLike.toChar t)

theorem text_lineAt (ts : List τ) (k : Nat) :
    text (lineAt ts k) = text (lastLine (ts.take k)) ++ text (ahead ts k) := List.map_append

/-- With the same number of characters put in front of the line and of the caret, the caret stands below
the same character. -/
theorem ShowsAt.prepend {ts : List τ} {k : Nat} {shown : List Char} {index : Nat}
    (h : ShowsAt ts k shown index) (front : List Char) :
    ShowsAt ts k (front ++ shown) (front.length + index) := by
  unfold ShowsAt at h ⊢
  cases ht : ts[k]? with
  | none =>
    simp only [ht] at h
    rw [h, List.length_append]
  | some t =>
    simp only [ht] at h
    rw [List.length_append, List.getElem?_append_right (Nat.le_add_right ..),
      Nat.add_sub_cancel_left, Nat.add_left_cancel_iff]
    exact h

theorem TabsFit.before {w : TabWidth} {column size : Nat} {ts : List τ} {k : Nat}
    (h : TabsFit w column size (text (lineAt ts k))) :
    TabsFit w column size (text (lastLine (ts.take k))) := by
  rw [text_lineAt] at h
  exact h.left

theorem ReportFits.columns_line [CharLike.Plain τ] {o : Origin} {ts : List τ} {k : Nat}
    (h : ReportFits o ts k) : columnAfter o.tabWidth 1 (text (lineAt ts k)) < Count.limit := by
  rw [columnAfter_text]
  exact h.line

theorem ReportFits.columns_before [CharLike.Plain τ] {o : Origin} {ts : List τ} {k : Nat}
    (h : ReportFits o ts k) :
    columnAfter o.tabWidth 1 (text (lastLine (ts.take k))) < Count.limit := by
  rw [columnAfter_text]
  exact (h.places k (Nat.le_refl k)).2

theorem column_place [CharLike.Plain τ] (o : Origin) (ts : List τ) :
    (place o ts).column = 1 + (expand o.tabWidth 1 (text (lastLine ts))).length := by
  rw [add_length_expand, columnAfter_text]
  rfl

theorem ahead_of_none {ts : List τ} {k : Nat} (h : ts[k]? = none) : ahead ts k = [] := by
  have hdrop : ts.drop k = [] := List.drop_eq_nil_of_le (List.getElem?_eq_none_iff.1 h)
  rw [ahead, hdrop, List.takeWhile_nil]

theorem ahead_of_some {ts : List τ} {k : Nat} {t : τ} (h : ts[k]? = some t) :
    ahead ts k = if CharLike.isNewline t then [] else t :: ahead ts (k + 1) := by
  obtain ⟨hk, rfl⟩ := List.getElem?_eq_some_iff.1 h
  rw [ahead, List.drop_eq_getElem_cons hk, List.takeWhile_cons, ahead]
  cases CharLike.isNewline ts[k] <;> rfl

/-- What is shown of the rest of a line begins with the token there, whatever stands before it. -/
theorem showsAt_expand [CharLike.Plain τ] (w : TabWidth) (column : Nat) (ts : List τ) (k : Nat)
    (before : List Char) :
    ShowsAt ts k (before ++ expand w column (text (ahead ts k))) before.length := by
  unfold ShowsAt
  split
  · next hk => simp [ahead_of_none hk, text, expand]
  · next t ht =>
    rw [ahead_of_some ht]
    split
    · simp [text, expand]
    · rw [List.getElem?_append_right (Nat.le_refl _), Nat.sub_self, CharLike.Plain.isTab_eq]
      by_cases htab : CharLike.toChar t = '\t'
      · have hgap : 0 < w.stopAfter column - column := by
          have := w.lt_stopAfter column
          omega
        have hlen : 0 < (Report.spaces (w.stopAfter column - column)).length := by
          rwa [Report.spaces, List.length_replicate]
        have htext : text (t :: ahead ts (k + 1)) = '\t' :: text (ahead ts (k + 1)) :=
          congrArg (· :: _) htab
        rw [htext, expand_tab, List.getElem?_append_left hlen, if_pos (beq_iff_eq.2 htab)]
        exact List.getElem?_replicate_of_lt hgap
      · simp [text, htab, expand_of_ne_tab htab]

end Layout

namespace ParseState

open Layout

variable {τ ε : Type} [CharLike τ] {S : ChunkStream τ} {s : ParseState τ (Chunk τ) ε}
  {input : Chunk τ} {o : Origin}

theorem currentLine_cursor (input : Chunk τ) (o : Origin) (k : Nat) :
    (cursor input o k).currentLine S.stream =
      leadAfter o (input.toList.take k) ++ String.ofList (text (lineAt input.toList k)) := by
  have hahead : (S.stream.toList
      (S.stream.span (fun t => !CharLike.isNewline t) (input.splitAt k).2).1) =
      ahead input.toList k := by
    rw [ChunkStream.span_eq, ChunkStream.toList_stream, Chunk.toList_splitAt_fst,
      Chunk.toList_splitAt_snd]
    exact (List.prefix_iff_eq_take.1 (List.takeWhile_prefix _)).symm
  rw [Cursor.currentLine, text_lineAt, String.ofList_append, ← String.append_assoc]
  simp only [cursor, lineUpTo, hahead, text]

theorem leadAt_cursor (hs : s.start = .start input o) (k : Nat) :
    s.leadAt (cursor input o k) = leadAfter o (input.toList.take k) := by
  rw [leadAt, hs, leadAfter_eq_of_line]
  rfl

theorem shownLine_cursor (hs : s.start = .start input o) (k : Nat) :
    s.shownLine S.stream (cursor input o k) = do
      let body ← Report.expandTabs o.tabWidth (String.ofList (text (lineAt input.toList k)))
      return leadAfter o (input.toList.take k) ++ body := by
  have htabs : (cursor input o k).tabWidth = o.tabWidth := rfl
  rw [shownLine, leadAt_cursor hs, currentLine_cursor, Report.dropLead_append, htabs]

theorem caretMargin_cursor [CharLike.Plain τ] (hs : s.start = .start input o) {k : Nat}
    (hfit : (leadAfter o (input.toList.take k)).length + (place o (input.toList.take k)).column <
      Count.limit) :
    s.caretMargin (cursor input o k) = Count.textSize ((leadAfter o (input.toList.take k)).length +
      (expand o.tabWidth 1 (text (lastLine (input.toList.take k)))).length) := by
  have hadd := Count.add_eq_ok_iff.2 ⟨rfl, hfit⟩
  have hcolumn := column_place o (input.toList.take k)
  have hsub : Count.sub ((leadAfter o (input.toList.take k)).length +
      (place o (input.toList.take k)).column) 1 = .ok _ :=
    Count.sub_eq_ok_iff.2 (by rw [hcolumn, Nat.add_left_comm])
  rw [caretMargin, leadAt_cursor hs]
  show (Count.add _ (place o (input.toList.take k)).column >>= _) = _
  rw [hadd, Checked.ok_bind, hsub, Checked.ok_bind]

variable [BEq τ] {Rest : Chunk τ → Nat → Chunk τ → Prop} {es : List (Event τ ε)}

theorem report_run [ToText τ] [ToText ε] (h : Run S.stream Rest (init input o) es s)
    (e : ParseError τ ε) (hfit : ReportFits o input.toList (min e.offset input.size)) :
    s.report S.stream e = s.reportAt S.stream (cursor input o (min e.offset input.size)) e := by
  rw [report, cursorAt_run h, reach_start hfit.toWayFits, Checked.ok_bind, cursor_min]

variable [CharLike.Plain τ] [ToText τ] [ToText ε]

/-- Column counting and tab expansion agree: the caret stands after as many spaces as the lead and the
expanded part of the line before it have characters. -/
theorem report_eq_layout (h : Run S.stream Rest (init input o) es s) (e : ParseError τ ε)
    (hfit : ReportFits o input.toList (min e.offset input.size)) :
    let ts := input.toList
    let k := min e.offset input.size
    let lead := leadAfter o (ts.take k)
    s.report S.stream e = do
      let line ← Report.expandTabs o.tabWidth (String.ofList (text (lineAt ts k)))
      let before ← Report.expandTabs o.tabWidth (String.ofList (text (lastLine (ts.take k))))
      let margin ← Count.textSize (lead.length + before.length)
      return Report.layout (place o (ts.take k)) (lead ++ line) margin e.message := by
  intro ts k lead
  have hs := (tracks_run h).1
  have hplace : (cursor input o k).location = place o (ts.take k) := rfl
  rw [report_run h e hfit, reportAt, shownLine_cursor hs, caretMargin_cursor hs hfit.caret, hplace,
    bind_assoc]
  by_cases htabs : TabsFit o.tabWidth 1 0 (text (lineAt ts k))
  · rw [expandTabs_of_tabsFit hfit.columns_line htabs, Checked.ok_bind, Checked.ok_bind, pure_bind,
      expandTabs_of_tabsFit hfit.columns_before htabs.before, Checked.ok_bind, String.length_ofList]
  · rw [expandTabs_of_not_tabsFit hfit.columns_line htabs, Checked.error_bind, Checked.error_bind]

/-- A report is printed as the place, the line of the offset between gutters as wide as the line number,
the caret and the message. The line that is shown is the lead and the whole line of the input with
spaces for its tabs. Before the caret stand as many spaces as the lead and the expanded part of the line
before the offset have characters, so it stands where the line shows the token, also with the line
number and the gutter in front of the two. Where all counts fit, a report can only fail for want of
room: for the spaces of a tab, or for those before the caret. -/
theorem report_shows_token (h : Run S.stream Rest (init input o) es s) (e : ParseError τ ε)
    (hfit : ReportFits o input.toList (min e.offset input.size)) :
    let ts := input.toList
    let k := min e.offset input.size
    let there := place o (ts.take k)
    let lead := leadAfter o (ts.take k)
    let expanded := Report.expandTabs o.tabWidth (String.ofList (text (lineAt ts k)))
    let expandedBefore := Report.expandTabs o.tabWidth (String.ofList (text (lastLine (ts.take k))))
    let number := there.line.repr
    let gutter := String.ofList (List.replicate number.length ' ')
    let shown (line : String) := number ++ " | " ++ (lead ++ line)
    let pointed (margin : Nat) := gutter ++ " | " ++ String.ofList (List.replicate margin ' ')
    let printed (line : String) (margin : Nat) :=
      o.name ++ ":" ++ number ++ ":" ++ there.column.repr ++ ":\n" ++
        gutter ++ " |\n" ++
        shown line ++ "\n" ++
        pointed margin ++ "^\n" ++
        e.message
    (s.report S.stream e = do
      let line ← expanded
      let before ← expandedBefore
      let margin ← Count.textSize (lead.length + before.length)
      return printed line margin) ∧
    (ReportRoom o ts k → ∃ line before, expanded = .ok line ∧ expandedBefore = .ok before ∧
      s.report S.stream e = .ok (printed line (lead.length + before.length)) ∧
      there.column = 1 + before.length ∧
      ShowsAt ts k (lead ++ line).toList (lead.length + before.length) ∧
      ShowsAt ts k (shown line).toList (pointed (lead.length + before.length)).length) ∧
    (¬ ReportRoom o ts k → s.report S.stream e = .error .capacity) := by
  intro ts k there lead expanded expandedBefore number gutter shown pointed printed
  have hreport : s.report S.stream e = do
      let line ← expanded
      let before ← expandedBefore
      let margin ← Count.textSize (lead.length + before.length)
      return printed line margin := by
    rw [report_eq_layout h e hfit]
    simp only [Report.layout_eq_rows]
    rfl
  have hexpanded (htabs : TabsFit o.tabWidth 1 0 (text (lineAt ts k))) :
      expanded = .ok (String.ofList (expand o.tabWidth 1 (text (lineAt ts k)))) ∧
      expandedBefore = .ok (String.ofList (expand o.tabWidth 1 (text (lastLine (ts.take k))))) :=
    ⟨expandTabs_of_tabsFit hfit.columns_line htabs,
      expandTabs_of_tabsFit hfit.columns_before htabs.before⟩
  refine ⟨hreport, ?_, ?_⟩
  · intro hroom
    obtain ⟨hline, hbefore⟩ := hexpanded hroom.line
    have hcaret := Count.textSize_eq_ok_iff.2 ⟨rfl, hroom.caret⟩
    have hshows : ShowsAt ts k
        (lead ++ String.ofList (expand o.tabWidth 1 (text (lineAt ts k)))).toList
        (lead.length + (expand o.tabWidth 1 (text (lastLine (ts.take k)))).length) := by
      rw [text_lineAt, expand_append, String.toList_append, String.toList_ofList,
        ← List.append_assoc, ← String.length_toList, ← List.length_append]
      exact showsAt_expand ..
    -- The gutter makes up for the line number, and the bars behind the two are alike.
    have hpointed (margin : Nat) :
        (pointed margin).length = (number ++ " | ").toList.length + margin := by
      simp only [pointed, gutter, String.length_append, String.length_ofList,
        List.length_replicate, String.length_toList]
    refine ⟨_, _, hline, hbefore, ?_, ?_, ?_, ?_⟩
    · rw [hreport, hline, Checked.ok_bind, hbefore, Checked.ok_bind, String.length_ofList, hcaret]
      rfl
    · rw [String.length_ofList]
      exact column_place o (ts.take k)
    · rw [String.length_ofList]
      exact hshows
    · rw [String.length_ofList, hpointed, String.toList_append]
      exact hshows.prepend _
  · intro hroom
    rw [hreport]
    by_cases htabs : TabsFit o.tabWidth 1 0 (text (lineAt ts k))
    · obtain ⟨hline, hbefore⟩ := hexpanded htabs
      have hcaret := fun hcaret => hroom ⟨htabs, hcaret⟩
      rw [hline, Checked.ok_bind, hbefore, Checked.ok_bind, String.length_ofList, Count.textSize,
        if_neg hcaret, Checked.error_bind]
    · have hline : expanded = .error .capacity := expandTabs_of_not_tabsFit hfit.columns_line htabs
      rw [hline, Checked.error_bind]

/-- An error behind the cached cursor, after a tab on the line with the lead. -/
theorem report_shows_token_behind :
    let S := (ChunkStream.natural (τ := Char)).stream
    let o : Origin := ⟨"f", ⟨4, by decide⟩, "> "⟩
    let start : ParseState Char (Chunk Char) String := init (Chunk.ofString "a\tb\ncd") o
    let synced : Cursor (Chunk Char) :=
      { rest := (start.input.splitAt 5).2, offset := 5, location := ⟨"f", 2, 2⟩,
        tabWidth := o.tabWidth, lineSoFar := "c" }
    let s := { start with input := (start.input.splitAt 5).2, offset := 5, cached := synced }
    (∃ es, Run S (fun _ _ _ => True) start es s) ∧
      ReportFits o start.input.toList 2 ∧ ReportRoom o start.input.toList 2 ∧
      s.report S (.fail 2 "late") = .ok "f:1:5:\n  |\n1 | > a   b\n  |       ^\nlate" ∧
      ShowsAt "a\tb\ncd".toList 2 "> a   b".toList 6 ∧
      ShowsAt "a\tb\ncd".toList 2 "1 | > a   b".toList "  |       ".length := by
  intro S o start synced s
  let taken := { start with input := (start.input.splitAt 5).2, offset := 5 }
  have hread : Step S (fun _ _ _ => True) start (.took (S.toList (start.input.splitAt 5).1)) taken :=
    .read (n := 5) rfl
  have hsync : Step S (fun _ _ _ => True) taken .synced s :=
    .sync (by subst s taken synced start o S; rfl)
  have hrun : Run S (fun _ _ _ => True) start _ s := .step (.step (.refl _) hread) hsync
  have hfit : ReportFits o start.input.toList 2 :=
    ⟨⟨by decide, by decide⟩, by decide, by decide⟩
  have hroom : ReportRoom o start.input.toList 2 :=
    ⟨tabsFit_of_bytes (by decide), by decide⟩
  obtain ⟨line, before, hline, hbefore, hreport, -, hshows, hpoints⟩ :=
    (report_shows_token hrun (.fail 2 "late") hfit).2.1 hroom
  obtain rfl : line = "a   b" := Except.ok.inj (hline.symm.trans (by decide))
  obtain rfl : before = "a   " := Except.ok.inj (hbefore.symm.trans (by decide))
  refine ⟨⟨_, hrun⟩, hfit, hroom, ?_, ?_, ?_⟩
  · rw [hreport]
    decide
  · convert hshows using 1 <;> decide
  · convert hpoints using 1 <;> decide

end ParseState

end Pinpoint
