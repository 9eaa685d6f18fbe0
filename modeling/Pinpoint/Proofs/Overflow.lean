import Pinpoint.Proofs.Caret
import Pinpoint.Proofs.OnePass
import Pinpoint.Proofs.Passage

/-! What can fail to fit. A move of a cursor fails exactly if a count on its way is too large, and
never for want of something to subtract from. If the columns that the input could take up are counts,
then no place and no report of it meets a count that is not, and only memory can be missing. -/

namespace Pinpoint

namespace Checked

variable {α β : Type} {P Q : Overflow → Prop} {x : Checked α} {f : α → Checked β}

/-- Whatever stops the computation, if anything does, is of the kind `P`. -/
def FailsOnly (P : Overflow → Prop) (x : Checked α) : Prop := ∀ e, x = .error e → P e

theorem failsOnly_ok (a : α) : FailsOnly P (.ok a) := nofun

theorem FailsOnly.mono (h : FailsOnly P x) (hPQ : ∀ e, P e → Q e) : FailsOnly Q x :=
  fun e he => hPQ e (h e he)

theorem FailsOnly.bind (h : FailsOnly P x) (hf : ∀ a, x = .ok a → FailsOnly P (f a)) :
    FailsOnly P (x >>= f) := by
  intro e he
  cases x with
  | error e' =>
    cases he
    exact h e rfl
  | ok a => exact hf a rfl e he

theorem failsOnly_mapM {as : List α} (h : ∀ a ∈ as, FailsOnly P (f a)) :
    FailsOnly P (as.mapM f) := by
  induction as with
  | nil => exact failsOnly_ok []
  | cons a as ih =>
    rw [List.mapM_cons]
    refine (h a List.mem_cons_self).bind ?_
    intro b _
    refine (ih fun a' ha' => h a' (List.mem_cons_of_mem a ha')).bind ?_
    intro bs _
    exact failsOnly_ok (b :: bs)

theorem exists_error_iff : (∃ e, x = .error e) ↔ ¬ ∃ a, x = .ok a := by
  cases x with
  | error e => simp
  | ok a => simp

end Checked

open Checked

namespace Count

variable {P : Overflow → Prop}

theorem failsOnly_add (h : P .add) (a b : Nat) : FailsOnly P (add a b) := by
  unfold add
  split
  · exact failsOnly_ok _
  · rintro _ ⟨⟩
    exact h

theorem failsOnly_mul (h : P .multiply) (a b : Nat) : FailsOnly P (mul a b) := by
  unfold mul
  split
  · exact failsOnly_ok _
  · rintro _ ⟨⟩
    exact h

theorem failsOnly_textSize (n : Nat) :
    FailsOnly (fun e => e = .capacity ∧ textLimit ≤ n) (textSize n) := by
  unfold textSize
  split
  · exact failsOnly_ok _
  · next h =>
    rintro _ ⟨⟩
    exact ⟨rfl, Nat.le_of_not_lt h⟩

end Count

/-! Nothing is subtracted from a column that does not exist. -/

theorem TabWidth.failsOnly_nextStop (w : TabWidth) {column : Nat} (hc : 1 ≤ column) :
    FailsOnly (· ≠ .subtract) (w.nextStop column) := by
  have hsub : Count.sub column 1 = .ok (column - 1) := Count.sub_eq_ok_iff.2 (by omega)
  rw [nextStop, hsub, Checked.ok_bind]
  refine (Count.failsOnly_add nofun _ _).bind ?_
  intro stops _
  refine (Count.failsOnly_mul nofun _ _).bind ?_
  intro columns _
  exact Count.failsOnly_add nofun _ _

namespace Location

variable {τ : Type} [CharLike τ] {w : TabWidth} {l : Location}

theorem failsOnly_pass (w : TabWidth) (hc : 1 ≤ l.column) (t : τ) :
    FailsOnly (· ≠ .subtract) (l.pass w t) := by
  unfold pass
  split
  · exact (Count.failsOnly_add nofun _ _).bind fun _ _ => failsOnly_ok _
  · split
    · exact (w.failsOnly_nextStop hc).bind fun _ _ => failsOnly_ok _
    · exact (Count.failsOnly_add nofun _ _).bind fun _ _ => failsOnly_ok _

theorem failsOnly_foldlM_pass (hc : 1 ≤ l.column) (hl : l.Fits) (ts : List τ) :
    FailsOnly (· ≠ .subtract) (ts.foldlM (pass w) l) := by
  induction ts generalizing l with
  | nil => exact failsOnly_ok l
  | cons t ts ih =>
    rw [List.foldlM_cons]
    refine (failsOnly_pass w hc t).bind ?_
    intro l' hpass
    obtain ⟨rfl, hfit⟩ := passed_of_pass hc hl hpass
    exact ih (one_le_column_passed w l t) hfit

theorem line_le_line_passed (w : TabWidth) (l : Location) (t : τ) :
    l.line ≤ (l.passed w t).line := by
  unfold passed
  split
  · exact Nat.le_succ _
  · split
    · exact Nat.le_refl _
    · exact Nat.le_refl _

theorem line_le_line_foldl (w : TabWidth) (l : Location) (ts : List τ) :
    l.line ≤ (ts.foldl (passed w) l).line := by
  induction ts generalizing l with
  | nil => exact Nat.le_refl _
  | cons t ts ih => exact Nat.le_trans (line_le_line_passed w l t) (ih (l.passed w t))

theorem one_le_column_foldl (hc : 1 ≤ l.column) (ts : List τ) :
    1 ≤ (ts.foldl (passed w) l).column := by
  induction ts generalizing l with
  | nil => exact hc
  | cons t ts ih => exact ih (one_le_column_passed w l t)

end Location

namespace Cursor

variable {τ : Type} [CharLike τ] {S : ChunkStream τ} {c : Cursor (Chunk τ)} {n : Nat}

theorem failsOnly_advance (hc : c.Proper) : FailsOnly (· ≠ .subtract) (c.advance S.stream n) := by
  rw [advance_eq hc.offset]
  refine (Location.failsOnly_foldlM_pass hc.column hc.location _).bind ?_
  intro location _
  refine (Count.failsOnly_add nofun _ _).bind ?_
  intro offset _
  exact failsOnly_ok _

/-- The counts on the way are too large where a line or a column is, or the offset at the end. -/
theorem not_canPass_iff : ¬ c.CanPass n ↔
    (∃ ts, ts <+: c.rest.toList.take n ∧
      (Count.limit ≤ (ts.foldl (Location.passed c.tabWidth) c.location).line ∨
        Count.limit ≤ (ts.foldl (Location.passed c.tabWidth) c.location).column)) ∨
      Count.limit ≤ c.offset + (c.rest.toList.take n).length := by
  rw [List.length_take, Chunk.length_toList]
  constructor
  · intro h
    by_cases ho : c.offset + min n c.rest.size < Count.limit
    · left
      by_contra hplaces
      refine h ⟨?_, ho⟩
      intro ts hts
      unfold Location.Fits
      by_contra hfit
      exact hplaces ⟨ts, hts, by omega⟩
    · exact Or.inr (by omega)
  · rintro (⟨ts, hts, hlarge⟩ | ho) h
    · obtain ⟨hline, hcolumn⟩ := h.places ts hts
      omega
    · have := h.offset
      omega

end Cursor

theorem Chunk.min_size_le_length {τ : Type} (c : Chunk τ) (k : Nat) :
    min k c.size ≤ c.toList.length := by
  rw [length_toList]
  exact Nat.min_le_right ..

/-! How far tokens can reach: no token takes up more columns than a tab can. -/

namespace Layout

section Columns

variable {τ : Type} [CharLike τ] {o : Origin} {column k : Nat}

theorem columnAfter_le (w : TabWidth) (hc : 1 ≤ column) (ts : List τ) :
    columnAfter w column ts ≤ column + ts.length * w.columns := by
  induction ts generalizing column with
  | nil => exact Nat.le_add_right ..
  | cons t ts ih =>
    -- The lower bound keeps the column at least one, without which a stop could be further off.
    let next := if CharLike.isTab t then w.stopAfter column else column + 1
    have hbounds : column < next ∧ next ≤ column + w.columns := by
      have hpos := w.pos
      have hlt := w.lt_stopAfter column
      have hle := w.stopAfter_le hc
      simp only [next]
      split <;> omega
    have hrest : columnAfter w next ts ≤ next + ts.length * w.columns := ih (by omega)
    rw [List.length_cons, Nat.succ_mul]
    show columnAfter w next ts ≤ _
    omega

theorem length_lastLine_le (ts : List τ) : (lastLine ts).length ≤ ts.length :=
  (List.rtakeWhile_suffix (fun t => !CharLike.isNewline t) ts).length_le

theorem length_lineAt_le (ts : List τ) (k : Nat) : (lineAt ts k).length ≤ ts.length := by
  have hbefore := length_lastLine_le (ts.take k)
  have hahead := (List.takeWhile_prefix (l := ts.drop k) fun t => !CharLike.isNewline t).length_le
  rw [List.length_take] at hbefore
  rw [List.length_drop] at hahead
  rw [lineAt, List.length_append, ahead]
  omega

theorem length_leadAfter_le (o : Origin) (ts : List τ) :
    (leadAfter o ts).length ≤ o.lead.length := by
  unfold leadAfter
  split
  · exact Nat.zero_le _
  · exact Nat.le_refl _

theorem place_take_le (o : Origin) (ts : List τ) (j : Nat) :
    (place o (ts.take j)).line ≤ 1 + ts.length * o.tabWidth.columns ∧
      (place o (ts.take j)).column ≤ 1 + ts.length * o.tabWidth.columns := by
  have htake := List.length_take_le' j ts
  constructor
  · have hcount := List.countP_le_length (p := CharLike.isNewline) (l := ts.take j)
    have hle := Nat.le_mul_of_pos_right ts.length o.tabWidth.pos
    show 1 + (ts.take j).countP CharLike.isNewline ≤ _
    omega
  · have hle := columnAfter_le o.tabWidth (Nat.le_refl 1) (lastLine (ts.take j))
    have hlast := length_lastLine_le (ts.take j)
    have hmul := Nat.mul_le_mul_right o.tabWidth.columns (Nat.le_trans hlast htake)
    exact Nat.le_trans hle (Nat.add_le_add_left hmul 1)

/-- The column after the lead and `n` tokens of one line, if each of them is a tab on a stop. -/
def widest (o : Origin) (n : Nat) : Nat := n * o.tabWidth.columns + o.lead.length + 1

theorem wayFits_of_widest {ts : List τ} (h : widest o ts.length < Count.limit) (hk : k ≤ ts.length) :
    WayFits o ts k := by
  unfold widest at h
  have hle := Nat.le_mul_of_pos_right ts.length o.tabWidth.pos
  refine ⟨by omega, ?_⟩
  intro j _
  obtain ⟨hline, hcolumn⟩ := place_take_le o ts j
  exact ⟨by omega, by omega⟩

/-- The counts of a report are not larger than those of a place, but for the columns of the rest of
the line and the lead before the caret. -/
theorem reportFits_of_widest {ts : List τ} (h : widest o ts.length < Count.limit)
    (hk : k ≤ ts.length) : ReportFits o ts k := by
  have hway := wayFits_of_widest h hk
  unfold widest at h
  refine ⟨hway, ?_, ?_⟩
  · have hle := columnAfter_le o.tabWidth (Nat.le_refl 1) (lineAt ts k)
    have hmul := Nat.mul_le_mul_right o.tabWidth.columns (length_lineAt_le ts k)
    omega
  · have hlead := length_leadAfter_le o (ts.take k)
    have hcolumn := (place_take_le o ts k).2
    omega

end Columns

section Expansion

variable {w : TabWidth} {column : Nat} {cs : List Char}

/-- A character has at most four bytes, and a tab is at most a tab width of spaces. -/
theorem bytes_expand_le (w : TabWidth) (hc : 1 ≤ column) (cs : List Char) :
    bytes (expand w column cs) ≤ 4 * (cs.length * w.columns) := by
  induction cs generalizing column with
  | nil => exact Nat.zero_le _
  | cons c cs ih =>
    rw [List.length_cons, Nat.succ_mul cs.length]
    by_cases ht : c = '\t'
    · subst ht
      have hlt := w.lt_stopAfter column
      have hle := w.stopAfter_le hc
      have hrest : bytes (expand w (w.stopAfter column) cs) ≤ 4 * (cs.length * w.columns) :=
        ih (by omega)
      rw [expand_tab, bytes_append, bytes_spaces]
      omega
    · have hpos := w.pos
      have hsize := c.utf8Size_le_four
      have hrest : bytes (expand w (column + 1) cs) ≤ 4 * (cs.length * w.columns) := ih (by omega)
      rw [expand_of_ne_tab ht, bytes_cons]
      omega

theorem failsOnly_expandTabs (hfit : columnAfter w 1 cs < Count.limit) :
    FailsOnly (fun e => e = .capacity ∧ Count.textLimit ≤ 4 * (cs.length * w.columns))
      (Report.expandTabs w (String.ofList cs)) := by
  by_cases htabs : TabsFit w 1 0 cs
  · rw [expandTabs_of_tabsFit hfit htabs]
    exact failsOnly_ok _
  · rw [expandTabs_of_not_tabsFit hfit htabs]
    rintro _ ⟨⟩
    refine ⟨rfl, ?_⟩
    by_contra hroom
    have hle := bytes_expand_le w (Nat.le_refl 1) cs
    exact htabs (tabsFit_of_bytes (by omega))

end Expansion

end Layout

namespace ParseState

open Layout

variable {τ ε : Type} [CharLike τ] {S : ChunkStream τ} {s : ParseState τ (Chunk τ) ε}
  {input : Chunk τ} {o : Origin}

/-- A text of the size that the input, widened by its tabs, and the lead could have does not fit in
memory. -/
def OutOfRoom (o : Origin) (n : Nat) (e : Overflow) : Prop :=
  e = .capacity ∧ Count.textLimit ≤ 4 * (n * o.tabWidth.columns) + o.lead.length

theorem failsOnly_shownLine (hs : s.start = .start input o)
    (h : widest o input.toList.length < Count.limit) (k : Nat) :
    FailsOnly (OutOfRoom o input.toList.length) (s.shownLine S.stream (cursor input o k)) := by
  have hlen : (text (lineAt input.toList k)).length ≤ input.toList.length := by
    rw [text, List.length_map]
    exact length_lineAt_le input.toList k
  have hmul := Nat.mul_le_mul_right o.tabWidth.columns hlen
  have hle := columnAfter_le o.tabWidth (Nat.le_refl 1) (text (lineAt input.toList k))
  unfold widest at h
  rw [shownLine_cursor hs]
  refine ((failsOnly_expandTabs (by omega)).mono ?_).bind fun _ _ => failsOnly_ok _
  rintro e ⟨rfl, hroom⟩
  exact ⟨rfl, by omega⟩

theorem failsOnly_caretMargin (hs : s.start = .start input o)
    (h : widest o input.toList.length < Count.limit) (k : Nat) :
    FailsOnly (OutOfRoom o input.toList.length) (s.caretMargin (cursor input o k)) := by
  have hlead := length_leadAfter_le o (input.toList.take k)
  have hcolumn := (place_take_le o input.toList k).2
  have hone := one_le_column_place o (input.toList.take k)
  unfold widest at h
  let column := (leadAfter o (input.toList.take k)).length + (place o (input.toList.take k)).column
  have hadd : Count.add (leadAfter o (input.toList.take k)).length
      (place o (input.toList.take k)).column = .ok column :=
    Count.add_eq_ok_iff.2 ⟨rfl, by omega⟩
  have hsub : Count.sub column 1 = .ok (column - 1) := Count.sub_eq_ok_iff.2 (by omega)
  rw [caretMargin, leadAt_cursor hs]
  show FailsOnly _ (Count.add _ (place o (input.toList.take k)).column >>= _)
  rw [hadd, Checked.ok_bind, hsub, Checked.ok_bind]
  refine (Count.failsOnly_textSize _).mono ?_
  rintro e ⟨rfl, hroom⟩
  exact ⟨rfl, by omega⟩

variable [BEq τ] {Rest : Chunk τ → Nat → Chunk τ → Prop} {es : List (Event τ ε)}

theorem exists_cursorAt (hrun : Run S.stream Rest (init input o) es s)
    (h : widest o input.toList.length < Count.limit) (k : Nat) :
    ∃ c, s.cursorAt S.stream k = .ok c := by
  rw [cursorAt_run hrun]
  exact exists_reach_start_iff.2 (wayFits_of_widest h (input.min_size_le_length k))

variable [ToText τ] [ToText ε]

theorem failsOnly_report (hrun : Run S.stream Rest (init input o) es s)
    (h : widest o input.toList.length < Count.limit) (e : ParseError τ ε) :
    FailsOnly (OutOfRoom o input.toList.length) (s.report S.stream e) := by
  have hs := (tracks_run hrun).1
  have hfit := reportFits_of_widest h (input.min_size_le_length e.offset)
  rw [report_run hrun e hfit, reportAt]
  refine (failsOnly_shownLine hs h _).bind ?_
  intro line _
  refine (failsOnly_caretMargin hs h _).bind ?_
  intro margin _
  exact failsOnly_ok _

theorem failsOnly_reportAll (hrun : Run S.stream Rest (init input o) es s)
    (h : widest o input.toList.length < Count.limit) :
    FailsOnly (OutOfRoom o input.toList.length) (s.reportAll S.stream) := by
  rw [reportAll_run hrun]
  exact failsOnly_mapM fun e _ => failsOnly_report hrun h e

/-- A move fails exactly if after some of the tokens that it passes the line or the column is too
large, or the offset after all of them. It never subtracts too much. Otherwise it leads where the
unbounded move leads, to a line and a column that exist. On an input whose tokens would fit on one
line behind the lead if they were all tabs, every offset has a place, and a report can fail only for
want of memory, where a text of four bytes for each of these columns would be too large. -/
theorem overflow_iff_not_fits (S : ChunkStream τ) :
    (∀ (c : Cursor (Chunk τ)) (n : Nat), c.offset < Count.limit → c.location.Fits →
      1 ≤ c.location.line → 1 ≤ c.location.column →
      let passed := c.rest.toList.take n
      let placeAfter := fun ts : List τ => ts.foldl (Location.passed c.tabWidth) c.location
      ((∃ x, c.advance S.stream n = .error x) ↔
        (∃ ts, ts <+: passed ∧
          (Count.limit ≤ (placeAfter ts).line ∨ Count.limit ≤ (placeAfter ts).column)) ∨
        Count.limit ≤ c.offset + passed.length) ∧
      c.advance S.stream n ≠ .error .subtract ∧
      ∀ c', c.advance S.stream n = .ok c' →
        c' = c.advanced n ∧ 1 ≤ c'.location.line ∧ 1 ≤ c'.location.column) ∧
    ∀ (Rest : Chunk τ → Nat → Chunk τ → Prop) (input : Chunk τ) (o : Origin)
      (es : List (Event τ ε)) (s : ParseState τ (Chunk τ) ε),
      Run S.stream Rest (init input o) es s →
      let n := input.toList.length
      let w := o.tabWidth.columns
      let p := o.lead.length
      n * w + p + 1 < Count.limit →
      (∀ k, ∃ l, s.locate S.stream k = .ok l) ∧ (∃ s', s.sync S.stream = .ok s') ∧
      (∀ e x, s.report S.stream e = .error x →
        x = .capacity ∧ Count.textLimit ≤ 4 * (n * w) + p) ∧
      ∀ x, s.reportAll S.stream = .error x →
        x = .capacity ∧ Count.textLimit ≤ 4 * (n * w) + p := by
  constructor
  · intro c n hoffset hfits hline hcolumn passed placeAfter
    have hc : c.Proper := ⟨hoffset, hfits, hcolumn⟩
    refine ⟨?_, fun h => Cursor.failsOnly_advance hc _ h rfl, ?_⟩
    · rw [exists_error_iff, Cursor.exists_advance_iff hc]
      exact Cursor.not_canPass_iff
    · intro c' h
      obtain ⟨-, rfl⟩ := (Cursor.advance_eq_ok_iff hc).1 h
      exact ⟨rfl, Nat.le_trans hline (Location.line_le_line_foldl ..),
        Location.one_le_column_foldl hcolumn _⟩
  · intro Rest input o es s hrun n w p hwidest
    refine ⟨?_, ?_, fun e => failsOnly_report hrun hwidest e, failsOnly_reportAll hrun hwidest⟩
    · intro k
      obtain ⟨c, hc⟩ := exists_cursorAt hrun hwidest k
      rw [locate, hc]
      exact ⟨c.location, rfl⟩
    · obtain ⟨c, hc⟩ := exists_cursorAt hrun hwidest s.offset
      exact ⟨_, sync_eq_ok_iff.2 ⟨c, hc, rfl⟩⟩

/-- A move that fails though the place it leads to fits: the column before the newline does not. And
an input with a tab and a lead, where an error past the end was put off. -/
theorem overflow_iff_not_fits_before_newline :
    let S := (ChunkStream.natural (τ := Char))
    let c : Cursor (Chunk Char) :=
      { rest := .ofString "a\nb", offset := 5, location := ⟨"f", 3, 0xFFFFFFFFFFFFFFFF⟩,
        tabWidth := .standard, lineSoFar := "" }
    let o : Origin := ⟨"f", ⟨4, by decide⟩, "> "⟩
    let start : ParseState Char (Chunk Char) String := init (Chunk.ofString "a\tb\ncd") o
    let s := start.defer (.fail 99 "late")
    (c.offset < Count.limit ∧ c.location.Fits ∧ 1 ≤ c.location.line ∧ 1 ≤ c.location.column) ∧
      (c.advanced 2).location.Fits ∧ (∃ x, c.advance S.stream 2 = .error x) ∧
      Run S.stream (fun _ _ _ => True) start [.deferred (.fail 99 "late")] s ∧
      start.input.toList.length * 4 + o.lead.length + 1 < Count.limit ∧
      (∀ k, ∃ l, s.locate S.stream k = .ok l) ∧ ∃ texts, s.reportAll S.stream = .ok texts := by
  intro S c o start s
  have hc : c.offset < Count.limit ∧ c.location.Fits ∧ 1 ≤ c.location.line ∧
      1 ≤ c.location.column := by decide
  have hrun : Run S.stream (fun _ _ _ => True) start [.deferred (.fail 99 "late")] s :=
    .step (.refl _) (.defer _)
  have hwidest : start.input.toList.length * 4 + o.lead.length + 1 < Count.limit := by decide
  obtain ⟨hmove, hstate⟩ := overflow_iff_not_fits (ε := String) S
  obtain ⟨hfails, -, -⟩ := hmove c 2 hc.1 hc.2.1 hc.2.2.1 hc.2.2.2
  obtain ⟨hlocate, -, -, hreport⟩ := hstate _ _ o _ s hrun hwidest
  refine ⟨hc, by decide, hfails.2 (Or.inl ⟨['a'], by decide, by decide⟩), hrun, hwidest, hlocate, ?_⟩
  cases htexts : s.reportAll S.stream with
  | ok texts => exact ⟨texts, rfl⟩
  | error x => exact absurd (hreport x htexts).2 (by decide)

end ParseState

end Pinpoint
