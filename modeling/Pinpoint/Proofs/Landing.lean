import Mathlib.Data.Nat.Find
import Mathlib.Data.Nat.ModEq
import Pinpoint.Marked
import Pinpoint.Proofs.Layout

/-! Where a cursor lands that is sent to an offset: it arrives exactly if every count on its way fits,
and then all that it knows is read off the tokens before the offset. -/

namespace Pinpoint

namespace TabWidth

/-- Column 1 and the columns that lie a multiple of the width beyond it. -/
def IsStop (w : TabWidth) (column : Nat) : Prop := column ≡ 1 [MOD w.columns]

instance (w : TabWidth) : DecidablePred w.IsStop :=
  fun column => inferInstanceAs (Decidable (column ≡ 1 [MOD w.columns]))

variable {w : TabWidth} {column stop : Nat}

theorem isStop_stopAfter (w : TabWidth) (column : Nat) : w.IsStop (w.stopAfter column) := by
  have hle : 1 ≤ w.stopAfter column := Nat.le_add_left ..
  refine ((Nat.modEq_iff_dvd' hle).2 ?_).symm
  exact ⟨_, Nat.mul_comm ..⟩

/-- The formula skips no stop. Column 0, which no text has, would be an exception. -/
theorem stopAfter_le_of_isStop (hc : 1 ≤ column) (hlt : column < stop) (hs : w.IsStop stop) :
    w.stopAfter column ≤ stop := by
  obtain ⟨q, hq⟩ := (Nat.modEq_iff_dvd' (by omega)).1 hs.symm
  have hbefore : column - 1 < q * w.columns := by
    rw [Nat.mul_comm, ← hq]
    omega
  have hdiv : (column - 1) / w.columns < q := (Nat.div_lt_iff_lt_mul w.pos).2 hbefore
  have hmul : ((column - 1) / w.columns + 1) * w.columns ≤ q * w.columns :=
    Nat.mul_le_mul_right _ hdiv
  rw [Nat.mul_comm q, ← hq] at hmul
  unfold stopAfter
  omega

theorem exists_stop_past (w : TabWidth) (column : Nat) : ∃ stop, column < stop ∧ w.IsStop stop :=
  ⟨w.stopAfter column, w.lt_stopAfter column, w.isStop_stopAfter column⟩

/-- The least stop past a column. -/
def stopPast (w : TabWidth) (column : Nat) : Nat := Nat.find (w.exists_stop_past column)

theorem stopAfter_eq_stopPast (hc : 1 ≤ column) : w.stopAfter column = w.stopPast column := by
  obtain ⟨hlt, hs⟩ := Nat.find_spec (w.exists_stop_past column)
  apply Nat.le_antisymm
  · exact stopAfter_le_of_isStop hc hlt hs
  · exact Nat.find_min' _ ⟨w.lt_stopAfter column, w.isStop_stopAfter column⟩

end TabWidth

namespace Location

variable {τ : Type} [CharLike τ] {w : TabWidth} {l l' : Location}

theorem passed_of_pass {t : τ} (hc : 1 ≤ l.column) (hl : l.Fits) (h : l.pass w t = .ok l') :
    l' = l.passed w t ∧ l'.Fits := by
  cases hn : CharLike.isNewline t with
  | true =>
    simp only [pass, passed, hn, if_true] at h ⊢
    obtain ⟨line, ha, h⟩ := Checked.bind_eq_ok_iff.1 h
    obtain ⟨rfl, hlt⟩ := Count.add_eq_ok_iff.1 ha
    cases h
    exact ⟨rfl, hlt, show 1 < Count.limit by decide⟩
  | false =>
    cases ht : CharLike.isTab t with
    | true =>
      simp only [pass, passed, hn, ht, Bool.false_eq_true, if_false, if_true] at h ⊢
      obtain ⟨column, ha, h⟩ := Checked.bind_eq_ok_iff.1 h
      obtain ⟨rfl, hlt⟩ := (TabWidth.nextStop_eq_ok_iff hc).1 ha
      cases h
      exact ⟨rfl, hl.1, hlt⟩
    | false =>
      simp only [pass, passed, hn, ht, Bool.false_eq_true, if_false] at h ⊢
      obtain ⟨column, ha, h⟩ := Checked.bind_eq_ok_iff.1 h
      obtain ⟨rfl, hlt⟩ := Count.add_eq_ok_iff.1 ha
      cases h
      exact ⟨rfl, hl.1, hlt⟩

/-- A way over tokens that succeeds leads through places that fit. -/
theorem fits_of_foldlM_pass {ts : List τ} (hc : 1 ≤ l.column) (hl : l.Fits)
    (h : ts.foldlM (pass w) l = .ok l') :
    ∀ j ≤ ts.length, ((ts.take j).foldl (passed w) l).Fits := by
  induction ts generalizing l with
  | nil =>
    intro j _
    rw [List.take_nil]
    exact hl
  | cons t ts ih =>
    rw [List.foldlM_cons] at h
    obtain ⟨l₁, hpass, h⟩ := Checked.bind_eq_ok_iff.1 h
    obtain ⟨rfl, hfit⟩ := passed_of_pass hc hl hpass
    intro j hj
    cases j with
    | zero => exact hl
    | succ j => exact ih (one_le_column_passed w l t) hfit h j (Nat.le_of_succ_le_succ hj)

/-- A way over tokens succeeds exactly if every place on it fits, and it leads to the place that is
counted without a bound. -/
theorem foldlM_pass_eq_ok_iff {ts : List τ} (hc : 1 ≤ l.column) (hl : l.Fits) :
    ts.foldlM (pass w) l = .ok l' ↔
      (∀ j ≤ ts.length, ((ts.take j).foldl (passed w) l).Fits) ∧ l' = ts.foldl (passed w) l := by
  constructor
  · intro h
    have hfits := fits_of_foldlM_pass hc hl h
    rw [foldlM_pass_of_fits hc hfits] at h
    exact ⟨hfits, (Except.ok.inj h).symm⟩
  · rintro ⟨hfits, rfl⟩
    exact foldlM_pass_of_fits hc hfits

end Location

namespace Layout

variable {τ : Type} [CharLike τ]

theorem columnAfter_eq_foldl_stopPast (w : TabWidth) {column : Nat} (hc : 1 ≤ column)
    (ts : List τ) : columnAfter w column ts =
      ts.foldl (fun c t => if CharLike.isTab t then w.stopPast c else c + 1) column := by
  induction ts generalizing column with
  | nil => rfl
  | cons t ts ih =>
    have hstep : (if CharLike.isTab t then w.stopAfter column else column + 1) =
        if CharLike.isTab t then w.stopPast column else column + 1 := by
      rw [TabWidth.stopAfter_eq_stopPast hc]
    have hpos : 1 ≤ if CharLike.isTab t then w.stopAfter column else column + 1 := by
      have := w.lt_stopAfter column
      split <;> omega
    rw [List.foldl_cons, ← hstep]
    exact ih hpos

variable {S : ChunkStream τ} {input : Chunk τ} {o : Origin} {k : Nat} {p : Cursor (Chunk τ)}

theorem fits_location (o : Origin) : o.location.Fits :=
  ⟨show 1 < Count.limit by decide, show 1 < Count.limit by decide⟩

/-- From the start of the input only what does not fit can keep a cursor from an offset. -/
theorem reach_start_eq_ok_iff : (Cursor.start input o).reach S.stream k = .ok p ↔
    WayFits o input.toList (min k input.size) ∧ p = cursor input o k := by
  constructor
  · intro h
    obtain ⟨l, hpass, hlt, -⟩ := Cursor.exists_of_advance (Cursor.offset_start_lt input o) h
    have hplaces := Location.fits_of_foldlM_pass (Nat.le_refl 1) (fits_location o) hpass
    have hway : WayFits o input.toList (min k input.size) := by
      refine ⟨by simpa [Cursor.start] using hlt, ?_⟩
      intro j hj
      have hfit := hplaces j (by simpa [Cursor.start] using hj)
      simp only [Cursor.start, Nat.sub_zero, List.take_take] at hfit
      rw [Nat.min_eq_left (by omega)] at hfit
      rw [← foldl_passed]
      exact hfit
    refine ⟨hway, ?_⟩
    rw [reach_start hway] at h
    exact (Except.ok.inj h).symm
  · rintro ⟨hway, rfl⟩
    exact reach_start hway

theorem exists_reach_start_iff : (∃ p, (Cursor.start input o).reach S.stream k = .ok p) ↔
    WayFits o input.toList (min k input.size) := by
  constructor
  · rintro ⟨p, h⟩
    exact (reach_start_eq_ok_iff.1 h).1
  · intro hway
    exact ⟨_, reach_start_eq_ok_iff.2 ⟨hway, rfl⟩⟩

/-- A cursor sent from the start to an offset stops there or at the end of the input. It holds the
rest of the input, the name, the number of newlines before it, the column that the tokens of its line
lead to from tab stop to tab stop, and the text of that line. It arrives exactly if the counts fit. -/
theorem reach_start_knows (S : ChunkStream τ) (input : Chunk τ) (o : Origin) (k : Nat) :
    let ts := input.toList
    let j := min k ts.length
    let before := ts.take j
    let line := lastLine before
    ((∃ p, (Cursor.start input o).reach S.stream k = .ok p) ↔ WayFits o ts j) ∧
      ∀ p, (Cursor.start input o).reach S.stream k = .ok p →
        p.offset = j ∧ p.rest.toList = ts.drop j ∧ p.location.name = o.name ∧
        p.location.line = 1 + before.countP CharLike.isNewline ∧
        p.location.column =
          line.foldl (fun c t => if CharLike.isTab t then o.tabWidth.stopPast c else c + 1) 1 ∧
        p.lineSoFar = (if before.any CharLike.isNewline then "" else o.lead) ++
          String.ofList (line.map CharLike.toChar) ∧
        p.tabWidth = o.tabWidth := by
  intro ts j before line
  have hj : j = min k input.size := congrArg (min k) (Chunk.length_toList input)
  constructor
  · rw [hj]
    exact exists_reach_start_iff
  · intro p hp
    obtain ⟨-, rfl⟩ := reach_start_eq_ok_iff.1 hp
    rw [← cursor_min, ← hj]
    have hcolumn := columnAfter_eq_foldl_stopPast o.tabWidth (Nat.le_refl 1) line
    refine ⟨?_, Chunk.toList_splitAt_snd input j, rfl, rfl, hcolumn, rfl, rfl⟩
    show min j input.size = j
    omega

/-- Past the end of a text in which a semicolon ends a line and an arrow is the tab. -/
theorem reach_start_knows_marked :
    let S := (ChunkStream.natural (τ := Marked ';' '>'))
    let input : Chunk (Marked ';' '>') := .ofList ("ab;c>d".toList.map Marked.mk)
    let o : Origin := ⟨"f", ⟨4, by decide⟩, "> "⟩
    WayFits o input.toList 6 ∧
      ∃ p, (Cursor.start input o).reach S.stream 99 = .ok p ∧ p.offset = 6 ∧
        p.rest.toList = [] ∧ p.location = ⟨"f", 2, 6⟩ ∧ p.lineSoFar = "c>d" := by
  intro S input o
  have hway : WayFits o input.toList 6 := ⟨by decide, by decide⟩
  obtain ⟨harrives, hknows⟩ := reach_start_knows S input o 99
  obtain ⟨p, hp⟩ := harrives.2 hway
  obtain ⟨hoffset, hrest, hname, hline, hcolumn, htext, -⟩ := hknows p hp
  refine ⟨hway, p, hp, hoffset, hrest, ?_, htext.trans (by decide)⟩
  have hplace : p.location = ⟨p.location.name, p.location.line, p.location.column⟩ := rfl
  rw [← columnAfter_eq_foldl_stopPast _ (Nat.le_refl 1)] at hcolumn
  rw [hplace, hname, hline, hcolumn]
  decide

end Layout

end Pinpoint
