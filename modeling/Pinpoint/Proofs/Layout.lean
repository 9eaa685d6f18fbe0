import Mathlib.Data.List.DropRight
import Pinpoint.Proofs.Advance

/-! The text as it lies on the page: its lines, the columns on them and what stands ahead of the input,
counted without a bound. The counts that a cursor makes are these as long as they fit. -/

namespace Pinpoint

namespace TabWidth

/-- The column after a tab at `column`, however large. -/
def stopAfter (w : TabWidth) (column : Nat) : Nat :=
  ((column - 1) / w.columns + 1) * w.columns + 1

theorem lt_stopAfter (w : TabWidth) (column : Nat) : column < w.stopAfter column := by
  have h := Nat.lt_mul_div_succ (column - 1) w.pos
  rw [Nat.mul_comm] at h
  unfold stopAfter
  omega

theorem stopAfter_le (w : TabWidth) {column : Nat} (hc : 1 ≤ column) :
    w.stopAfter column ≤ column + w.columns := by
  have hdiv := Nat.div_mul_le_self (column - 1) w.columns
  rw [stopAfter, Nat.succ_mul]
  omega

/-- The intermediate results are no larger than the stop, so they fit if it does. -/
theorem nextStop_eq_ok_iff {w : TabWidth} {column stop : Nat} (hc : 1 ≤ column) :
    w.nextStop column = .ok stop ↔ w.stopAfter column = stop ∧ stop < Count.limit := by
  have hle : (column - 1) / w.columns + 1 ≤ ((column - 1) / w.columns + 1) * w.columns :=
    Nat.le_mul_of_pos_right _ w.pos
  constructor
  · intro h
    obtain ⟨before, hb, h⟩ := Checked.bind_eq_ok_iff.1 h
    obtain ⟨stops, hs, h⟩ := Checked.bind_eq_ok_iff.1 h
    obtain ⟨columns, hm, h⟩ := Checked.bind_eq_ok_iff.1 h
    obtain ⟨rfl, -⟩ := Count.add_eq_ok_iff.1 hs
    obtain ⟨rfl, -⟩ := Count.mul_eq_ok_iff.1 hm
    obtain ⟨rfl, hlt⟩ := Count.add_eq_ok_iff.1 h
    have hbefore : before = column - 1 := by
      have := Count.sub_eq_ok_iff.1 hb
      omega
    rw [hbefore] at hlt ⊢
    exact ⟨rfl, hlt⟩
  · rintro ⟨rfl, hlt⟩
    unfold stopAfter at hlt ⊢
    refine Checked.bind_eq_ok_iff.2 ⟨column - 1, Count.sub_eq_ok_iff.2 (by omega), ?_⟩
    refine Checked.bind_eq_ok_iff.2 ⟨_, Count.add_eq_ok_iff.2 ⟨rfl, by omega⟩, ?_⟩
    refine Checked.bind_eq_ok_iff.2 ⟨_, Count.mul_eq_ok_iff.2 ⟨rfl, by omega⟩, ?_⟩
    exact Count.add_eq_ok_iff.2 ⟨rfl, hlt⟩

end TabWidth

namespace Location

variable {τ : Type} [CharLike τ] {w : TabWidth} {l : Location}

/-- Past one token, however large the counts become. -/
def passed (w : TabWidth) (l : Location) (t : τ) : Location :=
  if CharLike.isNewline t then { l with line := l.line + 1, column := 1 }
  else if CharLike.isTab t then { l with column := w.stopAfter l.column }
  else { l with column := l.column + 1 }

/-- Line and column are counts. -/
def Fits (l : Location) : Prop := l.line < Count.limit ∧ l.column < Count.limit
  deriving Decidable

theorem one_le_column_passed (w : TabWidth) (l : Location) (t : τ) :
    1 ≤ (l.passed w t).column := by
  unfold passed
  split
  · exact Nat.le_refl 1
  · split
    · exact Nat.le_add_left ..
    · exact Nat.le_add_left ..

theorem pass_of_fits (hc : 1 ≤ l.column) {t : τ} (h : (l.passed w t).Fits) :
    l.pass w t = .ok (l.passed w t) := by
  unfold Fits at h
  unfold pass passed at *
  split
  · next hn =>
    simp only [hn, if_true] at h
    exact Checked.bind_eq_ok_iff.2 ⟨_, Count.add_eq_ok_iff.2 ⟨rfl, h.1⟩, rfl⟩
  · next hn =>
    split
    · next ht =>
      simp only [hn, ht, if_true, Bool.false_eq_true, if_false] at h
      exact Checked.bind_eq_ok_iff.2 ⟨_, (TabWidth.nextStop_eq_ok_iff hc).2 ⟨rfl, h.2⟩, rfl⟩
    · next ht =>
      simp only [hn, ht, Bool.false_eq_true, if_false] at h
      exact Checked.bind_eq_ok_iff.2 ⟨_, Count.add_eq_ok_iff.2 ⟨rfl, h.2⟩, rfl⟩

/-- A way over tokens succeeds if every place on it fits. -/
theorem foldlM_pass_of_fits {ts : List τ} (hc : 1 ≤ l.column)
    (h : ∀ j ≤ ts.length, ((ts.take j).foldl (passed w) l).Fits) :
    ts.foldlM (pass w) l = .ok (ts.foldl (passed w) l) := by
  induction ts generalizing l with
  | nil => rfl
  | cons t ts ih =>
    have hhead : (l.passed w t).Fits := by simpa using h 1 (by simp)
    rw [List.foldlM_cons, pass_of_fits hc hhead, List.foldl_cons]
    apply ih (one_le_column_passed w l t)
    intro j hj
    simpa using h (j + 1) (by simpa using hj)

end Location

namespace Layout

variable {τ : Type} [CharLike τ]

def text (ts : List τ) : List Char := ts.map CharLike.toChar

/-- The tokens since the last newline. -/
def lastLine (ts : List τ) : List τ := ts.rtakeWhile fun t => !CharLike.isNewline t

/-- The column after tokens of one line, the first of them at `column`. -/
def columnAfter (w : TabWidth) (column : Nat) (ts : List τ) : Nat :=
  ts.foldl (fun c t => if CharLike.isTab t then w.stopAfter c else c + 1) column

/-- The place after `ts`. -/
def place (o : Origin) (ts : List τ) : Location :=
  ⟨o.name, 1 + ts.countP CharLike.isNewline, columnAfter o.tabWidth 1 (lastLine ts)⟩

/-- What stands ahead of the input on the line where `ts` ends. -/
def leadAfter (o : Origin) (ts : List τ) : String :=
  if ts.any CharLike.isNewline then "" else o.lead

/-- Lines are told apart by their numbers, so the first one is known by having no newline before it. -/
theorem leadAfter_eq_of_line (o : Origin) (ts : List τ) :
    leadAfter o ts = if (place o ts).line = 1 then o.lead else "" := by
  have hline : (place o ts).line = 1 ↔ ¬ ts.any CharLike.isNewline := by
    show 1 + ts.countP CharLike.isNewline = 1 ↔ _
    simp [List.countP_eq_zero]
  unfold leadAfter
  by_cases hany : ts.any CharLike.isNewline
  · rw [if_pos hany, if_neg fun h => hline.1 h hany]
  · rw [if_neg hany, if_pos (hline.2 hany)]

theorem lastLine_concat_of_newline {ts : List τ} {t : τ} (h : CharLike.isNewline t = true) :
    lastLine (ts ++ [t]) = [] := List.rtakeWhile_concat_neg _ _ _ (by simp [h])

theorem lastLine_concat_of_not_newline {ts : List τ} {t : τ} (h : CharLike.isNewline t = false) :
    lastLine (ts ++ [t]) = lastLine ts ++ [t] := List.rtakeWhile_concat_pos _ _ _ (by simp [h])

theorem foldl_passed (o : Origin) (ts : List τ) :
    ts.foldl (Location.passed o.tabWidth) o.location = place o ts := by
  induction ts using List.reverseRecOn with
  | nil => rfl
  | append_singleton ts t ih =>
    rw [List.foldl_append, ih, List.foldl_cons, List.foldl_nil]
    cases hn : CharLike.isNewline t with
    | true => simp [Location.passed, place, hn, lastLine_concat_of_newline hn, columnAfter]; omega
    | false =>
      cases ht : CharLike.isTab t <;>
        simp [Location.passed, place, hn, ht, lastLine_concat_of_not_newline hn, columnAfter]

theorem place_append (o : Origin) (before ts : List τ) :
    place o (before ++ ts) = ts.foldl (Location.passed o.tabWidth) (place o before) := by
  rw [← foldl_passed, ← foldl_passed, List.foldl_append]

theorem one_le_column_place (o : Origin) (ts : List τ) : 1 ≤ (place o ts).column := by
  induction ts using List.reverseRecOn with
  | nil => exact Nat.le_refl 1
  | append_singleton ts t _ =>
    rw [place_append]
    exact Location.one_le_column_passed ..

/-- The text of the line where `ts` ends, up to there. -/
def lineUpTo (o : Origin) (ts : List τ) : String :=
  leadAfter o ts ++ String.ofList (text (lastLine ts))

theorem foldl_extendLine (o : Origin) (ts : List τ) :
    ts.foldl Cursor.extendLine o.lead = lineUpTo o ts := by
  induction ts using List.reverseRecOn with
  | nil => simp [lineUpTo, leadAfter, text, lastLine]
  | append_singleton ts t ih =>
    rw [List.foldl_append, ih, List.foldl_cons, List.foldl_nil]
    cases hn : CharLike.isNewline t with
    | true =>
      simp [Cursor.extendLine, lineUpTo, leadAfter, hn, lastLine_concat_of_newline hn, text]
    | false =>
      simp [Cursor.extendLine, lineUpTo, leadAfter, hn, lastLine_concat_of_not_newline hn, text,
        ← String.toList_inj]

theorem lineUpTo_append (o : Origin) (before ts : List τ) :
    lineUpTo o (before ++ ts) = ts.foldl Cursor.extendLine (lineUpTo o before) := by
  rw [← foldl_extendLine, ← foldl_extendLine, List.foldl_append]

/-- The cursor at an offset, made of what the layout says of the tokens before it. -/
def cursor (input : Chunk τ) (o : Origin) (k : Nat) : Cursor (Chunk τ) :=
  { rest := (input.splitAt k).2, offset := min k input.size,
    location := place o (input.toList.take k), tabWidth := o.tabWidth,
    lineSoFar := lineUpTo o (input.toList.take k) }

theorem cursor_min (input : Chunk τ) (o : Origin) (k : Nat) :
    cursor input o (min k input.size) = cursor input o k := by
  have hmin : min (min k input.size) input.size = min k input.size := by omega
  have htake : input.toList.take (min k input.size) = input.toList.take k := by
    rw [List.take_eq_take_iff, Chunk.length_toList, hmin]
  rw [cursor, cursor, htake, hmin, Chunk.splitAt_snd_congr hmin]

/-- The counts made on the way to offset `k`: the offset, and line and column of every place. -/
structure WayFits (o : Origin) (ts : List τ) (k : Nat) : Prop where
  offset : k < Count.limit
  places : ∀ j ≤ k, (place o (ts.take j)).Fits

theorem WayFits.mono {o : Origin} {ts : List τ} {k k' : Nat} (h : WayFits o ts k') (hk : k ≤ k') :
    WayFits o ts k where
  offset := Nat.lt_of_le_of_lt hk h.offset
  places j hj := h.places j (Nat.le_trans hj hk)

theorem reach_start {S : ChunkStream τ} {input : Chunk τ} {o : Origin} {k : Nat}
    (hway : WayFits o input.toList (min k input.size)) :
    (Cursor.start input o).reach S.stream k = .ok (cursor input o k) := by
  have hfold : (input.toList.take k).foldlM (Location.pass o.tabWidth) o.location =
      .ok (place o (input.toList.take k)) := by
    rw [← foldl_passed]
    apply Location.foldlM_pass_of_fits (Nat.le_refl 1)
    intro j hj
    rw [List.length_take, Chunk.length_toList] at hj
    rw [foldl_passed, List.take_take, Nat.min_eq_left (by omega)]
    exact hway.places j hj
  have hadd : Count.add 0 (min k input.size) = .ok (min k input.size) :=
    Count.add_eq_ok_iff.2 ⟨Nat.zero_add _, hway.offset⟩
  have hline := foldl_extendLine o (input.toList.take k)
  rw [Cursor.reach, Cursor.advance_eq (Cursor.offset_start_lt input o)]
  simp only [Cursor.start, Nat.sub_zero, hfold, hadd, hline]
  rfl

end Layout

end Pinpoint
