import Pinpoint.Proofs.Expansion

/-! The tabs of a line lead to the same columns when it is shown as when a location passes it. -/

namespace Pinpoint

/-- A tab is as wide as it must be to end on a multiple of the width, and no wider than the width. -/
theorem TabWidth.stopAfter_eq_iff {w : TabWidth} {written gap : Nat} :
    w.stopAfter (written + 1) = written + gap + 1 ↔
      1 ≤ gap ∧ gap ≤ w.columns ∧ w.columns ∣ written + gap := by
  constructor
  · intro h
    have hlt := w.lt_stopAfter (written + 1)
    have hle := w.stopAfter_le (Nat.le_add_left 1 written)
    have hdvd : w.columns ∣ written + gap := by
      refine ⟨written / w.columns + 1, ?_⟩
      rw [Nat.mul_comm]
      exact (Nat.succ.inj h).symm
    exact ⟨by omega, by omega, hdvd⟩
  · rintro ⟨hpos, hle, stops, hstops⟩
    cases stops with
    | zero => omega
    | succ stops =>
      -- A gap of at most the width begins no earlier than the stop before it.
      rw [Nat.mul_comm, Nat.succ_mul] at hstops
      have hdiv : written / w.columns = stops :=
        Nat.div_eq_of_lt_le (by omega) (by rw [Nat.succ_mul]; omega)
      rw [stopAfter, Nat.add_sub_cancel, hdiv, Nat.succ_mul, ← hstops]

namespace Location

/-- Past one character of a line, where only tabs are told apart. -/
def passChar (w : TabWidth) (l : Location) (c : Char) : Checked Location :=
  if c = '\t' then l.tab w else l.step

theorem foldlM_passChar {w : TabWidth} {l : Location} {cs : List Char} (hc : 1 ≤ l.column)
    (hfit : Layout.columnAfter w l.column cs < Count.limit) :
    cs.foldlM (passChar w) l = .ok { l with column := Layout.columnAfter w l.column cs } := by
  induction cs generalizing l with
  | nil => rfl
  | cons c cs ih =>
    rw [List.foldlM_cons]
    by_cases ht : c = '\t'
    · subst ht
      rw [Layout.columnAfter_tab] at hfit ⊢
      have hone : 1 ≤ w.stopAfter l.column := Nat.le_add_left ..
      have hle := Layout.add_length_expand w (w.stopAfter l.column) cs
      have hnext : l.passChar w '\t' = .ok { l with column := w.stopAfter l.column } :=
        Checked.bind_eq_ok_iff.2 ⟨_, (TabWidth.nextStop_eq_ok_iff hc).2 ⟨rfl, by omega⟩, rfl⟩
      rw [hnext, Checked.ok_bind]
      exact ih hone hfit
    · rw [Layout.columnAfter_of_ne_tab ht] at hfit ⊢
      have hle := Layout.add_length_expand w (l.column + 1) cs
      have hnext : l.passChar w c = .ok { l with column := l.column + 1 } := by
        rw [passChar, if_neg ht]
        exact Checked.bind_eq_ok_iff.2 ⟨_, Count.add_eq_ok_iff.2 ⟨rfl, by omega⟩, rfl⟩
      rw [hnext, Checked.ok_bind]
      exact ih (Nat.le_add_left 1 l.column) hfit

end Location

namespace Layout

/-- What becomes of a line, with `written` characters before it, when each tab is filled: at least
one and at most a tab width of spaces, which end on a multiple of the width. All else stays. -/
inductive Filled (w : TabWidth) : Nat → List Char → List Char → Prop
  | nil {written : Nat} : Filled w written [] []
  | tab {written gap : Nat} {cs out : List Char} (one_le : 1 ≤ gap) (le_width : gap ≤ w.columns)
      (stop : w.columns ∣ written + gap) (rest : Filled w (written + gap) cs out) :
      Filled w written ('\t' :: cs) (Report.spaces gap ++ out)
  | other {written : Nat} {c : Char} {cs out : List Char} (ne_tab : c ≠ '\t')
      (rest : Filled w (written + 1) cs out) : Filled w written (c :: cs) (c :: out)

variable {w : TabWidth} {column size written : Nat} {cs out : List Char}

theorem filled_expand (w : TabWidth) (written : Nat) (cs : List Char) :
    Filled w written cs (expand w (written + 1) cs) := by
  induction cs generalizing written with
  | nil => exact .nil
  | cons c cs ih =>
    by_cases ht : c = '\t'
    · subst ht
      obtain ⟨gap, hgap⟩ := Nat.exists_eq_add_of_lt (w.lt_stopAfter (written + 1))
      have hstop : w.stopAfter (written + 1) = written + (gap + 1) + 1 := by omega
      obtain ⟨hpos, hle, hdvd⟩ := TabWidth.stopAfter_eq_iff.1 hstop
      have hwidth : written + (gap + 1) + 1 - (written + 1) = gap + 1 := by omega
      rw [expand_tab, hstop, hwidth]
      exact .tab hpos hle hdvd (ih _)
    · rw [expand_of_ne_tab ht]
      exact .other ht (ih _)

theorem Filled.eq_expand (h : Filled w written cs out) : out = expand w (written + 1) cs := by
  induction h with
  | nil => rfl
  | @tab written gap cs out hpos hle hdvd _ ih =>
    have hstop := TabWidth.stopAfter_eq_iff.2 ⟨hpos, hle, hdvd⟩
    have hwidth : written + gap + 1 - (written + 1) = gap := by omega
    rw [expand_tab, hstop, hwidth, ih]
  | other ht _ ih => rw [expand_of_ne_tab ht, ih]

/-- The bounds of the gaps leave no choice. -/
theorem filled_iff : Filled w written cs out ↔ out = expand w (written + 1) cs := by
  constructor
  · exact Filled.eq_expand
  · rintro rfl
    exact filled_expand w written cs

theorem Filled.tab_notMem (h : Filled w written cs out) : '\t' ∉ out := by
  induction h with
  | nil => exact List.not_mem_nil
  | tab _ _ _ _ ih =>
    rw [List.mem_append, not_or]
    exact ⟨fun hmem => absurd (List.eq_of_mem_replicate hmem) (by decide), ih⟩
  | other ht _ ih =>
    rw [List.mem_cons, not_or]
    exact ⟨ht.symm, ih⟩

/-! A line without tabs is shown as it is. -/

theorem expand_of_tab_notMem (h : '\t' ∉ cs) : expand w column cs = cs := by
  induction cs generalizing column with
  | nil => rfl
  | cons c cs ih =>
    rw [List.mem_cons, not_or] at h
    rw [expand_of_ne_tab (Ne.symm h.1), ih h.2]

theorem tabsFit_of_tab_notMem (h : '\t' ∉ cs) : TabsFit w column size cs := by
  intro ps hps
  exact absurd (hps.subset (List.mem_append_right ps List.mem_cons_self)) h

theorem columnAfter_lt_of_expandFrom (hc : 1 ≤ column) (hlt : column < Count.limit)
    (h : Report.expandFrom w column size cs = .ok out) : columnAfter w column cs < Count.limit := by
  induction cs generalizing column size out with
  | nil => exact hlt
  | cons c cs ih =>
    rw [Report.expandFrom] at h
    by_cases ht : c = '\t'
    · subst ht
      rw [if_pos rfl] at h
      obtain ⟨next, hnext, h⟩ := Checked.bind_eq_ok_iff.1 h
      obtain ⟨gap, -, h⟩ := Checked.bind_eq_ok_iff.1 h
      obtain ⟨size', -, h⟩ := Checked.bind_eq_ok_iff.1 h
      obtain ⟨rest, hrest, -⟩ := Checked.bind_eq_ok_iff.1 h
      obtain ⟨rfl, hstop⟩ := (TabWidth.nextStop_eq_ok_iff hc).1 hnext
      have hone : 1 ≤ w.stopAfter column := Nat.le_add_left ..
      exact ih hone hstop hrest
    · rw [if_neg ht] at h
      obtain ⟨next, hnext, h⟩ := Checked.bind_eq_ok_iff.1 h
      obtain ⟨rest, hrest, -⟩ := Checked.bind_eq_ok_iff.1 h
      obtain ⟨rfl, hnext⟩ := Count.add_eq_ok_iff.1 hnext
      rw [columnAfter_of_ne_tab ht]
      exact ih (Nat.le_add_left 1 column) hnext hrest

theorem expandTabs_eq_ok_iff {line shown : String} : Report.expandTabs w line = .ok shown ↔
    (columnAfter w 1 line.toList < Count.limit ∧ TabsFit w 1 0 line.toList) ∧
      shown.toList = expand w 1 line.toList := by
  constructor
  · intro h
    obtain ⟨out, hout, -⟩ := Checked.bind_eq_ok_iff.1 h
    have hfit := columnAfter_lt_of_expandFrom (Nat.le_refl 1) (by decide) hout
    by_cases htabs : TabsFit w 1 0 line.toList
    · have hok := expandTabs_of_tabsFit hfit htabs
      rw [String.ofList_toList, h] at hok
      rw [Except.ok.inj hok, String.toList_ofList]
      exact ⟨⟨hfit, htabs⟩, rfl⟩
    · have herror := expandTabs_of_not_tabsFit hfit htabs
      rw [String.ofList_toList, h] at herror
      cases herror
  · rintro ⟨⟨hfit, htabs⟩, hshown⟩
    have hok := expandTabs_of_tabsFit hfit htabs
    rwa [String.ofList_toList, ← hshown, String.ofList_toList] at hok

theorem expandTabs_of_tab_notMem {line : String} (ht : '\t' ∉ line.toList)
    (hfit : 1 + line.length < Count.limit) : Report.expandTabs w line = .ok line := by
  have hline : expand w 1 line.toList = line.toList := expand_of_tab_notMem ht
  have hcolumn := add_length_expand w 1 line.toList
  rw [hline, String.length_toList] at hcolumn
  refine expandTabs_eq_ok_iff.2 ⟨⟨?_, tabsFit_of_tab_notMem ht⟩, hline.symm⟩
  rw [← hcolumn]
  exact hfit

/-- The first part of a line is shown the same whatever follows it, and takes up the columns that a
location counts for it. -/
theorem exists_expandTabs_left {p s whole : String}
    (h : Report.expandTabs w (p ++ s) = .ok whole) :
    ∃ before, Report.expandTabs w p = .ok before ∧ before.toList <+: whole.toList ∧
      1 + before.length = columnAfter w 1 p.toList := by
  obtain ⟨⟨hfit, htabs⟩, hwhole⟩ := expandTabs_eq_ok_iff.1 h
  rw [String.toList_append] at hfit htabs hwhole
  rw [expand_append] at hwhole
  have hp := add_length_expand w 1 p.toList
  have hall := add_length_expand w 1 (p.toList ++ s.toList)
  rw [expand_append, List.length_append] at hall
  have hbefore : Report.expandTabs w p = .ok (.ofList (expand w 1 p.toList)) :=
    expandTabs_eq_ok_iff.2 ⟨⟨by omega, htabs.left⟩, String.toList_ofList⟩
  refine ⟨_, hbefore, ?_, ?_⟩
  · rw [hwhole, String.toList_ofList]
    exact List.prefix_append ..
  · rw [String.length_ofList, hp]

/-- A line whose columns are counts is shown unless at one of its tabs there is no room for the line up
to there; room is asked for at tabs alone. Each tab is filled up to a multiple of the width and nothing
else is changed, so no tab is left and a second expansion changes nothing. A first part of the line is
shown as it is alone, in the columns that a location counts over it. -/
theorem expandTabs_counts_columns (w : TabWidth) (p s : String) :
    let line := (p ++ s).toList
    let shown := Report.expandTabs w (p ++ s)
    let columnsFit := columnAfter w 1 line < Count.limit
    let room := TabsFit w 1 0 line
    ((∃ whole, shown = .ok whole) ↔ columnsFit ∧ room) ∧
    (columnsFit → ¬ room → shown = .error .capacity) ∧
    ∀ whole, shown = .ok whole →
      (∃ before, Report.expandTabs w p = .ok before ∧ before.toList <+: whole.toList ∧
        ∀ l : Location, l.column = 1 →
          p.toList.foldlM (Location.passChar w) l = .ok { l with column := 1 + before.length }) ∧
      '\t' ∉ whole.toList ∧
      (∀ out, Filled w 0 line out ↔ out = whole.toList) ∧
      Report.expandTabs w whole = .ok whole := by
  intro line shown columnsFit room
  refine ⟨?_, ?_, ?_⟩
  · constructor
    · rintro ⟨whole, h⟩
      exact (expandTabs_eq_ok_iff.1 h).1
    · intro hfits
      exact ⟨_, expandTabs_eq_ok_iff.2 ⟨hfits, String.toList_ofList⟩⟩
  · intro hfit hroom
    have herror := expandTabs_of_not_tabsFit hfit hroom
    rwa [String.ofList_toList] at herror
  · intro whole h
    obtain ⟨⟨hfit, -⟩, hwhole⟩ := expandTabs_eq_ok_iff.1 h
    have hcolumn := add_length_expand w 1 line
    rw [← hwhole, String.length_toList] at hcolumn
    have htab : '\t' ∉ whole.toList := (filled_iff.2 hwhole).tab_notMem
    refine ⟨?_, htab, ?_, ?_⟩
    · obtain ⟨before, hbefore, hprefix, hwidth⟩ := exists_expandTabs_left h
      refine ⟨before, hbefore, hprefix, ?_⟩
      intro l hl
      have hp := (expandTabs_eq_ok_iff.1 hbefore).1.1
      rw [hwidth, Location.foldlM_passChar (by omega) (by rwa [hl]), hl]
    · intro out
      rw [filled_iff, hwhole]
    · exact expandTabs_of_tab_notMem htab (hcolumn.trans_lt hfit)

/-- Two stops of width four, and a tab for which there are columns enough but no room. -/
theorem expandTabs_counts_columns_two_stops :
    let w : TabWidth := ⟨4, by decide⟩
    let wide : TabWidth := ⟨Count.textLimit, by decide⟩
    Report.expandTabs w ("a\tb" ++ "\tc") = .ok "a   b   c" ∧
      Report.expandTabs w "a\tb" = .ok "a   b" ∧ "a   b".toList <+: "a   b   c".toList ∧
      "a\tb".toList.foldlM (Location.passChar w) ⟨"f", 7, 1⟩ = .ok ⟨"f", 7, 6⟩ ∧
      Filled w 0 ("a\tb" ++ "\tc").toList "a   b   c".toList ∧
      Report.expandTabs w "a   b   c" = .ok "a   b   c" ∧
      columnAfter wide 1 ("" ++ "\t").toList < Count.limit ∧
      Report.expandTabs wide ("" ++ "\t") = .error .capacity := by
  intro w wide
  have hwhole : Report.expandTabs w ("a\tb" ++ "\tc") = .ok "a   b   c" := by decide
  obtain ⟨⟨before, hbefore, hprefix, hcolumn⟩, -, hfilled, hagain⟩ :=
    (expandTabs_counts_columns w "a\tb" "\tc").2.2 _ hwhole
  obtain rfl : before = "a   b" := Except.ok.inj (hbefore.symm.trans (by decide))
  have hfit : columnAfter wide 1 ("" ++ "\t").toList < Count.limit := by decide
  have hroom : ¬ TabsFit wide 1 0 ("" ++ "\t").toList := by
    intro h
    exact absurd (tabsFit_tab_iff.1 h).1 (by decide)
  exact ⟨hwhole, hbefore, hprefix, hcolumn _ rfl, (hfilled _).2 rfl, hagain, hfit,
    (expandTabs_counts_columns wide "" "\t").2.1 hfit hroom⟩

end Layout

end Pinpoint
