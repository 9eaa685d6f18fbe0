import Pinpoint.Proofs.Layout
import Pinpoint.State.Report

/-! Lines with spaces for their tabs. The expansion moves over columns as a location does. -/

namespace Pinpoint

namespace Layout

/-- A line from `column` on with spaces for its tabs, however long it becomes. -/
def expand (w : TabWidth) (column : Nat) : List Char → List Char
  | [] => []
  | c :: cs =>
    if c = '\t' then
      Report.spaces (w.stopAfter column - column) ++ expand w (w.stopAfter column) cs
    else c :: expand w (column + 1) cs

/-- The size of a text in memory. -/
def bytes (cs : List Char) : Nat := (String.ofList cs).utf8ByteSize

variable {w : TabWidth} {column size : Nat} {c : Char} {ps cs : List Char}

@[simp] theorem expand_tab : expand w column ('\t' :: cs) =
    Report.spaces (w.stopAfter column - column) ++ expand w (w.stopAfter column) cs := rfl

theorem expand_of_ne_tab (h : c ≠ '\t') : expand w column (c :: cs) = c :: expand w (column + 1) cs :=
  if_neg h

@[simp] theorem columnAfter_tab :
    columnAfter w column ('\t' :: cs) = columnAfter w (w.stopAfter column) cs := rfl

theorem columnAfter_of_ne_tab (h : c ≠ '\t') :
    columnAfter w column (c :: cs) = columnAfter w (column + 1) cs := by
  have hc : CharLike.isTab c = false := beq_eq_false_iff_ne.2 h
  simp [columnAfter, hc]

theorem columnAfter_text {τ : Type} [CharLike τ] [CharLike.Plain τ] (w : TabWidth) (column : Nat)
    (ts : List τ) : columnAfter w column (text ts) = columnAfter w column ts := by
  simp only [columnAfter, text, List.foldl_map, CharLike.Plain.isTab_eq]
  rfl

/-- Columns are counted by the characters that fill them. -/
theorem add_length_expand (w : TabWidth) (column : Nat) (cs : List Char) :
    column + (expand w column cs).length = columnAfter w column cs := by
  induction cs generalizing column with
  | nil => rfl
  | cons c cs ih =>
    by_cases hc : c = '\t'
    · subst hc
      have hlt := w.lt_stopAfter column
      rw [expand_tab, columnAfter_tab, ← ih, List.length_append, Report.spaces,
        List.length_replicate]
      omega
    · rw [expand_of_ne_tab hc, columnAfter_of_ne_tab hc, ← ih, List.length_cons]
      omega

/-- A line expands piece by piece, each piece from the column where the one before it ends. -/
theorem expand_append (w : TabWidth) (column : Nat) (ps cs : List Char) :
    expand w column (ps ++ cs) = expand w column ps ++ expand w (columnAfter w column ps) cs := by
  induction ps generalizing column with
  | nil => rfl
  | cons p ps ih =>
    by_cases hp : p = '\t'
    · subst hp
      rw [List.cons_append, expand_tab, expand_tab, columnAfter_tab, ih, List.append_assoc]
    · rw [List.cons_append, expand_of_ne_tab hp, expand_of_ne_tab hp, columnAfter_of_ne_tab hp, ih,
        List.cons_append]

theorem bytes_append (ps cs : List Char) : bytes (ps ++ cs) = bytes ps + bytes cs := by
  simp [bytes]

theorem bytes_cons (c : Char) (cs : List Char) : bytes (c :: cs) = c.utf8Size + bytes cs := by
  simp [bytes]

theorem bytes_spaces (n : Nat) : bytes (Report.spaces n) = n := by
  induction n with
  | zero => rfl
  | succ n ih =>
    have hsucc : Report.spaces (n + 1) = ' ' :: Report.spaces n := rfl
    have hspace : ' '.utf8Size = 1 := rfl
    rw [hsucc, bytes_cons, hspace, ih, Nat.add_comm]

/-- Up to each tab, what is written for the line is a text that fits in memory. What stands before the
line takes up `size` bytes. Nothing is said of what follows the last tab. -/
def TabsFit (w : TabWidth) (column size : Nat) (cs : List Char) : Prop :=
  ∀ ps, ps ++ ['\t'] <+: cs → size + bytes (expand w column (ps ++ ['\t'])) < Count.textLimit

theorem tabsFit_nil : TabsFit w column size [] := by
  intro ps h
  simp at h

theorem tabsFit_tab_iff : TabsFit w column size ('\t' :: cs) ↔
    size + (w.stopAfter column - column) < Count.textLimit ∧
      TabsFit w (w.stopAfter column) (size + (w.stopAfter column - column)) cs := by
  constructor
  · intro h
    constructor
    · have := h [] (by simp)
      simpa [expand, bytes_spaces] using this
    · intro ps hps
      have := h ('\t' :: ps) (by simpa using hps)
      rw [List.cons_append, expand_tab, bytes_append, bytes_spaces] at this
      omega
  · rintro ⟨hgap, h⟩ ps hps
    cases ps with
    | nil => simpa [expand, bytes_spaces] using hgap
    | cons p ps =>
      obtain ⟨rfl, htail⟩ := List.cons_prefix_cons.1 hps
      have := h ps htail
      rw [List.cons_append, expand_tab, bytes_append, bytes_spaces]
      omega

theorem tabsFit_iff_of_ne_tab (hc : c ≠ '\t') : TabsFit w column size (c :: cs) ↔
    TabsFit w (column + 1) (size + c.utf8Size) cs := by
  constructor
  · intro h ps hps
    have := h (c :: ps) (by simpa using hps)
    rw [List.cons_append, expand_of_ne_tab hc, bytes_cons] at this
    omega
  · intro h ps hps
    cases ps with
    | nil => exact absurd (List.cons_prefix_cons.1 hps).1.symm hc
    | cons p ps =>
      obtain ⟨rfl, htail⟩ := List.cons_prefix_cons.1 hps
      have := h ps htail
      rw [List.cons_append, expand_of_ne_tab hc, bytes_cons]
      omega

/-- There is room up to each tab if there is room for the whole line. -/
theorem tabsFit_of_bytes (h : bytes (expand w column cs) < Count.textLimit) :
    TabsFit w column 0 cs := by
  rintro ps ⟨rest, rfl⟩
  rw [expand_append, bytes_append] at h
  omega

theorem TabsFit.left (h : TabsFit w column size (ps ++ cs)) : TabsFit w column size ps :=
  fun qs hqs => h qs (hqs.trans (List.prefix_append ps cs))

/-! The expansion one character at a time, where its columns fit. -/

theorem expandFrom_tab (hc : 1 ≤ column) (hstop : w.stopAfter column < Count.limit) :
    Report.expandFrom w column size ('\t' :: cs) =
      Count.textSize (size + (w.stopAfter column - column)) >>= fun size =>
        (Report.spaces (w.stopAfter column - column) ++ ·) <$>
          Report.expandFrom w (w.stopAfter column) size cs := by
  have hnext : w.nextStop column = .ok (w.stopAfter column) :=
    (TabWidth.nextStop_eq_ok_iff hc).2 ⟨rfl, hstop⟩
  have hlt := w.lt_stopAfter column
  have hgap : Count.sub (w.stopAfter column) column = .ok (w.stopAfter column - column) :=
    Count.sub_eq_ok_iff.2 (by omega)
  rw [Report.expandFrom, if_pos rfl, hnext, Checked.ok_bind, hgap, Checked.ok_bind]
  rfl

theorem expandFrom_of_ne_tab (hc : c ≠ '\t') (hnext : column + 1 < Count.limit) :
    Report.expandFrom w column size (c :: cs) =
      (c :: ·) <$> Report.expandFrom w (column + 1) (size + c.utf8Size) cs := by
  have hadd : Count.add column 1 = .ok (column + 1) := Count.add_eq_ok_iff.2 ⟨rfl, hnext⟩
  rw [Report.expandFrom, if_neg hc, hadd, Checked.ok_bind]
  rfl

theorem expandFrom_of_tabsFit (hc : 1 ≤ column) (hfit : columnAfter w column cs < Count.limit)
    (h : TabsFit w column size cs) :
    Report.expandFrom w column size cs = .ok (expand w column cs) := by
  induction cs generalizing column size with
  | nil => rfl
  | cons c cs ih =>
    by_cases ht : c = '\t'
    · subst ht
      obtain ⟨hgap, htail⟩ := tabsFit_tab_iff.1 h
      have hlt := w.lt_stopAfter column
      have hle := add_length_expand w (w.stopAfter column) cs
      rw [columnAfter_tab] at hfit
      have hsize := Count.textSize_eq_ok_iff.2 ⟨rfl, hgap⟩
      rw [expandFrom_tab hc (by omega), hsize, Checked.ok_bind, ih (by omega) hfit htail]
      rfl
    · have htail := (tabsFit_iff_of_ne_tab ht).1 h
      have hle := add_length_expand w (column + 1) cs
      rw [columnAfter_of_ne_tab ht] at hfit
      rw [expandFrom_of_ne_tab ht (by omega), ih (by omega) hfit htail, expand_of_ne_tab ht]
      rfl

/-- Where columns fit, the only thing that can be missing is room. -/
theorem expandFrom_of_not_tabsFit (hc : 1 ≤ column) (hfit : columnAfter w column cs < Count.limit)
    (h : ¬ TabsFit w column size cs) :
    Report.expandFrom w column size cs = .error .capacity := by
  induction cs generalizing column size with
  | nil => exact absurd tabsFit_nil h
  | cons c cs ih =>
    by_cases ht : c = '\t'
    · subst ht
      have hlt := w.lt_stopAfter column
      have hle := add_length_expand w (w.stopAfter column) cs
      rw [columnAfter_tab] at hfit
      rw [expandFrom_tab hc (by omega)]
      by_cases hgap : size + (w.stopAfter column - column) < Count.textLimit
      · have hsize := Count.textSize_eq_ok_iff.2 ⟨rfl, hgap⟩
        have htail := fun htail => h (tabsFit_tab_iff.2 ⟨hgap, htail⟩)
        rw [hsize, Checked.ok_bind, ih (by omega) hfit htail]
        rfl
      · rw [Count.textSize, if_neg hgap]
        rfl
    · have htail := fun htail => h ((tabsFit_iff_of_ne_tab ht).2 htail)
      have hle := add_length_expand w (column + 1) cs
      rw [columnAfter_of_ne_tab ht] at hfit
      rw [expandFrom_of_ne_tab ht (by omega), ih (by omega) hfit htail]
      rfl

theorem expandTabs_of_tabsFit (hfit : columnAfter w 1 cs < Count.limit) (h : TabsFit w 1 0 cs) :
    Report.expandTabs w (String.ofList cs) = .ok (String.ofList (expand w 1 cs)) := by
  rw [Report.expandTabs, String.toList_ofList, expandFrom_of_tabsFit (Nat.le_refl 1) hfit h]
  rfl

theorem expandTabs_of_not_tabsFit (hfit : columnAfter w 1 cs < Count.limit)
    (h : ¬ TabsFit w 1 0 cs) : Report.expandTabs w (String.ofList cs) = .error .capacity := by
  rw [Report.expandTabs, String.toList_ofList, expandFrom_of_not_tabsFit (Nat.le_refl 1) hfit h]
  rfl

end Layout

end Pinpoint
