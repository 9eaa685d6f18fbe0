import Pinpoint.Proofs.Caret
import Pinpoint.Proofs.Landing

/-! The current line of a cursor, wherever on it the cursor stands, is one of the lines into which the
newlines cut the input. -/

namespace Pinpoint

namespace Layout

variable {τ : Type} [CharLike τ] {ts : List τ} {t : τ} {k k' : Nat}

/-- The lines of the input. A newline at the end has an empty line after it. -/
def lines (ts : List τ) : List (List τ) := ts.splitOnP CharLike.isNewline

theorem length_lines (ts : List τ) : (lines ts).length = 1 + ts.countP CharLike.isNewline := by
  induction ts with
  | nil => rfl
  | cons t ts ih =>
    unfold lines at ih ⊢
    rw [List.splitOnP_cons_eq_if_modifyHead, List.countP_cons]
    split
    · rw [List.length_cons, ih, Nat.add_assoc]
    · rw [List.length_modifyHead, ih, Nat.add_zero]

/-- A newline cuts the input: the lines before it end there, and those after it begin anew. -/
theorem lines_of_newline_at (h : ts[k]? = some t) (hn : CharLike.isNewline t = true) :
    lines ts = lines (ts.take k) ++ lines (ts.drop (k + 1)) := by
  obtain ⟨hk, rfl⟩ := List.getElem?_eq_some_iff.1 h
  have hcut : ts.take k ++ ts[k] :: ts.drop (k + 1) = ts := by
    rw [← List.drop_eq_getElem_cons hk, List.take_append_drop]
  have hlines := List.splitOnP_append_cons (ts.take k) (ts.drop (k + 1)) hn
  rwa [hcut] at hlines

theorem first_line (ts : List τ) :
    (lines ts)[0]? = some (ts.takeWhile fun t => !CharLike.isNewline t) := by
  induction ts with
  | nil => rfl
  | cons t ts ih =>
    unfold lines at ih ⊢
    rw [List.splitOnP_cons_eq_if_modifyHead]
    cases hn : CharLike.isNewline t with
    | true => simp [hn]
    | false => simp [hn, ih]

/-! The line of an offset changes where a newline is passed and nowhere else. -/

theorem lineAt_zero (ts : List τ) : lineAt ts 0 = ts.takeWhile fun t => !CharLike.isNewline t := rfl

theorem lineAt_succ_of_none (h : ts[k]? = none) : lineAt ts (k + 1) = lineAt ts k := by
  have hlen := List.getElem?_eq_none_iff.1 h
  rw [lineAt, lineAt, ahead, ahead, List.take_of_length_le (by omega),
    List.take_of_length_le (by omega), List.drop_eq_nil_of_le (by omega),
    List.drop_eq_nil_of_le (by omega)]

theorem lineAt_succ_of_not_newline (h : ts[k]? = some t) (hn : CharLike.isNewline t = false) :
    lineAt ts (k + 1) = lineAt ts k := by
  rw [lineAt, lineAt, List.take_add_one, h, Option.toList_some, lastLine_concat_of_not_newline hn,
    ahead_of_some h, hn, List.append_assoc]
  rfl

theorem lineAt_succ_of_newline (h : ts[k]? = some t) (hn : CharLike.isNewline t = true) :
    lineAt ts (k + 1) = (ts.drop (k + 1)).takeWhile fun t => !CharLike.isNewline t := by
  rw [lineAt, List.take_add_one, h, Option.toList_some, lastLine_concat_of_newline hn]
  rfl

theorem countP_take_succ (ts : List τ) (k : Nat) :
    (ts.take (k + 1)).countP CharLike.isNewline =
      (ts.take k).countP CharLike.isNewline + ts[k]?.toList.countP CharLike.isNewline := by
  rw [List.take_add_one, List.countP_append]

/-- As many lines as there are newlines before an offset end before it. -/
theorem getElem?_lines (ts : List τ) (k : Nat) :
    (lines ts)[(ts.take k).countP CharLike.isNewline]? = some (lineAt ts k) := by
  induction k with
  | zero => exact first_line ts
  | succ k ih =>
    rw [countP_take_succ]
    cases h : ts[k]? with
    | none =>
      rw [lineAt_succ_of_none h]
      exact ih
    | some t =>
      cases hn : CharLike.isNewline t with
      | false =>
        rw [lineAt_succ_of_not_newline h hn, ← ih]
        simp [hn]
      | true =>
        -- A new line begins, so nothing is known of it from before: it is the first after the cut.
        have hbehind : (ts.take k).countP CharLike.isNewline +
            (some t).toList.countP CharLike.isNewline = (lines (ts.take k)).length := by
          rw [length_lines, Option.toList_some, List.countP_singleton, if_pos hn, Nat.add_comm]
        rw [hbehind, lines_of_newline_at h hn, List.getElem?_append_right (Nat.le_refl _),
          Nat.sub_self, first_line, lineAt_succ_of_newline h hn]

theorem countP_take_of_no_newline (hk : k ≤ k')
    (h : ∀ i t, k ≤ i → i < k' → ts[i]? = some t → CharLike.isNewline t = false) :
    (ts.take k').countP CharLike.isNewline = (ts.take k).countP CharLike.isNewline := by
  induction k', hk using Nat.le_induction with
  | base => rfl
  | succ k' hk ih =>
    have hbefore := ih fun i t hi hlt => h i t hi (Nat.lt_succ_of_lt hlt)
    rw [countP_take_succ, hbefore]
    cases ht : ts[k']? with
    | none => rfl
    | some t => simp [h k' t hk (Nat.lt_succ_self k') ht]

variable {S : ChunkStream τ} {input : Chunk τ} {o : Origin} {p p' : Cursor (Chunk τ)}

theorem line_of_reach (h : (Cursor.start input o).reach S.stream k = .ok p) :
    p.location.line = 1 + (input.toList.take k).countP CharLike.isNewline := by
  obtain ⟨-, rfl⟩ := reach_start_eq_ok_iff.1 h
  rfl

theorem currentLine_of_reach (h : (Cursor.start input o).reach S.stream k = .ok p) :
    p.currentLine S.stream = (if p.location.line = 1 then o.lead else "") ++
      String.ofList (text (lineAt input.toList k)) := by
  obtain ⟨-, rfl⟩ := reach_start_eq_ok_iff.1 h
  rw [ParseState.currentLine_cursor, leadAfter_eq_of_line]
  rfl

/-- A cursor sent to an offset shows as its current line the line of the input that its line number
counts, behind the lead if that is the first line. So the current line is the same at every offset up
to the newline that ends it, that of the newline included, and it is the last line at every offset
past the end. The cursor arrives exactly if the counts fit. -/
theorem currentLine_eq_getElem_lines (S : ChunkStream τ) (input : Chunk τ) (o : Origin) :
    let ts := input.toList
    let reached := fun k => (Cursor.start input o).reach S.stream k
    (∀ k p, reached k = .ok p →
      ∃ line, (lines ts)[p.location.line - 1]? = some line ∧
        p.currentLine S.stream = (if p.location.line = 1 then o.lead else "") ++
          String.ofList (line.map CharLike.toChar)) ∧
    (∀ k k' p p', reached k = .ok p → reached k' = .ok p' → k ≤ k' →
      (∀ i t, k ≤ i → i < k' → ts[i]? = some t → CharLike.isNewline t = false) →
      p'.location.line = p.location.line ∧
        p'.currentLine S.stream = p.currentLine S.stream) ∧
    (∀ k p, reached k = .ok p → ts.length ≤ k → p.location.line = (lines ts).length) ∧
    ∀ k, (∃ p, reached k = .ok p) ↔ WayFits o ts (min k ts.length) := by
  intro ts reached
  have hline : ∀ k p, reached k = .ok p → (lines ts)[p.location.line - 1]? = some (lineAt ts k) := by
    intro k p h
    rw [line_of_reach h, Nat.add_sub_cancel_left]
    exact getElem?_lines ts k
  refine ⟨?_, ?_, ?_, ?_⟩
  · intro k p h
    exact ⟨lineAt ts k, hline k p h, currentLine_of_reach h⟩
  · intro k k' p p' h h' hk hnone
    have hsame : p'.location.line = p.location.line := by
      rw [line_of_reach h, line_of_reach h', countP_take_of_no_newline hk hnone]
    have hlines : some (lineAt ts k') = some (lineAt ts k) := by
      rw [← hline k p h, ← hline k' p' h', hsame]
    refine ⟨hsame, ?_⟩
    rw [currentLine_of_reach h, currentLine_of_reach h', hsame, Option.some.inj hlines]
  · intro k p h hk
    rw [line_of_reach h, List.take_of_length_le hk, length_lines]
  · intro k
    rw [Chunk.length_toList]
    exact exists_reach_start_iff

/-- Semicolons end the lines: the first line from its start and from the semicolon that ends it, and
past the end the empty line after the last semicolon. -/
theorem currentLine_eq_getElem_lines_marked :
    let S := (ChunkStream.natural (τ := Marked ';' '>'))
    let input : Chunk (Marked ';' '>') := .ofList ("ab;c;".toList.map Marked.mk)
    let o : Origin := ⟨"f", ⟨4, by decide⟩, "> "⟩
    ∃ p p' q, (Cursor.start input o).reach S.stream 0 = .ok p ∧
      (Cursor.start input o).reach S.stream 2 = .ok p' ∧
      (Cursor.start input o).reach S.stream 99 = .ok q ∧
      p.currentLine S.stream = "> ab" ∧ p'.currentLine S.stream = p.currentLine S.stream ∧
      q.location.line = (lines input.toList).length ∧ q.currentLine S.stream = "" := by
  intro S input o
  obtain ⟨hline, hsame, hlast, harrives⟩ := currentLine_eq_getElem_lines S input o
  obtain ⟨p, hp⟩ := (harrives 0).2 ⟨by decide, by decide⟩
  obtain ⟨p', hp'⟩ := (harrives 2).2 ⟨by decide, by decide⟩
  obtain ⟨q, hq⟩ := (harrives 99).2 ⟨by decide, by decide⟩
  have hnone : ∀ i t, 0 ≤ i → i < 2 → input.toList[i]? = some t → CharLike.isNewline t = false := by
    intro i t _ hi
    match i, hi with
    | 0, _ => rintro ⟨⟩; rfl
    | 1, _ => rintro ⟨⟩; rfl
  have hplace : p.location.line = 1 := line_of_reach hp
  have hend : q.location.line = (lines input.toList).length := hlast 99 q hq (by decide)
  obtain ⟨first, hfirst, htext⟩ := hline 0 p hp
  obtain ⟨last, hlast, hrest⟩ := hline 99 q hq
  rw [hplace] at hfirst htext
  rw [hend] at hlast hrest
  cases hfirst
  cases hlast
  exact ⟨p, p', q, hp, hp', hq, htext.trans (by decide),
    (hsame 0 2 p p' hp hp' (by decide) hnone).2, hend, hrest.trans (by decide)⟩

end Layout

end Pinpoint
