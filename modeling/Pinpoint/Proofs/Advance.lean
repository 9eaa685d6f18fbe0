import Pinpoint.Cursor
import Pinpoint.Stream.Chunks

/-! Moves of cursors. The scan of a move comes to one fold over the location and one over the text of
the line, and over chunks it does not matter how the way of a cursor is cut into moves. -/

namespace Pinpoint

theorem Checked.ok_bind {α β : Type} (a : α) (f : α → Checked β) :
    (Except.ok a : Checked α) >>= f = f a := rfl

theorem Checked.error_bind {α β : Type} (x : Overflow) (f : α → Checked β) :
    (Except.error x : Checked α) >>= f = .error x := rfl

theorem Checked.bind_eq_ok_iff {α β : Type} {x : Checked α} {f : α → Checked β} {b : β} :
    x >>= f = .ok b ↔ ∃ a, x = .ok a ∧ f a = .ok b := by
  constructor
  · intro h
    cases x with
    | error e => cases h
    | ok a => exact ⟨a, rfl, h⟩
  · rintro ⟨a, rfl, h⟩
    exact h

theorem Count.add_add (a b c : Nat) : Count.add (a + b) c = Count.add a (b + c) := by
  simp only [Count.add, Nat.add_assoc]

namespace Chunk

variable {τ : Type}

theorem splitAt_splitAt_snd (c : Chunk τ) (a b : Nat) :
    ((c.splitAt a).2.splitAt b).2 = (c.splitAt (a + b)).2 := by
  have := c.start_le_stop
  simp only [splitAt, size, Chunk.mk.injEq, true_and, and_true]
  omega

theorem size_splitAt_snd (c : Chunk τ) (n : Nat) : (c.splitAt n).2.size = c.size - n := by
  rw [← length_toList, toList_splitAt_snd, List.length_drop, length_toList]

/-- What a split leaves depends on the place of the cut only as far as the chunk reaches. -/
theorem splitAt_snd_congr {c : Chunk τ} {a b : Nat} (h : min a c.size = min b c.size) :
    (c.splitAt a).2 = (c.splitAt b).2 := by
  simp only [splitAt, h]

end Chunk

/-- Past one token. A token that is both a newline and a tab is a newline. -/
def Location.pass {τ : Type} [CharLike τ] (w : TabWidth) (l : Location) (t : τ) :
    Checked Location :=
  if CharLike.isNewline t then l.newline
  else if CharLike.isTab t then l.tab w
  else l.step

namespace Cursor

variable {τ : Type} [CharLike τ]

/-- The text of the current line after one more token. -/
def extendLine (line : String) (t : τ) : String :=
  if CharLike.isNewline t then "" else line.push (CharLike.toChar t)

/-- Each part of a scan goes its own way, and only the location can fail. -/
theorem Scan.past_eq (w : TabWidth) (s : Scan) (t : τ) : s.past w t = do
    let location ← s.location.pass w t
    return ⟨location, s.crossedNewline || CharLike.isNewline t, extendLine s.line t⟩ := by
  unfold past Location.pass extendLine
  cases CharLike.isNewline t
  · cases CharLike.isTab t <;> simp
  · simp

theorem Scan.foldlM_past (w : TabWidth) (s : Scan) (ts : List τ) : ts.foldlM (past w) s = do
    let location ← ts.foldlM (Location.pass w) s.location
    return ⟨location, s.crossedNewline || ts.any CharLike.isNewline, ts.foldl extendLine s.line⟩ := by
  induction ts generalizing s with
  | nil => simp
  | cons t ts ih =>
    simp only [List.foldlM_cons, past_eq, bind_assoc, pure_bind, ih, List.any_cons, Bool.or_assoc,
      List.foldl_cons]

/-- The line that was begun before a move is either given up at a newline or kept in front. -/
theorem Scan.lineAfter_foldl (location : Location) (before line : String) (ts : List τ) :
    (Scan.mk location (ts.any CharLike.isNewline) (ts.foldl extendLine line)).lineAfter before =
      ts.foldl extendLine (before ++ line) := by
  induction ts generalizing line with
  | nil => rfl
  | cons t ts ih =>
    rw [List.any_cons, List.foldl_cons, List.foldl_cons]
    cases hn : CharLike.isNewline t with
    | true => simp [lineAfter, extendLine, hn]
    | false =>
      have hpush : extendLine (before ++ line) t = before ++ extendLine line t := by
        simp [extendLine, hn, ← String.toList_inj]
      rw [Bool.false_or, ih, hpush]

section Moves

variable {κ : Type} {S : TokenStream τ κ} {c : Cursor κ} {n : Nat}

theorem advance_of_read_none (h : S.read n c.rest = none) : c.advance S n = .ok c := by
  rw [advance, h]

/-- A move by what it hands on: the scan comes to one fold over the location and one over the text. -/
theorem advance_of_read {taken rest : κ} (h : S.read n c.rest = some (taken, rest)) :
    c.advance S n = do
      let location ← (S.toList taken).foldlM (Location.pass c.tabWidth) c.location
      let offset ← Count.add c.offset (S.length taken)
      return { c with
        rest, offset, location, lineSoFar := (S.toList taken).foldl extendLine c.lineSoFar } := by
  have hline (location : Location) := Scan.lineAfter_foldl location c.lineSoFar "" (S.toList taken)
  simp only [advance, h, Scan.foldlM_past, bind_assoc, pure_bind, Bool.false_or, hline,
    String.append_empty]

end Moves

end Cursor

theorem Cursor.offset_start_lt {κ : Type} (input : κ) (o : Origin) :
    (Cursor.start input o).offset < Count.limit := by
  show 0 < Count.limit
  decide

namespace Cursor

variable {τ : Type} [CharLike τ] {S : ChunkStream τ} {c c' : Cursor (Chunk τ)} {n a b : Nat}

/-- A move in one equation. The three ways in which a stream answers a read, for no tokens, at the
end and otherwise, come to the same as long as the offset is a count. -/
theorem advance_eq (h : c.offset < Count.limit) (n : Nat) :
    c.advance S.stream n = do
      let location ← (c.rest.toList.take n).foldlM (Location.pass c.tabWidth) c.location
      let offset ← Count.add c.offset (min n c.rest.size)
      return { c with
        rest := (c.rest.splitAt n).2, offset, location,
        lineSoFar := (c.rest.toList.take n).foldl extendLine c.lineSoFar } := by
  rcases S.read_cases n c.rest with ⟨hr, hnil⟩ | ⟨taken, hr, ht⟩
  · have hsize : c.rest.size = 0 := by rw [← Chunk.length_toList, hnil, List.length_nil]
    have hrest : (c.rest.splitAt n).2 = c.rest := by
      rw [Chunk.splitAt_snd_congr (b := 0) (by simp [hsize]), Chunk.splitAt_zero_snd]
    rw [advance_of_read_none hr, hnil, hsize, hrest, List.take_nil, Nat.min_zero, Count.add,
      Nat.add_zero, if_pos h]
    rfl
  · have hsize : taken.size = min n c.rest.size := by
      rw [← Chunk.length_toList, ht, List.length_take, Chunk.length_toList]
    rw [advance_of_read hr, ChunkStream.toList_stream, ChunkStream.length_stream, ht, hsize]

/-- A cursor after a move, and the counts that were found to fit. -/
theorem exists_of_advance (h : c.offset < Count.limit) (ha : c.advance S.stream n = .ok c') :
    ∃ location, (c.rest.toList.take n).foldlM (Location.pass c.tabWidth) c.location = .ok location ∧
      c.offset + min n c.rest.size < Count.limit ∧
      c' = { c with
        rest := (c.rest.splitAt n).2, offset := c.offset + min n c.rest.size, location,
        lineSoFar := (c.rest.toList.take n).foldl extendLine c.lineSoFar } := by
  rw [advance_eq h] at ha
  obtain ⟨location, hl, ha⟩ := Checked.bind_eq_ok_iff.1 ha
  obtain ⟨offset, ho, ha⟩ := Checked.bind_eq_ok_iff.1 ha
  obtain ⟨rfl, hlt⟩ := Count.add_eq_ok_iff.1 ho
  cases ha
  exact ⟨location, hl, hlt, rfl⟩

theorem offset_lt_of_advance (h : c.offset < Count.limit) (ha : c.advance S.stream n = .ok c') :
    c'.offset < Count.limit := by
  obtain ⟨location, hl, hlt, rfl⟩ := exists_of_advance h ha
  exact hlt

/-- Two moves make one. The second may fail, and then the one move fails in the same way. -/
theorem advance_advance (h : c.offset < Count.limit) (ha : c.advance S.stream a = .ok c') (b : Nat) :
    c'.advance S.stream b = c.advance S.stream (a + b) := by
  have h' := offset_lt_of_advance h ha
  obtain ⟨location, hl, hlt, rfl⟩ := exists_of_advance h ha
  rw [advance_eq h', advance_eq h]
  simp only [Chunk.toList_splitAt_snd, Chunk.splitAt_splitAt_snd, Chunk.size_splitAt_snd,
    List.take_add, List.foldlM_append, List.foldl_append, hl, Count.add_add]
  have hmin : min a c.rest.size + min b (c.rest.size - a) = min (a + b) c.rest.size := by omega
  rw [hmin]
  rfl

/-- Tokens asked for beyond the end make no difference. -/
theorem advance_congr (h : c.offset < Count.limit)
    (hab : min a c.rest.size = min b c.rest.size) :
    c.advance S.stream a = c.advance S.stream b := by
  have htake : c.rest.toList.take a = c.rest.toList.take b := by
    rw [List.take_eq_take_iff, Chunk.length_toList]
    exact hab
  rw [advance_eq h, advance_eq h, htake, hab, Chunk.splitAt_snd_congr hab]

theorem advance_zero (h : c.offset < Count.limit) : c.advance S.stream 0 = .ok c := by
  rw [advance_eq h, Chunk.splitAt_zero_snd, Nat.zero_min]
  simp only [Count.add, Nat.add_zero, if_pos h]
  rfl

theorem offset_of_reach (h : c.offset < Count.limit) (ha : c.reach S.stream a = .ok c') :
    c'.offset = c.offset + min (a - c.offset) c.rest.size := by
  obtain ⟨location, hl, hlt, rfl⟩ := exists_of_advance h ha
  rfl

/-- A cursor that was reached on the way to an offset reaches it as the one it came from does, also
if the way to it was cut short by the end of the input. -/
theorem reach_of_reach (h : c.offset < Count.limit) (ha : c.reach S.stream a = .ok c')
    (hb : c'.offset ≤ b) : c'.reach S.stream b = c.reach S.stream b := by
  have ho := offset_of_reach h ha
  rw [reach, advance_advance h ha, reach]
  apply advance_congr h
  omega

end Cursor

end Pinpoint
