import Pinpoint.Proofs.Landing

/-! Moves of a cursor beside the same moves in counts of any size. A move succeeds exactly if its
counts fit, and moves compose: nothing about a cursor tells by which moves it came. -/

namespace Pinpoint

/-- What comes to `y` wherever its first part succeeds comes to `y`, up to the reason of a failure, if
`y` succeeds only where the first part does. -/
theorem Checked.toOption_bind_eq {α β : Type} {x : Checked α} {f : α → Checked β} {y : Checked β}
    (h : ∀ a, x = .ok a → f a = y) (hx : ∀ b, y = .ok b → ∃ a, x = .ok a) :
    (x >>= f).toOption = y.toOption := by
  cases x with
  | ok a => rw [Checked.ok_bind, h a rfl]
  | error e =>
    cases y with
    | ok b =>
      obtain ⟨a, ha⟩ := hx b rfl
      cases ha
    | error e' => rfl

namespace Cursor

variable {τ : Type} [CharLike τ] {S : ChunkStream τ} {c c' : Cursor (Chunk τ)} {n a b : Nat}

/-- Past up to `n` tokens, however large the counts become. -/
def advanced (n : Nat) (c : Cursor (Chunk τ)) : Cursor (Chunk τ) :=
  { c with
    rest := (c.rest.splitAt n).2, offset := c.offset + min n c.rest.size,
    location := (c.rest.toList.take n).foldl (Location.passed c.tabWidth) c.location,
    lineSoFar := (c.rest.toList.take n).foldl extendLine c.lineSoFar }

/-- The fields of a cursor are as a text can make them: counts, the column one of those that a line
has. -/
structure Proper (c : Cursor (Chunk τ)) : Prop where
  offset : c.offset < Count.limit
  location : c.location.Fits
  column : 1 ≤ c.location.column

/-- The counts made on the way past up to `n` tokens: line and column of every place, and the offset
at the end. -/
structure CanPass (c : Cursor (Chunk τ)) (n : Nat) : Prop where
  places : ∀ ts, ts <+: c.rest.toList.take n →
    (ts.foldl (Location.passed c.tabWidth) c.location).Fits
  offset : c.offset + min n c.rest.size < Count.limit

theorem CanPass.mono (h : c.CanPass n) (ha : a ≤ n) : c.CanPass a where
  places ts hts := h.places ts (hts.trans (List.take_prefix_take_left ha))
  offset := by
    have := h.offset
    omega

/-- A move succeeds exactly if its counts fit, and then it leads where the unbounded move leads. -/
theorem advance_eq_ok_iff (hc : c.Proper) :
    c.advance S.stream n = .ok c' ↔ c.CanPass n ∧ c' = c.advanced n := by
  constructor
  · intro h
    obtain ⟨location, hpass, hlt, rfl⟩ := exists_of_advance hc.offset h
    obtain ⟨hfits, rfl⟩ := (Location.foldlM_pass_eq_ok_iff hc.column hc.location).1 hpass
    refine ⟨⟨?_, hlt⟩, rfl⟩
    intro ts hts
    rw [List.prefix_iff_eq_take.1 hts]
    exact hfits _ hts.length_le
  · rintro ⟨h, rfl⟩
    have hpass : (c.rest.toList.take n).foldlM (Location.pass c.tabWidth) c.location = .ok _ :=
      Location.foldlM_pass_of_fits hc.column fun j _ => h.places _ (List.take_prefix j _)
    have hadd : Count.add c.offset (min n c.rest.size) = .ok _ :=
      Count.add_eq_ok_iff.2 ⟨rfl, h.offset⟩
    rw [advance_eq hc.offset, hpass, Checked.ok_bind, hadd, Checked.ok_bind]
    rfl

theorem exists_advance_iff (hc : c.Proper) :
    (∃ c', c.advance S.stream n = .ok c') ↔ c.CanPass n := by
  constructor
  · rintro ⟨c', h⟩
    exact ((advance_eq_ok_iff hc).1 h).1
  · intro h
    exact ⟨_, (advance_eq_ok_iff hc).2 ⟨h, rfl⟩⟩

/-- A move to a place succeeds only if the moves to the places before it do. -/
theorem exists_advance_of_le (hc : c.Proper) (h : c.advance S.stream n = .ok c') (ha : a ≤ n) :
    ∃ c₁, c.advance S.stream a = .ok c₁ :=
  (exists_advance_iff hc).2 (((advance_eq_ok_iff hc).1 h).1.mono ha)

/-- The second move starts where the first one ended, at the end of the input or short of it, and
goes on to the further of the two offsets. -/
theorem reach_reach (h : c.offset < Count.limit) (ha : c.reach S.stream a = .ok c') (b : Nat) :
    c'.reach S.stream b = c.reach S.stream (max a b) := by
  have ho := offset_of_reach h ha
  rw [reach, advance_advance h ha, reach]
  apply advance_congr h
  omega

/-- Moves compose. A move over no tokens changes nothing, one over `a` and then `b` tokens is one over
`a + b`, and a move to one offset and then to another is a move to the further one, whether or not
the offsets lie behind the cursor or past the end. Where two moves fail the one fails too. They
succeed exactly if the counts fit. -/
theorem moves_compose (hc : c.Proper) :
    c.advance S.stream 0 = .ok c ∧
    (∀ a b, (c.advance S.stream a >>= advance S.stream b).toOption =
      (c.advance S.stream (a + b)).toOption) ∧
    (∀ a b, (c.reach S.stream a >>= reach S.stream b).toOption =
      (c.reach S.stream (max a b)).toOption) ∧
    (∀ n, (∃ c', c.advance S.stream n = .ok c') ↔ c.CanPass n) ∧
    ∀ k, (∃ c', c.reach S.stream k = .ok c') ↔ c.CanPass (k - c.offset) := by
  refine ⟨advance_zero hc.offset, ?_, ?_, fun n => exists_advance_iff hc,
    fun k => exists_advance_iff hc⟩
  · intro a b
    apply Checked.toOption_bind_eq
    · intro c' ha
      exact advance_advance hc.offset ha b
    · intro c'' h
      exact exists_advance_of_le hc h (Nat.le_add_right a b)
  · intro a b
    apply Checked.toOption_bind_eq
    · intro c' ha
      exact reach_reach hc.offset ha b
    · intro c'' h
      exact exists_advance_of_le hc h (Nat.sub_le_sub_right (Nat.le_max_left a b) _)

/-- From the middle of a line over a tab and a newline, and past the end and then back. -/
theorem moves_compose_across_newline :
    let S := (ChunkStream.natural (τ := Char)).stream
    let c : Cursor (Chunk Char) :=
      { rest := .ofString "a\tb\ncd", offset := 7, location := ⟨"f", 3, 2⟩,
        tabWidth := ⟨4, by decide⟩, lineSoFar := "x" }
    let c' := { c with
      rest := (c.rest.splitAt 5).2, offset := 12, location := ⟨"f", 4, 2⟩, lineSoFar := "c" }
    c.Proper ∧ c.advance S 0 = .ok c ∧ c.advance S 5 = .ok c' ∧
      (c.advance S 3 >>= advance S 2).toOption = (c.advance S (3 + 2)).toOption ∧
      (c.reach S 99 >>= reach S 8).toOption = (c.reach S (max 99 8)).toOption ∧
      c.CanPass 5 := by
  intro S c c'
  have hc : c.Proper := ⟨by decide, by decide, by decide⟩
  have hadvance : c.advance S 5 = .ok c' := by
    subst c' c S
    rfl
  obtain ⟨hzero, hadd, hmax, hpass, -⟩ := moves_compose (S := .natural) hc
  exact ⟨hc, hzero, hadvance, hadd 3 2, hmax 99 8, (hpass 5).1 ⟨c', hadvance⟩⟩

end Cursor

end Pinpoint
