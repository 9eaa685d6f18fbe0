import Pinpoint.Proofs.Landing
import Pinpoint.Proofs.Run

/-! Streams that may read short. Whatever a faithful stream hands out at a time, a cursor stands
where it says it stands, and a parse state counts what it was given and not what it asked for. -/

namespace Pinpoint

namespace Cursor

variable {τ κ : Type} [CharLike τ] {S : TokenStream τ κ} {c c' : Cursor κ} {n k : Nat}
  {input : κ} {o : Origin}

/-- A call that moves a cursor. -/
inductive Move where
  | advance (n : Nat)
  | reach (offset : Nat)

def move (S : TokenStream τ κ) (c : Cursor κ) : Move → Checked (Cursor κ)
  | .advance n => c.advance S n
  | .reach offset => c.reach S offset

/-- Call after call. The first that fails ends it. -/
def moveAll (S : TokenStream τ κ) (ms : List Move) (c : Cursor κ) : Checked (Cursor κ) :=
  ms.foldlM (move S) c

/-- A move over a faithful stream passes some tokens from the front of what remains, no more than
were asked for. It may pass none. -/
theorem exists_passed_of_advance (hS : S.Faithful) (h : c.advance S n = .ok c') :
    ∃ ts rest location, ts ++ S.toList rest = S.toList c.rest ∧ ts.length ≤ n ∧
      ts.foldlM (Location.pass c.tabWidth) c.location = .ok location ∧
      c' = { c with
        rest, offset := c.offset + ts.length, location,
        lineSoFar := ts.foldl extendLine c.lineSoFar } := by
  cases hread : S.read n c.rest with
  | none =>
    rw [advance_of_read_none hread] at h
    cases h
    exact ⟨[], c.rest, c.location, rfl, Nat.zero_le n, rfl, rfl⟩
  | some handed =>
    obtain ⟨taken, rest⟩ := handed
    rw [advance_of_read hread] at h
    obtain ⟨location, hpass, h⟩ := Checked.bind_eq_ok_iff.1 h
    obtain ⟨offset, hadd, h⟩ := Checked.bind_eq_ok_iff.1 h
    obtain ⟨rfl, -⟩ := Count.add_eq_ok_iff.1 hadd
    cases h
    refine ⟨S.toList taken, rest, location, hS.append_of_read hread, hS.length_le_of_read hread,
      hpass, ?_⟩
    rw [hS.length_eq]

theorem offset_bounds_of_advance (hS : S.Faithful) (h : c.advance S n = .ok c') :
    c.offset ≤ c'.offset ∧ c'.offset ≤ c.offset + n := by
  obtain ⟨ts, rest, location, -, hlen, -, rfl⟩ := exists_passed_of_advance hS h
  exact ⟨Nat.le_add_right .., Nat.add_le_add_left hlen _⟩

/-- The cursor stands at an offset of the input and holds the rest of it. All that it knows of the
place is what the layout says of the tokens before. -/
structure Knows (S : TokenStream τ κ) (input : κ) (o : Origin) (c : Cursor κ) : Prop where
  offset_le : c.offset ≤ (S.toList input).length
  rest : S.toList c.rest = (S.toList input).drop c.offset
  location : c.location = Layout.place o ((S.toList input).take c.offset)
  lineSoFar : c.lineSoFar = Layout.lineUpTo o ((S.toList input).take c.offset)
  tabWidth : c.tabWidth = o.tabWidth
  fits : c.location.Fits

theorem knows_start : Knows S input o (start input o) where
  offset_le := Nat.zero_le _
  rest := rfl
  location := rfl
  lineSoFar := Layout.foldl_extendLine o ([] : List τ)
  tabWidth := rfl
  fits := Layout.fits_location o

namespace Knows

variable {ts : List τ} {rest : κ} {j : Nat}

/-- The tokens before the cursor and those from the front of what remains run on in the input. -/
theorem take_add (hk : Knows S input o c) (hcut : ts ++ S.toList rest = S.toList c.rest)
    (hj : j ≤ ts.length) :
    (S.toList input).take (c.offset + j) = (S.toList input).take c.offset ++ ts.take j := by
  rw [List.take_add, ← hk.rest, ← hcut, List.take_append_of_le_length hj]

theorem add_length_le (hk : Knows S input o c) (hcut : ts ++ S.toList rest = S.toList c.rest) :
    c.offset + ts.length ≤ (S.toList input).length := by
  have hlen := congrArg List.length hcut
  rw [hk.rest, List.length_append, List.length_drop] at hlen
  have := hk.offset_le
  omega

theorem one_le_column (hk : Knows S input o c) : 1 ≤ c.location.column := by
  rw [hk.location]
  exact Layout.one_le_column_place ..

/-- The places on the way are those of the layout. -/
theorem foldl_passed (hk : Knows S input o c) (hcut : ts ++ S.toList rest = S.toList c.rest)
    (hj : j ≤ ts.length) : (ts.take j).foldl (Location.passed c.tabWidth) c.location =
      Layout.place o ((S.toList input).take (c.offset + j)) := by
  rw [hk.take_add hcut hj, Layout.place_append, hk.location, hk.tabWidth]

end Knows

/-- What one move keeps, however far it came. -/
theorem knows_advance (hS : S.Faithful) (hk : Knows S input o c) (h : c.advance S n = .ok c') :
    Knows S input o c' := by
  obtain ⟨ts, rest, location, hcut, -, hpass, rfl⟩ := exists_passed_of_advance hS h
  obtain ⟨hfits, rfl⟩ := (Location.foldlM_pass_eq_ok_iff hk.one_le_column hk.fits).1 hpass
  have hbefore := hk.take_add hcut (Nat.le_refl _)
  have hplace := hk.foldl_passed hcut (Nat.le_refl _)
  have hfit := hfits _ (Nat.le_refl _)
  rw [List.take_length] at hbefore hplace hfit
  refine ⟨hk.add_length_le hcut, ?_, hplace, ?_, hk.tabWidth, hfit⟩
  · show S.toList rest = _
    rw [← List.drop_drop, ← hk.rest, ← hcut, List.drop_left]
  · show ts.foldl extendLine c.lineSoFar = _
    rw [hbefore, Layout.lineUpTo_append, ← hk.lineSoFar]

theorem knows_move (hS : S.Faithful) (hk : Knows S input o c) {m : Move}
    (h : c.move S m = .ok c') : Knows S input o c' := by
  cases m with
  | advance n => exact knows_advance hS hk h
  | reach offset => exact knows_advance hS hk h

theorem knows_moveAll (hS : S.Faithful) (hk : Knows S input o c) {ms : List Move}
    (h : moveAll S ms c = .ok c') : Knows S input o c' := by
  induction ms generalizing c with
  | nil =>
    cases h
    exact hk
  | cons m ms ih =>
    obtain ⟨c₁, hmove, hrest⟩ := Checked.bind_eq_ok_iff.1 h
    exact ih (knows_move hS hk hmove) hrest

/-- Only counts that do not fit can stop a cursor. -/
theorem exists_advance (hS : S.Faithful) (hk : Knows S input o c)
    (hway : Layout.WayFits o (S.toList input) (S.toList input).length) (n : Nat) :
    ∃ c', c.advance S n = .ok c' := by
  cases hread : S.read n c.rest with
  | none => exact ⟨c, advance_of_read_none hread⟩
  | some handed =>
    obtain ⟨taken, rest⟩ := handed
    have hcut := hS.append_of_read hread
    have hle := hk.add_length_le hcut
    have hpass : (S.toList taken).foldlM (Location.pass c.tabWidth) c.location =
        .ok ((S.toList taken).foldl (Location.passed c.tabWidth) c.location) := by
      apply Location.foldlM_pass_of_fits hk.one_le_column
      intro j hj
      rw [hk.foldl_passed hcut hj]
      exact hway.places _ (by omega)
    have hadd : Count.add c.offset (S.length taken) = .ok (c.offset + S.length taken) := by
      refine Count.add_eq_ok_iff.2 ⟨rfl, ?_⟩
      rw [hS.length_eq]
      exact Nat.lt_of_le_of_lt hle hway.offset
    rw [advance_of_read hread]
    exact ⟨_, Checked.bind_eq_ok_iff.2 ⟨_, hpass, Checked.bind_eq_ok_iff.2 ⟨_, hadd, rfl⟩⟩⟩

theorem exists_move (hS : S.Faithful) (hk : Knows S input o c)
    (hway : Layout.WayFits o (S.toList input) (S.toList input).length) (m : Move) :
    ∃ c', c.move S m = .ok c' := by
  cases m with
  | advance n => exact exists_advance hS hk hway n
  | reach offset => exact exists_advance hS hk hway (offset - c.offset)

theorem exists_moveAll (hS : S.Faithful) (hk : Knows S input o c)
    (hway : Layout.WayFits o (S.toList input) (S.toList input).length) (ms : List Move) :
    ∃ c', moveAll S ms c = .ok c' := by
  induction ms generalizing c with
  | nil => exact ⟨c, rfl⟩
  | cons m ms ih =>
    obtain ⟨c₁, hmove⟩ := exists_move hS hk hway m
    obtain ⟨c', hrest⟩ := ih (knows_move hS hk hmove)
    exact ⟨c', Checked.bind_eq_ok_iff.2 ⟨c₁, hmove, hrest⟩⟩

/-- A cursor is not sent past an offset that lies ahead of it, nor moved by one that lies behind. -/
theorem offset_le_of_reach (hS : S.Faithful) (h : c.reach S k = .ok c') :
    c.offset ≤ c'.offset ∧ c'.offset ≤ max c.offset k := by
  obtain ⟨hge, hle⟩ := offset_bounds_of_advance hS h
  exact ⟨hge, by omega⟩

end Cursor

namespace ParseState

variable {τ κ ε : Type} {S : TokenStream τ κ} {s s' : ParseState τ κ ε} {n : Nat} {taken : κ}

/-- A read moves what it hands out from the front of the input into the offset. -/
theorem accounts_of_read (hS : S.Faithful) (h : s.read S n = .ok (some (taken, s'))) :
    S.toList taken ++ S.toList s'.input = S.toList s.input ∧ (S.toList taken).length ≤ n ∧
      s'.offset = s.offset + (S.toList taken).length := by
  obtain ⟨rest, hread, ha⟩ := advanceBy_of_read h
  obtain ⟨-, rfl⟩ := advanceBy_eq_ok_iff.1 ha
  refine ⟨hS.append_of_read hread, hS.length_le_of_read hread, ?_⟩
  rw [← hS.length_eq]

theorem exists_read (hS : S.Faithful) (hfit : s.offset + (S.toList s.input).length < Count.limit)
    (n : Nat) : ∃ r, s.read S n = .ok r := by
  unfold ParseState.read
  split
  · exact ⟨none, rfl⟩
  · next taken rest hread =>
    have hlen := congrArg List.length (hS.append_of_read hread)
    rw [List.length_append, ← hS.length_eq taken] at hlen
    have hlt : s.offset + S.length taken < Count.limit := by omega
    exact ⟨_, Checked.bind_eq_ok_iff.2 ⟨_, advanceBy_eq_ok_iff.2 ⟨hlt, rfl⟩, rfl⟩⟩

end ParseState

namespace Cursor

variable {τ κ ε : Type} [CharLike τ] {S : TokenStream τ κ}

/-- On a stream that may read short, every sequence of moves from the start leads to a cursor that
holds the rest of the input from its offset on and knows the line, the column and the text of that
very offset. It gets there if the counts of the input fit. A cursor that is sent ahead does not go
too far, and a parse state that reads counts the tokens that left its input, not those it asked
for. -/
theorem moveAll_start_knows (hS : S.Faithful) (input : κ) (o : Origin) :
    let ts := S.toList input
    (∀ ms c, moveAll S ms (start input o) = .ok c →
      c.offset ≤ ts.length ∧ S.toList c.rest = ts.drop c.offset ∧
      c.location = Layout.place o (ts.take c.offset) ∧
      c.lineSoFar = Layout.lineUpTo o (ts.take c.offset) ∧ c.tabWidth = o.tabWidth ∧
      ∀ k c', c.reach S k = .ok c' → c.offset ≤ c'.offset ∧ c'.offset ≤ max c.offset k) ∧
    (Layout.WayFits o ts ts.length → ∀ ms, ∃ c, moveAll S ms (start input o) = .ok c) ∧
    ∀ (s : ParseState τ κ ε) (n : Nat),
      (∀ taken s', s.read S n = .ok (some (taken, s')) →
        S.toList taken ++ S.toList s'.input = S.toList s.input ∧ (S.toList taken).length ≤ n ∧
        s'.offset = s.offset + ((S.toList s.input).length - (S.toList s'.input).length)) ∧
      (s.offset + (S.toList s.input).length < Count.limit → ∃ r, s.read S n = .ok r) := by
  intro ts
  refine ⟨?_, ?_, ?_⟩
  · intro ms c h
    have hk := knows_moveAll hS knows_start h
    exact ⟨hk.offset_le, hk.rest, hk.location, hk.lineSoFar, hk.tabWidth,
      fun k c' hreach => offset_le_of_reach hS hreach⟩
  · intro hway ms
    exact exists_moveAll hS knows_start hway ms
  · intro s n
    constructor
    · intro taken s' h
      obtain ⟨hcut, hlen, hoffset⟩ := ParseState.accounts_of_read hS h
      refine ⟨hcut, hlen, ?_⟩
      rw [hoffset, ← hcut, List.length_append, Nat.add_sub_cancel]
    · intro hfit
      exact ParseState.exists_read hS hfit n

/-- Two tokens at a time: asked for five, then sent back, then sent to the end, the cursor has come
to the start of the second line. A state that asks for five tokens is two further on. -/
theorem moveAll_start_knows_capped :
    let S := (ChunkStream.natural (τ := Char)).stream.capped 2
    let input := Chunk.ofString "a\tb\ncd"
    let o : Origin := ⟨"f", ⟨4, by decide⟩, "> "⟩
    let c : Cursor (Chunk Char) :=
      { rest := (input.splitAt 4).2, offset := 4, location := ⟨"f", 2, 1⟩, tabWidth := o.tabWidth,
        lineSoFar := "" }
    let s : ParseState Char (Chunk Char) String := .init input o
    S.Faithful ∧ Layout.WayFits o input.toList 6 ∧
      moveAll S [.advance 5, .reach 1, .reach 6] (start input o) = .ok c ∧
      c.rest.toList = input.toList.drop 4 ∧ c.location = Layout.place o (input.toList.take 4) ∧
      c.lineSoFar = Layout.lineUpTo o (input.toList.take 4) ∧
      (∃ c, moveAll S [.reach 9, .reach 9] (start input o) = .ok c) ∧
      ∃ taken s', s.read S 5 = .ok (some (taken, s')) ∧ s'.offset = 0 + (6 - 4) := by
  intro S input o c s
  have hS : S.Faithful := (ChunkStream.faithful_stream _).capped 2
  have hway : Layout.WayFits o input.toList 6 := ⟨by decide, by decide⟩
  let c₁ : Cursor (Chunk Char) :=
    { rest := (input.splitAt 2).2, offset := 2, location := ⟨"f", 1, 5⟩, tabWidth := o.tabWidth,
      lineSoFar := "> a\t" }
  have hread₁ : S.read 5 (start input o).rest = some (input.splitAt 2) := rfl
  have hread₂ : S.read 0 c₁.rest = some (.empty, c₁.rest) := rfl
  have hread₃ : S.read 4 c₁.rest = some (c₁.rest.splitAt 2) := rfl
  have h₁ : move S (start input o) (.advance 5) = .ok c₁ := by
    refine (advance_of_read hread₁).trans ?_
    subst c₁ o input S
    rfl
  have h₂ : move S c₁ (.reach 1) = .ok c₁ := (advance_of_read hread₂).trans rfl
  have h₃ : move S c₁ (.reach 6) = .ok c := (advance_of_read hread₃).trans rfl
  have hc : moveAll S [.advance 5, .reach 1, .reach 6] (start input o) = .ok c := by
    rw [moveAll, List.foldlM_cons, h₁, Checked.ok_bind, List.foldlM_cons, h₂, Checked.ok_bind,
      List.foldlM_cons, h₃]
    rfl
  have hr : s.read S 5 = .ok (some ((input.splitAt 2).1,
      { s with input := (input.splitAt 2).2, offset := 2 })) := by
    subst s o input S
    rfl
  obtain ⟨hknows, hexists, hread⟩ := moveAll_start_knows (ε := String) hS input o
  obtain ⟨-, hrest, hlocation, hline, -, -⟩ := hknows _ c hc
  obtain ⟨-, -, hoffset⟩ := (hread s 5).1 _ _ hr
  exact ⟨hS, hway, hc, hrest, hlocation, hline, hexists hway _, _, _, hr, hoffset⟩

end Cursor

end Pinpoint
