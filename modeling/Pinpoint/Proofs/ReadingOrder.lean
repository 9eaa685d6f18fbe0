import Mathlib.Data.Prod.Lex
import Pinpoint.Proofs.Overflow

/-! Places in the order of reading. Each token leads to a later line or a later column of the same
line, so later offsets of the input have later places, and the entries of a report are headed by
places that never go back. -/

namespace Pinpoint

namespace Location

/-- Line and column, in lexicographic order. -/
def coordinates (l : Location) : ℕ ×ₗ ℕ := toLex (l.line, l.column)

theorem coordinates_lt_iff {l l' : Location} : l.coordinates < l'.coordinates ↔
    l.line < l'.line ∨ l.line = l'.line ∧ l.column < l'.column := Prod.Lex.toLex_lt_toLex

variable {τ : Type} [CharLike τ]

/-- Every token leads on. A newline sets the column back and a tab may stand on a stop. -/
theorem coordinates_lt_passed (w : TabWidth) (l : Location) (t : τ) :
    l.coordinates < (l.passed w t).coordinates := by
  rw [coordinates_lt_iff]
  unfold passed
  split
  · exact Or.inl (Nat.lt_succ_self _)
  · right
    split
    · exact ⟨rfl, w.lt_stopAfter l.column⟩
    · exact ⟨rfl, Nat.lt_succ_self _⟩

theorem coordinates_le_foldl (w : TabWidth) (l : Location) (ts : List τ) :
    l.coordinates ≤ (ts.foldl (passed w) l).coordinates := by
  induction ts generalizing l with
  | nil => exact le_rfl
  | cons t ts ih => exact (coordinates_lt_passed w l t).le.trans (ih (l.passed w t))

theorem coordinates_lt_foldl (w : TabWidth) (l : Location) {ts : List τ} (h : ts ≠ []) :
    l.coordinates < (ts.foldl (passed w) l).coordinates := by
  cases ts with
  | nil => exact absurd rfl h
  | cons t ts => exact (coordinates_lt_passed w l t).trans_le (coordinates_le_foldl w _ ts)

end Location

namespace Layout

variable {τ : Type} [CharLike τ] {o : Origin} {ts : List τ} {k k' : Nat}

theorem coordinates_place_le (o : Origin) (ts : List τ) (h : k ≤ k') :
    (place o (ts.take k)).coordinates ≤ (place o (ts.take k')).coordinates := by
  obtain ⟨d, rfl⟩ := Nat.exists_eq_add_of_le h
  rw [List.take_add, place_append]
  exact Location.coordinates_le_foldl ..

theorem coordinates_place_lt (o : Origin) (h : k < k') (hk' : k' ≤ ts.length) :
    (place o (ts.take k)).coordinates < (place o (ts.take k')).coordinates := by
  obtain ⟨d, rfl⟩ := Nat.exists_eq_add_of_le (Nat.le_of_lt h)
  have hpassed : (ts.drop k).take d ≠ [] := by
    apply List.ne_nil_of_length_pos
    rw [List.length_take, List.length_drop]
    omega
  rw [List.take_add, place_append]
  exact Location.coordinates_lt_foldl _ _ hpassed

end Layout

namespace Report

/-- The text begins with the place and a colon, on a line of their own. -/
def HeadedBy (place : Location) (text : String) : Prop := ∃ rest, text = toText place ++ ":\n" ++ rest

theorem headedBy_layout (place : Location) (line : String) (margin : Nat) (message : String) :
    HeadedBy place (layout place line margin message) := by
  unfold HeadedBy layout
  simp only [String.append_assoc]
  exact ⟨_, rfl⟩

end Report

namespace ParseState

open Layout Report

section Report

variable {τ κ ε : Type} [CharLike τ] [ToText τ] [ToText ε] {S : TokenStream τ κ}
  {s : ParseState τ κ ε} {e : ParseError τ ε} {text : String}

/-- A report stands under the place of its error. -/
theorem headedBy_of_report (h : s.report S e = .ok text) :
    ∃ l, s.locate S e.offset = .ok l ∧ HeadedBy l text := by
  obtain ⟨c, hc, h⟩ := Checked.bind_eq_ok_iff.1 h
  obtain ⟨line, -, h⟩ := Checked.bind_eq_ok_iff.1 h
  obtain ⟨margin, -, h⟩ := Checked.bind_eq_ok_iff.1 h
  obtain rfl : layout c.location line margin e.message = text := Except.ok.inj h
  refine ⟨c.location, ?_, headedBy_layout ..⟩
  rw [locate, hc]
  rfl

end Report

variable {τ ε : Type} [CharLike τ] [BEq τ] {S : ChunkStream τ} {s : ParseState τ (Chunk τ) ε}
  {input : Chunk τ} {o : Origin} {Rest : Chunk τ → Nat → Chunk τ → Prop} {es : List (Event τ ε)}
  {k : Nat} {l : Location}

theorem locate_eq_ok_iff (h : Run S.stream Rest (init input o) es s) :
    s.locate S.stream k = .ok l ↔
      WayFits o input.toList (min k input.size) ∧ l = place o (input.toList.take k) := by
  rw [locate, cursorAt_run h]
  constructor
  · intro hl
    cases hreach : (Cursor.start input o).reach S.stream k with
    | error x =>
      rw [hreach] at hl
      cases hl
    | ok c =>
      obtain ⟨hway, rfl⟩ := reach_start_eq_ok_iff.1 hreach
      rw [hreach] at hl
      cases hl
      exact ⟨hway, rfl⟩
  · rintro ⟨hway, rfl⟩
    rw [reach_start_eq_ok_iff.2 ⟨hway, rfl⟩]
    rfl

theorem locate_of_size_le (h : Run S.stream Rest (init input o) es s) (hk : input.size ≤ k) :
    s.locate S.stream k = s.locate S.stream input.size := by
  have hreach : (Cursor.start input o).reach S.stream k =
      (Cursor.start input o).reach S.stream input.size := by
    apply Cursor.advance_congr (Cursor.offset_start_lt input o)
    simp only [Cursor.start]
    omega
  rw [locate, locate, cursorAt_run h, cursorAt_run h, hreach]

variable [ToText τ] [ToText ε]

theorem headedBy_places (hrun : Run S.stream Rest (init input o) es s)
    {errors : List (ParseError τ ε)} {texts : List String}
    (h : List.Forall₂ (fun e text => s.report S.stream e = .ok text) errors texts) :
    let places := errors.map fun e => place o (input.toList.take e.offset)
    List.Forall₂ (fun e l => s.locate S.stream e.offset = .ok l) errors places ∧
      List.Forall₂ HeadedBy places texts := by
  induction h with
  | nil => exact ⟨.nil, .nil⟩
  | cons h _ ih =>
    obtain ⟨l, hl, hheaded⟩ := headedBy_of_report h
    obtain ⟨-, rfl⟩ := (locate_eq_ok_iff hrun).1 hl
    exact ⟨.cons hl ih.1, .cons hheaded ih.2⟩

/-- Later offsets have later places, as far as the input reaches and the counts on the way fit. All
offsets from the end on have the place of the end. So the entries of a report of all errors stand under
the places of the errors by offset, of which none comes before an earlier one. There is a report
whenever the texts that it could be made of fit in memory. -/
theorem locate_strictly_increasing (h : Run S.stream Rest (init input o) es s) :
    (∀ k k', k < k' → k' ≤ input.size → WayFits o input.toList k' →
      ∃ l l', s.locate S.stream k = .ok l ∧ s.locate S.stream k' = .ok l' ∧
        l.coordinates < l'.coordinates) ∧
    (∀ k, input.size ≤ k → s.locate S.stream k = s.locate S.stream input.size) ∧
    (∀ texts, s.reportAll S.stream = .ok texts → ∃ places,
      List.Forall₂ (fun e l => s.locate S.stream e.offset = .ok l) s.byOffset places ∧
      List.Forall₂ HeadedBy places texts ∧
      places.Pairwise fun l l' => l.coordinates ≤ l'.coordinates) ∧
    (4 * (input.size * o.tabWidth.columns) + o.lead.length < Count.textLimit →
      ∃ texts, s.reportAll S.stream = .ok texts) := by
  refine ⟨?_, fun k hk => locate_of_size_le h hk, ?_, ?_⟩
  · intro k k' hlt hk' hway
    have hlocate : ∀ j ≤ k', s.locate S.stream j = .ok (place o (input.toList.take j)) := by
      intro j hj
      exact (locate_eq_ok_iff h).2 ⟨hway.mono (Nat.le_trans (Nat.min_le_left ..) hj), rfl⟩
    refine ⟨_, _, hlocate k (Nat.le_of_lt hlt), hlocate k' (Nat.le_refl k'), ?_⟩
    exact coordinates_place_lt o hlt (by rwa [Chunk.length_toList])
  · intro texts htexts
    rw [reportAll_run h] at htexts
    obtain ⟨hlocate, hheaded⟩ := headedBy_places h (Checked.forall₂_of_mapM htexts)
    refine ⟨_, hlocate, hheaded, List.pairwise_map.2 ?_⟩
    exact pairwise_byOffset.imp fun hle => coordinates_place_le o input.toList hle
  · intro hroom
    have hwidest : widest o input.toList.length < Count.limit := by
      rw [Chunk.length_toList]
      unfold widest Count.limit
      unfold Count.textLimit at hroom
      omega
    cases htexts : s.reportAll S.stream with
    | ok texts => exact ⟨texts, rfl⟩
    | error x =>
      obtain ⟨-, hlarge⟩ := failsOnly_reportAll h hwidest x htexts
      rw [Chunk.length_toList] at hlarge
      omega

/-- Errors put off out of order, one of them behind the cached cursor and one past the end, in a text
that begins with a tab on a stop and has a tab before a newline. -/
theorem locate_strictly_increasing_tabs :
    let S := ChunkStream.natural (τ := Char)
    let o : Origin := ⟨"f", ⟨1, by decide⟩, "> "⟩
    let start : ParseState Char (Chunk Char) String := init (Chunk.ofString "\ta\t\nb") o
    let synced : Cursor (Chunk Char) :=
      { rest := (start.input.splitAt 4).2, offset := 4, location := ⟨"f", 2, 1⟩,
        tabWidth := o.tabWidth, lineSoFar := "" }
    let s := { start with
      input := (start.input.splitAt 4).2, offset := 4, cached := synced,
      deferred := [.fail 1 "early", .fail 99 "late"] }
    (∃ es, Run S.stream (fun _ _ _ => True) start es s) ∧ WayFits o start.input.toList 4 ∧
      (∃ l l', s.locate S.stream 2 = .ok l ∧ s.locate S.stream 4 = .ok l' ∧
        l.coordinates < l'.coordinates) ∧
      s.locate S.stream 99 = s.locate S.stream 5 ∧
      ∃ texts, s.reportAll S.stream = .ok texts ∧
        texts = ["f:1:2:\n  |\n1 | >  a \n  |    ^\nearly", "f:2:2:\n  |\n2 | b\n  |  ^\nlate"] ∧
        List.Forall₂ HeadedBy [⟨"f", 1, 2⟩, ⟨"f", 2, 2⟩] texts ∧
        List.Pairwise (fun l l' : Location => l.coordinates ≤ l'.coordinates)
          [⟨"f", 1, 2⟩, ⟨"f", 2, 2⟩] := by
  intro S o start synced s
  let taken := { start with input := (start.input.splitAt 4).2, offset := 4 }
  have hread : Step S.stream (fun _ _ _ => True) start _ taken := .read (n := 4) rfl
  have hsync : Step S.stream (fun _ _ _ => True) taken .synced { taken with cached := synced } :=
    .sync (by subst taken synced start o S; rfl)
  have hrun : Run S.stream (fun _ _ _ => True) start _ s :=
    .step (.step (.step (.step (.refl _) hread) hsync) (.defer (.fail 99 "late")))
      (.defer (.fail 1 "early"))
  have hway : WayFits o start.input.toList 4 := ⟨by decide, by decide⟩
  obtain ⟨hlt, hend, hplaces, htexts⟩ := locate_strictly_increasing hrun
  obtain ⟨texts, htexts⟩ := htexts (by decide)
  obtain ⟨places, hlocate, hheaded, hsorted⟩ := hplaces texts htexts
  have hdeferred : s.deferred.reverse = [.fail 99 "late", .fail 1 "early"] := rfl
  have hbyOffset : s.byOffset = [.fail 1 "early", .fail 99 "late"] := by
    rw [byOffset, hdeferred]
    simp [List.mergeSort, ParseError.fail, ParseError.complain, ParseError.offset]
  have hearly : s.locate S.stream 1 = .ok ⟨"f", 1, 2⟩ := by decide +kernel
  have hlate : s.locate S.stream 99 = .ok ⟨"f", 2, 2⟩ := by decide +kernel
  obtain rfl : places = [⟨"f", 1, 2⟩, ⟨"f", 2, 2⟩] := by
    rw [hbyOffset] at hlocate
    obtain _ | ⟨hfirst, _ | ⟨hsecond, _ | _⟩⟩ := hlocate
    rw [Except.ok.inj (hfirst.symm.trans hearly), Except.ok.inj (hsecond.symm.trans hlate)]
  refine ⟨⟨_, hrun⟩, hway, hlt 2 4 (by decide) (by decide) hway, hend 99 (by decide), texts, htexts,
    ?_, hheaded, hsorted⟩
  rw [reportAll_run hrun, hbyOffset] at htexts
  exact Except.ok.inj (htexts.symm.trans (by decide +kernel))

end ParseState

end Pinpoint
