import Mathlib.Control.Monad.Basic
import Pinpoint.Proofs.Run
import Pinpoint.State.Report

/-! The cached cursor is only a shortcut: the place of an offset and the report of an error are those
that the state at the start of the input gives, whatever was done since. -/

namespace Pinpoint

namespace ParseState

variable {τ ε : Type} [CharLike τ] {S : ChunkStream τ} {c : Cursor (Chunk τ)}
  {s s' : ParseState τ (Chunk τ) ε}

/-- The state began at `c`, and its cached cursor is one that `c` reaches. -/
def Tracks (S : ChunkStream τ) (c : Cursor (Chunk τ)) (s : ParseState τ (Chunk τ) ε) : Prop :=
  s.start = c ∧ ∃ k, c.reach S.stream k = .ok s.cached

/-- Both cursors that a place may be sought from lead to it. -/
theorem cursorAt_eq_reach (hc : c.offset < Count.limit) (h : Tracks S c s) (k : Nat) :
    s.cursorAt S.stream k = c.reach S.stream k := by
  obtain ⟨hstart, j, hj⟩ := h
  unfold cursorAt
  split
  · next hk => exact Cursor.reach_of_reach hc hj hk
  · rw [hstart]

theorem tracks_init (input : Chunk τ) (o : Origin) :
    Tracks S (.start input o) (init input o : ParseState τ (Chunk τ) ε) :=
  ⟨rfl, 0, Cursor.advance_zero (Cursor.offset_start_lt input o)⟩

theorem reportAt_congr [ToText τ] [ToText ε] (hs : s.start = s'.start) (c : Cursor (Chunk τ))
    (e : ParseError τ ε) : s.reportAt S.stream c e = s'.reportAt S.stream c e := by
  simp only [reportAt, shownLine, caretMargin, leadAt, hs]

variable [BEq τ] {Rest : Chunk τ → Nat → Chunk τ → Prop} {e : Event τ ε} {es : List (Event τ ε)}

theorem tracks_step (hc : c.offset < Count.limit) (h : Step S.stream Rest s e s')
    (ht : Tracks S c s) : Tracks S c s' := by
  rcases step_cases h with ⟨ts, n, rest, -, -, rfl⟩ | ⟨err, -, rfl⟩ | ⟨-, c', hc', rfl⟩
  · exact ht
  · exact ht
  · rw [cursorAt_eq_reach hc ht] at hc'
    exact ⟨ht.1, s.offset, hc'⟩

theorem tracks_run {input : Chunk τ} {o : Origin} (h : Run S.stream Rest (init input o) es s) :
    Tracks S (.start input o) s :=
  run_invariant (tracks_step (Cursor.offset_start_lt input o)) h (tracks_init input o)

theorem cursorAt_run {input : Chunk τ} {o : Origin} (h : Run S.stream Rest (init input o) es s)
    (k : Nat) : s.cursorAt S.stream k = (Cursor.start input o).reach S.stream k :=
  cursorAt_eq_reach (Cursor.offset_start_lt input o) (tracks_run h) k

/-- Places and reports depend on the input and its origin alone. -/
theorem locate_and_report_eq_init [ToText τ] [ToText ε] {input : Chunk τ} {o : Origin}
    (h : Run S.stream Rest (init input o) es s) :
    (∀ k, s.locate S.stream k = (init input o : ParseState τ (Chunk τ) ε).locate S.stream k) ∧
      ∀ e, s.report S.stream e = (init input o : ParseState τ (Chunk τ) ε).report S.stream e := by
  have hcursor : ∀ k, s.cursorAt S.stream k =
      (init input o : ParseState τ (Chunk τ) ε).cursorAt S.stream k := by
    intro k
    rw [cursorAt_run h, cursorAt_run (Run.refl _ : Run S.stream Rest _ _ _)]
  constructor
  · intro k
    simp only [locate, hcursor]
  · intro e
    have hstart : s.start = (init input o : ParseState τ (Chunk τ) ε).start := (tracks_run h).1
    simp only [report, hcursor, reportAt_congr hstart]

/-- A move over a tab and a newline, a sync, an error put off, and then a claim to have consumed more
than there is. -/
theorem locate_and_report_eq_init_overrun :
    let S := (ChunkStream.natural (τ := Char)).stream
    let start : ParseState Char (Chunk Char) String :=
      init (Chunk.ofString "a\tb\ncd") (.named "f")
    let synced : Cursor (Chunk Char) :=
      { rest := (start.input.splitAt 5).2, offset := 5, location := ⟨"f", 2, 2⟩,
        tabWidth := .standard, lineSoFar := "c" }
    let s := { start with
      input := .ofString "zz", offset := 105, cached := synced, deferred := [.fail 2 "late"] }
    (∃ es, Run S (fun _ _ _ => True) start es s) ∧
      (∀ k, s.locate S k = start.locate S k) ∧ (∀ e, s.report S e = start.report S e) ∧
      s.locate S 2 = .ok ⟨"f", 1, 9⟩ ∧
      s.report S (.fail 2 "late") = .ok "f:1:9:\n  |\n1 | a       b\n  |         ^\nlate" := by
  intro S start synced s
  let taken := { start with input := (start.input.splitAt 5).2, offset := 5 }
  have hread : Step S (fun _ _ _ => True) start (.took (S.toList (start.input.splitAt 5).1)) taken :=
    .read (n := 5) rfl
  have hsync : Step S (fun _ _ _ => True) taken .synced { taken with cached := synced } :=
    -- `rfl` compares large counts only in terms without local definitions.
    .sync (by subst taken synced start S; rfl)
  have hrun : Run S (fun _ _ _ => True) start _ s :=
    .step (.step (.step (.step (.refl _) hread) hsync) (.defer (.fail 2 "late")))
      (.advanceBy (n := 100) trivial rfl)
  obtain ⟨hlocate, hreport⟩ := locate_and_report_eq_init hrun
  refine ⟨⟨_, hrun⟩, hlocate, hreport, ?_, ?_⟩
  · rw [hlocate]
    decide +kernel
  · rw [hreport]
    decide +kernel

end ParseState

end Pinpoint
