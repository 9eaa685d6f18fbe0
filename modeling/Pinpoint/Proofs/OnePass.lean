import Mathlib.Data.List.Forall2
import Pinpoint.Proofs.Ledger

/-! All errors in one pass: the cursor that moves from error to error stands at each of them where a
cursor sent there from the start of the input would stand. -/

namespace Pinpoint

theorem Checked.forall₂_of_mapM {α β : Type} {f : α → Checked β} {as : List α} {bs : List β}
    (h : as.mapM f = .ok bs) : List.Forall₂ (fun a b => f a = .ok b) as bs := by
  induction as generalizing bs with
  | nil =>
    cases h
    exact .nil
  | cons a as ih =>
    rw [List.mapM_cons] at h
    obtain ⟨b, hb, h⟩ := Checked.bind_eq_ok_iff.1 h
    obtain ⟨bs', hbs', h⟩ := Checked.bind_eq_ok_iff.1 h
    cases h
    exact .cons hb (ih hbs')

theorem Checked.length_of_mapM {α β : Type} {f : α → Checked β} {as : List α} {bs : List β}
    (h : as.mapM f = .ok bs) : bs.length = as.length :=
  (Checked.forall₂_of_mapM h).length_eq.symm

namespace ParseError

variable {τ ε : Type}

theorem offset_le_trans (a b c : ParseError τ ε) (hab : decide (a.offset ≤ b.offset) = true)
    (hbc : decide (b.offset ≤ c.offset) = true) : decide (a.offset ≤ c.offset) = true :=
  decide_eq_true (Nat.le_trans (of_decide_eq_true hab) (of_decide_eq_true hbc))

theorem offset_le_total (a b : ParseError τ ε) :
    (decide (a.offset ≤ b.offset) || decide (b.offset ≤ a.offset)) = true := by
  simpa using Nat.le_total a.offset b.offset

end ParseError

namespace ParseState

section Order

variable {τ κ ε : Type} {s : ParseState τ κ ε}

theorem perm_byOffset : s.byOffset.Perm s.deferred.reverse := List.mergeSort_perm ..

theorem pairwise_byOffset : s.byOffset.Pairwise fun a b => a.offset ≤ b.offset := by
  have hsorted := List.pairwise_mergeSort ParseError.offset_le_trans ParseError.offset_le_total
    s.deferred.reverse
  exact hsorted.imp of_decide_eq_true

/-- The sort moves no error past another at the same offset. -/
theorem filter_byOffset (n : Nat) : s.byOffset.filter (fun e => e.offset == n) =
    s.deferred.reverse.filter fun e => e.offset == n := by
  -- Errors at one offset are sorted as they come, so the sort keeps them as a sublist.
  have hpairwise : (s.deferred.reverse.filter fun e => e.offset == n).Pairwise
      fun a b => decide (a.offset ≤ b.offset) = true := by
    refine List.pairwise_filter.2 (List.pairwise_of_forall ?_)
    intro a b ha hb
    rw [beq_iff_eq] at ha hb
    exact decide_eq_true (by omega)
  have hsub := List.sublist_mergeSort ParseError.offset_le_trans ParseError.offset_le_total
    hpairwise List.filter_sublist
  have hsub' := hsub.filter fun e => e.offset == n
  rw [List.filter_filter] at hsub'
  simp only [Bool.and_self] at hsub'
  have hlen := (perm_byOffset (s := s)).filter (fun e => e.offset == n) |>.length_eq
  exact (hsub'.eq_of_length hlen.symm).symm

end Order

variable {τ ε : Type} [CharLike τ] [ToText τ] [ToText ε] {S : ChunkStream τ}
  {s : ParseState τ (Chunk τ) ε} {input : Chunk τ} {o : Origin}

theorem report_eq_replay (ht : Tracks S (.start input o) s) (e : ParseError τ ε) :
    s.report S.stream e = (Cursor.start input o).reach S.stream e.offset >>=
      fun c => s.reportAt S.stream c e := by
  rw [report, cursorAt_eq_reach (Cursor.offset_start_lt input o) ht]

/-- The moving cursor was reached from the start and is not past the errors to come. It may stand at
the end of the input, short of the offset it was sent to. -/
theorem reportFrom_eq_mapM (ht : Tracks S (.start input o) s) {es : List (ParseError τ ε)}
    {c : Cursor (Chunk τ)} {k : Nat} (hc : (Cursor.start input o).reach S.stream k = .ok c)
    (hsorted : es.Pairwise fun a b => a.offset ≤ b.offset) (hle : ∀ e ∈ es, c.offset ≤ e.offset) :
    s.reportFrom S.stream c es = es.mapM (s.report S.stream) := by
  induction es generalizing c k with
  | nil => rfl
  | cons e es ih =>
    obtain ⟨hhead, htail⟩ := List.pairwise_cons.1 hsorted
    have hreach := Cursor.reach_of_reach (Cursor.offset_start_lt input o) hc
      (hle e List.mem_cons_self)
    rw [reportFrom, List.mapM_cons, report_eq_replay ht, hreach]
    cases hc' : (Cursor.start input o).reach S.stream e.offset with
    | error x => rfl
    | ok c' =>
      have hoffset := Cursor.offset_of_reach (Cursor.offset_start_lt input o) hc'
      have hle' : ∀ e' ∈ es, c'.offset ≤ e'.offset := by
        intro e' he'
        have := hhead e' he'
        simp only [Cursor.start] at hoffset
        omega
      rw [Checked.ok_bind, Checked.ok_bind, ih hc' htail hle']

variable [BEq τ] {Rest : Chunk τ → Nat → Chunk τ → Prop} {es : List (Event τ ε)}

theorem reportAll_run (h : Run S.stream Rest (init input o) es s) :
    s.reportAll S.stream = s.byOffset.mapM (s.report S.stream) := by
  have ht := tracks_run h
  have hstart := Cursor.advance_zero (S := S) (Cursor.offset_start_lt input o)
  rw [reportAll, ht.1]
  exact reportFrom_eq_mapM ht (k := 0) hstart pairwise_byOffset fun _ _ => Nat.zero_le _

/-- One pass over the input shows each error as it is shown alone, also where the input ends before an
error and where several errors share an offset. -/
theorem reportAll_eq_mapM_report (h : Run S.stream Rest (init input o) es s) :
    s.reportAll S.stream = s.byOffset.mapM (s.report S.stream) ∧
      (∀ e, s.report S.stream e = (Cursor.start input o).reach S.stream e.offset >>=
        fun c => s.reportAt S.stream c e) ∧
      (∀ texts, s.reportAll S.stream = .ok texts → texts.length = (Event.putOff es).length) ∧
      s.byOffset.Perm (Event.putOff es) ∧
      s.byOffset.Pairwise (fun a b => a.offset ≤ b.offset) ∧
      ∀ n, s.byOffset.filter (fun e => e.offset == n) =
        (Event.putOff es).filter fun e => e.offset == n := by
  have hdeferred : s.deferred.reverse = Event.putOff es := by
    have hnewest : s.deferred = (Event.putOff es).reverse ++ [] := deferred_run h
    rw [hnewest, List.append_nil, List.reverse_reverse]
  have hperm : s.byOffset.Perm (Event.putOff es) := hdeferred ▸ perm_byOffset
  refine ⟨reportAll_run h, report_eq_replay (tracks_run h), ?_, hperm, pairwise_byOffset, ?_⟩
  · intro texts htexts
    rw [reportAll_run h] at htexts
    rw [Checked.length_of_mapM htexts, hperm.length_eq]
  · intro n
    rw [filter_byOffset, hdeferred]

/-- Errors put off out of order, one of them past the end and two at one offset behind the cached
cursor. -/
theorem reportAll_eq_mapM_report_unordered :
    let S := (ChunkStream.natural (τ := Char)).stream
    let start : ParseState Char (Chunk Char) String := init (Chunk.ofString "a\nb") (.named "f")
    let synced : Cursor (Chunk Char) :=
      { rest := (start.input.splitAt 3).2, offset := 3, location := ⟨"f", 2, 2⟩,
        tabWidth := .standard, lineSoFar := "b" }
    let s := { start with
      input := (start.input.splitAt 3).2, offset := 3, cached := synced,
      deferred := [.fail 1 "second", .fail 9 "past", .fail 1 "first"] }
    ∃ es, Run S (fun _ _ _ => True) start es s ∧
      s.reportAll S = s.byOffset.mapM (s.report S) ∧
      s.byOffset.Perm [.fail 1 "first", .fail 9 "past", .fail 1 "second"] ∧
      s.byOffset.filter (fun e => e.offset == 1) = [.fail 1 "first", .fail 1 "second"] ∧
      s.reportAll S = .ok ["f:1:2:\n  |\n1 | a\n  |  ^\nfirst",
        "f:1:2:\n  |\n1 | a\n  |  ^\nsecond", "f:2:2:\n  |\n2 | b\n  |  ^\npast"] := by
  intro S start synced s
  let taken := { start with input := (start.input.splitAt 3).2, offset := 3 }
  have hread : Step S (fun _ _ _ => True) start _ taken := .read (n := 3) rfl
  have hsync : Step S (fun _ _ _ => True) taken .synced { taken with cached := synced } :=
    .sync (by subst taken synced start S; rfl)
  have hrun : Run S (fun _ _ _ => True) start _ s :=
    .step (.step (.step (.step (.step (.refl _) hread) hsync) (.defer (.fail 1 "first")))
      (.defer (.fail 9 "past"))) (.defer (.fail 1 "second"))
  obtain ⟨hall, -, -, hperm, -, hstable⟩ := reportAll_eq_mapM_report hrun
  have hdeferred : s.deferred.reverse =
      [.fail 1 "first", .fail 9 "past", .fail 1 "second"] := rfl
  have hsorted : s.byOffset = [.fail 1 "first", .fail 1 "second", .fail 9 "past"] := by
    rw [byOffset, hdeferred]
    simp [List.mergeSort, ParseError.fail, ParseError.complain, ParseError.offset]
  refine ⟨_, hrun, hall, hperm, hstable 1, ?_⟩
  rw [hall, hsorted]
  decide +kernel

end ParseState

end Pinpoint
