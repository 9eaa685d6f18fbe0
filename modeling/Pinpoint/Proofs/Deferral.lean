import Pinpoint.Proofs.Ledger
import Pinpoint.Proofs.MergeOrder

/-! Errors may be merged in portions. All errors come to the union of those at the furthest offset,
and unions can be grouped at will, so an error that is put off is merged with what the earlier ones
came to. -/

namespace Pinpoint

namespace ParseError

section Front

variable {τ ε : Type} {xs ys : List (ParseError τ ε)}

theorem furthest_append (xs ys : List (ParseError τ ε)) :
    furthest (xs ++ ys) = max (furthest xs) (furthest ys) := by
  induction ys using List.reverseRecOn with
  | nil => rw [List.append_nil, furthest, furthest, List.foldl_nil, Nat.max_zero]
  | append_singleton ys y ih =>
    rw [← List.append_assoc, furthest_concat, furthest_concat, ih, Nat.max_assoc]

/-- Errors that fall short of an offset have no part in the front at it. -/
theorem filter_offset_of_furthest_lt {n : Nat} (h : furthest xs < n) :
    xs.filter (fun e => e.offset == n) = [] := by
  rw [List.filter_eq_nil_iff]
  intro e he hn
  have hle := offset_le_furthest he
  rw [beq_iff_eq.1 hn] at hle
  omega

theorem front_append_of_lt (h : furthest xs < furthest ys) : front (xs ++ ys) = front ys := by
  have hmax : furthest (xs ++ ys) = furthest ys := by rw [furthest_append]; omega
  rw [front, hmax, List.filter_append, filter_offset_of_furthest_lt h, List.nil_append, front]

theorem front_append_of_eq (h : furthest xs = furthest ys) :
    front (xs ++ ys) = front xs ++ front ys := by
  have hmax : furthest (xs ++ ys) = furthest ys := by rw [furthest_append]; omega
  rw [front, hmax, List.filter_append, front, front, h]

theorem front_append_of_gt (h : furthest ys < furthest xs) : front (xs ++ ys) = front xs := by
  have hmax : furthest (xs ++ ys) = furthest xs := by rw [furthest_append]; omega
  rw [front, hmax, List.filter_append, filter_offset_of_furthest_lt h, List.append_nil, front]

theorem front_reverse (es : List (ParseError τ ε)) : front es.reverse = (front es).reverse := by
  rw [front, furthest_perm es.reverse_perm, List.filter_reverse, front]

theorem unexpected?_of_isFancy {e : ParseError τ ε} (h : e.isFancy) : e.unexpected? = none := by
  cases e with
  | trivial => cases h
  | fancy => rfl

end Front

variable {τ ε : Type} [BEq τ] [BEq ε]

/-- Errors united from the left, whatever their offsets, if there are any. -/
def uniteAll (es : List (ParseError τ ε)) : Option (ParseError τ ε) :=
  (es.map some).foldl (Option.merge unite) none

theorem uniteAll_concat (es : List (ParseError τ ε)) (e : ParseError τ ε) :
    uniteAll (es ++ [e]) = (uniteAll es).merge unite (some e) := by
  rw [uniteAll, List.map_append, List.foldl_append]
  rfl

/-- What a list of errors comes to stands at its furthest offset. -/
theorem mergeAll_cases (es : List (ParseError τ ε)) :
    (es = [] ∧ mergeAll es = none) ∨ ∃ r, mergeAll es = some r ∧ r.offset = furthest es := by
  induction es using List.reverseRecOn with
  | nil => exact Or.inl ⟨rfl, rfl⟩
  | append_singleton es e ih =>
    right
    rw [mergeAll_concat, furthest_concat]
    rcases ih with ⟨rfl, hnone⟩ | ⟨r, hr, ho⟩
    · refine ⟨e, ?_, (Nat.zero_max _).symm⟩
      rw [hnone, Option.merge_none_left]
    · refine ⟨r.merge e, ?_, ?_⟩
      · rw [hr, Option.merge_some_some]
      · rw [offset_merge, ho]

theorem mergeAll_eq_uniteAll_front (es : List (ParseError τ ε)) :
    mergeAll es = uniteAll (front es) := by
  induction es using List.reverseRecOn with
  | nil => rfl
  | append_singleton es e ih =>
    rw [mergeAll_concat]
    rcases mergeAll_cases es with ⟨rfl, hnone⟩ | ⟨r, hr, ho⟩
    · have hfront : front [e] = [e] := by simp [front, furthest]
      rw [hnone, Option.merge_none_left, List.nil_append, hfront]
      rfl
    · rw [hr] at ih ⊢
      rw [Option.merge_some_some]
      rcases Nat.lt_trichotomy e.offset (furthest es) with h | h | h
      · rw [front_concat_of_lt h, merge_of_offset_gt (by omega), ih]
      · rw [front_concat_of_eq h, merge_of_offset_eq (by omega), uniteAll_concat, ← ih,
          Option.merge_some_some]
      · rw [front_concat_of_gt h, merge_of_offset_lt (by omega)]
        rfl

theorem uniteAll_append [TransBEq τ] [TransBEq ε] (xs ys : List (ParseError τ ε)) :
    uniteAll (xs ++ ys) = (uniteAll xs).merge unite (uniteAll ys) := by
  have hassoc : Std.Associative (unite (τ := τ) (ε := ε)) := ⟨unite_assoc⟩
  have hfold : (ys.map some).foldl (Option.merge unite) ((uniteAll xs).merge unite none) =
      (uniteAll xs).merge unite (uniteAll ys) := List.foldl_assoc
  rw [Option.merge_none_right] at hfold
  rw [uniteAll, List.map_append, List.foldl_append]
  exact hfold

theorem mergeAll_append [TransBEq τ] [TransBEq ε] (xs ys : List (ParseError τ ε)) :
    mergeAll (xs ++ ys) = (mergeAll xs).merge merge (mergeAll ys) := by
  rcases mergeAll_cases xs with ⟨rfl, hx⟩ | ⟨a, hx, ha⟩
  · rw [hx, Option.merge_none_left, List.nil_append]
  rcases mergeAll_cases ys with ⟨rfl, hy⟩ | ⟨b, hy, hb⟩
  · rw [hy, Option.merge_none_right, List.append_nil]
  rw [hx, hy, Option.merge_some_some, mergeAll_eq_uniteAll_front]
  rw [mergeAll_eq_uniteAll_front] at hx hy
  rcases Nat.lt_trichotomy (furthest xs) (furthest ys) with h | h | h
  · rw [front_append_of_lt h, hy, merge_of_offset_lt (by omega)]
  · rw [front_append_of_eq h, uniteAll_append, hx, hy, Option.merge_some_some,
      merge_of_offset_eq (by omega)]
  · rw [front_append_of_gt h, hx, merge_of_offset_gt (by omega)]

theorem isFancy_unite (a b : ParseError τ ε) :
    (a.unite b).isFancy = (a.isFancy || b.isFancy) := by
  cases a <;> cases b <;> rfl

theorem unexpected?_unite {a b : ParseError τ ε} (ha : ¬ a.isFancy) (hb : ¬ b.isFancy) :
    (a.unite b).unexpected? = a.unexpected?.or b.unexpected? := by
  cases a with
  | trivial =>
    cases b with
    | trivial => rfl
    | fancy => exact absurd rfl hb
  | fancy => exact absurd rfl ha

theorem any_isFancy_uniteAll (es : List (ParseError τ ε)) :
    (uniteAll es).any isFancy = es.any isFancy := by
  induction es using List.reverseRecOn with
  | nil => rfl
  | append_singleton es e ih =>
    rw [uniteAll_concat, List.any_append, ← ih]
    cases uniteAll es with
    | none => simp
    | some r => simp [isFancy_unite]

/-- A union of mismatches keeps the first unexpected fragment. -/
theorem unexpected?_uniteAll {es : List (ParseError τ ε)} (h : ¬ es.any isFancy) :
    (uniteAll es).bind unexpected? = es.findSome? unexpected? := by
  induction es using List.reverseRecOn with
  | nil => rfl
  | append_singleton es e ih =>
    rw [List.any_append, Bool.or_eq_true, not_or] at h
    obtain ⟨hes, he⟩ := h
    have he : ¬ e.isFancy := by simpa using he
    have hr := any_isFancy_uniteAll es
    rw [uniteAll_concat, List.findSome?_append, ← ih hes]
    cases hu : uniteAll es with
    | none => simp
    | some r =>
      rw [hu, Option.any_some] at hr
      simp [unexpected?_unite (hr ▸ hes) he]

/-- What is kept of the unexpected fragments of all errors: none if a fancy error is at the front,
else the first one there. -/
theorem unexpected?_mergeAll (es : List (ParseError τ ε)) :
    (mergeAll es).bind unexpected? =
      if (front es).any isFancy then none else (front es).findSome? unexpected? := by
  rw [mergeAll_eq_uniteAll_front]
  by_cases h : (front es).any isFancy
  · rw [if_pos h, Option.bind_eq_none_iff]
    intro r hr
    have hfancy := any_isFancy_uniteAll (front es)
    rw [hr, Option.any_some, h] at hfancy
    exact unexpected?_of_isFancy hfancy
  · rw [if_neg h, unexpected?_uniteAll h]

end ParseError

namespace ParseState

open ParseError Event

variable {τ κ ε : Type} [BEq τ] [BEq ε]

theorem mergedErrors_defer [TransBEq τ] [TransBEq ε] (e : ParseError τ ε) (s : ParseState τ κ ε) :
    (s.defer e).mergedErrors = (some e).merge merge s.mergedErrors :=
  mergeAll_append [e] s.deferred

theorem unexpected?_mergedErrors [CharLike τ] {S : TokenStream τ κ} {Rest : κ → Nat → κ → Prop}
    {input : κ} {o : Origin} {es : List (Event τ ε)} {s : ParseState τ κ ε}
    (h : Run S Rest (init input o) es s) :
    s.mergedErrors.bind unexpected? = if (front (putOff es)).any isFancy then none
      else ((front (putOff es)).filterMap unexpected?).getLast? := by
  have hdeferred : s.deferred = (putOff es).reverse ++ [] := deferred_run h
  rw [List.append_nil] at hdeferred
  rw [mergedErrors, unexpected?_mergeAll, hdeferred, front_reverse, List.any_reverse,
    List.getLast?_filterMap]

/-- Errors may be merged in two portions at any point. So an error that is put off is merged, as the
left one, with what the errors of the state came to, and of the unexpected fragments at the furthest
offset the one that was put off last is kept. -/
theorem mergeAll_append_and_defer [TransBEq τ] [TransBEq ε] :
    (∀ xs ys : List (ParseError τ ε),
      mergeAll (xs ++ ys) = (mergeAll xs).merge merge (mergeAll ys)) ∧
    (∀ (s : ParseState τ κ ε) (e : ParseError τ ε),
      (s.defer e).mergedErrors = (some e).merge merge s.mergedErrors) ∧
    ∀ [CharLike τ] (S : TokenStream τ κ) (Rest : κ → Nat → κ → Prop) (input : κ) (o : Origin)
      (es : List (Event τ ε)) (s : ParseState τ κ ε), Run S Rest (init input o) es s →
      s.mergedErrors.bind unexpected? = if (front (putOff es)).any isFancy then none
        else ((front (putOff es)).filterMap unexpected?).getLast? := by
  refine ⟨mergeAll_append, fun s e => mergedErrors_defer e s, ?_⟩
  intro _ S Rest input o es s h
  exact unexpected?_mergedErrors h

/-- Two mismatches at one offset and then a complaint that falls short of it: the second of the
mismatches is the last at the furthest offset. -/
theorem mergeAll_append_and_defer_last :
    let S := (ChunkStream.natural (τ := Char)).stream
    let start : ParseState Char (Chunk Char) String := init (Chunk.ofString "ab") (.named "f")
    let first : ParseError Char String := .mismatch 5 (some (.token 'x')) [.label "a"]
    let second : ParseError Char String := .mismatch 5 (some (.token 'y')) [.label "b", .label "a"]
    let short : ParseError Char String := .fail 2 "short"
    let before := (start.defer first).defer second
    let s := before.defer short
    Run S (fun _ _ _ => True) start [.deferred first, .deferred second, .deferred short] s ∧
      mergeAll ([short, second] ++ [first]) =
        (mergeAll [short, second]).merge merge (mergeAll [first]) ∧
      s.mergedErrors = (some short).merge merge before.mergedErrors ∧
      before.mergedErrors = some (.trivial 5 (some (.token 'y')) ⟨[.label "b", .label "a"]⟩) ∧
      s.mergedErrors.bind unexpected? = some (.token 'y') := by
  intro S start first second short before s
  have hrun : Run S (fun _ _ _ => True) start
      [.deferred first, .deferred second, .deferred short] s :=
    .step (.step (.step (.refl _) (.defer first)) (.defer second)) (.defer short)
  obtain ⟨happend, hdefer, hkept⟩ :=
    mergeAll_append_and_defer (τ := Char) (κ := Chunk Char) (ε := String)
  exact ⟨hrun, happend _ _, hdefer _ _, rfl, (hkept S _ _ _ _ _ hrun).trans rfl⟩

end ParseState

end Pinpoint
