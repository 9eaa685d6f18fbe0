import Mathlib.Order.Monotone.Basic
import Pinpoint.Proofs.Deferral

/-! Errors may be merged before or after they are moved. The two come to the same exactly if the moves
keep different offsets apart and in order. -/

namespace Pinpoint

namespace ParseError

variable {τ ε : Type}

/-- The error at the offset to which `f` takes its own. -/
def relocateBy (f : Nat → Nat) (e : ParseError τ ε) : ParseError τ ε := e.relocate (f e.offset)

@[simp] theorem offset_relocateBy (f : Nat → Nat) (e : ParseError τ ε) :
    (e.relocateBy f).offset = f e.offset := offset_relocate ..

variable [BEq τ] [BEq ε] {f : Nat → Nat} {offsets : Set Nat}

theorem relocate_unite (n : Nat) (a b : ParseError τ ε) :
    (a.relocate n).unite (b.relocate n) = (a.unite b).relocate n := by
  cases a <;> cases b <;> rfl

theorem relocateBy_merge (hf : StrictMonoOn f offsets) {a b : ParseError τ ε}
    (ha : a.offset ∈ offsets) (hb : b.offset ∈ offsets) :
    (a.relocateBy f).merge (b.relocateBy f) = (a.merge b).relocateBy f := by
  rcases Nat.lt_trichotomy a.offset b.offset with h | h | h
  · have hmoved : f a.offset < f b.offset := hf ha hb h
    rw [merge_of_offset_lt h, merge_of_offset_lt (by simpa using hmoved)]
  · have hmoved : f a.offset = f b.offset := congrArg f h
    rw [merge_of_offset_eq h, merge_of_offset_eq (by simpa using hmoved), relocateBy, relocateBy,
      relocateBy, offset_unite h, ← h, relocate_unite]
  · have hmoved : f b.offset < f a.offset := hf hb ha h
    rw [merge_of_offset_gt h, merge_of_offset_gt (by simpa using hmoved)]

/-- What the errors so far come to stands at the offset of one of them, so it may be moved with the
next. -/
theorem mergeAll_map_relocateBy (hf : StrictMonoOn f offsets) {es : List (ParseError τ ε)}
    (hes : ∀ e ∈ es, e.offset ∈ offsets) :
    mergeAll (es.map (relocateBy f)) = (mergeAll es).map (relocateBy f) := by
  induction es using List.reverseRecOn with
  | nil => rfl
  | append_singleton es e ih =>
    have he : e.offset ∈ offsets := hes e (by simp)
    have hbefore : ∀ e' ∈ es, e'.offset ∈ offsets := fun e' he' => hes e' (by simp [he'])
    rw [List.map_append, List.map_singleton, mergeAll_concat, mergeAll_concat, ih hbefore]
    rcases mergeAll_cases es with ⟨-, hnone⟩ | ⟨r, hr, hfurthest⟩
    · rw [hnone]
      rfl
    · have hne : es ≠ [] := by
        rintro rfl
        cases hr
      obtain ⟨e', he', hoffset⟩ := exists_offset_eq_furthest hne
      have hroffset : r.offset ∈ offsets := by
        rw [hfurthest, ← hoffset]
        exact hbefore e' he'
      rw [hr, Option.map_some, Option.merge_some_some, Option.merge_some_some, Option.map_some,
        relocateBy_merge hf hroffset he]

/-- Of two failures the further one is shown. If a move does not keep them in order, the other is
shown in its place or beside it. -/
theorem strictMonoOn_of_relocateBy_merge
    (h : ∀ a b : ParseError τ ε, a.offset ∈ offsets → b.offset ∈ offsets →
      (a.relocateBy f).merge (b.relocateBy f) = (a.merge b).relocateBy f) :
    StrictMonoOn f offsets := by
  intro m hm n hn hmn
  let near : ParseError τ ε := .fail m "near"
  let far : ParseError τ ε := .fail n "far"
  have hmoved : (near.relocateBy f).merge (far.relocateBy f) = far.relocateBy f := by
    rw [h near far hm hn, merge_of_offset_lt (a := near) (b := far) hmn]
  have hmax : max (f m) (f n) = f n := by
    have hoffset := congrArg offset hmoved
    rwa [offset_merge] at hoffset
  have hne : f m ≠ f n := by
    intro heq
    rw [merge_of_offset_eq (a := near.relocateBy f) (b := far.relocateBy f) heq] at hmoved
    have hlength : 2 = 1 := congrArg (fun e => e.complaints.length) hmoved
    cases hlength
  omega

/-- Moving errors commutes with merging two of them, and with merging any number of them, exactly if
it is strictly increasing on the offsets that they may have. These may be all offsets, or those that
are counts before and after the move. -/
theorem relocateBy_commutes_iff_strictMonoOn (f : Nat → Nat) (offsets : Set Nat) :
    (StrictMonoOn f offsets ↔
      ∀ a b : ParseError τ ε, a.offset ∈ offsets → b.offset ∈ offsets →
        (a.relocateBy f).merge (b.relocateBy f) = (a.merge b).relocateBy f) ∧
    (StrictMonoOn f offsets ↔
      ∀ es : List (ParseError τ ε), (∀ e ∈ es, e.offset ∈ offsets) →
        mergeAll (es.map (relocateBy f)) = (mergeAll es).map (relocateBy f)) := by
  refine ⟨⟨?_, strictMonoOn_of_relocateBy_merge⟩, ⟨?_, ?_⟩⟩
  · intro hf a b ha hb
    exact relocateBy_merge hf ha hb
  · intro hf es hes
    exact mergeAll_map_relocateBy hf hes
  · intro h
    apply strictMonoOn_of_relocateBy_merge (τ := τ) (ε := ε)
    intro a b ha hb
    have hpair : some ((a.relocateBy f).merge (b.relocateBy f)) = some ((a.merge b).relocateBy f) :=
      h [a, b] (by simp [ha, hb])
    exact Option.some.inj hpair

/-- A move that is in order on the first eight offsets, and only there. -/
theorem relocateBy_commutes_iff_strictMonoOn_eight :
    let f : Nat → Nat := fun n => if n < 8 then n + 100 else 0
    let es : List (ParseError Char String) :=
      [.mismatch 5 none [.label "a"], .fail 2 "short", .mismatch 5 (some .endOfInput) [.label "b"]]
    StrictMonoOn f {n | n < 8} ∧ (∀ e ∈ es, e.offset ∈ {n | n < 8}) ∧
      mergeAll (es.map (relocateBy f)) = (mergeAll es).map (relocateBy f) ∧
      (mergeAll es).map (relocateBy f) =
        some (.trivial 105 (some .endOfInput) ⟨[.label "a", .label "b"]⟩) := by
  intro f es
  have hf : StrictMonoOn f {n | n < 8} := by
    intro m (hm : m < 8) n (hn : n < 8) hmn
    simp only [f, hm, hn, if_true]
    omega
  have hes : ∀ e ∈ es, e.offset ∈ {n | n < 8} := by
    simp [es, mismatch, fail, complain, offset]
  exact ⟨hf, hes, (relocateBy_commutes_iff_strictMonoOn f _).2.1 hf es hes, rfl⟩

end ParseError

end Pinpoint
