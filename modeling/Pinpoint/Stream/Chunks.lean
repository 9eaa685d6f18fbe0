import Pinpoint.Chunk
import Pinpoint.Order.Lexicographic
import Pinpoint.Stream.Basic

/-! Input in memory, read through chunks of one shared buffer. -/

namespace Pinpoint

/-- A stream over chunks, with its tokens ordered by a comparator of the user's choice. -/
structure ChunkStream (τ : Type) where
  comparator : Comparator τ

namespace ChunkStream

variable {τ : Type}

def natural [Ord τ] : ChunkStream τ := ⟨.natural⟩

def stream (s : ChunkStream τ) : TokenStream τ (Chunk τ) where
  ofList := Chunk.ofList
  toList := Chunk.toList
  length := Chunk.size
  next? c := (c.get? 0).map fun t => (t, (c.splitAt 1).2)
  read n c :=
    if n = 0 then some (.empty, c)
    else if c.isEmpty then none
    else some (c.splitAt n)
  spanM p c := do
    let n ← countWhileM p c.toList
    return c.splitAt n
  compareTokens := s.comparator.compare
  compareChunks a b := compareLists s.comparator.compare a.toList b.toList

@[simp] theorem toList_stream (s : ChunkStream τ) : s.stream.toList = Chunk.toList := rfl

@[simp] theorem length_stream (s : ChunkStream τ) : s.stream.length = Chunk.size := rfl

instance : Inspect (ChunkStream τ) := ⟨fun s => Inspect.record "ArrayStream"
  [("comparator", inspect s.comparator)]⟩

theorem next?_eq_none_iff (s : ChunkStream τ) (c : Chunk τ) :
    s.stream.next? c = none ↔ c.toList = [] := by
  rw [← Chunk.isEmpty_iff]
  simp [stream, ← Chunk.getElem?_toList, Chunk.isEmpty]

/-- A token taken off the front is the head of the chunk, and what follows it is the tail. -/
theorem toList_of_next? {s : ChunkStream τ} {c rest : Chunk τ} {t : τ}
    (h : s.stream.next? c = some (t, rest)) : c.toList = t :: rest.toList := by
  simp only [stream, ← Chunk.getElem?_toList, Option.map_eq_some_iff, Prod.mk.injEq] at h
  obtain ⟨t, ht, rfl, rfl⟩ := h
  cases hc : c.toList with
  | nil => simp [hc] at ht
  | cons u us =>
    have hu : u = t := by simpa [hc] using ht
    simp [hc, hu]

theorem span_eq (s : ChunkStream τ) (p : τ → Bool) (c : Chunk τ) :
    s.stream.span p c = c.splitAt (c.toList.takeWhile p).length := by
  simp only [TokenStream.span, stream, StateT.run_bind, countWhileM_pure]
  rfl

/-- The three answers to a read: there is nothing left, nothing was asked for, or the chunk is cut. -/
theorem read_answers (s : ChunkStream τ) (n : Nat) (c : Chunk τ) :
    (s.stream.read n c = none ∧ c.toList = []) ∨
      (s.stream.read n c = some (.empty, c) ∧ n = 0) ∨ s.stream.read n c = some (c.splitAt n) := by
  simp only [stream]
  split
  · next hn => exact Or.inr (Or.inl ⟨rfl, hn⟩)
  · split
    · next he => exact Or.inl ⟨rfl, (Chunk.isEmpty_iff c).1 he⟩
    · exact Or.inr (Or.inr rfl)

/-- A read either finds the chunk empty or comes to a cut of it. -/
theorem read_cases (s : ChunkStream τ) (n : Nat) (c : Chunk τ) :
    (s.stream.read n c = none ∧ c.toList = []) ∨
      ∃ taken, s.stream.read n c = some (taken, (c.splitAt n).2) ∧
        taken.toList = c.toList.take n := by
  rcases s.read_answers n c with hnone | ⟨hread, rfl⟩ | hread
  · exact Or.inl hnone
  · exact Or.inr ⟨.empty, by rw [hread, Chunk.splitAt_zero_snd], by simp⟩
  · exact Or.inr ⟨(c.splitAt n).1, hread, Chunk.toList_splitAt_fst c n⟩

theorem toList_of_read {s : ChunkStream τ} {n : Nat} {c taken rest : Chunk τ}
    (h : s.stream.read n c = some (taken, rest)) :
    taken.toList = c.toList.take n ∧ rest.toList = c.toList.drop n := by
  rcases s.read_cases n c with ⟨hnone, -⟩ | ⟨_, hread, htaken⟩
  · rw [hnone] at h
    cases h
  · obtain ⟨rfl, rfl⟩ : _ = taken ∧ _ = rest := by simpa [hread] using h
    exact ⟨htaken, Chunk.toList_splitAt_snd c n⟩

theorem faithful_stream (s : ChunkStream τ) : s.stream.Faithful where
  length_eq c := (Chunk.length_toList c).symm
  append_of_read {n c taken rest} h := by
    obtain ⟨htaken, hrest⟩ := toList_of_read h
    rw [toList_stream, htaken, hrest, List.take_append_drop]
  length_le_of_read {n c taken rest} h := by
    obtain ⟨htaken, -⟩ := toList_of_read h
    rw [toList_stream, htaken, List.length_take]
    exact Nat.min_le_left ..

end ChunkStream

end Pinpoint
