import Pinpoint.Count
import Pinpoint.Stream.Chunks
import Pinpoint.Stream.Lists

/-! Chunks are windows that stay inside their buffer. No check on the way to one fails, and a stream
over chunks answers as the stream over the lists of their tokens does. -/

namespace Pinpoint

/-- Calls of a test with state, one after another, each with its answer. -/
inductive Asked {τ σ : Type} (p : τ → StateM σ Bool) : σ → List (τ × Bool) → σ → Prop
  | none (x : σ) : Asked p x [] x
  | call {t : τ} {answer : Bool} {calls : List (τ × Bool)} {x y z : σ}
      (h : (p t).run x = (answer, y)) (hs : Asked p y calls z) :
      Asked p x ((t, answer) :: calls) z

/-- The calls of a test that passes `n` tokens: on those, and on the next one, which it refuses, if
there is one. -/
def callsUpTo {τ : Type} (n : Nat) (ts : List τ) : List (τ × Bool) :=
  (ts.take n).map (·, true) ++ (ts[n]?.map (·, false)).toList

theorem countWhileM_of_refused {τ σ : Type} {p : τ → StateM σ Bool} {t : τ} {x y : σ}
    (h : (p t).run x = (false, y)) (ts : List τ) :
    (countWhileM p (t :: ts)).run x = (0, y) := by
  rw [countWhileM, StateT.run_bind, h]
  rfl

theorem countWhileM_of_passed {τ σ : Type} {p : τ → StateM σ Bool} {t : τ} {x y z : σ}
    {ts : List τ} {n : Nat} (h : (p t).run x = (true, y)) (hs : (countWhileM p ts).run y = (n, z)) :
    (countWhileM p (t :: ts)).run x = (n + 1, z) := by
  have hn : ((countWhileM p ts).run y).1 + 1 = n + 1 := by rw [hs]
  have hz : ((countWhileM p ts).run y).2 = z := by rw [hs]
  rw [countWhileM, StateT.run_bind, h]
  exact Prod.ext hn hz

theorem asked_countWhileM {τ σ : Type} (p : τ → StateM σ Bool) (ts : List τ) (x : σ) :
    ∃ n y, (countWhileM p ts).run x = (n, y) ∧ n ≤ ts.length ∧ Asked p x (callsUpTo n ts) y := by
  induction ts generalizing x with
  | nil => exact ⟨0, x, rfl, Nat.le_refl 0, .none x⟩
  | cons t ts ih =>
    rcases ht : (p t).run x with ⟨answer, y⟩
    cases answer with
    | false => exact ⟨0, y, countWhileM_of_refused ht ts, Nat.zero_le _, .call ht (.none y)⟩
    | true =>
      obtain ⟨n, z, hrun, hle, hasked⟩ := ih y
      exact ⟨n + 1, z, countWhileM_of_passed ht hrun, Nat.succ_le_succ hle, .call ht hasked⟩

namespace Chunk

variable {τ σ : Type} {c c' : Chunk τ} {buffer : Array τ} {start stop n : Nat}

theorem ofRange_eq_ok_iff : ofRange buffer start stop = .ok c ↔ start ≤ stop ∧ stop ≤ buffer.size ∧
    c.buffer = buffer ∧ c.start = start ∧ c.stop = stop := by
  unfold ofRange
  constructor
  · intro h
    split at h
    · next h₁ =>
      split at h
      · next h₂ =>
        cases h
        exact ⟨h₁, h₂, rfl, rfl, rfl⟩
      · cases h
    · cases h
  · rintro ⟨h₁, h₂, rfl, rfl, rfl⟩
    rw [dif_pos h₁, dif_pos h₂]

/-- What could stop an operation on a chunk: a count that does not fit, or a range that is no
window. -/
inductive Fault where
  | count (x : Overflow)
  | range (x : RangeFault)

/-! The operations with every check that they make. -/

namespace Guarded

def size (c : Chunk τ) : Except Fault Nat := (Count.sub c.stop c.start).mapError .count

def toList (c : Chunk τ) : Except Fault (List τ) := do
  let window ← (ofRange c.buffer c.start c.stop).mapError .range
  return window.toList

def splitAt (n : Nat) (c : Chunk τ) : Except Fault (Chunk τ × Chunk τ) := do
  let size ← size c
  let middle ← (Count.add c.start (min n size)).mapError .count
  let front ← (ofRange c.buffer c.start middle).mapError .range
  let back ← (ofRange c.buffer middle c.stop).mapError .range
  return (front, back)

def next? (c : Chunk τ) : Except Fault (Option (τ × Chunk τ)) := do
  match ← toList c with
  | [] => return none
  | t :: _ =>
    let parts ← splitAt 1 c
    return some (t, parts.2)

def read (n : Nat) (c : Chunk τ) : Except Fault (Option (Chunk τ × Chunk τ)) :=
  if n = 0 then return some (.empty, c)
  else do
    let size ← size c
    if size = 0 then return none
    else return some (← splitAt n c)

def spanM (p : τ → StateM σ Bool) (c : Chunk τ) : StateM σ (Except Fault (Chunk τ × Chunk τ)) :=
  match toList c with
  | .error x => return .error x
  | .ok ts => do
    let n ← countWhileM p ts
    return splitAt n c

theorem size_eq (c : Chunk τ) : size c = .ok c.size := by
  have hsub : Count.sub c.stop c.start = .ok c.size :=
    Count.sub_eq_ok_iff.2 (Nat.add_sub_cancel' c.start_le_stop)
  rw [size, hsub]
  rfl

theorem toList_eq (c : Chunk τ) : toList c = .ok c.toList := by
  have hrange : ofRange c.buffer c.start c.stop = .ok c :=
    ofRange_eq_ok_iff.2 ⟨c.start_le_stop, c.stop_le_size, rfl, rfl, rfl⟩
  rw [toList, hrange]
  rfl

/-- The cut lies inside the window, so it is a count if the buffer can be counted, and both sides of
it are windows. -/
theorem splitAt_eq (h : c.buffer.size < Count.limit) (n : Nat) :
    splitAt n c = .ok (c.splitAt n) := by
  have hstop := c.stop_le_size
  have hmiddle : c.start + min n c.size ≤ c.stop := (c.splitAt n).2.start_le_stop
  have hadd : Count.add c.start (min n c.size) = .ok (c.start + min n c.size) :=
    Count.add_eq_ok_iff.2 ⟨rfl, by omega⟩
  have hfront : ofRange c.buffer c.start (c.start + min n c.size) = .ok (c.splitAt n).1 :=
    ofRange_eq_ok_iff.2 ⟨Nat.le_add_right .., by omega, rfl, rfl, rfl⟩
  have hback : ofRange c.buffer (c.start + min n c.size) c.stop = .ok (c.splitAt n).2 :=
    ofRange_eq_ok_iff.2 ⟨hmiddle, hstop, rfl, rfl, rfl⟩
  unfold splitAt
  rw [size_eq]
  show ((Count.add c.start (min n c.size)).mapError Fault.count >>= _) = _
  rw [hadd]
  show ((ofRange c.buffer c.start (c.start + min n c.size)).mapError Fault.range >>= _) = _
  rw [hfront]
  show ((ofRange c.buffer (c.start + min n c.size) c.stop).mapError Fault.range >>= _) = _
  rw [hback]
  rfl

theorem next?_eq (S : ChunkStream τ) (h : c.buffer.size < Count.limit) :
    next? c = .ok (S.stream.next? c) := by
  unfold next?
  rw [toList_eq, splitAt_eq h]
  cases hc : c.toList with
  | nil =>
    rw [(S.next?_eq_none_iff c).2 hc]
    rfl
  | cons t ts =>
    have hhead : c.get? 0 = some t := by rw [← getElem?_toList, hc, List.getElem?_cons_zero]
    show Except.ok (some (t, (c.splitAt 1).2)) = Except.ok ((c.get? 0).map _)
    rw [hhead]
    rfl

theorem read_eq (S : ChunkStream τ) (h : c.buffer.size < Count.limit) (n : Nat) :
    read n c = .ok (S.stream.read n c) := by
  unfold read
  rw [size_eq, splitAt_eq h]
  show _ = Except.ok (if n = 0 then some (.empty, c) else if c.isEmpty then none
    else some (c.splitAt n))
  by_cases hn : n = 0
  · rw [if_pos hn, if_pos hn]
    rfl
  · rw [if_neg hn, if_neg hn]
    show (if c.size = 0 then Except.ok none else Except.ok (some (c.splitAt n))) = _
    have hempty : c.isEmpty = true ↔ c.size = 0 := beq_iff_eq
    by_cases hc : c.size = 0
    · rw [if_pos hc, if_pos (hempty.2 hc)]
    · rw [if_neg hc, if_neg fun he => hc (hempty.1 he)]

theorem spanM_eq (S : ChunkStream τ) (h : c.buffer.size < Count.limit) (p : τ → StateM σ Bool) :
    spanM p c = Except.ok <$> S.stream.spanM p c := by
  have hsplit : (fun n => splitAt n c) = fun n => Except.ok (c.splitAt n) :=
    funext (splitAt_eq h)
  unfold spanM
  rw [toList_eq]
  show (countWhileM p c.toList >>= fun n => pure ((fun n => splitAt n c) n)) = _
  rw [hsplit]
  rfl

end Guarded

/-- No check fails: each operation with its checks gives what the operation gives. -/
structure Unfaulted (S : ChunkStream τ) (c : Chunk τ) : Prop where
  length : Guarded.size c = .ok (S.stream.length c)
  toList : Guarded.toList c = .ok (S.stream.toList c)
  splitAt (n : Nat) : Guarded.splitAt n c = .ok (c.splitAt n)
  next? : Guarded.next? c = .ok (S.stream.next? c)
  read (n : Nat) : Guarded.read n c = .ok (S.stream.read n c)
  spanM {σ : Type} (p : τ → StateM σ Bool) : Guarded.spanM p c = Except.ok <$> S.stream.spanM p c

theorem unfaulted_of_size_lt (S : ChunkStream τ) (h : c.buffer.size < Count.limit) :
    Unfaulted S c where
  length := Guarded.size_eq c
  toList := Guarded.toList_eq c
  splitAt := Guarded.splitAt_eq h
  next? := Guarded.next?_eq S h
  read := Guarded.read_eq S h
  spanM := Guarded.spanM_eq S h

/-- The chunks that can be had from buffers whose tokens can be counted: whole buffers, ranges of
them that are windows, and the parts that the operations cut from such chunks. -/
inductive Made (S : ChunkStream τ) : Chunk τ → Prop
  | ofArray {buffer : Array τ} (h : buffer.size < Count.limit) : Made S (ofArray buffer)
  | ofList {ts : List τ} (h : ts.length < Count.limit) : Made S (ofList ts)
  | empty : Made S empty
  | ofRange {buffer : Array τ} {start stop : Nat} {c : Chunk τ} (h : buffer.size < Count.limit)
      (hc : ofRange buffer start stop = .ok c) : Made S c
  | splitAt {c c' : Chunk τ} {n : Nat} (h : Made S c)
      (hc : c' = (c.splitAt n).1 ∨ c' = (c.splitAt n).2) : Made S c'
  | next {c rest : Chunk τ} {t : τ} (h : Made S c) (hc : S.stream.next? c = some (t, rest)) :
      Made S rest
  | read {c taken rest c' : Chunk τ} {n : Nat} (h : Made S c)
      (hc : S.stream.read n c = some (taken, rest)) (hp : c' = taken ∨ c' = rest) : Made S c'
  | span {c taken rest c' : Chunk τ} {σ : Type} {p : τ → StateM σ Bool} {x y : σ} (h : Made S c)
      (hc : (S.stream.spanM p c).run x = ((taken, rest), y)) (hp : c' = taken ∨ c' = rest) :
      Made S c'

theorem rest_of_next? {S : ChunkStream τ} {t : τ} (h : S.stream.next? c = some (t, c')) :
    c' = (c.splitAt 1).2 := by
  obtain ⟨_, _, hpair⟩ := Option.map_eq_some_iff.1 h
  exact (congrArg Prod.snd hpair).symm

theorem parts_of_read {S : ChunkStream τ} {taken rest : Chunk τ}
    (h : S.stream.read n c = some (taken, rest)) :
    (taken, rest) = (.empty, c) ∨ (taken, rest) = c.splitAt n := by
  rcases S.read_answers n c with ⟨hread, -⟩ | ⟨hread, -⟩ | hread
  · rw [hread] at h
    cases h
  · exact Or.inl (Option.some.inj (h.symm.trans hread))
  · exact Or.inr (Option.some.inj (h.symm.trans hread))

theorem buffer_of_splitAt (h : c' = (c.splitAt n).1 ∨ c' = (c.splitAt n).2) :
    c'.buffer = c.buffer := by
  rcases h with rfl | rfl
  · rfl
  · rfl

/-- The parts of a chunk look onto its buffer, but for an empty one, which may have its own. -/
theorem Made.size_lt {S : ChunkStream τ} (h : Made S c) : c.buffer.size < Count.limit := by
  induction h with
  | ofArray h => exact h
  | ofList h => exact h
  | empty => exact show 0 < Count.limit by decide
  | ofRange h hc =>
    obtain ⟨-, -, hbuffer, -, -⟩ := ofRange_eq_ok_iff.1 hc
    rw [hbuffer]
    exact h
  | splitAt _ hc ih =>
    rw [buffer_of_splitAt hc]
    exact ih
  | next _ hc ih =>
    rw [rest_of_next? hc]
    exact ih
  | read _ hc hp ih =>
    rcases parts_of_read hc with hparts | hparts
    · obtain ⟨rfl, rfl⟩ := Prod.mk.inj hparts
      rcases hp with rfl | rfl
      · exact show 0 < Count.limit by decide
      · exact ih
    · obtain ⟨rfl, rfl⟩ := Prod.mk.inj hparts
      rw [buffer_of_splitAt hp]
      exact ih
  | span _ hc hp ih =>
    obtain ⟨rfl, rfl⟩ := Prod.mk.inj (congrArg Prod.fst hc).symm
    rw [buffer_of_splitAt hp]
    exact ih

end Chunk

namespace TokenStream

variable {τ κ κ' : Type}

/-- What `S` answers on a chunk, seen through `view`, is what `T` answers on the chunk's view. -/
structure Simulates (S : TokenStream τ κ) (T : TokenStream τ κ') (view : κ → κ') : Prop where
  ofList (ts : List τ) : view (S.ofList ts) = T.ofList ts
  toList (c : κ) : S.toList c = T.toList (view c)
  length (c : κ) : S.length c = T.length (view c)
  next? (c : κ) : (S.next? c).map (Prod.map id view) = T.next? (view c)
  read (n : Nat) (c : κ) : (S.read n c).map (Prod.map view view) = T.read n (view c)
  spanM {σ : Type} (p : τ → StateM σ Bool) (c : κ) :
    Prod.map view view <$> S.spanM p c = T.spanM p (view c)
  compareTokens (t u : τ) : S.compareTokens t u = T.compareTokens t u
  compareChunks (c d : κ) : S.compareChunks c d = T.compareChunks (view c) (view d)

/-- No operation tells the two chunks apart, neither by its answer nor by the view of a part. -/
structure Alike (S : TokenStream τ κ) (view : κ → κ') (c d : κ) : Prop where
  toList : S.toList c = S.toList d
  length : S.length c = S.length d
  next? : (S.next? c).map (Prod.map id view) = (S.next? d).map (Prod.map id view)
  read (n : Nat) : (S.read n c).map (Prod.map view view) = (S.read n d).map (Prod.map view view)
  spanM {σ : Type} (p : τ → StateM σ Bool) :
    Prod.map view view <$> S.spanM p c = Prod.map view view <$> S.spanM p d
  compareChunks (e : κ) : S.compareChunks c e = S.compareChunks d e ∧
    S.compareChunks e c = S.compareChunks e d

theorem Simulates.alike {S : TokenStream τ κ} {T : TokenStream τ κ'} {view : κ → κ'} {c d : κ}
    (h : S.Simulates T view) (hcd : view c = view d) : S.Alike view c d := by
  constructor
  · rw [h.toList, h.toList, hcd]
  · rw [h.length, h.length, hcd]
  · rw [h.next?, h.next?, hcd]
  · intro n
    rw [h.read, h.read, hcd]
  · intro σ p
    rw [h.spanM, h.spanM, hcd]
  · intro e
    rw [h.compareChunks, h.compareChunks, h.compareChunks, h.compareChunks, hcd]
    exact ⟨rfl, rfl⟩

end TokenStream

namespace ChunkStream

open Chunk

variable {τ : Type} {S : ChunkStream τ} {c : Chunk τ} {n : Nat}

theorem read_of_nil (hn : 0 < n) (hc : c.toList = []) : S.stream.read n c = none := by
  have hempty := (isEmpty_iff c).2 hc
  show (if n = 0 then _ else if c.isEmpty then none else _) = _
  rw [if_neg (by omega), if_pos hempty]

theorem read_of_ne_nil (hn : 0 < n) (hc : c.toList ≠ []) :
    S.stream.read n c = some (c.splitAt n) := by
  have hempty : ¬ c.isEmpty = true := fun h => hc ((isEmpty_iff c).1 h)
  show (if n = 0 then _ else if c.isEmpty then none else some (c.splitAt n)) = _
  rw [if_neg (by omega), if_neg hempty]

theorem map_toList_splitAt (c : Chunk τ) (n : Nat) :
    Prod.map toList toList (c.splitAt n) = (c.toList.take n, c.toList.drop n) :=
  Prod.ext (toList_splitAt_fst c n) (toList_splitAt_snd c n)

theorem simulates_lists (S : ChunkStream τ) :
    S.stream.Simulates (.lists S.comparator) Chunk.toList where
  ofList := toList_ofList
  toList _ := rfl
  length c := (length_toList c).symm
  next? c := by
    cases hn : S.stream.next? c with
    | none =>
      rw [(S.next?_eq_none_iff c).1 hn]
      rfl
    | some pair =>
      obtain ⟨t, rest⟩ := pair
      rw [toList_of_next? hn]
      rfl
  read n c := by
    rcases Nat.eq_zero_or_pos n with rfl | hn
    · rfl
    · show _ = if n = 0 then _ else if c.toList.isEmpty then none else
        some (c.toList.take n, c.toList.drop n)
      rw [if_neg (by omega)]
      by_cases hc : c.toList = []
      · rw [read_of_nil hn hc, hc]
        rfl
      · rw [read_of_ne_nil hn hc, if_neg (by simpa using hc), Option.map_some, map_toList_splitAt]
  spanM p c := by
    show Prod.map toList toList <$> (countWhileM p c.toList >>= fun n => pure (c.splitAt n)) =
      countWhileM p c.toList >>= fun n => pure (c.toList.take n, c.toList.drop n)
    simp only [map_bind, map_pure, map_toList_splitAt]
  compareTokens _ _ := rfl
  compareChunks _ _ := rfl

/-- The answers of a stream on a chunk that shows the tokens `l`. -/
structure AnswersAs (S : ChunkStream τ) (c : Chunk τ) (l : List τ) : Prop where
  toList : S.stream.toList c = l
  length : S.stream.length c = l.length
  splitAt (n : Nat) : (c.splitAt n).1.toList = l.take n ∧ (c.splitAt n).2.toList = l.drop n
  next_eq_none_iff : S.stream.next? c = none ↔ l = []
  next_some {t : τ} {rest : Chunk τ} (h : S.stream.next? c = some (t, rest)) : l = t :: rest.toList
  read_zero : ∃ taken rest, S.stream.read 0 c = some (taken, rest) ∧ taken.toList = [] ∧
    rest.toList = l
  read_eq_none_iff {n : Nat} (hn : 0 < n) : S.stream.read n c = none ↔ l = []
  read_some {n : Nat} {taken rest : Chunk τ} (hn : 0 < n)
    (h : S.stream.read n c = some (taken, rest)) : taken.toList = l.take n ∧ rest.toList = l.drop n
  spanM {σ : Type} (p : τ → StateM σ Bool) (x : σ) : ∃ n ≤ l.length, ∃ taken rest y,
    (S.stream.spanM p c).run x = ((taken, rest), y) ∧ taken.toList = l.take n ∧
    rest.toList = l.drop n ∧ Asked p x (callsUpTo n l) y

theorem answersAs_toList (S : ChunkStream τ) (c : Chunk τ) : AnswersAs S c c.toList where
  toList := rfl
  length := (length_toList c).symm
  splitAt n := ⟨toList_splitAt_fst c n, toList_splitAt_snd c n⟩
  next_eq_none_iff := S.next?_eq_none_iff c
  next_some h := toList_of_next? h
  read_zero := ⟨.empty, c, rfl, rfl, rfl⟩
  read_eq_none_iff {n} hn := by
    refine ⟨fun h => ?_, read_of_nil hn⟩
    by_cases hc : c.toList = []
    · exact hc
    · rw [read_of_ne_nil hn hc] at h
      cases h
  read_some _ h := ChunkStream.toList_of_read h
  spanM p x := by
    obtain ⟨n, y, hrun, hle, hasked⟩ := asked_countWhileM p c.toList x
    refine ⟨n, hle, (c.splitAt n).1, (c.splitAt n).2, y, ?_, toList_splitAt_fst c n,
      toList_splitAt_snd c n, hasked⟩
    show (countWhileM p c.toList >>= fun n => pure (c.splitAt n)).run x = _
    rw [StateT.run_bind, hrun]
    rfl

/-- Every chunk that can be had is a window of its buffer, and no check on the way to its parts
fails. Its tokens are what the window shows, and a stream answers on it as on the list of them. A
test is asked of the tokens in order until it refuses one. Chunks of the same tokens cannot be told
apart, whatever buffers they look onto. -/
theorem stream_simulates_lists (S : ChunkStream τ) :
    (∀ c, Made S c → c.start ≤ c.stop ∧ c.stop ≤ c.buffer.size ∧ Unfaulted S c) ∧
    (∀ c : Chunk τ, AnswersAs S c ((c.buffer.toList.drop c.start).take (c.stop - c.start))) ∧
    (∀ ts, S.stream.toList (S.stream.ofList ts) = ts) ∧
    S.stream.Simulates (.lists S.comparator) Chunk.toList ∧
    ∀ c d : Chunk τ, c.toList = d.toList → S.stream.Alike Chunk.toList c d ∧
      ∀ n, Prod.map toList toList (c.splitAt n) = Prod.map toList toList (d.splitAt n) := by
  refine ⟨?_, ?_, toList_ofList, S.simulates_lists, ?_⟩
  · intro c hc
    exact ⟨c.start_le_stop, c.stop_le_size, unfaulted_of_size_lt S hc.size_lt⟩
  · intro c
    have hanswers := S.answersAs_toList c
    rwa [Chunk.toList_eq] at hanswers
  · intro c d hcd
    refine ⟨S.simulates_lists.alike hcd, fun n => ?_⟩
    rw [map_toList_splitAt, map_toList_splitAt, hcd]

/-- The end of a range of a buffer, cut as far off as a count goes, beside a chunk with a buffer of
its own. A test that passes one token is asked of two. -/
theorem stream_simulates_lists_range :
    let S := ChunkStream.natural (τ := Nat)
    let window : Chunk Nat := ⟨#[9, 1, 2, 3, 4, 9], 1, 5, by decide, by decide⟩
    let c := (window.splitAt 1).2
    let once : Nat → StateM Nat Bool := fun _ left => (left != 0, left - 1)
    Made S c ∧ c.start ≤ c.stop ∧ c.stop ≤ c.buffer.size ∧
      Guarded.splitAt (Count.limit - 1) c = .ok (c.splitAt (Count.limit - 1)) ∧
      (∃ n ≤ 3, ∃ taken rest y, (S.stream.spanM once c).run 1 = ((taken, rest), y) ∧
        taken.toList = [2, 3, 4].take n ∧ rest.toList = [2, 3, 4].drop n ∧
        Asked once 1 (callsUpTo n [2, 3, 4]) y) ∧
      S.stream.Alike Chunk.toList c (.ofList [2, 3, 4]) := by
  intro S window c once
  have hrange : Chunk.ofRange window.buffer 1 5 = .ok window := rfl
  have hmade : Made S c := .splitAt (.ofRange (by decide) hrange) (Or.inr rfl)
  have hsame : c.toList = (Chunk.ofList [2, 3, 4]).toList := rfl
  obtain ⟨hwindows, hanswers, -, -, halike⟩ := stream_simulates_lists S
  obtain ⟨hstart, hstop, hunfaulted⟩ := hwindows c hmade
  exact ⟨hmade, hstart, hstop, hunfaulted.splitAt _, (hanswers c).spanM once 1,
    (halike c _ hsame).1⟩

end ChunkStream

end Pinpoint
