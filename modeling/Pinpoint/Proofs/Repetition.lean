import Mathlib.Data.List.TakeWhile
import Pinpoint.Proofs.Alternatives
import Pinpoint.Proofs.Ledger

/-! Reading while a test passes is asking for one token that passes it, over and over until none
does. -/

namespace Pinpoint

theorem ChunkStream.next?_of_cons {τ : Type} (S : ChunkStream τ) {c : Chunk τ} {t : τ}
    {ts : List τ} (h : c.toList = t :: ts) : S.stream.next? c = some (t, (c.splitAt 1).2) := by
  have hget : c.get? 0 = some t := by rw [← Chunk.getElem?_toList, h]; rfl
  show (c.get? 0).map _ = _
  rw [hget]
  rfl

namespace Chunk

variable {τ : Type} {c taken : Chunk τ} {n : Nat}

theorem size_of_toList_take (h : taken.toList = c.toList.take n) (hn : n ≤ c.size) :
    taken.size = n := by
  rw [← length_toList, h, List.length_take, length_toList, Nat.min_eq_left hn]

theorem length_takeWhile_le (p : τ → Bool) (c : Chunk τ) :
    (c.toList.takeWhile p).length ≤ c.size := by
  rw [← length_toList]
  exact (List.takeWhile_prefix p).length_le

end Chunk

/-- The first token that does not pass a test, or the end of the input if there is none. -/
def Fragment.firstRefused {τ : Type} (p : τ → Bool) (ts : List τ) : Fragment τ :=
  (ts.find? fun t => !p t).elim .endOfInput .token

theorem Fragment.firstRefused_eq_endOfInput_iff {τ : Type} {p : τ → Bool} {ts : List τ} :
    firstRefused p ts = .endOfInput ↔ ts.takeWhile p = ts := by
  have hall : (ts.find? fun t => !p t) = none ↔ ts.takeWhile p = ts := by
    simp [List.find?_eq_none, List.takeWhile_eq_self_iff]
  rw [← hall, firstRefused]
  cases ts.find? fun t => !p t with
  | none => simp
  | some t => simp [token]

theorem Fragment.firstRefused_of_refused {τ : Type} {p : τ → Bool} {ts : List τ}
    (h : ∀ t ∈ ts.head?, p t = false) : firstRefused p ts = atFront ts := by
  cases ts with
  | nil => rfl
  | cons t ts =>
    have hp : p t = false := h t rfl
    simp [firstRefused, atFront, hp]

namespace ParseState

section Loop

variable {τ κ ε : Type} [BEq τ]

/-- The loop that asks for one more token until it is refused one: from the first state it collects
the tokens, and it ends in the last state with the error. -/
inductive Repeats (S : TokenStream τ κ) (p : τ → Bool) (expected : List (Fragment τ)) :
    ParseState τ κ ε → List τ → ParseState τ κ ε → ParseError τ ε → Prop
  | stop {s : ParseState τ κ ε} {e : ParseError τ ε}
      (h : s.satisfy S p expected = .ok (.error e)) : Repeats S p expected s [] s e
  | again {s s' last : ParseState τ κ ε} {t : τ} {ts : List τ} {e : ParseError τ ε}
      (h : s.satisfy S p expected = .ok (.ok (t, s'))) (hrest : Repeats S p expected s' ts last e) :
      Repeats S p expected s (t :: ts) last e

/-- The loop has no choice, so it ends in one way if it ends. -/
theorem Repeats.unique {S : TokenStream τ κ} {p : τ → Bool} {expected : List (Fragment τ)}
    {s last last' : ParseState τ κ ε} {ts ts' : List τ} {e e' : ParseError τ ε}
    (h : Repeats S p expected s ts last e) (h' : Repeats S p expected s ts' last' e') :
    ts' = ts ∧ last' = last ∧ e' = e := by
  induction h generalizing ts' with
  | stop h =>
    cases h' with
    | stop h' =>
      rw [h] at h'
      cases h'
      exact ⟨rfl, rfl, rfl⟩
    | again h' _ =>
      rw [h] at h'
      cases h'
  | again h _ ih =>
    cases h' with
    | stop h' =>
      rw [h] at h'
      cases h'
    | again h' hrest' =>
      rw [h] at h'
      cases h'
      obtain ⟨rfl, rfl, rfl⟩ := ih hrest'
      exact ⟨rfl, rfl, rfl⟩

end Loop

variable {τ ε : Type} {S : ChunkStream τ} {s : ParseState τ (Chunk τ) ε} {n : Nat}

/-- The state that is `n` tokens further on. -/
def skip (n : Nat) (s : ParseState τ (Chunk τ) ε) : ParseState τ (Chunk τ) ε :=
  { s with input := (s.input.splitAt n).2, offset := s.offset + n }

@[simp] theorem offset_skip (n : Nat) (s : ParseState τ (Chunk τ) ε) :
    (s.skip n).offset = s.offset + n := rfl

@[simp] theorem toList_input_skip (n : Nat) (s : ParseState τ (Chunk τ) ε) :
    (s.skip n).input.toList = s.input.toList.drop n := Chunk.toList_splitAt_snd ..

theorem skip_zero (s : ParseState τ (Chunk τ) ε) : s.skip 0 = s := by
  rw [skip, Chunk.splitAt_zero_snd]
  rfl

theorem skip_skip (s : ParseState τ (Chunk τ) ε) (m n : Nat) :
    (s.skip m).skip n = s.skip (m + n) := by
  simp only [skip, Chunk.splitAt_splitAt_snd, Nat.add_assoc]

theorem advanceBy_eq_skip (hfit : s.offset + s.input.size < Count.limit) (hn : n ≤ s.input.size) :
    s.advanceBy n (s.input.splitAt n).2 = .ok (s.skip n) :=
  advanceBy_eq_ok_iff.2 ⟨by omega, rfl⟩

theorem exists_read_eq_skip (S : ChunkStream τ) (hfit : s.offset + s.input.size < Count.limit)
    (hn : n ≤ s.input.size) :
    ∃ taken, s.read S.stream n = .ok (some (taken, s.skip n)) ∧
      taken.toList = s.input.toList.take n := by
  have hread : ∃ taken, S.stream.read n s.input = some (taken, (s.input.splitAt n).2) ∧
      taken.toList = s.input.toList.take n := by
    rcases S.read_cases n s.input with ⟨hnone, hnil⟩ | hsome
    · -- A read for no tokens has an answer even at the end of the input.
      have hzero : n = 0 := by
        rw [← Chunk.length_toList, hnil] at hn
        exact Nat.le_zero.1 hn
      subst hzero
      cases hnone
    · exact hsome
  obtain ⟨taken, hread, htaken⟩ := hread
  have hsize : taken.size = n := Chunk.size_of_toList_take htaken hn
  refine ⟨taken, ?_, htaken⟩
  simp only [ParseState.read, hread, ChunkStream.length_stream, hsize, advanceBy_eq_skip hfit hn]
  rfl

theorem readWhile_eq_skip (S : ChunkStream τ) (hfit : s.offset + s.input.size < Count.limit)
    (p : τ → Bool) :
    let n := (s.input.toList.takeWhile p).length
    s.readWhile S.stream p = .ok ((s.input.splitAt n).1, s.skip n) := by
  intro n
  have hn : n ≤ s.input.size := Chunk.length_takeWhile_le p s.input
  have hsize : (s.input.splitAt n).1.size = n :=
    Chunk.size_of_toList_take (Chunk.toList_splitAt_fst s.input n) hn
  rw [readWhile_eq, ChunkStream.span_eq, ChunkStream.length_stream, hsize,
    advanceBy_eq_skip hfit hn]
  rfl

variable [BEq τ]

theorem satisfy_of_passed (S : ChunkStream τ) (hfit : s.offset + s.input.size < Count.limit)
    {p : τ → Bool} (expected : List (Fragment τ)) {t : τ} {ts : List τ}
    (h : s.input.toList = t :: ts) (hp : p t) :
    s.satisfy S.stream p expected = .ok (.ok (t, s.skip 1)) := by
  have hsize : 1 ≤ s.input.size := by
    rw [← Chunk.length_toList, h, List.length_cons]
    omega
  rw [satisfy_of_some p expected (S.next?_of_cons h), if_pos hp, advanceBy_eq_skip hfit hsize]
  rfl

theorem repeats_of_refused {p : τ → Bool} (expected : List (Fragment τ))
    (h : ∀ t ∈ s.input.toList.head?, p t = false) : Repeats S.stream p expected s [] (s.skip 0)
      (.mismatch (s.offset + 0) (some (.firstRefused p s.input.toList)) expected) := by
  rw [skip_zero, Nat.add_zero, Fragment.firstRefused_of_refused h]
  exact .stop (satisfy_of_refused expected h)

/-- The loop takes off the front of the input what a search for the longest run of passing tokens
finds there. -/
theorem repeats_takeWhile (S : ChunkStream τ) (hfit : s.offset + s.input.size < Count.limit)
    (p : τ → Bool) (expected : List (Fragment τ)) {ts : List τ} (hinput : s.input.toList = ts) :
    Repeats S.stream p expected s (ts.takeWhile p) (s.skip (ts.takeWhile p).length)
      (.mismatch (s.offset + (ts.takeWhile p).length) (some (.firstRefused p ts)) expected) := by
  induction ts generalizing s with
  | nil =>
    have hrefused : ∀ t ∈ s.input.toList.head?, p t = false := by simp [hinput]
    have hstop := repeats_of_refused (S := S) expected hrefused
    rwa [hinput] at hstop
  | cons t ts ih =>
    cases hp : p t with
    | false =>
      have hrefused : ∀ t ∈ s.input.toList.head?, p t = false := by simp [hinput, hp]
      rw [List.takeWhile_cons_of_neg (by simp [hp]), ← hinput]
      exact repeats_of_refused expected hrefused
    | true =>
      have hrest : (s.skip 1).input.toList = ts := by rw [toList_input_skip, hinput]; rfl
      have hfit' : (s.skip 1).offset + (s.skip 1).input.size < Count.limit := by
        rw [← Chunk.length_toList, hinput, List.length_cons] at hfit
        rw [offset_skip, ← Chunk.length_toList, hrest]
        omega
      have hfirst : Fragment.firstRefused p (t :: ts) = .firstRefused p ts := by
        simp [Fragment.firstRefused, hp]
      have hlater := ih hfit' hrest
      rw [skip_skip, offset_skip, Nat.add_assoc, Nat.add_comm 1] at hlater
      rw [List.takeWhile_cons_of_pos hp, List.length_cons, hfirst]
      exact .again (satisfy_of_passed S hfit expected hinput hp) hlater

variable [CharLike τ] {input : Chunk τ} {o : Origin} {es : List (Event τ ε)}

/-- In an input whose tokens can be counted, asking for one more token that passes until there is none
comes to an end, and in one way only: with the tokens and the state that reading while the test passes
gives at once. The error with which it ends is a mismatch at that state, over the first token that
does not pass or, exactly if all the input was read, over its end. To read as many tokens leads to the
same state. -/
theorem repeats_iff_readWhile (hsize : input.size < Count.limit)
    (hrun : Run S.stream Chunk.Remains (init input o) es s) (p : τ → Bool)
    (expected : List (Fragment τ)) :
    ∃ taken next, s.readWhile S.stream p = .ok (taken, next) ∧
      let found : Fragment τ := .firstRefused p s.input.toList
      (∀ ts last e, Repeats S.stream p expected s ts last e ↔
        ts = taken.toList ∧ last = next ∧
          e = .trivial next.offset (some found) (.ofList expected)) ∧
      (found = .endOfInput ↔ taken.toList = s.input.toList) ∧
      ∃ chunk, s.read S.stream taken.size = .ok (some (chunk, next)) ∧
        chunk.toList = taken.toList := by
  have hfit : s.offset + s.input.size < Count.limit := by rwa [offset_add_size_run hrun]
  let n := (s.input.toList.takeWhile p).length
  let taken := (s.input.splitAt n).1
  have hn : n ≤ s.input.size := Chunk.length_takeWhile_le p s.input
  have htake : taken.toList = s.input.toList.take n := Chunk.toList_splitAt_fst s.input n
  have htaken : taken.toList = s.input.toList.takeWhile p := by
    rw [htake]
    exact (List.prefix_iff_eq_take.1 (List.takeWhile_prefix p)).symm
  have hloop := repeats_takeWhile S hfit p expected rfl
  obtain ⟨chunk, hread, hchunk⟩ := exists_read_eq_skip S hfit hn
  refine ⟨taken, s.skip n, readWhile_eq_skip S hfit p, ?_, ?_, chunk, ?_, ?_⟩
  · intro ts last e
    rw [htaken]
    constructor
    · intro h
      exact hloop.unique h
    · rintro ⟨rfl, rfl, rfl⟩
      exact hloop
  · rw [htaken]
    exact Fragment.firstRefused_eq_endOfInput_iff
  · rw [Chunk.size_of_toList_take htake hn, hread]
  · rw [hchunk, htake]

/-- Two digits between letters, read from behind the first letter. -/
theorem repeats_iff_readWhile_digits :
    let S := ChunkStream.natural (τ := Char)
    let start : ParseState Char (Chunk Char) String := init (Chunk.ofString "x12y") (.named "f")
    let s := start.skip 1
    let next := start.skip 3
    let e : ParseError Char String := .trivial 3 (some (.token 'y')) ⟨[.label "digit"]⟩
    start.input.size < Count.limit ∧ (∃ es, Run S.stream Chunk.Remains start es s) ∧
      s.readWhile S.stream Char.isDigit = .ok ((s.input.splitAt 2).1, next) ∧
      Repeats S.stream Char.isDigit [.label "digit", .label "digit"] s ['1', '2'] next e ∧
      ∃ chunk, s.read S.stream 2 = .ok (some (chunk, next)) ∧ chunk.toList = ['1', '2'] := by
  intro S start s next e
  have hsize : start.input.size < Count.limit := by decide
  have hrun : Run S.stream Chunk.Remains start [.took ['x']] s := .step (.refl _) (.next rfl)
  have hdigits : s.readWhile S.stream Char.isDigit = .ok ((s.input.splitAt 2).1, next) := rfl
  obtain ⟨taken, next', hread, hloop, -, hskip⟩ :=
    repeats_iff_readWhile hsize hrun Char.isDigit [.label "digit", .label "digit"]
  rw [hdigits] at hread
  cases hread
  exact ⟨hsize, ⟨_, hrun⟩, hdigits, (hloop _ _ _).2 ⟨rfl, rfl, rfl⟩, hskip⟩

end ParseState

end Pinpoint
