import Pinpoint.Proofs.Replay

/-! The books of a run. What was handed out and what remains make up the input, the offset counts the
one, the errors put off are all kept, and the cached cursor stands where the last sync left it. -/

namespace Pinpoint

namespace Event

variable {τ ε : Type}

def tokens : Event τ ε → List τ
  | .took ts => ts
  | .deferred _ => []
  | .synced => []

def error? : Event τ ε → Option (ParseError τ ε)
  | .took _ => none
  | .deferred e => some e
  | .synced => none

/-- All tokens that were handed out, in order. -/
def handedOut (es : List (Event τ ε)) : List τ := es.flatMap tokens

/-- All errors that were put off, in order. -/
def putOff (es : List (Event τ ε)) : List (ParseError τ ε) := es.filterMap error?

@[simp] theorem handedOut_concat (es : List (Event τ ε)) (e : Event τ ε) :
    handedOut (es ++ [e]) = handedOut es ++ e.tokens := by
  simp [handedOut]

@[simp] theorem putOff_concat (es : List (Event τ ε)) (e : Event τ ε) :
    putOff (es ++ [e]) = putOff es ++ e.error?.toList := by
  rw [putOff, List.filterMap_append]
  cases e <;> rfl

end Event

namespace Chunk

variable {τ : Type}

/-- `rest` holds what remains of `c` after its first `n` tokens, in whatever buffer. -/
def Remains (c : Chunk τ) (n : Nat) (rest : Chunk τ) : Prop :=
  n ≤ c.size ∧ rest.toList = c.toList.drop n

end Chunk

theorem ChunkStream.append_of_spanM {τ σ : Type} {S : ChunkStream τ} {p : τ → StateM σ Bool}
    {c taken rest : Chunk τ} {x y : σ} (h : (S.stream.spanM p c).run x = ((taken, rest), y)) :
    taken.toList ++ rest.toList = c.toList := by
  let n := ((countWhileM p c.toList).run x).1
  have hcut : c.splitAt n = (taken, rest) := congrArg Prod.fst h
  have htaken := Chunk.toList_splitAt_fst c n
  have hrest := Chunk.toList_splitAt_snd c n
  rw [hcut] at htaken hrest
  rw [htaken, hrest, List.take_append_drop]

namespace ParseState

open Event

section AnyStream

variable {τ κ ε : Type} [CharLike τ] [BEq τ] {S : TokenStream τ κ} {Rest : κ → Nat → κ → Prop}
  {s₀ s s' : ParseState τ κ ε} {e : Event τ ε} {es : List (Event τ ε)} {d : Nat}

/-- The offset that the state had at the last sync of a run, and 0 if there was none. -/
inductive SyncedAt (S : TokenStream τ κ) (Rest : κ → Nat → κ → Prop) (s₀ : ParseState τ κ ε) :
    List (Event τ ε) → ParseState τ κ ε → Nat → Prop
  | never {es : List (Event τ ε)} {s : ParseState τ κ ε} (h : Run S Rest s₀ es s)
      (hes : .synced ∉ es) : SyncedAt S Rest s₀ es s 0
  | last {before after : List (Event τ ε)} {s₁ s₂ s : ParseState τ κ ε}
      (h : Run S Rest s₀ before s₁) (hs : Step S Rest s₁ .synced s₂) (h' : Run S Rest s₂ after s)
      (hafter : .synced ∉ after) : SyncedAt S Rest s₀ (before ++ .synced :: after) s s₁.offset

theorem SyncedAt.step (h : SyncedAt S Rest s₀ es s d) (hs : Step S Rest s e s')
    (he : e ≠ .synced) : SyncedAt S Rest s₀ (es ++ [e]) s' d := by
  cases h with
  | never h hes => exact .never (.step h hs) (by simpa [hes] using he.symm)
  | last h hsync h' hafter =>
    rw [List.append_assoc, List.cons_append]
    exact .last h hsync (.step h' hs) (by simpa [hafter] using he.symm)

/-- The deferred errors are those put off since `s₀`, newest first, and then those of `s₀`. -/
theorem deferred_step (h : Step S Rest s e s')
    (hs : s.deferred = (putOff es).reverse ++ s₀.deferred) :
    s'.deferred = (putOff (es ++ [e])).reverse ++ s₀.deferred := by
  rw [putOff_concat]
  rcases step_cases h with ⟨ts, n, rest, rfl, -, rfl⟩ | ⟨err, rfl, rfl⟩ | ⟨rfl, c, -, rfl⟩
  · simpa [error?] using hs
  · simpa [error?] using hs
  · simpa [error?] using hs

theorem deferred_run (h : Run S Rest s₀ es s) :
    s.deferred = (putOff es).reverse ++ s₀.deferred :=
  trace_invariant (fun es s => s.deferred = (putOff es).reverse ++ s₀.deferred)
    (fun _ => deferred_step) h rfl

end AnyStream

section Chunks

variable {τ ε : Type} {S : ChunkStream τ} {s s' : ParseState τ (Chunk τ) ε} {input : Chunk τ}
  {o : Origin} {e : Event τ ε} {es : List (Event τ ε)} {ts : List τ}

theorem exists_advanceBy (ts : List τ) {rest : Chunk τ}
    (hfit : s.offset + s.input.size < Count.limit) (h : s.input.toList = ts ++ rest.toList) :
    ∃ s', s.advanceBy ts.length rest = .ok s' := by
  have hlen : s.input.size = ts.length + rest.toList.length := by
    rw [← List.length_append, ← h, Chunk.length_toList]
  exact ⟨_, advanceBy_eq_ok_iff.2 ⟨by omega, rfl⟩⟩

variable [BEq τ]

/-- Every step that consumes input has an answer. None finds the offset too large. -/
structure NeverOverflows (S : TokenStream τ (Chunk τ)) (s : ParseState τ (Chunk τ) ε) : Prop where
  next : ∃ r, s.next S = .ok r
  read (n : Nat) : ∃ r, s.read S n = .ok r
  readWhile {σ : Type} (p : τ → StateM σ Bool) (x : σ) :
    ∃ r, ((s.readWhileM S p).run x).1 = .ok r
  satisfy {σ : Type} (p : τ → StateM σ Bool) (expected : List (Fragment τ)) (x : σ) :
    ∃ r, ((s.satisfyM S p expected).run x).1 = .ok r
  advanceBy {n : Nat} {rest : Chunk τ} (h : Chunk.Remains s.input n rest) :
    ∃ s', s.advanceBy n rest = .ok s'

theorem neverOverflows_of_fits (hfit : s.offset + s.input.size < Count.limit) :
    NeverOverflows S.stream s where
  next := by
    unfold ParseState.next
    split
    · exact ⟨_, rfl⟩
    · next t rest hn =>
      obtain ⟨s', hs'⟩ := exists_advanceBy [t] hfit (ChunkStream.toList_of_next? hn)
      exact ⟨_, Checked.bind_eq_ok_iff.2 ⟨s', hs', rfl⟩⟩
  read n := by
    unfold ParseState.read
    split
    · exact ⟨_, rfl⟩
    · next taken rest hr =>
      obtain ⟨s', hs'⟩ := exists_advanceBy _ hfit (S.faithful_stream.append_of_read hr).symm
      rw [← S.faithful_stream.length_eq] at hs'
      exact ⟨_, Checked.bind_eq_ok_iff.2 ⟨s', hs', rfl⟩⟩
  readWhile p x := by
    have hcut := ChunkStream.append_of_spanM (S := S) (p := p) (c := s.input) (x := x) rfl
    obtain ⟨s', hs'⟩ := exists_advanceBy _ hfit hcut.symm
    rw [Chunk.length_toList] at hs'
    exact ⟨_, Checked.bind_eq_ok_iff.2 ⟨s', hs', rfl⟩⟩
  satisfy p expected x := by
    unfold ParseState.satisfyM
    split
    · exact ⟨_, rfl⟩
    · next t rest hn =>
      obtain ⟨s', hs'⟩ := exists_advanceBy [t] hfit (ChunkStream.toList_of_next? hn)
      rcases hp : (p t).run x with ⟨passed, y⟩
      rw [StateT.run_bind, hp]
      cases passed with
      | false => exact ⟨_, rfl⟩
      | true => exact ⟨_, Checked.bind_eq_ok_iff.2 ⟨s', hs', rfl⟩⟩
  advanceBy {n rest} h := by
    obtain ⟨hle, -⟩ := h
    exact ⟨_, advanceBy_eq_ok_iff.2 ⟨by omega, rfl⟩⟩

variable [CharLike τ]

/-- A step that consumes input moves the tokens it hands out from the front of the input into the
offset, and changes nothing else. -/
theorem took_cases (h : Step S.stream Chunk.Remains s (.took ts) s') :
    ∃ rest, ts ++ rest.toList = s.input.toList ∧
      s' = { s with input := rest, offset := s.offset + ts.length } := by
  cases h with
  | next h =>
    obtain ⟨rest, hn, ha⟩ := advanceBy_of_next h
    exact ⟨rest, (ChunkStream.toList_of_next? hn).symm, (advanceBy_eq_ok_iff.1 ha).2⟩
  | read h =>
    obtain ⟨rest, hr, ha⟩ := advanceBy_of_read h
    rw [S.faithful_stream.length_eq] at ha
    exact ⟨rest, S.faithful_stream.append_of_read hr, (advanceBy_eq_ok_iff.1 ha).2⟩
  | readWhile h =>
    obtain ⟨rest, hr, ha⟩ := advanceBy_of_readWhileM h
    rw [S.faithful_stream.length_eq] at ha
    exact ⟨rest, ChunkStream.append_of_spanM hr, (advanceBy_eq_ok_iff.1 ha).2⟩
  | satisfy h =>
    obtain ⟨rest, hn, ha⟩ := advanceBy_of_satisfyM h
    exact ⟨rest, (ChunkStream.toList_of_next? hn).symm, (advanceBy_eq_ok_iff.1 ha).2⟩
  | @advanceBy _ n rest hrest ha =>
    obtain ⟨hle, hdrop⟩ := hrest
    have hlen : (s.input.toList.take n).length = n := by
      rw [List.length_take, Chunk.length_toList, Nat.min_eq_left hle]
    have hs' := (advanceBy_eq_ok_iff.1 ha).2
    rw [ChunkStream.toList_stream, hlen]
    refine ⟨rest, ?_, hs'⟩
    rw [hdrop]
    exact List.take_append_drop ..

/-- What was handed out and what remains are the input, and the offset counts what was handed out. -/
structure Balanced (input : Chunk τ) (es : List (Event τ ε)) (s : ParseState τ (Chunk τ) ε) :
    Prop where
  tokens : handedOut es ++ s.input.toList = input.toList
  offset : s.offset = (handedOut es).length

theorem balanced_step (h : Step S.stream Chunk.Remains s e s') (hb : Balanced input es s) :
    Balanced input (es ++ [e]) s' := by
  obtain ⟨htokens, hoffset⟩ := hb
  rcases step_cases h with ⟨ts, -, -, rfl, -, -⟩ | ⟨err, rfl, rfl⟩ | ⟨rfl, c, -, rfl⟩
  · obtain ⟨rest, hcut, rfl⟩ := took_cases h
    constructor
    · rw [handedOut_concat, List.append_assoc]
      exact (congrArg (handedOut es ++ ·) hcut).trans htokens
    · rw [handedOut_concat, List.length_append]
      exact congrArg (· + ts.length) hoffset
  · constructor <;> simpa [tokens]
  · constructor <;> simpa [tokens]

theorem balanced_run (h : Run S.stream Chunk.Remains (init input o) es s) :
    Balanced input es s :=
  trace_invariant (Balanced input) (fun _ => balanced_step) h ⟨rfl, rfl⟩

theorem offset_add_size_run (h : Run S.stream Chunk.Remains (init input o) es s) :
    s.offset + s.input.size = input.size := by
  obtain ⟨htokens, hoffset⟩ := balanced_run h
  rw [hoffset, ← Chunk.length_toList, ← Chunk.length_toList, ← htokens, List.length_append]

/-- The cached cursor is the one that the start of the input reaches at the offset of the last sync. -/
def CachedAtSync (S : ChunkStream τ) (Rest : Chunk τ → Nat → Chunk τ → Prop) (input : Chunk τ)
    (o : Origin) (es : List (Event τ ε)) (s : ParseState τ (Chunk τ) ε) : Prop :=
  ∃ d, SyncedAt S.stream Rest (init input o) es s d ∧ d ≤ s.offset ∧
    (Cursor.start input o).reach S.stream d = .ok s.cached

variable {Rest : Chunk τ → Nat → Chunk τ → Prop}

theorem cachedAtSync_init :
    CachedAtSync S Rest input o [] (init input o : ParseState τ (Chunk τ) ε) :=
  ⟨0, .never (.refl _) List.not_mem_nil, Nat.zero_le _,
    Cursor.advance_zero (Cursor.offset_start_lt input o)⟩

theorem cachedAtSync_step (hrun : Run S.stream Rest (init input o) es s)
    (h : Step S.stream Rest s e s') (hc : CachedAtSync S Rest input o es s) :
    CachedAtSync S Rest input o (es ++ [e]) s' := by
  obtain ⟨d, hd, hle, hreach⟩ := hc
  rcases step_cases h with ⟨ts, n, rest, rfl, -, rfl⟩ | ⟨err, rfl, rfl⟩ | ⟨rfl, c, hc, rfl⟩
  · exact ⟨d, hd.step h nofun, Nat.le_add_right_of_le hle, hreach⟩
  · exact ⟨d, hd.step h nofun, hle, hreach⟩
  · rw [cursorAt_run hrun] at hc
    exact ⟨s.offset, .last hrun h (.refl _) List.not_mem_nil, Nat.le_refl _, hc⟩

theorem cachedAtSync_run (h : Run S.stream Rest (init input o) es s) :
    CachedAtSync S Rest input o es s :=
  trace_invariant (CachedAtSync S Rest input o) cachedAtSync_step h cachedAtSync_init

/-- No token is lost, repeated or miscounted. The errors are those put off, newest first, and the
cached cursor, which is never ahead of the offset, is where the last sync left it. -/
theorem run_accounts (h : Run S.stream Chunk.Remains (init input o) es s) :
    handedOut es ++ s.input.toList = input.toList ∧
      s.offset = (handedOut es).length ∧
      s.offset + s.input.size = input.size ∧
      (input.size < Count.limit → NeverOverflows S.stream s) ∧
      (∃ d, SyncedAt S.stream Chunk.Remains (init input o) es s d ∧
        (Cursor.start input o).reach S.stream d = .ok s.cached ∧ s.cached.offset ≤ s.offset) ∧
      s.deferred = (putOff es).reverse := by
  obtain ⟨htokens, hoffset⟩ := balanced_run h
  have hsize := offset_add_size_run h
  have hdeferred : s.deferred = (putOff es).reverse ++ [] := deferred_run h
  obtain ⟨d, hd, hle, hreach⟩ := cachedAtSync_run h
  have hcached : s.cached.offset = 0 + min (d - 0) input.size :=
    Cursor.offset_of_reach (Cursor.offset_start_lt input o) hreach
  refine ⟨htokens, hoffset, hsize, ?_, ⟨d, hd, hreach, by omega⟩, by simpa using hdeferred⟩
  intro hlimit
  exact neverOverflows_of_fits (by omega)

/-- One token, a sync, an error put off, two tokens skipped by hand onto a buffer of their own, and a
read for more than is left. -/
theorem run_accounts_skip :
    let S := (ChunkStream.natural (τ := Char)).stream
    let start : ParseState Char (Chunk Char) String :=
      init (Chunk.ofString "ab\ncd") (.named "f")
    let synced : Cursor (Chunk Char) :=
      { rest := (start.input.splitAt 1).2, offset := 1, location := ⟨"f", 1, 2⟩,
        tabWidth := .standard, lineSoFar := "a" }
    let s := { start with
      input := ((Chunk.ofString "cd").splitAt 9).2, offset := 5, cached := synced,
      deferred := [.fail 7 "late"] }
    ∃ es, Run S Chunk.Remains start es s ∧
      handedOut es ++ s.input.toList = start.input.toList ∧ s.offset = (handedOut es).length ∧
      s.offset + s.input.size = start.input.size ∧ NeverOverflows S s ∧
      (∃ d, SyncedAt S Chunk.Remains start es s d ∧ start.start.reach S d = .ok s.cached ∧
        s.cached.offset ≤ s.offset) ∧
      s.deferred = (putOff es).reverse := by
  intro S start synced s
  let taken := { start with input := (start.input.splitAt 1).2, offset := 1 }
  let late : ParseState Char (Chunk Char) String :=
    { taken with cached := synced, deferred := [.fail 7 "late"] }
  have hnext : Step S Chunk.Remains start (.took ['a']) taken := .next rfl
  have hsync : Step S Chunk.Remains taken .synced { taken with cached := synced } :=
    .sync (by subst taken synced start S; rfl)
  have hdefer : Step S Chunk.Remains { taken with cached := synced } _ late :=
    .defer (.fail 7 "late")
  have hskip : Step S Chunk.Remains late _ { late with input := .ofString "cd", offset := 3 } :=
    .advanceBy (n := 2) ⟨by decide, by decide⟩ rfl
  have hread : Step S Chunk.Remains { late with input := .ofString "cd", offset := 3 } _ s :=
    .read (n := 9) rfl
  have hrun : Run S Chunk.Remains start _ s :=
    .step (.step (.step (.step (.step (.refl _) hnext) hsync) hdefer) hskip) hread
  obtain ⟨htokens, hoffset, hsize, hnever, hcached, hdeferred⟩ := run_accounts hrun
  exact ⟨_, hrun, htokens, hoffset, hsize, hnever (by decide), hcached, hdeferred⟩

end Chunks

end ParseState

end Pinpoint
