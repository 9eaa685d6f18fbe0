/-! What a parser asks of its input. -/

namespace Pinpoint

/-- Operations on input held in chunks of type `κ`. The input that remains is itself a chunk, and no
operation changes the chunk it is given. -/
structure TokenStream (τ κ : Type) where
  ofList : List τ → κ
  toList : κ → List τ
  length : κ → Nat
  /-- The first token and what follows it. -/
  next? : κ → Option (τ × κ)
  /-- Up to `n` tokens and what follows them. -/
  read : Nat → κ → Option (κ × κ)
  /-- The longest run of leading tokens that pass a test with state, and what follows it. -/
  spanM : {σ : Type} → (τ → StateM σ Bool) → κ → StateM σ (κ × κ)
  compareTokens : τ → τ → Ordering
  compareChunks : κ → κ → Ordering

namespace TokenStream

variable {τ κ : Type}

def isEmpty (S : TokenStream τ κ) (c : κ) : Bool := S.length c == 0

def ofToken (S : TokenStream τ κ) (t : τ) : κ := S.ofList [t]

/-- `spanM` with a test that has no state. -/
def span (S : TokenStream τ κ) (p : τ → Bool) (c : κ) : κ × κ :=
  (S.spanM (σ := Unit) (fun t => pure (p t)) c).run () |>.1

/-- Reads may come up short, but what a read hands out and what it leaves make up the chunk, and no
more is handed out than was asked for. -/
structure Faithful (S : TokenStream τ κ) : Prop where
  length_eq (c : κ) : S.length c = (S.toList c).length
  append_of_read {n : Nat} {c taken rest : κ} (h : S.read n c = some (taken, rest)) :
    S.toList taken ++ S.toList rest = S.toList c
  length_le_of_read {n : Nat} {c taken rest : κ} (h : S.read n c = some (taken, rest)) :
    (S.toList taken).length ≤ n

/-- A stream that reads short: no single read of several tokens gives more than a fixed number. -/
def capped (cap : Nat) (S : TokenStream τ κ) : TokenStream τ κ :=
  { S with read := fun n c => S.read (min n cap) c }

theorem Faithful.capped {S : TokenStream τ κ} (h : S.Faithful) (cap : Nat) :
    (S.capped cap).Faithful where
  length_eq := h.length_eq
  append_of_read := h.append_of_read
  length_le_of_read ht := Nat.le_trans (h.length_le_of_read ht) (Nat.min_le_left ..)

end TokenStream

/-- How many leading tokens pass a test with state. The test is put to the tokens in order, the
first to fail included and none after it. -/
def countWhileM {τ σ : Type} (p : τ → StateM σ Bool) : List τ → StateM σ Nat
  | [] => pure 0
  | t :: ts => do
    if ← p t then
      let n ← countWhileM p ts
      pure (n + 1)
    else
      pure 0

theorem countWhileM_pure {τ σ : Type} (p : τ → Bool) (ts : List τ) (s : σ) :
    (countWhileM (fun t => pure (p t)) ts).run s = ((ts.takeWhile p).length, s) := by
  induction ts with
  | nil => rfl
  | cons t ts ih =>
    cases h : p t
    · simp [countWhileM, h]
      rfl
    · simp [countWhileM, h, ih]
      rfl

end Pinpoint
