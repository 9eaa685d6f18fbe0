import Pinpoint.Cursor
import Pinpoint.Error.Merge

/-! The state of a parse, the steps that consume input, and the places in the text that offsets of the
state stand for. No step changes the state it starts from, so going back is using an older one. -/

namespace Pinpoint

/-- What remains of the input and the number of tokens before it, the cursor at the start, a cursor
that may lag behind the offset, and the errors put off so far, newest first. -/
structure ParseState (τ κ ε : Type) where
  input : κ
  offset : Nat
  start : Cursor κ
  cached : Cursor κ
  deferred : List (ParseError τ ε)

namespace ParseState

variable {τ κ ε σ : Type}

def init (input : κ) (o : Origin) : ParseState τ κ ε :=
  { input, offset := 0, start := .start input o, cached := .start input o, deferred := [] }

/-- Keeps an error for later. -/
def defer (e : ParseError τ ε) (s : ParseState τ κ ε) : ParseState τ κ ε :=
  { s with deferred := e :: s.deferred }

/-- After `consumed` tokens, with `rest` what remains. -/
def advanceBy (consumed : Nat) (rest : κ) (s : ParseState τ κ ε) : Checked (ParseState τ κ ε) := do
  let offset ← Count.add s.offset consumed
  return { s with input := rest, offset }

/-- One token, unless the input is at its end. -/
def next (S : TokenStream τ κ) (s : ParseState τ κ ε) :
    Checked (Option (τ × ParseState τ κ ε)) :=
  match S.next? s.input with
  | none => return none
  | some (t, rest) => return some (t, ← s.advanceBy 1 rest)

/-- Up to `n` tokens. The offset moves by the number that the stream handed out. -/
def read (S : TokenStream τ κ) (n : Nat) (s : ParseState τ κ ε) :
    Checked (Option (κ × ParseState τ κ ε)) :=
  match S.read n s.input with
  | none => return none
  | some (taken, rest) => return some (taken, ← s.advanceBy (S.length taken) rest)

/-- The tokens that pass a test with state, up to the first that does not. -/
def readWhileM (S : TokenStream τ κ) (p : τ → StateM σ Bool) (s : ParseState τ κ ε) :
    StateM σ (Checked (κ × ParseState τ κ ε)) := do
  let (taken, rest) ← S.spanM p s.input
  return do return (taken, ← s.advanceBy (S.length taken) rest)

def readWhile (S : TokenStream τ κ) (p : τ → Bool) (s : ParseState τ κ ε) :
    Checked (κ × ParseState τ κ ε) :=
  (s.readWhileM (σ := Unit) S fun t => pure (p t)).run () |>.1

theorem readWhile_eq (S : TokenStream τ κ) (p : τ → Bool) (s : ParseState τ κ ε) :
    s.readWhile S p =
      (fun next => ((S.span p s.input).1, next)) <$>
        s.advanceBy (S.length (S.span p s.input).1) (S.span p s.input).2 := rfl

section Satisfy

variable [BEq τ]

/-- One token that passes a test with state. Otherwise a mismatch at the current offset that names
what stands there. The test is not asked at the end of the input. -/
def satisfyM (S : TokenStream τ κ) (p : τ → StateM σ Bool) (expected : List (Fragment τ))
    (s : ParseState τ κ ε) :
    StateM σ (Checked (Except (ParseError τ ε) (τ × ParseState τ κ ε))) :=
  match S.next? s.input with
  | none => return .ok (.error (.mismatch s.offset (some .endOfInput) expected))
  | some (t, rest) => do
    if ← p t then
      return do return .ok (t, ← s.advanceBy 1 rest)
    else
      return .ok (.error (.mismatch s.offset (some (.token t)) expected))

def satisfy (S : TokenStream τ κ) (p : τ → Bool) (expected : List (Fragment τ))
    (s : ParseState τ κ ε) : Checked (Except (ParseError τ ε) (τ × ParseState τ κ ε)) :=
  (s.satisfyM (σ := Unit) S (fun t => pure (p t)) expected).run () |>.1

theorem satisfy_of_none {S : TokenStream τ κ} {s : ParseState τ κ ε} (p : τ → Bool)
    (expected : List (Fragment τ)) (h : S.next? s.input = none) :
    s.satisfy S p expected = .ok (.error (.mismatch s.offset (some .endOfInput) expected)) := by
  simp only [satisfy, satisfyM, h]
  rfl

theorem satisfy_of_some {S : TokenStream τ κ} {s : ParseState τ κ ε} {t : τ} {rest : κ}
    (p : τ → Bool) (expected : List (Fragment τ)) (h : S.next? s.input = some (t, rest)) :
    s.satisfy S p expected =
      if p t then (fun next => .ok (t, next)) <$> s.advanceBy 1 rest
      else .ok (.error (.mismatch s.offset (some (.token t)) expected)) := by
  simp only [satisfy, satisfyM, h]
  cases p t <;> rfl

end Satisfy

/-- The one error to show for all that were put off. -/
def mergedErrors [BEq τ] [BEq ε] (s : ParseState τ κ ε) : Option (ParseError τ ε) :=
  ParseError.mergeAll s.deferred

section Place

variable [CharLike τ]

/-- The cursor at an offset, from the cached one unless that is past it. -/
def cursorAt (S : TokenStream τ κ) (offset : Nat) (s : ParseState τ κ ε) : Checked (Cursor κ) :=
  (if s.cached.offset ≤ offset then s.cached else s.start).reach S offset

/-- Brings the cached cursor to the current offset. -/
def sync (S : TokenStream τ κ) (s : ParseState τ κ ε) : Checked (ParseState τ κ ε) := do
  let cached ← s.cursorAt S s.offset
  return { s with cached }

def locate (S : TokenStream τ κ) (offset : Nat) (s : ParseState τ κ ε) : Checked Location :=
  Cursor.location <$> s.cursorAt S offset

end Place

instance [BEq τ] [BEq κ] [BEq ε] : BEq (ParseState τ κ ε) := ⟨fun a b => a.offset == b.offset
  && a.input == b.input && a.start == b.start && a.cached == b.cached
  && a.deferred == b.deferred⟩

instance [Inspect τ] [Inspect κ] [Inspect ε] : Inspect (ParseState τ κ ε) :=
  ⟨fun s => Inspect.record "State"
    [("input", inspect s.input), ("offset", inspect s.offset), ("position", inspect s.cached),
     ("errors", inspect s.deferred)]⟩

end ParseState

end Pinpoint
