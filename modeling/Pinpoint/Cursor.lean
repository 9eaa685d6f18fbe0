import Pinpoint.CharLike
import Pinpoint.Origin
import Pinpoint.Stream.Basic

/-! A place in the input together with what must be known to go on from it. -/

namespace Pinpoint

/-- What remains of the input, the offset and location where it begins, and the text of the current
line up to there. -/
structure Cursor (κ : Type) where
  rest : κ
  offset : Nat
  location : Location
  tabWidth : TabWidth
  lineSoFar : String

namespace Cursor

variable {τ κ : Type}

/-- What is known while one move is under way: the location, and the text passed in this move, since
the last newline if it crossed one. -/
structure Scan where
  location : Location
  crossedNewline : Bool
  line : String

namespace Scan

/-- Past one token. A token that is both a newline and a tab is a newline. -/
def past [CharLike τ] (w : TabWidth) (s : Scan) (t : τ) : Checked Scan :=
  if CharLike.isNewline t then do
    let location ← s.location.newline
    return { location, crossedNewline := true, line := "" }
  else do
    let location ← if CharLike.isTab t then s.location.tab w else s.location.step
    return { s with location, line := s.line.push (CharLike.toChar t) }

/-- The text of the current line, of which `before` was known ahead of the move. -/
def lineAfter (s : Scan) (before : String) : String :=
  if s.crossedNewline then s.line else before ++ s.line

end Scan

def start (input : κ) (o : Origin) : Cursor κ :=
  { rest := input, offset := 0, location := o.location, tabWidth := o.tabWidth,
    lineSoFar := o.lead }

/-- Past up to `n` tokens, as many as the stream hands out. -/
def advance [CharLike τ] (S : TokenStream τ κ) (n : Nat) (c : Cursor κ) : Checked (Cursor κ) :=
  match S.read n c.rest with
  | none => .ok c
  | some (taken, rest) => do
    let scan ← (S.toList taken).foldlM (Scan.past c.tabWidth) ⟨c.location, false, ""⟩
    let offset ← Count.add c.offset (S.length taken)
    return { c with
      rest, offset, location := scan.location, lineSoFar := scan.lineAfter c.lineSoFar }

/-- To an offset of the input. A cursor does not move back. -/
def reach [CharLike τ] (S : TokenStream τ κ) (offset : Nat) (c : Cursor κ) : Checked (Cursor κ) :=
  c.advance S (offset - c.offset)

/-- The whole current line: what was passed of it and what remains up to the next newline. -/
def currentLine [CharLike τ] (S : TokenStream τ κ) (c : Cursor κ) : String :=
  let ahead := (S.span (fun t => !CharLike.isNewline t) c.rest).1
  c.lineSoFar ++ String.ofList ((S.toList ahead).map CharLike.toChar)

instance [BEq κ] : BEq (Cursor κ) := ⟨fun a b => a.rest == b.rest && a.offset == b.offset
  && a.location == b.location && a.tabWidth == b.tabWidth && a.lineSoFar == b.lineSoFar⟩

instance [Inspect κ] : Inspect (Cursor κ) := ⟨fun c => Inspect.record "Position"
  [("src", inspect c.rest), ("offset", inspect c.offset), ("source_pos", inspect c.location),
   ("tab_width", inspect c.tabWidth), ("line_prefix", inspect c.lineSoFar)]⟩

end Cursor

end Pinpoint
