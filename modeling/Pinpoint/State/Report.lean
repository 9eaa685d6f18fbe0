import Pinpoint.Error.Message
import Pinpoint.State.Basic

/-! Errors shown with the line they stand on and a caret below the place. -/

namespace Pinpoint

namespace Report

def spaces (n : Nat) : List Char := List.replicate n ' '

/-- A line from `column` on, with each tab filled up to its stop. What stands before takes up `size`
bytes. Room is asked for ahead of the gap of a tab and nowhere else: the other characters are written
as they were read. -/
def expandFrom (w : TabWidth) (column size : Nat) : List Char → Checked (List Char)
  | [] => return []
  | c :: cs =>
    if c = '\t' then do
      let next ← w.nextStop column
      let gap ← Count.sub next column
      let size ← Count.textSize (size + gap)
      return spaces gap ++ (← expandFrom w next size cs)
    else do
      let next ← Count.add column 1
      return c :: (← expandFrom w next (size + c.utf8Size) cs)

/-- A line with spaces for its tabs. -/
def expandTabs (w : TabWidth) (line : String) : Checked String :=
  String.ofList <$> expandFrom w 1 0 line.toList

/-- The text without `lead` at its front, or the whole text if it does not begin so. -/
def dropLead (lead text : String) : String :=
  if lead.toList.isPrefixOf text.toList then String.ofList (text.toList.drop lead.length) else text

/-- The place, the line between gutters, a caret after `margin` columns, and a message. -/
def layout (place : Location) (line : String) (margin : Nat) (message : String) : String :=
  let number := place.line.repr
  let gutter := String.ofList (spaces number.length)
  toText place ++ ":\n"
    ++ gutter ++ " |\n"
    ++ number ++ " | " ++ line ++ "\n"
    ++ gutter ++ " | " ++ String.ofList (spaces margin) ++ "^\n"
    ++ message

end Report

namespace ParseState

variable {τ κ ε : Type} [CharLike τ]

/-- The text that stands ahead of the input on a cursor's line: the lead on the first line only. It
takes no part in the counting of columns. -/
def leadAt (c : Cursor κ) (s : ParseState τ κ ε) : String :=
  if c.location.line = s.start.location.line then s.start.lineSoFar else ""

def shownLine (S : TokenStream τ κ) (c : Cursor κ) (s : ParseState τ κ ε) : Checked String := do
  let lead := s.leadAt c
  let body ← Report.expandTabs c.tabWidth (Report.dropLead lead (c.currentLine S))
  return lead ++ body

/-- How far right the caret stands. The columns before it are written out as spaces. -/
def caretMargin (c : Cursor κ) (s : ParseState τ κ ε) : Checked Nat := do
  let column ← Count.add (s.leadAt c).length c.location.column
  let margin ← Count.sub column 1
  Count.textSize margin

variable [ToText τ] [ToText ε]

def reportAt (S : TokenStream τ κ) (c : Cursor κ) (e : ParseError τ ε) (s : ParseState τ κ ε) :
    Checked String := do
  let line ← s.shownLine S c
  let margin ← s.caretMargin c
  return Report.layout c.location line margin e.message

def report (S : TokenStream τ κ) (e : ParseError τ ε) (s : ParseState τ κ ε) :
    Checked String := do
  let c ← s.cursorAt S e.offset
  s.reportAt S c e

/-- Renders errors in the given order with one cursor that only moves on. -/
def reportFrom (S : TokenStream τ κ) (s : ParseState τ κ ε) :
    Cursor κ → List (ParseError τ ε) → Checked (List String)
  | _, [] => return []
  | c, e :: es => do
    let c ← c.reach S e.offset
    let text ← s.reportAt S c e
    return text :: (← reportFrom S s c es)

/-- The deferred errors by offset, those at one offset in the order they were deferred. -/
def byOffset (s : ParseState τ κ ε) : List (ParseError τ ε) :=
  s.deferred.reverse.mergeSort fun a b => a.offset ≤ b.offset

/-- Renders all deferred errors in one pass over the input. -/
def reportAll (S : TokenStream τ κ) (s : ParseState τ κ ε) : Checked (List String) :=
  s.reportFrom S s.start s.byOffset

end ParseState

end Pinpoint
