import Pinpoint.CharLike
import Pinpoint.Text.Inspect

/-! Characters with a newline and a tab of one's own choice. -/

namespace Pinpoint

/-- Characters among which `newline` ends a line and `tab` is the tab. -/
structure Marked (newline tab : Char) where
  char : Char
  deriving DecidableEq

namespace Marked

variable {newline tab : Char}

instance : CharLike (Marked newline tab) where
  toChar t := t.char
  isNewline t := t.char == newline
  isTab t := t.char == tab

instance : Ord (Marked newline tab) := ⟨fun a b => compare a.char b.char⟩

instance : ToText (Marked newline tab) := ⟨fun t => toText t.char⟩

instance : Inspect (Marked newline tab) := ⟨fun t => inspect t.char⟩

end Marked

end Pinpoint
