import Pinpoint.Text.Glyph

/-! The texts of a value: the one that a reader of a report sees, and its structural text, the value
spelled out with the names of its parts. The names belong to the format and stay as they are whatever
the types are called. -/

namespace Pinpoint

/-- The text for a reader. -/
class ToText (α : Type) where
  toText : α → String

export ToText (toText)

instance : ToText Char := ⟨fun c => c.toString⟩

instance : ToText String := ⟨id⟩

instance : ToText UInt8 := ⟨fun b => b.toNat.repr⟩

instance : ToText Int := ⟨Int.repr⟩

/-- The structural text. -/
class Inspect (α : Type) where
  inspect : α → String

export Inspect (inspect)

namespace Inspect

/-- The escaped form of a character inside the quote `q`. Only that quote needs a backslash. -/
def escape (q c : Char) : String :=
  if c = '\x00' then "\\0"
  else if c = '\t' then "\\t"
  else if c = '\r' then "\\r"
  else if c = '\n' then "\\n"
  else if c = '\\' then "\\\\"
  else if c = q then "\\" ++ c.toString
  else if !Text.hasGlyph c then "\\u\x7b" ++ String.ofList (Nat.toDigits 16 c.toNat) ++ "\x7d"
  else c.toString

def quote (q : Char) (cs : List Char) : String :=
  q.toString ++ String.join (cs.map (escape q)) ++ q.toString

def commaList (items : List String) : String := ", ".intercalate items

def list (items : List String) : String := "[" ++ commaList items ++ "]"

def variant (name content : String) : String := name ++ "(" ++ content ++ ")"

/-- A record with at least one field. -/
def record (name : String) (fields : List (String × String)) : String :=
  name ++ " \x7b " ++ commaList (fields.map fun f => f.1 ++ ": " ++ f.2) ++ " \x7d"

end Inspect

instance : Inspect Nat := ⟨Nat.repr⟩

instance : Inspect Int := ⟨Int.repr⟩

instance : Inspect UInt8 := ⟨fun b => b.toNat.repr⟩

instance : Inspect Char := ⟨fun c => Inspect.quote '\x27' [c]⟩

instance : Inspect String := ⟨fun s => Inspect.quote '\x22' s.toList⟩

instance {α : Type} [Inspect α] : Inspect (List α) := ⟨fun xs => Inspect.list (xs.map inspect)⟩

instance {α : Type} [Inspect α] : Inspect (Option α) :=
  ⟨fun x => x.elim "None" fun a => Inspect.variant "Some" (inspect a)⟩

instance : Inspect Ordering := ⟨fun o => match o with
  | .lt => "Less"
  | .eq => "Equal"
  | .gt => "Greater"⟩

end Pinpoint
