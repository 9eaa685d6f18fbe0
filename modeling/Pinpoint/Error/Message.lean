import Pinpoint.Error.Basic

/-! The words of an error. -/

namespace Pinpoint

/-- Items one after another, each with what `separator` says of its index ahead of it. -/
def separated (separator : Nat → String) (items : List String) : String :=
  String.join (items.mapIdx fun i item => separator i ++ item)

/-- What stands before the item at `index` in an enumeration of `count` alternatives. -/
def alternativeSeparator (count index : Nat) : String :=
  if index = 0 then ""
  else if count = 2 then " or "
  else if index + 1 = count then ", or "
  else ", "

/-- An enumeration of alternatives: "a", "a or b", "a, b, or c". -/
def alternatives (items : List String) : String :=
  separated (alternativeSeparator items.length) items

/-- What stands before the item at `index` of a list with a line for each item. -/
def lineSeparator (index : Nat) : String := if index = 0 then "" else "\n"

namespace ParseError

variable {τ ε : Type} [ToText τ] [ToText ε]

def unexpectedText (f : Fragment τ) : String := "unexpected " ++ toText f

def expectingText (fs : List (Fragment τ)) : String := "expecting " ++ alternatives (fs.map toText)

def message : ParseError τ ε → String
  | .trivial _ none ⟨[]⟩ => "unknown parse error"
  | .trivial _ none ⟨fs⟩ => expectingText fs
  | .trivial _ (some f) ⟨[]⟩ => unexpectedText f
  | .trivial _ (some f) ⟨fs⟩ => unexpectedText f ++ "\n" ++ expectingText fs
  | .fancy _ ⟨[]⟩ => "unknown fancy parse error"
  | .fancy _ ⟨cs⟩ => separated lineSeparator (cs.map toText)

instance : ToText (ParseError τ ε) := ⟨message⟩

end ParseError

end Pinpoint
