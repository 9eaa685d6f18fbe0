/-! Tokens that can be read as text, so that lines and columns can be counted over them. -/

namespace Pinpoint

/-- A token read as one character. A type may choose for itself which tokens end a line and which
are tabs. -/
class CharLike (τ : Type) where
  toChar : τ → Char
  isNewline : τ → Bool := fun t => toChar t == '\n'
  isTab : τ → Bool := fun t => toChar t == '\t'

namespace CharLike

instance : CharLike Char where
  toChar c := c

/-- A byte is the character with its number. -/
instance : CharLike UInt8 where
  toChar b := Char.ofUInt8 b

/-- Exactly `\n` and `\t` move to a new line and to a tab stop. -/
class Plain (τ : Type) [CharLike τ] : Prop where
  isNewline_eq (t : τ) : isNewline t = (toChar t == '\n')
  isTab_eq (t : τ) : isTab t = (toChar t == '\t')

instance : Plain Char := ⟨fun _ => rfl, fun _ => rfl⟩

instance : Plain UInt8 := ⟨fun _ => rfl, fun _ => rfl⟩

end CharLike

end Pinpoint
