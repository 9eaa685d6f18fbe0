import Pinpoint.Text.Inspect

/-! Fragments: what an error found or would have accepted. -/

namespace Pinpoint

/-- One thing met, or one thing that would have done. -/
inductive Fragment (τ : Type) where
  | tokens (ts : List τ)
  | label (name : String)
  | endOfInput

/-- Why a fragment was refused. -/
inductive Fragment.Fault where
  | noTokens
  | emptyLabel
  deriving DecidableEq

namespace Fragment

variable {τ : Type}

def Fault.message : Fault → String
  | noTokens => "token error items need at least one token"
  | emptyLabel => "label error items need a non-empty label"

def token (t : τ) : Fragment τ := .tokens [t]

/-- A run of tokens, at least one. -/
def ofTokens (ts : List τ) : Except Fault (Fragment τ) :=
  if ts.isEmpty then .error .noTokens else .ok (.tokens ts)

/-- A name that is not empty. -/
def ofLabel (name : String) : Except Fault (Fragment τ) :=
  if name = "" then .error .emptyLabel else .ok (.label name)

protected def beq [BEq τ] : Fragment τ → Fragment τ → Bool
  | .tokens ts, .tokens us => ts == us
  | .label a, .label b => a == b
  | .endOfInput, .endOfInput => true
  | _, _ => false

instance [BEq τ] : BEq (Fragment τ) := ⟨Fragment.beq⟩

/-- A single token stands in single quotes, any other number of them in double quotes. -/
protected def text [ToText τ] : Fragment τ → String
  | .tokens [t] => "'" ++ toText t ++ "'"
  | .tokens ts => "\"" ++ String.join (ts.map toText) ++ "\""
  | .label name => name
  | .endOfInput => "end of input"

instance [ToText τ] : ToText (Fragment τ) := ⟨Fragment.text⟩

instance [Inspect τ] : Inspect (Fragment τ) := ⟨fun f => match f with
  | .tokens ts => Inspect.variant "Tokens" (inspect ts)
  | .label name => Inspect.variant "Label" (inspect name)
  | .endOfInput => "EndOfInput"⟩

end Fragment

end Pinpoint
