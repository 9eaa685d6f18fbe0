import Pinpoint.Text.Inspect

/-! Complaints: failures that say more than what was expected. -/

namespace Pinpoint

/-- A message, an indentation out of relation to its reference, or a value of the user's own. -/
inductive Complaint (ε : Type) where
  | failure (message : String)
  | indentation (relation : Ordering) (actual reference : Nat)
  | custom (payload : ε)

namespace Complaint

variable {ε : Type}

protected def beq [BEq ε] : Complaint ε → Complaint ε → Bool
  | .failure a, .failure b => a == b
  | .indentation o a r, .indentation o' a' r' => o == o' && a == a' && r == r'
  | .custom a, .custom b => a == b
  | _, _ => false

instance [BEq ε] : BEq (Complaint ε) := ⟨Complaint.beq⟩

/-- The relation in words, as in "should be less than 4". -/
def relationText : Ordering → String
  | .lt => "less than"
  | .eq => "equal to"
  | .gt => "greater than"

protected def text [ToText ε] : Complaint ε → String
  | .failure message => message
  | .indentation relation actual reference =>
    "incorrect indentation (got " ++ actual.repr ++ ", should be " ++ relationText relation ++ " "
      ++ reference.repr ++ ")"
  | .custom payload => toText payload

instance [ToText ε] : ToText (Complaint ε) := ⟨Complaint.text⟩

instance [Inspect ε] : Inspect (Complaint ε) := ⟨fun c => match c with
  | .failure message => Inspect.variant "Fail" (inspect message)
  | .indentation relation actual reference => Inspect.record "Indentation"
    [("ordering", inspect relation), ("actual", inspect actual), ("reference", inspect reference)]
  | .custom payload => Inspect.variant "Custom" (inspect payload)⟩

end Complaint

end Pinpoint
