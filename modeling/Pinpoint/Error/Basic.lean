import Pinpoint.Error.Complaint
import Pinpoint.Error.Fragment
import Pinpoint.OrderedSet

/-! Parse errors, each at an offset of the input. -/

namespace Pinpoint

/-- A trivial error is a mismatch: what was met, if that is known, and what was expected. A fancy
error carries complaints. -/
inductive ParseError (τ ε : Type) where
  | trivial (offset : Nat) (unexpected : Option (Fragment τ)) (expected : OrderedSet (Fragment τ))
  | fancy (offset : Nat) (complaints : OrderedSet (Complaint ε))

namespace ParseError

variable {τ ε : Type}

def offset : ParseError τ ε → Nat
  | .trivial offset _ _ => offset
  | .fancy offset _ => offset

/-- The same error at another offset. -/
def relocate (offset : Nat) : ParseError τ ε → ParseError τ ε
  | .trivial _ unexpected expected => .trivial offset unexpected expected
  | .fancy _ complaints => .fancy offset complaints

/-- A trivial error. Repeated expectations count once. -/
def mismatch [BEq τ] (offset : Nat) (unexpected : Option (Fragment τ))
    (expected : List (Fragment τ)) : ParseError τ ε :=
  .trivial offset unexpected (.ofList expected)

section Payload

variable [BEq ε]

/-- A fancy error. Repeated complaints count once. -/
def complain (offset : Nat) (complaints : List (Complaint ε)) : ParseError τ ε :=
  .fancy offset (.ofList complaints)

def fail (offset : Nat) (message : String) : ParseError τ ε :=
  complain offset [.failure message]

def indentation (offset : Nat) (relation : Ordering) (actual reference : Nat) : ParseError τ ε :=
  complain offset [.indentation relation actual reference]

def custom (offset : Nat) (payload : ε) : ParseError τ ε :=
  complain offset [.custom payload]

end Payload

protected def beq [BEq τ] [BEq ε] : ParseError τ ε → ParseError τ ε → Bool
  | .trivial o u e, .trivial o' u' e' => o == o' && u == u' && e == e'
  | .fancy o c, .fancy o' c' => o == o' && c == c'
  | _, _ => false

instance [BEq τ] [BEq ε] : BEq (ParseError τ ε) := ⟨ParseError.beq⟩

theorem trivial_beq_iff [BEq τ] [BEq ε] {n n' : Nat} {u u' : Option (Fragment τ)}
    {x x' : OrderedSet (Fragment τ)} :
    (trivial n u x : ParseError τ ε) == trivial n' u' x' ↔ n = n' ∧ u == u' ∧ x == x' := by
  show (n == n' && u == u' && x == x') = true ↔ _
  rw [Bool.and_eq_true, Bool.and_eq_true, beq_iff_eq, and_assoc]

theorem fancy_beq_iff [BEq τ] [BEq ε] {n n' : Nat} {c c' : OrderedSet (Complaint ε)} :
    (fancy n c : ParseError τ ε) == fancy n' c' ↔ n = n' ∧ c == c' := by
  show (n == n' && c == c') = true ↔ _
  rw [Bool.and_eq_true, beq_iff_eq]

@[simp] theorem offset_relocate (n : Nat) (e : ParseError τ ε) : (e.relocate n).offset = n := by
  cases e <;> rfl

/-- Its set holds no two equal items. Every error made from lists is so, and merging keeps it. -/
def Distinct [BEq τ] [BEq ε] : ParseError τ ε → Prop
  | .trivial _ _ expected => expected.Distinct
  | .fancy _ complaints => complaints.Distinct

instance [Inspect τ] [Inspect ε] : Inspect (ParseError τ ε) := ⟨fun e => match e with
  | .trivial offset unexpected expected => Inspect.record "Trivial"
    [("offset", inspect offset), ("unexpected", inspect unexpected),
     ("expected", inspect expected)]
  | .fancy offset complaints => Inspect.record "Fancy"
    [("offset", inspect offset), ("errors", inspect complaints)]⟩

end ParseError

end Pinpoint
