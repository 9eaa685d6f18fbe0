import Pinpoint.Error.Basic

/-! The one error to show for several. The furthest wins, complaints win over mismatches at the same
offset, and errors of one shape at one offset are united. -/

namespace Pinpoint

namespace ParseError

variable {τ ε : Type} [BEq τ] [BEq ε]

/-- The union of two errors at one offset. Of two unexpected fragments the left one stays. -/
def unite : ParseError τ ε → ParseError τ ε → ParseError τ ε
  | .trivial o u e, .trivial _ u' e' => .trivial o (u.or u') (e.union e')
  | .fancy o c, .fancy _ c' => .fancy o (c.union c')
  | .fancy o c, .trivial _ _ _ => .fancy o c
  | .trivial _ _ _, .fancy o c => .fancy o c

def merge (a b : ParseError τ ε) : ParseError τ ε :=
  if b.offset < a.offset then a else if a.offset < b.offset then b else a.unite b

/-- All errors merged from the left, if there are any. -/
def mergeAll (es : List (ParseError τ ε)) : Option (ParseError τ ε) :=
  es.foldl (fun merged e => merged.merge merge (some e)) none

theorem offset_unite {a b : ParseError τ ε} (h : a.offset = b.offset) :
    (a.unite b).offset = a.offset := by
  cases a <;> cases b <;> simp_all [unite, offset]

theorem offset_merge (a b : ParseError τ ε) : (a.merge b).offset = max a.offset b.offset := by
  unfold merge
  split
  · omega
  · split
    · omega
    · rw [offset_unite (by omega)]
      omega

end ParseError

end Pinpoint
