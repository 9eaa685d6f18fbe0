import Pinpoint.Order.Lexicographic
import Pinpoint.Stream.Basic

/-! The plainest stream: its chunks are lists. -/

namespace Pinpoint

namespace TokenStream

variable {τ : Type}

def lists (cmp : Comparator τ) : TokenStream τ (List τ) where
  ofList ts := ts
  toList ts := ts
  length ts := ts.length
  next? ts := match ts with
    | [] => none
    | t :: rest => some (t, rest)
  read n ts :=
    if n = 0 then some ([], ts)
    else if ts.isEmpty then none
    else some (ts.take n, ts.drop n)
  spanM p ts := do
    let n ← countWhileM p ts
    return (ts.take n, ts.drop n)
  compareTokens := cmp.compare
  compareChunks := compareLists cmp.compare

end TokenStream

end Pinpoint
