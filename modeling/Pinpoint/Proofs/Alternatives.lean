import Pinpoint.Proofs.Filling
import Pinpoint.Proofs.MergeAll
import Pinpoint.State.Basic
import Pinpoint.Stream.Chunks

/-! Alternatives for one token. If each of them fails, their errors merged are the error of the one
test that any of them would pass, with all that they expect. -/

namespace Pinpoint

/-- What stands at the front of the input: its first token or its end. -/
def Fragment.atFront {τ : Type} : List τ → Fragment τ
  | [] => .endOfInput
  | t :: _ => .token t

theorem Fragment.atFront_eq_endOfInput_iff {τ : Type} {ts : List τ} :
    atFront ts = .endOfInput ↔ ts = [] := by
  cases ts with
  | nil => simp [atFront]
  | cons t ts => simp [atFront, token]

/-- An alternative for the next token: a test, and what is expected where no token passes it. -/
structure Branch (τ : Type) where
  test : τ → Bool
  expected : List (Fragment τ)

/-- The alternative that is open wherever one of `branches` is. -/
def Branch.anyOf {τ : Type} (branches : List (Branch τ)) : Branch τ where
  test t := branches.any fun branch => branch.test t
  expected := branches.flatMap expected

namespace ParseError

variable {τ ε : Type} [BEq τ] [BEq ε] [TransBEq τ]

/-- Mismatches over the same fragment at one offset. What one of them expects twice and what both of
them expect is kept once, whether it comes set by set or in a row. -/
theorem mismatch_merge_mismatch (n : Nat) (u : Option (Fragment τ)) (xs ys : List (Fragment τ)) :
    (mismatch n u xs : ParseError τ ε).merge (mismatch n u ys) = mismatch n u (xs ++ ys) := by
  calc (mismatch n u xs : ParseError τ ε).merge (mismatch n u ys)
      = .trivial n (u.or u) ((OrderedSet.ofList xs).union (.ofList ys)) := merge_of_offset_eq rfl
    _ = mismatch n u (xs ++ ys) := by rw [Option.or_self, ← OrderedSet.ofList_append, mismatch]

theorem mergeAll_map_mismatch (n : Nat) (u : Option (Fragment τ)) {xss : List (List (Fragment τ))}
    (hne : xss ≠ []) :
    mergeAll (xss.map (mismatch n u)) = some (mismatch n u xss.flatten : ParseError τ ε) := by
  induction xss using List.reverseRecOn with
  | nil => exact absurd rfl hne
  | append_singleton xss xs ih =>
    rw [List.map_append, List.map_singleton, mergeAll_concat, List.flatten_concat]
    by_cases hxss : xss = []
    · subst hxss
      rfl
    · rw [ih hxss, Option.merge_some_some, mismatch_merge_mismatch]

end ParseError

namespace ParseState

open ParseError

variable {τ ε : Type} [BEq τ] {S : ChunkStream τ} {s : ParseState τ (Chunk τ) ε}

/-- Where no token is or the first one does not pass, the error names what stands there. -/
theorem satisfy_of_refused {p : τ → Bool} (expected : List (Fragment τ))
    (h : ∀ t ∈ s.input.toList.head?, p t = false) : s.satisfy S.stream p expected =
      .ok (.error (.mismatch s.offset (some (.atFront s.input.toList)) expected)) := by
  cases hnext : S.stream.next? s.input with
  | none => rw [satisfy_of_none _ _ hnext, (S.next?_eq_none_iff _).1 hnext, Fragment.atFront]
  | some r =>
    obtain ⟨t, rest⟩ := r
    have hinput := ChunkStream.toList_of_next? hnext
    have hp : p t = false := h t (by rw [hinput]; rfl)
    rw [satisfy_of_some _ _ hnext, hp, hinput, Fragment.atFront]
    rfl

/-- A token that passes is no mismatch, not even where the offset after it is no count. -/
theorem refused_of_satisfy {p : τ → Bool} {expected : List (Fragment τ)} {e : ParseError τ ε}
    (h : s.satisfy S.stream p expected = .ok (.error e)) :
    ∀ t ∈ s.input.toList.head?, p t = false := by
  intro t ht
  cases hnext : S.stream.next? s.input with
  | none =>
    rw [(S.next?_eq_none_iff _).1 hnext] at ht
    cases ht
  | some r =>
    obtain ⟨t', rest⟩ := r
    rw [ChunkStream.toList_of_next? hnext] at ht
    cases ht
    rw [satisfy_of_some _ _ hnext] at h
    cases hp : p t with
    | false => rfl
    | true =>
      rw [hp, if_pos rfl] at h
      cases hadvance : s.advanceBy 1 rest with
      | error x =>
        rw [hadvance] at h
        cases h
      | ok s' =>
        rw [hadvance] at h
        cases h

/-- The errors of alternatives that all fail are mismatches over the same fragment. -/
theorem errors_of_failed {branches : List (Branch τ)} {errors : List (ParseError τ ε)}
    (h : List.Forall₂ (fun b e => s.satisfy S.stream b.test b.expected = .ok (.error e))
      branches errors) :
    (∀ t ∈ s.input.toList.head?, (Branch.anyOf branches).test t = false) ∧
      errors = (branches.map Branch.expected).map
        (mismatch s.offset (some (.atFront s.input.toList))) := by
  induction h with
  | nil => exact ⟨fun _ _ => rfl, rfl⟩
  | @cons branch e branches errors h _ ih =>
    obtain ⟨htest, herrors⟩ := ih
    have hrefused := refused_of_satisfy h
    rw [satisfy_of_refused _ hrefused] at h
    constructor
    · intro t ht
      exact Bool.or_eq_false_iff.2 ⟨hrefused t ht, htest t ht⟩
    · cases h
      rw [herrors]
      rfl

variable [BEq ε] [TransBEq τ]

/-- Alternatives that all fail at a state come, merged in order, to the very error of the one attempt
that lets any of them pass and expects what they all expect. It is a mismatch at the offset of the
state, over the first token of the input or, exactly if there is none, its end, and it expects the
first occurrences of all that the alternatives expect. -/
theorem mergeAll_failed_eq_anyOf (S : ChunkStream τ) (s : ParseState τ (Chunk τ) ε)
    {branches : List (Branch τ)} {errors : List (ParseError τ ε)} (hne : branches ≠ [])
    (h : List.Forall₂ (fun b e => s.satisfy S.stream b.test b.expected = .ok (.error e))
      branches errors) :
    let any := Branch.anyOf branches
    let front : Fragment τ := .atFront s.input.toList
    ∃ e, mergeAll errors = some e ∧ s.satisfy S.stream any.test any.expected = .ok (.error e) ∧
      e = .trivial s.offset (some front) ⟨OrderedSet.firstOccurrences any.expected⟩ ∧
      (front = .endOfInput ↔ s.input.toList = []) := by
  intro any front
  obtain ⟨htest, rfl⟩ := errors_of_failed h
  refine ⟨.mismatch s.offset (some front) any.expected, ?_, satisfy_of_refused _ htest, ?_,
    Fragment.atFront_eq_endOfInput_iff⟩
  · have hmap : branches.map Branch.expected ≠ [] := by simpa using hne
    rw [mergeAll_map_mismatch _ _ hmap, ← List.flatMap_def]
    rfl
  · rw [← OrderedSet.items_ofList]
    rfl

/-- Alternatives that expect a fragment twice, one of them alone and both together. -/
theorem mergeAll_failed_eq_anyOf_repeated :
    let S := ChunkStream.natural (τ := Char)
    let s : ParseState Char (Chunk Char) String :=
      { init (Chunk.ofString "0x") (.named "f") with offset := 7 }
    let letter : Branch Char := ⟨Char.isAlpha, [.label "letter", .token '_', .label "letter"]⟩
    let line : Branch Char := ⟨fun t => t == '_', [.token '_', .label "line"]⟩
    let errors : List (ParseError Char String) :=
      [.mismatch 7 (some (.token '0')) letter.expected,
        .mismatch 7 (some (.token '0')) line.expected]
    let e : ParseError Char String :=
      .trivial 7 (some (.token '0')) ⟨[.label "letter", .token '_', .label "line"]⟩
    List.Forall₂ (fun b e => s.satisfy S.stream b.test b.expected = .ok (.error e))
        [letter, line] errors ∧
      mergeAll errors = some e ∧
      s.satisfy S.stream (fun t => t.isAlpha || (t == '_' || false))
        (letter.expected ++ line.expected) = .ok (.error e) := by
  intro S s letter line errors e
  have hfailed : List.Forall₂ (fun b e => s.satisfy S.stream b.test b.expected = .ok (.error e))
      [letter, line] errors := .cons rfl (.cons rfl .nil)
  obtain ⟨e', hmerged, hany, rfl, -⟩ :=
    mergeAll_failed_eq_anyOf S s (List.cons_ne_nil letter [line]) hfailed
  exact ⟨hfailed, hmerged, hany⟩

end ParseState

end Pinpoint
