import Mathlib.Data.List.Induction
import Pinpoint.Error.Message

/-! The words of an error name each of its items once and in order, with the separators between them
that the number of items asks for. -/

namespace Pinpoint

theorem separated_concat (separator : Nat → String) (items : List String) (item : String) :
    separated separator (items ++ [item]) =
      separated separator items ++ separator items.length ++ item := by
  rw [separated, List.mapIdx_concat, String.join_append, String.join_cons, String.join_nil,
    String.append_empty, ← String.append_assoc, separated]

theorem separated_congr {separator separator' : Nat → String} {items : List String}
    (h : ∀ i < items.length, separator i = separator' i) :
    separated separator items = separated separator' items := by
  rw [separated, separated, List.mapIdx_eq_mapIdx_iff.2]
  intro i hi
  rw [h i hi]

/-- With the same separator ahead of every item but the first, the items are joined by it. -/
theorem separated_eq_intercalate (separator : String) (items : List String) :
    separated (fun i => if i = 0 then "" else separator) items = separator.intercalate items := by
  -- From the end, where the index of an item is the number of items before it.
  induction items using List.reverseRecOn with
  | nil => rfl
  | append_singleton items item ih =>
    rw [separated_concat, ih]
    by_cases hnil : items = []
    · subst hnil
      simp
    · have hlength : items.length ≠ 0 := by simpa using hnil
      rw [if_neg hlength, String.intercalate_append_of_ne_nil hnil (List.cons_ne_nil item []),
        String.intercalate_singleton, String.append_assoc]

/-! Which separator it is depends on how far the last item is. -/

theorem alternativeSeparator_of_lt {count index : Nat} (hcount : 3 ≤ count)
    (h : index + 1 < count) :
    alternativeSeparator count index = if index = 0 then "" else ", " := by
  unfold alternativeSeparator
  rw [if_neg (show count ≠ 2 by omega), if_neg (show index + 1 ≠ count by omega)]

theorem alternativeSeparator_last {index : Nat} (h : 2 ≤ index) :
    alternativeSeparator (index + 1) index = ", or " := by
  unfold alternativeSeparator
  rw [if_neg (show index ≠ 0 by omega), if_neg (show index + 1 ≠ 2 by omega), if_pos rfl]

theorem alternatives_singleton (a : String) : alternatives [a] = a := by
  simp [alternatives, separated, alternativeSeparator]

theorem alternatives_pair (a b : String) : alternatives [a, b] = a ++ " or " ++ b := by
  simp [alternatives, separated, alternativeSeparator, String.append_assoc]

theorem alternatives_concat {first : List String} (h : 2 ≤ first.length) (last : String) :
    alternatives (first ++ [last]) = ", ".intercalate first ++ ", or " ++ last := by
  have hcount : (first ++ [last]).length = first.length + 1 := List.length_append
  have hfirst : separated (alternativeSeparator (first.length + 1)) first =
      ", ".intercalate first := by
    rw [← separated_eq_intercalate]
    apply separated_congr
    intro i hi
    exact alternativeSeparator_of_lt (by omega) (by omega)
  rw [alternatives, hcount, separated_concat, hfirst, alternativeSeparator_last h]

namespace ParseError

variable {τ ε : Type} [ToText τ] [ToText ε]

theorem message_trivial (offset : Nat) (u : Option (Fragment τ)) {x : OrderedSet (Fragment τ)}
    (h : x.items ≠ []) : (trivial offset u x : ParseError τ ε).message =
      (u.elim "" fun f => "unexpected " ++ toText f ++ "\n") ++ "expecting " ++
        alternatives (x.items.map toText) := by
  obtain ⟨fs⟩ := x
  cases fs with
  | nil => exact absurd rfl h
  | cons f fs =>
    cases u with
    | none =>
      rw [Option.elim_none, String.empty_append]
      rfl
    | some g => exact String.append_assoc.symm

theorem message_fancy (offset : Nat) {cs : OrderedSet (Complaint ε)} (h : cs.items ≠ []) :
    (fancy offset cs : ParseError τ ε).message = "\n".intercalate (cs.items.map toText) := by
  obtain ⟨cs⟩ := cs
  cases cs with
  | nil => exact absurd rfl h
  | cons c cs => exact separated_eq_intercalate "\n" _

/-- What was expected is enumerated in the order of insertion: one item alone, two with "or" between
them, and of more all but the last with commas and then ", or" and the last. What was met stands on a
line before. Complaints are set one below the other, so that those of one line each can be read off
the lines. -/
theorem message_enumerates_items (offset : Nat) :
    (∀ (u : Option (Fragment τ)) (x : OrderedSet (Fragment τ)),
      let message := (trivial offset u x : ParseError τ ε).message
      let opening := (u.elim "" fun f => "unexpected " ++ toText f ++ "\n") ++ "expecting "
      (∀ a, x.items = [a] → message = opening ++ toText a) ∧
      (∀ a b, x.items = [a, b] → message = opening ++ (toText a ++ " or " ++ toText b)) ∧
      ∀ first last, 2 ≤ first.length → x.items = first ++ [last] →
        message = opening ++ (", ".intercalate (first.map toText) ++ ", or " ++ toText last)) ∧
    ∀ cs : OrderedSet (Complaint ε), cs.items ≠ [] →
      let message := (fancy offset cs : ParseError τ ε).message
      message = "\n".intercalate (cs.items.map toText) ∧
      ((∀ c ∈ cs.items, '\n' ∉ (toText c).toList) →
        message.toList.splitOn '\n' = cs.items.map fun c => (toText c).toList) := by
  constructor
  · intro u x message opening
    have hmessage : x.items ≠ [] → message = opening ++ alternatives (x.items.map toText) :=
      message_trivial offset u
    refine ⟨?_, ?_, ?_⟩
    · intro a hx
      rw [hmessage (by simp [hx]), hx, List.map_singleton, alternatives_singleton]
    · intro a b hx
      rw [hmessage (by simp [hx]), hx, List.map_cons, List.map_singleton, alternatives_pair]
    · intro first last hfirst hx
      rw [hmessage (by simp [hx]), hx, List.map_append, List.map_singleton,
        alternatives_concat (by rwa [List.length_map])]
  · intro cs hcs message
    have hmessage : message = "\n".intercalate (cs.items.map toText) := message_fancy offset hcs
    refine ⟨hmessage, ?_⟩
    intro hlines
    rw [hmessage, String.toList_intercalate, List.map_map]
    exact List.splitOn_intercalate '\n' (by simpa using hlines) (by simpa using hcs)

/-- Three expectations of which one is repeated, two, one, and two complaints. -/
theorem message_enumerates_items_repeated :
    (mismatch 0 (some (.token '0'))
        [.label "letter", .label "underscore", .label "letter", .endOfInput] :
      ParseError Char String).message =
        "unexpected '0'\nexpecting letter, underscore, or end of input" ∧
    (mismatch 0 none [.label "a", .tokens ['i', 'f']] : ParseError Char String).message =
      "expecting a or \"if\"" ∧
    (mismatch 0 (some .endOfInput) [.label "a"] : ParseError Char String).message =
      "unexpected end of input\nexpecting a" ∧
    (complain 4 [.indentation .gt 2 4, .custom "odd"] : ParseError Char String).message =
      "incorrect indentation (got 2, should be greater than 4)\nodd" := by
  obtain ⟨htrivial, -⟩ := message_enumerates_items (τ := Char) (ε := String) 0
  obtain ⟨-, hfancy⟩ := message_enumerates_items (τ := Char) (ε := String) 4
  have hthree := (htrivial (some (.token '0')) _).2.2 [.label "letter", .label "underscore"]
    .endOfInput (by decide) rfl
  have htwo := (htrivial none _).2.1 (.label "a") (.tokens ['i', 'f']) rfl
  have hone := (htrivial (some .endOfInput) _).1 (.label "a") rfl
  have hcomplaints := (hfancy ⟨[.indentation .gt 2 4, .custom "odd"]⟩ (by simp)).1
  exact ⟨hthree.trans (by decide), htwo.trans (by decide), hone.trans (by decide),
    hcomplaints.trans (by decide)⟩

end ParseError

end Pinpoint
