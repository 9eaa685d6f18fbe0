import Pinpoint.Binary64.Basic
import Pinpoint.Error.Merge
import Pinpoint.Proofs.OrderedSet

/-! Merging errors is associative, down to the order of the items. -/

namespace Pinpoint

namespace TransBEq

variable {α τ ε : Type} [BEq α] [BEq τ] [BEq ε]

theorem list_trans [TransBEq α] : ∀ {as bs cs : List α}, as == bs → bs == cs → as == cs
  | [], [], [], _, _ => rfl
  | a :: as, b :: bs, c :: cs, hab, hbc => by
    rw [List.cons_beq_cons, Bool.and_eq_true] at hab hbc ⊢
    exact ⟨TransBEq.trans hab.1 hbc.1, list_trans hab.2 hbc.2⟩

instance [TransBEq α] : TransBEq (List α) := ⟨list_trans⟩

theorem fragment_trans [TransBEq τ] : ∀ {a b c : Fragment τ}, a == b → b == c → a == c
  | .tokens ts, .tokens us, .tokens _, hab, hbc => TransBEq.trans (a := ts) (b := us) hab hbc
  | .label x, .label y, .label _, hab, hbc => TransBEq.trans (a := x) (b := y) hab hbc
  | .endOfInput, .endOfInput, .endOfInput, _, _ => rfl

instance [TransBEq τ] : TransBEq (Fragment τ) := ⟨fragment_trans⟩

theorem complaint_trans [TransBEq ε] : ∀ {a b c : Complaint ε}, a == b → b == c → a == c
  | .failure x, .failure y, .failure _, hab, hbc => TransBEq.trans (a := x) (b := y) hab hbc
  | .indentation o a r, .indentation o' a' r', .indentation o'' a'' r'', hab, hbc => by
    change (o == o' && a == a' && r == r') = true at hab
    change (o' == o'' && a' == a'' && r' == r'') = true at hbc
    change (o == o'' && a == a'' && r == r'') = true
    simp only [Bool.and_eq_true, beq_iff_eq] at hab hbc ⊢
    exact ⟨⟨hab.1.1.trans hbc.1.1, hab.1.2.trans hbc.1.2⟩, hab.2.trans hbc.2⟩
  | .custom x, .custom y, .custom _, hab, hbc => TransBEq.trans (a := x) (b := y) hab hbc

instance [TransBEq ε] : TransBEq (Complaint ε) := ⟨complaint_trans⟩

/-- The equality of numbers is transitive, though an undefined one does not equal itself. -/
instance : TransBEq Binary64 where
  trans {x y z} hxy hyz := by
    change (!x.isNaN && !y.isNaN && x.rank == y.rank) = true at hxy
    change (!y.isNaN && !z.isNaN && y.rank == z.rank) = true at hyz
    change (!x.isNaN && !z.isNaN && x.rank == z.rank) = true
    simp only [Bool.and_eq_true, beq_iff_eq] at hxy hyz ⊢
    exact ⟨⟨hxy.1.1, hyz.1.2⟩, hxy.2.trans hyz.2⟩

end TransBEq

namespace ParseError

variable {τ ε : Type} [BEq τ] [BEq ε] {a b : ParseError τ ε}

theorem merge_of_offset_gt (h : b.offset < a.offset) : a.merge b = a := if_pos h

theorem merge_of_offset_lt (h : a.offset < b.offset) : a.merge b = b := by
  rw [merge, if_neg (by omega), if_pos h]

theorem merge_of_offset_eq (h : a.offset = b.offset) : a.merge b = a.unite b := by
  rw [merge, if_neg (by omega), if_neg (by omega)]

/-- Errors of any shapes, whether or not their offsets agree. -/
theorem unite_assoc [TransBEq τ] [TransBEq ε] (a b c : ParseError τ ε) :
    (a.unite b).unite c = a.unite (b.unite c) := by
  cases a <;> cases b <;> cases c <;> simp only [unite, Option.or_assoc, OrderedSet.union_assoc]

theorem merge_assoc [TransBEq τ] [TransBEq ε] (a b c : ParseError τ ε) :
    (a.merge b).merge c = a.merge (b.merge c) := by
  rcases Nat.lt_trichotomy a.offset b.offset with hab | hab | hab
  · -- The first is out whether it meets the second alone or what the other two come to.
    have hbc : a.offset < (b.merge c).offset := by rw [offset_merge]; omega
    rw [merge_of_offset_lt hab, merge_of_offset_lt hbc]
  · rcases Nat.lt_trichotomy b.offset c.offset with hbc | hbc | hbc
    · have hac : (a.merge b).offset < c.offset := by rw [offset_merge]; omega
      rw [merge_of_offset_lt hac, merge_of_offset_lt hbc, merge_of_offset_lt (by omega)]
    · have hl : (a.unite b).offset = c.offset := by rw [offset_unite hab]; omega
      have hr : a.offset = (b.unite c).offset := by rw [offset_unite hbc]; exact hab
      rw [merge_of_offset_eq hab, merge_of_offset_eq hbc, merge_of_offset_eq hl,
        merge_of_offset_eq hr, unite_assoc]
    · have hac : c.offset < (a.merge b).offset := by rw [offset_merge]; omega
      rw [merge_of_offset_gt hac, merge_of_offset_gt hbc]
  · rw [merge_of_offset_gt hab]
    rcases Nat.lt_trichotomy b.offset c.offset with hbc | hbc | hbc
    · rw [merge_of_offset_lt hbc]
    · have ha : (b.unite c).offset < a.offset := by rw [offset_unite hbc]; exact hab
      rw [merge_of_offset_eq hbc, merge_of_offset_gt ha, merge_of_offset_gt (by omega)]
    · rw [merge_of_offset_gt hbc, merge_of_offset_gt hab, merge_of_offset_gt (by omega)]

/-- With an undefined number, which is kept each time it comes, and the two zeros, which are one. -/
theorem merge_assoc_undefined :
    let undefined : Fragment Binary64 := .token ⟨0x7FF8000000000000⟩
    let zero : Fragment Binary64 := .token ⟨0⟩
    let negative : Fragment Binary64 := .token ⟨0x8000000000000000⟩
    let a : ParseError Binary64 String := .mismatch 3 none [undefined, zero]
    let b : ParseError Binary64 String := .mismatch 3 (some .endOfInput) [undefined, negative]
    let c : ParseError Binary64 String := .mismatch 3 (some zero) [negative, undefined]
    (a.merge b).merge c = a.merge (b.merge c) ∧
      a.merge (b.merge c) =
        .trivial 3 (some .endOfInput) ⟨[undefined, zero, undefined, undefined]⟩ :=
  ⟨merge_assoc _ _ _, rfl⟩

end ParseError

end Pinpoint
