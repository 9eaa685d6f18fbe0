import Pinpoint.Proofs.FirstDifference

/-! Texts have one order, whether their characters are compared or the bytes of their UTF-8 form. -/

namespace Pinpoint

section Codes

variable {α β : Type} {cmp : α → α → Ordering} {cmp' : β → β → Ordering} {code : α → List β}

/-- A code that keeps an order. What follows two code words counts only where they stand for equal
values, so no word is a proper beginning of another. -/
structure OrderedCode (cmp : α → α → Ordering) (cmp' : β → β → Ordering) (code : α → List β) :
    Prop where
  ne_nil (x : α) : code x ≠ []
  compare_append (x y : α) (s t : List β) :
    compareLists cmp' (code x ++ s) (code y ++ t) = (cmp x y).then (compareLists cmp' s t)

theorem OrderedCode.compareLists_flatMap (h : OrderedCode cmp cmp' code) (xs ys : List α) :
    compareLists cmp' (xs.flatMap code) (ys.flatMap code) = compareLists cmp xs ys := by
  induction xs generalizing ys with
  | nil =>
    cases ys with
    | nil => rfl
    | cons y ys =>
      obtain ⟨b, bs, hcode⟩ := List.exists_cons_of_ne_nil (h.ne_nil y)
      rw [List.flatMap_cons, hcode]
      rfl
  | cons x xs ih =>
    cases ys with
    | nil =>
      obtain ⟨b, bs, hcode⟩ := List.exists_cons_of_ne_nil (h.ne_nil x)
      rw [List.flatMap_cons, hcode]
      rfl
    | cons y ys => rw [List.flatMap_cons, List.flatMap_cons, h.compare_append, ih, compareLists]

end Codes

/-- Two pairs of values compare alike if they agree on `<` and on equality. -/
theorem compareOfLessAndEq_congr {α β : Type} [LT α] [DecidableLT α] [DecidableEq α] [LT β]
    [DecidableLT β] [DecidableEq β] {a b : α} {a' b' : β} (hlt : a < b ↔ a' < b')
    (heq : a = b ↔ a' = b') : compareOfLessAndEq a b = compareOfLessAndEq a' b' := by
  simp only [compareOfLessAndEq, hlt, heq]

theorem compare_char (c d : Char) : compare c d = compare c.toNat d.toNat :=
  compareOfLessAndEq_congr (by rw [Char.lt_def, UInt32.lt_iff_toNat_lt]; rfl) Char.toNat_inj.symm

theorem compare_ofNat {m n : Nat} (hm : m < 256) (hn : n < 256) :
    compare (UInt8.ofNat m) (UInt8.ofNat n) = compare m n := by
  apply compareOfLessAndEq_congr (UInt8.ofNat_lt_iff_lt hm hn)
  rw [← UInt8.toNat_inj, UInt8.toNat_ofNat', UInt8.toNat_ofNat']
  omega

theorem compare_add_right (m n k : Nat) : compare (m + k) (n + k) = compare m n :=
  compareOfLessAndEq_congr (by omega) (by omega)

theorem compare_div_then_mod (v w : Nat) :
    (compare (v / 64) (w / 64)).then (compare (v % 64) (w % 64)) = compare v w := by
  rcases Nat.lt_trichotomy (v / 64) (w / 64) with h | h | h
  · have hvw : v < w := by omega
    rw [Nat.compare_eq_lt.2 h, Nat.compare_eq_lt.2 hvw]
    rfl
  · rw [Nat.compare_eq_eq.2 h]
    exact compareOfLessAndEq_congr (by omega) (by omega)
  · have hwv : w < v := by omega
    rw [Nat.compare_eq_gt.2 h, Nat.compare_eq_gt.2 hwv]
    rfl

namespace Utf8

/-- What a number has above its `n` lowest groups of six bits. -/
def lead : Nat → Nat → Nat
  | 0, v => v
  | n + 1, v => lead n (v / 64)

/-- The `n` lowest groups of six bits in a byte each, the highest first. -/
def continuation : Nat → Nat → List UInt8
  | 0, _ => []
  | n + 1, v => continuation n (v / 64) ++ [UInt8.ofNat (v % 64 + 0x80)]

/-- Numbers cut into as many groups are ordered by the first groups that differ. -/
theorem compare_lead_continuation (n v w : Nat) (s t : List UInt8) :
    (compare (lead n v) (lead n w)).then
        (compareLists compare (continuation n v ++ s) (continuation n w ++ t)) =
      (compare v w).then (compareLists compare s t) := by
  induction n generalizing v w s t with
  | zero => rfl
  | succ n ih =>
    have hgroup : compare (UInt8.ofNat (v % 64 + 0x80)) (UInt8.ofNat (w % 64 + 0x80)) =
        compare (v % 64) (w % 64) := by
      rw [compare_ofNat (by omega) (by omega), compare_add_right]
    rw [lead, lead, continuation, continuation, List.append_assoc, List.append_assoc, ih,
      List.singleton_append, List.singleton_append, compareLists, hgroup, ← Ordering.then_assoc,
      compare_div_then_mod]

/-- How many bytes follow the first one of a code point. -/
def trailing (v : Nat) : Nat :=
  if v ≤ 0x7F then 0 else if v ≤ 0x7FF then 1 else if v ≤ 0xFFFF then 2 else 3

/-- The bits of a first byte that tell how many follow it. -/
def mark : Nat → Nat
  | 0 => 0
  | 1 => 0xC0
  | 2 => 0xE0
  | _ => 0xF0

/-- The first byte of a code point. -/
def first (v : Nat) : Nat := lead (trailing v) v + mark (trailing v)

theorem toNat_lt (c : Char) : c.toNat < 0x110000 := by
  have hvalid : c.toNat < 0xD800 ∨ 0xDFFF < c.toNat ∧ c.toNat < 0x110000 := c.valid
  omega

/-- The four lengths, each with its code points and their first bytes. -/
theorem first_cases (v : Nat) :
    (trailing v = 0 ∧ v ≤ 0x7F ∧ first v = v) ∨
    (trailing v = 1 ∧ 0x7F < v ∧ v ≤ 0x7FF ∧ first v = v / 64 + 0xC0) ∨
    (trailing v = 2 ∧ 0x7FF < v ∧ v ≤ 0xFFFF ∧ first v = v / 64 / 64 + 0xE0) ∨
    (trailing v = 3 ∧ 0xFFFF < v ∧ first v = v / 64 / 64 / 64 + 0xF0) := by
  unfold first trailing
  by_cases h₁ : v ≤ 0x7F
  · simp [h₁, lead, mark]
  · by_cases h₂ : v ≤ 0x7FF
    · simp [h₁, h₂, lead, mark]
      omega
    · by_cases h₃ : v ≤ 0xFFFF
      · simp [h₁, h₂, h₃, lead, mark]
        omega
      · simp [h₁, h₂, h₃, lead, mark]
        omega

theorem encodeChar_eq (c : Char) : String.utf8EncodeChar c =
    UInt8.ofNat (first c.toNat) :: continuation (trailing c.toNat) c.toNat := by
  have hmax : c.toNat < 0x110000 := toNat_lt c
  simp only [String.utf8EncodeChar, Char.toNat_val]
  generalize c.toNat = v at hmax
  rcases first_cases v with ⟨ht, hv, hf⟩ | ⟨ht, hv, hv', hf⟩ | ⟨ht, hv, hv', hf⟩ | ⟨ht, hv, hf⟩
  · rw [ht, hf, if_pos hv]
    rfl
  · have hlead : v / 64 % 32 = v / 64 := by omega
    rw [ht, hf, if_neg (by omega), if_pos hv', hlead]
    rfl
  · have hlead : v / 4096 % 16 = v / 64 / 64 := by omega
    rw [ht, hf, if_neg (by omega), if_neg (by omega), if_pos hv', hlead]
    rfl
  · have hlead : v / 262144 % 8 = v / 64 / 64 / 64 := by omega
    have hnext : v / 4096 % 64 = v / 64 / 64 % 64 := by omega
    rw [ht, hf, if_neg (by omega), if_neg (by omega), if_neg (by omega), hlead, hnext]
    rfl

theorem first_lt {v : Nat} (h : v < 0x110000) : first v < 256 := by
  rcases first_cases v with ⟨-, hv, hf⟩ | ⟨-, -, hv, hf⟩ | ⟨-, -, hv, hf⟩ | ⟨-, -, hf⟩ <;> omega

/-- Longer forms are for greater code points, and their first bytes are greater. -/
theorem lt_of_trailing_lt {v w : Nat} (h : trailing v < trailing w) (hv : v < 0x110000) :
    v < w ∧ first v < first w := by
  rcases first_cases v with ⟨ht, _, hf⟩ | ⟨ht, _, _, hf⟩ | ⟨ht, _, _, hf⟩ | ⟨ht, _, hf⟩ <;>
    rcases first_cases w with ⟨ht', _, hf'⟩ | ⟨ht', _, _, hf'⟩ | ⟨ht', _, _, hf'⟩ | ⟨ht', _, hf'⟩ <;>
      omega

/-- The encoding of characters keeps their order. Forms of different lengths are told apart by their
first bytes, and forms of one length hold the code point in as many groups. -/
theorem orderedCode_encodeChar :
    OrderedCode (compare (α := Char)) (compare (α := UInt8)) String.utf8EncodeChar where
  ne_nil _ := String.utf8EncodeChar_ne_nil
  compare_append c d s t := by
    have hc := toNat_lt c
    have hd := toNat_lt d
    rw [encodeChar_eq, encodeChar_eq, List.cons_append, List.cons_append, compareLists,
      compare_ofNat (first_lt hc) (first_lt hd), compare_char]
    generalize c.toNat = v, d.toNat = w at hc hd
    rcases Nat.lt_trichotomy (trailing v) (trailing w) with h | h | h
    · obtain ⟨hvw, hfirst⟩ := lt_of_trailing_lt h hc
      rw [Nat.compare_eq_lt.2 hvw, Nat.compare_eq_lt.2 hfirst]
      rfl
    · rw [first, first, h, compare_add_right, compare_lead_continuation]
    · obtain ⟨hwv, hfirst⟩ := lt_of_trailing_lt h hd
      rw [Nat.compare_eq_gt.2 hwv, Nat.compare_eq_gt.2 hfirst]
      rfl

end Utf8

theorem toByteArray_eq_flatMap (s : String) :
    s.toByteArray.data.toList = s.toList.flatMap String.utf8EncodeChar := by
  rw [← String.utf8Encode_toList, List.utf8Encode, List.toList_data_toByteArray]

/-- Comparing texts byte by byte, character by character and as chunks of characters comes to the
same. -/
theorem compareUtf8_eq_compareChars (a b : String) :
    compareUtf8 a b = compareLists Comparator.natural.compare a.toList b.toList ∧
      compareUtf8 a b = (ChunkStream.natural (τ := Char)).stream.compareChunks
        (Chunk.ofString a) (Chunk.ofString b) := by
  have hchars : compareUtf8 a b = compareLists Comparator.natural.compare a.toList b.toList := by
    rw [compareUtf8, ← compareLists_eq_compareLex, toByteArray_eq_flatMap, toByteArray_eq_flatMap]
    exact Utf8.orderedCode_encodeChar.compareLists_flatMap a.toList b.toList
  refine ⟨hchars, hchars.trans ?_⟩
  show _ = compareLists _ (Chunk.ofList a.toList).toList (Chunk.ofList b.toList).toList
  rw [Chunk.toList_ofList, Chunk.toList_ofList]
  rfl

/-- A character of three bytes comes before one of four, and after one of two whatever follows it. -/
example : compareUtf8 "x\u07FF\uFFFF" "x\u07FF😀" = .lt ∧ compareUtf8 "\u0800" "\u07FFz" = .gt := by
  decide

end Pinpoint
