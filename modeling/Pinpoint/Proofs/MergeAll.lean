import Mathlib.Data.List.Induction
import Pinpoint.Proofs.MergeAssoc

/-! What all errors together come to: the errors at the furthest offset, and among them the fancy ones
if there are any, contribute their items in order, and no others do. -/

namespace Pinpoint

namespace ParseError

variable {τ ε : Type}

def isFancy : ParseError τ ε → Bool
  | .trivial _ _ _ => false
  | .fancy _ _ => true

def unexpected? : ParseError τ ε → Option (Fragment τ)
  | .trivial _ unexpected _ => unexpected
  | .fancy _ _ => none

def expectations : ParseError τ ε → List (Fragment τ)
  | .trivial _ _ expected => expected.items
  | .fancy _ _ => []

def complaints : ParseError τ ε → List (Complaint ε)
  | .trivial _ _ _ => []
  | .fancy _ complaints => complaints.items

@[simp] theorem isFancy_trivial (n : Nat) (u : Option (Fragment τ)) (x : OrderedSet (Fragment τ)) :
    (trivial n u x : ParseError τ ε).isFancy = false := rfl

@[simp] theorem isFancy_fancy (n : Nat) (c : OrderedSet (Complaint ε)) :
    (fancy n c : ParseError τ ε).isFancy = true := rfl

/-- The largest offset of the errors. -/
def furthest (es : List (ParseError τ ε)) : Nat := es.foldl (fun m e => max m e.offset) 0

/-- The errors at the largest offset. -/
def front (es : List (ParseError τ ε)) : List (ParseError τ ε) :=
  es.filter fun e => e.offset == furthest es

theorem furthest_concat (es : List (ParseError τ ε)) (e : ParseError τ ε) :
    furthest (es ++ [e]) = max (furthest es) e.offset := by
  simp [furthest]

theorem offset_le_furthest {es : List (ParseError τ ε)} {e : ParseError τ ε} (h : e ∈ es) :
    e.offset ≤ furthest es := by
  induction es using List.reverseRecOn with
  | nil => cases h
  | append_singleton es e' ih =>
    rw [furthest_concat]
    rcases List.mem_append.1 h with h | h
    · exact Nat.le_trans (ih h) (Nat.le_max_left ..)
    · rw [List.mem_singleton.1 h]
      exact Nat.le_max_right ..

theorem exists_offset_eq_furthest {es : List (ParseError τ ε)} (h : es ≠ []) :
    ∃ e ∈ es, e.offset = furthest es := by
  induction es using List.reverseRecOn with
  | nil => exact absurd rfl h
  | append_singleton es e ih =>
    rw [furthest_concat]
    by_cases hes : es = []
    · subst hes
      exact ⟨e, by simp, (Nat.zero_max _).symm⟩
    · obtain ⟨e', he', ho⟩ := ih hes
      rcases Nat.le_total (furthest es) e.offset with h | h
      · exact ⟨e, by simp, (Nat.max_eq_right h).symm⟩
      · exact ⟨e', by simp [he'], ho.trans (Nat.max_eq_left h).symm⟩

theorem front_concat_of_lt {es : List (ParseError τ ε)} {e : ParseError τ ε}
    (h : e.offset < furthest es) : front (es ++ [e]) = front es := by
  have hmax : furthest (es ++ [e]) = furthest es := by rw [furthest_concat]; omega
  have he : (e.offset == furthest es) = false := by simp; omega
  simp [front, hmax, he]

theorem front_concat_of_eq {es : List (ParseError τ ε)} {e : ParseError τ ε}
    (h : e.offset = furthest es) : front (es ++ [e]) = front es ++ [e] := by
  have hmax : furthest (es ++ [e]) = furthest es := by rw [furthest_concat]; omega
  simp [front, hmax, h]

theorem front_concat_of_gt {es : List (ParseError τ ε)} {e : ParseError τ ε}
    (h : furthest es < e.offset) : front (es ++ [e]) = [e] := by
  have hmax : furthest (es ++ [e]) = e.offset := by rw [furthest_concat]; omega
  have hes : ∀ e' ∈ es, e'.offset ≠ e.offset := by
    intro e' he'
    have := offset_le_furthest he'
    omega
  simpa [front, hmax] using hes

theorem flatMap_complaints_of_not_fancy {es : List (ParseError τ ε)} (h : ¬ es.any isFancy) :
    es.flatMap complaints = [] := by
  rw [List.flatMap_eq_nil_iff]
  intro e he
  cases e with
  | trivial => rfl
  | fancy o c => exact absurd (List.any_eq_true.2 ⟨_, he, rfl⟩) h

variable [BEq τ] [BEq ε]

/-- The errors that can be made: from sets that can be made, by moving an error and by merging. -/
inductive Built : ParseError τ ε → Prop
  | trivial {expected : OrderedSet (Fragment τ)} (offset : Nat) (unexpected : Option (Fragment τ))
      (h : expected.Built) : Built (.trivial offset unexpected expected)
  | fancy {complaints : OrderedSet (Complaint ε)} (offset : Nat) (h : complaints.Built) :
      Built (.fancy offset complaints)
  | relocate {e : ParseError τ ε} (h : Built e) (offset : Nat) : Built (e.relocate offset)
  | merge {a b : ParseError τ ε} (ha : Built a) (hb : Built b) : Built (a.merge b)

theorem Distinct.unite {a b : ParseError τ ε} (ha : a.Distinct) (hb : b.Distinct) :
    (a.unite b).Distinct := by
  cases a <;> cases b
  · exact OrderedSet.Distinct.insertMany ha _
  · exact hb
  · exact ha
  · exact OrderedSet.Distinct.insertMany ha _

theorem Distinct.merge {a b : ParseError τ ε} (ha : a.Distinct) (hb : b.Distinct) : (a.merge b).Distinct := by
  rcases Nat.lt_trichotomy a.offset b.offset with h | h | h
  · rwa [merge_of_offset_lt h]
  · rw [merge_of_offset_eq h]
    exact ha.unite hb
  · rwa [merge_of_offset_gt h]

theorem Built.distinct {e : ParseError τ ε} (h : e.Built) : e.Distinct := by
  induction h with
  | trivial _ _ h => exact h.distinct
  | fancy _ h => exact h.distinct
  | @relocate e _ _ ih => cases e <;> exact ih
  | merge _ _ iha ihb => exact iha.merge ihb

/-- Errors at one offset as one. Complaints count if there is a fancy error, else expectations and the
first unexpected fragment do. -/
def combine (offset : Nat) (es : List (ParseError τ ε)) : ParseError τ ε :=
  if es.any isFancy then .fancy offset (.ofList (es.flatMap complaints))
  else .trivial offset (es.findSome? unexpected?) (.ofList (es.flatMap expectations))

theorem combine_of_fancy {es : List (ParseError τ ε)} (h : es.any isFancy) (n : Nat) :
    combine n es = .fancy n (.ofList (es.flatMap complaints)) := if_pos h

theorem combine_of_not_fancy {es : List (ParseError τ ε)} (h : ¬ es.any isFancy) (n : Nat) :
    combine n es = .trivial n (es.findSome? unexpected?) (.ofList (es.flatMap expectations)) :=
  if_neg h

theorem offset_combine (n : Nat) (es : List (ParseError τ ε)) : (combine n es).offset = n := by
  unfold combine
  split <;> rfl

/-- One more error at the same offset. A first fancy error takes the place of all that was there, and
its set is the one that its items make. -/
theorem combine_unite {n : Nat} (es : List (ParseError τ ε)) {e : ParseError τ ε}
    (ho : e.offset = n) (hd : e.Distinct) : (combine n es).unite e = combine n (es ++ [e]) := by
  by_cases hf : es.any isFancy
  · have hf' : (es ++ [e]).any isFancy := by simp [hf]
    rw [combine_of_fancy hf, combine_of_fancy hf', List.flatMap_append, OrderedSet.ofList,
      OrderedSet.ofList, OrderedSet.insertMany_append]
    cases e with
    | trivial => rfl
    | fancy o c => simp [unite, OrderedSet.union, complaints]
  · rw [combine_of_not_fancy hf]
    cases e with
    | trivial o u x =>
      have hf' : ¬ (es ++ [trivial o u x]).any isFancy := by simpa using hf
      rw [combine_of_not_fancy hf', List.flatMap_append, List.findSome?_append, OrderedSet.ofList,
        OrderedSet.ofList, OrderedSet.insertMany_append]
      simp [unite, OrderedSet.union, expectations, unexpected?]
    | fancy o c =>
      have hf' : (es ++ [fancy o c]).any isFancy := by simp
      have hc : OrderedSet.ofList c.items = c := OrderedSet.ofList_items hd
      rw [combine_of_fancy hf', List.flatMap_append, flatMap_complaints_of_not_fancy hf]
      simp [unite, complaints, hc, ← ho, offset]

theorem combine_singleton {e : ParseError τ ε} (hd : e.Distinct) : combine e.offset [e] = e := by
  rw [← List.nil_append [e], ← combine_unite [] rfl hd]
  cases e with
  | trivial o u x =>
    have hx : OrderedSet.ofList x.items = x := OrderedSet.ofList_items hd
    show trivial o (none.or u) (.ofList x.items) = trivial o u x
    rw [hx, Option.none_or]
  | fancy o c => rfl

/-! Every item of the combination comes from one of the errors, and every item of an error of the same
shape is in it or is represented by an equal one. -/

theorem mem_expectations_of_combine {n : Nat} {es : List (ParseError τ ε)} {f : Fragment τ}
    (h : f ∈ (combine n es).expectations) : ∃ e ∈ es, f ∈ e.expectations := by
  by_cases hf : es.any isFancy
  · rw [combine_of_fancy hf] at h
    cases h
  · rw [combine_of_not_fancy hf] at h
    exact List.mem_flatMap.1 (OrderedSet.mem_of_mem_ofList h)

theorem mem_complaints_of_combine {n : Nat} {es : List (ParseError τ ε)} {c : Complaint ε}
    (h : c ∈ (combine n es).complaints) : ∃ e ∈ es, c ∈ e.complaints := by
  by_cases hf : es.any isFancy
  · rw [combine_of_fancy hf] at h
    exact List.mem_flatMap.1 (OrderedSet.mem_of_mem_ofList h)
  · rw [combine_of_not_fancy hf] at h
    cases h

theorem combine_keeps_expectation {n : Nat} {es : List (ParseError τ ε)} {e : ParseError τ ε}
    (he : e ∈ es) (hs : e.isFancy = (combine n es).isFancy) {f : Fragment τ}
    (hf : f ∈ e.expectations) : ∃ g ∈ (combine n es).expectations, g = f ∨ g == f := by
  by_cases h : es.any isFancy
  · rw [combine_of_fancy h] at hs
    cases e with
    | trivial => cases hs
    | fancy => cases hf
  · rw [combine_of_not_fancy h]
    exact OrderedSet.covers_insertMany _ (List.mem_flatMap.2 ⟨e, he, hf⟩)

theorem combine_keeps_complaint {n : Nat} {es : List (ParseError τ ε)} {e : ParseError τ ε}
    (he : e ∈ es) {c : Complaint ε} (hc : c ∈ e.complaints) :
    ∃ d ∈ (combine n es).complaints, d = c ∨ d == c := by
  have hmem : c ∈ es.flatMap complaints := List.mem_flatMap.2 ⟨e, he, hc⟩
  by_cases h : es.any isFancy
  · rw [combine_of_fancy h]
    exact OrderedSet.covers_insertMany _ hmem
  · rw [flatMap_complaints_of_not_fancy h] at hmem
    cases hmem

theorem mergeAll_concat (es : List (ParseError τ ε)) (e : ParseError τ ε) :
    mergeAll (es ++ [e]) = (mergeAll es).merge merge (some e) := by
  simp [mergeAll]

theorem mergeAll_eq_combine {es : List (ParseError τ ε)} (hne : es ≠ [])
    (hd : ∀ e ∈ es, e.Distinct) : mergeAll es = some (combine (furthest es) (front es)) := by
  induction es using List.reverseRecOn with
  | nil => exact absurd rfl hne
  | append_singleton es e ih =>
    have he : e.Distinct := hd e (by simp)
    by_cases hes : es = []
    · subst hes
      have hfront : front [e] = [e] := by simp [front, furthest]
      have hfar : furthest [e] = e.offset := by simp [furthest]
      rw [List.nil_append, hfront, hfar, combine_singleton he]
      rfl
    · rw [mergeAll_concat, ih hes (fun e' h' => hd e' (by simp [h'])), Option.merge_some_some]
      have ho := offset_combine (furthest es) (front es)
      rw [furthest_concat]
      rcases Nat.lt_trichotomy e.offset (furthest es) with h | h | h
      · rw [front_concat_of_lt h, merge_of_offset_gt (by omega), Nat.max_eq_left (by omega)]
      · rw [front_concat_of_eq h, merge_of_offset_eq (by omega), combine_unite _ h he,
          Nat.max_eq_left (by omega)]
      · rw [front_concat_of_gt h, merge_of_offset_lt (by omega), Nat.max_eq_right (by omega),
          combine_singleton he]

/-- The error that stands for all: it is made of the errors at the furthest offset in their order,
nothing of another offset is in it, and nothing of its own shape at that offset is missing. -/
theorem mergeAll_eq_combine_front {es : List (ParseError τ ε)} (hne : es ≠ [])
    (hb : ∀ e ∈ es, e.Built) :
    let r := combine (furthest es) (front es)
    mergeAll es = some r ∧
      (∃ e ∈ es, e.offset = furthest es) ∧ (∀ e ∈ es, e.offset ≤ furthest es) ∧
      (∀ f ∈ r.expectations, ∃ e ∈ front es, f ∈ e.expectations) ∧
      (∀ c ∈ r.complaints, ∃ e ∈ front es, c ∈ e.complaints) ∧
      ∀ e ∈ front es, e.isFancy = r.isFancy →
        (∀ f ∈ e.expectations, ∃ g ∈ r.expectations, g = f ∨ g == f) ∧
        (∀ c ∈ e.complaints, ∃ d ∈ r.complaints, d = c ∨ d == c) := by
  intro r
  refine ⟨mergeAll_eq_combine hne fun e he => (hb e he).distinct, exists_offset_eq_furthest hne,
    fun e he => offset_le_furthest he, fun f hf => mem_expectations_of_combine hf,
    fun c hc => mem_complaints_of_combine hc, ?_⟩
  intro e he hs
  exact ⟨fun f hf => combine_keeps_expectation he hs hf, fun c hc => combine_keeps_complaint he hc⟩

/-- Mismatches at the furthest offset on both sides of a complaint that falls short of it. -/
theorem mergeAll_eq_combine_front_mixed :
    let es : List (ParseError Char String) :=
      [.mismatch 5 none [.label "a"], .fail 2 "short",
        .mismatch 5 (some .endOfInput) [.label "b", .label "a"]]
    es ≠ [] ∧ (∀ e ∈ es, e.Built) ∧ mergeAll es = some (combine (furthest es) (front es)) ∧
      combine (furthest es) (front es) =
        .trivial 5 (some .endOfInput) ⟨[.label "a", .label "b"]⟩ := by
  intro es
  have hne : es ≠ [] := List.cons_ne_nil _ _
  have hb : ∀ e ∈ es, e.Built := by
    intro e he
    simp only [es, List.mem_cons, List.not_mem_nil, or_false] at he
    rcases he with rfl | rfl | rfl
    · exact .trivial _ _ (.ofList _)
    · exact .fancy _ (.ofList _)
    · exact .trivial _ _ (.ofList _)
  exact ⟨hne, hb, (mergeAll_eq_combine_front hne hb).1, rfl⟩

end ParseError

end Pinpoint
