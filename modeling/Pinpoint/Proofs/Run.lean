import Pinpoint.Proofs.Advance
import Pinpoint.State.Basic

/-! Runs of a parse: step after step, each with what can be seen of it from outside. -/

namespace Pinpoint

/-- A step hands out tokens, puts an error off, or brings the cached cursor up to date. -/
inductive Event (τ ε : Type) where
  | took (ts : List τ)
  | deferred (e : ParseError τ ε)
  | synced

namespace ParseState

variable {τ κ ε : Type} {S : TokenStream τ κ} {s s' : ParseState τ κ ε}

theorem advanceBy_eq_ok_iff {n : Nat} {rest : κ} :
    s.advanceBy n rest = .ok s' ↔ s.offset + n < Count.limit ∧
      s' = { s with input := rest, offset := s.offset + n } := by
  constructor
  · intro h
    obtain ⟨offset, ho, h⟩ := Checked.bind_eq_ok_iff.1 h
    obtain ⟨rfl, hlt⟩ := Count.add_eq_ok_iff.1 ho
    cases h
    exact ⟨hlt, rfl⟩
  · rintro ⟨hlt, rfl⟩
    exact Checked.bind_eq_ok_iff.2 ⟨_, Count.add_eq_ok_iff.2 ⟨rfl, hlt⟩, rfl⟩

/-! Each step that consumes input is a move of the stream followed by `advanceBy`. -/

theorem advanceBy_of_next {t : τ} (h : s.next S = .ok (some (t, s'))) :
    ∃ rest, S.next? s.input = some (t, rest) ∧ s.advanceBy 1 rest = .ok s' := by
  unfold ParseState.next at h
  split at h
  · cases h
  · next t' rest hn =>
    obtain ⟨s₁, ha, h⟩ := Checked.bind_eq_ok_iff.1 h
    cases h
    exact ⟨rest, hn, ha⟩

theorem advanceBy_of_read {n : Nat} {taken : κ} (h : s.read S n = .ok (some (taken, s'))) :
    ∃ rest, S.read n s.input = some (taken, rest) ∧
      s.advanceBy (S.length taken) rest = .ok s' := by
  unfold ParseState.read at h
  split at h
  · cases h
  · next taken' rest hn =>
    obtain ⟨s₁, ha, h⟩ := Checked.bind_eq_ok_iff.1 h
    cases h
    exact ⟨rest, hn, ha⟩

theorem advanceBy_of_readWhileM {σ : Type} {p : τ → StateM σ Bool} {x y : σ} {taken : κ}
    (h : (s.readWhileM S p).run x = (.ok (taken, s'), y)) :
    ∃ rest, (S.spanM p s.input).run x = ((taken, rest), y) ∧
      s.advanceBy (S.length taken) rest = .ok s' := by
  obtain ⟨hr, rfl⟩ := Prod.mk.inj h
  obtain ⟨s₁, ha, h⟩ := Checked.bind_eq_ok_iff.1 hr
  cases h
  exact ⟨_, rfl, ha⟩

theorem advanceBy_of_satisfyM [BEq τ] {σ : Type} {p : τ → StateM σ Bool} {x y : σ}
    {expected : List (Fragment τ)} {t : τ}
    (h : (s.satisfyM S p expected).run x = (.ok (.ok (t, s')), y)) :
    ∃ rest, S.next? s.input = some (t, rest) ∧ s.advanceBy 1 rest = .ok s' := by
  unfold ParseState.satisfyM at h
  split at h
  · cases h
  · next t' rest hn =>
    rw [StateT.run_bind] at h
    rcases hp : (p t').run x with ⟨passed, x'⟩
    rw [hp] at h
    cases passed with
    | false => cases h
    | true =>
      obtain ⟨hr, rfl⟩ := Prod.mk.inj h
      obtain ⟨s₁, ha, h⟩ := Checked.bind_eq_ok_iff.1 hr
      cases h
      exact ⟨rest, hn, ha⟩

variable [CharLike τ]

theorem sync_eq_ok_iff : s.sync S = .ok s' ↔
    ∃ c, s.cursorAt S s.offset = .ok c ∧ s' = { s with cached := c } := by
  constructor
  · intro h
    obtain ⟨c, hc, h⟩ := Checked.bind_eq_ok_iff.1 h
    cases h
    exact ⟨c, hc, rfl⟩
  · rintro ⟨c, hc, rfl⟩
    exact Checked.bind_eq_ok_iff.2 ⟨c, hc, rfl⟩

variable [BEq τ]

/-- One step to a new state. `Rest c n r` says that a caller of `advanceBy` may pass `r` for what
remains of `c` after `n` tokens. -/
inductive Step (S : TokenStream τ κ) (Rest : κ → Nat → κ → Prop) :
    ParseState τ κ ε → Event τ ε → ParseState τ κ ε → Prop
  | next {s s' : ParseState τ κ ε} {t : τ} (h : s.next S = .ok (some (t, s'))) :
      Step S Rest s (.took [t]) s'
  | read {s s' : ParseState τ κ ε} {n : Nat} {taken : κ}
      (h : s.read S n = .ok (some (taken, s'))) : Step S Rest s (.took (S.toList taken)) s'
  | readWhile {s s' : ParseState τ κ ε} {σ : Type} {p : τ → StateM σ Bool} {x y : σ} {taken : κ}
      (h : (s.readWhileM S p).run x = (.ok (taken, s'), y)) :
      Step S Rest s (.took (S.toList taken)) s'
  | satisfy {s s' : ParseState τ κ ε} {σ : Type} {p : τ → StateM σ Bool} {x y : σ}
      {expected : List (Fragment τ)} {t : τ}
      (h : (s.satisfyM S p expected).run x = (.ok (.ok (t, s')), y)) :
      Step S Rest s (.took [t]) s'
  | defer {s : ParseState τ κ ε} (e : ParseError τ ε) : Step S Rest s (.deferred e) (s.defer e)
  | sync {s s' : ParseState τ κ ε} (h : s.sync S = .ok s') : Step S Rest s .synced s'
  | advanceBy {s s' : ParseState τ κ ε} {n : Nat} {rest : κ} (hrest : Rest s.input n rest)
      (h : s.advanceBy n rest = .ok s') : Step S Rest s (.took ((S.toList s.input).take n)) s'

/-- Finitely many steps, with their events in order. -/
inductive Run (S : TokenStream τ κ) (Rest : κ → Nat → κ → Prop) :
    ParseState τ κ ε → List (Event τ ε) → ParseState τ κ ε → Prop
  | refl (s : ParseState τ κ ε) : Run S Rest s [] s
  | step {s s' s'' : ParseState τ κ ε} {es : List (Event τ ε)} {e : Event τ ε}
      (h : Run S Rest s es s') (hs : Step S Rest s' e s'') : Run S Rest s (es ++ [e]) s''

variable {Rest : κ → Nat → κ → Prop} {e : Event τ ε} {es : List (Event τ ε)}

/-- The fields that a step can change, by the kind of step. -/
theorem step_cases (h : Step S Rest s e s') :
    (∃ ts n rest, e = .took ts ∧ s.offset + n < Count.limit ∧
      s' = { s with input := rest, offset := s.offset + n }) ∨
    (∃ err, e = .deferred err ∧ s' = { s with deferred := err :: s.deferred }) ∨
    (e = .synced ∧ ∃ c, s.cursorAt S s.offset = .ok c ∧ s' = { s with cached := c }) := by
  cases h with
  | next h =>
    obtain ⟨rest, -, ha⟩ := advanceBy_of_next h
    exact Or.inl ⟨_, _, rest, rfl, advanceBy_eq_ok_iff.1 ha⟩
  | read h =>
    obtain ⟨rest, -, ha⟩ := advanceBy_of_read h
    exact Or.inl ⟨_, _, rest, rfl, advanceBy_eq_ok_iff.1 ha⟩
  | readWhile h =>
    obtain ⟨rest, -, ha⟩ := advanceBy_of_readWhileM h
    exact Or.inl ⟨_, _, rest, rfl, advanceBy_eq_ok_iff.1 ha⟩
  | satisfy h =>
    obtain ⟨rest, -, ha⟩ := advanceBy_of_satisfyM h
    exact Or.inl ⟨_, _, rest, rfl, advanceBy_eq_ok_iff.1 ha⟩
  | defer err => exact Or.inr (Or.inl ⟨err, rfl, rfl⟩)
  | sync h => exact Or.inr (Or.inr ⟨rfl, sync_eq_ok_iff.1 h⟩)
  | advanceBy _ h => exact Or.inl ⟨_, _, _, rfl, advanceBy_eq_ok_iff.1 h⟩

/-- What every step keeps, every run keeps. The invariant may speak of the events so far. -/
theorem trace_invariant (Inv : List (Event τ ε) → ParseState τ κ ε → Prop) {s₀ : ParseState τ κ ε}
    (keep : ∀ {es s e s'}, Run S Rest s₀ es s → Step S Rest s e s' → Inv es s → Inv (es ++ [e]) s')
    (h : Run S Rest s₀ es s) (h₀ : Inv [] s₀) : Inv es s := by
  induction h with
  | refl => exact h₀
  | step hrun hstep ih => exact keep hrun hstep ih

theorem run_invariant {Inv : ParseState τ κ ε → Prop}
    (keep : ∀ {s e s'}, Step S Rest s e s' → Inv s → Inv s')
    (h : Run S Rest s es s') (hs : Inv s) : Inv s' :=
  trace_invariant (fun _ => Inv) (fun _ => keep) h hs

end ParseState

end Pinpoint
