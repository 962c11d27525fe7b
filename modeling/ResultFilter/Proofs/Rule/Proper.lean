import ResultFilter.Proofs.Rule.Steps
import ResultFilter.Proofs.Rule.Stored

/-!
# Rules read from lines

Whatever a line spells can be stored: its colour fits in thirty-two bits, and each of its regular
expressions has been read.

## Main definitions

* `RuleBody.IsProper`, `Rule.IsProper` — the rules that can be stored.

## Main results

* `Rule.isProper_of_ofLine` — a rule that was read from a line can be stored.
-/

namespace ResultFilter

open ResultFilter.Text

/-- The conditions of a body can be stored. -/
def RuleBody.IsProper : RuleBody → Prop
  | .pattern _ guard => ∀ e ∈ guard, e.IsProper
  | .regex _ r => r.IsProper
  | .expression e => e.IsProper

/-- A rule can be stored. -/
structure Rule.IsProper (rule : Rule) : Prop where
  /-- Its specifier can. -/
  specifier : ∀ s ∈ rule.specifier, s.IsProper
  /-- Its conditions can. -/
  body : rule.body.IsProper

namespace Rule

theorem isProper_of_readRegex {width : Nat} {cs rest : Text} {r : Regex}
    (h : readRegex width cs = .ok (r, rest)) : r.IsProper := by
  unfold readRegex at h
  obtain ⟨after, -, h⟩ := Except.bind_eq_ok_iff.mp h
  split at h
  · exact absurd h (by simp)
  · split at h
    · exact absurd h (by simp)
    · split at h
      · exact absurd h (by simp)
      · split at h
        · next hr =>
          obtain ⟨rfl, -⟩ := Prod.mk.inj (Except.ok.inj h)
          exact Regex.isProper_of_ofText hr
        · exact absurd h (by simp)

theorem isProper_of_readPredicate {width : Nat} {cs rest : Text} {e : Expression}
    (h : readPredicate width cs = .ok (e, rest)) : e.IsProper := by
  unfold readPredicate at h
  obtain ⟨⟨prop, after⟩, -, h⟩ := Except.bind_eq_ok_iff.mp h
  dsimp only at h
  split at h
  · obtain ⟨⟨r, last⟩, hr, h⟩ := Except.bind_eq_ok_iff.mp h
    obtain ⟨rfl, -⟩ := Prod.mk.inj (Except.ok.inj h)
    exact isProper_of_readRegex hr
  · split at h
    · exact absurd h (by simp)
    · obtain ⟨⟨value, last⟩, -, h⟩ := Except.bind_eq_ok_iff.mp h
      obtain ⟨rfl, -⟩ := Prod.mk.inj (Except.ok.inj h)
      exact trivial

/-- The readers of conditions read what can be stored. -/
structure ReadsProper (width fuel : Nat) : Prop where
  or {cs rest : Text} {e : Expression} : readOr width fuel cs = .ok (e, rest) → e.IsProper
  orRest {left e : Expression} {cs rest : Text} :
    left.IsProper → readOrRest width fuel left cs = .ok (e, rest) → e.IsProper
  and {cs rest : Text} {e : Expression} : readAnd width fuel cs = .ok (e, rest) → e.IsProper
  andRest {left e : Expression} {cs rest : Text} :
    left.IsProper → readAndRest width fuel left cs = .ok (e, rest) → e.IsProper
  unary {cs rest : Text} {e : Expression} : readUnary width fuel cs = .ok (e, rest) → e.IsProper

theorem readsProper (width : Nat) : ∀ fuel, ReadsProper width fuel := by
  intro fuel
  induction fuel with
  | zero =>
    exact ⟨(fun h => nomatch h), (fun _ h => nomatch h), (fun h => nomatch h), (fun _ h => nomatch h),
      (fun h => nomatch h)⟩
  | succ fuel ih =>
    refine ⟨fun {cs rest e} h => ?_, fun {left e cs rest} hleft h => ?_, fun {cs rest e} h => ?_,
      fun {left e cs rest} hleft h => ?_, fun {cs rest e} h => ?_⟩
    · rw [readOr] at h
      obtain ⟨⟨a, after⟩, ha, h⟩ := Except.bind_eq_ok_iff.mp h
      exact ih.orRest (ih.and ha) h
    · rw [readOrRest] at h
      split at h
      · obtain ⟨⟨a, after⟩, ha, h⟩ := Except.bind_eq_ok_iff.mp h
        exact ih.orRest (show (Expression.or left a).IsProper from ⟨hleft, ih.and ha⟩) h
      · obtain ⟨rfl, -⟩ := Prod.mk.inj (Except.ok.inj h)
        exact hleft
    · rw [readAnd] at h
      obtain ⟨⟨a, after⟩, ha, h⟩ := Except.bind_eq_ok_iff.mp h
      exact ih.andRest (ih.unary ha) h
    · rw [readAndRest] at h
      split at h
      · obtain ⟨⟨a, after⟩, ha, h⟩ := Except.bind_eq_ok_iff.mp h
        exact ih.andRest (show (Expression.and left a).IsProper from ⟨hleft, ih.unary ha⟩) h
      · obtain ⟨rfl, -⟩ := Prod.mk.inj (Except.ok.inj h)
        exact hleft
    · rw [readUnary] at h
      split at h
      · obtain ⟨⟨a, after⟩, ha, h⟩ := Except.bind_eq_ok_iff.mp h
        obtain ⟨rfl, -⟩ := Prod.mk.inj (Except.ok.inj h)
        show a.IsProper
        exact ih.unary ha
      · obtain ⟨⟨a, after⟩, ha, h⟩ := Except.bind_eq_ok_iff.mp h
        obtain ⟨last, -, h⟩ := Except.bind_eq_ok_iff.mp h
        obtain ⟨rfl, -⟩ := Prod.mk.inj (Except.ok.inj h)
        exact ih.or ha
      · exact isProper_of_readPredicate h

theorem isProper_of_readExpression {width : Nat} {cs rest : Text} {e : Expression}
    (h : readExpression width cs = .ok (e, rest)) : e.IsProper :=
  (readsProper width _).or h

theorem isProper_of_readSpecifier {cs rest : Text} {specifier : Option Specifier}
    (h : readSpecifier cs = .ok (specifier, rest)) : ∀ s ∈ specifier, s.IsProper := by
  intro s hs
  cases readSpecifier_eq_ok_iff.mp h with
  | negate =>
    obtain rfl := Option.some.inj hs
    exact trivial
  | highlight _ _ hrange =>
    obtain rfl := Option.some.inj hs
    exact hrange
  | absent => exact absurd hs (by simp)

theorem isProper_of_readBody {width : Nat} {cs rest : Text} {body : RuleBody}
    (h : readBody width cs = .ok (body, rest)) : body.IsProper := by
  cases readBody_eq_ok_iff.mp h with
  | pattern => exact fun e he => absurd he (by simp)
  | regex _ _ hread => exact isProper_of_readRegex hread
  | expression _ _ hread => exact isProper_of_readExpression hread

theorem isProper_of_readGuard {width : Nat} {cs rest : Text} {e : Expression}
    (h : readGuard width cs = .ok (e, rest)) : e.IsProper := by
  unfold readGuard at h
  obtain ⟨_, -, h⟩ := Except.bind_eq_ok_iff.mp h
  obtain ⟨⟨a, _⟩, ha, h⟩ := Except.bind_eq_ok_iff.mp h
  obtain ⟨_, -, h⟩ := Except.bind_eq_ok_iff.mp h
  obtain ⟨rfl, -⟩ := Prod.mk.inj (Except.ok.inj h)
  exact isProper_of_readExpression ha

/-- A rule that was read from a line can be stored. -/
theorem isProper_of_ofLine {line : Text} {rule : Rule} (h : ofLine line = .ok (some rule)) : rule.IsProper := by
  obtain ⟨rest, body, after, hspecifier, hbody, hrule⟩ := parts_of_ofLine h
  refine ⟨isProper_of_readSpecifier hspecifier, ?_⟩
  rcases hrule with hrule | ⟨p, guard, cs, last, hguard, hrule⟩
  · rw [hrule]
    exact isProper_of_readBody hbody
  · rw [hrule]
    intro e he
    obtain rfl := Option.some.inj he
    exact isProper_of_readGuard hguard

end Rule

end ResultFilter
