import ResultFilter.Text.Basic

/-!
# Decisions

What happens to a search result: it is blocked, left alone, or highlighted in a colour. Each rule that
fires votes for one of these by its specifier, and the strongest vote counts.

## Main definitions

* `Specifier` — the mark before a rule; a rule without one blocks.
* `Decision` — the outcomes, from the weakest to the strongest.
* `Decision.aggregate` — the strongest vote.
* `RuleMatch` — a rule that fired.
-/

namespace ResultFilter

open ResultFilter.Text

/-- The mark before a rule. -/
inductive Specifier where
  /-- `@`, leave the result alone. -/
  | negate
  /-- `@N`, highlight the result in colour `N`. -/
  | highlight (color : Nat)
deriving DecidableEq, Repr

namespace Specifier

/-- The number that a specifier is stored as. -/
def code : Specifier → Nat
  | .negate => 0
  | .highlight color => color

/-- The specifier stored as a number. -/
def ofCode (n : Nat) : Specifier :=
  if n = 0 then .negate else .highlight n

/-- A specifier as it is written in a rule. -/
def render : Specifier → Text
  | .negate => ['@']
  | .highlight color => '@' :: decimalDigits color

@[simp] theorem code_ofCode (n : Nat) : (ofCode n).code = n := by
  by_cases h : n = 0 <;> simp [ofCode, h, code]

end Specifier

/-- What happens to a search result. -/
inductive Decision where
  | block
  | unblock
  | highlight (color : Nat)
deriving DecidableEq, Repr

namespace Decision

/-- The strength of a decision: blocking is the weakest, and a higher colour beats a lower one. -/
def rank : Decision → Nat
  | .block => 0
  | .unblock => 1
  | .highlight color => color + 2

/-- The decision that a rule votes for. -/
def ofSpecifier : Option Specifier → Decision
  | none => .block
  | some .negate => .unblock
  | some (.highlight color) => .highlight color

/-- The stronger of two decisions. -/
def max (a b : Decision) : Decision :=
  if a.rank ≤ b.rank then b else a

/-- The strongest vote of some rules, if there is any. -/
def aggregate : List (Option Specifier) → Option Decision
  | [] => none
  | s :: rest =>
    match aggregate rest with
    | none => some (ofSpecifier s)
    | some d => some (max (ofSpecifier s) d)

/-- A decision in words. -/
def render : Decision → Text
  | .block => "block".toList
  | .unblock => "unblock".toList
  | .highlight color => "highlight(".toList ++ decimalDigits color ++ [')']

theorem rank_injective {a b : Decision} (h : a.rank = b.rank) : a = b := by
  cases a <;> cases b <;> simp_all [rank]

@[simp] theorem aggregate_nil : aggregate [] = none := rfl

theorem aggregate_eq_none_iff (l : List (Option Specifier)) : aggregate l = none ↔ l = [] := by
  cases l with
  | nil => simp
  | cons s rest =>
    simp only [aggregate, reduceCtorEq, iff_false]
    split <;> simp

end Decision

/-- A rule that fired. -/
structure RuleMatch where
  /-- The line of the rule. -/
  line : Nat
  /-- Its specifier. -/
  specifier : Option Specifier
deriving DecidableEq, Repr

namespace RuleMatch

/-- The decision that the rule votes for. -/
def decision (m : RuleMatch) : Decision :=
  .ofSpecifier m.specifier

/-- Whether the rule blocks. -/
def isPlainBlock (m : RuleMatch) : Bool :=
  m.specifier.isNone

end RuleMatch

end ResultFilter
