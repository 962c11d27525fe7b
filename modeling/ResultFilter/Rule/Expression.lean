import ResultFilter.Props
import ResultFilter.Regex.Basic
import ResultFilter.Text.Lower

/-!
# Property expressions

The conditions of rules and guards: tests of properties, put together by `not`, `and` and `or`. A test of
a property that a search result does not have is false.

## Main definitions

* `StringOp` — the comparisons of texts.
* `Expression` — a condition.
* `Expression.comparison` — a comparison, its operand in lower case if case does not count.
* `Expression.eval` — whether a condition holds.
-/

namespace ResultFilter

open ResultFilter.Text

/-- How a property is compared with a text. -/
inductive StringOp where
  /-- `=` -/
  | equals
  /-- `^=` -/
  | startsWith
  /-- `$=` -/
  | endsWith
  /-- `*=` -/
  | contains
deriving DecidableEq, Repr

/-- Whether a comparison holds. -/
def StringOp.holds (op : StringOp) (actual expected : Text) : Bool :=
  match op with
  | .equals => actual == expected
  | .startsWith => Text.startsWith actual expected
  | .endsWith => Text.endsWith actual expected
  | .contains => Text.includes actual expected

/-- A condition on a search result. -/
inductive Expression where
  | not (e : Expression)
  | and (a b : Expression)
  | or (a b : Expression)
  /-- A comparison of a property; if case does not count the property is taken in lower case. -/
  | compare (prop : Text) (op : StringOp) (value : Text) (ignoreCase : Bool)
  /-- A search of a property. -/
  | search (prop : Text) (regex : Regex)
deriving DecidableEq

namespace Expression

/-- A comparison, its operand in lower case if case does not count. -/
def comparison (prop : Text) (op : StringOp) (value : Text) (ignoreCase : Bool) : Expression :=
  .compare prop op (if ignoreCase then toLower value else value) ignoreCase

/-- Whether a condition holds. -/
def eval (props : Props) : Expression → Bool
  | .not e => !e.eval props
  | .and a b => a.eval props && b.eval props
  | .or a b => a.eval props || b.eval props
  | .compare prop op value ignoreCase =>
    match props.get? prop with
    | some actual => op.holds (if ignoreCase then toLower actual else actual) value
    | none => false
  | .search prop regex =>
    match props.get? prop with
    | some actual => regex.isMatch actual
    | none => false

end Expression

end ResultFilter
