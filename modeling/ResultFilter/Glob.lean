/-!
# Path patterns

A path pattern is literal but for its stars, each of which stands for any run of bytes, the empty run
included. The pieces between the stars are found from left to right, each as early as possible: a
later place would leave less for the pieces that follow.

## Main definitions

* `Glob.Expands` — the texts that a pattern stands for.
* `Glob.pieces` — the literal pieces of a pattern.
* `Glob.dropPast?` — what follows the first occurrence of a piece.
* `Glob.isMatch` — the test.
-/

namespace ResultFilter.Glob

variable {α : Type} [DecidableEq α]

/-- The texts that a pattern stands for: a star stands for any run, all else for itself. -/
inductive Expands (star : α) : List α → List α → Prop where
  | nil : Expands star [] []
  | literal {c : α} {p t : List α} : c ≠ star → Expands star p t → Expands star (c :: p) (c :: t)
  | star {p t : List α} (run : List α) : Expands star p t → Expands star (star :: p) (run ++ t)

/-- The literal pieces of a pattern: the one before the first star, and those after each star. -/
def pieces (star : α) : List α → List α × List (List α)
  | [] => ([], [])
  | c :: p =>
    let (piece, rest) := pieces star p
    if c = star then ([], piece :: rest) else (c :: piece, rest)

/-- What follows the first occurrence of a piece. -/
def dropPast? (piece : List α) : List α → Option (List α)
  | [] => if piece.isEmpty then some [] else none
  | c :: t =>
    match piece.isPrefixOf? (c :: t) with
    | some rest => some rest
    | none => dropPast? piece t

/-- Tests the pieces that each follow a star: the last one has to end the text. -/
def matchPieces : List (List α) → List α → Bool
  | [], _ => false
  | [piece], t => piece.isSuffixOf t
  | piece :: next :: rest, t =>
    match dropPast? piece t with
    | some t => matchPieces (next :: rest) t
    | none => false

/-- Whether a pattern stands for a text. -/
def isMatch (star : α) (p t : List α) : Bool :=
  match pieces star p with
  | (piece, []) => piece == t
  | (piece, rest) =>
    match piece.isPrefixOf? t with
    | some t => matchPieces rest t
    | none => false

@[simp] theorem pieces_nil (star : α) : pieces star ([] : List α) = ([], []) := rfl

theorem pieces_star (star : α) (p : List α) :
    pieces star (star :: p) = ([], (pieces star p).1 :: (pieces star p).2) := by
  simp [pieces]

theorem pieces_literal {star c : α} (h : c ≠ star) (p : List α) :
    pieces star (c :: p) = (c :: (pieces star p).1, (pieces star p).2) := by
  simp [pieces, h]

end ResultFilter.Glob
