import ResultFilter.Proofs.Rule.Steps
import ResultFilter.Text.Utf8

/-!
# A cursor on the bytes of a line

The readers of a rule line hand on what is left of it. A cursor does the same with a number: it counts the bytes
of the line that stand before it, moves on by the lengths of characters, goes back to places that it has kept,
and cuts the line at such places. A line cannot be cut within a character or behind its end; where that is tried,
or where a count would become negative, a scanner has no outcome at all.

At a place where some end of the line begins the scanners below find what the readers find in that end, they
have an outcome, and they leave the cursor at another such place.

## Main definitions

* `Text.dropBytes?`, `Text.slice?` — a text cut at byte positions.
* `Cursor`, `Scanner` — a place in a line, and a step from such places.
* `Cursor.atRest` — the place where an end of the line begins.
* `Scanner.Follows` — a scanner finds what a reader finds.

## Main results

* `Text.dropBytes?_eq_some_iff`, `Text.slice?_eq_some_iff` — where a text can be cut.
* `Scanner.Follows.bind` — scanners follow readers one after another.
* `Scanner.follows_takeWhile`, `Scanner.follows_unexpected` — what the cursor does by itself.
-/

namespace ResultFilter

/-! ### Cutting a text at its bytes -/

namespace Text

/-- The number of bytes of a text. -/
def byteLength (cs : Text) : ℕ :=
  (utf8 cs).length

/-- What is left of a text behind some of its bytes, unless these end within a character or there are fewer. -/
def dropBytes? : ℕ → Text → Option Text
  | 0, cs => some cs
  | _ + 1, [] => none
  | n + 1, c :: cs => if c.utf8Size ≤ n + 1 then dropBytes? (n + 1 - c.utf8Size) cs else none

/-- The bytes of a text up to some number of them, unless these end within a character or there are fewer. -/
def takeBytes? : ℕ → Text → Option Text
  | 0, _ => some []
  | _ + 1, [] => none
  | n + 1, c :: cs =>
    if c.utf8Size ≤ n + 1 then (takeBytes? (n + 1 - c.utf8Size) cs).map (c :: ·) else none

/-- The text between two byte positions, unless they are out of order or one of them is no place to cut. -/
def slice? (start stop : ℕ) (cs : Text) : Option Text :=
  if start ≤ stop then (takeBytes? stop cs).bind (dropBytes? start) else none

@[simp] theorem byteLength_nil : byteLength [] = 0 := rfl

@[simp] theorem byteLength_cons (c : Char) (cs : Text) : byteLength (c :: cs) = c.utf8Size + byteLength cs := by
  rw [byteLength, utf8_cons, List.length_append, String.length_utf8EncodeChar, byteLength]

@[simp] theorem byteLength_append (front back : Text) :
    byteLength (front ++ back) = byteLength front + byteLength back := by
  rw [byteLength, utf8_append, List.length_append, byteLength, byteLength]

theorem dropBytes?_append (front back : Text) : dropBytes? (byteLength front) (front ++ back) = some back := by
  induction front with
  | nil => cases back <;> rfl
  | cons c front ih =>
    obtain ⟨n, hn⟩ := Nat.exists_eq_add_one.mpr (Nat.add_pos_left c.utf8Size_pos (byteLength front))
    rw [List.cons_append, byteLength_cons, hn, dropBytes?, if_pos (by omega), ← hn, Nat.add_sub_cancel_left, ih]

theorem takeBytes?_append (front back : Text) : takeBytes? (byteLength front) (front ++ back) = some front := by
  induction front with
  | nil => cases back <;> rfl
  | cons c front ih =>
    obtain ⟨n, hn⟩ := Nat.exists_eq_add_one.mpr (Nat.add_pos_left c.utf8Size_pos (byteLength front))
    rw [List.cons_append, byteLength_cons, hn, takeBytes?, if_pos (by omega), ← hn, Nat.add_sub_cancel_left, ih,
      Option.map_some]

/-- A text can be cut just where one of its characters begins, or at its end. -/
theorem dropBytes?_eq_some_iff {n : ℕ} {cs back : Text} :
    dropBytes? n cs = some back ↔ ∃ front, cs = front ++ back ∧ byteLength front = n := by
  constructor
  · intro h
    fun_induction dropBytes? n cs with
    | case1 cs =>
      obtain rfl := Option.some.inj h
      exact ⟨[], rfl, rfl⟩
    | case2 => exact nomatch h
    | case3 n c cs hle ih =>
      obtain ⟨front, rfl, hfront⟩ := ih h
      refine ⟨c :: front, rfl, ?_⟩
      rw [byteLength_cons, hfront]
      omega
    | case4 => exact nomatch h
  · rintro ⟨front, rfl, rfl⟩
    exact dropBytes?_append front back

theorem takeBytes?_eq_some_iff {n : ℕ} {cs front : Text} :
    takeBytes? n cs = some front ↔ ∃ back, cs = front ++ back ∧ byteLength front = n := by
  constructor
  · intro h
    fun_induction takeBytes? n cs generalizing front with
    | case1 cs =>
      obtain rfl := Option.some.inj h
      exact ⟨cs, rfl, rfl⟩
    | case2 => exact nomatch h
    | case3 n c cs hle ih =>
      obtain ⟨front, hfront, rfl⟩ := Option.map_eq_some_iff.mp h
      obtain ⟨back, rfl, hlength⟩ := ih hfront
      refine ⟨back, rfl, ?_⟩
      rw [byteLength_cons, hlength]
      omega
    | case4 => exact nomatch h
  · rintro ⟨back, rfl, rfl⟩
    exact takeBytes?_append front back

/-- A piece of a text can be cut out just between two such places. -/
theorem slice?_eq_some_iff {start stop : ℕ} {cs piece : Text} :
    slice? start stop cs = some piece
      ↔ ∃ front back, cs = front ++ (piece ++ back) ∧ byteLength front = start
        ∧ byteLength (front ++ piece) = stop := by
  unfold slice?
  constructor
  · intro h
    split at h
    · obtain ⟨whole, hwhole, hpiece⟩ := Option.bind_eq_some_iff.mp h
      obtain ⟨back, rfl, hstop⟩ := takeBytes?_eq_some_iff.mp hwhole
      obtain ⟨front, rfl, hstart⟩ := dropBytes?_eq_some_iff.mp hpiece
      exact ⟨front, back, List.append_assoc front piece back, hstart, hstop⟩
    · exact nomatch h
  · rintro ⟨front, back, rfl, rfl, rfl⟩
    have hle : byteLength front ≤ byteLength (front ++ piece) := by
      rw [byteLength_append]
      exact Nat.le_add_right _ _
    rw [if_pos hle, Option.bind_eq_some_iff]
    exact ⟨front ++ piece, takeBytes?_eq_some_iff.mpr ⟨back, (List.append_assoc front piece back).symm, rfl⟩,
      dropBytes?_eq_some_iff.mpr ⟨front, rfl, rfl⟩⟩

/-- Between two such places a text is what stands there. -/
theorem slice?_eq (front piece back : Text) :
    slice? (byteLength front) (byteLength (front ++ piece)) (front ++ (piece ++ back)) = some piece :=
  slice?_eq_some_iff.mpr ⟨front, back, rfl, rfl, rfl⟩

end Text

open ResultFilter.Text

/-! ### Scanners -/

/-- A place in a line: so many bytes of the line stand before it. -/
structure Cursor where
  /-- The line. -/
  line : Text
  /-- The bytes before the place. -/
  pos : ℕ
deriving DecidableEq, Repr

/-- A step from places in a line to a value or a fault, and to the place where the cursor is left; there is no
outcome if the line is cut where it cannot be. -/
abbrev Scanner := ExceptT SyntaxError (StateT Cursor Option)

namespace Scanner

variable {α β : Type}

/-- The outcome of a scanner from a place. -/
def runFrom (m : Scanner α) (cursor : Cursor) : Option (Except SyntaxError α × Cursor) :=
  m.run.run cursor

/-- There is no outcome. -/
def noOutcome : Scanner α :=
  liftM (none : Option α)

/-- The byte position of the cursor. -/
def place : Scanner ℕ := do
  return (← get).pos

/-- Puts the cursor at a byte position. -/
def returnTo (pos : ℕ) : Scanner Unit :=
  modify fun cursor => { cursor with pos := pos }

/-- Puts the cursor some bytes further on. -/
def move (bytes : ℕ) : Scanner Unit :=
  modify fun cursor => { cursor with pos := cursor.pos + bytes }

/-- Puts the cursor some bytes further on, but not behind the end of the line. -/
def advance (bytes : ℕ) : Scanner Unit :=
  modify fun cursor => { cursor with pos := min (cursor.pos + bytes) (byteLength cursor.line) }

/-- The difference of two numbers, unless it would be negative. -/
def difference (n m : ℕ) : Scanner ℕ :=
  if m ≤ n then return n - m else noOutcome

/-- Puts the cursor back over a character. -/
def retreat (c : Char) : Scanner Unit := do
  returnTo (← difference (← place) c.utf8Size)

/-- The line between two byte positions. -/
def slice (start stop : ℕ) : Scanner Text := do
  liftM (slice? start stop (← get).line)

/-- What is left of the line. -/
def rest : Scanner Text := do
  let cursor ← get
  liftM (dropBytes? cursor.pos cursor.line)

/-- Whether nothing is left of the line. -/
def atEnd : Scanner Bool := do
  let cursor ← get
  return byteLength cursor.line ≤ cursor.pos

/-- The next character. -/
def peek : Scanner (Option Char) := do
  return (← rest).head?

/-- The character behind the next one. -/
def peekSecond : Scanner (Option Char) := do
  return (← rest)[1]?

/-- Takes the next character. -/
def bump : Scanner (Option Char) := do
  match ← peek with
  | none => return none
  | some c =>
    move c.utf8Size
    return some c

/-- Takes the next character if it is a given one. -/
def eat (c : Char) : Scanner Bool := do
  if (← peek) = some c then
    move c.utf8Size
    return true
  else return false

/-- Takes a given text if it comes next. -/
def eatText (mark : Text) : Scanner Bool := do
  if mark.isPrefixOf (← rest) then
    move (byteLength mark)
    return true
  else return false

/-- Takes characters as long as they are of a kind; the number bounds the steps. -/
def passWhile (p : Char → Bool) : ℕ → Scanner Unit
  | 0 => noOutcome
  | fuel + 1 => do
    match ← peek with
    | none => return ()
    | some c =>
      if p c then
        let _ ← bump
        passWhile p fuel
      else return ()

/-- One step for each character that is left, and one for the end. -/
def steps : Scanner ℕ := do
  return (← rest).length + 1

/-- The characters of a kind that come next. -/
def takeWhile (p : Char → Bool) : Scanner Text := do
  let start ← place
  passWhile p (← steps)
  slice start (← place)

/-- Takes the blanks that come next, and tells whether there were any. -/
def skipBlanks : Scanner Bool := do
  return !(← takeWhile isBlank).isEmpty

/-- The column of the cursor, in characters. -/
def column : Scanner ℕ := do
  let cursor ← get
  let front ← (liftM (slice? 0 cursor.pos cursor.line) : Scanner Text)
  return front.length + 1

/-- Refuses the line at the cursor. -/
def unexpected : Scanner α := do
  match ← peek with
  | some c => throw (.unexpected c (← column))
  | none => throw .unexpectedEnd

/-! ### Outcomes -/

/-- A scanner goes on from where the one before it leaves the cursor, unless that one fails. -/
theorem runFrom_bind (m : Scanner α) (f : α → Scanner β) (cursor : Cursor) :
    (m >>= f).runFrom cursor = (m.runFrom cursor).bind fun
      | (.ok a, cursor) => (f a).runFrom cursor
      | (.error e, cursor) => some (.error e, cursor) := by
  show Option.bind (m.runFrom cursor) _ = _
  congr
  funext ⟨x, cursor⟩
  cases x <;> rfl

theorem runFrom_get (cursor : Cursor) : (get : Scanner Cursor).runFrom cursor = some (.ok cursor, cursor) := rfl

theorem runFrom_liftM (x : Option α) (cursor : Cursor) :
    (liftM x : Scanner α).runFrom cursor = x.map fun a => (.ok a, cursor) := by
  cases x <;> rfl

theorem runFrom_rest (cursor : Cursor) :
    rest.runFrom cursor = (dropBytes? cursor.pos cursor.line).map fun cs => (.ok cs, cursor) :=
  runFrom_liftM _ cursor

theorem runFrom_slice (start stop : ℕ) (cursor : Cursor) :
    (slice start stop).runFrom cursor = (slice? start stop cursor.line).map fun piece => (.ok piece, cursor) :=
  runFrom_liftM _ cursor

theorem runFrom_column (cursor : Cursor) :
    column.runFrom cursor = (slice? 0 cursor.pos cursor.line).map fun front => (.ok (front.length + 1), cursor) := by
  show ((liftM (slice? 0 cursor.pos cursor.line) : Scanner Text) >>= _).runFrom cursor = _
  rw [runFrom_bind, runFrom_liftM]
  cases slice? 0 cursor.pos cursor.line <;> rfl

theorem runFrom_move (n : ℕ) (cursor : Cursor) :
    (move n).runFrom cursor = some (.ok (), { cursor with pos := cursor.pos + n }) := rfl

end Scanner

/-! ### Places where an end of the line begins -/

/-- The place where an end of a line begins. -/
def Cursor.atRest (line rest : Text) : Cursor where
  line := line
  pos := byteLength line - byteLength rest

@[simp] theorem Cursor.atRest_line (line rest : Text) : (Cursor.atRest line rest).line = line := rfl

theorem Cursor.atRest_append (front rest : Text) :
    Cursor.atRest (front ++ rest) rest = ⟨front ++ rest, byteLength front⟩ := by
  rw [Cursor.atRest, byteLength_append, Nat.add_sub_cancel_right]

theorem Cursor.atRest_self (line : Text) : Cursor.atRest line line = ⟨line, 0⟩ := by
  rw [Cursor.atRest, Nat.sub_self]

theorem Cursor.atRest_nil (line : Text) : (Cursor.atRest line []).pos = byteLength line := rfl

/-- A fault that is found at a character tells that one and its column; at the end of the line there is
none. -/
def SyntaxError.PointsAt (line stop : Text) : SyntaxError → Prop
  | .unexpected c k => stop.head? = some c ∧ k = SyntaxError.column line.length stop
  | .unexpectedEnd => stop = []
  | _ => True

namespace Scanner

/-- From the place where some end of the line begins a scanner finds what a reader finds in that end, and leaves
the cursor where the reader stops; a fault of the reader is that of the scanner, which leaves the cursor where it
points at. -/
def Follows (m : Scanner α) (line cs : Text) : Except SyntaxError (α × Text) → Prop
  | .ok (a, rest) => rest <:+ line ∧ m.runFrom (Cursor.atRest line cs) = some (.ok a, Cursor.atRest line rest)
  | .error e => ∃ stop, stop <:+ line ∧ e.PointsAt line stop
      ∧ m.runFrom (Cursor.atRest line cs) = some (.error e, Cursor.atRest line stop)

section Sequence

variable {m : Scanner α} {f : α → Scanner β} {line cs : Text}

/-- One scanner after another follows one reader after another. -/
theorem Follows.bind {r : Except SyntaxError (α × Text)} {g : α × Text → Except SyntaxError (β × Text)}
    (h : Follows m line cs r)
    (hf : ∀ a rest, r = .ok (a, rest) → rest <:+ line → Follows (f a) line rest (g (a, rest))) :
    Follows (m >>= f) line cs (r >>= g) := by
  cases r with
  | error e =>
    -- the cursor stays where the fault was found
    obtain ⟨stop, hstop, hpoints, hrun⟩ := h
    exact ⟨stop, hstop, hpoints, by rw [runFrom_bind, hrun]; rfl⟩
  | ok x =>
    obtain ⟨a, rest⟩ := x
    obtain ⟨hrest, hrun⟩ := h
    have hnext := hf a rest rfl hrest
    show Follows (m >>= f) line cs (g (a, rest))
    have heq : (m >>= f).runFrom (Cursor.atRest line cs) = (f a).runFrom (Cursor.atRest line rest) := by
      rw [runFrom_bind, hrun]
      rfl
    cases hg : g (a, rest) with
    | error e =>
      rw [hg] at hnext
      obtain ⟨stop, hstop, hpoints, hrun'⟩ := hnext
      exact ⟨stop, hstop, hpoints, heq.trans hrun'⟩
    | ok y =>
      rw [hg] at hnext
      exact ⟨hnext.1, heq.trans hnext.2⟩

/-- A scanner that finds something leads to what comes after it. -/
theorem Follows.then {a : α} {rest : Text} {r : Except SyntaxError (β × Text)}
    (h : Follows m line cs (.ok (a, rest))) (hf : rest <:+ line → Follows (f a) line rest r) :
    Follows (m >>= f) line cs r := by
  refine h.bind (g := fun _ => r) fun a' rest' heq hrest => ?_
  obtain ⟨rfl, rfl⟩ := Prod.mk.inj (Except.ok.inj heq)
  exact hf hrest

/-- The same for a reader that finds nothing but what it leaves. -/
theorem Follows.bind_rest {m : Scanner Unit} {f : Unit → Scanner β} {r : Except SyntaxError Text}
    {g : Text → Except SyntaxError (β × Text)} (h : Follows m line cs (r.map fun rest => ((), rest)))
    (hf : ∀ rest, r = .ok rest → rest <:+ line → Follows (f ()) line rest (g rest)) :
    Follows (m >>= f) line cs (r >>= g) := by
  cases r with
  | error e => exact h.bind (g := fun x => g x.2) fun _ _ heq => nomatch heq
  | ok rest => exact h.then fun hrest => hf rest rfl hrest

theorem follows_pure (a : α) (hcs : cs <:+ line) : Follows (pure a) line cs (.ok (a, cs)) :=
  ⟨hcs, rfl⟩

/-- A fault that points at no place may be found anywhere. -/
theorem follows_throw {e : SyntaxError} (hcs : cs <:+ line) (he : e.PointsAt line cs) :
    Follows (throw e : Scanner α) line cs (.error e) :=
  ⟨cs, hcs, he, rfl⟩

end Sequence

/-! ### Steps of the cursor -/

section Steps

variable {line cs : Text} (hcs : cs <:+ line)
include hcs

theorem follows_place : Follows place line cs (.ok ((Cursor.atRest line cs).pos, cs)) :=
  ⟨hcs, rfl⟩

omit hcs in
theorem follows_returnTo {rest : Text} (hrest : rest <:+ line) :
    Follows (returnTo (Cursor.atRest line rest).pos) line cs (.ok ((), rest)) :=
  ⟨hrest, rfl⟩

theorem follows_rest : Follows rest line cs (.ok (cs, cs)) := by
  refine ⟨hcs, ?_⟩
  obtain ⟨front, rfl⟩ := hcs
  rw [runFrom_rest, Cursor.atRest_append, dropBytes?_append]
  rfl

theorem follows_atEnd : Follows atEnd line cs (.ok (cs.isEmpty, cs)) := by
  refine ⟨hcs, ?_⟩
  obtain ⟨front, rfl⟩ := hcs
  rw [atEnd, runFrom_bind, runFrom_get, Cursor.atRest_append]
  show some (Except.ok (decide (byteLength (front ++ cs) ≤ byteLength front)), _) = _
  cases cs with
  | nil => simp
  | cons c cs =>
    have hpos := c.utf8Size_pos
    have hlt : ¬ byteLength (front ++ c :: cs) ≤ byteLength front := by
      rw [byteLength_append, byteLength_cons]
      omega
    rw [decide_eq_false hlt]
    rfl

theorem follows_peek : Follows peek line cs (.ok (cs.head?, cs)) :=
  (follows_rest hcs).then fun _ => follows_pure _ hcs

theorem follows_peekSecond : Follows peekSecond line cs (.ok (cs[1]?, cs)) :=
  (follows_rest hcs).then fun _ => follows_pure _ hcs

theorem follows_move {taken rest : Text} (h : cs = taken ++ rest) :
    Follows (move (byteLength taken)) line cs (.ok ((), rest)) := by
  subst h
  obtain ⟨front, rfl⟩ := hcs
  refine ⟨⟨front ++ taken, List.append_assoc ..⟩, ?_⟩
  rw [runFrom_move, Cursor.atRest_append, ← List.append_assoc, Cursor.atRest_append, byteLength_append]

theorem follows_move_cons {c : Char} {rest : Text} (h : cs = c :: rest) :
    Follows (move c.utf8Size) line cs (.ok ((), rest)) := by
  have hmove : Follows (move (byteLength [c])) line cs (.ok ((), rest)) := follows_move hcs h
  rwa [byteLength_cons, byteLength_nil, Nat.add_zero] at hmove

theorem follows_bump : Follows bump line cs (.ok (cs.head?, cs.tail)) := by
  refine (follows_peek hcs).then fun _ => ?_
  cases cs with
  | nil => exact follows_pure none hcs
  | cons c cs => exact (follows_move_cons hcs rfl).then fun hrest => follows_pure (some c) hrest

/-- A character that is there is taken. -/
theorem follows_eat_cons {c : Char} {rest : Text} (h : cs = c :: rest) :
    Follows (eat c) line cs (.ok (true, rest)) := by
  refine (follows_peek hcs).then fun _ => ?_
  rw [if_pos (by rw [h, List.head?_cons])]
  exact (follows_move_cons hcs h).then fun hrest => follows_pure true hrest

/-- A character that is not there is left out. -/
theorem follows_eat_of_ne {c : Char} (h : cs.head? ≠ some c) : Follows (eat c) line cs (.ok (false, cs)) := by
  refine (follows_peek hcs).then fun _ => ?_
  rw [if_neg h]
  exact follows_pure false hcs

theorem follows_eatText_append {mark rest : Text} (h : mark.isPrefixOf? cs = some rest) :
    Follows (eatText mark) line cs (.ok (true, rest)) := by
  have heq := List.append_eq_of_isPrefixOf?_eq_some h
  refine (follows_rest hcs).then fun _ => ?_
  rw [if_pos (List.isPrefixOf_iff_prefix.mpr ⟨rest, heq⟩)]
  exact (follows_move hcs heq.symm).then fun hrest => follows_pure true hrest

theorem follows_eatText_of_none {mark : Text} (h : mark.isPrefixOf? cs = none) :
    Follows (eatText mark) line cs (.ok (false, cs)) := by
  refine (follows_rest hcs).then fun _ => ?_
  have hnot : mark.isPrefixOf cs = false := by
    rw [← List.isSome_isPrefixOf?_eq_isPrefixOf, h, Option.isSome_none]
  rw [if_neg (by simp [hnot])]
  exact follows_pure false hcs

/-- Between the places of two ends of the line stands what the first has before the second. -/
theorem follows_slice (piece rest : Text) (hstart : piece ++ rest <:+ line) :
    Follows (slice (Cursor.atRest line (piece ++ rest)).pos (Cursor.atRest line rest).pos) line cs
      (.ok (piece, cs)) := by
  refine ⟨hcs, ?_⟩
  obtain ⟨front, rfl⟩ := hstart
  have hstart := Cursor.atRest_append front (piece ++ rest)
  have hstop := Cursor.atRest_append (front ++ piece) rest
  rw [List.append_assoc] at hstop
  rw [runFrom_slice, hstart, hstop, Cursor.atRest_line, slice?_eq]
  rfl

/-- The place before a character that has been taken. -/
theorem follows_difference {c : Char} {rest : Text} (hrest : c :: rest <:+ line) :
    Follows (difference (Cursor.atRest line rest).pos c.utf8Size) line cs
      (.ok ((Cursor.atRest line (c :: rest)).pos, cs)) := by
  obtain ⟨front, rfl⟩ := hrest
  have hrest := Cursor.atRest_append (front ++ [c]) rest
  rw [List.append_assoc, List.singleton_append] at hrest
  rw [hrest, Cursor.atRest_append, byteLength_append, byteLength_cons, byteLength_nil, Nat.add_zero, difference,
    if_pos (Nat.le_add_left _ _), Nat.add_sub_cancel_right]
  exact follows_pure _ hcs

theorem follows_retreat {c : Char} (h : c :: cs <:+ line) :
    Follows (retreat c) line cs (.ok ((), c :: cs)) :=
  (follows_place hcs).then fun _ => (follows_difference hcs h).then fun _ => follows_returnTo h

theorem follows_advance {taken rest : Text} (h : cs = taken ++ rest) :
    Follows (advance (byteLength taken)) line cs (.ok ((), rest)) := by
  subst h
  obtain ⟨front, rfl⟩ := hcs
  refine ⟨⟨front ++ taken, List.append_assoc ..⟩, ?_⟩
  have hmin : min (byteLength front + byteLength taken) (byteLength (front ++ (taken ++ rest)))
      = byteLength (front ++ taken) := by
    simp only [byteLength_append]
    omega
  have hrest := Cursor.atRest_append (front ++ taken) rest
  rw [List.append_assoc] at hrest
  rw [hrest, ← hmin, Cursor.atRest_append]
  rfl

theorem follows_steps : Follows steps line cs (.ok (cs.length + 1, cs)) :=
  (follows_rest hcs).then fun _ => follows_pure _ hcs

theorem follows_passWhile (p : Char → Bool) {fuel : ℕ} (hfuel : cs.length < fuel) :
    Follows (passWhile p fuel) line cs (.ok ((), cs.dropWhile p)) := by
  induction fuel generalizing cs with
  | zero => exact absurd hfuel (Nat.not_lt_zero _)
  | succ fuel ih =>
    refine (follows_peek hcs).then fun _ => ?_
    cases cs with
    | nil => exact follows_pure () hcs
    | cons c cs =>
      rw [List.head?_cons]
      dsimp only
      by_cases hc : p c = true
      · rw [if_pos hc, List.dropWhile_cons_of_pos hc]
        exact (follows_bump hcs).then fun hrest => ih hrest (Nat.lt_of_succ_lt_succ hfuel)
      · rw [if_neg hc, List.dropWhile_cons_of_neg hc]
        exact follows_pure () hcs

/-- The characters of a kind are taken together. -/
theorem follows_takeWhile (p : Char → Bool) :
    Follows (takeWhile p) line cs (.ok (cs.takeWhile p, cs.dropWhile p)) := by
  refine (follows_place hcs).then fun _ => (follows_steps hcs).then fun _ => ?_
  refine (follows_passWhile hcs p (Nat.lt_succ_self _)).then fun hrest => (follows_place hrest).then fun _ => ?_
  have hslice := follows_slice hrest (cs.takeWhile p) (cs.dropWhile p)
  rw [List.takeWhile_append_dropWhile] at hslice
  exact hslice hcs

theorem follows_skipBlanks : Follows skipBlanks line cs (.ok (!(cs.takeWhile isBlank).isEmpty, trimStart cs)) :=
  (follows_takeWhile hcs isBlank).then fun hrest => follows_pure _ hrest

theorem follows_column : Follows column line cs (.ok (SyntaxError.column line.length cs, cs)) := by
  refine ⟨hcs, ?_⟩
  obtain ⟨front, rfl⟩ := hcs
  have hslice := slice?_eq [] front cs
  rw [List.nil_append, List.nil_append, byteLength_nil] at hslice
  have hcolumn : front.length + 1 = SyntaxError.column (front ++ cs).length cs := by
    rw [SyntaxError.column, List.length_append, Nat.add_sub_cancel_right]
  rw [runFrom_column, Cursor.atRest_append, hslice, ← hcolumn]
  rfl

/-- The line is refused at the cursor. -/
theorem follows_unexpected : Follows (unexpected : Scanner α) line cs (.error (.atRest line.length cs)) := by
  refine (follows_peek hcs).then fun _ => ?_
  cases cs with
  | nil => exact follows_throw hcs rfl
  | cons c cs => exact (follows_column hcs).then fun _ => follows_throw hcs ⟨rfl, rfl⟩

end Steps

end Scanner

end ResultFilter
