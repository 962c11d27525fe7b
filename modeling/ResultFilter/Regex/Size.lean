import ResultFilter.Regex.Pattern
import ResultFilter.Text.Utf8

/-!
# The size of a program

A pattern is run by two automata over bytes, one for each direction, and is not run at all if one of
them would take more memory than is allowed. Their size follows from the pattern without building them:
a counted repetition takes its body as often as it counts, and a set of characters an automaton that
shares the common ends, or in the other direction the common beginnings, of the byte sequences.

## Main definitions

* `Regex.byteSequences` — the byte ranges in a row that spell a range of characters.
* `Regex.Layout` — the direction of an automaton.
* `Regex.memory` — the bytes that an automaton takes.
* `Regex.isRunnable` — whether a pattern can be run.
-/

namespace ResultFilter.Regex

open ResultFilter.Text

/-- Ranges of bytes in a row. -/
abbrev ByteSequence := List (Nat × Nat)

/-- The bytes of a code point in UTF-8. -/
def bytesOf (n : Nat) : List Nat :=
  (utf8 [Char.ofNat n]).map UInt8.toNat

/-- Cuts a range of code points where the number of bytes changes, or where the surrogates lie. -/
def cutLengths (lo hi : Nat) : List (Nat × Nat) :=
  let cuts := [(lo, min hi 0x7F), (max lo 0x80, min hi 0x7FF), (max lo 0x800, min hi 0xD7FF),
    (max lo 0xE000, min hi 0xFFFF), (max lo 0x10000, hi)]
  cuts.filter fun r => r.1 ≤ r.2

/-- Cuts a range of equally long code points until every byte but the first of each part ranges over
all its values once a byte before it ranges; `steps` bounds the cuts and `bits` is the number of bits
of the bytes that are free. -/
def cutAligned (steps bits lo hi : Nat) : List (Nat × Nat) :=
  match steps with
  | 0 => [(lo, hi)]
  | steps + 1 =>
    if bits = 0 then [(lo, hi)]
    else
      let block := Nat.pow 2 bits
      if lo / block = hi / block then cutAligned steps (bits - 6) lo hi
      else if lo % block ≠ 0 then
        let mid := (lo / block + 1) * block
        cutAligned steps (bits - 6) lo (mid - 1) ++ cutAligned steps bits mid hi
      else if hi % block ≠ block - 1 then
        let mid := hi / block * block
        cutAligned steps bits lo (mid - 1) ++ cutAligned steps (bits - 6) mid hi
      else [(lo, hi)]

/-- The free bits of the continuation bytes of a code point. -/
def freeBits (n : Nat) : Nat :=
  if n ≤ 0x7F then 0 else if n ≤ 0x7FF then 6 else if n ≤ 0xFFFF then 12 else 18

/-- The byte sequences that spell the characters of a range. -/
def byteSequences (lo hi : Nat) : List ByteSequence :=
  (cutLengths lo hi).flatMap fun (lo, hi) =>
    (cutAligned 64 (freeBits lo) lo hi).map fun (a, b) => (bytesOf a).zip (bytesOf b)

/-- The byte sequences that spell the characters of a set. -/
def setSequences (s : CodeSet) : List ByteSequence :=
  s.ranges.flatMap fun (lo, hi) => byteSequences lo hi

/-- The direction of an automaton. -/
inductive Layout where
  | forward
  | backward
deriving DecidableEq, Repr

/-- The memory of a state without what hangs on it. -/
def stateBytes : Nat := 32

/-- The memory of a transition of a state. -/
def transitionBytes : Nat := 8

/-- The memory of a branch of a state. -/
def branchBytes : Nat := 4

/-- Sequences by their first range, those with equal ones in a row together. -/
def groupHeads : List ByteSequence → List ((Nat × Nat) × List ByteSequence)
  | [] => []
  | [] :: rest => groupHeads rest
  | (head :: tail) :: rest =>
    match groupHeads rest with
    | (other, tails) :: groups =>
      if other = head then (head, tail :: tails) :: groups
      else (head, [tail]) :: (other, tails) :: groups
    | [] => [(head, [tail])]

/-- The states of an automaton that shares common ends, each as its transitions: range and target. -/
abbrev SharedStates := List (List ((Nat × Nat) × Nat))

/-- Adds a state unless there is one like it; gives the number of the state. -/
def SharedStates.add (states : SharedStates) (state : List ((Nat × Nat) × Nat)) : SharedStates × Nat :=
  match states.findIdx? (· == state) with
  | some i => (states, states.length - i)
  | none => (state :: states, states.length + 1)

/-- Adds the states that read some sequences of at most `fuel` ranges; the state after the last range
has number zero. -/
def SharedStates.build : Nat → SharedStates → List ByteSequence → SharedStates × Nat
  | 0, states, _ => (states, 0)
  | fuel + 1, states, sequences =>
    let groups := groupHeads sequences
    if groups.isEmpty then (states, 0)
    else
      let (states, transitions) := groups.foldl (fun (states, transitions) (range, tails) =>
        let (states, target) := build fuel states tails
        (states, (range, target) :: transitions)) (states, [])
      states.add transitions.reverse

/-- The number of different beginnings of sequences of at most `fuel` ranges. -/
def countBeginnings : Nat → List ByteSequence → Nat
  | 0, _ => 0
  | fuel + 1, sequences =>
    (groupHeads sequences).foldl (fun n group => n + 1 + countBeginnings fuel group.2) 0

/-- The only member of a set, if it has one member. -/
def soleMember? (s : CodeSet) : Option Nat :=
  match s.ranges with
  | [(lo, hi)] => if lo = hi then some lo else none
  | _ => none

/-- The memory of the automaton of a set. -/
def setMemory (layout : Layout) (s : CodeSet) : Nat :=
  match soleMember? s with
  | some n => stateBytes * (bytesOf n).length
  | none =>
    if s.ranges.isEmpty then stateBytes
    else if s.isAscii then 2 * stateBytes + transitionBytes * s.ranges.length
    else
      let sequences := setSequences s
      match layout with
      | .forward =>
        let (states, _) := SharedStates.build 4 [] sequences
        stateBytes * (states.length + 1) + transitionBytes * states.flatten.length
      | .backward =>
        stateBytes * (countBeginnings 4 sequences + 2) + branchBytes * sequences.length

/-- Whether a pattern matches nothing but empty stretches. -/
def isEmptyOnly : Pattern CodeSet Look → Bool
  | .empty => true
  | .one _ => false
  | .look _ => true
  | .seq p q => isEmptyOnly p && isEmptyOnly q
  | .alt p q => isEmptyOnly p && isEmptyOnly q
  | .repeated _ most p => isEmptyOnly p || most == some 0
  | .capture p => isEmptyOnly p

/-- Whether a pattern can match an empty stretch. -/
def canBeEmpty : Pattern CodeSet Look → Bool
  | .empty => true
  | .one _ => false
  | .look _ => true
  | .seq p q => canBeEmpty p && canBeEmpty q
  | .alt p q => canBeEmpty p || canBeEmpty q
  | .repeated least _ p => least == 0 || canBeEmpty p
  | .capture p => canBeEmpty p

/-- The set that an alternative of single characters amounts to. -/
def asSet? : Pattern CodeSet Look → Option CodeSet
  | .one s => some s
  | .alt p q => do return (← asSet? p).union (← asSet? q)
  | _ => none

/-- The memory of a repetition whose body takes `body`. -/
def repeatMemory (least : Nat) (most : Option Nat) (bodyCanBeEmpty : Bool) (body : Nat) : Nat :=
  match most with
  | some most =>
    if least = 0 ∧ most = 1 then body + 2 * stateBytes + 2 * branchBytes
    else
      (if least = 0 then stateBytes else least * body)
        + (if most = least then 0
           else stateBytes + (most - least) * (body + stateBytes + 2 * branchBytes))
  | none =>
    if least = 0 then
      if bodyCanBeEmpty then body + 3 * stateBytes + 4 * branchBytes
      else body + stateBytes + branchBytes
    else least * body + stateBytes + branchBytes

/-- The memory of the automaton of a pattern. -/
def memory (layout : Layout) : Pattern CodeSet Look → Nat
  | .empty => stateBytes
  | .one s => setMemory layout s
  | .look _ => stateBytes
  | .seq p q =>
    (if p = .empty then 0 else memory layout p) + (if q = .empty then 0 else memory layout q)
  | .alt p q =>
    match asSet? (.alt p q) with
    | some s => setMemory layout s
    | none => memory layout p + memory layout q + 2 * stateBytes + 2 * branchBytes
  | .repeated least most p =>
    let (least, most) := if isEmptyOnly p then (min least 1, some (min (most.getD 1) 1)) else (least, most)
    if most = some 0 then stateBytes
    else if least = 1 ∧ most = some 1 then memory layout p
    else repeatMemory least most (canBeEmpty p) (memory layout p)
  | .capture p =>
    memory layout p + match layout with
      | .forward => 2 * stateBytes
      | .backward => 0

/-- The memory of what surrounds every pattern. -/
def frameBytes : Nat := 6 * stateBytes + 2 * transitionBytes

/-- The memory that an automaton may take. -/
def memoryLimit : Nat := 10 * 1024 * 1024

/-- Whether a pattern can be run: both of its automata keep to the limit. -/
def isRunnable (p : Pattern CodeSet Look) : Bool :=
  memory .forward p + frameBytes ≤ memoryLimit && memory .backward p + frameBytes ≤ memoryLimit

end ResultFilter.Regex
