import ResultFilter.Json.Tree

/-!
# What is left over of a JSON text

Every reader takes characters from the front of a text, so what it leaves over ends the text. The last
character of an array is a bracket and that of an object is a brace. So a text can store neither unless it
ends in one of them, but for spaces.

## Main definitions

* `JsonTree.closing` — the bracket or brace that a value ends in.

## Main results

* `JsonTree.suffix_of_readValue` — what is left over after a value.
* `JsonTree.exists_closing_of_ofText?` — how a text that stores a value ends.
-/

namespace List

theorem suffix_of_isPrefixOf?_eq_some {α : Type} [BEq α] : ∀ {word l rest : List α},
    word.isPrefixOf? l = some rest → rest <:+ l
  | [], l, rest, h => by
    obtain rfl := Option.some.inj h
    exact List.suffix_rfl
  | _ :: _, [], rest, h => absurd (show none = some rest from h) (by simp)
  | a :: word, b :: l, rest, h => by
    replace h : (if a == b then word.isPrefixOf? l else none) = some rest := h
    split at h
    · exact (suffix_of_isPrefixOf?_eq_some h).trans (List.suffix_cons b l)
    · exact absurd h (by simp)

end List

namespace ResultFilter

open ResultFilter.Text

namespace JsonTree

/-! ### Strings and numbers -/

/-- A character of a string is read, and then the others. -/
theorem exists_of_bind_readUnits {o : Option Nat} {cs rest : Text} {us : List Nat}
    (h : (do
      let u ← o
      let (us, rest) ← readUnits cs
      return (u :: us, rest)) = some (us, rest)) : ∃ us, readUnits cs = some (us, rest) := by
  obtain ⟨u, -, h⟩ := Option.bind_eq_some_iff.mp h
  obtain ⟨⟨us', rest'⟩, hread, hpure⟩ := Option.bind_eq_some_iff.mp h
  obtain ⟨-, rfl⟩ := Prod.mk.inj (Option.some.inj hpure)
  exact ⟨us', hread⟩

theorem suffix_of_readUnits {cs rest : Text} {us : List Nat} (h : readUnits cs = some (us, rest)) :
    rest <:+ cs := by
  fun_induction readUnits cs generalizing us rest with
  | case1 => exact absurd h (by simp)
  | case2 cs =>
    obtain ⟨-, rfl⟩ := Prod.mk.inj (Option.some.inj h)
    exact List.suffix_cons _ _
  | case3 a b c d cs ih =>
    obtain ⟨us, hread⟩ := exists_of_bind_readUnits h
    exact (ih hread).trans (List.suffix_append ['\\', 'u', a, b, c, d] cs)
  | case13 => exact absurd h (by simp)
  | case14 c cs _ _ _ _ ih =>
    obtain ⟨us, hread⟩ := exists_of_bind_readUnits (o := some c.toNat) h
    exact (ih hread).trans (List.suffix_cons c cs)
  | _ =>
    rename_i ih
    obtain ⟨us, hread⟩ := exists_of_bind_readUnits h
    exact (ih hread).trans (List.suffix_append [_, _] _)

theorem suffix_of_readDigits {cs rest : Text} {ds : List Nat} (h : readDigits cs = (ds, rest)) :
    rest <:+ cs := by
  obtain ⟨-, rfl⟩ := Prod.mk.inj h
  exact List.dropWhile_suffix _

theorem suffix_of_readExponent? {cs rest : Text} {p : Int} (h : readExponent? cs = some (p, rest)) :
    rest <:+ cs := by
  unfold readExponent? at h
  split at h
  next sign digits hsign =>
  have hsuffix : digits <:+ cs := by
    split at hsign
    · obtain ⟨-, rfl⟩ := Prod.mk.inj hsign
      exact List.suffix_cons _ _
    · obtain ⟨-, rfl⟩ := Prod.mk.inj hsign
      exact List.suffix_cons _ _
    · obtain ⟨-, rfl⟩ := Prod.mk.inj hsign
      exact List.suffix_rfl
  split at h
  · exact absurd h (by simp)
  · next hdigits =>
    obtain ⟨-, rfl⟩ := Prod.mk.inj (Option.some.inj h)
    exact (suffix_of_readDigits hdigits).trans hsuffix

/-- After the fraction of a number there is an exponent or nothing of it. -/
theorem suffix_of_readNumeral?_end {negative : Bool} {whole : List Nat} {f : Option (List Nat)}
    {cs rest : Text} {s : Numeral} (h : (match cs with
      | 'e' :: rest => do
        let x ← (readExponent? rest).map fun (e, rest) => (some e, rest)
        return ((⟨negative, whole, f, x.1⟩ : Numeral), x.2)
      | 'E' :: rest => do
        let x ← (readExponent? rest).map fun (e, rest) => (some e, rest)
        return (⟨negative, whole, f, x.1⟩, x.2)
      | rest => do
        let x ← some ((none : Option Int), rest)
        return (⟨negative, whole, f, x.1⟩, x.2)) = some (s, rest)) : rest <:+ cs := by
  have hexponent : ∀ {cs : Text}, (do
      let x ← (readExponent? cs).map fun (e, rest) => (some e, rest)
      return ((⟨negative, whole, f, x.1⟩ : Numeral), x.2)) = some (s, rest) → rest <:+ cs := by
    intro cs h
    obtain ⟨x, hx, hpure⟩ := Option.bind_eq_some_iff.mp h
    obtain ⟨⟨p, after⟩, hread, rfl⟩ := Option.map_eq_some_iff.mp hx
    obtain ⟨-, rfl⟩ := Prod.mk.inj (Option.some.inj hpure)
    exact suffix_of_readExponent? hread
  split at h
  · exact (hexponent h).trans (List.suffix_cons _ _)
  · exact (hexponent h).trans (List.suffix_cons _ _)
  · obtain ⟨-, rfl⟩ := Prod.mk.inj (Option.some.inj h)
    exact List.suffix_rfl

theorem suffix_of_readNumeral? {negative : Bool} {cs rest : Text} {s : Numeral}
    (h : readNumeral? negative cs = some (s, rest)) : rest <:+ cs := by
  unfold readNumeral? at h
  split at h
  next whole afterWhole hwhole =>
  refine List.IsSuffix.trans ?_ (suffix_of_readDigits hwhole)
  split at h
  · exact absurd h (by simp)
  · dsimp only at h
    split at h
    · split at h
      · exact absurd h (by simp)
      · next hfraction =>
        exact (suffix_of_readNumeral?_end h).trans
          ((suffix_of_readDigits hfraction).trans (List.suffix_cons _ _))
    · exact suffix_of_readNumeral?_end h

/-! ### Values -/

/-- The bracket or brace that a value ends in, if it ends in one. -/
def closing : JsonTree → Text
  | .array _ => [']']
  | .object _ => ['\x7d']
  | _ => []

theorem suffix_of_dropWhile {cs rest : Text} {c : Char} (h : cs.dropWhile isSpace = c :: rest) :
    c :: rest <:+ cs :=
  h ▸ List.dropWhile_suffix isSpace

theorem suffix_of_dropWhile_cons {cs rest : Text} {c : Char} (h : cs.dropWhile isSpace = c :: rest) :
    rest <:+ cs :=
  (List.suffix_cons c rest).trans (suffix_of_dropWhile h)

mutual

/-- What is left over after a value ends the text, and so does the bracket or brace of the value before it. -/
theorem suffix_of_readValue : ∀ (fuel : Nat) {cs rest : Text} {tree : JsonTree},
    readValue fuel cs = some (tree, rest) → tree.closing ++ rest <:+ cs
  | 0, _, _, _, h => nomatch h
  | fuel + 1, cs, rest, tree, h => by
    have hword : ∀ {word after : Text} {leaf : JsonTree}, leaf.closing = [] →
        readWord? word leaf after = some (tree, rest) → tree.closing ++ rest <:+ after := by
      intro word after leaf hleaf h
      obtain ⟨rest', hprefix, heq⟩ := Option.map_eq_some_iff.mp h
      obtain ⟨rfl, rfl⟩ := Prod.mk.inj heq
      rw [hleaf]
      exact List.suffix_of_isPrefixOf?_eq_some hprefix
    have hnumber : ∀ {negative : Bool} {after : Text},
        ((readNumeral? negative after).map fun (s, rest) => (JsonTree.number s, rest)) = some (tree, rest) →
        tree.closing ++ rest <:+ after := by
      intro negative after h
      obtain ⟨⟨s, rest'⟩, hread, heq⟩ := Option.map_eq_some_iff.mp h
      obtain ⟨rfl, rfl⟩ := Prod.mk.inj heq
      exact suffix_of_readNumeral? hread
    rw [readValue] at h
    split at h
    · next hcs => exact (hword rfl h).trans (suffix_of_dropWhile_cons hcs)
    · next hcs => exact (hword rfl h).trans (suffix_of_dropWhile_cons hcs)
    · next hcs => exact (hword rfl h).trans (suffix_of_dropWhile_cons hcs)
    · next hcs =>
      obtain ⟨⟨us, after⟩, hread, heq⟩ := Option.map_eq_some_iff.mp h
      obtain ⟨rfl, rfl⟩ := Prod.mk.inj heq
      exact (suffix_of_readUnits hread).trans (suffix_of_dropWhile_cons hcs)
    · next hcs => exact (hnumber h).trans (suffix_of_dropWhile_cons hcs)
    · next hcs =>
      refine List.IsSuffix.trans ?_ (suffix_of_dropWhile_cons hcs)
      split at h
      · next hclose =>
        obtain ⟨rfl, rfl⟩ := Prod.mk.inj (Option.some.inj h)
        exact suffix_of_dropWhile hclose
      · obtain ⟨⟨items, after⟩, hread, heq⟩ := Option.map_eq_some_iff.mp h
        obtain ⟨rfl, rfl⟩ := Prod.mk.inj heq
        exact (suffix_of_readItems fuel hread).trans (List.dropWhile_suffix isSpace)
    · next hcs =>
      refine List.IsSuffix.trans ?_ (suffix_of_dropWhile_cons hcs)
      split at h
      · next hclose =>
        obtain ⟨rfl, rfl⟩ := Prod.mk.inj (Option.some.inj h)
        exact suffix_of_dropWhile hclose
      · obtain ⟨⟨fields, after⟩, hread, heq⟩ := Option.map_eq_some_iff.mp h
        obtain ⟨rfl, rfl⟩ := Prod.mk.inj heq
        exact (suffix_of_readFields fuel hread).trans (List.dropWhile_suffix isSpace)
    · exact (hnumber h).trans (List.dropWhile_suffix isSpace)

theorem suffix_of_readItems : ∀ (fuel : Nat) {cs rest : Text} {items : List JsonTree},
    readItems fuel cs = some (items, rest) → ']' :: rest <:+ cs
  | 0, _, _, _, h => nomatch h
  | fuel + 1, cs, rest, items, h => by
    rw [readItems] at h
    obtain ⟨⟨item, after⟩, hread, h⟩ := Option.bind_eq_some_iff.mp h
    refine List.IsSuffix.trans ?_ ((List.suffix_append _ _).trans (suffix_of_readValue fuel hread))
    dsimp only at h
    split at h
    · next hcomma =>
      obtain ⟨⟨items, after⟩, hread, hpure⟩ := Option.bind_eq_some_iff.mp h
      obtain ⟨-, rfl⟩ := Prod.mk.inj (Option.some.inj hpure)
      exact (suffix_of_readItems fuel hread).trans (suffix_of_dropWhile_cons hcomma)
    · next hclose =>
      obtain ⟨-, rfl⟩ := Prod.mk.inj (Option.some.inj h)
      exact suffix_of_dropWhile hclose
    · exact absurd h (by simp)

theorem suffix_of_readFields : ∀ (fuel : Nat) {cs rest : Text} {fields : List (Option Text × JsonTree)},
    readFields fuel cs = some (fields, rest) → '\x7d' :: rest <:+ cs
  | 0, _, _, _, h => nomatch h
  | fuel + 1, cs, rest, fields, h => by
    rw [readFields] at h
    split at h
    · next hkey =>
      obtain ⟨⟨us, after⟩, hread, h⟩ := Option.bind_eq_some_iff.mp h
      refine List.IsSuffix.trans ?_ ((suffix_of_readUnits hread).trans (suffix_of_dropWhile_cons hkey))
      dsimp only at h
      split at h
      · next hcolon =>
        obtain ⟨⟨value, after⟩, hread, h⟩ := Option.bind_eq_some_iff.mp h
        refine List.IsSuffix.trans ?_ (suffix_of_dropWhile_cons hcolon)
        refine List.IsSuffix.trans ?_ ((List.suffix_append _ _).trans (suffix_of_readValue fuel hread))
        dsimp only at h
        split at h
        · next hcomma =>
          obtain ⟨⟨fields, after⟩, hread, hpure⟩ := Option.bind_eq_some_iff.mp h
          obtain ⟨-, rfl⟩ := Prod.mk.inj (Option.some.inj hpure)
          exact (suffix_of_readFields fuel hread).trans (suffix_of_dropWhile_cons hcomma)
        · next hclose =>
          obtain ⟨-, rfl⟩ := Prod.mk.inj (Option.some.inj h)
          exact suffix_of_dropWhile hclose
        · exact absurd h (by simp)
      · exact absurd h (by simp)
    · exact absurd h (by simp)

end

/-- A text that stores an array or an object ends in a bracket or a brace, spaces aside. -/
theorem exists_closing_of_ofText? {cs : Text} {tree : JsonTree} (h : ofText? cs = some tree) :
    ∃ rest, tree.closing ++ rest <:+ cs ∧ rest.all isSpace = true := by
  unfold ofText? at h
  split at h
  · next rest hread =>
    split at h
    · next hspace =>
      obtain rfl := Option.some.inj h
      exact ⟨rest, suffix_of_readValue _ hread, hspace⟩
    · exact absurd h (by simp)
  · exact absurd h (by simp)

end JsonTree

end ResultFilter
