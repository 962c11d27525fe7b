import ResultFilter.Proofs.Ruleset.Saved

/-!
# Texts compiled in parts

Texts with a line end between them have the lines of both, and a header that is closed is found again
whatever follows it. So a ruleset that is made from a text and extended by another one is the ruleset that
the two make together, down to the handles of its patterns. Only a text that opens a header and leaves it
open may be read in another way when more lines follow.

## Main definitions

* `Header.IsSettled` — lines whose header cannot be another one when more lines follow.

## Main results

* `splitLines_append` — the lines of two texts with a line end between them.
* `Header.ofLines_append` — the header of lines that more lines follow.
* `Ruleset.extend_append` — compiling in parts and compiling at once.
-/

namespace ResultFilter

open ResultFilter.Text

/-- Two texts with a line end between them have the lines of both. A carriage return before the line end
between them is dropped as one at the end of a text is. -/
theorem splitLines_append {first second : Text} (hfirst : first ≠ []) (hsecond : second ≠ []) :
    splitLines (first ++ '\n' :: second) = splitLines first ++ splitLines second := by
  rw [splitLines_of_ne_nil (List.append_ne_nil_of_left_ne_nil hfirst _), splitLines_of_ne_nil hfirst,
    splitLines_of_ne_nil hsecond, splitOn_append_cons, List.map_append]

namespace Header

/-- The header that some lines begin with cannot be another one when more lines follow: they do not begin
with a delimiter, or a later line closes the header. -/
def IsSettled (lines : List Text) : Prop :=
  (∀ line ∈ lines.head?, isDelimiter line = false) ∨ ∃ line ∈ lines.tail, isDelimiter line = true

theorem ofLines_append {lines : List Text} (hne : lines ≠ []) (h : IsSettled lines) (more : List Text) :
    ofLines (lines ++ more) = ofLines lines := by
  obtain ⟨first, rest, rfl⟩ := List.exists_cons_of_ne_nil hne
  cases hfirst : isDelimiter first with
  | false =>
    have hhead : ∀ tail : List Text, ∀ line ∈ (first :: tail).head?, isDelimiter line = false := by
      intro tail line hline
      rwa [← Option.some.inj hline]
    rw [List.cons_append, ofLines_eq_absent (hhead _), ofLines_eq_absent (hhead _)]
  | true =>
    rcases h with h | ⟨line, hline, hdelimiter⟩
    · exact absurd (h first rfl) (by rw [hfirst]; decide)
    · -- the first of the later delimiters closes the header in both
      obtain ⟨delimiter, hfind⟩ := Option.isSome_iff_exists.mp
        (List.find?_isSome.mpr ⟨line, hline, hdelimiter⟩)
      obtain ⟨hdelimiter, body, after, rfl, hbody⟩ := List.find?_eq_some_iff_append.mp hfind
      have hbody : ∀ line ∈ body, isDelimiter line = false := by simpa using hbody
      rw [List.cons_append, List.append_assoc, List.cons_append,
        ofLines_delimited hfirst hbody hdelimiter, ofLines_delimited hfirst hbody hdelimiter]

end Header

namespace Ruleset

/-- A ruleset that is made from a text and extended by another one is the one that both make together, if
the first text does not open a header that it leaves open. Extending a ruleset by two texts in turn is
extending it by both together. As the rulesets are equal, no question and no later change tells them apart. -/
theorem extend_append {first second : Text} (hfirst : first ≠ []) (hsecond : second ≠ []) :
    (Header.IsSettled (splitLines first) →
        (ofText first).extend second = ofText (first ++ '\n' :: second))
      ∧ ∀ r : Ruleset, (r.extend first).extend second = r.extend (first ++ '\n' :: second) := by
  have hlines := splitLines_append hfirst hsecond
  constructor
  · intro hsettled
    have hne : splitLines first ≠ [] := by
      rw [splitLines_of_ne_nil hfirst]
      exact mt List.map_eq_nil_iff.mp (splitOn_ne_nil _ _)
    have hle := Header.size_le (splitLines first)
    -- the header takes the same lines of the first text, and the others are compiled one after another
    simp only [ofText, extend, hlines, Header.ofLines_append hne hsettled,
      List.take_append_of_le_length hle, List.drop_append_of_le_length hle, List.foldl_append]
  · intro r
    rw [extend, extend, extend, hlines, List.foldl_append]

/-- A header, a carriage return where the texts meet, and an empty line at the end of the first. -/
theorem extend_append_example :
    let first := "---\nname: Mine\n---\n*://a.org/*\n\r".toList
    let second := "@*://b.org/*\r\n".toList
    first ≠ [] ∧ second ≠ [] ∧ Header.IsSettled (splitLines first)
      ∧ (ofText first).extend second = ofText (first ++ '\n' :: second)
      ∧ ((ofText first).extend second).lineCount = 7 := by
  intro first second
  have hsettled : Header.IsSettled (splitLines first) :=
    Or.inr ⟨"---".toList, by decide +kernel, by decide +kernel⟩
  obtain ⟨hcompile, -⟩ := @extend_append first second (by decide) (by decide)
  exact ⟨by decide, by decide, hsettled, hcompile hsettled, by decide +kernel⟩

end Ruleset

end ResultFilter
