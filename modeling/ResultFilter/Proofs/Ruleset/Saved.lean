import ResultFilter.Proofs.Host.Spelling
import ResultFilter.Proofs.Rule.TrailingBlank
import ResultFilter.Proofs.Ruleset.Lines

/-!
# Rulesets saved as texts

A ruleset is saved as the text of the lines that are left, and comes back when the text is compiled. The
holes are gone then, and each line has its rank among the lines that are left as its number. Two things
could change on the way. A carriage return at the end of a line is cut off with each reading; no rule
notices. But the header is looked for again at the top of the text: where lines of the old header are
deleted, or what is left begins like a header, the new header is another one, and a rule that fires is lost
or comes out of the old header.

## Main definitions

* `Ruleset.rank` — the number of a line when the lines that are left are counted anew.
* `Ruleset.savedHeader` — the number of lines of the header that the text of a ruleset begins with.

## Main results

* `Ruleset.query_ofText_join` — compiling lines that are joined is as good as compiling the lines.
* `Ruleset.query_ofText_toText_iff` — the matches come back with their new numbers just if no rule fires on
  a line that only one of the two headers takes in.
* `Ruleset.query_ofText_toText_of_header` — they come back if the header is whole or was never there.
-/

namespace List

/-- Two filters before a choice come to the same just if they agree where something is chosen. -/
theorem filterMap_filter_eq_iff {α β : Type*} {f : α → Option β} {p q : α → Bool} {l : List α}
    (hf : ∀ a ∈ l, ∀ b ∈ l, ∀ x, f a = some x → f b = some x → a = b) :
    (l.filter p).filterMap f = (l.filter q).filterMap f ↔ ∀ a ∈ l, (f a).isSome = true → p a = q a := by
  constructor
  · intro heq a ha hsome
    obtain ⟨x, hx⟩ := Option.isSome_iff_exists.mp hsome
    -- nothing else is made into what `a` is made into, so this is there just if `a` passes the filter
    have hmem : ∀ r : α → Bool, x ∈ (l.filter r).filterMap f ↔ r a = true := by
      intro r
      rw [mem_filterMap]
      constructor
      · rintro ⟨b, hb, hbx⟩
        obtain ⟨hb, hr⟩ := mem_filter.mp hb
        rwa [hf a ha b hb x hx hbx]
      · intro hr
        exact ⟨a, mem_filter.mpr ⟨ha, hr⟩, hx⟩
    rw [Bool.eq_iff_iff, ← hmem p, ← hmem q, heq]
  · intro h
    rw [filterMap_filter, filterMap_filter]
    refine filterMap_congr fun a ha => ?_
    cases hfa : f a with
    | none => simp
    | some x => rw [h a ha (by rw [hfa]; rfl)]

end List

namespace ResultFilter

open ResultFilter.Text

/-! ### Lines that are read again -/

/-- A line without the carriage return before its end. -/
def dropReturn (line : Text) : Text :=
  if line.getLast? == some '\r' then line.dropLast else line

theorem dropReturn_eq_or (line : Text) : dropReturn line = line ∨ line = dropReturn line ++ ['\r'] := by
  unfold dropReturn
  split
  · next h =>
    rw [beq_iff_eq] at h
    exact Or.inr (List.dropLast_append_getLast? _ h).symm
  · exact Or.inl rfl

/-- A carriage return before the end of a line does not change its rule. -/
theorem Rule.ofLine?_dropReturn (line : Text) : Rule.ofLine? (dropReturn line) = Rule.ofLine? line := by
  rcases dropReturn_eq_or line with h | h
  · rw [h]
  · rw [h, Rule.ofLine?_append_blank rfl, ← h]

theorem Text.trimEnd_append_blank {c : Char} (hc : isBlank c = true) (cs : Text) :
    trimEnd (cs ++ [c]) = trimEnd cs := by
  rw [trimEnd, List.reverse_append, List.reverse_singleton, List.singleton_append, List.dropWhile_cons, hc]
  rfl

theorem Header.isDelimiter_dropReturn (line : Text) : isDelimiter (dropReturn line) = isDelimiter line := by
  rcases dropReturn_eq_or line with h | h
  · rw [h]
  · unfold isDelimiter
    conv_rhs => rw [h, Text.trimEnd_append_blank rfl]

/-- The same lines are taken for the header with carriage returns before the line ends as without. -/
theorem Header.size_map_dropReturn (lines : List Text) :
    (ofLines (lines.map dropReturn)).size = (ofLines lines).size := by
  cases lines with
  | nil => rfl
  | cons first rest =>
    have hbody : ((rest.map dropReturn).takeWhile (!isDelimiter ·)).length
        = (rest.takeWhile (!isDelimiter ·)).length := by
      rw [List.takeWhile_map, List.length_map]
      refine congrArg (fun p : Text → Bool => (rest.takeWhile p).length) (funext fun line => ?_)
      rw [Function.comp_apply, isDelimiter_dropReturn]
    simp only [List.map_cons, ofLines, isDelimiter_dropReturn, hbody, List.length_map]
    split <;> rfl

/-- No line of a text has a line end inside. -/
theorem not_mem_of_mem_splitLines {text line : Text} (h : line ∈ splitLines text) : '\n' ∉ line := by
  unfold splitLines at h
  split at h
  · exact absurd h List.not_mem_nil
  · obtain ⟨piece, hpiece, rfl⟩ := List.mem_map.mp h
    have hmark := Text.not_mem_of_mem_splitOn hpiece
    split
    · exact fun hmem => hmark (List.mem_of_mem_dropLast hmem)
    · exact hmark

theorem splitLines_of_ne_nil {text : Text} (h : text ≠ []) :
    splitLines text = (Text.splitOn '\n' text).map dropReturn := by
  rw [splitLines, if_neg]
  · rfl
  · rwa [List.isEmpty_iff]

/-! ### Compiling lines that are joined -/

/-- Lines that are joined are the lines of the text, but for carriage returns; one empty line is lost. -/
theorem splitLines_join {lines : List Text} (h : ∀ line ∈ lines, '\n' ∉ line) :
    splitLines (Text.join ['\n'] lines) = lines.map dropReturn ∨ lines = [[]] := by
  by_cases hne : Text.join ['\n'] lines = []
  · match lines with
    | [] => exact Or.inl rfl
    | [line] => exact Or.inr (congrArg (fun l => [l]) hne)
    | line :: next :: rest => simp [Text.join] at hne
  · have hcons : lines ≠ [] := by
      rintro rfl
      exact hne rfl
    exact Or.inl (by rw [splitLines_of_ne_nil hne, Text.splitOn_join hcons h])

theorem votes_splitLines_join {lines : List Text} (h : ∀ line ∈ lines, '\n' ∉ line) (props : Props) :
    votes (splitLines (Text.join ['\n'] lines)) props = votes lines props := by
  rcases splitLines_join h with heq | rfl
  · rw [heq, votes, List.filterMap_map]
    have hrule : Rule.ofLine? ∘ dropReturn = Rule.ofLine? := funext Rule.ofLine?_dropReturn
    rw [hrule, votes]
  · rfl

/-- The votes of lines are those of the matches on them. -/
theorem map_specifier_firedOn (lines : List (Nat × Text)) (props : Props) :
    (firedOn lines props).map (·.specifier) = votes (lines.map (·.2)) props := by
  induction lines with
  | nil => rfl
  | cons x lines ih =>
    obtain ⟨n, line⟩ := x
    unfold firedOn votes at ih ⊢
    cases hline : Rule.ofLine? line with
    | none => simpa [hline] using ih
    | some rule =>
      cases hfires : rule.body.fires props with
      | false => simpa [hline, Option.filter, hfires] using ih
      | true => simpa [hline, Option.filter, hfires] using ih

/-- The matches of the rules that fire on lines below a header. -/
def firedBelow (header : Nat) (lines : List Text) (props : Props) : List RuleMatch :=
  firedOn ((numbered 0 lines).filter fun x => decide (header < x.1)) props

theorem firedOn_map_dropReturn (lines : List (Nat × Text)) (props : Props) :
    firedOn (lines.map fun x => (x.1, dropReturn x.2)) props = firedOn lines props := by
  unfold firedOn
  rw [List.filterMap_map]
  refine List.filterMap_congr fun x _ => ?_
  simp only [Function.comp_apply, Rule.ofLine?_dropReturn]

theorem numbered_map (f : Text → Text) (n : Nat) (lines : List Text) :
    numbered n (lines.map f) = (numbered n lines).map fun x => (x.1, f x.2) := by
  rw [numbered, List.zipIdx_map, List.map_map, numbered, List.map_map]
  rfl

theorem firedBelow_map_dropReturn (header : Nat) (lines : List Text) (props : Props) :
    firedBelow header (lines.map dropReturn) props = firedBelow header lines props := by
  rw [firedBelow, numbered_map, List.filter_map, firedOn_map_dropReturn]
  rfl

namespace Ruleset

theorem lines_ofText (text : Text) : (ofText text).lines = numbered 0 (splitLines text) := by
  rw [lines, (follows_ofText text).source_eq]
  exact filterMap_zipIdx_some 0 (splitLines text)

theorem query_ofText (text : Text) (props : Props) :
    (ofText text).query props
      = firedBelow (Header.ofLines (splitLines text)).size (splitLines text) props := by
  rw [(follows_ofText text).query_eq_firedOn, lines_ofText]
  rfl

/-- Compiling lines that are joined is as good as compiling the lines. -/
theorem query_ofText_join {lines : List Text} (h : ∀ line ∈ lines, '\n' ∉ line) (props : Props) :
    (ofText (Text.join ['\n'] lines)).query props = firedBelow (Header.ofLines lines).size lines props := by
  rw [query_ofText]
  rcases splitLines_join h with heq | rfl
  · rw [heq, Header.size_map_dropReturn, firedBelow_map_dropReturn]
  · rfl

/-! ### The lines that are left counted anew -/

/-- The number of a line when the lines that are left are counted anew. -/
def rank (r : Ruleset) (n : Nat) : Nat :=
  r.lines.countP (·.1 ≤ n)

/-- The number of lines of the header that the text of a ruleset begins with. -/
def savedHeader (r : Ruleset) : Nat :=
  (Header.ofLines (r.lines.map (·.2))).size

end Ruleset

theorem pairwise_numbered (n : Nat) (lines : List Text) : (numbered n lines).Pairwise (·.1 < ·.1) :=
  List.pairwise_map.mpr ((List.pairwise_zipIdx lines n).imp fun h => Nat.succ_lt_succ h)

/-- Lines in the order of their numbers, with the number of lines up to each put in the place of its own. -/
theorem map_countP_eq_numbered {lines : List (Nat × Text)} (h : lines.Pairwise (·.1 < ·.1)) (k : Nat) :
    lines.map (fun x => (k + lines.countP (·.1 ≤ x.1), x.2)) = numbered k (lines.map (·.2)) := by
  induction lines generalizing k with
  | nil => rfl
  | cons x lines ih =>
    obtain ⟨hx, h⟩ := List.pairwise_cons.mp h
    have hafter : lines.countP (·.1 ≤ x.1) = 0 := by
      rw [List.countP_eq_zero]
      intro y hy
      simpa using hx y hy
    rw [List.map_cons, List.map_cons, numbered_cons, ← ih h (k + 1), List.countP_cons_of_pos (by simp), hafter]
    congr 1
    refine List.map_congr_left fun y hy => ?_
    rw [List.countP_cons_of_pos (by simpa using (hx y hy).le)]
    congr 1
    omega

theorem map_line_firedOn (f : Nat → Nat) (lines : List (Nat × Text)) (props : Props) :
    (firedOn lines props).map (fun m => ⟨f m.line, m.specifier⟩)
      = firedOn (lines.map fun x => (f x.1, x.2)) props := by
  unfold firedOn
  rw [List.map_filterMap, List.filterMap_map]
  refine List.filterMap_congr fun x _ => ?_
  rw [Option.map_map]
  rfl

namespace Ruleset

theorem numbered_map_snd_lines (r : Ruleset) :
    numbered 0 (r.lines.map (·.2)) = r.lines.map fun x => (r.rank x.1, x.2) := by
  rw [← map_countP_eq_numbered r.pairwise_lines 0]
  simp only [Nat.zero_add, rank]

/-- No two lines that are left have the same rank. -/
theorem eq_of_rank_eq {r : Ruleset} {x y : Nat × Text} (hx : x ∈ r.lines) (hy : y ∈ r.lines)
    (h : r.rank x.1 = r.rank y.1) : x = y := by
  have hnodup : (r.lines.map fun x => r.rank x.1).Nodup := by
    have hmap : (numbered 0 (r.lines.map (·.2))).map (·.1) = r.lines.map fun x => r.rank x.1 := by
      rw [numbered_map_snd_lines, List.map_map]
      rfl
    rw [← hmap]
    exact List.pairwise_map.mpr ((pairwise_numbered _ _).imp Nat.ne_of_lt)
  exact List.inj_on_of_nodup_map hnodup hx hy h

theorem not_mem_of_mem_lines {r : Ruleset} (hr : r.Reachable) {x : Nat × Text} (hx : x ∈ r.lines) :
    '\n' ∉ x.2 := by
  obtain ⟨text, changes, rfl⟩ := hr
  induction changes using List.reverseRecOn with
  | nil =>
    rw [edits, List.foldl_nil, lines_ofText] at hx
    have hline := List.mem_map_of_mem (f := (·.2)) hx
    rw [map_snd_numbered] at hline
    exact not_mem_of_mem_splitLines hline
  | append_singleton changes change ih =>
    rw [edits, List.foldl_concat, ← edits] at hx
    cases change with
    | extend text =>
      rw [edit, lines_extend] at hx
      rcases List.mem_append.mp hx with hx | hx
      · exact ih hx
      · have hline := List.mem_map_of_mem (f := (·.2)) hx
        rw [map_snd_numbered] at hline
        exact not_mem_of_mem_splitLines hline
    | delete n =>
      rw [edit, lines_delete] at hx
      exact ih (List.mem_filter.mp hx).1

/-- The text of a ruleset is answered for by the lines that are left, below the header that they begin
with. -/
theorem Reachable.query_ofText_toText {r : Ruleset} (hr : r.Reachable) (props : Props) :
    (Ruleset.ofText r.toText).query props = firedBelow r.savedHeader (r.lines.map (·.2)) props := by
  refine query_ofText_join (fun line hline => ?_) props
  obtain ⟨x, hx, rfl⟩ := List.mem_map.mp hline
  exact not_mem_of_mem_lines hr hx

/-- The matches come back with their new numbers just if each line that is left with a rule that fires is
below both headers or below neither. -/
theorem Follows.query_ofText_toText_eq_iff {r : Ruleset} {s : Sheet} (hf : r.Follows s) (hr : r.Reachable)
    (props : Props) :
    (ofText r.toText).query props = (r.query props).map (fun m => ⟨r.rank m.line, m.specifier⟩)
      ↔ ∀ n line, r.get? n = some line → ∀ rule, Rule.ofLine? line = some rule →
          rule.body.fires props = true → (s.header < n ↔ r.savedHeader < r.rank n) := by
  rw [hr.query_ofText_toText, firedBelow, numbered_map_snd_lines, hf.query_eq_firedOn, map_line_firedOn,
    List.filter_map, firedOn, firedOn, List.filterMap_map, List.filterMap_map,
    List.filterMap_filter_eq_iff]
  · constructor
    · intro h n line hline rule hrule hfires
      have hboth := h (n, line) ((mem_lines_iff r).mpr hline) (by simp [hrule, Option.filter, hfires])
      simpa using hboth.symm
    · rintro h ⟨n, line⟩ hx hsome
      rw [Function.comp_apply, Option.isSome_map, Option.isSome_filter, Option.any_eq_true] at hsome
      obtain ⟨rule, hrule, hfires⟩ := hsome
      have hboth := h n line ((mem_lines_iff r).mp hx) rule hrule hfires
      simpa using hboth.symm
  · intro x hx y hy m hmx hmy
    obtain ⟨_, -, hx'⟩ := Option.map_eq_some_iff.mp hmx
    obtain ⟨_, -, hy'⟩ := Option.map_eq_some_iff.mp hmy
    exact eq_of_rank_eq hx hy (congrArg RuleMatch.line (hx'.trans hy'.symm))

/-- The matches come back, each with the rank of its line, just if each line that is left with a rule that
fires is below the old header and the one that the text of the ruleset begins with, or below neither. -/
theorem query_ofText_toText_iff (text : Text) (changes : List Edit) (props : Props) :
    let r := (ofText text).edits changes
    (ofText r.toText).query props = (r.query props).map (fun m => ⟨r.rank m.line, m.specifier⟩)
      ↔ ∀ n line rule, r.get? n = some line → Rule.ofLine line = .ok (some rule) →
          rule.body.fires props = true →
          ((Header.ofLines (splitLines text)).size < n ↔ r.savedHeader < r.rank n) := by
  intro r
  have hf : r.Follows ((Sheet.ofText text).edits changes) := follows_edits text changes
  rw [hf.query_ofText_toText_eq_iff ⟨text, changes, rfl⟩ props, header_edits]
  constructor
  · exact fun h n line rule hline hrule => h n line hline rule (Rule.ofLine?_eq_some_iff.mpr hrule)
  · exact fun h n line hline rule hrule => h n line rule hline (Rule.ofLine?_eq_some_iff.mp hrule)

/-- When the line above three others is deleted, these begin like a header, and the rule between the
delimiters no longer fires when the text is compiled. -/
theorem query_ofText_toText_counterexample :
    let r := (ofText "# Sites\n---\n*://example.com/*\n---".toList).edits [.delete 1]
    let props := [("url".toList, "https://example.com/".toList)]
    r.query props = [⟨3, none⟩] ∧ r.rank 3 = 2 ∧ (ofText r.toText).query props = [] :=
  ⟨by decide +kernel, by decide +kernel, by decide +kernel⟩

/-! ### Headers that stay -/

theorem lineCount_ofText (text : Text) : (ofText text).lineCount = (splitLines text).length := by
  rw [lineCount_eq, (follows_ofText text).source_eq]
  exact List.length_map _

theorem lineCount_le_edits (r : Ruleset) (changes : List Edit) :
    r.lineCount ≤ (r.edits changes).lineCount := by
  induction changes generalizing r with
  | nil => exact Nat.le_refl _
  | cons change changes ih =>
    refine Nat.le_trans ?_ (ih (r.edit change))
    cases change with
    | extend text =>
      rw [edit, lineCount_extend]
      exact Nat.le_add_right _ _
    | delete n => exact (lineCount_delete r n).ge

/-- A line that is left says what it said. -/
theorem mem_lines_of_mem_edits {r : Ruleset} {changes : List Edit} {x : Nat × Text}
    (hx : x ∈ (r.edits changes).lines) (hle : x.1 ≤ r.lineCount) : x ∈ r.lines := by
  induction changes generalizing r with
  | nil => exact hx
  | cons change changes ih =>
    have hx := ih hx (Nat.le_trans hle (lineCount_le_edits r [change]))
    cases change with
    | extend text =>
      rw [edit, lines_extend] at hx
      rcases List.mem_append.mp hx with hx | hx
      · exact hx
      · exact absurd hle (Nat.not_le.mpr (lt_of_mem_numbered hx))
    | delete n =>
      rw [edit, lines_delete] at hx
      exact (List.mem_filter.mp hx).1

end Ruleset

namespace Header

/-- Lines that do not begin with a delimiter have no header. -/
theorem ofLines_eq_absent {lines : List Text} (h : ∀ line ∈ lines.head?, isDelimiter line = false) :
    ofLines lines = absent := by
  cases lines with
  | nil => rfl
  | cons first rest =>
    have hfirst := h first rfl
    simp only [ofLines, hfirst, Bool.false_and, Bool.false_eq_true, if_false]

theorem ofLines_delimited {first delimiter : Text} {body : List Text} (hfirst : isDelimiter first = true)
    (hbody : ∀ line ∈ body, isDelimiter line = false) (hdelimiter : isDelimiter delimiter = true)
    (after : List Text) :
    ofLines (first :: (body ++ delimiter :: after)) = ⟨body.length + 2, metadataOf body⟩ := by
  have htake : (body ++ delimiter :: after).takeWhile (!isDelimiter ·) = body := by
    rw [List.takeWhile_append_of_pos fun line hline => by rw [hbody line hline]; rfl,
      List.takeWhile_cons_of_neg (by rw [hdelimiter]; decide), List.append_nil]
  have hlt : body.length < (body ++ delimiter :: after).length := by
    rw [List.length_append, List.length_cons]
    omega
  simp only [ofLines, htake, hfirst, hlt, decide_true, Bool.and_self, if_true]

theorem size_delimited {first delimiter : Text} {body : List Text} (hfirst : isDelimiter first = true)
    (hbody : ∀ line ∈ body, isDelimiter line = false) (hdelimiter : isDelimiter delimiter = true)
    (after : List Text) : (ofLines (first :: (body ++ delimiter :: after))).size = body.length + 2 :=
  congrArg size (ofLines_delimited hfirst hbody hdelimiter after)

/-- A header has a delimiter before and after it. -/
theorem exists_delimited {lines : List Text} (h : 0 < (ofLines lines).size) :
    ∃ first body delimiter after, lines = first :: (body ++ delimiter :: after)
      ∧ isDelimiter first = true ∧ (∀ line ∈ body, isDelimiter line = false)
      ∧ isDelimiter delimiter = true := by
  cases lines with
  | nil => exact absurd h (Nat.lt_irrefl 0)
  | cons first rest =>
    have hparts : isDelimiter first = true ∧ (rest.takeWhile (!isDelimiter ·)).length < rest.length := by
      by_contra hno
      simp only [ofLines, Bool.and_eq_true, decide_eq_true_eq, if_neg hno] at h
      exact absurd h (Nat.lt_irrefl 0)
    -- the second delimiter is the first line that is not taken
    obtain ⟨delimiter, after, hdrop⟩ : ∃ d after, rest.dropWhile (!isDelimiter ·) = d :: after := by
      refine List.exists_cons_of_ne_nil fun hnil => absurd hparts.2 (Nat.not_lt.mpr ?_)
      have happend := List.takeWhile_append_dropWhile (p := (!isDelimiter ·)) (l := rest)
      rw [hnil, List.append_nil] at happend
      exact (congrArg List.length happend).ge
    refine ⟨first, rest.takeWhile (!isDelimiter ·), delimiter, after, ?_, hparts.1, ?_, ?_⟩
    · rw [← hdrop, List.takeWhile_append_dropWhile]
    · exact fun line hline => by simpa using List.all_eq_true.mp List.all_takeWhile line hline
    · simpa [hdrop] using List.head?_dropWhile_not (!isDelimiter ·) rest

/-- A header is found again whatever follows it. -/
theorem size_take_append {lines : List Text} (h : 0 < (ofLines lines).size) (rest : List Text) :
    (ofLines (lines.take (ofLines lines).size ++ rest)).size = (ofLines lines).size := by
  obtain ⟨first, body, delimiter, after, rfl, hfirst, hbody, hdelimiter⟩ := exists_delimited h
  have htake : (first :: (body ++ delimiter :: after)).take (body.length + 2)
      = first :: (body ++ [delimiter]) := by
    rw [List.take_succ_cons, List.take_length_add_append]
    rfl
  rw [size_delimited hfirst hbody hdelimiter, htake, List.cons_append, List.append_assoc,
    List.singleton_append, size_delimited hfirst hbody hdelimiter]

end Header

theorem eq_of_mem_iff {lines lines' : List (Nat × Text)} (h : lines.Pairwise (·.1 < ·.1))
    (h' : lines'.Pairwise (·.1 < ·.1)) (hmem : ∀ x, x ∈ lines ↔ x ∈ lines') : lines = lines' :=
  (List.perm_ext_iff_of_nodup (h.imp fun {x y} hlt => by rintro rfl; exact Nat.lt_irrefl _ hlt)
    (h'.imp fun {x y} hlt => by rintro rfl; exact Nat.lt_irrefl _ hlt)).mpr hmem
    |>.eq_of_pairwise (fun _ _ _ _ hlt hgt => absurd hlt (Nat.lt_asymm hgt)) h h'

theorem mem_numbered_iff {n i : Nat} {lines : List Text} {line : Text} :
    (i, line) ∈ numbered n lines ↔ n < i ∧ lines[i - n - 1]? = some line := by
  rw [numbered, List.mem_map]
  constructor
  · rintro ⟨⟨l, k⟩, hmem, heq⟩
    obtain ⟨rfl, rfl⟩ := Prod.mk.inj heq
    obtain ⟨hle, hline⟩ := List.mk_mem_zipIdx_iff_le_and_getElem?_sub.mp hmem
    refine ⟨Nat.lt_succ_of_le hle, ?_⟩
    rwa [Nat.sub_right_comm, Nat.add_sub_cancel]
  · rintro ⟨hlt, hline⟩
    refine ⟨(line, i - 1), List.mk_mem_zipIdx_iff_le_and_getElem?_sub.mpr ⟨by omega, ?_⟩, ?_⟩
    · rwa [Nat.sub_right_comm]
    · exact congrArg (·, line) (by omega)

/-- The lines up to some number come before the others. -/
theorem filter_le_append_filter_lt {lines : List (Nat × Text)} (h : lines.Pairwise (·.1 < ·.1)) (k : Nat) :
    lines.filter (fun x => decide (x.1 ≤ k)) ++ lines.filter (fun x => decide (k < x.1)) = lines := by
  induction lines with
  | nil => rfl
  | cons x lines ih =>
    obtain ⟨hx, h⟩ := List.pairwise_cons.mp h
    by_cases hk : x.1 ≤ k
    · rw [List.filter_cons_of_pos (by simpa using hk), List.filter_cons_of_neg (by simpa using hk),
        List.cons_append, ih h]
    · have hlate : ∀ y ∈ lines, k < y.1 := fun y hy => (Nat.lt_of_not_le hk).trans (hx y hy)
      rw [List.filter_cons_of_neg (by simpa using hk), List.filter_cons_of_pos (by simpa using hk),
        List.filter_eq_nil_iff.mpr fun y hy => by simpa using hlate y hy,
        List.filter_eq_self.mpr fun y hy => by simpa using hlate y hy, List.nil_append]

namespace Ruleset

/-- As long as no line of the header is deleted, the lines that are left begin with it. -/
theorem filter_lines_header (text : Text) (changes : List Edit)
    (hlive : ∀ n, 0 < n → n ≤ (Header.ofLines (splitLines text)).size →
      (((ofText text).edits changes).get? n).isSome = true) :
    ((ofText text).edits changes).lines.filter
        (fun x => decide (x.1 ≤ (Header.ofLines (splitLines text)).size))
      = numbered 0 ((splitLines text).take (Header.ofLines (splitLines text)).size) := by
  -- a line of the header that is left is one that the text began with
  have hfirst : ∀ {n line}, n ≤ (Header.ofLines (splitLines text)).size →
      (n, line) ∈ ((ofText text).edits changes).lines → (n, line) ∈ numbered 0 (splitLines text) := by
    intro n line hle hmem
    rw [← lines_ofText]
    refine mem_lines_of_mem_edits hmem ?_
    rw [lineCount_ofText]
    exact Nat.le_trans hle (Header.size_le _)
  refine eq_of_mem_iff ((pairwise_lines _).filter _) (pairwise_numbered _ _) ?_
  rintro ⟨n, line⟩
  rw [List.mem_filter, decide_eq_true_eq]
  constructor
  · rintro ⟨hmem, hle⟩
    obtain ⟨hpos, hline⟩ := mem_numbered_iff.mp (hfirst hle hmem)
    refine mem_numbered_iff.mpr ⟨hpos, ?_⟩
    rwa [List.getElem?_take_of_lt (by omega)]
  · intro hmem
    obtain ⟨hpos, hline⟩ := mem_numbered_iff.mp hmem
    have hle : n ≤ (Header.ofLines (splitLines text)).size := by
      have hlt := (List.getElem?_eq_some_iff.mp hline).1
      rw [List.length_take] at hlt
      omega
    rw [List.getElem?_take_of_lt (by omega)] at hline
    obtain ⟨line', hget⟩ := Option.isSome_iff_exists.mp (hlive n hpos hle)
    have hleft := (mem_lines_iff _).mpr hget
    have hline' := (mem_numbered_iff.mp (hfirst hle hleft)).2
    rw [hline, Option.some.injEq] at hline'
    exact ⟨hline' ▸ hleft, hle⟩

/-- The ranks of the lines after some others that have the first numbers. -/
theorem lt_rank_iff {r : Ruleset} {first : List Text} {late : List (Nat × Text)}
    (hlines : r.lines = numbered 0 first ++ late) (hlate : ∀ x ∈ late, first.length < x.1)
    {x : Nat × Text} (hx : x ∈ r.lines) : first.length < r.rank x.1 ↔ first.length < x.1 := by
  have hrank : r.rank x.1
      = (numbered 0 first).countP (·.1 ≤ x.1) + late.countP (·.1 ≤ x.1) := by
    rw [rank, hlines, List.countP_append]
  have hle := List.countP_le_length (p := fun y : Nat × Text => decide (y.1 ≤ x.1)) (l := numbered 0 first)
  rw [length_numbered] at hle
  constructor
  · intro hlt
    by_contra hnot
    have hzero : late.countP (·.1 ≤ x.1) = 0 := by
      refine List.countP_eq_zero.mpr fun y hy => ?_
      have := hlate y hy
      rw [decide_eq_true_eq]
      omega
    omega
  · intro hlt
    have hall : (numbered 0 first).countP (·.1 ≤ x.1) = first.length := by
      rw [← length_numbered 0 first]
      refine List.countP_eq_length.mpr fun y hy => ?_
      have hy' := (List.getElem?_eq_some_iff.mp (mem_numbered_iff.mp (show (y.1, y.2) ∈ _ from hy)).2).1
      rw [decide_eq_true_eq]
      omega
    have hmem : x ∈ late := by
      rcases List.mem_append.mp (hlines ▸ hx) with hx | hx
      · have hx' := (List.getElem?_eq_some_iff.mp (mem_numbered_iff.mp (show (x.1, x.2) ∈ _ from hx)).2).1
        omega
      · exact hx
    have hpos : 0 < late.countP (·.1 ≤ x.1) :=
      List.countP_pos_iff.mpr ⟨x, hmem, decide_eq_true (Nat.le_refl _)⟩
    omega

/-- The matches come back, each with the rank of its line, if no line of the header was deleted, or if
there was none and the lines that are left begin with none. -/
theorem query_ofText_toText_of_header (text : Text) (changes : List Edit) (props : Props)
    (hlive : ∀ n, 0 < n → n ≤ (Header.ofLines (splitLines text)).size →
      (((ofText text).edits changes).get? n).isSome = true)
    (hnone : (Header.ofLines (splitLines text)).size = 0 →
      ((ofText text).edits changes).savedHeader = 0) :
    (ofText ((ofText text).edits changes).toText).query props
      = (((ofText text).edits changes).query props).map
          fun m => ⟨((ofText text).edits changes).rank m.line, m.specifier⟩ := by
  rw [(follows_edits text changes).query_ofText_toText_eq_iff ⟨text, changes, rfl⟩, header_edits]
  have hlines := filter_le_append_filter_lt (pairwise_lines ((ofText text).edits changes))
    (Header.ofLines (splitLines text)).size
  rw [filter_lines_header text changes hlive] at hlines
  have hlength : ((splitLines text).take (Header.ofLines (splitLines text)).size).length
      = (Header.ofLines (splitLines text)).size := by
    rw [List.length_take, Nat.min_eq_left (Header.size_le _)]
  have hsaved : ((ofText text).edits changes).savedHeader = (Header.ofLines (splitLines text)).size := by
    rcases Nat.eq_zero_or_pos (Header.ofLines (splitLines text)).size with hzero | hpos
    · rw [hzero, hnone hzero]
    · rw [savedHeader, ← hlines, List.map_append, map_snd_numbered, Header.size_take_append hpos]
  intro n line hline rule _ _
  have hrank := lt_rank_iff hlines.symm
    (fun x hx => by rw [hlength]; simpa using (List.mem_filter.mp hx).2) ((mem_lines_iff _).mpr hline)
  rw [hlength] at hrank
  rw [hsaved]
  exact hrank.symm

end Ruleset

end ResultFilter
