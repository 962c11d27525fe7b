import ResultFilter.Proofs.Index.Reload
import ResultFilter.Proofs.RuleIndex.Compiled
import ResultFilter.RuleIndex.Stored

/-!
# Rules taken back

An index that was read may have any number of patterns on a line, in any buckets. What a question finds is told
by the entries behind the handles: taking the rules of a line back clears at most one of them, and touches
neither what is behind the other handles nor the rules without a pattern on other lines.

## Main definitions

* `Index.Finds` — a lookup comes by an entry that covers the address.
* `RuleIndex.EntryFires` — the rule of an entry fires.

## Main results

* `Index.Regular.mem_lookup_iff` — what a lookup gives.
* `RuleIndex.mem_lines_query_iff` — the lines of the answer to a question.
* `RuleIndex.mem_lines_query_removeLine_iff` — those after the rules of a line were taken back.
* `RuleIndex.lookup_patternHandles` — the handle that is found again for a line.
-/

namespace List

variable {α β : Type*}

/-- Read from the end, the value found first is the last one. -/
theorem lookup_reverse [BEq α] [LawfulBEq α] (l : List (α × β)) (a : α) :
    l.reverse.lookup a = ((l.filter (·.1 == a)).getLast?).map (·.2) := by
  induction l using List.reverseRecOn with
  | nil => rfl
  | append_singleton l x ih =>
    obtain ⟨k, v⟩ := x
    rw [reverse_append, reverse_singleton, singleton_append, lookup_cons, filter_append, filter_singleton]
    by_cases hak : a = k
    · subst hak
      simp
    · have hka : (k == a) = false := beq_eq_false_iff_ne.mpr (Ne.symm hak)
      rw [beq_eq_false_iff_ne.mpr hak, hka, ih]
      simp

/-- In a list in which no key comes twice, what stands before the last is all that has another key. -/
theorem mem_dropLast_iff {key : α → β} {l : List α} (h : (l.map key).Nodup) {x : α} :
    x ∈ l.dropLast ↔ x ∈ l ∧ l.getLast?.map key ≠ some (key x) := by
  induction l using List.reverseRecOn with
  | nil => simp
  | append_singleton l y ih =>
    rw [map_append, map_singleton, nodup_append] at h
    obtain ⟨-, -, hdisjoint⟩ := h
    rw [dropLast_concat, getLast?_concat, Option.map_some, ne_eq, Option.some.injEq, mem_append, mem_singleton]
    constructor
    · intro hx
      exact ⟨Or.inl hx, fun heq => hdisjoint _ (mem_map_of_mem hx) _ (mem_singleton_self _) heq.symm⟩
    · rintro ⟨hx | rfl, hne⟩
      · exact hx
      · exact absurd rfl hne

end List

namespace ResultFilter

/-! ### What a lookup comes by -/

namespace Index

variable {α : Type}

/-- A lookup for an address looks into the bucket of an entry, and the entry covers the address. -/
def Finds (index : Index α) (url : Url) (h : Handle) (e : Entry α) : Prop :=
  url.isWeb = true ∧ h.bucket ∈ index.searched url.host ∧ e.covers url = true

theorem Regular.mem_lookup_iff {index : Index α} (hi : index.Regular) {url : Url} {a : α} :
    a ∈ index.lookup url ↔ ∃ h e, index.entryAt? h = some e ∧ index.Finds url h e ∧ e.value = a := by
  cases hweb : url.isWeb with
  | false => simp [lookup, Finds, hweb]
  | true =>
    have hall : ∀ e ∈ index.allUrls.live, e.covers url = true := fun e he =>
      hi.bare e he ▸ Entry.covers_bare hweb e.value
    rw [lookup_eq_filedIn hweb hall, List.mem_map]
    constructor
    · rintro ⟨⟨h, e⟩, hmem, rfl⟩
      obtain ⟨hfiled, hcovers⟩ := List.mem_filter.mp hmem
      obtain ⟨hsearched, he⟩ := mem_filedIn.mp hfiled
      exact ⟨h, e, he, ⟨hweb, hsearched, hcovers⟩, rfl⟩
    · rintro ⟨h, e, he, ⟨-, hsearched, hcovers⟩, rfl⟩
      exact ⟨(h, e), List.mem_filter.mpr ⟨mem_filedIn.mpr ⟨hsearched, he⟩, hcovers⟩, rfl⟩

theorem visited_congr {index other : Index α} (h : ∀ i, (other.node i).children = (index.node i).children) :
    ∀ (labels : List Text) (i : Nat), other.visited i labels = index.visited i labels := by
  intro labels
  induction labels with
  | nil => intro i; rfl
  | cons label labels ih =>
    intro i
    rw [visited_cons, visited_cons, h]
    cases (index.node i).children.find? label with
    | none => rfl
    | some c => rw [Option.map_some, Option.map_some, ih c]

/-- Removing an entry does not change the way of a lookup. -/
theorem finds_remove (index : Index α) (removed : Handle) {url : Url} {h : Handle} {e : Entry α} :
    (index.remove removed).2.Finds url h e ↔ index.Finds url h e := by
  rw [Finds, Finds, searched, searched, visited_congr (index.children_remove removed)]

end Index

/-! ### What a question comes by -/

namespace LineRule

variable {α : Type}

theorem mem_lines_fired {rules : List (LineRule α)} {holds : α → Bool} {n : Nat} :
    n ∈ (fired rules holds).map (·.line) ↔ ∃ r ∈ rules, holds r.condition = true ∧ r.line = n := by
  simp [fired, toMatch, and_assoc]

theorem mem_lines_fired_filter {rules : List (LineRule α)} {holds : α → Bool} {n m : Nat} :
    n ∈ (fired (rules.filter (·.line != m)) holds).map (·.line)
      ↔ n ∈ (fired rules holds).map (·.line) ∧ n ≠ m := by
  rw [mem_lines_fired, mem_lines_fired]
  constructor
  · rintro ⟨r, hr, hholds, rfl⟩
    obtain ⟨hr, hne⟩ := List.mem_filter.mp hr
    exact ⟨⟨r, hr, hholds, rfl⟩, bne_iff_ne.mp hne⟩
  · rintro ⟨⟨r, hr, hholds, rfl⟩, hne⟩
    exact ⟨r, List.mem_filter.mpr ⟨hr, bne_iff_ne.mpr hne⟩, hholds, rfl⟩

end LineRule

namespace RuleIndex

variable {index : RuleIndex} {props : Props} {n : Nat}

/-- The rule of an entry of the patterns fires: a lookup for the address comes by it, and its guard holds. -/
def EntryFires (index : RuleIndex) (props : Props) (h : Handle) (e : Entry (LineRule (Option Expression))) :
    Prop :=
  (∃ url, Url.ofText? props.url = some url ∧ index.patterns.Finds url h e)
    ∧ e.value.condition.all (·.eval props) = true

theorem mem_lines_firedPatterns_iff (hi : index.patterns.Regular) :
    n ∈ (index.firedPatterns props).map (·.line)
      ↔ ∃ h e, index.patterns.entryAt? h = some e ∧ e.value.line = n ∧ index.EntryFires props h e := by
  rw [firedPatterns_eq, LineRule.mem_lines_fired]
  unfold Index.lookupText EntryFires
  cases Url.ofText? props.url with
  | none => simp
  | some url =>
    constructor
    · rintro ⟨r, hr, hguard, rfl⟩
      obtain ⟨h, e, he, hfinds, rfl⟩ := hi.mem_lookup_iff.mp hr
      exact ⟨h, e, he, rfl, ⟨url, rfl, hfinds⟩, hguard⟩
    · rintro ⟨h, e, he, rfl, ⟨url', hurl, hfinds⟩, hguard⟩
      obtain rfl := Option.some.inj hurl
      exact ⟨e.value, hi.mem_lookup_iff.mpr ⟨h, e, he, hfinds, rfl⟩, hguard, rfl⟩

/-- A question gives the lines of the rules without a pattern that fire and of the entries that fire. -/
theorem mem_lines_query_iff (hi : index.patterns.Regular) :
    n ∈ (index.query props).map (·.line) ↔ n ∈ (index.firedOthers props).map (·.line)
      ∨ ∃ h e, index.patterns.entryAt? h = some e ∧ e.value.line = n ∧ index.EntryFires props h e := by
  rw [mem_lines_query, mem_lines_firedPatterns_iff hi]

/-! ### Taking rules back -/

section RemoveLine

variable (index) (m : Nat) (handle : Option Handle)

theorem mem_lines_firedOthers_removeLine :
    n ∈ ((index.removeLine m handle).firedOthers props).map (·.line)
      ↔ n ∈ (index.firedOthers props).map (·.line) ∧ n ≠ m := by
  have hurl : (index.removeLine m handle).url = index.url.filter (·.line != m) := rfl
  have htitle : (index.removeLine m handle).title = index.title.filter (·.line != m) := rfl
  have hexpressions : (index.removeLine m handle).expressions = index.expressions.filter (·.line != m) := rfl
  rw [firedOthers, firedOthers, hurl, htitle, hexpressions]
  -- the line is taken out of each of the three lists
  simp only [firedRegexes_eq, List.map_append, List.mem_append, LineRule.mem_lines_fired_filter, or_and_right]

theorem entryAt?_removeLine (h : Handle) :
    (index.removeLine m handle).patterns.entryAt? h
      = if handle = some h then none else index.patterns.entryAt? h := by
  unfold removeLine
  cases handle with
  | none => rfl
  | some known =>
    dsimp only
    rw [Index.entryAt?_remove]
    exact if_congr (by rw [Option.some.injEq, eq_comm]) rfl rfl

theorem regular_removeLine (hi : index.patterns.Regular) : (index.removeLine m handle).patterns.Regular := by
  unfold removeLine
  cases handle with
  | none => exact hi
  | some known => exact hi.remove known

theorem entryFires_removeLine {h : Handle} {e : Entry (LineRule (Option Expression))} :
    (index.removeLine m handle).EntryFires props h e ↔ index.EntryFires props h e := by
  unfold EntryFires removeLine
  cases handle with
  | none => rfl
  | some known =>
    dsimp only
    simp only [Index.finds_remove]

/-- After the rules of a line were taken back, a question gives the other lines of rules without a pattern, and
of the entries all but the one that was known. -/
theorem mem_lines_query_removeLine_iff (hi : index.patterns.Regular) :
    n ∈ ((index.removeLine m handle).query props).map (·.line)
      ↔ (n ∈ (index.firedOthers props).map (·.line) ∧ n ≠ m)
        ∨ ∃ h e, index.patterns.entryAt? h = some e ∧ e.value.line = n ∧ handle ≠ some h
          ∧ index.EntryFires props h e := by
  rw [mem_lines_query_iff (index.regular_removeLine m handle hi), mem_lines_firedOthers_removeLine]
  refine or_congr Iff.rfl (exists_congr fun h => exists_congr fun e => ?_)
  rw [entryAt?_removeLine, entryFires_removeLine]
  by_cases hknown : handle = some h
  · simp [hknown]
  · simp [hknown]

end RemoveLine

/-! ### Handles that are found again -/

/-- The entries of the patterns of a line, in the order of the index. -/
def entriesOf (index : RuleIndex) (n : Nat) : List (Handle × Entry (LineRule (Option Expression))) :=
  index.patterns.entries.filter (·.2.value.line == n)

theorem mem_entriesOf {h : Handle} {e : Entry (LineRule (Option Expression))} :
    (h, e) ∈ index.entriesOf n ↔ index.patterns.entryAt? h = some e ∧ e.value.line = n := by
  rw [entriesOf, List.mem_filter, Index.mem_entries, beq_iff_eq]

theorem nodup_entriesOf (index : RuleIndex) (n : Nat) : ((index.entriesOf n).map (·.1)).Nodup :=
  index.patterns.nodup_entries.sublist (List.filter_sublist.map _)

/-- The handles that are found are those of the live patterns, under their lines. -/
theorem mem_patternHandles {h : Handle} :
    (n, h) ∈ index.patternHandles ↔ ∃ e, index.patterns.entryAt? h = some e ∧ e.value.line = n := by
  rw [patternHandles, List.mem_reverse, List.mem_map]
  constructor
  · rintro ⟨⟨h', e⟩, hmem, heq⟩
    obtain ⟨rfl, rfl⟩ := Prod.mk.inj heq
    exact ⟨e, Index.mem_entries.mp hmem, rfl⟩
  · rintro ⟨e, he, rfl⟩
    exact ⟨(h, e), Index.mem_entries.mpr he, rfl⟩

theorem map_fst_patternHandles (index : RuleIndex) :
    index.patternHandles.map (·.1) = (index.patterns.entries.map (·.2.value.line)).reverse := by
  rw [patternHandles, List.map_reverse, List.map_map]
  rfl

/-- Of the patterns of a line the last is known. -/
theorem lookup_patternHandles (index : RuleIndex) (n : Nat) :
    index.patternHandles.lookup n = (index.entriesOf n).getLast?.map (·.1) := by
  rw [patternHandles, List.lookup_reverse, List.filter_map, List.getLast?_map, Option.map_map]
  rfl

theorem mem_dropLast_entriesOf {h : Handle} {e : Entry (LineRule (Option Expression))} :
    (h, e) ∈ (index.entriesOf n).dropLast
      ↔ index.patterns.entryAt? h = some e ∧ e.value.line = n ∧ index.patternHandles.lookup n ≠ some h := by
  rw [List.mem_dropLast_iff (index.nodup_entriesOf n), mem_entriesOf, lookup_patternHandles, and_assoc]

/-- Whatever compiled rules are read from, the index of their patterns is a regular one. -/
theorem regular_of_decode {limit : Nat} {tree : JsonTree} (h : decode limit tree = some index) :
    index.patterns.Regular := by
  simp only [decode, Option.bind_eq_bind, Option.bind_eq_some_iff, Option.pure_def, Option.some.injEq] at h
  obtain ⟨r, -, patterns, hpatterns, url, -, title, -, expressions, -, rfl⟩ := h
  obtain ⟨field, -, hfield⟩ := Option.bind_eq_some_iff.mp hpatterns
  exact Index.regular_of_decode hfield

end RuleIndex

end ResultFilter
