import ResultFilter.Proofs.Rule.Proper
import ResultFilter.Proofs.RuleIndex.Retracted
import ResultFilter.Proofs.RuleIndex.Stored

/-!
# Compiled rules that cannot be told apart

Compiled rules whose patterns lie on the same shelves and whose other rules are the same fire alike, count
alike and are stored alike, wherever the nodes of the two indices are. A line added to both and a line
removed from both keeps this, as long as the handles of each know where the pattern of the line is. That
is so for handles kept from the start, and for those that are found again in an index that was stored.

## Main definitions

* `RuleIndex.Tracked` — the handles know the pattern of each line.
* `RuleIndex.Same` — the same shelves and the same lists.

## Main results

* `RuleIndex.Tracked.addLine`, `RuleIndex.Tracked.removeLine` — the changes of an index keep its handles.
* `RuleIndex.Tracked.reloaded` — the handles of an index that was stored are found again.
* `RuleIndex.Same.addLine`, `RuleIndex.Same.removeLine` — the changes keep two indices the same.
* `RuleIndex.same_reloaded` — an index that was stored is the same.
-/

namespace List

variable {α β : Type*} [BEq α] [LawfulBEq α]

/-- In a list with one value for each key, the value that is found is the one that is there. -/
theorem lookup_eq_some_iff_mem {l : List (α × β)} (h : (l.map (·.1)).Nodup) {a : α} {b : β} :
    l.lookup a = some b ↔ (a, b) ∈ l := by
  induction l with
  | nil => simp
  | cons x l ih =>
    obtain ⟨k, v⟩ := x
    obtain ⟨hk, h⟩ := nodup_cons.mp h
    rw [lookup_cons, mem_cons, Prod.mk.injEq]
    by_cases hak : a = k
    · subst hak
      have hnone : (a, b) ∉ l := fun hmem => hk (mem_map_of_mem (f := (·.1)) hmem)
      simp [hnone, eq_comm]
    · rw [beq_eq_false_iff_ne.mpr hak, ih h]
      simp [hak]

/-- What is found after the values of one key have been taken out. -/
theorem lookup_filter_ne (l : List (α × β)) (k a : α) :
    (l.filter (·.1 != k)).lookup a = if a == k then none else l.lookup a := by
  induction l with
  | nil => simp
  | cons x l ih =>
    obtain ⟨j, v⟩ := x
    rw [filter_cons, lookup_cons]
    by_cases hj : j = k
    · subst hj
      simp only [bne_self_eq_false, Bool.false_eq_true, if_false, ih]
      cases a == j <;> rfl
    · have hkeep : (j != k) = true := by simpa using hj
      rw [if_pos hkeep, lookup_cons, ih]
      by_cases haj : a = j
      · subst haj
        simp [hj]
      · rw [beq_eq_false_iff_ne.mpr haj]

end List

namespace ResultFilter

namespace LineRule

variable {α : Type} {p : α → Prop} {bound bound' : Nat} {r : LineRule α}

theorem Within.mono (h : r.Within p bound) (hle : bound ≤ bound') : r.Within p bound' :=
  ⟨h.line_le.trans hle, h.specifier, h.condition⟩

end LineRule

namespace RuleIndex

/-! ### What can be stored -/

namespace Storable

variable {index : RuleIndex} {bound bound' : Nat}

theorem mono (h : index.Storable bound) (hle : bound ≤ bound') : index.Storable bound' where
  isTree := h.isTree
  patterns := fun he => (h.patterns he).mono hle
  url := fun r hr => (h.url r hr).mono hle
  title := fun r hr => (h.title r hr).mono hle
  expressions := fun r hr => (h.expressions r hr).mono hle

theorem empty : RuleIndex.empty.Storable 0 where
  isTree := Index.isTree_empty
  patterns := fun he => absurd (Index.lists_empty.mem_iff.mpr he) List.not_mem_nil
  url := fun _ hr => absurd hr List.not_mem_nil
  title := fun _ hr => absurd hr List.not_mem_nil
  expressions := fun _ hr => absurd hr List.not_mem_nil

/-- A rule that can be read from a line can be stored. -/
theorem addRule (h : index.Storable bound) {rule : Rule} (hrule : rule.IsProper) :
    (index.addRule (bound + 1) rule).1.Storable (bound + 1) := by
  have hold := h.mono (Nat.le_succ bound)
  obtain ⟨hspecifier, hbody⟩ := hrule
  unfold RuleIndex.addRule
  cases hkind : rule.body with
  | pattern p guard =>
    rw [hkind] at hbody
    dsimp only
    split
    · next patterns handle hins =>
      refine { hold with isTree := (h.isTree.insertPattern hins).1, patterns := fun {other e} he => ?_ }
      rw [h.isTree.entryAt?_insertPattern hins] at he
      split at he
      · obtain rfl := Option.some.inj he
        cases p <;> exact ⟨Nat.le_refl _, hspecifier, hbody⟩
      · exact hold.patterns he
    · exact hold
  | regex target r =>
    rw [hkind] at hbody
    have hnew : LineRule.Within Regex.IsProper (bound + 1) ⟨bound + 1, rule.specifier, r⟩ :=
      ⟨Nat.le_refl _, hspecifier, hbody⟩
    cases target with
    | url => exact { hold with url := List.forall_mem_append.mpr ⟨hold.url, List.forall_mem_singleton.mpr hnew⟩ }
    | title =>
      exact { hold with title := List.forall_mem_append.mpr ⟨hold.title, List.forall_mem_singleton.mpr hnew⟩ }
  | expression e =>
    rw [hkind] at hbody
    have hnew : LineRule.Within Expression.IsProper (bound + 1) ⟨bound + 1, rule.specifier, e⟩ :=
      ⟨Nat.le_refl _, hspecifier, hbody⟩
    exact { hold with
      expressions := List.forall_mem_append.mpr ⟨hold.expressions, List.forall_mem_singleton.mpr hnew⟩ }

end Storable

/-! ### Handles -/

/-- The rules of lines up to a bound can be stored, and the handles know the pattern of each line. -/
structure Tracked (index : RuleIndex) (handles : List (Nat × Handle)) (bound : Nat) : Prop where
  /-- The rules can be stored. -/
  storable : index.Storable bound
  /-- The index of the patterns is a regular one. -/
  regular : index.patterns.Regular
  /-- What is found for a line is the handle of its pattern. -/
  lookup_iff {n : Nat} {h : Handle} :
    handles.lookup n = some h ↔ ∃ e, index.patterns.entryAt? h = some e ∧ e.value.line = n

theorem tracked_empty : empty.Tracked [] 0 where
  storable := Storable.empty
  regular := Index.regular_empty
  lookup_iff := by
    intro n h
    have hnone : ∀ e : Entry (LineRule (Option Expression)), Index.empty.entryAt? h ≠ some e :=
      fun e he => absurd (Index.lists_empty.mem_iff.mpr he) List.not_mem_nil
    constructor
    · intro hlookup
      exact absurd hlookup (by simp)
    · rintro ⟨e, he, -⟩
      exact absurd he (hnone e)

namespace Tracked

variable {index : RuleIndex} {handles : List (Nat × Handle)} {bound : Nat}
  (ht : index.Tracked handles bound)
include ht

theorem mono {bound' : Nat} (hle : bound ≤ bound') : index.Tracked handles bound' :=
  { ht with storable := ht.storable.mono hle }

/-- A line has one pattern at most. -/
theorem distinct : index.patterns.Distinct (·.value.line) := by
  intro h h' e e' he he' heq
  have hfirst := ht.lookup_iff.mpr ⟨e, he, heq⟩
  have hsecond := ht.lookup_iff.mpr ⟨e', he', rfl⟩
  exact Option.some.inj (hfirst.symm.trans hsecond)

/-- A pattern added for the next line is known by its handle. -/
theorem lookup_iff_insertPattern {patterns : Index (LineRule (Option Expression))} {p : MatchPattern}
    {value : LineRule (Option Expression)} {handle : Handle} (hvalue : value.line = bound + 1)
    (hins : index.patterns.insertPattern p value = .ok (patterns, handle)) {n : Nat} {h : Handle} :
    ((bound + 1, handle) :: handles).lookup n = some h ↔ ∃ e, patterns.entryAt? h = some e ∧ e.value.line = n := by
  simp only [ht.storable.isTree.entryAt?_insertPattern hins]
  have hline : ∀ e, index.patterns.entryAt? h = some e → e.value.line ≠ bound + 1 :=
    fun e he => Nat.ne_of_lt (Nat.lt_succ_of_le (ht.storable.patterns he).line_le)
  have hnew : (Entry.under value p).value.line = bound + 1 := by rw [Entry.value_under, hvalue]
  rw [List.lookup_cons]
  by_cases hn : n = bound + 1
  · subst hn
    rw [beq_self_eq_true]
    constructor
    · intro hsome
      obtain rfl := Option.some.inj hsome
      exact ⟨_, if_pos rfl, hnew⟩
    · rintro ⟨e, he, heline⟩
      split at he
      · next heq => rw [heq]
      · exact absurd heline (hline e he)
  · rw [beq_eq_false_iff_ne.mpr hn]
    dsimp only
    rw [ht.lookup_iff]
    refine exists_congr fun e => and_congr_left fun heline => ?_
    split
    · next heq =>
      -- the handle is a new one, and the entry is not that of its line
      constructor
      · intro he
        rw [heq, ht.regular.entryAt?_eq_none hins] at he
        exact absurd he (by simp)
      · intro he
        obtain rfl := Option.some.inj he
        exact absurd (heline.symm.trans hnew) hn
    · exact Iff.rfl

/-- A rule added for the next line is known by its handle. -/
theorem addRule {rule : Rule} (hrule : rule.IsProper) :
    (index.addRule (bound + 1) rule).1.Tracked
      (((index.addRule (bound + 1) rule).2.map (bound + 1, ·)).toList ++ handles) (bound + 1) := by
  have hstorable := ht.storable.addRule hrule
  have hold := ht.mono (Nat.le_succ bound)
  unfold RuleIndex.addRule at hstorable ⊢
  cases hkind : rule.body with
  | pattern p guard =>
    rw [hkind] at hstorable
    dsimp only at hstorable ⊢
    split at hstorable
    · next patterns handle hins =>
      exact ⟨hstorable, ht.regular.insertPattern hins, ht.lookup_iff_insertPattern rfl hins⟩
    · exact hold
  | regex target r =>
    rw [hkind] at hstorable
    cases target <;> exact ⟨hstorable, ht.regular, ht.lookup_iff⟩
  | expression e =>
    rw [hkind] at hstorable
    exact ⟨hstorable, ht.regular, ht.lookup_iff⟩

/-- So is the rule on a line that is added, if there is one. -/
theorem addLine (text : Text) :
    (index.addLine (bound + 1) text).1.Tracked
      (((index.addLine (bound + 1) text).2.map (bound + 1, ·)).toList ++ handles) (bound + 1) := by
  have hold := ht.mono (Nat.le_succ bound)
  unfold RuleIndex.addLine
  cases hline : Rule.ofLine text with
  | error e => exact hold
  | ok rule =>
    cases rule with
    | none => exact hold
    | some rule => exact ht.addRule (Rule.isProper_of_ofLine hline)

/-- What is removed with a line is its pattern. -/
theorem entryAt?_removeLine (n : Nat) (h : Handle) :
    (index.removeLine n (handles.lookup n)).patterns.entryAt? h
      = (index.patterns.entryAt? h).filter (·.value.line != n) := by
  rw [RuleIndex.entryAt?_removeLine]
  cases he : index.patterns.entryAt? h with
  | none => rw [ite_self, Option.filter_none]
  | some e =>
    have hknown : handles.lookup n = some h ↔ e.value.line = n := by
      rw [ht.lookup_iff, he]
      simp
    by_cases hline : e.value.line = n
    · rw [if_pos (hknown.mpr hline), Option.filter_some, if_neg (by simpa using hline)]
    · rw [if_neg (mt hknown.mp hline), Option.filter_some, if_pos (by simpa using hline)]

theorem regular_removeLine (n : Nat) : (index.removeLine n (handles.lookup n)).patterns.Regular :=
  RuleIndex.regular_removeLine index n _ ht.regular

/-- The shelves without the pattern of the line. -/
theorem shelf?_removeLine (n : Nat) (σ : Shelf) :
    (index.removeLine n (handles.lookup n)).patterns.shelf? σ
      = (index.patterns.shelf? σ).map (·.filter (·.value.line != n)) := by
  obtain ⟨path, hpath⟩ := ht.storable.isTree.labelled
  unfold RuleIndex.removeLine
  cases hlookup : handles.lookup n with
  | none =>
    dsimp only
    cases hl : index.patterns.shelf? σ with
    | none => rfl
    | some l =>
      refine congrArg some (List.filter_eq_self.mpr fun e he => ?_).symm
      obtain ⟨h, hentry, -⟩ := hpath.exists_entryAt?_of_mem hl he
      by_contra hline
      have hsome := ht.lookup_iff.mpr ⟨e, hentry, by simpa using hline⟩
      rw [hlookup] at hsome
      exact absurd hsome (by simp)
  | some known =>
    refine Index.shelf?_remove (fun other e he => ?_) σ
    rw [bne_iff_ne, not_iff_not]
    constructor
    · intro hline
      have hsome := ht.lookup_iff.mpr ⟨e, he, hline⟩
      exact Option.some.inj (hsome.symm.trans hlookup)
    · rintro rfl
      obtain ⟨e', he', hline⟩ := ht.lookup_iff.mp hlookup
      rw [he, Option.some.injEq] at he'
      rwa [he']

/-- The handles of the other lines stay. -/
theorem removeLine (n : Nat) :
    (index.removeLine n (handles.lookup n)).Tracked (handles.filter (·.1 != n)) bound where
  storable :=
    { isTree := (ht.regular_removeLine n).isTree
      patterns := fun he => by
        rw [ht.entryAt?_removeLine] at he
        exact ht.storable.patterns (Option.filter_eq_some_iff.mp he).1
      url := fun r hr => ht.storable.url r (List.mem_of_mem_filter hr)
      title := fun r hr => ht.storable.title r (List.mem_of_mem_filter hr)
      expressions := fun r hr => ht.storable.expressions r (List.mem_of_mem_filter hr) }
  regular := ht.regular_removeLine n
  lookup_iff := by
    intro m h
    rw [List.lookup_filter_ne]
    simp only [ht.entryAt?_removeLine, Option.filter_eq_some_iff, bne_iff_ne]
    by_cases hm : m = n
    · subst hm
      rw [beq_self_eq_true, if_pos rfl]
      constructor
      · intro hnone
        exact absurd hnone (by simp)
      · rintro ⟨e, ⟨-, hne⟩, hline⟩
        exact absurd hline hne
    · rw [beq_eq_false_iff_ne.mpr hm, if_neg (by simp), ht.lookup_iff]
      refine exists_congr fun e => and_congr_left fun hline => ?_
      rw [hline]
      exact (and_iff_left hm).symm

/-- The handles of patterns that were stored are found again. -/
theorem reloaded : index.reloaded.Tracked index.reloaded.patternHandles bound := by
  have hregular : index.reloaded.patterns.Regular := Index.regular_ofSnapshot ht.regular.within_toSnapshot
  have hshelves : ∀ σ l, index.reloaded.patterns.shelf? σ = some l →
      l = [] ∨ index.patterns.shelf? σ = some l := by
    intro σ l hl
    rw [show index.reloaded.patterns = .ofSnapshot index.patterns.toSnapshot from rfl,
      Index.shelf?_reload ht.regular] at hl
    split at hl
    · exact Or.inl (Option.some.inj hl).symm
    · exact Or.inr hl
  have hdistinct : index.reloaded.patterns.Distinct (·.value.line) :=
    Index.Distinct.of_shelves ht.distinct ht.storable.isTree hregular.isTree hshelves
  refine ⟨⟨hregular.isTree, fun {h e} he => ?_, ht.storable.url, ht.storable.title, ht.storable.expressions⟩,
    hregular, fun {n h} => ?_⟩
  · obtain ⟨h', he'⟩ := Index.exists_entryAt?_of_shelves hregular.isTree ht.storable.isTree hshelves he
    exact ht.storable.patterns he'
  · have hkeys : (index.reloaded.patternHandles.map (·.1)).Nodup := by
      rw [map_fst_patternHandles, List.nodup_reverse]
      exact Index.Distinct.nodup_filed hdistinct ⟨Index.nodup_entries _, Index.mem_entries, hregular.size_eq⟩
    rw [List.lookup_eq_some_iff_mem hkeys, mem_patternHandles]

end Tracked

/-! ### Rules that are the same -/

/-- The patterns lie on the same shelves, and the other rules are the same. -/
structure Same (index other : RuleIndex) : Prop where
  /-- The shelves are the same. -/
  shelf?_eq (σ : Shelf) : index.patterns.shelf? σ = other.patterns.shelf? σ
  /-- So are the regular expressions for the address. -/
  url : index.url = other.url
  /-- So are those for the title. -/
  title : index.title = other.title
  /-- So are the expressions. -/
  expressions : index.expressions = other.expressions

namespace Same

variable {index other : RuleIndex} (hs : index.Same other)
include hs

/-- A rule is added to both or to neither. -/
theorem addRule (htree : index.patterns.IsTree) (hother : other.patterns.IsTree) (n : Nat) (rule : Rule) :
    (index.addRule n rule).1.Same (other.addRule n rule).1 := by
  unfold RuleIndex.addRule
  cases rule.body with
  | pattern p guard =>
    dsimp only
    by_cases hp : p.isServed = true
    · obtain ⟨patterns, h, hins⟩ := index.patterns.exists_insertPattern hp
        (⟨n, rule.specifier, guard⟩ : LineRule (Option Expression))
      obtain ⟨patterns', h', hins'⟩ := other.patterns.exists_insertPattern hp
        (⟨n, rule.specifier, guard⟩ : LineRule (Option Expression))
      simp only [hins, hins']
      refine { hs with shelf?_eq := fun σ => ?_ }
      have hshelf := (htree.insertPattern hins).2 σ
      have hshelf' := (hother.insertPattern hins').2 σ
      rw [hs.shelf?_eq σ] at hshelf
      exact hshelf.trans hshelf'.symm
    · have hno : p.isServed = false := Bool.not_eq_true _ ▸ hp
      obtain ⟨e, he⟩ := Index.insertPattern_of_not_isServed index.patterns hno
        (⟨n, rule.specifier, guard⟩ : LineRule (Option Expression))
      obtain ⟨e', he'⟩ := Index.insertPattern_of_not_isServed other.patterns hno
        (⟨n, rule.specifier, guard⟩ : LineRule (Option Expression))
      simp only [he, he']
      exact hs
  | regex target r =>
    cases target with
    | url => exact { hs with url := congrArg (· ++ _) hs.url }
    | title => exact { hs with title := congrArg (· ++ _) hs.title }
  | expression e => exact { hs with expressions := congrArg (· ++ _) hs.expressions }

theorem addLine (htree : index.patterns.IsTree) (hother : other.patterns.IsTree) (n : Nat) (text : Text) :
    (index.addLine n text).1.Same (other.addLine n text).1 := by
  unfold RuleIndex.addLine
  cases Rule.ofLine text with
  | error e => exact hs
  | ok rule =>
    cases rule with
    | none => exact hs
    | some rule => exact hs.addRule htree hother n rule

/-- A line is removed from both, whatever the handles of its pattern are. -/
theorem removeLine {handles handles' : List (Nat × Handle)} {bound bound' : Nat}
    (ht : index.Tracked handles bound) (ht' : other.Tracked handles' bound') (n : Nat) :
    (index.removeLine n (handles.lookup n)).Same (other.removeLine n (handles'.lookup n)) where
  shelf?_eq := fun σ => by rw [ht.shelf?_removeLine, ht'.shelf?_removeLine, hs.shelf?_eq]
  url := congrArg (List.filter _) hs.url
  title := congrArg (List.filter _) hs.title
  expressions := congrArg (List.filter _) hs.expressions

/-- The same rules fire. -/
theorem query_eq (props : Props) : index.query props = other.query props := by
  have hlookup : index.patterns.lookupText props.url = other.patterns.lookupText props.url := by
    unfold Index.lookupText
    cases Url.ofText? props.url with
    | none => rfl
    | some u => exact Index.lookup_eq_of_shelves hs.shelf?_eq u
  have hpatterns : index.firedPatterns props = other.firedPatterns props := by
    rw [firedPatterns, hlookup, ← firedPatterns]
  rw [query, query, hpatterns, hs.url, hs.title, hs.expressions]

/-- The same number of rules is counted. -/
theorem ruleCount_eq (hi : index.patterns.Regular) (ho : other.patterns.Regular) :
    index.ruleCount = other.ruleCount := by
  have hcontents := Index.contents_perm_of_shelves hi.isTree ho.isTree hs.shelf?_eq
  have hsize : index.patterns.size = other.patterns.size := by
    have hlength := hcontents.length_eq
    rwa [List.length_map, List.length_map, ← hi.size_eq, ← ho.size_eq] at hlength
  rw [ruleCount, ruleCount, hsize, hs.url, hs.title, hs.expressions]

/-- The same is stored. -/
theorem toJson_eq (htree : index.patterns.IsTree) (hother : other.patterns.IsTree) :
    index.toJson = other.toJson := by
  have hsnapshot := Index.toSnapshot_eq_of_shelves htree hother hs.shelf?_eq
  rw [toJson, toJson, Index.toJson, Index.toJson, hsnapshot, hs.url, hs.title, hs.expressions]

end Same

/-- Rules that were stored are the same as long as none of them is for the root's host alone, which has no
place in the stored form. -/
theorem same_reloaded {index : RuleIndex} (hi : index.patterns.Regular)
    (hroot : (index.patterns.bucket (.exact Index.root)).live = []) : index.reloaded.Same index where
  shelf?_eq := fun σ => by
    refine (Index.shelf?_reload hi σ).trans ?_
    split
    · next hσ =>
      have hlost : index.patterns.shelf? (.host false []) = some _ := rfl
      rw [hσ, hlost]
      exact congrArg some hroot.symm
    · rfl
  url := rfl
  title := rfl
  expressions := rfl

end RuleIndex

end ResultFilter
