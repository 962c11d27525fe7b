import ResultFilter.Proofs.Index.Filing

/-!
# Handles

An index asked to file payloads and to take them back, in any order. Each answer is told from the call and
the index before it, and what lies behind a handle after any number of calls from the calls alone: the
payload for which the handle was given, until the handle is removed.

## Main definitions

* `Index.Call`, `Index.Answer` — what an index is asked, and what it answers.
* `Index.answer`, `Index.after`, `Index.answers` — one call, and a run of calls.
* `Index.Call.refusal?` — why a call is refused, told from the call alone.

## Main results

* `get?_answer` — what one call does to the payload behind each handle.
* `get?_after` — what a run of calls does to the payload behind a handle that was given out.
* `filed_once_removed_once` — handles are a faithful and lasting store.
-/

namespace ResultFilter

/-- Why an index does not take a pattern. -/
def MatchPattern.refusal? : MatchPattern → Option PatternError
  | .allUrls => none
  | .url scheme host path =>
    if (MatchPattern.url scheme host path).isServed then none else some (.unsupportedScheme scheme)

namespace Index

variable {α : Type}

/-- What is asked of an index. -/
inductive Call (α : Type) where
  /-- File a payload under the pattern that a text spells. -/
  | insert (pattern : Text) (value : α)
  /-- File a payload under a pattern. -/
  | insertPattern (pattern : MatchPattern) (value : α)
  /-- Remove what is behind a handle. -/
  | remove (h : Handle)

/-- What an index answers. -/
inductive Answer (α : Type) where
  /-- The payload is filed behind a handle. -/
  | filed (h : Handle)
  /-- The payload is not filed. -/
  | refused (e : PatternError)
  /-- What was behind the handle is removed. -/
  | removed (value : Option α)

namespace Call

/-- The payload that a call is to file. -/
def value? : Call α → Option α
  | .insert _ value => some value
  | .insertPattern _ value => some value
  | .remove _ => none

/-- Whether a call removes what is behind a handle. -/
def removes (h : Handle) : Call α → Bool
  | .remove other => other == h
  | _ => false

/-- Why a call is refused. -/
def refusal? : Call α → Option PatternError
  | .insert pattern _ =>
    match MatchPattern.ofText pattern with
    | .ok p => p.refusal?
    | .error e => some e
  | .insertPattern pattern _ => pattern.refusal?
  | .remove _ => none

end Call

/-- The answer to a call, and the index after it. -/
def answer (index : Index α) : Call α → Index α × Answer α
  | .insert pattern value =>
    match index.insert pattern value with
    | .ok (index, h) => (index, .filed h)
    | .error e => (index, .refused e)
  | .insertPattern pattern value =>
    match index.insertPattern pattern value with
    | .ok (index, h) => (index, .filed h)
    | .error e => (index, .refused e)
  | .remove h => ((index.remove h).2, .removed (index.remove h).1)

/-- The index after some calls. -/
def after (index : Index α) : List (Call α) → Index α
  | [] => index
  | c :: calls => (index.answer c).1.after calls

/-- The answers to some calls. -/
def answers (index : Index α) : List (Call α) → List (Answer α)
  | [] => []
  | c :: calls => (index.answer c).2 :: (index.answer c).1.answers calls

/-! ### One call -/

theorem insertPattern_of_refusal? (index : Index α) {p : MatchPattern} {e : PatternError}
    (he : p.refusal? = some e) (value : α) : index.insertPattern p value = .error e := by
  cases p with
  | allUrls => exact absurd he (by simp [MatchPattern.refusal?])
  | url scheme host path =>
    rw [MatchPattern.refusal?] at he
    by_cases hserved : (MatchPattern.url scheme host path).isServed = true
    · rw [if_pos hserved] at he
      exact absurd he (by simp)
    · rw [if_neg hserved] at he
      obtain rfl := Option.some.inj he
      rw [insertPattern, if_pos (by simpa [MatchPattern.isServed] using hserved)]

theorem isServed_of_refusal? {p : MatchPattern} (hp : p.refusal? = none) : p.isServed = true := by
  cases p with
  | allUrls => rfl
  | url scheme host path =>
    by_contra hserved
    rw [MatchPattern.refusal?, if_neg hserved] at hp
    exact absurd hp (by simp)

theorem answer_insert (index : Index α) (pattern : Text) (value : α) {p : MatchPattern}
    (hp : MatchPattern.ofText pattern = .ok p) :
    index.answer (.insert pattern value) = index.answer (.insertPattern p value) := by
  rw [answer, answer, insert, hp]
  rfl

/-- All that a call can do: nothing, if it is refused; or file a payload; or remove one. -/
theorem answer_cases (index : Index α) (c : Call α) :
    (∃ e, c.refusal? = some e ∧ index.answer c = (index, .refused e))
    ∨ (∃ p value index' h, c.refusal? = none ∧ c.value? = some value ∧ (∀ other, c.removes other = false)
        ∧ index.insertPattern p value = .ok (index', h) ∧ index.answer c = (index', .filed h))
    ∨ ∃ h, c = .remove h ∧ index.answer c = ((index.remove h).2, .removed (index.get? h)) := by
  have hpattern : ∀ p value,
      (∃ e, p.refusal? = some e ∧ index.answer (.insertPattern p value) = (index, .refused e))
      ∨ ∃ index' h, p.refusal? = none ∧ index.insertPattern p value = .ok (index', h)
          ∧ index.answer (.insertPattern p value) = (index', .filed h) := by
    intro p value
    cases hp : p.refusal? with
    | some e =>
      refine Or.inl ⟨e, rfl, ?_⟩
      rw [answer, insertPattern_of_refusal? index hp]
    | none =>
      obtain ⟨index', h, hins⟩ := index.exists_insertPattern (isServed_of_refusal? hp) value
      refine Or.inr ⟨index', h, rfl, hins, ?_⟩
      rw [answer, hins]
  cases c with
  | insert pattern value =>
    cases hp : MatchPattern.ofText pattern with
    | error e =>
      refine Or.inl ⟨e, by rw [Call.refusal?, hp], ?_⟩
      rw [answer, insert, hp]
      rfl
    | ok p =>
      rw [answer_insert index pattern value hp, Call.refusal?, hp]
      rcases hpattern p value with ⟨e, he⟩ | ⟨index', h, hr, hins⟩
      · exact Or.inl ⟨e, he⟩
      · exact Or.inr (Or.inl ⟨p, value, index', h, hr, rfl, fun _ => rfl, hins⟩)
  | insertPattern p value =>
    rcases hpattern p value with ⟨e, he⟩ | ⟨index', h, hr, hins⟩
    · exact Or.inl ⟨e, he⟩
    · exact Or.inr (Or.inl ⟨p, value, index', h, hr, rfl, fun _ => rfl, hins⟩)
  | remove h =>
    refine Or.inr (Or.inr ⟨h, rfl, ?_⟩)
    rw [answer, fst_remove]

section Call

variable {index : Index α} {filings : List (Filing α)} (hh : index.Holds filings)
include hh

/-- What an index holds after a call. -/
theorem Holds.answer (c : Call α) : ∃ filings', (index.answer c).1.Holds filings' := by
  rcases index.answer_cases c with ⟨e, -, heq⟩ | ⟨p, value, index', h, -, -, -, hins, heq⟩ | ⟨h, rfl, heq⟩
  · exact ⟨filings, heq ▸ hh⟩
  · exact ⟨_, by rw [heq]; exact (hh.insertPattern hins).1⟩
  · exact ⟨_, by rw [heq]; exact hh.remove h⟩

/-- A call gives out the handle that it answers, and no other. -/
theorem isIssued_answer (c : Call α) (h : Handle) :
    (index.answer c).1.IsIssued h ↔ index.IsIssued h ∨ (index.answer c).2 = .filed h := by
  rcases index.answer_cases c with ⟨e, -, heq⟩ | ⟨p, value, index', new, -, -, -, hins, heq⟩ | ⟨new, rfl, heq⟩
  · simp [heq]
  · rw [heq, (hh.insertPattern hins).2.2 h, Answer.filed.injEq, or_comm, eq_comm]
  · rw [heq]
    simp [isIssued_remove]

/-- The handle that a call answers was never given out, and behind it lies what the call was to file. -/
theorem get?_of_answer_eq_filed {c : Call α} {h : Handle} (ha : (index.answer c).2 = .filed h) :
    ¬ index.IsIssued h ∧ (index.answer c).1.get? h = c.value? := by
  rcases index.answer_cases c with ⟨e, -, heq⟩ | ⟨p, value, index', new, -, hvalue, -, hins, heq⟩ | ⟨new, rfl, heq⟩
  · exact absurd ha (by simp [heq])
  · obtain ⟨hholds, hnew, -⟩ := hh.insertPattern hins
    obtain rfl : new = h := by simpa [heq] using ha
    refine ⟨hnew, ?_⟩
    rw [heq, hvalue, hholds.get?_eq_some_iff]
    exact ⟨_, List.mem_append_right _ List.mem_cons_self, rfl, rfl⟩
  · exact absurd ha (by simp [heq])

/-- A call changes what lies behind the handle that it answers or removes, and nothing else. -/
theorem get?_answer {c : Call α} {h : Handle} (ha : (index.answer c).2 ≠ .filed h) :
    (index.answer c).1.get? h = if c.removes h then none else index.get? h := by
  rcases index.answer_cases c with ⟨e, hr, heq⟩ | ⟨p, value, index', new, -, -, hremoves, hins, heq⟩ | ⟨old, rfl, heq⟩
  · have hremoves : c.removes h = false := by
      cases c with
      | remove other => exact absurd hr (by simp [Call.refusal?])
      | _ => rfl
    rw [heq, hremoves]
    rfl
  · have hne : new ≠ h := fun hnew => ha (by rw [heq, hnew])
    rw [heq, hremoves]
    refine Option.ext fun v => ?_
    simp [(hh.insertPattern hins).1.get?_eq_some_iff, hh.get?_eq_some_iff, hne]
  · rw [heq]
    show ((index.remove old).2.entryAt? h).map _ = _
    rw [entryAt?_remove, Call.removes, apply_ite (Option.map _)]
    by_cases hold : h = old
    · rw [if_pos hold, if_pos (by simp [hold])]
      rfl
    · rw [if_neg hold, if_neg (by simpa using Ne.symm hold)]
      rfl

end Call

/-! ### Runs of calls -/

section Run

variable {index : Index α} {filings : List (Filing α)}

theorem Holds.after (hh : index.Holds filings) (calls : List (Call α)) :
    ∃ filings', (index.after calls).Holds filings' := by
  induction calls generalizing index filings with
  | nil => exact ⟨filings, hh⟩
  | cons c calls ih =>
    obtain ⟨filings', hh'⟩ := hh.answer c
    exact ih hh'

theorem isIssued_after (hh : index.Holds filings) (calls : List (Call α)) (h : Handle) :
    (index.after calls).IsIssued h ↔ index.IsIssued h ∨ .filed h ∈ index.answers calls := by
  induction calls generalizing index filings with
  | nil => simp [after, answers]
  | cons c calls ih =>
    obtain ⟨filings', hh'⟩ := hh.answer c
    rw [after, answers, List.mem_cons, ih hh', isIssued_answer hh, or_assoc, eq_comm]

/-- What lies behind a handle that was given out stays there until the handle is removed. -/
theorem get?_after (hh : index.Holds filings) {h : Handle} (hissued : index.IsIssued h)
    (calls : List (Call α)) :
    (index.after calls).get? h = if calls.any (·.removes h) then none else index.get? h := by
  induction calls generalizing index filings with
  | nil => rfl
  | cons c calls ih =>
    have hne : (index.answer c).2 ≠ .filed h := fun ha => (get?_of_answer_eq_filed hh ha).1 hissued
    obtain ⟨filings', hh'⟩ := hh.answer c
    rw [after, ih hh' ((isIssued_answer hh c h).mpr (Or.inl hissued)), get?_answer hh hne, List.any_cons]
    cases c.removes h <;> simp

end Run

/-- Handles are a faithful and lasting store, after any calls. A payload that is filed gets a handle that was
never answered before, and lies behind it until the handle is removed; a removal answers what lies behind
the handle, which is gone from then on. No other call changes what lies behind a handle, and a call that is
refused changes nothing. The live entries are what lies behind the handles, each once, and their number is
the size. -/
theorem filed_once_removed_once (calls : List (Call α)) :
    let index := (empty : Index α).after calls
    (∀ c h, (index.answer c).2 = .filed h → .filed h ∉ empty.answers calls
        ∧ ∀ later, ((index.answer c).1.after later).get? h
            = (if later.any (·.removes h) then none else c.value?)
          ∧ (((index.answer c).1.after later).answer (.remove h)).2
            = .removed (if later.any (·.removes h) then none else c.value?))
    ∧ (∀ h, (index.answer (.remove h)).2 = .removed (index.get? h)
        ∧ (index.answer (.remove h)).1.get? h = none
        ∧ (index.answer (.remove h)).1.size + (index.get? h).toList.length = index.size)
    ∧ (∀ c h, (index.answer c).2 ≠ .filed h → c.removes h = false →
        (index.answer c).1.get? h = index.get? h)
    ∧ (∀ c e, (index.answer c).2 = .refused e ↔ c.refusal? = some e)
    ∧ (∀ c e, c.refusal? = some e → (index.answer c).1 = index)
    ∧ (index.entries.map (·.1)).Nodup
    ∧ (∀ h v, (∃ e, (h, e) ∈ index.entries ∧ e.value = v) ↔ index.get? h = some v)
    ∧ index.size = index.entries.length := by
  intro index
  obtain ⟨filings, hh⟩ : ∃ filings, index.Holds filings := holds_empty.after calls
  refine ⟨fun c h ha => ?_, fun h => ?_, fun c h ha hc => ?_, fun c e => ?_, fun c e hr => ?_,
    index.nodup_entries, fun h v => ?_, hh.size_eq_length_entries⟩
  · obtain ⟨hnew, hget⟩ := get?_of_answer_eq_filed hh ha
    refine ⟨fun hmem => hnew ((isIssued_after holds_empty calls h).mpr (Or.inr hmem)), fun later => ?_⟩
    obtain ⟨filings', hh'⟩ := hh.answer c
    have hlater := get?_after hh' ((isIssued_answer hh c h).mpr (Or.inr ha)) later
    rw [hget] at hlater
    exact ⟨hlater, by rw [answer, fst_remove, hlater]⟩
  · refine ⟨?_, ?_, ?_⟩
    · rw [answer, fst_remove]
    · rw [get?_answer hh (by simp [answer]), Call.removes, if_pos (by simp)]
    · exact hh.size_remove h
  · rw [get?_answer hh ha, hc]
    rfl
  · rcases index.answer_cases c with ⟨e', hr, heq⟩ | ⟨p, value, index', new, hr, -, -, hins, heq⟩ | ⟨old, rfl, heq⟩
    · rw [heq, hr]
      simp
    · rw [heq, hr]
      simp
    · rw [heq]
      simp [Call.refusal?]
  · rcases index.answer_cases c with ⟨e', -, heq⟩ | ⟨p, value, index', new, hr', -, -, hins, heq⟩ | ⟨old, rfl, heq⟩
    · rw [heq]
    · rw [hr] at hr'
      exact absurd hr' (by simp)
    · exact absurd hr (by simp [Call.refusal?])
  · simp only [mem_entries, get?, Option.map_eq_some_iff]

theorem filed_once_removed_once_example :
    let calls : List (Call Nat) := [.insertPattern .allUrls 1, .remove ⟨.allUrls, 0⟩]
    ((empty.after calls).answer (.insertPattern .allUrls 2)).2 = .filed ⟨.allUrls, 1⟩
      ∧ .filed ⟨.allUrls, 1⟩ ∉ empty.answers calls :=
  ⟨rfl, ((filed_once_removed_once _).1 (.insertPattern .allUrls 2) _ rfl).1⟩

end Index

end ResultFilter
