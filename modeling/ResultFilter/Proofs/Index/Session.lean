import Mathlib.Data.List.Forall2
import ResultFilter.Proofs.Index.Lookup

/-!
# Sessions with an index

A session asks an index, empty at first, to file payloads and to take them back again. What remains
filed can be told from the requests alone: a payload remains if an index takes its pattern and no later
request takes it back. A lookup finds what remains under a pattern that covers the address.

## Main definitions

* `Request`, `Session.run` — requests, and the index that they lead to.
* `remaining` — what remains filed, told from the requests.

## Main results

* `Session.records_run` — the index holds what remains, behind the handles that it gave out for it.
* `Session.lookup_run_perm` — a lookup is a scan of what remains.
-/

namespace ResultFilter

/-- A request to an index. Requests are numbered from zero. -/
inductive Request (α : Type) where
  /-- File a payload under a pattern. -/
  | insert (pattern : MatchPattern) (value : α)
  /-- Take back what the request with a number has filed. -/
  | remove (number : Nat)

/-- An index with the handles that it gave for the requests so far: none for one that filed nothing. -/
structure Session (α : Type) where
  /-- The index. -/
  index : Index α
  /-- The handles. -/
  handles : List (Option Handle)

/-- What a request filed. -/
structure Deposit (α : Type) where
  /-- The number of the request. -/
  number : Nat
  /-- The pattern. -/
  pattern : MatchPattern
  /-- The payload. -/
  value : α

variable {α : Type}

namespace Session

/-- The session without requests. -/
def start : Session α := ⟨Index.empty, []⟩

/-- Performs a request. -/
def perform (s : Session α) : Request α → Session α
  | .insert p value =>
    match s.index.insertPattern p value with
    | .ok (index, h) => ⟨index, s.handles ++ [some h]⟩
    | .error _ => ⟨s.index, s.handles ++ [none]⟩
  | .remove number =>
    match (s.handles[number]?).join with
    | some h => ⟨(s.index.remove h).2, s.handles ++ [none]⟩
    | none => ⟨s.index, s.handles ++ [none]⟩

/-- Performs requests from the start on. -/
def run (requests : List (Request α)) : Session α :=
  requests.foldl perform start

end Session

namespace Request

/-- What a request files if it has a given number: nothing under a pattern that no index takes. -/
def deposit? (number : Nat) : Request α → Option (Deposit α)
  | .insert p value => if p.isServed then some ⟨number, p, value⟩ else none
  | .remove _ => none

/-- Whether a request takes back what the request with a number filed. -/
def takesBack (number : Nat) : Request α → Bool
  | .insert _ _ => false
  | .remove n => n == number

end Request

/-- What remains filed after some requests: what they filed and none of those after it takes back. -/
def remaining (requests : List (Request α)) : List (Deposit α) :=
  requests.zipIdx.filterMap fun (r, number) =>
    if (requests.drop (number + 1)).any (·.takesBack number) then none else r.deposit? number

/-- One request more takes back what it names and adds what it files. -/
theorem remaining_append_singleton (requests : List (Request α)) (r : Request α) :
    remaining (requests ++ [r])
      = (remaining requests).filter (fun d => !r.takesBack d.number)
        ++ (r.deposit? requests.length).toList := by
  unfold remaining
  rw [List.zipIdx_append, List.filterMap_append, List.filter_filterMap]
  congr 1
  · refine List.filterMap_congr fun x hx => ?_
    obtain ⟨q, number⟩ := x
    have hlt : number < requests.length := by
      obtain ⟨-, hlt, -⟩ := List.mem_zipIdx hx
      simpa using hlt
    have hnumber : ∀ d ∈ q.deposit? number, d.number = number := by
      intro d hd
      cases q with
      | insert p value =>
        rw [Request.deposit?] at hd
        split at hd
        · obtain rfl := Option.mem_some_iff.mp hd
          rfl
        · simp at hd
      | remove n => simp [Request.deposit?] at hd
    simp only [List.drop_append_of_le_length (Nat.succ_le_of_lt hlt), List.any_append, List.any_cons,
      List.any_nil, Bool.or_false]
    cases (requests.drop (number + 1)).any (·.takesBack number) with
    | true => rfl
    | false =>
      cases hd : q.deposit? number with
      | none => simp
      | some d =>
        have hd' := hnumber d hd
        cases hr : r.takesBack number <;> simp [Option.filter, hd', hr]
  · have hdrop : (requests ++ [r]).drop (requests.length + 1) = [] :=
      List.drop_of_length_le (by simp)
    simp only [List.zipIdx_singleton, Nat.zero_add, List.filterMap_cons, List.filterMap_nil, hdrop,
      List.any_nil, Bool.false_eq_true, if_false]
    cases r.deposit? requests.length <;> rfl

namespace Session

/-! ### The index holds what remains -/

/-- A filing is a deposit: its handle is the one that was given for the request. -/
def Matches (handles : List (Option Handle)) (f : Filing α) (d : Deposit α) : Prop :=
  handles[d.number]? = some (some f.handle) ∧ f.pattern = d.pattern ∧ f.value = d.value

/-- The index of a session holds some filings, which are some deposits in the same order. The handles that
were given differ, and all are given out. -/
structure Records (s : Session α) (filings : List (Filing α)) (deposits : List (Deposit α)) : Prop where
  /-- The index holds the filings. -/
  holds : s.index.Holds filings
  /-- The filings are the deposits. -/
  matched : List.Forall₂ (Matches s.handles) filings deposits
  /-- The handles are given out. -/
  issued {i : Nat} {h : Handle} : s.handles[i]? = some (some h) → s.index.IsIssued h
  /-- No handle was given twice. -/
  inj {i j : Nat} {h : Handle} : s.handles[i]? = some (some h) → s.handles[j]? = some (some h) → i = j

theorem length_handles_run (requests : List (Request α)) :
    (run requests).handles.length = requests.length := by
  induction requests using List.reverseRecOn with
  | nil => rfl
  | append_singleton requests r ih =>
    rw [run, List.foldl_append, List.foldl_cons, List.foldl_nil, ← run, List.length_append, ← ih]
    cases r with
    | insert p value =>
      rw [perform]
      split <;> simp
    | remove number =>
      rw [perform]
      split <;> simp

theorem getElem?_append_singleton_eq {l : List (Option Handle)} {x : Option Handle} {i : Nat} {h : Handle} :
    (l ++ [x])[i]? = some (some h) ↔ l[i]? = some (some h) ∨ (i = l.length ∧ x = some h) := by
  rw [List.getElem?_append]
  split
  · next hlt => exact ⟨Or.inl, fun hi => hi.resolve_right fun hr => by omega⟩
  · next hge =>
    rw [List.getElem?_eq_none (Nat.le_of_not_lt hge), List.getElem?_singleton]
    split
    · next hi => simp [show i = l.length by omega]
    · next hi => simp [show i ≠ l.length by omega]

theorem Matches.append {handles : List (Option Handle)} {f : Filing α} {d : Deposit α}
    (h : Matches handles f d) (x : Option Handle) : Matches (handles ++ [x]) f d :=
  ⟨getElem?_append_singleton_eq.mpr (Or.inl h.1), h.2⟩

/-- A request that files nothing and takes nothing back leaves the records as they are. -/
theorem Records.append_none {s : Session α} {filings : List (Filing α)} {deposits : List (Deposit α)}
    (h : s.Records filings deposits) :
    (⟨s.index, s.handles ++ [none]⟩ : Session α).Records filings deposits where
  holds := h.holds
  matched := h.matched.imp fun _ _ hfd => hfd.append none
  issued := fun hi => h.issued ((getElem?_append_singleton_eq.mp hi).resolve_right (by simp))
  inj := fun hi hj => h.inj ((getElem?_append_singleton_eq.mp hi).resolve_right (by simp))
    ((getElem?_append_singleton_eq.mp hj).resolve_right (by simp))

theorem Records.perform_insert {s : Session α} {filings : List (Filing α)} {deposits : List (Deposit α)}
    (hs : s.Records filings deposits) (p : MatchPattern) (value : α) :
    ∃ filings', (s.perform (.insert p value)).Records filings'
      (deposits ++ ((Request.insert p value).deposit? s.handles.length).toList) := by
  cases hp : p.isServed with
  | false =>
    obtain ⟨e, he⟩ := Index.insertPattern_of_not_isServed s.index hp value
    refine ⟨filings, ?_⟩
    simp only [perform, he, Request.deposit?, hp, Bool.false_eq_true, if_false, Option.toList_none,
      List.append_nil]
    exact hs.append_none
  | true =>
    obtain ⟨index', h, hins⟩ := s.index.exists_insertPattern hp value
    obtain ⟨hholds, hnew, hissued⟩ := hs.holds.insertPattern hins
    refine ⟨filings ++ [⟨h, p, value⟩], ?_⟩
    simp only [perform, hins, Request.deposit?, hp, if_true, Option.toList_some]
    exact
      { holds := hholds
        matched := by
          have hlast : Matches (s.handles ++ [some h]) ⟨h, p, value⟩ ⟨s.handles.length, p, value⟩ :=
            ⟨getElem?_append_singleton_eq.mpr (Or.inr ⟨rfl, rfl⟩), rfl, rfl⟩
          exact List.rel_append (hs.matched.imp fun _ _ hfd => hfd.append (some h)) (.cons hlast .nil)
        issued := by
          intro i other hi
          rcases getElem?_append_singleton_eq.mp hi with hi | ⟨-, heq⟩
          · exact (hissued other).mpr (Or.inr (hs.issued hi))
          · exact (hissued other).mpr (Or.inl (Option.some.inj heq).symm)
        inj := by
          intro i j other hi hj
          -- the new handle was never given out before
          rcases getElem?_append_singleton_eq.mp hi with hi | ⟨rfl, heq⟩ <;>
            rcases getElem?_append_singleton_eq.mp hj with hj | ⟨rfl, heq'⟩
          · exact hs.inj hi hj
          · exact absurd (Option.some.inj heq' ▸ hs.issued hi) hnew
          · exact absurd (Option.some.inj heq ▸ hs.issued hj) hnew
          · rfl }

theorem Records.perform_remove {s : Session α} {filings : List (Filing α)} {deposits : List (Deposit α)}
    (hs : s.Records filings deposits) (number : Nat) :
    ∃ filings', (s.perform (.remove number)).Records filings'
      (deposits.filter fun d => !(Request.remove number : Request α).takesBack d.number) := by
  rw [perform]
  split
  · next h hjoin =>
    have hget := Option.join_eq_some_iff.mp hjoin
    refine ⟨filings.filter (·.handle ≠ h), ?_⟩
    refine Records.append_none (s := ⟨(s.index.remove h).2, s.handles⟩)
      { holds := hs.holds.remove h
        matched := List.rel_filter (fun {f d} hfd => ?_) hs.matched
        issued := fun hi => (Index.isIssued_remove s.index h _).mpr (hs.issued hi)
        inj := hs.inj }
    simp only [decide_eq_true_eq, Request.takesBack, Bool.not_eq_true', beq_eq_false_iff_ne]
    refine not_congr ⟨?_, ?_⟩
    · rintro rfl
      exact hs.inj hget hfd.1
    · rintro rfl
      exact Option.some.inj (Option.some.inj (hfd.1.symm.trans hget))
  · next hjoin =>
    refine ⟨filings, Records.append_none { hs with matched := ?_ }⟩
    have hmatched := List.rel_filter (p := fun _ => true)
      (q := fun d => !(Request.remove number : Request α).takesBack d.number) (fun {f d} hfd => ?_)
      hs.matched
    · rwa [List.filter_true] at hmatched
    · simp only [Request.takesBack, Bool.not_eq_true', beq_eq_false_iff_ne, true_iff]
      rintro rfl
      rw [hfd.1] at hjoin
      exact absurd hjoin (by simp)

/-- The index of a session holds what remains, behind the handles that it gave out for it. -/
theorem records_run (requests : List (Request α)) :
    ∃ filings, (run requests).Records filings (remaining requests) := by
  induction requests using List.reverseRecOn with
  | nil => exact ⟨[], Index.holds_empty, .nil, by simp [run, start], by simp [run, start]⟩
  | append_singleton requests r ih =>
    obtain ⟨filings, hs⟩ := ih
    rw [remaining_append_singleton, ← length_handles_run, run, List.foldl_append, List.foldl_cons,
      List.foldl_nil, ← run]
    cases r with
    | insert p value =>
      have hkeep : (remaining requests).filter (fun d => !(Request.insert p value).takesBack d.number)
          = remaining requests := List.filter_eq_self.mpr fun _ _ => rfl
      rw [hkeep]
      exact hs.perform_insert p value
    | remove number =>
      rw [Request.deposit?, Option.toList_none, List.append_nil]
      exact hs.perform_remove number

/-- A lookup is a scan of what remains: it gives the payloads whose pattern covers the address, each as
often as it is filed. -/
theorem lookup_run_perm (requests : List (Request α)) (url : Url) :
    ((run requests).index.lookup url).Perm
      (((remaining requests).filter (·.pattern.isMatch url)).map (·.value)) := by
  obtain ⟨filings, hs⟩ := records_run requests
  have hvalues : ((remaining requests).filter (·.pattern.isMatch url)).map (·.value)
      = (filings.filter (·.pattern.isMatch url)).map (·.value) := by
    have hmatched := List.rel_filter (p := (·.pattern.isMatch url)) (q := (·.pattern.isMatch url))
      (fun {f d} hfd => iff_of_eq (congrArg (·.isMatch url = true) hfd.2.1)) hs.matched
    have hequal : List.Forall₂ (· = ·) _ _ :=
      List.rel_map (fun {f d} (hfd : Matches _ f d) => hfd.2.2) hmatched
    exact (List.forall₂_eq_eq_eq ▸ hequal).symm
  rw [hvalues]
  exact hs.holds.lookup_perm url

end Session

end ResultFilter
