import ResultFilter.Index.Stored
import ResultFilter.Proofs.Host.Labels
import ResultFilter.Proofs.Index.Contents

/-!
# Patterns whose host has no name

A host of dots alone has no label, so that a pattern for such a host is filed in the bucket of the root's
host alone, for which the stored form has no place. All other payloads are stored, each once; so what is
stored is what an index holds just if no pattern of that kind was filed.

## Main definitions

* `MatchPattern.isUnnamed` — whether a pattern is for one host, and this host has no label.
* `Json.storedPayloads` — the payloads in the stored form of an index.

## Main results

* `Index.storedPayloads_toJson` — the stored form has the payloads of the snapshot.
* `Index.storedPayloads_perm_iff` — when all payloads are stored.
* `Index.storedPayloads_counterexample` — a pattern that is taken and not stored.
-/

namespace ResultFilter

/-! ### Patterns for hosts without a label -/

/-- Whether a pattern is for one host, and this host has no label. -/
def MatchPattern.isUnnamed : MatchPattern → Bool
  | .url _ (.exact host) _ => host.all (· == '.')
  | _ => false

theorem MatchPattern.isUnnamed_iff {p : MatchPattern} : p.isUnnamed = true ↔ p.shelf = .host false [] := by
  cases p with
  | allUrls => simp [isUnnamed, shelf]
  | url scheme host path =>
    cases host with
    | any => simp [isUnnamed, shelf, HostPattern.isWildcard]
    | subdomains domain => simp [isUnnamed, shelf, HostPattern.isWildcard]
    | exact host =>
      simp [isUnnamed, shelf, HostPattern.isWildcard, HostPattern.domain, Host.reversedLabels_eq_nil_iff]

/-- Whether a text spells a pattern that is taken, and the host of the pattern has no label. -/
def MatchPattern.isUnnamedText (cs : Text) : Bool :=
  match MatchPattern.ofText cs with
  | .ok p => p.isServed && p.isUnnamed
  | .error _ => false

/-! ### The payloads in the stored form -/

namespace Json

/-- The payload of an entry as it is stored. -/
def entryPayload : Json → List Json
  | .array (payload :: _) => [payload]
  | _ => []

/-- The payloads of a list of entries as it is stored. -/
def entryPayloads : Json → List Json
  | .array entries => entries.flatMap entryPayload
  | _ => []

mutual

/-- The payloads of a node as it is stored, and of those below it. -/
def nodePayloads : Json → List Json
  | .array [exact, wildcard] => entryPayloads exact ++ entryPayloads wildcard
  | .array [exact, wildcard, children] =>
    entryPayloads exact ++ entryPayloads wildcard ++ childrenPayloads children
  | _ => []

/-- The payloads of the nodes below a node. -/
def childrenPayloads : Json → List Json
  | .object children => fieldsPayloads children
  | _ => []

/-- The payloads of the nodes in some fields. -/
def fieldsPayloads : List (Text × Json) → List Json
  | [] => []
  | (_, node) :: rest => nodePayloads node ++ fieldsPayloads rest

end

/-- The payloads in the stored form of an index. -/
def storedPayloads : Json → List Json
  | .array [.array payloads, wildcard] => payloads ++ entryPayloads wildcard
  | .array [.array payloads, wildcard, children] => payloads ++ entryPayloads wildcard ++ childrenPayloads children
  | _ => []

end Json

variable {α : Type} (f : α → Json)

theorem Entry.entryPayload_toJson (e : Entry α) : (e.toJson f).entryPayload = [f e.value] := by
  unfold Entry.toJson
  split
  · rfl
  · split <;> rfl

theorem Entry.entryPayloads_map (entries : List (Entry α)) :
    (Json.array (entries.map (Entry.toJson f))).entryPayloads = entries.map fun e => f e.value := by
  rw [Json.entryPayloads, List.flatMap_map]
  simp only [entryPayload_toJson]
  exact List.map_eq_flatMap.symm

mutual

theorem Branch.nodePayloads_toJson : ∀ b : Branch α,
    (b.toJson f).nodePayloads = b.contents.map fun e => f e.value
  | .node exact wildcard children => by
    have hchildren := Branch.fieldsPayloads_childrenJson children
    rw [Branch.toJson, contents, List.map_append, List.map_append, ← hchildren,
      ← Entry.entryPayloads_map f exact, ← Entry.entryPayloads_map f wildcard]
    cases childrenJson f children with
    | nil => simp [nodeJson, Json.nodePayloads, Json.fieldsPayloads]
    | cons c cs => simp [nodeJson, Json.nodePayloads, Json.childrenPayloads]

theorem Branch.fieldsPayloads_childrenJson : ∀ children : List (Text × Branch α),
    Json.fieldsPayloads (Branch.childrenJson f children) = (Branch.contentsAll children).map fun e => f e.value
  | [] => rfl
  | (label, b) :: children => by
    rw [Branch.childrenJson, Json.fieldsPayloads, contentsAll, List.map_append, Branch.nodePayloads_toJson b,
      Branch.fieldsPayloads_childrenJson children]

end

/-- The payloads in the stored form of a snapshot are those of its entries, in their order. -/
theorem Snapshot.storedPayloads_toJson (s : Snapshot α) :
    (s.toJson f).storedPayloads = s.contents.map fun e => f e.value := by
  have hchildren := Branch.fieldsPayloads_childrenJson f s.children
  have hwildcard := Entry.entryPayloads_map f s.wildcard
  have hall : (s.allUrls.map Entry.bare).map (fun e => f e.value) = s.allUrls.map f := by
    rw [List.map_map]
    rfl
  rw [Snapshot.toJson, contents, branch, Branch.contents, List.nil_append, List.map_append, List.map_append, hall,
    ← hchildren, ← hwildcard]
  cases Branch.childrenJson f s.children with
  | nil => simp [nodeJson, Json.storedPayloads, Json.fieldsPayloads]
  | cons c cs => simp [nodeJson, Json.storedPayloads, Json.childrenPayloads]

namespace Index

theorem after_append (index : Index α) (calls more : List (Call α)) :
    index.after (calls ++ more) = (index.after calls).after more := by
  induction calls generalizing index with
  | nil => rfl
  | cons c calls ih => exact ih _

/-- The index with payloads filed under the patterns that texts spell, as far as they are taken. -/
def insertAll (inserts : List (Text × α)) : Index α :=
  empty.after (inserts.map fun x => .insert x.1 x.2)

theorem insertAll_append_singleton (inserts : List (Text × α)) (text : Text) (value : α) :
    insertAll (inserts ++ [(text, value)]) = ((insertAll inserts).answer (.insert text value)).1 := by
  rw [insertAll, List.map_append, after_append]
  rfl

theorem regular_insertAll (inserts : List (Text × α)) : (insertAll inserts).Regular :=
  regular_empty.after _

/-- A payload goes to the bucket of the root's host alone just if its pattern is for a host without a
label. -/
theorem live_root_answer_insert {index : Index α} (hi : index.Regular) (text : Text) (value : α) :
    (((index.answer (.insert text value)).1.bucket (.exact root)).live.map (·.value))
      = (index.bucket (.exact root)).live.map (·.value)
        ++ if MatchPattern.isUnnamedText text then [value] else [] := by
  have hroot : ∀ i : Index α, i.shelf? (.host false []) = some (i.bucket (.exact root)).live := fun _ => rfl
  cases hp : MatchPattern.ofText text with
  | error e =>
    have hunnamed : MatchPattern.isUnnamedText text = false := by rw [MatchPattern.isUnnamedText, hp]
    rw [answer, insert, hp, hunnamed]
    exact (List.append_nil _).symm
  | ok p =>
    have hunnamed : MatchPattern.isUnnamedText text = (p.isServed && p.isUnnamed) := by
      rw [MatchPattern.isUnnamedText, hp]
    rw [answer_insert index text value hp, answer, hunnamed]
    cases hserved : p.isServed with
    | false =>
      obtain ⟨e, he⟩ := insertPattern_of_not_isServed index hserved value
      rw [he]
      exact (List.append_nil _).symm
    | true =>
      obtain ⟨index', h, hins⟩ := index.exists_insertPattern hserved value
      have hshelf := (hi.isTree.insertPattern hins).2 (.host false [])
      have hlabels : (Shelf.host false []).labels <+: p.shelf.labels := List.nil_prefix
      rw [hroot, hroot, if_pos hlabels, Option.getD_some, ← apply_ite some] at hshelf
      rw [hins, Option.some.inj hshelf, Bool.true_and]
      cases hun : p.isUnnamed with
      | true => rw [if_pos (MatchPattern.isUnnamed_iff.mp hun).symm]; simp
      | false =>
        rw [if_neg fun heq => ?_]
        · simp
        · rw [MatchPattern.isUnnamed_iff.mpr heq.symm] at hun
          exact absurd hun (by simp)

theorem map_live_root_insertAll (inserts : List (Text × α)) :
    ((insertAll inserts).bucket (.exact root)).live.map (·.value)
      = (inserts.filter fun x => MatchPattern.isUnnamedText x.1).map (·.2) := by
  induction inserts using List.reverseRecOn with
  | nil => rfl
  | append_singleton inserts x ih =>
    rw [insertAll_append_singleton, live_root_answer_insert (regular_insertAll inserts), ih, List.filter_append,
      List.map_append]
    cases h : MatchPattern.isUnnamedText x.1 <;> simp [h]

/-- The payloads in the bucket of the root's host alone are those filed for hosts without a label, and they
are what is missing in the stored form. So the stored form has all payloads just if there are none. -/
theorem storedPayloads_perm_iff (f : α → Json) (inserts : List (Text × α)) :
    let index := insertAll inserts
    let lost := (inserts.filter fun x => MatchPattern.isUnnamedText x.1).map (·.2)
    (index.bucket (.exact root)).live.map (·.value) = lost
    ∧ ((index.toJson f).storedPayloads ++ lost.map f).Perm (index.entries.map fun x => f x.2.value)
    ∧ ((index.toJson f).storedPayloads.Perm (index.entries.map fun x => f x.2.value)
        ↔ ∀ x ∈ inserts, MatchPattern.isUnnamedText x.1 = false) := by
  intro index lost
  have hi : index.Regular := regular_insertAll inserts
  have hlost : (index.bucket (.exact root)).live.map (·.value) = lost := map_live_root_insertAll inserts
  have hperm : ((index.toJson f).storedPayloads ++ lost.map f).Perm (index.entries.map fun x => f x.2.value) := by
    have hcontents := (contents_toSnapshot_perm hi.isTree hi.bare).map fun e => f e.value
    rw [List.map_append, ← Snapshot.storedPayloads_toJson, List.map_map] at hcontents
    rw [← hlost, List.map_map]
    exact hcontents
  refine ⟨hlost, hperm, fun h => ?_, fun h => ?_⟩
  · have hlength := hperm.length_eq
    rw [List.length_append, h.length_eq, List.length_map f] at hlength
    have hnil : lost = [] := List.eq_nil_of_length_eq_zero (by omega)
    rw [List.map_eq_nil_iff, List.filter_eq_nil_iff] at hnil
    exact fun x hx => Bool.eq_false_iff.mpr (hnil x hx)
  · have hnil : lost = [] := by
      rw [List.map_eq_nil_iff, List.filter_eq_nil_iff]
      exact fun x hx => Bool.eq_false_iff.mp (h x hx)
    rwa [hnil, List.map_nil, List.append_nil] at hperm

theorem storedPayloads_counterexample :
    let index := insertAll [("*://./*".toList, 1)]
    MatchPattern.ofText "*://./*".toList = .ok (.url anyScheme (.exact ['.']) anyPath)
      ∧ Host.reversedLabels ['.'] = []
      ∧ index.entries.map (·.2.value) = [1]
      ∧ (index.toJson Json.ofNat).storedPayloads.length = 0 ∧ (index.toJson Json.ofNat).render = "[[],[]]".toList := by
  refine ⟨by decide +kernel, by decide, by decide +kernel, by decide +kernel, by decide +kernel⟩

end Index

end ResultFilter
