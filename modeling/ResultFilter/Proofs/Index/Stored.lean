import ResultFilter.Index.Stored
import ResultFilter.Proofs.Index.Snapshot
import ResultFilter.Proofs.Json.Decode

/-!
# Indices read from their stored form

The stored form of a snapshot is read as the snapshot if the payloads are read as what they were: an entry
gets back the scheme and the path that were left out, and a node the children, whose labels are in order.

## Main results

* `Entry.reads_toJson`, `Branch.reads_toJson`, `Snapshot.reads_toJson` — what is stored is read.
* `Index.reads_toJson` — an index is read as the index of its snapshot.
* `Snapshot.within_of_decode` — what is read at all is in order.
-/

namespace ResultFilter

variable {α : Type} {payload : Decoder α} {f : α → Json}

theorem Entry.reads_toJson {e : Entry α} (h : payload.Reads (f e.value) e.value) :
    (Entry.decode payload).Reads (e.toJson f) e := by
  obtain ⟨value, scheme, path⟩ := e
  unfold Entry.toJson
  dsimp only at h ⊢
  split
  · refine ⟨fun {limit} _ => ?_⟩
    refine Decoder.items?_bind fun {inner} hinner => ?_
    show (payload inner (f value).tree).bind (fun v => some (Entry.mk v scheme path)) = _
    rw [h.decode hinner, Option.ite_some_bind]
    exact if_congr (by simp [Json.depthItems, Json.depth]) rfl rfl
  · next hpath =>
    obtain rfl : path = anyPath := by simpa using hpath
    split
    · refine ⟨fun {limit} _ => ?_⟩
      refine Decoder.items?_bind fun {inner} hinner => ?_
      show (payload inner (f value).tree).bind (fun v => some (Entry.mk v scheme anyPath)) = _
      rw [h.decode hinner, Option.ite_some_bind]
      exact if_congr (by simp [Json.depthItems, Json.depth]) rfl rfl
    · next hscheme =>
      obtain rfl : scheme = anyScheme := by simpa using hscheme
      refine ⟨fun {limit} _ => ?_⟩
      refine Decoder.items?_bind fun {inner} hinner => ?_
      show (payload inner (f value).tree).bind (fun v => some (Entry.mk v anyScheme anyPath)) = _
      rw [h.decode hinner, Option.ite_some_bind]
      exact if_congr (by simp [Json.depthItems]) rfl rfl

/-! ### Nodes -/

section Node

variable {first wildcard children : Json} {limit : Nat}

theorem Branch.decode_pair :
    Branch.decode payload limit (nodeJson first wildcard []).tree
      = (JsonTree.enter? limit).bind fun inner =>
        (Decoder.list (Entry.decode payload) inner first.tree).bind fun exact =>
          (Decoder.list (Entry.decode payload) inner wildcard.tree).bind fun wildcard =>
            some (.node exact wildcard []) := by
  show Branch.decode payload limit (.array [first.tree, wildcard.tree]) = _
  rw [Branch.decode]
  rfl

theorem Branch.decode_triple (c : Text × Json) (cs : List (Text × Json)) :
    Branch.decode payload limit (nodeJson first wildcard (c :: cs)).tree
      = (JsonTree.enter? limit).bind fun inner =>
        (Decoder.list (Entry.decode payload) inner first.tree).bind fun exact =>
          (Decoder.list (Entry.decode payload) inner wildcard.tree).bind fun wildcard =>
            (Branch.decodeChildren payload inner (Json.object (c :: cs)).tree).bind fun children =>
              some (.node exact wildcard children) := by
  show Branch.decode payload limit (.array [first.tree, wildcard.tree, (Json.object (c :: cs)).tree]) = _
  rw [Branch.decode]
  rfl

theorem Snapshot.decode_pair :
    Snapshot.decode payload limit (nodeJson first wildcard []).tree
      = (JsonTree.enter? limit).bind fun inner =>
        (Decoder.list payload inner first.tree).bind fun allUrls =>
          (Decoder.list (Entry.decode payload) inner wildcard.tree).bind fun wildcard =>
            some ⟨allUrls, wildcard, []⟩ := by
  show ((JsonTree.enter? limit).map (·, [first.tree, wildcard.tree])).bind _ = _
  rw [Option.bind_map]
  rfl

theorem Snapshot.decode_triple (c : Text × Json) (cs : List (Text × Json)) :
    Snapshot.decode payload limit (nodeJson first wildcard (c :: cs)).tree
      = (JsonTree.enter? limit).bind fun inner =>
        (Decoder.list payload inner first.tree).bind fun allUrls =>
          (Decoder.list (Entry.decode payload) inner wildcard.tree).bind fun wildcard =>
            (Branch.decodeChildren payload inner (Json.object (c :: cs)).tree).bind fun children =>
              some ⟨allUrls, wildcard, children⟩ := by
  show ((JsonTree.enter? limit).map (·, [first.tree, wildcard.tree, (Json.object (c :: cs)).tree])).bind _ = _
  rw [Option.bind_map]
  rfl

end Node

/-- A node is read if its items are, whatever the first of them is and whatever is made of them. -/
theorem reads_nodeJson {β γ : Type} {d : Decoder β} {reader : Decoder γ}
    {mk : γ → List (Entry α) → List (Text × Branch α) → β}
    (hpair : ∀ {limit first wildcard}, d limit (nodeJson first wildcard []).tree
      = (JsonTree.enter? limit).bind fun inner => (reader inner first.tree).bind fun x =>
          (Decoder.list (Entry.decode payload) inner wildcard.tree).bind fun entries => some (mk x entries []))
    (htriple : ∀ {limit first wildcard} c cs, d limit (nodeJson first wildcard (c :: cs)).tree
      = (JsonTree.enter? limit).bind fun inner => (reader inner first.tree).bind fun x =>
          (Decoder.list (Entry.decode payload) inner wildcard.tree).bind fun entries =>
            (Branch.decodeChildren payload inner (Json.object (c :: cs)).tree).bind fun children =>
              some (mk x entries children))
    {first wildcard : Json} {cs : List (Text × Json)} {x : γ} {entries : List (Entry α)}
    {children : List (Text × Branch α)} (hfirst : reader.Reads first x)
    (hwildcard : (Decoder.list (Entry.decode payload)).Reads wildcard entries)
    (hchildren : Decoder.Reads (Branch.decodeChildren payload) (.object cs) children)
    (hnil : cs = [] → children = []) : d.Reads (nodeJson first wildcard cs) (mk x entries children) := by
  cases cs with
  | nil =>
    obtain rfl := hnil rfl
    refine ⟨fun {limit} _ => ?_⟩
    rw [hpair]
    refine Decoder.enter?_bind _ rfl fun {inner} hinner => ?_
    rw [hfirst.decode hinner, hwildcard.decode hinner]
    simp only [Option.ite_some_bind, ← ite_and]
    exact if_congr (by simp [Json.depthItems]) rfl rfl
  | cons c cs =>
    refine ⟨fun {limit} _ => ?_⟩
    rw [htriple]
    refine Decoder.enter?_bind _ rfl fun {inner} hinner => ?_
    rw [hfirst.decode hinner, hwildcard.decode hinner, hchildren.decode hinner]
    simp only [Option.ite_some_bind, ← ite_and]
    exact if_congr (by simp [Json.depthItems]) rfl rfl

/-- The children of a node are read from their fields. -/
theorem Branch.reads_children {children : List (Text × Branch α)} {cs : List (Text × Json)}
    (hsorted : Dict.Sorted children)
    (hfields : ∀ {limit}, 0 < limit → Branch.decodeFields payload limit (Json.treeFields cs)
      = if Json.depthFields cs < limit then some children else none) :
    Decoder.Reads (Branch.decodeChildren payload) (.object cs) children where
  decode := fun {limit} _ => by
    rw [Json.tree, Branch.decodeChildren]
    refine Decoder.enter?_bind _ rfl fun {inner} hinner => ?_
    show (Branch.decodeFields payload inner (Json.treeFields cs)).bind (fun pairs => some (Dict.ofList pairs)) = _
    rw [hfields hinner, Option.ite_some_bind, Dict.ofList_of_sorted hsorted]

theorem Branch.childrenJson_eq_nil {children : List (Text × Branch α)} (h : childrenJson f children = []) :
    children = [] := by
  cases children with
  | nil => rfl
  | cons c children => exact absurd h (by simp [childrenJson])

/-! ### Trees -/

variable {p : α → Prop}

theorem Entry.reads_list (hp : ∀ a, p a → payload.Reads (f a) a) {entries : List (Entry α)}
    (h : ∀ e ∈ entries, p e.value) :
    (Decoder.list (Entry.decode payload)).Reads (.array (entries.map (Entry.toJson f))) entries :=
  Decoder.reads_list_self fun e he => Entry.reads_toJson (hp e.value (h e he))

mutual

/-- A branch is read as what it was. -/
theorem Branch.reads_toJson (hp : ∀ a, p a → payload.Reads (f a) a) : ∀ b : Branch α, b.Within p →
    Decoder.Reads (Branch.decode payload) (b.toJson f) b
  | .node _ _ children => fun hb =>
    reads_nodeJson Branch.decode_pair Branch.decode_triple (Entry.reads_list hp hb.1.1)
      (Entry.reads_list hp hb.1.2)
      (Branch.reads_children hb.2.1 (Branch.decodeFields_childrenJson hp children hb.2.2))
      Branch.childrenJson_eq_nil

theorem Branch.decodeFields_childrenJson (hp : ∀ a, p a → payload.Reads (f a) a) :
    ∀ children : List (Text × Branch α), Branch.AllWithin p children → ∀ {limit}, 0 < limit →
      Branch.decodeFields payload limit (Json.treeFields (Branch.childrenJson f children))
        = if Json.depthFields (Branch.childrenJson f children) < limit then some children else none
  | [] => fun _ _ hlimit => (if_pos hlimit).symm
  | (label, b) :: children => fun h limit hlimit => by
    have hb := (Branch.reads_toJson hp b h.1).decode hlimit
    have hrest := Branch.decodeFields_childrenJson hp children h.2 hlimit
    rw [Branch.childrenJson, Json.treeFields, Branch.decodeFields, hb, hrest]
    simp only [Option.bind_eq_bind, Option.bind_some, Option.ite_some_bind, Option.pure_def, ← ite_and]
    exact if_congr Nat.max_lt.symm rfl rfl

end

/-- A snapshot is read as what it was. -/
theorem Snapshot.reads_toJson (hp : ∀ a, p a → payload.Reads (f a) a) {s : Snapshot α} (hs : s.Within p) :
    (Snapshot.decode payload).Reads (s.toJson f) s := by
  have hfields : ∀ {limit}, 0 < limit → _ := Branch.decodeFields_childrenJson hp s.children hs.branch.2.2
  have hall := Decoder.reads_list_self fun a ha => hp a (hs.allUrls a ha)
  exact reads_nodeJson Snapshot.decode_pair Snapshot.decode_triple hall (Entry.reads_list hp hs.branch.1.2)
    (Branch.reads_children hs.branch.2.1 hfields) Branch.childrenJson_eq_nil

/-- An index is read as the index of its snapshot. -/
theorem Index.reads_toJson (hp : ∀ a, p a → payload.Reads (f a) a) {index : Index α} (htree : index.IsTree)
    (hentries : ∀ h e, index.entryAt? h = some e → p e.value) :
    (Index.decode payload).Reads (index.toJson f) (ofSnapshot index.toSnapshot) :=
  (Snapshot.reads_toJson hp (within_toSnapshot htree hentries)).map ofSnapshot

/-! ### What is read at all -/

section Within

variable (hp : ∀ {limit tree a}, payload limit tree = some a → p a)
include hp

theorem Entry.of_decode {limit : Nat} {tree : JsonTree} {e : Entry α}
    (h : Entry.decode payload limit tree = some e) : p e.value := by
  obtain ⟨⟨inner, items⟩, -, h⟩ := Option.bind_eq_some_iff.mp h
  dsimp only at h
  split at h
  · obtain ⟨a, ha, h⟩ := Option.bind_eq_some_iff.mp h
    obtain rfl := Option.some.inj h
    exact hp ha
  · obtain ⟨a, ha, h⟩ := Option.bind_eq_some_iff.mp h
    obtain ⟨scheme, -, h⟩ := Option.bind_eq_some_iff.mp h
    obtain rfl := Option.some.inj h
    exact hp ha
  · obtain ⟨a, ha, h⟩ := Option.bind_eq_some_iff.mp h
    obtain ⟨scheme, -, h⟩ := Option.bind_eq_some_iff.mp h
    obtain ⟨path, -, h⟩ := Option.bind_eq_some_iff.mp h
    obtain rfl := Option.some.inj h
    exact hp ha
  · exact absurd h (by simp)

theorem Entry.forall_of_decode {limit : Nat} {tree : JsonTree} {entries : List (Entry α)}
    (h : Decoder.list (Entry.decode payload) limit tree = some entries) : ∀ e ∈ entries, p e.value :=
  Decoder.forall_of_list (Entry.of_decode hp) h

/-- Whatever branches are read from, their children are in order, and their payloads were read. -/
theorem Branch.within_of_decode :
    (∀ limit tree b, Branch.decode payload limit tree = some b → b.Within p)
    ∧ (∀ limit tree children, Branch.decodeChildren payload limit tree = some children →
        Dict.Sorted children ∧ AllWithin p children)
    ∧ ∀ limit fields pairs, Branch.decodeFields payload limit fields = some pairs →
        ∀ pair ∈ pairs, pair.2.Within p := by
  refine Branch.decode.mutual_induct (fun limit tree => ∀ b, Branch.decode payload limit tree = some b → _)
    (fun limit tree => ∀ children, Branch.decodeChildren payload limit tree = some children → _)
    (fun limit fields => ∀ pairs, Branch.decodeFields payload limit fields = some pairs → _)
    (fun limit exact wildcard b h => ?_) (fun limit exact wildcard children ih b h => ?_)
    (fun t limit hpair htriple b h => ?_) (fun limit fields ih children h => ?_)
    (fun t limit hobject children h => ?_) (fun limit pairs h => ?_)
    (fun limit key tree rest htree hrest pairs h => ?_)
  · rw [Branch.decode] at h
    obtain ⟨inner, -, h⟩ := Option.bind_eq_some_iff.mp h
    obtain ⟨exact, hexact, h⟩ := Option.bind_eq_some_iff.mp h
    obtain ⟨wildcard, hwildcard, h⟩ := Option.bind_eq_some_iff.mp h
    obtain rfl := Option.some.inj h
    exact ⟨⟨Entry.forall_of_decode hp hexact, Entry.forall_of_decode hp hwildcard⟩, Dict.sorted_nil, trivial⟩
  · rw [Branch.decode] at h
    obtain ⟨inner, -, h⟩ := Option.bind_eq_some_iff.mp h
    obtain ⟨exact, hexact, h⟩ := Option.bind_eq_some_iff.mp h
    obtain ⟨wildcard, hwildcard, h⟩ := Option.bind_eq_some_iff.mp h
    obtain ⟨children, hchildren, h⟩ := Option.bind_eq_some_iff.mp h
    obtain rfl := Option.some.inj h
    exact ⟨⟨Entry.forall_of_decode hp hexact, Entry.forall_of_decode hp hwildcard⟩, ih _ _ hchildren⟩
  · rw [Branch.decode] at h
    · exact absurd h (by simp)
    · exact hpair
    · exact htriple
  · rw [Branch.decodeChildren] at h
    obtain ⟨inner, -, h⟩ := Option.bind_eq_some_iff.mp h
    obtain ⟨pairs, hpairs, h⟩ := Option.bind_eq_some_iff.mp h
    obtain rfl := Option.some.inj h
    exact ⟨Dict.sorted_ofList pairs,
      allWithin_iff.mpr fun c hc => ih _ _ hpairs c (Dict.mem_of_mem_ofList hc)⟩
  · rw [Branch.decodeChildren] at h
    · exact absurd h (by simp)
    · exact hobject
  · rw [Branch.decodeFields] at h
    obtain rfl := Option.some.inj h
    simp
  · rw [Branch.decodeFields] at h
    obtain ⟨label, -, h⟩ := Option.bind_eq_some_iff.mp h
    obtain ⟨b, hb, h⟩ := Option.bind_eq_some_iff.mp h
    obtain ⟨pairs, hpairs, h⟩ := Option.bind_eq_some_iff.mp h
    obtain rfl := Option.some.inj h
    exact List.forall_mem_cons.mpr ⟨htree b hb, hrest _ hpairs⟩

/-- Whatever a snapshot is read from, the children of its nodes are in order, and its payloads were read. -/
theorem Snapshot.within_of_decode {limit : Nat} {tree : JsonTree} {s : Snapshot α}
    (h : Snapshot.decode payload limit tree = some s) : s.Within p := by
  obtain ⟨⟨inner, items⟩, -, h⟩ := Option.bind_eq_some_iff.mp h
  simp only [Option.bind_eq_bind] at h
  split at h
  · rw [Option.bind_some] at h
    obtain ⟨allUrls, hall, h⟩ := Option.bind_eq_some_iff.mp h
    obtain ⟨entries, hentries, h⟩ := Option.bind_eq_some_iff.mp h
    obtain rfl := Option.some.inj h
    exact ⟨Decoder.forall_of_list hp hall, ⟨by simp, Entry.forall_of_decode hp hentries⟩, Dict.sorted_nil, trivial⟩
  · rw [Option.bind_some] at h
    obtain ⟨allUrls, hall, h⟩ := Option.bind_eq_some_iff.mp h
    obtain ⟨entries, hentries, h⟩ := Option.bind_eq_some_iff.mp h
    obtain ⟨children, hchildren, h⟩ := Option.bind_eq_some_iff.mp h
    obtain rfl := Option.some.inj h
    exact ⟨Decoder.forall_of_list hp hall, ⟨by simp, Entry.forall_of_decode hp hentries⟩,
      (Branch.within_of_decode hp).2.1 _ _ _ hchildren⟩
  · exact absurd h (by simp)

end Within

end ResultFilter
