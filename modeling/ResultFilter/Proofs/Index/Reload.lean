import ResultFilter.Proofs.Index.Contents
import ResultFilter.Proofs.Index.Stored

/-!
# Indices stored and read again

An index that is stored and read again has other places for its nodes and no holes, and still the same
shelves, so that it holds the same payloads, finds the same and is stored as the same text. Only entries
for the root's host alone have no place in the stored form.

## Main results

* `Index.shelf?_reload` — the shelves of an index that is read again.
* `Index.exists_reload_after` — what is stored is read, and nothing can be told apart.
-/

namespace ResultFilter

namespace Index

variable {α : Type} {payload : Decoder α} {f : α → Json}

/-- Whatever an index is read from, it is a regular one. -/
theorem regular_of_decode {limit : Nat} {tree : JsonTree} {index : Index α}
    (h : decode payload limit tree = some index) : index.Regular := by
  obtain ⟨s, hs, rfl⟩ := Option.map_eq_some_iff.mp h
  exact regular_ofSnapshot (Snapshot.within_of_decode (p := fun _ => True) (fun _ => trivial) hs)

theorem Regular.within_toSnapshot {index : Index α} (hi : index.Regular) :
    index.toSnapshot.Within fun _ => True :=
  Index.within_toSnapshot hi.isTree fun _ _ _ => trivial

/-- An index that is stored and read again has the shelves that it had but that of the root's host alone. -/
theorem shelf?_reload {index : Index α} (hi : index.Regular) (σ : Shelf) :
    (ofSnapshot index.toSnapshot).shelf? σ = if σ = .host false [] then some [] else index.shelf? σ :=
  ((shelf?_ofSnapshot hi.within_toSnapshot).2.1 σ).trans (shelf?_toSnapshot hi.isTree hi.bare σ)

/-- An index, empty at first or read from anything, is stored after any calls as something that is read
again, as an index with the same payloads and lookups, which is stored as the same text. -/
theorem exists_reload_after (hpayload : ∀ a, payload.Reads (f a) a) {start : Index α}
    (hstart : start = empty ∨ ∃ limit tree, decode payload limit tree = some start) (calls : List (Call α))
    (hroot : ((start.after calls).bucket (.exact root)).live = []) :
    ∃ again : Index α,
      (∀ {limit}, ((start.after calls).toJson f).depth < limit →
        decode payload limit ((start.after calls).toJson f).tree = some again)
      ∧ JsonTree.ofText? ((start.after calls).toJson f).render = some ((start.after calls).toJson f).tree
      ∧ again.size = (start.after calls).size
      ∧ (again.entries.map (·.2.value)).Perm ((start.after calls).entries.map (·.2.value))
      ∧ (∀ url, (again.lookup url).Perm ((start.after calls).lookup url))
      ∧ (again.toJson f).render = ((start.after calls).toJson f).render := by
  have hi : (start.after calls).Regular := by
    rcases hstart with rfl | ⟨limit, tree, h⟩
    · exact regular_empty.after calls
    · exact (regular_of_decode h).after calls
  have hagain := regular_ofSnapshot hi.within_toSnapshot
  have hshelves : ∀ σ, (ofSnapshot (start.after calls).toSnapshot).shelf? σ = (start.after calls).shelf? σ := by
    intro σ
    rw [shelf?_reload hi]
    split
    · next hσ =>
      have hlost : (start.after calls).shelf? (.host false []) = some _ := rfl
      rw [hσ, hlost]
      exact congrArg some hroot.symm
    · rfl
  have hreads := reads_toJson (fun a (_ : True) => hpayload a) hi.isTree fun _ _ _ => trivial
  have hcontents := contents_perm_of_shelves hagain.isTree hi.isTree hshelves
  refine ⟨ofSnapshot (start.after calls).toSnapshot, fun {limit} hdepth => ?_,
    JsonTree.ofText?_render _, ?_, ?_, fun url => ?_, ?_⟩
  · rw [hreads.decode (Nat.lt_of_le_of_lt (Nat.zero_le _) hdepth), if_pos hdepth]
  · have hlength := hcontents.length_eq
    rwa [List.length_map, List.length_map, ← hagain.size_eq, ← hi.size_eq] at hlength
  · have hvalues := hcontents.map (·.value)
    rwa [List.map_map, List.map_map] at hvalues
  · rw [lookup_eq_of_shelves hshelves url]
  · rw [toJson, toSnapshot_eq_of_shelves hagain.isTree hi.isTree hshelves, ← toJson]

theorem exists_reload_after_example :
    let calls : List (Call Text) := [.insertPattern .allUrls ['a'],
      .insertPattern (.url anyScheme (.subdomains ['b', '.', 'c']) ['/']) ['d'], .remove ⟨.allUrls, 0⟩]
    (empty.after calls).size = 1 ∧ ∃ again : Index Text,
      decode Decoder.text JsonTree.depthLimit ((empty.after calls).toJson .string).tree = some again
      ∧ again.size = 1 := by
  intro calls
  refine ⟨rfl, ?_⟩
  obtain ⟨again, hdecode, -, hsize, -⟩ := exists_reload_after (α := Text) (f := .string)
    Decoder.reads_text (Or.inl rfl) calls (by decide)
  exact ⟨again, hdecode (by decide), hsize⟩

end Index

end ResultFilter
