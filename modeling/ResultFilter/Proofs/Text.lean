import Mathlib.Data.List.Basic
import Mathlib.Data.List.TakeWhile
import ResultFilter.Text.Basic

/-!
# Texts taken apart and put together

What a text is split into has no mark left in it and gives the text again; pieces without the mark that are
joined are found again.

## Main results

* `List.span_append_of_stop`, `List.isPrefixOf?_append_of_stop` — texts before a stop.
* `Text.cutAt?_append`, `Text.eq_of_cutAt?` — a text is cut at a mark, and put together again.
* `Text.splitOn_join` — pieces that are joined are found again.
* `Text.mem_of_mem_splitOn`, `Text.not_mem_of_mem_splitOn` — the characters of the pieces.
-/

namespace List

/-- What a function that succeeds on a whole list gives comes from the members. -/
theorem exists_mem_of_mapM_eq_some {α β : Type} {f : α → Option β} : ∀ {l : List α} {out : List β},
    l.mapM f = some out → ∀ {b : β}, b ∈ out → ∃ a ∈ l, f a = some b := by
  intro l
  induction l with
  | nil =>
    intro out h b hb
    rw [mapM_nil] at h
    obtain rfl := Option.some.inj h
    exact absurd hb not_mem_nil
  | cons a l ih =>
    intro out h b hb
    simp only [mapM_cons, Option.bind_eq_bind, Option.bind_eq_some_iff, Option.pure_def,
      Option.some.injEq] at h
    obtain ⟨b', ha, rest, hrest, rfl⟩ := h
    rcases mem_cons.mp hb with rfl | hb
    · exact ⟨a, mem_cons_self, ha⟩
    · obtain ⟨a', ha', hf⟩ := ih hrest hb
      exact ⟨a', mem_cons_of_mem _ ha', hf⟩

/-- A function that succeeds on the members of a list succeeds on the list. -/
theorem mapM_eq_some_map {α β : Type} {f : α → Option β} {g : α → β} {l : List α}
    (h : ∀ a ∈ l, f a = some (g a)) : l.mapM f = some (l.map g) := by
  induction l with
  | nil => rfl
  | cons a l ih =>
    obtain ⟨ha, h⟩ := forall_mem_cons.mp h
    rw [mapM_cons, ha, ih h]
    rfl

/-- What a function that succeeds on a whole list gives is as long as the list. -/
theorem length_of_mapM_eq_some {α β : Type} {f : α → Option β} : ∀ {l : List α} {out : List β},
    l.mapM f = some out → out.length = l.length := by
  intro l
  induction l with
  | nil =>
    intro out h
    rw [mapM_nil] at h
    obtain rfl := Option.some.inj h
    rfl
  | cons a l ih =>
    intro out h
    simp only [mapM_cons, Option.bind_eq_bind, Option.bind_eq_some_iff, Option.pure_def,
      Option.some.injEq] at h
    obtain ⟨b, -, rest, hrest, rfl⟩ := h
    rw [length_cons, length_cons, ih hrest]

section Stop

variable {α : Type*} {p : α → Bool} {rest : List α}

/-- What stands before a stop is taken by itself. -/
theorem takeWhile_append_of_stop (h : ∀ a ∈ rest.head?, p a = false) (l : List α) :
    (l ++ rest).takeWhile p = l.takeWhile p := by
  induction l with
  | nil =>
    cases rest with
    | nil => rfl
    | cons a rest => exact takeWhile_cons_of_neg (by rw [h a rfl]; decide)
  | cons a l ih => cases hp : p a <;> simp [hp, ih]

/-- What stands before a stop is passed over by itself. -/
theorem dropWhile_append_of_stop (h : ∀ a ∈ rest.head?, p a = false) (l : List α) :
    (l ++ rest).dropWhile p = l.dropWhile p ++ rest := by
  induction l with
  | nil =>
    cases rest with
    | nil => rfl
    | cons a rest => exact dropWhile_cons_of_neg (by rw [h a rfl]; decide)
  | cons a l ih => cases hp : p a <;> simp [hp, ih]

/-- A text is parted at a stop from what stands before it. -/
theorem span_append_of_stop {l : List α} (hl : ∀ a ∈ l, p a = true) (h : ∀ a ∈ rest.head?, p a = false) :
    (l ++ rest).takeWhile p = l ∧ (l ++ rest).dropWhile p = rest := by
  rw [takeWhile_append_of_stop h, dropWhile_append_of_stop h, takeWhile_eq_self_iff.mpr hl,
    dropWhile_eq_nil_iff.mpr hl]
  exact ⟨rfl, rfl⟩

/-- A mark is found before a text that begins with no character of the mark just if it stands there. -/
theorem isPrefixOf?_append_of_stop [BEq α] [LawfulBEq α] : ∀ {mark : List α}, (∀ a ∈ rest.head?, a ∉ mark) →
    ∀ l : List α, mark.isPrefixOf? (l ++ rest) = (mark.isPrefixOf? l).map (· ++ rest) := by
  intro mark
  induction mark with
  | nil => intro _ l; rfl
  | cons a mark ih =>
    intro h l
    cases l with
    | nil =>
      cases rest with
      | nil => rfl
      | cons b rest =>
        have hne : b ≠ a := fun heq => h b rfl (heq ▸ mem_cons_self)
        simp [isPrefixOf?, Ne.symm hne]
    | cons b l =>
      rw [cons_append, isPrefixOf?, isPrefixOf?, ih fun d hd hmem => h d hd (mem_cons_of_mem _ hmem)]
      split <;> rfl

end Stop

end List

namespace ResultFilter

namespace Text

/-- A text is cut at a mark if the first character of the mark does not stand before it. -/
theorem cutAt?_append {c : Char} {mark : Text} (after : Text) : ∀ {before : Text}, c ∉ before →
    cutAt? (c :: mark) (before ++ (c :: mark) ++ after) = some (before, after) := by
  intro before
  induction before with
  | nil =>
    intro _
    have hmark : (c :: mark).isPrefixOf? (c :: (mark ++ after)) = some after :=
      List.isPrefixOf?_eq_some_iff_append_eq.mpr rfl
    rw [List.nil_append, List.cons_append, cutAt?, hmark]
  | cons d before ih =>
    intro hc
    obtain ⟨hne, hc⟩ := not_or.mp (List.mem_cons.not.mp hc)
    have hmark (rest : Text) : (c :: mark).isPrefixOf? (d :: rest) = none := if_neg (by simpa using hne)
    rw [List.cons_append, List.cons_append, cutAt?, hmark, ih hc]
    rfl

/-- What comes before and after a mark, with the mark between, is the text. -/
theorem eq_of_cutAt? {mark : Text} : ∀ {cs before after : Text}, cutAt? mark cs = some (before, after) →
    cs = before ++ mark ++ after := by
  intro cs
  induction cs with
  | nil =>
    intro before after h
    obtain ⟨hmark, h⟩ := Option.ite_none_right_eq_some.mp h
    obtain ⟨rfl, rfl⟩ := Prod.mk.inj (Option.some.inj h)
    rw [List.isEmpty_iff.mp hmark]
    rfl
  | cons c rest ih =>
    intro before after h
    rw [cutAt?] at h
    split at h
    · next hmark =>
      obtain ⟨rfl, rfl⟩ := Prod.mk.inj (Option.some.inj h)
      exact (List.isPrefixOf?_eq_some_iff_append_eq.mp hmark).symm
    · obtain ⟨⟨before', after'⟩, hcut, h⟩ := Option.map_eq_some_iff.mp h
      obtain ⟨rfl, rfl⟩ := Prod.mk.inj h
      rw [ih hcut]
      rfl

theorem mem_of_mem_splitOn {mark c : Char} : ∀ {cs piece : Text},
    piece ∈ splitOn mark cs → c ∈ piece → c ∈ cs := by
  intro cs
  induction cs with
  | nil =>
    intro piece hpiece hc
    obtain rfl := List.mem_singleton.mp hpiece
    exact hc
  | cons d rest ih =>
    intro piece hpiece hc
    rw [splitOn] at hpiece
    split at hpiece
    · rcases List.mem_cons.mp hpiece with rfl | hpiece
      · exact absurd hc List.not_mem_nil
      · exact List.mem_cons_of_mem _ (ih hpiece hc)
    · split at hpiece
      · next first others hsplit =>
        rcases List.mem_cons.mp hpiece with rfl | hpiece
        · rcases List.mem_cons.mp hc with rfl | hc
          · exact List.mem_cons_self
          · exact List.mem_cons_of_mem _ (ih (hsplit ▸ List.mem_cons_self) hc)
        · exact List.mem_cons_of_mem _ (ih (hsplit ▸ List.mem_cons_of_mem _ hpiece) hc)
      · next hsplit => exact absurd hsplit (splitOn_ne_nil mark rest)

theorem splitOn_of_not_mem {mark : Char} : ∀ {cs : Text}, mark ∉ cs → splitOn mark cs = [cs] := by
  intro cs
  induction cs with
  | nil => intro _; rfl
  | cons c rest ih =>
    intro h
    rw [List.mem_cons, not_or] at h
    rw [splitOn, if_neg (Ne.symm h.1), ih h.2]

theorem not_mem_of_mem_splitOn {mark : Char} : ∀ {cs piece : Text}, piece ∈ splitOn mark cs → mark ∉ piece := by
  intro cs
  induction cs with
  | nil =>
    intro piece hpiece
    rw [List.mem_singleton.mp hpiece]
    exact List.not_mem_nil
  | cons c rest ih =>
    intro piece hpiece
    rw [splitOn] at hpiece
    split at hpiece
    · rcases List.mem_cons.mp hpiece with rfl | hpiece
      · exact List.not_mem_nil
      · exact ih hpiece
    · next hc =>
      split at hpiece
      · next first others hsplit =>
        rw [hsplit] at ih
        rcases List.mem_cons.mp hpiece with rfl | hpiece
        · rw [List.mem_cons, not_or]
          exact ⟨Ne.symm hc, ih List.mem_cons_self⟩
        · exact ih (List.mem_cons_of_mem _ hpiece)
      · next hsplit => exact absurd hsplit (splitOn_ne_nil mark rest)

/-- A mark between two texts parts their pieces. -/
theorem splitOn_append_cons {mark : Char} (cs rest : Text) :
    splitOn mark (cs ++ mark :: rest) = splitOn mark cs ++ splitOn mark rest := by
  induction cs with
  | nil => exact if_pos rfl
  | cons c cs ih =>
    obtain ⟨piece, pieces, hcs⟩ := List.exists_cons_of_ne_nil (splitOn_ne_nil mark cs)
    rw [hcs] at ih
    by_cases hc : c = mark
    · simp [splitOn, hc, ih, hcs]
    · simp [splitOn, hc, ih, hcs]

theorem splitOn_append {mark : Char} {piece : Text} (h : mark ∉ piece) (rest : Text) :
    splitOn mark (piece ++ mark :: rest) = piece :: splitOn mark rest := by
  rw [splitOn_append_cons, splitOn_of_not_mem h, List.singleton_append]

/-- Pieces that are joined are found again. -/
theorem splitOn_join {mark : Char} {pieces : List Text} (hne : pieces ≠ [])
    (h : ∀ piece ∈ pieces, mark ∉ piece) : splitOn mark (join [mark] pieces) = pieces := by
  induction pieces with
  | nil => exact absurd rfl hne
  | cons piece pieces ih =>
    have hpiece := h piece List.mem_cons_self
    cases pieces with
    | nil => exact splitOn_of_not_mem hpiece
    | cons next pieces =>
      rw [join, List.append_assoc, List.singleton_append, splitOn_append hpiece,
        ih (List.cons_ne_nil _ _) fun p hp => h p (List.mem_cons_of_mem _ hp)]
      exact List.cons_ne_nil _ _

theorem join_concat {mark : Text} (piece : Text) : ∀ {pieces : List Text}, pieces ≠ [] →
    join mark (pieces ++ [piece]) = join mark pieces ++ mark ++ piece := by
  intro pieces
  induction pieces with
  | nil => intro h; exact absurd rfl h
  | cons first pieces ih =>
    intro _
    cases pieces with
    | nil => rfl
    | cons next pieces =>
      have hjoin (rest : List Text) : join mark (first :: next :: rest)
          = first ++ mark ++ join mark (next :: rest) := rfl
      rw [List.cons_append, List.cons_append, hjoin, hjoin, ← List.cons_append, ih (List.cons_ne_nil _ _)]
      simp only [List.append_assoc]

theorem getLast?_join_concat {mark piece : Text} (h : piece ≠ []) (pieces : List Text) :
    (join mark (pieces ++ [piece])).getLast? = piece.getLast? := by
  cases pieces with
  | nil => rfl
  | cons first pieces =>
    rw [join_concat piece (List.cons_ne_nil first pieces), List.getLast?_append_of_ne_nil _ h]

theorem mem_join {mark : Text} {c : Char} : ∀ {pieces : List Text}, c ∈ join mark pieces →
    c ∈ mark ∨ ∃ piece ∈ pieces, c ∈ piece := by
  intro pieces
  induction pieces with
  | nil => intro hc; exact absurd hc List.not_mem_nil
  | cons piece pieces ih =>
    intro hc
    cases pieces with
    | nil => exact Or.inr ⟨piece, List.mem_cons_self, hc⟩
    | cons next pieces =>
      rw [join, List.append_assoc, List.mem_append, List.mem_append] at hc
      · rcases hc with hc | hc | hc
        · exact Or.inr ⟨piece, List.mem_cons_self, hc⟩
        · exact Or.inl hc
        · obtain h | ⟨p, hp, hcp⟩ := ih hc
          · exact Or.inl h
          · exact Or.inr ⟨p, List.mem_cons_of_mem _ hp, hcp⟩
      · exact List.cons_ne_nil _ _

end Text

end ResultFilter
