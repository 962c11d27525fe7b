import ResultFilter.Proofs.Json.Tree
import ResultFilter.Proofs.Rule.RegexLiteral

/-!
# Regular expressions that are stored again and again

A stored expression is checked as it was when its line was read: the escapes are taken off its slashes once
more, and it is parsed under the flags of its letters once more. A text loses nothing by that if no slash in it
is escaped, where the backslashes before a slash pair up from the first one on, and a text whose escapes have
been taken off is such a text. So it does not matter how often an expression goes through a file.

## Main definitions

* `Regex.reload?` — an expression written as a text and read from it.
* `Regex.reloads?` — that, a number of times.

## Main results

* `RegexLiteral.unescapeSlashes_eq_self_iff` — the texts that taking off the escapes leaves as they are.
* `Regex.ofText_reloads` — what is read once stays the same.
-/

namespace List

/-- A list without what is at some places is the same just if it has none of these places. -/
theorem filterMap_zipIdx_eq_self_iff {α : Type*} (l : List α) (drops : ℕ → Bool) :
    (l.zipIdx.filterMap fun (x, i) => if drops i then none else some x) = l
      ↔ ∀ i < l.length, drops i = false := by
  constructor
  · intro h i hi
    -- a list from which something is dropped gets shorter
    by_contra hdrops
    rw [Bool.not_eq_false] at hdrops
    have hmem : (l[i], i) ∈ l.zipIdx := mem_zipIdx_iff_getElem?.mpr (getElem?_eq_getElem hi)
    have hlt : (l.zipIdx.filterMap fun (x, i) => if drops i then none else some x).length < l.zipIdx.length :=
      length_filterMap_lt_length_iff_exists.mpr ⟨_, hmem, if_pos hdrops⟩
    rw [h, length_zipIdx] at hlt
    exact lt_irrefl _ hlt
  · intro h
    have hkeeps : ∀ x ∈ l.zipIdx, (if drops x.2 then none else some x.1) = (some ∘ Prod.fst) x := by
      intro x hx
      rw [h x.2 (by simpa using snd_lt_of_mem_zipIdx hx)]
      rfl
    rw [filterMap_congr hkeeps, filterMap_eq_map, zipIdx_map_fst]

end List

namespace ResultFilter

open ResultFilter.Text

namespace RegexLiteral

/-- Taking off the escapes of the slashes leaves a text as it is just if none of its slashes is escaped. -/
theorem unescapeSlashes_eq_self_iff (text : Text) :
    unescapeSlashes text = text ↔ ∀ i, text[i]? = some '/' → isEscaped text i = false := by
  rw [unescapeSlashes_eq]
  refine (List.filterMap_zipIdx_eq_self_iff text (escapesSlash text)).trans
    ⟨fun h i hslash => ?_, fun h i _ => ?_⟩
  · cases i with
    | zero => rfl
    | succ i =>
      obtain ⟨hi, -⟩ := List.getElem?_eq_some_iff.mp hslash
      have hkept := h i (Nat.lt_of_succ_lt hi)
      rwa [escapesSlash, hslash, beq_self_eq_true, Bool.and_true] at hkept
  · by_cases hslash : text[i + 1]? = some '/'
    · rw [escapesSlash, h (i + 1) hslash, Bool.false_and]
    · rw [escapesSlash, beq_false_of_ne hslash, Bool.and_false]

end RegexLiteral

namespace Regex

/-- An expression that is written as a text and read from it. -/
def reload? (r : Regex) : Option Regex := do
  let tree ← JsonTree.ofText? r.toJson.render
  decode JsonTree.depthLimit tree

/-- An expression that goes through a text a number of times. -/
def reloads? : ℕ → Regex → Option Regex
  | 0, r => some r
  | n + 1, r => do reloads? n (← r.reload?)

variable {r : Regex}

theorem decode_toJson_of_one_lt (hr : r.IsProper) {limit : ℕ} (hlimit : 1 < limit) :
    decode limit r.toJson.tree = some r := by
  rw [(reads_toJson hr).decode (Nat.lt_of_succ_lt hlimit), depth_toJson, if_pos hlimit]

theorem reload?_eq (hr : r.IsProper) : r.reload? = some r := by
  rw [reload?, JsonTree.ofText?_render]
  exact decode_toJson_of_one_lt hr (by decide)

theorem reloads?_eq (hr : r.IsProper) (n : ℕ) : reloads? n r = some r := by
  induction n with
  | zero => rfl
  | succ n ih =>
    rw [reloads?, reload?_eq hr]
    exact ih

/-- Taking off the escapes of the slashes twice is taking them off once. An expression that has been read has its
text without them for a source, in which no slash is escaped, and the flags that it was read under, which are
those of its letters; read from its own source and flags, or from what is stored of it, it is the same again,
however often it is written and read. -/
theorem ofText_reloads :
    (∀ text, unescapeSlashes (unescapeSlashes text) = unescapeSlashes text)
    ∧ ∀ {text : Text} {flags : RegexFlags} {r : Regex}, ofText text flags = some r →
      r.source = unescapeSlashes text ∧ r.flags = flags
      ∧ (∀ i, r.source[i]? = some '/' → RegexLiteral.isEscaped r.source i = false)
      ∧ RegexFlags.ofText r.flags.render = .ok r.flags
      ∧ ofText r.source r.flags = some r
      ∧ (∀ limit, 1 < limit → decode limit r.toJson.tree = some r)
      ∧ ∀ n, reloads? n r = some r := by
  refine ⟨unescapeSlashes_idem, fun {text flags r} h => ?_⟩
  have hproper := isProper_of_ofText h
  obtain ⟨hsource, hflags⟩ := source_of_ofText h
  exact ⟨hsource, hflags, (RegexLiteral.unescapeSlashes_eq_self_iff r.source).mp hproper,
    RegexFlags.ofText_render r.flags, ofText_source hproper, fun _ => decode_toJson_of_one_lt hproper,
    reloads?_eq hproper⟩

/-- The expression `^a\\\/\/` has three backslashes before its first slash, of which the last one goes. -/
theorem ofText_reloads_example : ∃ r, ofText "^a\\\\\\/\\/".toList { ignoreCase := true } = some r
    ∧ r.source = "^a\\\\//".toList ∧ reloads? 3 r = some r := by
  have hsome : (ofText "^a\\\\\\/\\/".toList { ignoreCase := true }).isSome = true := by decide +kernel
  obtain ⟨r, hr⟩ := Option.isSome_iff_exists.mp hsome
  obtain ⟨hsource, -, -, -, -, -, hreloads⟩ := ofText_reloads.2 hr
  exact ⟨r, hr, hsource.trans (by decide), hreloads 3⟩

end Regex

end ResultFilter
