import ResultFilter.Proofs.Index.Stored
import ResultFilter.Proofs.Rule.Stored
import ResultFilter.RuleIndex.Stored

/-!
# Compiled rules read from their stored form

A rule is read with its line and its specifier, whatever it asks, and the compiled rules with the index of
the patterns made anew from its snapshot.

## Main definitions

* `LineRule.Within` — a rule of a line up to a bound that can be stored.
* `RuleIndex.reloaded` — the compiled rules with their index made anew.

## Main results

* `LineRule.reads_toJson` — a rule is read, with the reader of what it asks as a parameter.
* `RuleIndex.reads_toJson` — compiled rules are read.
-/

namespace ResultFilter

/-! ### Fields that may be left out -/

namespace Json

theorem keys_optionalField (name : String) (v : Option Json) :
    Dict.keys (optionalField name v) = if v.isSome then [name.toList] else [] := by
  cases v <;> rfl

theorem find?_optionalField (name : String) (v : Option Json) : Dict.find? name.toList (optionalField name v) = v := by
  cases v with
  | none => rfl
  | some v => exact if_pos rfl

theorem find?_optionalField_of_ne {name : String} {key : Text} (h : name.toList ≠ key) (v : Option Json) :
    Dict.find? key (optionalField name v) = none := by
  cases v with
  | none => rfl
  | some v => exact if_neg h

theorem find?_append {key : Text} {fields others : List (Text × Json)} :
    Dict.find? key (fields ++ others) = (Dict.find? key fields).or (Dict.find? key others) := by
  induction fields with
  | nil => rfl
  | cons f fields ih =>
    rw [List.cons_append, Dict.find?, Dict.find?, ih]
    split <;> rfl

theorem depthFields_append (fields others : List (Text × Json)) :
    depthFields (fields ++ others) = max (depthFields fields) (depthFields others) := by
  induction fields with
  | nil => simp [depthFields]
  | cons f fields ih => rw [List.cons_append, depthFields, ih, depthFields, Nat.max_assoc]

end Json

/-- What an optional field is read as. -/
theorem Record.withDefault_optional {α : Type} {d : Decoder α} {name : String} {v : Option Json} {x : Option α}
    {fields : List (Text × Json)} {limit : Nat} (hfind : Dict.find? name.toList fields = v)
    (h : Option.Rel (fun w y => d.Reads w y ∧ w ≠ .null) v x) (hlimit : 0 < limit) :
    (ofFields limit fields).withDefault name.toList (Decoder.optional d) none
      = if Json.depthFields (Json.optionalField name v) < limit then some x else none := by
  cases h with
  | none =>
    rw [withDefault_of_find?_eq_none hfind]
    exact (if_pos hlimit).symm
  | some h =>
    rw [withDefault_eq hfind (Decoder.reads_optional h.1 h.2) hlimit]
    exact if_congr (by simp [Json.optionalField, Json.depthFields, Json.field]) rfl rfl

namespace LineRule

variable {α : Type}

/-- The line of a rule is within a bound, its specifier can be stored, and what it asks has a property. -/
structure Within (p : α → Prop) (bound : Nat) (r : LineRule α) : Prop where
  /-- The line is within the bound. -/
  line_le : r.line ≤ bound
  /-- The specifier can be stored. -/
  specifier : ∀ s ∈ r.specifier, s.IsProper
  /-- What the rule asks has the property. -/
  condition : p r.condition

theorem reads_specifier {specifier : Option Specifier} (hs : ∀ s ∈ specifier, s.IsProper) :
    Option.Rel (fun w y => Decoder.Reads Specifier.decode w y ∧ w ≠ .null) (specifier.map Specifier.toJson)
      specifier := by
  cases specifier with
  | none => exact .none
  | some s => exact .some ⟨Specifier.reads_toJson (hs s rfl), Json.noConfusion⟩

/-- A rule is read if the reader of what it asks finds that in a field of its own. -/
theorem reads_toJson {name : String} (hline : name.toList ≠ "line".toList)
    (hspecifier : name.toList ≠ "specifier".toList) {condition : Record → Option α} {v : Option Json}
    {r : LineRule α} (hr : r.line ≤ 0xFFFFFFFF) (hs : ∀ s ∈ r.specifier, s.IsProper)
    (hcondition : ∀ {inner fields}, 0 < inner → Dict.find? name.toList fields = v →
      condition (.ofFields inner fields)
        = if Json.depthFields (Json.optionalField name v) < inner then some r.condition else none) :
    (decodeWith name condition).Reads (r.toJson (Json.optionalField name v)) r := by
  obtain ⟨line, specifier, asked⟩ := r
  dsimp only at hr hs hcondition
  have hspec := reads_specifier hs
  unfold toJson
  dsimp only
  generalize specifier.map Specifier.toJson = s at hspec ⊢
  have hskey : "specifier".toList ≠ "line".toList := by decide
  refine ⟨fun {limit} _ => ?_⟩
  refine Record.ofTree?_bind
    ("line".toList :: (Dict.keys (Json.optionalField "specifier" s) ++ Dict.keys (Json.optionalField name v)))
    ?_ ?_ ?_ fun {inner} hinner => ?_
  · rw [Dict.keys, List.cons_append, List.map_cons, List.map_append]
    rfl
  · rw [Json.keys_optionalField, Json.keys_optionalField]
    split <;> split <;> simp
  · rw [Json.keys_optionalField, Json.keys_optionalField]
    generalize "line".toList = line at hline hskey ⊢
    generalize "specifier".toList = spec at hspecifier hskey ⊢
    split <;> split <;> simp [hline.symm, hspecifier.symm, hskey.symm]
  · have hfind : Dict.find? name.toList (Json.field "line" (.ofNat line) :: Json.optionalField "specifier" s
        ++ Json.optionalField name v) = v := by
      rw [List.cons_append, Json.field, Dict.find?, if_neg hline.symm, Json.find?_append,
        Json.find?_optionalField_of_ne hspecifier.symm, Option.none_or, Json.find?_optionalField]
    have hfinds : Dict.find? "specifier".toList (Json.field "line" (.ofNat line)
        :: Json.optionalField "specifier" s ++ Json.optionalField name v) = s := by
      rw [List.cons_append, Json.field, Dict.find?, if_neg hskey.symm, Json.find?_append,
        Json.find?_optionalField, Json.find?_optionalField_of_ne hspecifier, Option.or_none]
    rw [Record.required_eq rfl (Decoder.reads_word32 hr) hinner, Record.withDefault_optional hfinds hspec hinner,
      hcondition hinner hfind]
    simp only [Option.bind_eq_bind, Option.ite_some_bind, Option.pure_def, ← ite_and]
    refine if_congr ?_ rfl rfl
    rw [List.cons_append, Json.depthFields, Json.depthFields_append, Nat.max_lt, Nat.max_lt]
    rfl

/-- What a rule without a guard or with one asks can be stored. -/
def IsProperGuard (guard : Option Expression) : Prop :=
  ∀ e ∈ guard, e.IsProper

theorem reads_guardJson {bound : Nat} (hbound : bound ≤ 0xFFFFFFFF) {r : LineRule (Option Expression)}
    (hr : r.Within IsProperGuard bound) : decodeGuard.Reads r.guardJson r := by
  have hguard : Option.Rel (fun w y => Decoder.Reads Expression.decode w y ∧ w ≠ .null)
      (r.condition.map Expression.toJson) r.condition := by
    have hproper := hr.condition
    generalize r.condition = guard at hproper ⊢
    cases guard with
    | none => exact .none
    | some e =>
      obtain ⟨fields, hfields⟩ := e.exists_toJson_eq_object
      exact .some ⟨Expression.reads_toJson (hproper e rfl), by rw [hfields]; exact Json.noConfusion⟩
  exact reads_toJson (by decide) (by decide) (hr.line_le.trans hbound) hr.specifier
    fun hinner hfind => Record.withDefault_optional hfind hguard hinner

/-- What a rule asks in a field that has to be there. -/
theorem reads_required {name : String} (hline : name.toList ≠ "line".toList)
    (hspecifier : name.toList ≠ "specifier".toList) {d : Decoder α} {toJ : α → Json} {p : α → Prop}
    (hp : ∀ a, p a → d.Reads (toJ a) a) {bound : Nat} (hbound : bound ≤ 0xFFFFFFFF) {r : LineRule α}
    (hr : r.Within p bound) :
    (decodeWith name fun record => record.required name.toList d).Reads
      (r.toJson [Json.field name (toJ r.condition)]) r := by
  have hreads := hp r.condition hr.condition
  refine reads_toJson (v := some (toJ r.condition)) hline hspecifier (hr.line_le.trans hbound) hr.specifier
    fun hinner hfind => ?_
  rw [Record.required_eq hfind hreads hinner]
  exact if_congr (by simp [Json.optionalField, Json.depthFields, Json.field]) rfl rfl

theorem reads_regexJson {bound : Nat} (hbound : bound ≤ 0xFFFFFFFF) {r : LineRule Regex}
    (hr : r.Within Regex.IsProper bound) : decodeRegex.Reads r.regexJson r :=
  reads_required (by decide) (by decide) (fun _ h => Regex.reads_toJson h) hbound hr

theorem reads_expressionJson {bound : Nat} (hbound : bound ≤ 0xFFFFFFFF) {r : LineRule Expression}
    (hr : r.Within Expression.IsProper bound) : decodeExpression.Reads r.expressionJson r :=
  reads_required (by decide) (by decide) (fun _ h => Expression.reads_toJson h) hbound hr

end LineRule

namespace RuleIndex

/-- Compiled rules of lines up to a bound that can be stored. -/
structure Storable (index : RuleIndex) (bound : Nat) : Prop where
  /-- The nodes of the index form a tree. -/
  isTree : index.patterns.IsTree
  /-- The rules with a pattern can be stored. -/
  patterns {h : Handle} {e : Entry (LineRule (Option Expression))} :
    index.patterns.entryAt? h = some e → e.value.Within LineRule.IsProperGuard bound
  /-- So can the regular expressions for the address. -/
  url : ∀ r ∈ index.url, r.Within Regex.IsProper bound
  /-- So can those for the title. -/
  title : ∀ r ∈ index.title, r.Within Regex.IsProper bound
  /-- So can the expressions. -/
  expressions : ∀ r ∈ index.expressions, r.Within Expression.IsProper bound

/-- The compiled rules with the index of the patterns made anew. -/
def reloaded (index : RuleIndex) : RuleIndex :=
  { index with patterns := .ofSnapshot index.patterns.toSnapshot }

/-- Compiled rules are read with the index of the patterns made anew. -/
theorem reads_toJson {index : RuleIndex} {bound : Nat} (h : index.Storable bound) (hbound : bound ≤ 0xFFFFFFFF) :
    decode.Reads index.toJson index.reloaded := by
  have hpatterns : (Index.decode LineRule.decodeGuard).Reads (index.patterns.toJson LineRule.guardJson)
      (.ofSnapshot index.patterns.toSnapshot) :=
    Index.reads_toJson (fun _ hr => LineRule.reads_guardJson hbound hr) h.isTree fun _ _ he => h.patterns he
  have hurl := Decoder.reads_list_self fun r hr => LineRule.reads_regexJson hbound (h.url r hr)
  have htitle := Decoder.reads_list_self fun r hr => LineRule.reads_regexJson hbound (h.title r hr)
  have hexpressions := Decoder.reads_list_self fun r hr => LineRule.reads_expressionJson hbound (h.expressions r hr)
  refine ⟨fun {limit} _ => ?_⟩
  refine Record.ofTree?_bind ["patterns".toList, "url".toList, "title".toList, "expressions".toList] rfl
    (by decide) (by decide) fun {inner} hinner => ?_
  rw [Record.required_eq rfl hpatterns hinner, Record.withDefault_eq rfl hurl hinner,
    Record.withDefault_eq rfl htitle hinner, Record.withDefault_eq rfl hexpressions hinner]
  simp only [Option.bind_eq_bind, Option.ite_some_bind, Option.pure_def, ← ite_and]
  exact if_congr (by simp [Json.depthFields, Json.field]) rfl rfl

end RuleIndex

end ResultFilter
