import ResultFilter.Proofs.Cli.Files
import ResultFilter.Proofs.Engine.Requests
import ResultFilter.Proofs.Ruleset.Saved

/-!
# Patches written to files

A patch that is applied ends up in a file: the ruleset of the user is written there as a text. What reads
the file again guesses from its name and its first character whether it holds rules or a stored ruleset, and
looks for a header at the top of the rules. A ruleset that is read from a stored form is thus written in a
form that is not read again, and lines that now look like a header no longer fire.

## Main definitions

* `Cli.AppliedPatch` — a patch that a command proposes, applies and writes.
* `Cli.AppliedPatch.ReadsBack` — the file can be read and decides as the ruleset that was written.

## Main results

* `Cli.exists_appliedPatch` — what a command that does not fail has done.
* `Cli.patch_readsBack_iff` — when the file that it writes reads back.
-/

namespace ResultFilter

open ResultFilter.Text

/-! ### The text of a ruleset after a patch -/

namespace Engine

variable {e : Engine} {content : Text} {props : Props}

/-- Lines deleted and added one after another. -/
def carryOutEdits (ns : List Nat) (rules : Text) : List Edit :=
  ns.map .delete ++ [.extend rules]

theorem user_carryOut_eq_edits (huser : e.user = .ofText content) (ns : List Nat) (rules : Text) :
    (e.carryOut ns rules).user = (Ruleset.ofText content).edits (carryOutEdits ns rules) := by
  rw [Ruleset.edits, carryOutEdits, List.foldl_append, List.foldl_map, ← huser]
  rfl

/-- A patch deletes no line of a header, since no rule fires there. -/
theorem isSome_get?_carryOut (huser : e.user = .ofText content) (rules : Text) {n : Nat} (hpos : 0 < n)
    (hn : n ≤ (Header.ofLines (splitLines content)).size) :
    ((e.carryOut ((e.planPatch props).2.1.map (·.line)) rules).user.get? n).isSome = true := by
  obtain ⟨line, hline⟩ : ∃ line, (n, line) ∈ e.user.lines := by
    rw [huser, Ruleset.lines_ofText]
    refine ⟨_, mem_numbered_iff.mpr ⟨hpos, List.getElem?_eq_getElem ?_⟩⟩
    have hsize := Header.size_le (splitLines content)
    omega
  have hkept : n ∉ (e.planPatch props).2.1.map (·.line) := by
    intro hmem
    obtain ⟨m, hm, rfl⟩ := List.mem_map.mp hmem
    have hfired := (planPatch_sublist e props).mem hm
    rw [huser, (Ruleset.follows_ofText content).query_eq] at hfired
    obtain ⟨-, -, hlt, -⟩ := Sheet.mem_fired_iff.mp hfired
    exact absurd hn (Nat.not_le.mpr hlt)
  refine Option.isSome_iff_exists.mpr ⟨line, (Ruleset.mem_lines_iff _).mp ?_⟩
  rw [lines_carryOut]
  refine List.mem_append_left _ (List.mem_filter.mpr ⟨hline, ?_⟩)
  rwa [Bool.not_eq_true', ← Bool.not_eq_true, List.contains_iff_mem]

/-- A text with a header, and a patch carried out: the votes come back when the text is compiled again. -/
theorem votes_toText_carryOut (huser : e.user = .ofText content) (rules : Text)
    (hpos : 0 < (Header.ofLines (splitLines content)).size) (props : Props) :
    let r := (e.carryOut ((e.planPatch props).2.1.map (·.line)) rules).user
    ((Ruleset.ofText r.toText).query props).map (·.specifier) = (r.query props).map (·.specifier) := by
  intro r
  have hr := user_carryOut_eq_edits huser ((e.planPatch props).2.1.map (·.line)) rules
  have hquery := Ruleset.query_ofText_toText_of_header content
    (carryOutEdits ((e.planPatch props).2.1.map (·.line)) rules) props
    (fun n hn hle => hr ▸ isSome_get?_carryOut huser rules hn hle)
    (fun hzero => absurd hzero hpos.ne')
  rw [← hr] at hquery
  rw [hquery, List.map_map]
  rfl

/-- Without a header all lines vote. -/
theorem votes_splitLines_toText_carryOut (huser : e.user = .ofText content) (ns : List Nat) (rules : Text)
    (hzero : (Header.ofLines (splitLines content)).size = 0) (props : Props) :
    votes (splitLines (e.carryOut ns rules).user.toText) props
      = ((e.carryOut ns rules).user.query props).map (·.specifier) := by
  have hreach : (e.carryOut ns rules).user.Reachable :=
    reachable_carryOut (huser ▸ Ruleset.Reachable.ofText content) ns rules
  have hquery := Ruleset.query_edits_eq_firedOn content (carryOutEdits ns rules) props
  rw [← user_carryOut_eq_edits huser, hzero, List.filter_eq_self.mpr] at hquery
  · rw [hquery, map_specifier_firedOn]
    refine votes_splitLines_join (fun line hline => ?_) props
    obtain ⟨x, hx, rfl⟩ := List.mem_map.mp hline
    exact Ruleset.not_mem_of_mem_lines hreach hx
  · -- lines are numbered from one, so all of them are below a header of none
    intro x hx
    exact decide_eq_true (Ruleset.le_lineCount_of_mem_lines hx).1

end Engine

namespace Cli

/-! ### A patch that is applied -/

/-- A patch that a command proposes, applies and writes. -/
structure AppliedPatch (read : Path → Reading) (suffixes : Option Path) (rulesets : RulesetFiles)
    (props : Props) (wholeSite : Bool) (rules : Option Text) (output : Option Path) where
  /-- The file that the ruleset is written to. -/
  target : Path
  /-- The list of public suffixes. -/
  list : Option SuffixList
  /-- The engine that is loaded. -/
  loaded : Engine
  /-- The patch, which is shown. -/
  patch : Patch
  /-- The engine with the patch. -/
  proposed : Engine
  /-- The engine once the patch is applied. -/
  applied : Engine
  target_eq : (output <|> rulesets.user) = some target
  list_eq : loadSuffixes read suffixes = .ok list
  loaded_eq : loadEngine read list rulesets = .ok loaded
  proposed_eq : proposePatch loaded props wholeSite rules = .ok (patch, proposed)
  applied_eq : proposed.applyPatch = some applied

section

variable {files : FileTree} {args : List Text} {suffixes : Option Path} {rulesets : RulesetFiles}
  {props : Props} {wholeSite : Bool} {rules : Option Text} {output : Option Path}

/-- The plan of a patch fails at once, or a patch is proposed. -/
theorem plan_patch_cases (read : Path → Reading) (apply : Bool) :
    (∃ failure, Command.plan read suffixes (.patch rulesets props wholeSite rules apply output) = .fail failure)
      ∨ ∃ list loaded patch proposed, loadSuffixes read suffixes = .ok list
        ∧ loadEngine read list rulesets = .ok loaded
        ∧ proposePatch loaded props wholeSite rules = .ok (patch, proposed)
        ∧ Command.plan read suffixes (.patch rulesets props wholeSite rules apply output)
          = patchPlan patch proposed apply (output <|> rulesets.user) := by
  cases hlist : loadSuffixes read suffixes with
  | error failure =>
    refine Or.inl ⟨failure, ?_⟩
    rw [Command.plan, hlist]
    rfl
  | ok list =>
    cases hloaded : loadEngine read list rulesets with
    | error failure =>
      refine Or.inl ⟨failure, ?_⟩
      simp only [Command.plan, hlist, Except.bind, Command.plan?, hloaded, bind]
    | ok loaded =>
      cases hproposed : proposePatch loaded props wholeSite rules with
      | error failure =>
        refine Or.inl ⟨failure, ?_⟩
        simp only [Command.plan, hlist, Except.bind, Command.plan?, hloaded, hproposed, bind]
      | ok proposed =>
        refine Or.inr ⟨list, loaded, proposed.1, proposed.2, rfl, hloaded, hproposed, ?_⟩
        simp only [Command.plan, hlist, Except.bind, Command.plan?, hloaded, hproposed, bind]
        rfl

/-- A command that does not fail applies a patch, and writes the ruleset of the user that it leads to. -/
theorem exists_appliedPatch
    (hargs : Request.ofArgs args = .run suffixes (.patch rulesets props wholeSite rules true output))
    (hstatus : (runArgs files args).status = 0) :
    ∃ run : AppliedPatch files.read suffixes rulesets props wholeSite rules output,
      files.write run.target run.applied.user.toText = .ok (runArgs files args).files := by
  have hrun : runArgs files args
      = (Command.plan files.read suffixes (.patch rulesets props wholeSite rules true output)).run files := by
    rw [runArgs, hargs]
  rw [hrun] at hstatus ⊢
  rcases plan_patch_cases files.read true with
    ⟨failure, hplan⟩ | ⟨list, loaded, patch, proposed, hlist, hloaded, hproposed, hplan⟩
  · rw [hplan] at hstatus
    exact absurd hstatus Nat.one_ne_zero
  · rw [hplan] at hstatus ⊢
    cases htarget : (output <|> rulesets.user) with
    | none =>
      rw [htarget] at hstatus
      exact absurd hstatus Nat.one_ne_zero
    | some target =>
      cases happlied : proposed.applyPatch with
      | none =>
        simp only [patchPlan, htarget, happlied] at hstatus
        exact absurd hstatus Nat.one_ne_zero
      | some applied =>
        have hsteps : patchPlan patch proposed true (some target) = .ofSteps
            [.print patch.toJson.renderPretty, .write target applied.user.toText,
              .print ("Wrote '".toList ++ target ++ "'".toList)] := by
          simp only [patchPlan, happlied]
          rfl
        rw [htarget, hsteps] at hstatus
        rw [hsteps]
        exact ⟨⟨target, list, loaded, patch, proposed, applied, htarget, hlist, hloaded, hproposed, happlied⟩,
          Plan.write_of_status hstatus⟩

/-- A patch that is proposed waits in the engine. It is for the lines that stand against the search result,
and adds the lines given, or else what the engine suggests. -/
theorem of_proposePatch {e e' : Engine} {patch : Patch}
    (h : proposePatch e props wholeSite rules = .ok (patch, e')) :
    e' = { e with pending := some ⟨patch, (e.planPatch props).2.1.map (·.line)⟩ }
      ∧ patch.rulesToAdd = rules.getD (e.newPatch props wholeSite).patch.rulesToAdd := by
  have hpending : (e.createPatch props wholeSite).2.pending = some (e.newPatch props wholeSite) := rfl
  cases rules with
  | none =>
    obtain ⟨rfl, rfl⟩ := Prod.mk.inj (Except.ok.inj h)
    exact ⟨rfl, rfl⟩
  | some text =>
    unfold proposePatch at h
    dsimp only at h
    split at h
    · next patch e₂ hmodify =>
      obtain ⟨rfl, rfl⟩ := Prod.mk.inj (Except.ok.inj h)
      rw [Engine.modifyPatch_of_pending hpending] at hmodify
      split at hmodify
      · obtain ⟨hpatch, hengine⟩ := Prod.mk.inj hmodify
        rw [← hengine, ← Engine.Modification.accepted.inj hpatch]
        exact ⟨rfl, rfl⟩
      · exact nomatch hmodify
    · exact nomatch h

namespace AppliedPatch

variable {read : Path → Reading} (run : AppliedPatch read suffixes rulesets props wholeSite rules output)

theorem applied_eq_carryOut :
    run.applied = run.loaded.carryOut ((run.loaded.planPatch props).2.1.map (·.line)) run.patch.rulesToAdd := by
  obtain ⟨hengine, -⟩ := of_proposePatch run.proposed_eq
  have happlied := run.applied_eq
  rw [hengine] at happlied
  exact (Option.some.inj ((Engine.applyPatch_eq rfl).symm.trans happlied)).symm

/-- Without other lines a patch adds nothing or the rule suggested. -/
theorem suggestedRule_of_rulesToAdd (hrules : rules = none) (hne : run.patch.rulesToAdd ≠ []) :
    ∃ unblock, suggestedRule run.loaded.suffixes props.url unblock wholeSite = some run.patch.rulesToAdd := by
  obtain ⟨-, hadd⟩ := of_proposePatch run.proposed_eq
  subst hrules
  refine ⟨(run.loaded.planPatch props).1, ?_⟩
  have hnew : run.patch.rulesToAdd = ((if (run.loaded.planPatch props).2.2 then
      suggestedRule run.loaded.suffixes props.url (run.loaded.planPatch props).1 wholeSite else none).getD []) :=
    hadd
  rw [hnew] at hne ⊢
  split at hne
  · next hneeds =>
    rw [if_pos hneeds]
    cases hrule : suggestedRule run.loaded.suffixes props.url (run.loaded.planPatch props).1 wholeSite with
    | none => exact absurd (by rw [hrule]; rfl) hne
    | some line => rfl
  · exact absurd rfl hne

/-- With the suggested rule at its end a text stores no ruleset. -/
theorem load?_toText_eq_none (hrules : rules = none) (hne : run.patch.rulesToAdd ≠ []) :
    Ruleset.load? run.applied.user.toText = none := by
  obtain ⟨unblock, hrule⟩ := run.suggestedRule_of_rulesToAdd hrules hne
  have hlines : run.applied.user.lines.map (·.2)
      = (run.loaded.user.lines.filter fun x =>
          !((run.loaded.planPatch props).2.1.map (·.line)).contains x.1).map (·.2)
        ++ [run.patch.rulesToAdd] := by
    rw [run.applied_eq_carryOut, Engine.lines_carryOut, splitLines_suggestedRule hrule, List.map_append,
      map_snd_numbered]
  have hlast : run.applied.user.toText.getLast? = some '*' := by
    rw [Ruleset.toText, hlines, Text.getLast?_join_concat hne, getLast?_suggestedRule hrule]
  exact Ruleset.load?_eq_none hlast (by decide) (by decide) (by decide)

/-- The file that was written can be read, and with the same rulesets followed it decides as the ruleset that
was written. -/
def ReadsBack (after : FileTree) : Prop :=
  ∃ r, loadRuleset after.read run.target = .ok r
    ∧ (Engine.ofRulesets r run.applied.subscriptions run.list).decide props = run.applied.decide props

/-- A ruleset in the place of the user's decides by its votes. -/
theorem decide_ofRulesets (r : Ruleset) :
    (Engine.ofRulesets r run.applied.subscriptions run.list).decide props
      = outcome ((r.query props).map (·.specifier)) (run.applied.subscribedDecision props) :=
  Engine.decide_eq _ _

theorem readsBack_iff_of_not_looksStored {after : FileTree}
    (hread : after.read run.target = .text run.applied.user.toText)
    (hlooks : looksStored run.target run.applied.user.toText = false) :
    run.ReadsBack after
      ↔ outcome (((Ruleset.ofText run.applied.user.toText).query props).map (·.specifier))
          (run.applied.subscribedDecision props) = run.applied.decide props := by
  have hload := loadRuleset_of_text hread
  rw [hlooks, if_neg Bool.false_ne_true] at hload
  rw [← run.decide_ofRulesets]
  constructor
  · rintro ⟨r, hr, hdecide⟩
    rw [hload] at hr
    obtain rfl := Except.ok.inj hr
    exact hdecide
  · exact fun hdecide => ⟨_, hload, hdecide⟩

theorem readsBack_iff_of_looksStored {after : FileTree}
    (hread : after.read run.target = .text run.applied.user.toText)
    (hlooks : looksStored run.target run.applied.user.toText = true) :
    run.ReadsBack after
      ↔ ∃ r, Ruleset.load? run.applied.user.toText = some r
        ∧ outcome ((r.query props).map (·.specifier)) (run.applied.subscribedDecision props)
          = run.applied.decide props := by
  have hload := loadRuleset_of_text hread
  rw [hlooks, if_pos rfl] at hload
  unfold ReadsBack
  simp only [run.decide_ofRulesets, hload]
  refine exists_congr fun r => and_congr_left fun _ => ?_
  cases Ruleset.load? run.applied.user.toText with
  | none => simp
  | some r' => simp

/-- A ruleset that rules were read from: with a header it reads back, and without one it does unless the lines
that now look like a header tip the decision. -/
theorem readsBack_iff_of_ofText {after : FileTree} {content : Text}
    (hread : after.read run.target = .text run.applied.user.toText)
    (hlooks : looksStored run.target run.applied.user.toText = false)
    (hloaded : run.loaded.user = .ofText content) :
    run.ReadsBack after
      ↔ 0 < (Header.ofLines (splitLines content)).size
        ∨ outcome (((Ruleset.ofText run.applied.user.toText).query props).map (·.specifier))
            (run.applied.subscribedDecision props)
          = outcome (votes (splitLines run.applied.user.toText) props)
            (run.applied.subscribedDecision props) := by
  rw [run.readsBack_iff_of_not_looksStored hread hlooks, Engine.decide_eq]
  rcases Nat.eq_zero_or_pos (Header.ofLines (splitLines content)).size with hzero | hpos
  · have hvotes := Engine.votes_splitLines_toText_carryOut hloaded
      ((run.loaded.planPatch props).2.1.map (·.line)) run.patch.rulesToAdd hzero props
    rw [← run.applied_eq_carryOut] at hvotes
    rw [hvotes, hzero, or_iff_right (Nat.lt_irrefl 0)]
  · have hvotes := Engine.votes_toText_carryOut hloaded run.patch.rulesToAdd hpos props
    dsimp only at hvotes
    rw [← run.applied_eq_carryOut] at hvotes
    exact iff_of_true (by rw [hvotes]) (Or.inl hpos)

end AppliedPatch

/-- A command that applies a patch and does not fail writes the text of a ruleset. If the file looks as if it
held a stored ruleset it reads back only where the text happens to store one that decides alike, and never
where the patch adds the rule suggested. Otherwise it reads back just if the lines below the header that the
text begins with decide alike; for a ruleset that rules were read from this is so if it had a header, or
else if the lines that now look like one do not tip the decision. -/
theorem patch_readsBack_iff
    (hargs : Request.ofArgs args = .run suffixes (.patch rulesets props wholeSite rules true output))
    (hstatus : (runArgs files args).status = 0) :
    ∃ run : AppliedPatch files.read suffixes rulesets props wholeSite rules output,
      let after := (runArgs files args).files
      let text := run.applied.user.toText
      let other := run.applied.subscribedDecision props
      let below := votes ((splitLines text).drop (Header.ofLines (splitLines text)).size) props
      after.read run.target = .text text
        ∧ (looksStored run.target text = true →
          (run.ReadsBack after ↔ ∃ r, Ruleset.load? text = some r
              ∧ outcome ((r.query props).map (·.specifier)) other = run.applied.decide props)
            ∧ (rules = none → run.patch.rulesToAdd ≠ [] →
              loadRuleset after.read run.target = .error (.notStored run.target)))
        ∧ (looksStored run.target text = false →
          (run.ReadsBack after ↔ outcome below other = run.applied.decide props)
            ∧ ∀ content, run.loaded.user = .ofText content →
              (run.ReadsBack after ↔ 0 < (Header.ofLines (splitLines content)).size
                ∨ outcome below other = outcome (votes (splitLines text) props) other)) := by
  obtain ⟨run, hwrite⟩ := exists_appliedPatch hargs hstatus
  have hread := FileTree.read_write hwrite
  refine ⟨run, ?_⟩
  intro after text other below
  have hbelow : ((Ruleset.ofText text).query props).map (·.specifier) = below := Ruleset.votes_ofText text props
  refine ⟨hread, fun hlooks => ⟨run.readsBack_iff_of_looksStored hread hlooks, fun hrules hne => ?_⟩,
    fun hlooks => ⟨?_, fun content hloaded => ?_⟩⟩
  · have hload := loadRuleset_of_text hread
    rwa [hlooks, if_pos rfl, run.load?_toText_eq_none hrules hne] at hload
  · rw [← hbelow]
    exact run.readsBack_iff_of_not_looksStored hread hlooks
  · rw [← hbelow]
    exact run.readsBack_iff_of_ofText hread hlooks hloaded

end

/-- A rule that leaves a result alone goes from below a header, and the suggested one comes. -/
theorem patch_readsBack_iff_example :
    let path := "rules.txt".toList
    let files := FileTree.ofList [(path, "---\nname: Mine\n---\n@*://example.com/*".toList)]
    let args := ["patch", "--apply", "-u", "rules.txt", "--url", "https://example.com/"].map String.toList
    let props := [("url".toList, "https://example.com/".toList)]
    ∃ run : AppliedPatch files.read none ⟨some path, []⟩ props false none none,
      run.target = path
        ∧ (runArgs files args).files.read path = .text "---\nname: Mine\n---\n*://example.com/*".toList
        ∧ run.ReadsBack (runArgs files args).files := by
  intro path files args props
  have hargs : Request.ofArgs args = .run none (.patch ⟨some path, []⟩ props false none true none) := by
    decide +kernel
  have hstatus : (runArgs files args).status = 0 := by decide +kernel
  have hafter : (runArgs files args).files.read path
      = .text "---\nname: Mine\n---\n*://example.com/*".toList := by decide +kernel
  obtain ⟨run, hwritten, -, hplain⟩ := patch_readsBack_iff hargs hstatus
  have htarget : run.target = path := (Option.some.inj run.target_eq).symm
  have htext : run.applied.user.toText = "---\nname: Mine\n---\n*://example.com/*".toList := by
    rw [htarget, hafter] at hwritten
    exact (Reading.text.inj hwritten).symm
  obtain ⟨-, hheader⟩ := hplain (by rw [htarget, htext]; decide +kernel)
  have hloaded : run.loaded.user = .ofText "---\nname: Mine\n---\n@*://example.com/*".toList :=
    user_of_loadEngine rfl (by decide +kernel) (by decide +kernel) run.loaded_eq
  exact ⟨run, htarget, hafter, (hheader _ hloaded).mpr (Or.inl (by decide +kernel))⟩

/-- A stored ruleset is overwritten with rules and is not read again. Where a rule above two delimiters is
deleted, the rule between them is taken for a header: the result is blocked before the file is written and
not when it is read again. -/
theorem patch_readsBack_counterexample :
    let args := fun file =>
      ["patch", "--apply", "-u", file, "--url", "https://example.com/"].map String.toList
    let props := [("url".toList, "https://example.com/".toList)]
    let stored := FileTree.ofList [("rules.json".toList, (Ruleset.ofText []).store)]
    let plain := FileTree.ofList
      [("rules.txt".toList, "@*://example.com/*\n---\n*://example.com/*\n---".toList)]
    let written := (runArgs stored (args "rules.json")).files
    let rewritten := (runArgs plain (args "rules.txt")).files
    (runArgs stored (args "rules.json")).status = 0
      ∧ written.toList = [("rules.json".toList, "*://example.com/*".toList)]
      ∧ (loadRuleset written.read "rules.json".toList).toOption.isNone = true
      ∧ (runArgs plain (args "rules.txt")).status = 0
      ∧ rewritten.toList = [("rules.txt".toList, "---\n*://example.com/*\n---".toList)]
      ∧ ((loadEngine plain.read none ⟨some "rules.txt".toList, []⟩).toOption.bind fun e =>
          (e.createPatch props false).2.applyPatch).map (·.decide props) = some (some .block)
      ∧ (loadEngine rewritten.read none ⟨some "rules.txt".toList, []⟩).toOption.map (·.decide props)
        = some none := by
  decide +kernel

end Cli

end ResultFilter
