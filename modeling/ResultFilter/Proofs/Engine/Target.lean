import Mathlib.Data.List.TakeWhile
import ResultFilter.Proofs.Engine.Suggestion
import ResultFilter.Proofs.Host.Labels
import ResultFilter.Proofs.Pattern
import ResultFilter.Proofs.RuleIndex.Compiled

/-!
# What the suggested rule covers

The host of an address is put into a line as it is, and is read again as the host of a pattern. A star in it
then stands for other hosts, and a host that is read as another is not covered any more. The rule covers
its host alone, or its registrable domain alone, wherever neither happens.

## Main definitions

* `HitsExactly` — a line covers an address, and just the addresses of the web with labels as told.

## Main results

* `Rule.ofLine_anywhere` — a line around a host is a rule just if the host is one of a pattern.
* `HitsExactly.fires_iff` — such a rule fires on the search results of these addresses.
* `suggestedRule_hits_iff` — when the suggested rule covers what it is for, and nothing else.
-/

namespace ResultFilter

open ResultFilter.Text

/-! ### A pattern around a host -/

/-- The text of a pattern around a host, with any scheme and any path. -/
def MatchPattern.anywhere (host : Text) : Text :=
  "*://".toList ++ host ++ anyPath

theorem MatchPattern.ofText_anywhere {host : Text} (hslash : '/' ∉ host) :
    ofText (anywhere host) = match HostPattern.ofText? host with
      | some p => .ok (.url anyScheme p anyPath)
      | none => .error (.invalidPattern (anywhere host)) :=
  ofText_append (show isSchemePattern anyScheme = true from rfl) hslash (show anyPath.head? = some '/' from rfl)

theorem MatchPattern.isMatch_anywhere (p : HostPattern) (v : Url) :
    (MatchPattern.url anyScheme p anyPath).isMatch v = (v.isWeb && p.covers v.host) := by
  cases hweb : v.isWeb with
  | false => rw [isMatch, hweb, Bool.false_and, Bool.false_and]
  | true =>
    have hscheme : schemeMatches anyScheme v.scheme = true := hweb
    rw [isMatch, hweb, hscheme]
    rfl

namespace Rule

/-- The specifier of a rule that leaves results alone, or of one that blocks them. -/
def sideOf (unblock : Bool) : Option Specifier :=
  if unblock then some .negate else none

theorem not_isBlank_of_mem_anywhere {host : Text} (hhost : ∀ c ∈ host, Host.isSpelling c = true) :
    ∀ c ∈ MatchPattern.anywhere host, (!isBlank c) = true := by
  have hspelling {c : Char} (hc : Host.isSpelling c = true) : (!isBlank c) = true := by
    have := Host.forall_ascii (p := fun c => !Host.isSpelling c || !isBlank c) (by decide)
      (Host.toNat_lt_of_isSpelling hc)
    rwa [hc, Bool.not_true, Bool.false_or] at this
  intro c hc
  rcases List.mem_append.mp hc with hc | hc
  · rcases List.mem_append.mp hc with hc | hc
    · have hall : ("*://".toList.all (!isBlank ·)) = true := rfl
      exact List.all_eq_true.mp hall c hc
    · exact hspelling (hhost c hc)
  · have hall : (anyPath.all (!isBlank ·)) = true := rfl
    exact List.all_eq_true.mp hall c hc

/-- A pattern around a host is read as the body of a rule, up to the end of the line. -/
theorem readBody_anywhere {host : Text} (hhost : ∀ c ∈ host, Host.isSpelling c = true) (width : Nat) :
    readBody width (MatchPattern.anywhere host)
      = match HostPattern.ofText? host with
        | some p => .ok (.pattern (.url anyScheme p anyPath) none, [])
        | none => .error (.pattern (.invalidPattern (MatchPattern.anywhere host))) := by
  have hword : (MatchPattern.anywhere host).takeWhile (!isBlank ·) = MatchPattern.anywhere host :=
    List.takeWhile_eq_self_iff.mpr (not_isBlank_of_mem_anywhere hhost)
  have hrest : (MatchPattern.anywhere host).dropWhile (!isBlank ·) = [] :=
    List.dropWhile_eq_nil_iff.mpr (not_isBlank_of_mem_anywhere hhost)
  have hlooks : looksLikePattern (MatchPattern.anywhere host) = true := rfl
  have hslash : '/' ∉ host := fun h => absurd (hhost _ h) (by decide)
  rw [readBody]
  dsimp only
  rw [hword, hrest, hlooks, if_pos rfl, MatchPattern.ofText_anywhere hslash]
  cases HostPattern.ofText? host with
  | some p => rfl
  | none => rfl

section Line

variable {line rest cs : Text} {c : Char} {specifier : Option Specifier}

/-- A line is a rule if its body reaches to its end. -/
theorem ofLine_of_readBody_ok (hstart : trimStart line = c :: cs) (hc : c ≠ '#')
    (hspecifier : readSpecifier (c :: cs) = .ok (specifier, rest)) {body : RuleBody}
    (hbody : readBody line.length (trimStart rest) = .ok (body, [])) :
    ofLine line = .ok (some ⟨specifier, body⟩) :=
  ofLine_eq_some_iff.mpr ⟨c, cs, rest, body, [], hstart, hc, hspecifier, hbody, .plain rfl rfl⟩

/-- A line is no rule if its body cannot be read. -/
theorem ofLine_of_readBody_error (hstart : trimStart line = c :: cs) (hc : c ≠ '#')
    (hspecifier : readSpecifier (c :: cs) = .ok (specifier, rest)) {e : SyntaxError}
    (hbody : readBody line.length (trimStart rest) = .error e) : ofLine line = .error e := by
  unfold ofLine
  dsimp only
  rw [hstart]
  split
  · next h => exact absurd h (List.cons_ne_nil _ _)
  · next h => exact absurd (List.cons.inj h).1 hc
  · rw [hspecifier]
    simp only [bind, Except.bind]
    rw [hbody]

end Line

/-- A line around a host is a rule just if the host is one of a pattern. -/
theorem ofLine_anywhere {host : Text} (hhost : ∀ c ∈ host, Host.isSpelling c = true) (unblock : Bool) :
    ofLine ((if unblock then ['@'] else []) ++ MatchPattern.anywhere host)
      = match HostPattern.ofText? host with
        | some p => .ok (some ⟨sideOf unblock, .pattern (.url anyScheme p anyPath) none⟩)
        | none => .error (.pattern (.invalidPattern (MatchPattern.anywhere host))) := by
  obtain ⟨c, cs, hstart, hc, hspecifier⟩ : ∃ c cs,
      trimStart ((if unblock then ['@'] else []) ++ MatchPattern.anywhere host) = c :: cs ∧ c ≠ '#'
        ∧ readSpecifier (c :: cs) = .ok (sideOf unblock, MatchPattern.anywhere host) := by
    cases unblock with
    | true => exact ⟨'@', MatchPattern.anywhere host, rfl, by decide, rfl⟩
    | false => exact ⟨'*', "://".toList ++ host ++ anyPath, rfl, by decide, rfl⟩
  have hbody := readBody_anywhere hhost ((if unblock then ['@'] else []) ++ MatchPattern.anywhere host).length
  cases hp : HostPattern.ofText? host with
  | some p =>
    rw [hp] at hbody
    exact ofLine_of_readBody_ok hstart hc hspecifier hbody
  | none =>
    rw [hp] at hbody
    exact ofLine_of_readBody_error hstart hc hspecifier hbody

end Rule

/-! ### What a line covers -/

/-- A line is a rule without a guard, of the side asked for, that covers an address, and that covers just
the addresses of the web with labels as told. -/
def HitsExactly (line : Text) (unblock : Bool) (u : Url) (target : List Text → Prop) : Prop :=
  ∃ p : MatchPattern, Rule.ofLine line = .ok (some ⟨Rule.sideOf unblock, .pattern p none⟩)
    ∧ p.isMatch u = true
    ∧ ∀ v : Url, p.isMatch v = true ↔ v.isWeb = true ∧ target (Host.reversedLabels v.host)

/-- A pattern that covers an address is one that an index takes. -/
theorem MatchPattern.isServed_of_isMatch {p : MatchPattern} {v : Url} (h : p.isMatch v = true) :
    p.isServed = true := by
  cases p with
  | allUrls => rfl
  | url scheme host path =>
    simp only [isMatch, Bool.and_eq_true] at h
    obtain ⟨hweb, ⟨hscheme, -⟩, -⟩ := h
    unfold schemeMatches at hscheme
    rw [isServed, Bool.or_eq_true]
    split at hscheme
    · next hany => exact Or.inl hany
    · rw [eq_of_beq hscheme]
      exact Or.inr hweb

/-- Such a rule fires on the search results of these addresses. -/
theorem HitsExactly.fires_iff {line : Text} {unblock : Bool} {u : Url} {target : List Text → Prop}
    (h : HitsExactly line unblock u target) {rule : Rule} (hrule : Rule.ofLine line = .ok (some rule))
    (props : Props) :
    rule.body.fires props = true
      ↔ ∃ v, Url.ofText? props.url = some v ∧ v.isWeb = true ∧ target (Host.reversedLabels v.host) := by
  obtain ⟨p, hline, hmatch, hiff⟩ := h
  obtain rfl : _ = rule := Option.some.inj (Except.ok.inj (hline.symm.trans hrule))
  rw [RuleBody.fires, MatchPattern.isServed_of_isMatch hmatch, Bool.true_and, Option.all_none, Bool.and_true,
    Option.any_eq_true]
  simp only [hiff]

section Around

variable {host : Text} (hhost : ∀ c ∈ host, Host.isSpelling c = true) {unblock : Bool} {u : Url}
  {target : List Text → Prop}

include hhost

theorem hitsExactly_iff {p : HostPattern} (hp : HostPattern.ofText? host = some p) (hweb : u.isWeb = true) :
    HitsExactly ((if unblock then ['@'] else []) ++ MatchPattern.anywhere host) unblock u target
      ↔ p.covers u.host = true ∧ ∀ other : Text, p.covers other = true ↔ target (Host.reversedLabels other) := by
  have hline := Rule.ofLine_anywhere hhost unblock
  rw [hp] at hline
  constructor
  · -- the pattern asks only for the host, so any host can be put in the place of the one of the address
    rintro ⟨q, hq, hmatch, hiff⟩
    rw [hline] at hq
    obtain rfl : MatchPattern.url anyScheme p anyPath = q := by simpa using hq
    simp only [MatchPattern.isMatch_anywhere, Bool.and_eq_true] at hmatch hiff
    refine ⟨hmatch.2, fun other => ?_⟩
    have hother : Url.isWeb { u with host := other } = true := hweb
    simpa only [hother, true_and] using hiff { u with host := other }
  · rintro ⟨hcovers, hiff⟩
    refine ⟨_, hline, ?_, fun v => ?_⟩
    · rw [MatchPattern.isMatch_anywhere, hweb, hcovers]
      rfl
    · rw [MatchPattern.isMatch_anywhere, Bool.and_eq_true, hiff]

theorem not_hitsExactly (hp : HostPattern.ofText? host = none) :
    ¬ HitsExactly ((if unblock then ['@'] else []) ++ MatchPattern.anywhere host) unblock u target := by
  rintro ⟨q, hq, -⟩
  rw [Rule.ofLine_anywhere hhost, hp] at hq
  exact absurd hq (by simp)

end Around

/-! ### The host alone -/

section Line

variable {u : Url} (hweb : u.isWeb = true) {unblock : Bool}

include hweb

/-- The line around a host covers the host alone just if the host has no star and is read with its
labels. -/
theorem hitsExactly_host_iff (hhost : ∀ c ∈ u.host, Host.isSpelling c = true) (hne : u.host ≠ []) :
    HitsExactly ((if unblock then ['@'] else []) ++ MatchPattern.anywhere u.host) unblock u
        (· = Host.reversedLabels u.host)
      ↔ '*' ∉ u.host ∧ Host.KeepsLabels u.host := by
  by_cases hstar : '*' ∈ u.host
  · -- with a star the line is no rule, or one for the hosts below as well
    refine iff_of_false (fun h => ?_) fun h => h.1 hstar
    cases hp : HostPattern.ofText? u.host with
    | none => exact not_hitsExactly hhost hp h
    | some p =>
      have hwild := HostPattern.isWildcard_of_mem hstar hp
      obtain ⟨hcovers, hiff⟩ := (hitsExactly_iff hhost hp hweb).mp h
      rw [HostPattern.covers_iff_of_isWildcard hwild] at hcovers
      have hlabel : Host.reversedLabels ['a'] = [['a']] := Host.reversedLabels_of_not_mem (by decide) (by decide)
      have hbelow := hiff (['a'] ++ '.' :: u.host)
      rw [HostPattern.covers_iff_of_isWildcard hwild, Host.reversedLabels_append, hlabel] at hbelow
      have hsame := hbelow.mp (hcovers.trans (List.prefix_append _ _))
      exact absurd (List.append_right_eq_self.mp hsame) (List.cons_ne_nil _ _)
  · rw [and_iff_right hstar]
    have hread := HostPattern.ofText?_of_not_mem hstar
    rw [HostPattern.normalize?_of_not_mem hstar hne] at hread
    cases hh : Host.ofText? u.host with
    | none =>
      rw [hh] at hread
      exact iff_of_false (not_hitsExactly hhost hread) (Host.not_keepsLabels hh)
    | some h =>
      rw [hh] at hread
      rw [hitsExactly_iff hhost hread hweb, Host.keepsLabels_iff hh]
      simp only [HostPattern.covers_exact_iff]
      constructor
      · exact And.left
      · intro hlabels
        exact ⟨hlabels, fun other => by rw [hlabels, eq_comm]⟩

/-- The line around all hosts of a domain covers these alone just if the domain has no star and is read with
its labels, and its labels end those of the host. -/
theorem hitsExactly_domain_iff {domain : Text} (hdomain : ∀ c ∈ domain, Host.isSpelling c = true) :
    HitsExactly ((if unblock then ['@'] else []) ++ MatchPattern.anywhere ('*' :: '.' :: domain)) unblock u
        (Host.reversedLabels domain <+: ·)
      ↔ '*' ∉ domain ∧ Host.KeepsLabels domain ∧ Host.reversedLabels domain <+: Host.reversedLabels u.host := by
  have hhost : ∀ c ∈ '*' :: '.' :: domain, Host.isSpelling c = true := by
    simpa using ⟨rfl, rfl, hdomain⟩
  have hread : HostPattern.ofText? ('*' :: '.' :: domain) = (HostPattern.normalize? domain).map .subdomains := rfl
  by_cases hstar : '*' ∈ domain
  · have hrefused : HostPattern.normalize? domain = none := if_pos (by simpa using Or.inr hstar)
    rw [hrefused] at hread
    exact iff_of_false (not_hitsExactly hhost hread) fun h => h.1 hstar
  rw [and_iff_right hstar]
  rcases eq_or_ne domain [] with rfl | hne
  · exact iff_of_false (not_hitsExactly hhost hread) fun h => Host.not_keepsLabels Host.ofText?_nil h.1
  rw [HostPattern.normalize?_of_not_mem hstar hne] at hread
  cases hh : Host.ofText? domain with
  | none =>
    rw [hh] at hread
    exact iff_of_false (not_hitsExactly hhost hread) fun h => Host.not_keepsLabels hh h.1
  | some h =>
    rw [hh] at hread
    rw [hitsExactly_iff hhost hread hweb, Host.keepsLabels_iff hh]
    have hcovers (other : Text) : (HostPattern.subdomains h.render).covers other = true
        ↔ Host.reversedLabels h.render <+: Host.reversedLabels other :=
      HostPattern.covers_iff_of_isWildcard rfl
    simp only [hcovers]
    constructor
    · -- each of the two domains is covered, so their labels are the same
      rintro ⟨hu, hiff⟩
      have hsame : Host.reversedLabels h.render = Host.reversedLabels domain :=
        ((hiff domain).mpr List.prefix_rfl).eq_of_length_le ((hiff h.render).mp List.prefix_rfl).length_le
      exact ⟨hsame, hsame ▸ hu⟩
    · rintro ⟨hlabels, hu⟩
      rw [hlabels]
      exact ⟨hu, fun other => Iff.rfl⟩

end Line

/-! ### The suggested rule -/

theorem suggestedRule_eq {text : Text} {u : Url} (hu : Url.ofText? text = some u) (hne : u.host ≠ [])
    (suffixes : Option SuffixList) (unblock widen : Bool) :
    suggestedRule suffixes text unblock widen = some ((if unblock then ['@'] else [])
      ++ MatchPattern.anywhere (if widen && !Host.isAddress u.host
          then '*' :: '.' :: registrableDomain suffixes u.host else u.host)) := by
  unfold suggestedRule
  rw [hu]
  dsimp only
  rw [if_neg (by simpa using hne), MatchPattern.anywhere]
  simp only [List.append_assoc]

/-- The suggested rule for an address of the web is a rule of the side asked for that fires on the address
and on no host but its own, unless the host has a star in it or is read again with other labels; the second
happens at most where it has capital letters or a label in punycode. The wider rule covers just the hosts of
the registrable domain, unless the domain has a star in it, is read again with other labels or does not end
the host; this happens at most for hosts like those, or for hosts that end in dots. -/
theorem suggestedRule_hits_iff {text : Text} {u : Url} (hu : Url.ofText? text = some u)
    (hweb : u.isWeb = true) (suffixes : Option SuffixList) (unblock : Bool) :
    (∃ line, suggestedRule suffixes text unblock false = some line
      ∧ (HitsExactly line unblock u (· = Host.reversedLabels u.host)
        ↔ '*' ∉ u.host ∧ (Host.isOrdinary u.host = false → Host.KeepsLabels u.host)))
    ∧ (Host.isAddress u.host = false → ∃ line, suggestedRule suffixes text unblock true = some line
      ∧ (HitsExactly line unblock u (Host.reversedLabels (registrableDomain suffixes u.host) <+: ·)
        ↔ '*' ∉ registrableDomain suffixes u.host
          ∧ (Host.isOrdinary u.host = false ∨ Host.endsInDots u.host = true →
              Host.KeepsLabels (registrableDomain suffixes u.host)
                ∧ Host.reversedLabels (registrableDomain suffixes u.host) <+: Host.reversedLabels u.host))) := by
  obtain ⟨cs, read, hread, hrender⟩ := Url.exists_host_of_isWeb hu hweb
  have hhost : ∀ c ∈ u.host, Host.isSpelling c = true := fun c => Url.isSpelling_of_mem_host hu
  have hne : u.host ≠ [] := hrender ▸ Host.render_ne_nil hread
  constructor
  · refine ⟨_, suggestedRule_eq hu hne suffixes unblock false, ?_⟩
    rw [Bool.false_and, if_neg Bool.false_ne_true, hitsExactly_host_iff hweb hhost hne]
    refine and_congr_right fun _ => ⟨fun hkeeps _ => hkeeps, fun hkeeps => ?_⟩
    cases hord : Host.isOrdinary u.host with
    | false => exact hkeeps hord
    | true =>
      rw [hrender] at hord ⊢
      exact Host.keepsLabels_of_isOrdinary hread hord
  · intro haddress
    have hdomain : ∀ c ∈ registrableDomain suffixes u.host, Host.isSpelling c = true := fun c =>
      isSpelling_of_mem_registrableDomain suffixes hhost
    refine ⟨_, suggestedRule_eq hu hne suffixes unblock true, ?_⟩
    rw [haddress, Bool.not_false, Bool.and_self, if_pos rfl, hitsExactly_domain_iff hweb hdomain]
    refine and_congr_right fun _ => ⟨fun hkeeps _ => hkeeps, fun hkeeps => ?_⟩
    by_cases hunusual : Host.isOrdinary u.host = false ∨ Host.endsInDots u.host = true
    · exact hkeeps hunusual
    · -- the host is no address, so it is a name, and its domain is read as it is written
      rw [not_or, Bool.not_eq_false, Bool.not_eq_true] at hunusual
      obtain ⟨name, rfl⟩ := Host.exists_name_of_not_isAddress hread (hrender ▸ haddress)
      obtain ⟨hname, -, hnumber⟩ := Host.name_of_ofText? hread
      rw [show u.host = name from hrender] at hne hunusual ⊢
      exact keepsLabels_registrableDomain suffixes hname hunusual.1 hne hnumber hunusual.2

theorem suggestedRule_hits_iff_example :
    Url.ofText? "https://www.example.co.uk/news".toList
        = some ⟨"https".toList, "www.example.co.uk".toList, "/news".toList⟩
      ∧ (∃ line, suggestedRule none "https://www.example.co.uk/news".toList true false = some line
        ∧ HitsExactly line true ⟨"https".toList, "www.example.co.uk".toList, "/news".toList⟩
            (· = ["uk".toList, "co".toList, "example".toList, "www".toList]))
      ∧ ∃ line, suggestedRule none "https://www.example.co.uk/news".toList true true = some line
        ∧ HitsExactly line true ⟨"https".toList, "www.example.co.uk".toList, "/news".toList⟩
            (["uk".toList, "co".toList, "example".toList] <+: ·) := by
  have hu : Url.ofText? "https://www.example.co.uk/news".toList
      = some ⟨"https".toList, "www.example.co.uk".toList, "/news".toList⟩ := by decide +kernel
  have hord : Host.isOrdinary "www.example.co.uk".toList = true := by decide +kernel
  have hdots : Host.endsInDots "www.example.co.uk".toList = false := by decide +kernel
  obtain ⟨⟨line, hline, hnarrow⟩, hwide⟩ := suggestedRule_hits_iff hu (by decide +kernel) none true
  obtain ⟨wide, hwide, hdomain⟩ := hwide (by decide +kernel)
  refine ⟨hu, ⟨line, hline, hnarrow.mpr ⟨by decide +kernel, fun h => ?_⟩⟩,
    ⟨wide, hwide, hdomain.mpr ⟨by decide +kernel, fun h => ?_⟩⟩⟩
  · exact absurd (hord.symm.trans h) (by decide)
  · rcases h with h | h
    · exact absurd (hord.symm.trans h) (by decide)
    · exact absurd (hdots.symm.trans h) (by decide)

/-- A host may begin with a star and a dot: the rule for it fires on the hosts of the whole domain. -/
theorem suggestedRule_star_counterexample :
    let text := "http://*.example.com/".toList
    let other := "http://www.example.com/".toList
    ∃ u v line rule, Url.ofText? text = some u ∧ u.isWeb = true
      ∧ Url.ofText? other = some v ∧ Host.reversedLabels v.host ≠ Host.reversedLabels u.host
      ∧ suggestedRule none text false false = some line ∧ Rule.ofLine line = .ok (some rule)
      ∧ rule.body.fires [(Props.urlName, other)] = true
      ∧ ¬ HitsExactly line false u (· = Host.reversedLabels u.host) := by
  intro text other
  have hother : Url.ofText? other = some ⟨"http".toList, "www.example.com".toList, "/".toList⟩ := by
    decide +kernel
  have hline : Rule.ofLine "*://*.example.com/*".toList
      = .ok (some ⟨none, .pattern (.url anyScheme (.subdomains "example.com".toList) anyPath) none⟩) := by
    decide +kernel
  have hfires : (RuleBody.pattern (.url anyScheme (.subdomains "example.com".toList) anyPath) none).fires
      [(Props.urlName, other)] = true := by
    decide +kernel
  have hlabels : Host.reversedLabels "www.example.com".toList ≠ Host.reversedLabels "*.example.com".toList := by
    decide
  refine ⟨⟨"http".toList, "*.example.com".toList, "/".toList⟩, _, "*://*.example.com/*".toList, _,
    by decide +kernel, by decide, hother, hlabels, by decide +kernel, hline, hfires, fun h => ?_⟩
  obtain ⟨v, hv, -, hsame⟩ := (h.fires_iff hline [(Props.urlName, other)]).mp hfires
  obtain rfl := Option.some.inj (hother.symm.trans hv)
  exact hlabels hsame

end ResultFilter
