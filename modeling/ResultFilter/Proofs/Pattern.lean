import ResultFilter.Pattern
import ResultFilter.Proofs.Host.Reread

/-!
# Patterns that are written and read again

A pattern is a scheme, a host without a slash, and a path from the first slash on; this is how it is
written, too. The star is refused in a host before its percent signs and its characters beyond ASCII are
looked at. A star that comes out of these is written like any other, and means other hosts when it is read
again. No other pattern changes, unless its host has a label in punycode that does.

## Main definitions

* `MatchPattern.domain` — the host of a pattern without the star before it.

## Main results

* `MatchPattern.ofText_append`, `MatchPattern.parts_of_ofText` — what is read of the three parts, and that
  nothing else is read.
* `HostPattern.ofText?_render_iff` — when a host is read as it is written.
* `MatchPattern.ofText_render_iff` — when a pattern is.
-/

namespace ResultFilter

open ResultFilter.Text

/-! ### The host -/

namespace HostPattern

/-- A host with a star in it is one of a pattern only as a pattern for many hosts. -/
theorem isWildcard_of_mem {host : Text} {p : HostPattern} (hstar : '*' ∈ host) (hp : ofText? host = some p) :
    p.isWildcard = true := by
  unfold ofText? at hp
  split at hp
  · obtain rfl := Option.some.inj hp
    rfl
  · obtain ⟨domain, -, rfl⟩ := Option.map_eq_some_iff.mp hp
    rfl
  · have hrefused : normalize? host = none := if_pos (by simpa using Or.inr hstar)
    rw [hrefused] at hp
    exact absurd hp (by simp)

theorem normalize?_of_not_mem {host : Text} (hstar : '*' ∉ host) (hne : host ≠ []) :
    normalize? host = (Host.ofText? host).map Host.render :=
  if_neg (by simpa [hne] using hstar)

theorem ofText?_of_not_mem {host : Text} (hstar : '*' ∉ host) : ofText? host = (normalize? host).map .exact := by
  rw [ofText?]
  · rintro rfl
    exact hstar List.mem_cons_self
  · rintro domain rfl
    exact hstar List.mem_cons_self

theorem exists_host_of_normalize? {cs domain : Text} (h : normalize? cs = some domain) :
    '*' ∉ cs ∧ ∃ host, Host.ofText? cs = some host ∧ host.render = domain := by
  obtain ⟨hallowed, h⟩ := Option.ite_none_left_eq_some.mp h
  rw [Bool.not_eq_true, Bool.or_eq_false_iff, List.contains_eq_mem, decide_eq_false_iff_not] at hallowed
  exact ⟨hallowed.2, Option.map_eq_some_iff.mp h⟩

/-- A host in its one spelling is read as it is if it has no star, and if it is read as it is where it has
capital letters or a label in punycode. -/
theorem normalize?_eq_self_iff {cs domain : Text} (h : normalize? cs = some domain) :
    normalize? domain = some domain ↔ '*' ∉ domain
      ∧ (Host.isOrdinary domain = false → (Host.ofText? domain).map Host.render = some domain) := by
  obtain ⟨-, host, hread, hrender⟩ := exists_host_of_normalize? h
  have hne : domain ≠ [] := hrender ▸ Host.render_ne_nil hread
  constructor
  · intro hself
    obtain ⟨hstar, -⟩ := exists_host_of_normalize? hself
    rw [normalize?_of_not_mem hstar hne] at hself
    exact ⟨hstar, fun _ => hself⟩
  · rintro ⟨hstar, hother⟩
    rw [normalize?_of_not_mem hstar hne]
    cases hord : Host.isOrdinary domain with
    | false => exact hother hord
    | true =>
      rw [← hrender] at hord ⊢
      rw [Host.ofText?_render hread hord]
      rfl

theorem isSpelling_of_mem_domain {cs : Text} {p : HostPattern} (h : ofText? cs = some p) {c : Char}
    (hc : c ∈ p.domain) : Host.isSpelling c = true := by
  unfold ofText? at h
  split at h
  · obtain rfl := Option.some.inj h
    exact absurd hc List.not_mem_nil
  all_goals
    obtain ⟨domain, hdomain, rfl⟩ := Option.map_eq_some_iff.mp h
    obtain ⟨-, host, hread, rfl⟩ := exists_host_of_normalize? hdomain
    exact Host.isSpelling_of_mem_render hread hc

/-- The host of a pattern is written in the characters of a host, among which are the star and the dot. -/
theorem isSpelling_of_mem_render {cs : Text} {p : HostPattern} (h : ofText? cs = some p) {c : Char}
    (hc : c ∈ p.render) : Host.isSpelling c = true := by
  have hdomain := isSpelling_of_mem_domain h (c := c)
  cases p with
  | any =>
    obtain rfl := List.mem_singleton.mp hc
    rfl
  | subdomains domain =>
    rcases List.mem_cons.mp hc with rfl | hc
    · rfl
    rcases List.mem_cons.mp hc with rfl | hc
    · rfl
    · exact hdomain hc
  | exact host => exact hdomain hc

/-- The host of a pattern is read as it is written just if its domain is read as it is. -/
theorem ofText?_render_iff {cs : Text} {p : HostPattern} (h : ofText? cs = some p) :
    ofText? p.render = some p ↔ '*' ∉ p.domain
      ∧ (Host.isOrdinary p.domain = false → (Host.ofText? p.domain).map Host.render = some p.domain) := by
  unfold ofText? at h
  split at h
  · obtain rfl := Option.some.inj h
    exact iff_of_true rfl ⟨List.not_mem_nil, fun hord => absurd hord (by decide)⟩
  · obtain ⟨domain, hdomain, rfl⟩ := Option.map_eq_some_iff.mp h
    have hread : ofText? (render (.subdomains domain)) = (normalize? domain).map .subdomains := rfl
    refine Iff.trans ?_ (normalize?_eq_self_iff hdomain)
    rw [hread]
    simp [HostPattern.domain]
  · obtain ⟨host, hhost, rfl⟩ := Option.map_eq_some_iff.mp h
    refine Iff.trans ?_ (normalize?_eq_self_iff hhost)
    by_cases hstar : '*' ∈ host
    · -- the star is refused, or it stands for other hosts
      refine iff_of_false (fun hself => ?_) fun hself => (exists_host_of_normalize? hself).1 hstar
      exact absurd (isWildcard_of_mem hstar hself) Bool.false_ne_true
    · have hread : ofText? (render (.exact host)) = (normalize? host).map .exact := ofText?_of_not_mem hstar
      rw [hread]
      simp [HostPattern.domain]

end HostPattern

/-! ### The scheme -/

theorem Url.toNat_lt_of_isSchemeChar {c : Char} (h : isSchemeChar c = true) : c.toNat < 128 := by
  simp only [isSchemeChar, Bool.or_eq_true, beq_iff_eq] at h
  rcases h with ((h | rfl) | rfl) | rfl
  · exact Host.toNat_lt_of_isAlphanum h
  · decide
  · decide
  · decide

theorem isSchemePattern_cons {c : Char} {rest : Text} :
    isSchemePattern (c :: rest) = true
      ↔ c :: rest = anyScheme ∨ c.isAlpha = true ∧ rest.all Url.isSchemeChar = true := by
  unfold isSchemePattern
  rw [Bool.or_eq_true, beq_iff_eq, Bool.and_eq_true]

/-- A scheme is a star, or begins with a letter. -/
theorem exists_cons_of_isSchemePattern {scheme : Text} (h : isSchemePattern scheme = true) :
    scheme = anyScheme
      ∨ ∃ c rest, scheme = c :: rest ∧ c.isAlpha = true ∧ ∀ d ∈ scheme, Url.isSchemeChar d = true := by
  cases scheme with
  | nil => exact absurd h (by decide)
  | cons c rest =>
    refine (isSchemePattern_cons.mp h).imp_right fun ⟨hc, hrest⟩ => ⟨c, rest, rfl, hc, ?_⟩
    have hfirst : Url.isSchemeChar c = true := by simp [Url.isSchemeChar, Char.isAlphanum, hc]
    exact List.forall_mem_cons.mpr ⟨hfirst, List.all_eq_true.mp hrest⟩

/-- Neither a colon nor the mark of the pattern for all addresses stands in a scheme. -/
theorem not_mem_of_isSchemePattern {scheme : Text} (h : isSchemePattern scheme = true) :
    ':' ∉ scheme ∧ '<' ∉ scheme := by
  rcases exists_cons_of_isSchemePattern h with rfl | ⟨-, -, -, -, hall⟩
  · decide
  · exact ⟨fun hc => absurd (hall _ hc) (by decide), fun hc => absurd (hall _ hc) (by decide)⟩

/-- The small letters of a scheme are a scheme without capital letters. -/
theorem isSchemePattern_lowerAscii {scheme : Text} (h : isSchemePattern scheme = true) :
    isSchemePattern (lowerAscii scheme) = true ∧ lowerAscii (lowerAscii scheme) = lowerAscii scheme := by
  rcases exists_cons_of_isSchemePattern h with rfl | ⟨c, rest, rfl, hc, hall⟩
  · decide
  -- a scheme is in ASCII, so its characters can be tried one by one
  have hlower {d : Char} (hd : Url.isSchemeChar d = true) : Url.isSchemeChar d.toLower = true
      ∧ d.toLower.toLower = d.toLower ∧ d.toLower.isAlpha = d.isAlpha := by
    have := Host.forall_ascii (p := fun d => !Url.isSchemeChar d || decide (Url.isSchemeChar d.toLower = true
      ∧ d.toLower.toLower = d.toLower ∧ d.toLower.isAlpha = d.isAlpha)) (by decide)
      (Url.toNat_lt_of_isSchemeChar hd)
    rw [hd, Bool.not_true, Bool.false_or] at this
    exact of_decide_eq_true this
  constructor
  · obtain ⟨hfirst, hrest⟩ := List.forall_mem_cons.mp hall
    refine isSchemePattern_cons.mpr (Or.inr ⟨(hlower hfirst).2.2.trans hc, List.all_eq_true.mpr ?_⟩)
    intro d hd
    obtain ⟨e, he, rfl⟩ := List.mem_map.mp hd
    exact (hlower (hrest e he)).1
  · rw [Host.lowerAscii_eq_self_iff]
    intro d hd
    obtain ⟨e, he, rfl⟩ := List.mem_map.mp hd
    exact (hlower (hall e he)).2.1

/-! ### The pattern -/

namespace MatchPattern

/-- The three parts of a pattern are read each for itself. -/
theorem ofText_append {scheme host path : Text} (hscheme : isSchemePattern scheme = true) (hslash : '/' ∉ host)
    (hpath : path.head? = some '/') :
    ofText (scheme ++ "://".toList ++ host ++ path) = match HostPattern.ofText? host with
      | some p => .ok (.url (lowerAscii scheme) p path)
      | none => .error (.invalidPattern (scheme ++ "://".toList ++ host ++ path)) := by
  obtain ⟨hcolon, hmark⟩ := not_mem_of_isSchemePattern hscheme
  obtain ⟨path, rfl⟩ := List.head?_eq_some_iff.mp hpath
  -- the scheme begins with no angle bracket, and the first colon is the one behind it
  have hother : (scheme ++ "://".toList ++ host ++ '/' :: path == allUrlsText) = false := by
    refine beq_eq_false_iff_ne.mpr fun h => ?_
    cases scheme with
    | nil => exact absurd (List.cons.inj h).1 (by decide)
    | cons c rest =>
      have hc : c = '<' := (List.cons.inj h).1
      exact hmark (hc ▸ List.mem_cons_self)
  have hcut : cutAt? "://".toList (scheme ++ "://".toList ++ host ++ '/' :: path)
      = some (scheme, host ++ '/' :: path) := by
    rw [List.append_assoc]
    exact cutAt?_append (host ++ '/' :: path) hcolon
  have hall : ∀ c ∈ host, (c != '/') = true := fun c hc => by
    rw [bne_iff_ne]
    rintro rfl
    exact hslash hc
  have hstop : ∀ c ∈ ('/' :: path).head?, (c != '/') = false := by simp
  obtain ⟨hhost, hrest⟩ := List.span_append_of_stop hall hstop
  rw [ofText, hother, hcut]
  dsimp only
  rw [hhost, hrest, hscheme]
  rfl

/-- A pattern that is read is the one for all addresses, or has the three parts. -/
theorem parts_of_ofText {text : Text} {p : MatchPattern} (h : ofText text = .ok p) :
    text = allUrlsText ∧ p = .allUrls
      ∨ ∃ scheme host path q, text = scheme ++ "://".toList ++ host ++ path
        ∧ isSchemePattern scheme = true ∧ '/' ∉ host ∧ path.head? = some '/'
        ∧ HostPattern.ofText? host = some q ∧ p = .url (lowerAscii scheme) q path := by
  unfold ofText at h
  split at h
  · next hall => exact Or.inl ⟨eq_of_beq hall, (Except.ok.inj h).symm⟩
  refine Or.inr ?_
  split at h
  · next scheme rest hcut =>
    dsimp only at h
    split at h
    · next hparts =>
      rw [Bool.and_eq_true, Bool.not_eq_true', List.isEmpty_eq_false_iff] at hparts
      split at h
      · next q hq =>
        refine ⟨scheme, _, _, q, ?_, hparts.1, ?_, ?_, hq, (Except.ok.inj h).symm⟩
        · rw [List.append_assoc _ _ (List.dropWhile _ _), List.takeWhile_append_dropWhile]
          exact eq_of_cutAt? hcut
        · intro hslash
          exact absurd (List.mem_takeWhile_imp hslash) (by decide)
        · have hstop := List.head_dropWhile_not (· != '/') hparts.2
          rw [bne_eq_false_iff_eq] at hstop
          rw [List.head?_eq_some_head hparts.2, hstop]
      · exact absurd h (by simp)
    · exact absurd h (by simp)
  · exact absurd h (by simp)

/-- A pattern begins with the scheme, or with the mark of the pattern for all addresses. -/
theorem exists_cons_of_ofText {text : Text} {p : MatchPattern} (h : ofText text = .ok p) :
    ∃ c rest, text = c :: rest ∧ (c.isAlpha = true ∨ c = '*' ∨ c = '<') := by
  rcases parts_of_ofText h with ⟨rfl, -⟩ | ⟨scheme, host, path, -, rfl, hscheme, -⟩
  · exact ⟨'<', "all_urls>".toList, rfl, Or.inr (Or.inr rfl)⟩
  · rcases exists_cons_of_isSchemePattern hscheme with rfl | ⟨c, rest, rfl, hc, -⟩
    · exact ⟨'*', _, rfl, Or.inr (Or.inl rfl)⟩
    · exact ⟨c, _, rfl, Or.inl hc⟩

/-- The host of a pattern without the star before it, which is what it is filed under. -/
def domain : MatchPattern → Text
  | .allUrls => []
  | .url _ host _ => host.domain

/-- A pattern that was read is read as it is written just if its host has no star but the one before the
domain, and if the domain, should it have capital letters or a label in punycode, is its own spelling. -/
theorem ofText_render_iff {text : Text} {p : MatchPattern} (h : ofText text = .ok p) :
    ofText p.render = .ok p ↔ '*' ∉ p.domain
      ∧ (Host.isOrdinary p.domain = false → (Host.ofText? p.domain).map Host.render = some p.domain) := by
  rcases parts_of_ofText h with ⟨-, rfl⟩ | ⟨scheme, host, path, q, -, hscheme, -, hpath, hq, rfl⟩
  · exact iff_of_true rfl ⟨List.not_mem_nil, fun hord => absurd hord (by decide)⟩
  obtain ⟨hlower, hidem⟩ := isSchemePattern_lowerAscii hscheme
  have hslash : '/' ∉ q.render := fun hc => absurd (HostPattern.isSpelling_of_mem_render hq hc) (by decide)
  -- scheme and path come back as they are, so the host decides
  refine Iff.trans ?_ (HostPattern.ofText?_render_iff hq)
  rw [render, ofText_append hlower hslash hpath, hidem]
  cases hread : HostPattern.ofText? q.render with
  | none => simp
  | some q' => simp

theorem ofText_render_iff_example :
    ofText "HTTPS://*.Example.COM/Path".toList
        = .ok (.url "https".toList (.subdomains "example.com".toList) "/Path".toList)
      ∧ ofText "https://*.example.com/Path".toList
        = .ok (.url "https".toList (.subdomains "example.com".toList) "/Path".toList) := by
  have h : ofText "HTTPS://*.Example.COM/Path".toList
      = .ok (.url "https".toList (.subdomains "example.com".toList) "/Path".toList) := by decide +kernel
  have hord : Host.isOrdinary "example.com".toList = true := by decide +kernel
  refine ⟨h, (ofText_render_iff h).mpr ⟨by decide +kernel, fun hother => ?_⟩⟩
  exact absurd (hord.symm.trans hother) (by decide)

/-- A percent sign can stand for a star: the host written for it is then read as all hosts of a domain, and
the pattern covers addresses that the first one does not cover. -/
theorem ofText_render_counterexample :
    let first := MatchPattern.url anyScheme (.exact "*.example.com".toList) anyPath
    let second := MatchPattern.url anyScheme (.subdomains "example.com".toList) anyPath
    ofText "*://%2A.example.com/*".toList = .ok first ∧ ofText first.render = .ok second ∧ second ≠ first
      ∧ ∃ u, Url.ofText? "http://www.example.com/".toList = some u
        ∧ second.isMatch u = true ∧ first.isMatch u = false := by
  have hu : Url.ofText? "http://www.example.com/".toList
      = some ⟨"http".toList, "www.example.com".toList, "/".toList⟩ := by decide +kernel
  exact ⟨by decide +kernel, by decide +kernel, by decide, _, hu, by decide +kernel, by decide +kernel⟩

end MatchPattern

end ResultFilter
