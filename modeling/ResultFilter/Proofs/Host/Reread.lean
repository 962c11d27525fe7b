import ResultFilter.Proofs.Host.Address

/-!
# Hosts that are read again

A host in its one spelling is read as the same host. That is so for every address, and for every name that
has no capital letter and no label in punycode; what a label in punycode stands for is mapped again when it
is read.

## Main definitions

* `Host.isOrdinary` — no capital letters and no labels in punycode.
* `Host.KeepsLabels` — a text is read as a host with the labels of the text.

## Main results

* `Host.nameToAscii?_of_isOrdinary` — an ordinary name is its own ASCII form.
* `Host.ofText?_ipv4`, `Host.ofText?_brackets` — addresses are read as they are written.
* `Host.ofText?_render` — ordinary hosts are read as they are written.
* `Url.exists_host_of_isWeb` — the host of an address of the web is a host that was read.
-/

namespace ResultFilter

open ResultFilter.Text

/-! ### Bytes -/

theorem Text.utf8EncodeChar_of_lt {c : Char} (hc : c.toNat < 128) :
    String.utf8EncodeChar c = [UInt8.ofNat c.toNat] := by
  unfold String.utf8EncodeChar
  exact if_pos (Nat.le_of_lt_succ hc)

/-- A text of ASCII without percent signs stands for itself. -/
theorem Text.ofUtf8?_percentDecode {cs : Text} (h : ∀ c ∈ cs, c.toNat < 128 ∧ c ≠ '%') :
    ofUtf8? (percentDecode cs) = some cs := by
  induction cs with
  | nil => rfl
  | cons c cs ih =>
    obtain ⟨⟨hascii, hpercent⟩, h⟩ := List.forall_mem_cons.mp h
    have hbyte : (UInt8.ofNat c.toNat).toNat = c.toNat := by
      rw [UInt8.toNat_ofNat']
      exact Nat.mod_eq_of_lt (Nat.lt_trans hascii (by decide))
    have hsmall : UInt8.ofNat c.toNat < 0x80 := by
      rw [UInt8.lt_iff_toNat_lt, hbyte]
      exact hascii
    have hdecode : percentDecode (c :: cs) = String.utf8EncodeChar c ++ percentDecode cs := by
      rw [percentDecode]
      exact fun a b rest hc _ => absurd hc hpercent
    have hread (bytes : List UInt8) : ofUtf8? (UInt8.ofNat c.toNat :: bytes)
        = (ofUtf8? bytes).map (Char.ofNat (UInt8.ofNat c.toNat).toNat :: ·) := by
      rw [ofUtf8?.eq_def]
      exact if_pos hsmall
    rw [hdecode, utf8EncodeChar_of_lt hascii, List.singleton_append, hread, ih h, hbyte, Char.ofNat_toNat,
      Option.map_some]

namespace Host

/-! ### Names -/

/-- Whether a host has no capital letters and no labels in punycode. -/
def isOrdinary (host : Text) : Bool :=
  lowerAscii host == host && !(splitDots host).any punycodeMark.isPrefixOf

theorem lowerAscii_eq_self_iff {cs : Text} : lowerAscii cs = cs ↔ ∀ c ∈ cs, c.toLower = c := by
  have h := List.map_inj_left (f := Char.toLower) (g := id) (l := cs)
  rwa [List.map_id] at h

theorem isOrdinary_iff {host : Text} :
    isOrdinary host = true
      ↔ lowerAscii host = host ∧ ∀ label ∈ splitDots host, punycodeMark.isPrefixOf label = false := by
  rw [isOrdinary, Bool.and_eq_true, beq_iff_eq, Bool.not_eq_true', List.any_eq_false]
  simp only [Bool.not_eq_true]

theorem isAsciiText_of_mem_splitDots {name label : Text} (hname : ∀ c ∈ name, c.toNat < 128)
    (hlabel : label ∈ splitDots name) : isAsciiText label = true :=
  List.all_eq_true.mpr fun c hc => decide_eq_true (hname c (Text.mem_of_mem_splitOn hlabel hc))

/-- An ordinary name is its own ASCII form. -/
theorem nameToAscii?_of_isOrdinary {name : Text} (hname : ∀ c ∈ name, isNameChar c = true)
    (h : isOrdinary name = true) : nameToAscii? name = some name := by
  obtain ⟨hlower, hlabels⟩ := isOrdinary_iff.mp h
  have hascii : ∀ c ∈ name, c.toNat < 128 := fun c hc => (isNameChar_iff.mp (hname c hc)).1
  -- the mapping and the canonical form leave small letters of ASCII alone
  have hmapped : name.mapM mapChar? = some (name.map fun c => [c.toLower]) :=
    List.mapM_eq_some_map fun c hc => if_pos (hascii c hc)
  have hflat : (name.map fun c => [c.toLower]).flatten = name := by
    rw [← List.flatMap_def, ← List.map_eq_flatMap]
    exact hlower
  have hcanonical : canonicalForm name = name := by
    refine if_pos (List.all_eq_true.mpr fun c hc => decide_eq_true ?_)
    exact Nat.lt_trans (hascii c hc) (by decide)
  have hallowed : name.any isForbidden = false := by
    refine List.any_eq_false.mpr fun c hc => ?_
    rw [(isNameChar_iff.mp (hname c hc)).2]
    exact Bool.false_ne_true
  -- no label stands for another one, so all are in ASCII and nothing more is asked of them
  have hsame : (splitDots name).mapM labelOf? = some (splitDots name) := by
    have hmap := List.mapM_eq_some_map (f := labelOf?) (g := id) (l := splitDots name) fun label hlabel => by
      rw [labelOf?, hlabels label hlabel]
      rfl
    rwa [List.map_id] at hmap
  have hleft : (splitDots name).any (·.any isRightToLeft) = false := by
    refine List.any_eq_false.mpr fun label hlabel => ?_
    rw [Bool.not_eq_true]
    refine List.any_eq_false.mpr fun c hc => ?_
    have hlt := hascii c (Text.mem_of_mem_splitOn hlabel hc)
    rw [isRightToLeft, decide_eq_false (by omega), Bool.false_and]
    exact Bool.false_ne_true
  have hformed : (splitDots name).all isWellFormed = true := by
    refine List.all_eq_true.mpr fun label hlabel => ?_
    rw [isWellFormed, isAsciiText_of_mem_splitDots hascii hlabel, Bool.true_or]
  have hwritten : (splitDots name).map labelToAscii = splitDots name := by
    refine (List.map_congr_left fun label hlabel => ?_).trans (List.map_id _)
    exact if_pos (isAsciiText_of_mem_splitDots hascii hlabel)
  rw [nameToAscii?, asciiForm?, hmapped]
  simp only [Option.bind_eq_bind, Option.bind_some, hflat, hcanonical, hallowed, hsame, hleft, hformed,
    hwritten, Bool.false_eq_true, Bool.false_and, if_false, if_true, joinDots_splitDots]

/-- What is read of an ordinary name. -/
theorem ofText?_of_isOrdinary {name : Text} (hname : ∀ c ∈ name, isNameChar c = true)
    (h : isOrdinary name = true) (hne : name ≠ []) :
    ofText? name = if endsInNumber name then (Ipv4.ofName? name).map .ipv4 else some (.domain name) := by
  have hbytes : ofUtf8? (percentDecode name) = some name := by
    refine Text.ofUtf8?_percentDecode fun c hc => ⟨(isNameChar_iff.mp (hname c hc)).1, ?_⟩
    rintro rfl
    exact absurd (hname _ hc) (by decide)
  have hread : ofText? name = (do
      let decoded ← ofUtf8? (percentDecode name)
      let name ← nameToAscii? decoded
      if name.isEmpty then none
      else if endsInNumber name then (Ipv4.ofName? name).map .ipv4
      else some (.domain name)) := by
    rw [ofText?]
    rintro rest rfl
    exact absurd (hname _ List.mem_cons_self) (by decide)
  have hempty : name.isEmpty = false := List.isEmpty_eq_false_iff.mpr hne
  rw [hread, hbytes, Option.bind_eq_bind, Option.bind_some, nameToAscii?_of_isOrdinary hname h,
    Option.bind_some, hempty]
  rfl

/-- Whether a text is read as a host with the labels of the text. -/
def KeepsLabels (host : Text) : Prop :=
  ∃ h, ofText? host = some h ∧ reversedLabels h.render = reversedLabels host

@[simp] theorem ofText?_nil : ofText? [] = none := rfl

theorem keepsLabels_iff {host : Text} {h : Host} (hread : ofText? host = some h) :
    KeepsLabels host ↔ reversedLabels h.render = reversedLabels host := by
  constructor
  · rintro ⟨h', hread', hlabels⟩
    obtain rfl := Option.some.inj (hread.symm.trans hread')
    exact hlabels
  · exact fun hlabels => ⟨h, hread, hlabels⟩

theorem not_keepsLabels {host : Text} (hread : ofText? host = none) : ¬ KeepsLabels host := by
  rintro ⟨h, hh, -⟩
  rw [hread] at hh
  exact absurd hh (by simp)

/-- An ordinary name is read as it is, if it is no number. -/
theorem keepsLabels_of_name {name : Text} (hname : ∀ c ∈ name, isNameChar c = true)
    (h : isOrdinary name = true) (hne : name ≠ []) (hnumber : endsInNumber name = false) : KeepsLabels name := by
  refine ⟨.domain name, ?_, rfl⟩
  rw [ofText?_of_isOrdinary hname h hne, hnumber]
  rfl

/-! ### Hosts of the web -/

theorem isOrdinary_of_forall {host : Text} (h : ∀ c ∈ host, c.toLower = c ∧ c ≠ 'x') :
    isOrdinary host = true := by
  refine isOrdinary_iff.mpr ⟨?_, fun label hlabel => Bool.eq_false_iff.mpr fun hmark => ?_⟩
  · exact lowerAscii_eq_self_iff.mpr fun c hc => (h c hc).1
  · have hx : 'x' ∈ label := (List.isPrefixOf_iff_prefix.mp hmark).subset List.mem_cons_self
    exact (h 'x' (Text.mem_of_mem_splitOn hlabel hx)).2 rfl

theorem isOrdinary_ipv4 (a : Ipv4) : isOrdinary (render (.ipv4 a)) = true := by
  refine isOrdinary_of_forall fun c hc => ?_
  rcases mem_ipv4 hc with rfl | hdigit
  · decide
  · have := forall_ascii (p := fun c => !c.isDigit || decide (c.toLower = c ∧ c ≠ 'x')) (by decide)
      (isNameChar_iff.mp (isNameChar_of_mem_ipv4 hc)).1
    rw [hdigit, Bool.not_true, Bool.false_or] at this
    exact of_decide_eq_true this

theorem ipv4_ne_nil (a : Ipv4) : Ipv4.render a ≠ [] := by
  intro hnil
  exact absurd (endsInNumber_render a) (by rw [hnil]; decide)

theorem ofText?_ipv4 (a : Ipv4) : ofText? (render (.ipv4 a)) = some (.ipv4 a) := by
  have hname := ofText?_of_isOrdinary (fun c => isNameChar_of_mem_ipv4) (isOrdinary_ipv4 a) (ipv4_ne_nil a)
  rw [render, hname, endsInNumber_render, Ipv4.ofName?_render]
  rfl

theorem ofText?_brackets {a : Ipv6} (h : a.IsProper) : ofText? (render (.ipv6 a)) = some (.ipv6 a) := by
  have hinner : bracketed? (Ipv6.render a ++ [']']) = some (Ipv6.render a) := by
    rw [bracketed?, List.getLast?_concat, List.dropLast_concat]
    rfl
  rw [render, List.cons_append, ofText?, hinner, Option.bind_eq_bind, Option.bind_some,
    Ipv6.ofText?_render h]
  rfl

theorem isProper_of_ofText? {cs : Text} {a : Ipv6} (h : ofText? cs = some (.ipv6 a)) : a.IsProper := by
  unfold ofText? at h
  simp only [Option.bind_eq_bind] at h
  split at h
  · obtain ⟨inner, -, h⟩ := Option.bind_eq_some_iff.mp h
    obtain ⟨address, haddress, h⟩ := Option.bind_eq_some_iff.mp h
    obtain rfl : address = a := by simpa using h
    exact Ipv6.isProper_of_ofText? haddress
  · obtain ⟨decoded, -, h⟩ := Option.bind_eq_some_iff.mp h
    obtain ⟨name, -, h⟩ := Option.bind_eq_some_iff.mp h
    split at h
    · exact absurd h (by simp)
    · split at h
      · obtain ⟨address, -, h⟩ := Option.map_eq_some_iff.mp h
        exact absurd h (by simp)
      · exact absurd h (by simp)

/-- A host of the web is read as it is written, unless it has a capital letter or a label in punycode. -/
theorem ofText?_render {cs : Text} {host : Host} (h : ofText? cs = some host)
    (hord : isOrdinary host.render = true) : ofText? host.render = some host := by
  cases host with
  | domain name =>
    -- a name is no number, so it is not taken for an address the second time either
    obtain ⟨hname, hne, hnumber⟩ := name_of_ofText? h
    rw [render, ofText?_of_isOrdinary hname hord hne, hnumber]
    rfl
  | ipv4 a => exact ofText?_ipv4 a
  | ipv6 a => exact ofText?_brackets (isProper_of_ofText? h)

theorem keepsLabels_of_isOrdinary {cs : Text} {host : Host} (h : ofText? cs = some host)
    (hord : isOrdinary host.render = true) : KeepsLabels host.render :=
  ⟨host, ofText?_render h hord, rfl⟩

theorem render_ne_nil {cs : Text} {host : Host} (h : ofText? cs = some host) : host.render ≠ [] := by
  cases host with
  | domain name => exact (name_of_ofText? h).2.1
  | ipv4 a => exact ipv4_ne_nil a
  | ipv6 a => exact List.cons_ne_nil _ _

/-- A host that is not told to be an address is a name. -/
theorem exists_name_of_not_isAddress {cs : Text} {host : Host} (h : ofText? cs = some host)
    (haddress : isAddress host.render = false) : ∃ name, host = .domain name := by
  cases host with
  | domain name => exact ⟨name, rfl⟩
  | ipv4 a =>
    rw [render, isAddress_ipv4] at haddress
    exact absurd haddress (by decide)
  | ipv6 a =>
    rw [render, isAddress_ipv6 (isProper_of_ofText? h)] at haddress
    exact absurd haddress (by decide)

end Host

namespace Url

theorem kind_of_isWebScheme {scheme : Text} (h : isWebScheme scheme = true) : SchemeKind.of scheme = .special := by
  rw [isWebScheme, Bool.or_eq_true, beq_iff_eq, beq_iff_eq] at h
  rcases h with rfl | rfl
  · rfl
  · rfl

/-- The host of an address of the web is one that was read. -/
theorem exists_host_of_isWeb {text : Text} {u : Url} (hu : ofText? text = some u) (hweb : u.isWeb = true) :
    ∃ cs host, Host.ofText? cs = some host ∧ u.host = host.render := by
  have hhost := isHostUnder_of_ofText? hu
  rwa [kind_of_isWebScheme hweb] at hhost

end Url

end ResultFilter
