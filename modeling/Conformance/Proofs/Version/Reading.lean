import Conformance.Error
import Conformance.Proofs.Text.Marks

/-!
# Which texts are versions

A version is written as three numbers with points between them, and a suffix may follow. The
texts that are written so are described here without the reader, by their parts. The reader
takes the suffix off by looking for its last `-` and then for its last `+`, so it accepts such a
text if nothing of the suffix is left by these two cuts, and refuses it otherwise.

## Main definitions

- `Version.Spells` — a text is a version with a given suffix
- `Version.Whole` — a suffix that is taken off by two cuts from the right

## Main results

- `Version.parse_reads` — what is accepted, with which result, and what is refused
- `Version.parse_refuses_second_dash` — a version that is refused for what is in its suffix
-/

namespace Conformance

open Text

namespace Version

/-! ### Numbers -/

/-- The text of a number of 32 bits: digits, perhaps after a plus sign. -/
def Numeral (cs : List Char) (n : UInt32) : Prop :=
  ∃ digits, (cs = digits ∨ cs = '+' :: digits) ∧ digits ≠ [] ∧ (∀ c ∈ digits, isDigit c = true) ∧
    Nat.ofDigitChars 10 digits 0 = n.toNat

theorem isDigit_ne {c marker : Char} (h : isDigit c = true) (hm : isDigit marker = false) :
    c ≠ marker := by
  rintro rfl
  rw [h] at hm
  exact Bool.noConfusion hm

theorem dropPlus_of_digits {digits : List Char} (h : ∀ c ∈ digits, isDigit c = true) :
    dropPlus digits = digits := by
  cases digits with
  | nil => rfl
  | cons c rest =>
    have hc : c ≠ '+' := isDigit_ne (h c (by simp)) (by decide)
    simp [dropPlus, hc]

theorem natural?_eq_some_iff {cs : List Char} {n : Nat} :
    natural? cs = some n ↔
      cs ≠ [] ∧ (∀ c ∈ cs, isDigit c = true) ∧ Nat.ofDigitChars 10 cs 0 = n := by
  by_cases hcs : cs.isEmpty || !cs.all isDigit
  · have : cs = [] ∨ ∃ c ∈ cs, isDigit c = false := by simpa using hcs
    rw [natural?, if_pos hcs]
    constructor
    · intro h
      exact absurd h (by simp)
    · rintro ⟨hne, hall, -⟩
      obtain rfl | ⟨c, hc, hno⟩ := this
      · exact absurd rfl hne
      · rw [hall c hc] at hno
        exact absurd hno (by simp)
  · have : cs ≠ [] ∧ ∀ c ∈ cs, isDigit c = true := by simpa using hcs
    rw [natural?, if_neg hcs]
    simp only [Option.some.injEq]
    exact ⟨fun h => ⟨this.1, this.2, h⟩, fun h => h.2.2⟩

/-- A number is read from its texts and from nothing else. -/
theorem number?_eq_some_iff {cs : List Char} {n : UInt32} :
    number? cs = some n ↔ Numeral cs n := by
  have hvalue : number? cs = some n ↔
      ∃ m, natural? (dropPlus cs) = some m ∧ m ≤ maxUnsigned32 ∧ UInt32.ofNat m = n := by
    simp [number?, unsigned?, Option.filter_eq_some_iff, and_assoc]
  rw [hvalue]
  constructor
  · rintro ⟨m, hm, hle, rfl⟩
    obtain ⟨hne, hall, hval⟩ := natural?_eq_some_iff.1 hm
    refine ⟨dropPlus cs, ?_, hne, hall, ?_⟩
    · unfold dropPlus
      split <;> simp
    · rw [hval, UInt32.toNat_ofNat_of_lt']
      simp only [maxUnsigned32] at hle
      simp only [UInt32.size]
      omega
  · rintro ⟨digits, hcs, hne, hall, hval⟩
    have hdrop : dropPlus cs = digits := by
      obtain rfl | rfl := hcs
      · exact dropPlus_of_digits hall
      · rfl
    refine ⟨n.toNat, ?_, ?_, UInt32.ofNat_toNat⟩
    · rw [hdrop, natural?_eq_some_iff]
      exact ⟨hne, hall, hval⟩
    · have := n.toNat_lt
      simp only [maxUnsigned32]
      omega

theorem Numeral.ne_nil {cs : List Char} {n : UInt32} (h : Numeral cs n) : cs ≠ [] := by
  obtain ⟨digits, rfl | rfl, hne, -⟩ := h
  · exact hne
  · simp

/-- After its first character a number has digits only. -/
theorem Numeral.isDigit_of_mem_tail {cs : List Char} {n : UInt32} (h : Numeral cs n) :
    ∀ c ∈ cs.tail, isDigit c = true := by
  intro c hc
  obtain ⟨digits, rfl | rfl, -, hall, -⟩ := h
  · exact hall c (List.mem_of_mem_tail hc)
  · exact hall c hc

theorem Numeral.not_mem {cs : List Char} {n : UInt32} (h : Numeral cs n) {marker : Char}
    (hm : isDigit marker = false) (hplus : marker ≠ '+') : marker ∉ cs := by
  intro hmem
  obtain ⟨digits, rfl | rfl, -, hall, -⟩ := h
  · exact isDigit_ne (hall marker hmem) hm rfl
  · obtain rfl | hmem := List.mem_cons.1 hmem
    · exact hplus rfl
    · exact isDigit_ne (hall marker hmem) hm rfl

/-! ### Points -/

/-- A text is cut at its first two points. -/
theorem pieces?_eq_some_iff {cs major minor patch : List Char} :
    pieces? cs = some (major, minor, patch) ↔
      cs = major ++ '.' :: (minor ++ '.' :: patch) ∧ '.' ∉ major ∧ '.' ∉ minor := by
  constructor
  · intro h
    unfold pieces? at h
    split at h
    · rename_i first _ rest hfirst
      split at h
      · rename_i second _ last hsecond
        cases h
        obtain ⟨rfl, hmajor⟩ := eq_append_of_span hfirst
        obtain ⟨rfl, hminor⟩ := eq_append_of_span hsecond
        exact ⟨rfl, hmajor, hminor⟩
      · exact absurd h (by simp)
    · exact absurd h (by simp)
  · rintro ⟨rfl, hmajor, hminor⟩
    simp only [pieces?, span_append_marker hmajor, span_append_marker hminor]

/-! ### Cuts from the right -/

theorem beforeLast_append {marker : Char} {before after : List Char} (hne : before ≠ [])
    (h : marker ∉ after) : beforeLast marker (before ++ marker :: after) = some before := by
  have hdrop : (before ++ marker :: after).reverse.dropWhile (· ≠ marker) =
      marker :: before.reverse := by
    rw [List.reverse_append, List.reverse_cons, List.append_assoc,
      List.dropWhile_append_of_pos (all_ne_of_not_mem (by simpa using h))]
    simp
  unfold beforeLast
  rw [hdrop]
  cases hrev : before.reverse with
  | nil => exact absurd (List.reverse_eq_nil_iff.1 hrev) hne
  | cons c rest => simp [← hrev]

/-- A marker that is found nowhere but perhaps in the first place is not cut at. -/
theorem beforeLast_eq_none {marker : Char} {cs : List Char} (h : marker ∉ cs.tail) :
    beforeLast marker cs = none := by
  cases cs with
  | nil => rfl
  | cons c rest =>
    unfold beforeLast
    rw [List.reverse_cons, List.dropWhile_append_of_pos (all_ne_of_not_mem (by simpa using h))]
    by_cases hc : c = marker <;> simp [hc]

/-- What a cut takes off: the text is cut at its last marker, or has none after its first
place. -/
theorem beforeLast_cases (marker : Char) (cs : List Char) :
    (beforeLast marker cs = none ∧ marker ∉ cs.tail) ∨
      ∃ before after, beforeLast marker cs = some before ∧ before ≠ [] ∧ marker ∉ after ∧
        cs = before ++ marker :: after := by
  by_cases hmem : marker ∈ cs.tail
  · right
    -- the last marker is the first one of the reversed text
    obtain ⟨after, before, hsplit, hafter⟩ :=
      List.eq_append_cons_of_mem (List.mem_reverse.2 hmem)
    have htail : cs.tail = before.reverse ++ marker :: after.reverse := by
      have := congrArg List.reverse hsplit
      simpa using this
    cases cs with
    | nil => simp at hmem
    | cons c rest =>
      have hcs : c :: rest = (c :: before.reverse) ++ marker :: after.reverse := by
        rw [List.tail_cons] at htail
        rw [htail, List.cons_append]
      have hnot : marker ∉ after.reverse := by simpa using hafter
      refine ⟨c :: before.reverse, after.reverse, ?_, by simp, hnot, hcs⟩
      rw [hcs]
      exact beforeLast_append (by simp) hnot
  · exact .inl ⟨beforeLast_eq_none hmem, hmem⟩

/-! ### Suffixes -/

/-- A suffix: nothing, or a marker and any text. It counts as present if the marker is there. -/
inductive Suffix : List Char → Bool → Prop
  | none : Suffix [] false
  | dash (rest : List Char) : Suffix ('-' :: rest) true
  | plus (rest : List Char) : Suffix ('+' :: rest) true

/-- A suffix of which nothing is left when it is cut at its last `-` and what is left of it is
cut at its last `+`. -/
inductive Whole : List Char → Prop
  | none : Whole []
  | dash {rest : List Char} (h : '-' ∉ rest) : Whole ('-' :: rest)
  | plus {rest : List Char} (hdash : '-' ∉ rest) (hplus : '+' ∉ rest) : Whole ('+' :: rest)
  | plusDash {build rest : List Char} (hplus : '+' ∉ build) (hdash : '-' ∉ rest) :
      Whole ('+' :: build ++ '-' :: rest)

/-- The text is this version, with this suffix after its numbers. -/
def Spells (s : String) (v : Version) (suffix : List Char) : Prop :=
  ∃ major minor patch, s.toList = major ++ '.' :: (minor ++ '.' :: (patch ++ suffix)) ∧
    Numeral major v.major ∧ Numeral minor v.minor ∧ Numeral patch v.patch ∧
    Suffix suffix v.hasExtra

/-- Both cuts, as the reader makes them. -/
def cut (piece : List Char) : List Char × Bool := trim '+' (trim '-' (piece, false))

theorem trim_of_none {marker : Char} {piece : List Char} {extra : Bool}
    (h : beforeLast marker piece = none) : trim marker (piece, extra) = (piece, extra) := by
  simp [trim, h]

theorem trim_of_some {marker : Char} {piece before : List Char} {extra : Bool}
    (h : beforeLast marker piece = some before) : trim marker (piece, extra) = (before, true) := by
  simp [trim, h]

variable {patch suffix : List Char} {n : UInt32} {extra : Bool}

/-- A number is not cut. -/
theorem Numeral.beforeLast_eq_none (h : Numeral patch n) {marker : Char}
    (hm : isDigit marker = false) : beforeLast marker patch = none := by
  apply Version.beforeLast_eq_none
  intro hmem
  exact isDigit_ne (h.isDigit_of_mem_tail marker hmem) hm rfl

/-- The two cuts take a whole suffix off a number. -/
theorem cut_of_whole (hpatch : Numeral patch n) (hwhole : Whole suffix)
    (hsuffix : Suffix suffix extra) : cut (patch ++ suffix) = (patch, extra) := by
  have hne := hpatch.ne_nil
  have hnoPlus : beforeLast '+' patch = none := hpatch.beforeLast_eq_none (by decide)
  have hnoDash : '-' ∉ patch := hpatch.not_mem (by decide) (by decide)
  cases hwhole with
  | none =>
    cases hsuffix
    rw [List.append_nil, cut, trim_of_none (hpatch.beforeLast_eq_none (by decide)),
      trim_of_none hnoPlus]
  | dash h =>
    cases hsuffix
    rw [cut, trim_of_some (beforeLast_append hne h), trim_of_none hnoPlus]
  | @plus rest hdash hplus =>
    cases hsuffix
    have hnone : beforeLast '-' (patch ++ '+' :: rest) = none := by
      apply Version.beforeLast_eq_none
      intro hmem
      have := List.mem_of_mem_tail hmem
      simp [hnoDash, hdash] at this
    rw [cut, trim_of_none hnone, trim_of_some (beforeLast_append hne hplus)]
  | @plusDash build rest hplus hdash =>
    cases hsuffix
    have hcut : beforeLast '-' (patch ++ ('+' :: build ++ '-' :: rest)) =
        some (patch ++ '+' :: build) := by
      rw [← List.append_assoc]
      exact beforeLast_append (by simp) hdash
    rw [cut, trim_of_some hcut, trim_of_some (beforeLast_append hne hplus)]

/-- What the two cuts take off is a whole suffix. -/
theorem whole_of_cut {piece : List Char} (h : cut piece = (patch, extra)) :
    ∃ suffix, piece = patch ++ suffix ∧ Whole suffix ∧ Suffix suffix extra := by
  obtain ⟨hdash, hmem⟩ | ⟨before, rest, hdash, hne, hrest, rfl⟩ := beforeLast_cases '-' piece
  · rw [cut, trim_of_none hdash] at h
    obtain ⟨hplus, -⟩ | ⟨before, build, hplus, hne, hbuild, rfl⟩ := beforeLast_cases '+' piece
    · rw [trim_of_none hplus] at h
      cases h
      exact ⟨[], by simp, .none, .none⟩
    · rw [trim_of_some hplus] at h
      cases h
      refine ⟨'+' :: build, rfl, .plus ?_ hbuild, .plus build⟩
      intro hdashed
      apply hmem
      rw [List.tail_append_of_ne_nil hne]
      simp [hdashed]
  · rw [cut, trim_of_some hdash] at h
    obtain ⟨hplus, -⟩ | ⟨start, build, hplus, -, hbuild, rfl⟩ := beforeLast_cases '+' before
    · rw [trim_of_none hplus] at h
      cases h
      exact ⟨'-' :: rest, rfl, .dash hrest, .dash rest⟩
    · rw [trim_of_some hplus] at h
      cases h
      exact ⟨'+' :: build ++ '-' :: rest, by simp, .plusDash hbuild hrest, .plus _⟩

/-- Where a number ends and its suffix begins can be seen from both together. -/
theorem dropWhile_isDigit_append (hpatch : Numeral patch n) (hsuffix : Suffix suffix extra) :
    (dropPlus (patch ++ suffix)).dropWhile isDigit = suffix := by
  obtain ⟨digits, hcs, hne, hall, -⟩ := hpatch
  have hend : suffix.dropWhile isDigit = suffix := by
    cases hsuffix with
    | none => rfl
    | dash rest => exact List.dropWhile_cons_of_neg (by decide)
    | plus rest => exact List.dropWhile_cons_of_neg (by decide)
  have hdrop : dropPlus (patch ++ suffix) = digits ++ suffix := by
    obtain rfl | rfl := hcs
    · obtain ⟨c, rest, rfl⟩ := List.exists_cons_of_ne_nil hne
      have hc : c ≠ '+' := isDigit_ne (hall c (by simp)) (by decide)
      simp [dropPlus, hc]
    · rfl
  rw [hdrop, List.dropWhile_append_of_pos hall, hend]

/-! ### Reading -/

/-- The reader is made of the three pieces, the two cuts and the three numbers. -/
theorem parse?_eq_some_iff {s : String} {v : Version} :
    parse? s = some v ↔ ∃ major minor piece patch,
      s.toList = major ++ '.' :: (minor ++ '.' :: piece) ∧ cut piece = (patch, v.hasExtra) ∧
        Numeral major v.major ∧ Numeral minor v.minor ∧ Numeral patch v.patch := by
  have hread : parse? s = some v ↔ ∃ major minor piece,
      pieces? s.toList = some (major, minor, piece) ∧ (cut piece).2 = v.hasExtra ∧
        number? major = some v.major ∧ number? minor = some v.minor ∧
          number? (cut piece).1 = some v.patch := by
    obtain ⟨a, b, c, e⟩ := v
    simp only [parse?, Option.bind_eq_bind, Option.bind_eq_some_iff, Prod.exists, cut]
    constructor
    · rintro ⟨major, minor, piece, hpieces, a', hmajor, b', hminor, c', hpatch, heq⟩
      cases heq
      exact ⟨major, minor, piece, hpieces, rfl, hmajor, hminor, hpatch⟩
    · rintro ⟨major, minor, piece, hpieces, rfl, hmajor, hminor, hpatch⟩
      exact ⟨major, minor, piece, hpieces, a, hmajor, b, hminor, c, hpatch, rfl⟩
  simp only [hread, pieces?_eq_some_iff, number?_eq_some_iff]
  constructor
  · rintro ⟨major, minor, piece, ⟨hs, -, -⟩, hextra, hmajor, hminor, hpatch⟩
    exact ⟨major, minor, piece, (cut piece).1, hs, by rw [← hextra], hmajor, hminor, hpatch⟩
  · rintro ⟨major, minor, piece, patch, hs, hcut, hmajor, hminor, hpatch⟩
    refine ⟨major, minor, piece, ⟨hs, ?_, ?_⟩, by rw [hcut], hmajor, hminor, by rwa [hcut]⟩
    · exact hmajor.not_mem (by decide) (by decide)
    · exact hminor.not_mem (by decide) (by decide)

theorem parse_eq_ok_iff {s : String} {v : Version} : parse s = .ok v ↔ parse? s = some v := by
  unfold parse
  cases parse? s <;> simp

theorem parse_eq_error {s : String} (h : ∀ v, parse s ≠ .ok v) :
    parse s = .error (.invalidVersion s) := by
  cases hread : parse? s with
  | some v => exact absurd (parse_eq_ok_iff.2 hread) (h v)
  | none => rw [parse, hread]

/-- Of one text there is one suffix. -/
theorem Spells.suffix_unique {s : String} {v v' : Version} {suffix suffix' : List Char}
    (h : Spells s v suffix) (h' : Spells s v' suffix') : suffix = suffix' := by
  obtain ⟨major, minor, patch, hs, hmajor, hminor, hpatch, hsuffix⟩ := h
  obtain ⟨major', minor', patch', hs', hmajor', hminor', hpatch', hsuffix'⟩ := h'
  have hpieces : pieces? s.toList = some (major, minor, patch ++ suffix) :=
    pieces?_eq_some_iff.2 ⟨hs, hmajor.not_mem (by decide) (by decide),
      hminor.not_mem (by decide) (by decide)⟩
  have hpieces' : pieces? s.toList = some (major', minor', patch' ++ suffix') :=
    pieces?_eq_some_iff.2 ⟨hs', hmajor'.not_mem (by decide) (by decide),
      hminor'.not_mem (by decide) (by decide)⟩
  have heq : patch ++ suffix = patch' ++ suffix' := by
    rw [hpieces] at hpieces'
    simp only [Option.some.injEq, Prod.mk.injEq] at hpieces'
    exact hpieces'.2.2
  rw [← dropWhile_isDigit_append hpatch hsuffix, heq,
    dropWhile_isDigit_append hpatch' hsuffix']

/-- What the reader makes of a text. It accepts a text exactly if it is a version whose suffix
is whole, with the numbers of the text and with the presence of the suffix. A version whose
suffix is not whole is refused, and so is a text that is no version; the error then carries the
text. -/
theorem parse_reads (s : String) :
    (∀ v, parse s = .ok v ↔ ∃ suffix, Spells s v suffix ∧ Whole suffix) ∧
    (∀ v suffix, Spells s v suffix → ¬Whole suffix → parse s = .error (.invalidVersion s)) ∧
    ((∀ v suffix, ¬Spells s v suffix) → parse s = .error (.invalidVersion s)) := by
  have hok : ∀ v, parse s = .ok v ↔ ∃ suffix, Spells s v suffix ∧ Whole suffix := by
    intro v
    rw [parse_eq_ok_iff, parse?_eq_some_iff]
    constructor
    · rintro ⟨major, minor, piece, patch, hs, hcut, hmajor, hminor, hpatch⟩
      obtain ⟨suffix, rfl, hwhole, hsuffix⟩ := whole_of_cut hcut
      exact ⟨suffix, ⟨major, minor, patch, hs, hmajor, hminor, hpatch, hsuffix⟩, hwhole⟩
    · rintro ⟨suffix, ⟨major, minor, patch, hs, hmajor, hminor, hpatch, hsuffix⟩, hwhole⟩
      exact ⟨major, minor, patch ++ suffix, patch, hs, cut_of_whole hpatch hwhole hsuffix,
        hmajor, hminor, hpatch⟩
  refine ⟨hok, ?_, ?_⟩
  · intro v suffix hspells hnot
    apply parse_eq_error
    intro v' hv'
    obtain ⟨suffix', hspells', hwhole⟩ := (hok v').1 hv'
    rw [hspells.suffix_unique hspells'] at hnot
    exact hnot hwhole
  · intro hnone
    apply parse_eq_error
    intro v hv
    obtain ⟨suffix, hspells, -⟩ := (hok v).1 hv
    exact hnone v suffix hspells

/-- A version whose suffix holds the marker of a suffix once more is refused, although a suffix
may be any text. -/
theorem parse_refuses_second_dash :
    Spells "1.2.3-a-b" ⟨1, 2, 3, true⟩ "-a-b".toList ∧
      parse "1.2.3-a-b" = .error (.invalidVersion "1.2.3-a-b") := by
  constructor
  · refine ⟨['1'], ['2'], ['3'], by decide, ?_, ?_, ?_, .dash _⟩
    · exact ⟨['1'], .inl rfl, by decide, List.forall_mem_singleton.2 (by decide), by decide⟩
    · exact ⟨['2'], .inl rfl, by decide, List.forall_mem_singleton.2 (by decide), by decide⟩
    · exact ⟨['3'], .inl rfl, by decide, List.forall_mem_singleton.2 (by decide), by decide⟩
  · decide

example : parse "1.2.3-beta+build5" = .ok ⟨1, 2, 3, true⟩ := by decide

end Version

end Conformance
