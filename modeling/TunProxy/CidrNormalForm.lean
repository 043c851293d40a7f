import TunProxy.PolicyMerging

/-!
# Canonical CIDRs

A CIDR text denotes a family and the addresses of it that share the leading bits
of the written one.  The canonical text is written with all other bits zero; it
denotes the same addresses, and there is one canonical text for each set of
addresses that a CIDR denotes.
-/

namespace TunProxy

open ByteText AddressPrefix InternetText

/-! ## What is written and what is denoted -/

/-- What is written in a CIDR text.  The address is read up to a NUL byte. -/
def WrittenCidr (text : Bytes) (family : AddressFamily) (bytes : Bytes) (length : Nat) : Prop :=
  ∃ addressText lengthText, text = addressText ++ slash :: lengthText ∧ slash ∉ lengthText ∧
    inetPton family (cString addressText) = some bytes ∧
    parseUnsigned (2 ^ 32 - 1) lengthText = some length ∧ length ≤ family.bits

/-- The text denotes these addresses of this family. -/
def Denotes (text : Bytes) (family : AddressFamily) (range : IpAddress → Prop) : Prop :=
  ∃ bytes length, WrittenCidr text family bytes length ∧
    ∀ address, range address ↔ address.family = family ∧ Agree length bytes address.bytes

theorem parseCidr_of_writtenCidr {text bytes : Bytes} {family : AddressFamily} {length : Nat}
    (written : WrittenCidr text family bytes length) :
    parseCidr text = .ok (maskedCidr family bytes length) := by
  obtain ⟨addressText, lengthText, same, absent, read, number, fits⟩ := written
  exact parseCidr_eq_ok.mpr
    ⟨addressText, lengthText, family, bytes, length, same, absent, read, number, fits, rfl⟩

theorem writtenCidr_of_parseCidr {text : Bytes} {cidr : BinaryCidr}
    (parsed : parseCidr text = .ok cidr) :
    ∃ bytes, WrittenCidr text cidr.family bytes cidr.prefixLength ∧
      cidr = maskedCidr cidr.family bytes cidr.prefixLength := by
  obtain ⟨addressText, lengthText, family, bytes, length, same, absent, read, number, fits, rfl⟩ :=
    parseCidr_eq_ok.mp parsed
  exact ⟨bytes, ⟨addressText, lengthText, same, absent, read, number, fits⟩, rfl⟩

theorem WrittenCidr.sized {text bytes : Bytes} {family : AddressFamily} {length : Nat}
    (written : WrittenCidr text family bytes length) : bytes.length = family.size := by
  obtain ⟨_, _, -, -, read, -, -⟩ := written
  exact length_of_inetPton read

theorem WrittenCidr.fits {text bytes : Bytes} {family : AddressFamily} {length : Nat}
    (written : WrittenCidr text family bytes length) : length ≤ family.bits := by
  obtain ⟨_, _, -, -, -, -, fits⟩ := written
  exact fits

/-- A text that parses denotes what its parsed form covers. -/
theorem denotes_of_parseCidr {text : Bytes} {cidr : BinaryCidr}
    (parsed : parseCidr text = .ok cidr) : Denotes text cidr.family cidr.Covers := by
  obtain ⟨bytes, written, same⟩ := writtenCidr_of_parseCidr parsed
  refine ⟨bytes, cidr.prefixLength, written, fun address => ?_⟩
  have covers := @covers_maskedCidr cidr.family bytes cidr.prefixLength address
    written.sized written.fits
  rwa [← same] at covers

/-- It denotes nothing else. -/
theorem Denotes.covers {text : Bytes} {family : AddressFamily} {range : IpAddress → Prop}
    (denotes : Denotes text family range) {cidr : BinaryCidr} (parsed : parseCidr text = .ok cidr) :
    cidr.family = family ∧ ∀ address, range address ↔ cidr.Covers address := by
  obtain ⟨bytes, length, written, exact⟩ := denotes
  obtain rfl := Except.ok.inj ((parseCidr_of_writtenCidr written).symm.trans parsed)
  exact ⟨rfl, fun address =>
    (exact address).trans (covers_maskedCidr written.sized written.fits).symm⟩

/-! ## Host bits -/

/-- A masked CIDR has the leading bits that were written, and zeros behind them. -/
theorem addressBit_maskedCidr {family : AddressFamily} {bytes : Bytes} {length : Nat}
    (sized : bytes.length = family.size) (bit : Nat) :
    addressBit (maskedCidr family bytes length).address bit =
      (decide (bit < length) && addressBit bytes bit) := by
  have small : bytes.length ≤ 16 := sized ▸ AddressFamily.size_le family
  simp only [maskedCidr]
  by_cases inside : bit < 8 * family.size
  · rw [addressBit_clearBits (by simpa using AddressFamily.size_le family) inside,
      addressBit_storeAddress small]
  · have behind : addressBit bytes bit = false :=
      addressBit_eq_false (by rw [sized]; omega)
    rw [addressBit_clearBits_behind (Nat.not_lt.mp inside), addressBit_storeAddress small, behind,
      Bool.and_false]

/-- The host bits are zero. -/
def BinaryCidr.HostBitsZero (cidr : BinaryCidr) : Prop :=
  ∀ bit, cidr.prefixLength ≤ bit → addressBit cidr.address bit = false

theorem hostBitsZero_of_parseCidr {text : Bytes} {cidr : BinaryCidr}
    (parsed : parseCidr text = .ok cidr) : cidr.HostBitsZero := by
  obtain ⟨bytes, written, same⟩ := writtenCidr_of_parseCidr parsed
  intro bit behind
  have masked := @addressBit_maskedCidr cidr.family bytes cidr.prefixLength written.sized bit
  rw [← same] at masked
  simp [masked, Nat.not_lt.mpr behind]

/-- CIDRs without host bits that cover the same addresses are equal. -/
theorem BinaryCidr.eq_of_covers {first second : BinaryCidr} (firstFits : first.Fits)
    (secondFits : second.Fits) (firstZero : first.HostBitsZero) (secondZero : second.HostBitsZero)
    (same : ∀ address, first.Covers address ↔ second.Covers address) : first = second := by
  have outer := containsCidr_of_covers firstFits secondFits fun address => (same address).mpr
  have inner := containsCidr_of_covers secondFits firstFits fun address => (same address).mp
  unfold containsCidr at outer inner
  split at outer
  · cases outer
  next comparable =>
    split at inner
    · cases inner
    next comparable' =>
      rw [not_or, Decidable.not_not, Nat.not_lt] at comparable comparable'
      have lengths : first.prefixLength = second.prefixLength :=
        Nat.le_antisymm comparable.2 comparable'.2
      have addresses : first.address = second.address := by
        refine eq_of_agree first.sixteen second.sixteen fun bit _ => ?_
        by_cases front : bit < first.prefixLength
        · exact sameBits_iff.mp outer bit front
        · rw [firstZero bit (Nat.not_lt.mp front),
            secondZero bit (lengths ▸ Nat.not_lt.mp front)]
      cases first
      cases second
      cases comparable.1
      cases lengths
      cases addresses
      rfl

/-! ## Canonical texts -/

/-- A CIDR without host bits is written so that its own address is read back. -/
theorem writtenCidr_formatCidr {cidr : BinaryCidr} (fits : cidr.Fits) :
    WrittenCidr (formatCidr cidr) cidr.family cidr.base.bytes cidr.prefixLength := by
  have plain : cString (inetNtop cidr.base.family cidr.base.bytes) =
      inetNtop cidr.base.family cidr.base.bytes := cString_eq (notMem_inetNtop (by decide))
  have small : cidr.prefixLength ≤ 2 ^ 32 - 1 := by
    have bits : cidr.family.bits ≤ 2 ^ 32 - 1 := by cases cidr.family <;> decide
    exact Nat.le_trans fits bits
  refine ⟨inetNtop cidr.base.family cidr.base.bytes, formatNat cidr.prefixLength, ?_,
    notMem_formatNat _ (by decide), plain.symm ▸ inetPton_inetNtop cidr.base,
    parseUnsigned_formatNat small, fits⟩
  simp only [formatCidr, List.append_assoc]
  rfl

theorem parseCidr_formatCidr {cidr : BinaryCidr} (fits : cidr.Fits) (zero : cidr.HostBitsZero) :
    parseCidr (formatCidr cidr) = .ok cidr := by
  have written := writtenCidr_formatCidr fits
  have parsed := parseCidr_of_writtenCidr written
  rw [parsed]
  refine congrArg _ (BinaryCidr.eq_of_covers fits fits (hostBitsZero_of_parseCidr parsed) zero ?_)
  intro address
  rw [covers_maskedCidr written.sized fits]
  have base : Agree cidr.prefixLength cidr.base.bytes cidr.address :=
    (covers_base fits).2.symm
  exact and_congr_right fun _ => ⟨base.symm.trans, base.trans⟩

theorem canonicalizeCidr_eq_ok {text result : Bytes} :
    canonicalizeCidr text = .ok result ↔
      ∃ cidr, parseCidr text = .ok cidr ∧ result = formatCidr cidr := by
  unfold canonicalizeCidr
  cases parsed : parseCidr text with
  | error failure => simp
  | ok cidr =>
      have filled : ¬ (formatCidr cidr).isEmpty = true := by
        simp [formatCidr, show ascii "/" ≠ [] by decide]
      simp only [if_neg filled, Except.ok.injEq, exists_eq_left']
      exact eq_comm

/-- The canonical text of what was written denotes the same addresses, is written
without host bits and is its own canonical text; and the canonical texts of two
texts are equal just when both denote the same addresses of the same family. -/
theorem canonicalizeCidr_normal_form :
    (∀ text result, canonicalizeCidr text = .ok result →
      (∃ family range, Denotes text family range ∧ Denotes result family range) ∧
      (∃ family bytes length, WrittenCidr result family bytes length ∧
        ∀ bit, length ≤ bit → addressBit bytes bit = false) ∧
      canonicalizeCidr result = .ok result) ∧
    ∀ first second firstResult secondResult, canonicalizeCidr first = .ok firstResult →
      canonicalizeCidr second = .ok secondResult →
      (firstResult = secondResult ↔
        ∃ family range, Denotes first family range ∧ Denotes second family range) := by
  constructor
  · intro text result canonical
    obtain ⟨cidr, parsed, rfl⟩ := canonicalizeCidr_eq_ok.mp canonical
    have fits := fits_of_parseCidr parsed
    have zero := hostBitsZero_of_parseCidr parsed
    have again := parseCidr_formatCidr fits zero
    refine ⟨⟨_, _, denotes_of_parseCidr parsed, denotes_of_parseCidr again⟩,
      ⟨_, _, _, writtenCidr_formatCidr fits, ?_⟩, canonicalizeCidr_eq_ok.mpr ⟨cidr, again, rfl⟩⟩
    intro bit behind
    by_cases inside : bit < 8 * cidr.family.size
    · exact (addressBit_take inside).trans (zero bit behind)
    · exact addressBit_eq_false (by rw [cidr.base.sized]; exact Nat.not_lt.mp inside)
  · intro first second firstResult secondResult firstCanonical secondCanonical
    obtain ⟨cidr, parsed, rfl⟩ := canonicalizeCidr_eq_ok.mp firstCanonical
    obtain ⟨other, otherParsed, rfl⟩ := canonicalizeCidr_eq_ok.mp secondCanonical
    have fits := fits_of_parseCidr parsed
    have otherFits := fits_of_parseCidr otherParsed
    have zero := hostBitsZero_of_parseCidr parsed
    have otherZero := hostBitsZero_of_parseCidr otherParsed
    constructor
    · intro same
      have read := congrArg parseCidr same
      rw [parseCidr_formatCidr fits zero, parseCidr_formatCidr otherFits otherZero] at read
      obtain rfl := Except.ok.inj read
      exact ⟨_, _, denotes_of_parseCidr parsed, denotes_of_parseCidr otherParsed⟩
    · rintro ⟨family, range, denotes, otherDenotes⟩
      obtain ⟨-, covers⟩ := denotes.covers parsed
      obtain ⟨-, otherCovers⟩ := otherDenotes.covers otherParsed
      have same (address : IpAddress) : cidr.Covers address ↔ other.Covers address :=
        (covers address).symm.trans (otherCovers address)
      rw [BinaryCidr.eq_of_covers fits otherFits zero otherZero same]

/-- Two spellings of one range, and a narrower range. -/
theorem canonicalizeCidr_normal_form_example :
    (∃ family range, Denotes (ascii "10.200.3.4/9") family range ∧
      Denotes (ascii "10.128.0.255/09") family range) ∧
    (¬ ∃ family range, Denotes (ascii "10.200.3.4/9") family range ∧
      Denotes (ascii "10.200.3.4/10") family range) ∧
    canonicalizeCidr (ascii "2001:db8::/33") = .ok (ascii "2001:db8::/33") := by
  have spelled : canonicalizeCidr (ascii "10.200.3.4/9") = .ok (ascii "10.128.0.0/9") := by
    decide +kernel
  have spelledAgain : canonicalizeCidr (ascii "10.128.0.255/09") = .ok (ascii "10.128.0.0/9") := by
    decide +kernel
  have narrower : canonicalizeCidr (ascii "10.200.3.4/10") = .ok (ascii "10.192.0.0/10") := by
    decide +kernel
  have sixth : canonicalizeCidr (ascii "2001:DB8:0::ffff/33") = .ok (ascii "2001:db8::/33") := by
    decide +kernel
  obtain ⟨canonical, unique⟩ := canonicalizeCidr_normal_form
  refine ⟨(unique _ _ _ _ spelled spelledAgain).mp rfl, fun same => ?_, (canonical _ _ sixth).2.2⟩
  exact absurd ((unique _ _ _ _ spelled narrower).mpr same) (by decide)

end TunProxy
