import TunProxy.ByteText

/-!
# Address prefixes

An internet address is four or sixteen bytes, its bits counted from the most
significant bit of the first byte.  A prefix stands for the addresses that
agree with it in its leading bits.  This file has the bits of byte lists, the
clearing of the bits behind a prefix, and when the addresses of one prefix have
another one.
-/

namespace AddressPrefix

open ByteText

inductive AddressFamily
  | inet
  | inet6
  deriving DecidableEq, Repr

/-- Bytes of an address. -/
def AddressFamily.size : AddressFamily → Nat
  | .inet => 4
  | .inet6 => 16

/-- Bits of an address. -/
def AddressFamily.bits (family : AddressFamily) : Nat :=
  8 * family.size

theorem AddressFamily.size_le (family : AddressFamily) : family.size ≤ 16 := by
  cases family <;> decide

structure IpAddress where
  family : AddressFamily
  bytes : Bytes
  sized : bytes.length = family.size
  deriving DecidableEq

theorem IpAddress.eq_of {first second : IpAddress} (family : first.family = second.family)
    (bytes : first.bytes = second.bytes) : first = second := by
  cases first
  cases second
  cases family
  cases bytes
  rfl

theorem IpAddress.length_le (address : IpAddress) : address.bytes.length ≤ 16 :=
  address.sized ▸ AddressFamily.size_le address.family

/-! ## Bits -/

/-- Bit number `bit` of a byte list, `(address[bit / 8] >> (7 - bit % 8)) & 1`. -/
def addressBit (address : Bytes) (bit : Nat) : Bool :=
  (address.getD (bit / 8) 0).toNat.testBit (7 - bit % 8)

/-- Two byte lists have the same leading bits. -/
def Agree (count : Nat) (first second : Bytes) : Prop :=
  ∀ bit < count, addressBit first bit = addressBit second bit

instance (count : Nat) (first second : Bytes) : Decidable (Agree count first second) :=
  inferInstanceAs (Decidable (∀ bit < count, _))

/-- The loop that compares leading bits. -/
def sameBits (count : Nat) (first second : Bytes) : Bool :=
  (List.range count).all fun bit => addressBit first bit == addressBit second bit

@[simp] theorem sameBits_iff {count : Nat} {first second : Bytes} :
    sameBits count first second = true ↔ Agree count first second := by
  simp [sameBits, Agree]

theorem Agree.symm {count : Nat} {first second : Bytes} (agree : Agree count first second) :
    Agree count second first :=
  fun bit small => (agree bit small).symm

theorem Agree.trans {count : Nat} {first second third : Bytes}
    (left : Agree count first second) (right : Agree count second third) :
    Agree count first third :=
  fun bit small => (left bit small).trans (right bit small)

theorem Agree.mono {count fewer : Nat} {first second : Bytes} (agree : Agree count first second)
    (le : fewer ≤ count) : Agree fewer first second :=
  fun bit small => agree bit (Nat.lt_of_lt_of_le small le)

/-- Byte lists of one length that agree in all bits are equal. -/
theorem eq_of_agree {first second : Bytes} {size : Nat} (sized : first.length = size)
    (sized' : second.length = size) (agree : Agree (8 * size) first second) :
    first = second := by
  refine List.ext_getElem (sized.trans sized'.symm) fun index below below' => ?_
  apply UInt8.toNat.inj
  apply Nat.eq_of_testBit_eq
  intro place
  by_cases small : place < 8
  · have same := agree (8 * index + (7 - place)) (by omega)
    have quotient : (8 * index + (7 - place)) / 8 = index := by omega
    have remainder : 7 - (8 * index + (7 - place)) % 8 = place := by omega
    simp only [addressBit, quotient, remainder] at same
    simpa [below, below'] using same
  · have large : 2 ^ 8 ≤ 2 ^ place := Nat.pow_le_pow_right (by omega) (by omega)
    rw [Nat.testBit_lt_two_pow (Nat.lt_of_lt_of_le (UInt8.toNat_lt _) large),
      Nat.testBit_lt_two_pow (Nat.lt_of_lt_of_le (UInt8.toNat_lt _) large)]

/-! ## Clearing the bits behind a prefix -/

/-- `std::fill` with zero from one position up to another. -/
def fillZero (start stop : Nat) (bytes : Bytes) : Bytes :=
  bytes.mapIdx fun index byte => if start ≤ index ∧ index < stop then 0 else byte

/-- Clear all bits from number `count` on in the first `size` bytes. -/
def clearBits (size count : Nat) (address : Bytes) : Bytes :=
  let fullBytes := count / 8
  let remainingBits := count % 8
  let masked :=
    if remainingBits ≠ 0 ∧ fullBytes < size then
      address.modify fullBytes fun byte => byte &&& (0xff <<< (8 - remainingBits)).toUInt8
    else address
  fillZero (fullBytes + if remainingBits = 0 then 0 else 1) size masked

@[simp] theorem fillZero_length (start stop : Nat) (bytes : Bytes) :
    (fillZero start stop bytes).length = bytes.length := by
  simp [fillZero]

@[simp] theorem clearBits_length (size count : Nat) (address : Bytes) :
    (clearBits size count address).length = address.length := by
  simp only [clearBits, fillZero_length]
  split <;> simp

theorem getD_fillZero (start stop index : Nat) (bytes : Bytes) :
    (fillZero start stop bytes).getD index 0 =
      if start ≤ index ∧ index < stop then 0 else bytes.getD index 0 := by
  by_cases below : index < bytes.length
  · simp [fillZero, List.getD_eq_getElem?_getD, below]
  · simp [fillZero, List.getD_eq_getElem?_getD, below]

theorem getD_modify (place index : Nat) (change : UInt8 → UInt8) {bytes : Bytes}
    (below : index < bytes.length) :
    (bytes.modify place change).getD index 0 =
      if place = index then change (bytes.getD index 0) else bytes.getD index 0 := by
  simp only [List.getD_eq_getElem?_getD, List.getElem?_modify, below,
    List.getElem?_eq_getElem, Option.map_eq_map, Option.map_some, Option.getD_some]

/-- A mask of leading ones keeps the leading bits of a byte. -/
theorem testBit_mask {byte : UInt8} {count bit : Nat} (some : 0 < count) (few : count < 8)
    (inside : bit < 8) :
    (byte &&& (0xff <<< (8 - count)).toUInt8).toNat.testBit (7 - bit) =
      (decide (bit < count) && byte.toNat.testBit (7 - bit)) := by
  have ones : (0xff : Nat) = 2 ^ 8 - 1 := rfl
  have shifted : (7 - bit ≥ 8 - count) ↔ bit < count := by omega
  have width : 7 - bit < 8 := by omega
  have width' : 7 - bit - (8 - count) < 8 := by omega
  rw [UInt8.toNat_and, Nat.testBit_and, Nat.toUInt8, UInt8.toNat_ofNat', Nat.testBit_mod_two_pow,
    Nat.testBit_shiftLeft, ones, Nat.testBit_two_pow_sub_one]
  simp only [width, width', shifted, decide_true, Bool.true_and, Bool.and_true]
  exact Bool.and_comm _ _

/-- What is left after clearing: the leading bits, and zeros behind them. -/
theorem addressBit_clearBits {size count bit : Nat} {address : Bytes}
    (sized : size ≤ address.length) (inside : bit < 8 * size) :
    addressBit (clearBits size count address) bit =
      (decide (bit < count) && addressBit address bit) := by
  have within : bit / 8 < size := by omega
  have withinAddress : bit / 8 < address.length := by omega
  simp only [addressBit, clearBits, getD_fillZero, within, and_true]
  by_cases ragged : count % 8 = 0
  · simp only [ragged, if_true, Nat.add_zero, ne_eq, not_true_eq_false, false_and, if_false]
    by_cases front : bit < count
    · have kept : ¬ count / 8 ≤ bit / 8 := by omega
      simp only [kept, if_false, front, decide_true, Bool.true_and]
    · have cleared : count / 8 ≤ bit / 8 := by omega
      simp [cleared, front]
  · by_cases behind : count / 8 + 1 ≤ bit / 8
    · have back : ¬ bit < count := by omega
      simp [ragged, behind, back]
    · simp only [ragged, if_false, behind, ne_eq, not_false_eq_true, true_and]
      by_cases last : count / 8 = bit / 8
      · have lastBits : bit < count ↔ bit % 8 < count % 8 := by omega
        simp only [last, within, if_true, getD_modify _ _ _ withinAddress]
        rw [testBit_mask (by omega) (by omega) (by omega), decide_eq_decide.mpr lastBits]
      · have front : bit < count := by omega
        simp only [front, decide_true, Bool.true_and]
        split
        · simp only [getD_modify _ _ _ withinAddress, last, if_false]
        · rfl

/-- Bits behind the address are left as they are. -/
theorem addressBit_clearBits_behind {size count bit : Nat} {address : Bytes}
    (behind : 8 * size ≤ bit) :
    addressBit (clearBits size count address) bit = addressBit address bit := by
  have outside : ¬ bit / 8 < size := by omega
  simp only [addressBit, clearBits, getD_fillZero, outside, and_false, if_false]
  split
  next masked =>
    have other : count / 8 ≠ bit / 8 := by omega
    simp [other]
  next => rfl

theorem addressBit_eq_false {bytes : Bytes} {bit : Nat} (behind : 8 * bytes.length ≤ bit) :
    addressBit bytes bit = false := by
  have outside : bytes.length ≤ bit / 8 := by omega
  simp [addressBit, outside]

theorem agree_clearBits {size count : Nat} {address : Bytes} (sized : size ≤ address.length)
    (fits : count ≤ 8 * size) : Agree count (clearBits size count address) address := by
  intro bit small
  rw [addressBit_clearBits sized (by omega)]
  simp [small]

/-! ## Inclusion and intersection -/

/-- Change bit number `bit`. -/
def flipBit (bit : Nat) (address : Bytes) : Bytes :=
  address.modify (bit / 8) fun byte => byte ^^^ (1 <<< (7 - bit % 8)).toUInt8

@[simp] theorem flipBit_length (bit : Nat) (address : Bytes) :
    (flipBit bit address).length = address.length := by
  simp [flipBit]

theorem addressBit_flipBit {address : Bytes} {bit other : Nat}
    (inside : other < 8 * address.length) :
    addressBit (flipBit bit address) other =
      (addressBit address other ^^ decide (other = bit)) := by
  have within : other / 8 < address.length := by omega
  simp only [addressBit, flipBit, getD_modify _ _ _ within]
  by_cases same : bit / 8 = other / 8
  · have width : 7 - other % 8 < 8 := by omega
    have places : 7 - bit % 8 = 7 - other % 8 ↔ other = bit := by omega
    simp only [same, if_true, UInt8.toNat_xor, Nat.testBit_xor, Nat.toUInt8, UInt8.toNat_ofNat',
      Nat.testBit_mod_two_pow, width, decide_true, Bool.true_and, Nat.one_shiftLeft,
      Nat.testBit_two_pow, decide_eq_decide.mpr places]
  · have other : other ≠ bit := by
      rintro rfl
      exact same rfl
    simp [same, other]

theorem agree_flipBit {address : Bytes} {bit : Nat} (inside : bit ≤ 8 * address.length) :
    Agree bit (flipBit bit address) address := by
  intro place small
  have other : place ≠ bit := by omega
  rw [addressBit_flipBit (by omega)]
  simp [other]

theorem addressBit_take {address : Bytes} {size bit : Nat} (inside : bit < 8 * size) :
    addressBit (address.take size) bit = addressBit address bit := by
  have below : bit / 8 < size := by omega
  simp only [addressBit, List.getD_eq_getElem?_getD, List.getElem?_take, below, if_true]

theorem agree_take {size count : Nat} {address : Bytes} (fits : count ≤ 8 * size) :
    Agree count (address.take size) address :=
  fun _ small => addressBit_take (Nat.lt_of_lt_of_le small fits)

/-- Every address with one prefix has the other one exactly when the other one is
a part of it. -/
theorem forall_agree_iff {size few many : Nat} {outer inner : Bytes}
    (sized : size ≤ inner.length) (fits : few ≤ 8 * size) (fits' : many ≤ 8 * size) :
    (∀ address : Bytes, address.length = size → Agree many inner address →
      Agree few outer address) ↔ few ≤ many ∧ Agree few outer inner := by
  constructor
  · intro included
    have taken : (inner.take size).length = size := List.length_take_of_le sized
    have agree := included (inner.take size) taken (agree_take fits').symm
    refine ⟨?_, agree.trans (agree_take fits)⟩
    by_contra longer
    have strict : many < few := Nat.lt_of_not_le longer
    -- The inner prefix says nothing of its next bit, and the outer one fixes it.
    have flipped : Agree many inner (flipBit many (inner.take size)) :=
      ((agree_flipBit (by omega)).trans (agree_take fits')).symm
    have other := included (flipBit many (inner.take size)) (by simp [sized]) flipped
    have clash := (agree.symm.trans other) many strict
    rw [addressBit_flipBit (by omega)] at clash
    simp at clash
  · rintro ⟨shorter, agree⟩ address - covered
    exact agree.trans (covered.mono shorter)

/-- Two prefixes have an address in common exactly when they agree as far as both
of them go. -/
theorem exists_agree_iff {size count count' : Nat} {first second : Bytes}
    (sized : size ≤ first.length) (sized' : size ≤ second.length) (fits : count ≤ 8 * size)
    (fits' : count' ≤ 8 * size) :
    (∃ address : Bytes, address.length = size ∧ Agree count first address ∧
      Agree count' second address) ↔ Agree (min count count') first second := by
  constructor
  · rintro ⟨address, -, left, right⟩
    exact (left.mono (Nat.min_le_left _ _)).trans (right.mono (Nat.min_le_right _ _)).symm
  · intro agree
    have taken : (first.take size).length = size := List.length_take_of_le sized
    have taken' : (second.take size).length = size := List.length_take_of_le sized'
    rcases Nat.le_total count count' with shorter | shorter
    · rw [Nat.min_eq_left shorter] at agree
      exact ⟨second.take size, taken', agree.trans (agree_take fits).symm, (agree_take fits').symm⟩
    · rw [Nat.min_eq_right shorter] at agree
      exact ⟨first.take size, taken, (agree_take fits).symm,
        agree.symm.trans (agree_take fits').symm⟩

/-! ## Indices -/

/-- `sameBits` with checked accesses to the arrays. -/
def checkedSameBits (first second : Bytes) : List Nat → Option Bool
  | [] => some true
  | bit :: bits =>
      match first[bit / 8]?, second[bit / 8]? with
      | some left, some right =>
          if left.toNat.testBit (7 - bit % 8) = right.toNat.testBit (7 - bit % 8) then
            checkedSameBits first second bits
          else some false
      | _, _ => none

theorem checkedSameBits_eq {count : Nat} {first second : Bytes} (fits : count ≤ 8 * first.length)
    (fits' : count ≤ 8 * second.length) :
    checkedSameBits first second (List.range count) = some (sameBits count first second) := by
  have general (bits : List Nat) (inside : ∀ bit ∈ bits, bit < count) :
      checkedSameBits first second bits =
        some (bits.all fun bit => addressBit first bit == addressBit second bit) := by
    induction bits with
    | nil => rfl
    | cons bit bits ih =>
        have here := inside bit List.mem_cons_self
        have left : bit / 8 < first.length := by omega
        have right : bit / 8 < second.length := by omega
        have rest := ih fun other member => inside other (List.mem_cons_of_mem _ member)
        have same : (addressBit first bit = addressBit second bit) ↔
            (first[bit / 8].toNat.testBit (7 - bit % 8) =
              second[bit / 8].toNat.testBit (7 - bit % 8)) := by
          simp [addressBit, List.getD_eq_getElem?_getD, left, right]
        simp only [checkedSameBits, List.getElem?_eq_getElem left, List.getElem?_eq_getElem right,
          ← same, rest, List.all_cons]
        split
        next equal => simp [equal]
        next different => simp [different]
  exact general (List.range count) fun bit member => List.mem_range.mp member

end AddressPrefix
