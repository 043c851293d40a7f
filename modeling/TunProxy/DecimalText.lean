import Mathlib.Data.Nat.Digits.Defs
import TunProxy.ByteText

/-!
# The numbers that decimal texts stand for

What the readers of decimal numbers accept, and which number they give, stated
by the positional value of the digits and not by the way they are read.
-/

namespace ByteText

/-- The text is decimal digits, at least one, with the given value. -/
def IsNumeral (text : Bytes) (value : Nat) : Prop :=
  ∃ digits : List Nat, digits ≠ [] ∧ (∀ digit ∈ digits, digit < 10) ∧
    text = digits.map digitByte ∧ value = Nat.ofDigits 10 digits.reverse

/-- The text is a numeral, perhaps behind a minus sign. -/
inductive IsInteger : Bytes → Int → Prop
  | nonnegative {text : Bytes} {value : Nat} (numeral : IsNumeral text value) :
      IsInteger text value
  | negated {text : Bytes} {value : Nat} (numeral : IsNumeral text value) :
      IsInteger (minus :: text) (-(value : Int))

theorem digitValue_eq_some {byte : UInt8} {digit : Nat} :
    digitValue byte = some digit ↔ digit < 10 ∧ byte = digitByte digit := by
  constructor
  · intro known
    unfold digitValue at known
    split at known
    next inside =>
      obtain rfl := Option.some.inj known
      have low : 48 ≤ byte.toNat := UInt8.le_iff_toNat_le.mp inside.1
      have high : byte.toNat ≤ 57 := UInt8.le_iff_toNat_le.mp inside.2
      have restored : 48 + (byte.toNat - 48) = byte.toNat := by omega
      refine ⟨by omega, ?_⟩
      rw [digitByte, restored]
      exact (UInt8.ofNat_toNat).symm
    next => cases known
  · rintro ⟨small, rfl⟩
    exact digitValue_digitByte small

/-- Reading digits onto a number shifts it and adds their value. -/
theorem parseDigits_eq_some {start result : Nat} {text : Bytes} :
    parseDigits start text = some result ↔ ∃ digits : List Nat, (∀ digit ∈ digits, digit < 10) ∧
      text = digits.map digitByte ∧
      result = start * 10 ^ digits.length + Nat.ofDigits 10 digits.reverse := by
  induction text generalizing start with
  | nil =>
      constructor
      · intro read
        obtain rfl := Option.some.inj read
        exact ⟨[], by simp⟩
      · rintro ⟨digits, -, none, rfl⟩
        obtain rfl := List.map_eq_nil_iff.mp none.symm
        simp [parseDigits]
  | cons byte text ih =>
      have shift (first : Nat) (digits : List Nat) :
          (start * 10 + first) * 10 ^ digits.length + Nat.ofDigits 10 digits.reverse =
            start * 10 ^ (first :: digits).length +
              Nat.ofDigits 10 (first :: digits).reverse := by
        rw [Nat.ofDigits_reverse_cons, List.length_cons, pow_succ]
        ring
      constructor
      · intro read
        simp only [parseDigits] at read
        cases known : digitValue byte with
        | none => simp [known] at read
        | some first =>
            obtain ⟨small, rfl⟩ := digitValue_eq_some.mp known
            simp only [known] at read
            obtain ⟨digits, others, rfl, rfl⟩ := ih.mp read
            exact ⟨first :: digits, List.forall_mem_cons.mpr ⟨small, others⟩, rfl,
              shift first digits⟩
      · rintro ⟨digits, small, split, rfl⟩
        cases digits with
        | nil => cases split
        | cons first digits =>
            simp only [List.map_cons, List.cons.injEq] at split
            obtain ⟨rfl, rfl⟩ := split
            have others := List.forall_mem_cons.mp small
            simp only [parseDigits, digitValue_digitByte others.1]
            exact ih.mpr ⟨digits, others.2, rfl, (shift first digits).symm⟩

theorem parseDigits_zero_eq_some {text : Bytes} {value : Nat} (nonempty : text ≠ []) :
    parseDigits 0 text = some value ↔ IsNumeral text value := by
  rw [parseDigits_eq_some]
  simp only [Nat.zero_mul, Nat.zero_add]
  constructor
  · rintro ⟨digits, small, rfl, rfl⟩
    exact ⟨digits, fun none => nonempty (by rw [none]; rfl), small, rfl, rfl⟩
  · rintro ⟨digits, -, small, rfl, rfl⟩
    exact ⟨digits, small, rfl, rfl⟩

theorem IsNumeral.ne_nil {text : Bytes} {value : Nat} (numeral : IsNumeral text value) :
    text ≠ [] := by
  obtain ⟨digits, some, -, rfl, -⟩ := numeral
  exact fun none => some (List.map_eq_nil_iff.mp none)

theorem IsNumeral.head_ne_minus {byte : UInt8} {text : Bytes} {value : Nat}
    (numeral : IsNumeral (byte :: text) value) : byte ≠ minus := by
  have read := (parseDigits_zero_eq_some (List.cons_ne_nil _ _)).mpr numeral
  have digit := isDigit_of_parseDigits read byte List.mem_cons_self
  rintro rfl
  exact absurd digit (by decide)

/-- A signed number is read exactly where the text is an integer within the
bounds. -/
theorem parseSigned_eq_some {low high value : Int} {text : Bytes} :
    parseSigned low high text = some value ↔ IsInteger text value ∧ low ≤ value ∧ value ≤ high := by
  unfold parseSigned
  simp only [Option.filter_eq_some_iff, Bool.and_eq_true, decide_eq_true_eq]
  refine and_congr_left fun _ => ?_
  cases text with
  | nil =>
      constructor
      · intro read
        cases read
      · intro integer
        cases integer with
        | nonnegative numeral => exact absurd rfl numeral.ne_nil
  | cons byte rest =>
      by_cases sign : byte = minus
      · subst sign
        by_cases bare : rest = []
        · subst bare
          constructor
          · intro read
            cases read
          · intro integer
            cases integer with
            | nonnegative numeral => exact absurd rfl numeral.head_ne_minus
            | negated numeral => exact absurd rfl numeral.ne_nil
        · simp only [if_true, List.isEmpty_iff, bare, if_false, Option.map_eq_some_iff,
            Option.bind_eq_bind, Option.pure_def, Option.bind_eq_some_iff, Option.some.injEq]
          constructor
          · rintro ⟨-, ⟨number, read, rfl⟩, rfl⟩
            exact .negated ((parseDigits_zero_eq_some bare).mp read)
          · intro integer
            cases integer with
            | nonnegative numeral => exact absurd rfl numeral.head_ne_minus
            | @negated _ number numeral =>
                exact ⟨number, ⟨number, (parseDigits_zero_eq_some bare).mpr numeral, rfl⟩, rfl⟩
      · simp only [sign, if_false, Option.map_eq_some_iff,
          Option.bind_eq_bind, Option.pure_def, Option.bind_eq_some_iff, Option.some.injEq]
        constructor
        · rintro ⟨-, ⟨number, read, rfl⟩, rfl⟩
          exact .nonnegative ((parseDigits_zero_eq_some (List.cons_ne_nil _ _)).mp read)
        · intro integer
          cases integer with
          | @nonnegative _ number numeral =>
              exact ⟨number, ⟨number,
                (parseDigits_zero_eq_some (List.cons_ne_nil _ _)).mpr numeral, rfl⟩, rfl⟩
          | negated numeral => exact absurd rfl sign

theorem isNumeral_formatNat (number : Nat) : IsNumeral (formatNat number) number :=
  (parseDigits_zero_eq_some (formatNat_ne_nil number)).mp (parseDigits_formatNat number)

theorem isInteger_formatInt (number : Int) : IsInteger (formatInt number) number := by
  cases number with
  | ofNat number => exact .nonnegative (isNumeral_formatNat number)
  | negSucc number => exact .negated (isNumeral_formatNat (number + 1))

/-- A text is not an integer in two ways. -/
theorem IsInteger.unique {text : Bytes} {first second : Int} (one : IsInteger text first)
    (other : IsInteger text second) : first = second := by
  have read (value : Int) (integer : IsInteger text value)
      (inside : value = first ∨ value = second) :
      parseSigned (min first second) (max first second) text = some value :=
    parseSigned_eq_some.mpr ⟨integer, by omega, by omega⟩
  exact Option.some.inj ((read first one (Or.inl rfl)).symm.trans (read second other (Or.inr rfl)))

end ByteText
