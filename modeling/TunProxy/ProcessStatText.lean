import TunProxy.RuntimeStateText

/-!
# Process start times

The kernel describes a process in one line, with the process name in
parentheses and the start time as field 22.  The name may hold any byte, so
the fields are counted from the last closing parenthesis.
-/

namespace TunProxy

open ByteText

/-- `RuntimeStateStore::processStartTicks` on what `readTextFile` gave.  The
fields after the name start with field 3. -/
def parseStartTicks (content : Result Bytes) : Result Nat :=
  match content with
  | .error _ => .error (makeError .stateError (ascii "process does not exist"))
  | .ok text =>
      match splitLast closeParenthesis text with
      | none => .error (makeError .stateError (ascii "invalid process stat"))
      | some (_, back) =>
          if back.length ≤ 1 then
            .error (makeError .stateError (ascii "invalid process stat"))
          else
            match (words (back.drop 1))[22 - 3]? with
            | none => .error (makeError .stateError (ascii "short process stat"))
            | some field =>
                match parseInteger field (ascii "process start time") with
                | .ok ticks =>
                    if ticks ≤ 0 then
                      .error (makeError .stateError (ascii "invalid process start time"))
                    else .ok ticks.toNat
                | .error _ =>
                    .error (makeError .stateError (ascii "invalid process start time"))

/-- A text of the kernel's form: anything up to the name's end, then a blank
and the fields from the third on. -/
def IsStatText (text : Bytes) (fields : List Bytes) : Prop :=
  ∃ front rest, text = front ++ closeParenthesis :: 32 :: rest ∧
    closeParenthesis ∉ rest ∧ words rest = fields

/-- A text that describes a process with the given start time. -/
def StatText (text : Bytes) (ticks : Nat) : Prop :=
  ∃ fields, IsStatText text fields ∧ fields[22 - 3]? = some (formatNat ticks)

/-- The start time is found whatever the process is called, and refused if it is
zero or does not fit. -/
theorem parseStartTicks_eq {text : Bytes} {ticks : Nat} (stat : StatText text ticks) :
    parseStartTicks (.ok text) =
      if 0 < ticks ∧ ticks < 2 ^ 63 then .ok ticks
      else .error (makeError .stateError (ascii "invalid process start time")) := by
  obtain ⟨fields, ⟨front, rest, rfl, absent, rfl⟩, field⟩ := stat
  have absent' : closeParenthesis ∉ (32 : UInt8) :: rest := by
    simp only [List.mem_cons, not_or]
    exact ⟨by decide, absent⟩
  have long : ¬ ((32 : UInt8) :: rest).length ≤ 1 := by
    cases rest with
    | nil => simp [words, wordsFrom] at field
    | cons byte rest => simp
  simp only [parseStartTicks, splitLast_append front absent', long, if_false, List.drop_one,
    List.tail_cons, field, parseInteger, parseSigned_formatNat_eq]
  by_cases fits : ticks < 2 ^ 63
  · have inside : (-2 ^ 63 : Int) ≤ ticks ∧ (ticks : Int) ≤ 2 ^ 63 - 1 := by omega
    rw [if_pos inside]
    by_cases positive : 0 < ticks
    · have notZero : ¬ (ticks : Int) ≤ 0 := by omega
      rw [if_pos ⟨positive, fits⟩]
      simp only [notZero, if_false, Int.toNat_natCast]
    · have zero : (ticks : Int) ≤ 0 := by omega
      rw [if_neg fun both => positive both.1]
      simp only [zero, if_true]
  · have outside : ¬ ((-2 ^ 63 : Int) ≤ ticks ∧ (ticks : Int) ≤ 2 ^ 63 - 1) := by omega
    rw [if_neg outside, if_neg fun both => fits both.2]

theorem parseStartTicks_of_statText {text : Bytes} {ticks : Nat} (stat : StatText text ticks)
    (positive : 0 < ticks) (small : ticks < 2 ^ 63) :
    parseStartTicks (.ok text) = .ok ticks := by
  rw [parseStartTicks_eq stat, if_pos ⟨positive, small⟩]

/-- No other start time is ever read. -/
theorem eq_of_parseStartTicks {text : Bytes} {ticks read : Nat} (stat : StatText text ticks)
    (parsed : parseStartTicks (.ok text) = .ok read) : read = ticks := by
  rw [parseStartTicks_eq stat] at parsed
  split at parsed
  · exact (Except.ok.inj parsed).symm
  · cases parsed

end TunProxy
