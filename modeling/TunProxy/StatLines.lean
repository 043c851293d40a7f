import TunProxy.DecimalText
import TunProxy.RuntimeStateStore

/-!
# The line that describes a process

A process chooses its name, and the kernel writes it into the line before the
fields.  Whatever bytes the name has, the start time is taken from field 22 and
from no other place.
-/

namespace TunProxy

open ByteText EffectProgram

/-! ## Separated fields -/

def Blank (text : Bytes) : Prop :=
  ∀ byte ∈ text, isSpace byte = true

/-- A field has no blank in it. -/
structure Solid (field : Bytes) : Prop where
  nonempty : field ≠ []
  solid : ∀ byte ∈ field, isSpace byte = false

/-- The fields in their order with blanks between them, and perhaps behind them. -/
inductive Separated : List Bytes → Bytes → Prop
  | none {blanks : Bytes} (blank : Blank blanks) : Separated [] blanks
  | last {field : Bytes} (solid : Solid field) : Separated [field] field
  | cons {field blanks rest : Bytes} {fields : List Bytes} (solid : Solid field)
      (some : blanks ≠ []) (blank : Blank blanks) (separated : Separated fields rest) :
      Separated (field :: fields) (field ++ blanks ++ rest)

/-- Fields with a blank between each two of them. -/
theorem separated_flatMap {front : List Bytes} {last : Bytes} (solid : ∀ field ∈ front, Solid field)
    (solidLast : Solid last) :
    Separated (front ++ [last]) (front.flatMap (fun field => field ++ [32]) ++ last) := by
  induction front with
  | nil => exact .last solidLast
  | cons field front ih =>
      obtain ⟨here, others⟩ := List.forall_mem_cons.mp solid
      have blank : Blank [32] := by
        intro byte member
        rw [List.mem_singleton.mp member]
        rfl
      rw [List.flatMap_cons, List.append_assoc]
      exact .cons here (List.cons_ne_nil 32 []) blank (ih others)

theorem words_blanks {blanks : Bytes} (blank : Blank blanks) (rest : Bytes) :
    words (blanks ++ rest) = words rest := by
  induction blanks with
  | nil => rfl
  | cons byte blanks ih =>
      obtain ⟨here, others⟩ := List.forall_mem_cons.mp blank
      have skipped : words (byte :: (blanks ++ rest)) = words (blanks ++ rest) := by
        simp [words, wordsFrom, here]
      rw [List.cons_append, skipped, ih others]

theorem words_separated {fields : List Bytes} {text : Bytes} (separated : Separated fields text) :
    words text = fields := by
  induction separated with
  | @none blanks blank =>
      have skipped := words_blanks blank []
      rwa [List.append_nil] at skipped
  | last solid => exact words_of_solid solid.nonempty solid.solid
  | @cons field blanks rest fields solid some blank separated ih =>
      cases blanks with
      | nil => exact absurd rfl some
      | cons byte blanks =>
          obtain ⟨here, others⟩ := List.forall_mem_cons.mp blank
          rw [List.append_assoc, List.cons_append, words_append _ solid.nonempty solid.solid here,
            words_blanks others, ih]

/-- The line has the pid, the name in parentheses and the fields from the third
on, none of which has a closing parenthesis. -/
structure StatLine (text : Bytes) (name : Bytes) (fields : List Bytes) : Prop where
  shape : ∃ (pid : Nat) (blanks rest : Bytes),
    text = formatNat pid ++ ascii " (" ++ name ++ ascii ")" ++ blanks ++ rest ∧
      Blank blanks ∧ (fields ≠ [] → blanks ≠ []) ∧ Separated fields rest
  plain : ∀ field ∈ fields, closeParenthesis ∉ field

/-- The line of a process with a blank in front of the fields. -/
theorem Separated.statLine {fields : List Bytes} {rest : Bytes} (separated : Separated fields rest)
    (plain : ∀ field ∈ fields, closeParenthesis ∉ field) (pid : Nat) (name : Bytes) :
    StatLine (formatNat pid ++ ascii " (" ++ name ++ ascii ")" ++ [32] ++ rest) name fields := by
  refine ⟨⟨pid, [32], rest, rfl, ?_, fun _ => List.cons_ne_nil 32 [], separated⟩, plain⟩
  intro byte member
  rw [List.mem_singleton.mp member]
  rfl

theorem notMem_blanks {blanks : Bytes} (blank : Blank blanks) : closeParenthesis ∉ blanks := by
  intro member
  exact absurd (blank closeParenthesis member) (by decide)

theorem notMem_separated {fields : List Bytes} {text : Bytes} (separated : Separated fields text)
    (plain : ∀ field ∈ fields, closeParenthesis ∉ field) : closeParenthesis ∉ text := by
  induction separated with
  | none blank => exact notMem_blanks blank
  | last solid => exact plain _ List.mem_cons_self
  | cons solid some blank separated ih =>
      obtain ⟨here, others⟩ := List.forall_mem_cons.mp plain
      simp only [List.mem_append, not_or]
      exact ⟨⟨here, notMem_blanks blank⟩, ih others⟩

/-! ## The start time -/

/-- The start time that field 22 gives, which is the twentieth behind the name. -/
def StartTicks (fields : List Bytes) (ticks : Nat) : Prop :=
  ∃ field, fields[22 - 3]? = some field ∧ IsNumeral field ticks ∧ 1 ≤ ticks ∧ ticks ≤ 2 ^ 63 - 1

/-- A positive `long long` is a numeral without a sign. -/
theorem parseInteger_eq_ok_of_pos {field name : Bytes} {ticks : Nat} :
    (∃ value, parseInteger field name = .ok value ∧ ¬ value ≤ 0 ∧ value.toNat = ticks) ↔
      IsNumeral field ticks ∧ 1 ≤ ticks ∧ ticks ≤ 2 ^ 63 - 1 := by
  have read (value : Int) : parseInteger field name = .ok value ↔
      parseSigned (-2 ^ 63) (2 ^ 63 - 1) field = some value := by
    unfold parseInteger
    cases parseSigned (-2 ^ 63) (2 ^ 63 - 1) field with
    | none => simp
    | some other => simp
  simp only [read, parseSigned_eq_some]
  constructor
  · rintro ⟨value, ⟨integer, -, high⟩, positive, rfl⟩
    cases integer with
    | nonnegative numeral =>
        simp only [Int.toNat_natCast]
        exact ⟨numeral, by omega, by omega⟩
    | negated numeral => exact absurd (by omega) positive
  · rintro ⟨numeral, low, high⟩
    exact ⟨ticks, ⟨.nonnegative numeral, by omega, by omega⟩, by omega, Int.toNat_natCast ticks⟩

/-- Behind the last closing parenthesis, the fields alone decide. -/
theorem parseStartTicks_append_eq_ok {front back : Bytes} {ticks : Nat}
    (absent : closeParenthesis ∉ back) :
    parseStartTicks (.ok (front ++ closeParenthesis :: back)) = .ok ticks ↔
      StartTicks (words (back.drop 1)) ticks := by
  simp only [parseStartTicks, splitLast_append front absent, StartTicks]
  split
  next short =>
    have nothing : back.drop 1 = [] := List.drop_eq_nil_of_le short
    simp [nothing, words, wordsFrom]
  next =>
    cases (words (back.drop 1))[22 - 3]? with
    | none => simp
    | some field =>
        simp only [Option.some.injEq, exists_eq_left',
          ← @parseInteger_eq_ok_of_pos field (ascii "process start time") ticks]
        cases parseInteger field (ascii "process start time") with
        | error failure => simp
        | ok value =>
            by_cases negative : value ≤ 0
            · simp [negative]
            · simp [negative, Int.not_le.mp negative]

/-- What stands behind the name of a line. -/
theorem StatLine.split {text name : Bytes} {fields : List Bytes}
    (line : StatLine text name fields) :
    ∃ front back, text = front ++ closeParenthesis :: back ∧ closeParenthesis ∉ back ∧
      words (back.drop 1) = fields := by
  obtain ⟨pid, blanks, rest, rfl, blank, between, separated⟩ := line.shape
  refine ⟨formatNat pid ++ ascii " (" ++ name, blanks ++ rest, ?_, ?_, ?_⟩
  · simp [show ascii ")" = [closeParenthesis] from rfl]
  · simp only [List.mem_append, not_or]
    exact ⟨notMem_blanks blank, notMem_separated separated line.plain⟩
  · cases blanks with
    | nil =>
        have none : fields = [] := by
          by_contra some
          exact between some rfl
        subst none
        cases separated with
        | none blank =>
            have dropped : Blank (rest.drop 1) :=
              fun byte member => blank byte (List.mem_of_mem_drop member)
            exact words_separated (.none dropped)
    | cons byte blanks =>
        obtain ⟨-, others⟩ := List.forall_mem_cons.mp blank
        rw [List.cons_append, List.drop_one, List.tail_cons, words_blanks others]
        exact words_separated separated

/-- The line of a process is read once.  Its start time is field 22 if the line has
that many and this one is a numeral within bounds, else reading it fails; the
name of the process plays no part. -/
theorem processStartTicks_statLine (pid : Int) {text name : Bytes} {fields : List Bytes}
    (line : StatLine text name fields) :
    ∃ next, processStartTicks pid = .call (.readTextFile (.processStat pid)) next ∧
      (∀ ticks, next (.ok text) = .done (.ok ticks) ↔ StartTicks fields ticks) ∧
      ((¬ ∃ ticks, StartTicks fields ticks) →
        ∃ failure, next (.ok text) = .done (.error failure)) := by
  obtain ⟨front, back, rfl, absent, rfl⟩ := line.split
  refine ⟨fun content => .done (parseStartTicks content), rfl, fun ticks => ?_, fun nowhere => ?_⟩
  · rw [EffectProgram.done.injEq]
    exact parseStartTicks_append_eq_ok absent
  · cases parsed : parseStartTicks (.ok (front ++ closeParenthesis :: back)) with
    | ok ticks => exact absurd ⟨ticks, (parseStartTicks_append_eq_ok absent).mp parsed⟩ nowhere
    | error failure => exact ⟨failure, congrArg EffectProgram.done parsed⟩

/-- A name that looks like the fields of another process. -/
theorem processStartTicks_statLine_example : ∃ text fields,
    StatLine text (ascii "a) S 1 2 3 (b") fields ∧ StartTicks fields 812 ∧
      ∃ next, processStartTicks 7 = .call (.readTextFile (.processStat 7)) next ∧
        next (.ok text) = .done (.ok 812) := by
  have solid : ∀ field ∈ ascii "S" :: List.replicate 18 (ascii "0"), Solid field := by
    intro field member
    rcases List.mem_cons.mp member with rfl | zero
    · exact ⟨by decide, solid_of_all (by decide)⟩
    · rw [List.eq_of_mem_replicate zero]
      exact ⟨by decide, solid_of_all (by decide)⟩
  have separated := @separated_flatMap _ (ascii "812") solid ⟨by decide, solid_of_all (by decide)⟩
  have plain : ∀ field ∈ ascii "S" :: List.replicate 18 (ascii "0") ++ [ascii "812"],
      closeParenthesis ∉ field := by decide
  have line := separated.statLine plain 7 (ascii "a) S 1 2 3 (b")
  have ticks : StartTicks (ascii "S" :: List.replicate 18 (ascii "0") ++ [ascii "812"]) 812 :=
    ⟨ascii "812", by decide, isNumeral_formatNat 812, by decide, by decide⟩
  obtain ⟨next, program, succeeds, -⟩ := processStartTicks_statLine 7 line
  exact ⟨_, _, line, ticks, next, program, (succeeds 812).mpr ticks⟩

end TunProxy
