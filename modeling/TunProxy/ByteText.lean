import Mathlib.Algebra.Group.Int.Defs
import Mathlib.Algebra.Group.Nat.Defs
import Mathlib.Data.List.Basic
import Mathlib.Tactic.Common

/-!
# Byte texts

A `std::string` is a list of bytes: it may hold any byte, and nothing in it
need be valid in any encoding.  This file has the text operations that the
parsers and writers of a program share (literals, searching, lines, words,
separated lists, decimal numbers) and the round trips between them.
-/

namespace ByteText

abbrev Bytes := List UInt8

/-- The bytes of an ASCII literal. -/
def ascii (literal : String) : Bytes :=
  literal.toList.map fun character => character.toNat.toUInt8

/-- A literal by its characters. -/
theorem ascii_ofList (characters : List Char) :
    ascii (String.ofList characters) =
      characters.map fun character => character.toNat.toUInt8 := by
  simp [ascii]

def newline : UInt8 := 10
def comma : UInt8 := 44
def equals : UInt8 := 61
def slash : UInt8 := 47
def colon : UInt8 := 58
def minus : UInt8 := 45
def dot : UInt8 := 46
def closeParenthesis : UInt8 := 41
def openBracket : UInt8 := 91
def closeBracket : UInt8 := 93

/-- `std::isspace` in the C locale. -/
def isSpace (byte : UInt8) : Bool :=
  byte == 32 || (9 ≤ byte && byte ≤ 13)

/-- A text without blanks, by evaluation. -/
theorem solid_of_all {text : Bytes} (all : text.all (fun byte => !isSpace byte) = true) :
    ∀ byte ∈ text, isSpace byte = false := by
  intro byte member
  simpa using List.all_eq_true.mp all byte member

/-! ## Searching -/

/-- Split a text at the first occurrence of a byte, which is dropped. -/
def splitFirst (separator : UInt8) : Bytes → Option (Bytes × Bytes)
  | [] => none
  | byte :: rest =>
      if byte = separator then some ([], rest)
      else (splitFirst separator rest).map fun parts => (byte :: parts.1, parts.2)

/-- Split a text at the last occurrence of a byte, which is dropped. -/
def splitLast (separator : UInt8) : Bytes → Option (Bytes × Bytes)
  | [] => none
  | byte :: rest =>
      match splitLast separator rest with
      | some parts => some (byte :: parts.1, parts.2)
      | none => if byte = separator then some ([], rest) else none

/-- Whether `needle` occurs in a text, as `find(needle) != npos` tells. -/
def containsText (needle : Bytes) : Bytes → Bool
  | [] => needle.isEmpty
  | byte :: rest => needle.isPrefixOf (byte :: rest) || containsText needle rest

/-- Where `needle` first occurs in a text, as `find(needle)` tells. -/
def findText (needle : Bytes) : Bytes → Option Nat
  | [] => if needle.isEmpty then some 0 else none
  | byte :: rest =>
      if needle.isPrefixOf (byte :: rest) then some 0
      else (findText needle rest).map fun place => place + 1

theorem findText_append {byte : UInt8} {front : Bytes} (needle back : Bytes)
    (absent : byte ∉ front) :
    findText (byte :: needle) (front ++ byte :: (needle ++ back)) = some front.length := by
  induction front with
  | nil => simp [findText]
  | cons head front ih =>
      have different : byte ≠ head := fun equal => absent (by simp [equal])
      have absentTail : byte ∉ front := fun member => absent (by simp [member])
      simp [findText, different, ih absentTail]

theorem splitFirst_append {separator : UInt8} {front : Bytes} (back : Bytes)
    (absent : separator ∉ front) :
    splitFirst separator (front ++ separator :: back) = some (front, back) := by
  induction front with
  | nil => simp [splitFirst]
  | cons byte front ih =>
      have different : byte ≠ separator := fun equal => absent (by simp [equal])
      have absentTail : separator ∉ front := fun member => absent (by simp [member])
      simp [splitFirst, different, ih absentTail]

theorem splitLast_eq_none {separator : UInt8} {text : Bytes}
    (absent : separator ∉ text) : splitLast separator text = none := by
  induction text with
  | nil => rfl
  | cons byte text ih =>
      have different : byte ≠ separator := fun equal => absent (by simp [equal])
      have absentTail : separator ∉ text := fun member => absent (by simp [member])
      simp [splitLast, different, ih absentTail]

theorem splitLast_append {separator : UInt8} (front : Bytes) {back : Bytes}
    (absent : separator ∉ back) :
    splitLast separator (front ++ separator :: back) = some (front, back) := by
  induction front with
  | nil => simp [splitLast, splitLast_eq_none absent]
  | cons byte front ih => simp [splitLast, ih]

theorem notMem_of_splitLast {separator : UInt8} {text : Bytes}
    (split : splitLast separator text = none) : separator ∉ text := by
  induction text with
  | nil => simp
  | cons byte text ih =>
      cases tail : splitLast separator text with
      | some parts => simp [splitLast, tail] at split
      | none =>
          have different : byte ≠ separator := by simpa [splitLast, tail] using split
          simp [ih tail, Ne.symm different]

theorem eq_of_splitLast {separator : UInt8} {text front back : Bytes}
    (split : splitLast separator text = some (front, back)) :
    text = front ++ separator :: back ∧ separator ∉ back := by
  induction text generalizing front with
  | nil => cases split
  | cons byte text ih =>
      cases tail : splitLast separator text with
      | some parts =>
          obtain ⟨rest, last⟩ := parts
          simp only [splitLast, tail, Option.some.injEq, Prod.mk.injEq] at split
          obtain ⟨rfl, rfl⟩ := split
          obtain ⟨rfl, absent⟩ := ih tail
          exact ⟨rfl, absent⟩
      | none =>
          simp only [splitLast, tail] at split
          split at split
          next equal =>
            simp only [Option.some.injEq, Prod.mk.injEq] at split
            obtain ⟨rfl, rfl⟩ := split
            exact ⟨by rw [equal]; rfl, notMem_of_splitLast tail⟩
          next => cases split

theorem eq_of_splitFirst {separator : UInt8} {text front back : Bytes}
    (split : splitFirst separator text = some (front, back)) :
    text = front ++ separator :: back ∧ separator ∉ front := by
  induction text generalizing front with
  | nil => cases split
  | cons byte text ih =>
      simp only [splitFirst] at split
      split at split
      next equal =>
        obtain ⟨rfl, rfl⟩ := Prod.mk.inj (Option.some.inj split)
        exact ⟨by rw [equal]; rfl, List.not_mem_nil⟩
      next different =>
        obtain ⟨⟨rest, last⟩, tail, same⟩ := Option.map_eq_some_iff.mp split
        obtain ⟨rfl, rfl⟩ := Prod.mk.inj same
        obtain ⟨rfl, absent⟩ := ih tail
        exact ⟨rfl, by simpa [absent] using Ne.symm different⟩

/-! ## Lines -/

/-- The lines `std::getline` yields, where `current` has been read of the
first one.  Text after the last newline is a line unless it is empty. -/
def linesFrom (current : Bytes) : Bytes → List Bytes
  | [] => if current.isEmpty then [] else [current]
  | byte :: rest =>
      if byte = newline then current :: linesFrom [] rest
      else linesFrom (current ++ [byte]) rest

def lines (text : Bytes) : List Bytes :=
  linesFrom [] text

theorem linesFrom_append {line : Bytes} (current rest : Bytes) (absent : newline ∉ line) :
    linesFrom current (line ++ newline :: rest) = (current ++ line) :: lines rest := by
  induction line generalizing current with
  | nil => simp [linesFrom, lines]
  | cons byte line ih =>
      have different : byte ≠ newline := fun equal => absent (by simp [equal])
      have absentTail : newline ∉ line := fun member => absent (by simp [member])
      simp [linesFrom, different, ih _ absentTail]

theorem lines_append {line : Bytes} (rest : Bytes) (absent : newline ∉ line) :
    lines (line ++ newline :: rest) = line :: lines rest := by
  exact linesFrom_append [] rest absent

@[simp] theorem lines_nil : lines [] = [] := rfl

/-! ## Separated lists -/

/-- The non-empty pieces of a text between separators, where `current` has
been read of the first one. -/
def piecesFrom (separator : UInt8) (current : Bytes) : Bytes → List Bytes
  | [] => if current.isEmpty then [] else [current]
  | byte :: rest =>
      if byte = separator then
        if current.isEmpty then piecesFrom separator [] rest
        else current :: piecesFrom separator [] rest
      else piecesFrom separator (current ++ [byte]) rest

def pieces (separator : UInt8) (text : Bytes) : List Bytes :=
  piecesFrom separator [] text

/-- Write a list with a separator between its entries. -/
def joinWith (separator : UInt8) : List Bytes → Bytes
  | [] => []
  | [entry] => entry
  | entry :: rest => entry ++ separator :: joinWith separator rest

theorem piecesFrom_append {separator : UInt8} {entry : Bytes} (current rest : Bytes)
    (absent : separator ∉ entry) :
    piecesFrom separator current (entry ++ rest) =
      piecesFrom separator (current ++ entry) rest := by
  induction entry generalizing current with
  | nil => simp
  | cons byte entry ih =>
      have different : byte ≠ separator := fun equal => absent (by simp [equal])
      have absentTail : separator ∉ entry := fun member => absent (by simp [member])
      simp [piecesFrom, different, ih _ absentTail]

/-- A list of non-empty entries without the separator is read back as written. -/
theorem pieces_joinWith {separator : UInt8} {entries : List Bytes}
    (nonempty : ∀ entry ∈ entries, entry ≠ [])
    (absent : ∀ entry ∈ entries, separator ∉ entry) :
    pieces separator (joinWith separator entries) = entries := by
  induction entries with
  | nil => rfl
  | cons entry entries ih =>
      have entryNonempty := nonempty entry (by simp)
      have entryAbsent := absent entry (by simp)
      cases entries with
      | nil =>
          have split := piecesFrom_append [] [] entryAbsent
          simp only [List.append_nil, List.nil_append] at split
          simp [pieces, joinWith, split, piecesFrom, entryNonempty]
      | cons next entries =>
          have tail := ih (fun other member => nonempty other (by simp [member]))
            (fun other member => absent other (by simp [member]))
          simp only [pieces, joinWith] at tail ⊢
          rw [piecesFrom_append [] _ entryAbsent]
          simp [piecesFrom, entryNonempty, tail]

/-- A joined list contains no byte but its separator and its entries'. -/
theorem notMem_joinWith {separator byte : UInt8} {entries : List Bytes}
    (different : byte ≠ separator) (absent : ∀ entry ∈ entries, byte ∉ entry) :
    byte ∉ joinWith separator entries := by
  induction entries with
  | nil => simp [joinWith]
  | cons entry entries ih =>
      have tail := ih fun other member => absent other (by simp [member])
      have head := absent entry (by simp)
      cases entries with
      | nil => simpa [joinWith] using head
      | cons next entries => simp [joinWith, head, different, tail]

/-- The fields of a text between separators, empty ones included, where
`current` has been read of the first one. -/
def fieldsFrom (separator : UInt8) (current : Bytes) : Bytes → List Bytes
  | [] => [current]
  | byte :: rest =>
      if byte = separator then current :: fieldsFrom separator [] rest
      else fieldsFrom separator (current ++ [byte]) rest

def fields (separator : UInt8) (text : Bytes) : List Bytes :=
  fieldsFrom separator [] text

theorem fieldsFrom_append {separator : UInt8} {entry : Bytes} (current rest : Bytes)
    (absent : separator ∉ entry) :
    fieldsFrom separator current (entry ++ rest) =
      fieldsFrom separator (current ++ entry) rest := by
  induction entry generalizing current with
  | nil => simp
  | cons byte entry ih =>
      have different : byte ≠ separator := fun equal => absent (by simp [equal])
      have absentTail : separator ∉ entry := fun member => absent (by simp [member])
      simp [fieldsFrom, different, ih _ absentTail]

/-- A list with at least one entry is taken apart as it was joined. -/
theorem fields_joinWith {separator : UInt8} {entries : List Bytes} (some : entries ≠ [])
    (absent : ∀ entry ∈ entries, separator ∉ entry) :
    fields separator (joinWith separator entries) = entries := by
  induction entries with
  | nil => exact absurd rfl some
  | cons entry entries ih =>
      have entryAbsent := absent entry (by simp)
      cases entries with
      | nil =>
          have split := fieldsFrom_append [] [] entryAbsent
          simp only [List.append_nil, List.nil_append] at split
          simp [fields, joinWith, split, fieldsFrom]
      | cons next entries =>
          have tail := ih (by simp) fun other member => absent other (by simp [member])
          simp only [fields, joinWith] at tail ⊢
          rw [fieldsFrom_append [] _ entryAbsent]
          simp [fieldsFrom, tail]

/-- Every byte of a text is a separator or stands in a field. -/
theorem mem_fieldsFrom {separator byte : UInt8} {current text : Bytes}
    (member : byte ∈ current ++ text) :
    byte = separator ∨ ∃ field ∈ fieldsFrom separator current text, byte ∈ field := by
  induction text generalizing current with
  | nil => exact Or.inr ⟨current, by simp [fieldsFrom], by simpa using member⟩
  | cons head text ih =>
      by_cases equal : head = separator
      · simp only [fieldsFrom, equal, if_true, List.mem_cons, exists_eq_or_imp]
        simp only [List.mem_append, List.mem_cons, equal] at member
        rcases member with member | rfl | member
        · exact Or.inr (Or.inl member)
        · exact Or.inl rfl
        · have behind : byte ∈ [] ++ text := member
          exact (ih behind).imp_right Or.inr
      · simp only [fieldsFrom, equal, if_false]
        exact ih (by simpa using member)

theorem mem_fields {separator byte : UInt8} {text : Bytes} (member : byte ∈ text) :
    byte = separator ∨ ∃ field ∈ fields separator text, byte ∈ field := by
  have whole : byte ∈ [] ++ text := member
  exact mem_fieldsFrom whole

/-! ## Words -/

/-- The blank-separated words `operator>>` yields, where `current` has been
read of the first one. -/
def wordsFrom (current : Bytes) : Bytes → List Bytes
  | [] => if current.isEmpty then [] else [current]
  | byte :: rest =>
      if isSpace byte then
        if current.isEmpty then wordsFrom [] rest
        else current :: wordsFrom [] rest
      else wordsFrom (current ++ [byte]) rest

def words (text : Bytes) : List Bytes :=
  wordsFrom [] text

theorem wordsFrom_append {word : Bytes} (current rest : Bytes)
    (solid : ∀ byte ∈ word, isSpace byte = false) :
    wordsFrom current (word ++ rest) = wordsFrom (current ++ word) rest := by
  induction word generalizing current with
  | nil => simp
  | cons byte word ih =>
      have head := solid byte (by simp)
      simp [wordsFrom, head, ih _ fun other member => solid other (by simp [member])]

/-- The first word of a text that starts with one and goes on with a blank. -/
theorem words_append {word : Bytes} {blank : UInt8} (rest : Bytes) (nonempty : word ≠ [])
    (solid : ∀ byte ∈ word, isSpace byte = false) (space : isSpace blank = true) :
    words (word ++ blank :: rest) = word :: words rest := by
  have split := wordsFrom_append [] (blank :: rest) solid
  simp only [List.nil_append] at split
  simp [words, split, wordsFrom, space, nonempty]

theorem words_of_solid {word : Bytes} (nonempty : word ≠ [])
    (solid : ∀ byte ∈ word, isSpace byte = false) : words word = [word] := by
  have split := wordsFrom_append [] [] solid
  simp only [List.nil_append, List.append_nil] at split
  simp [words, split, wordsFrom, nonempty]

/-- Words written with a blank behind all but the last of them. -/
theorem words_flatMap {blank : UInt8} {front : List Bytes} {last : Bytes}
    (space : isSpace blank = true)
    (solid : ∀ word ∈ front, word ≠ [] ∧ ∀ byte ∈ word, isSpace byte = false)
    (nonempty : last ≠ []) (solidLast : ∀ byte ∈ last, isSpace byte = false) :
    words (front.flatMap (fun word => word ++ [blank]) ++ last) = front ++ [last] := by
  induction front with
  | nil => exact words_of_solid nonempty solidLast
  | cons word front ih =>
      have here := solid word List.mem_cons_self
      simp only [List.flatMap_cons, List.append_assoc, List.cons_append, List.nil_append]
      rw [words_append _ here.1 here.2 space,
        ih fun other member => solid other (List.mem_cons_of_mem _ member)]

/-! ## Decimal numbers -/

def digitByte (digit : Nat) : UInt8 :=
  (48 + digit).toUInt8

def digitValue (byte : UInt8) : Option Nat :=
  if 48 ≤ byte ∧ byte ≤ 57 then some (byte.toNat - 48) else none

/-- Decimal digits of a number, with as many divisions as `fuel` allows. -/
def formatDigits : Nat → Nat → Bytes
  | 0, _ => []
  | fuel + 1, number =>
      if number < 10 then [digitByte number]
      else formatDigits fuel (number / 10) ++ [digitByte (number % 10)]

/-- `std::to_string` of an unsigned number. -/
def formatNat (number : Nat) : Bytes :=
  formatDigits (number + 1) number

/-- `std::to_string` of a signed number. -/
def formatInt : Int → Bytes
  | .ofNat number => formatNat number
  | .negSucc number => minus :: formatNat (number + 1)

/-- Read digits to the end of the text onto the value read so far. -/
def parseDigits : Nat → Bytes → Option Nat
  | value, [] => some value
  | value, byte :: rest =>
      match digitValue byte with
      | some digit => parseDigits (value * 10 + digit) rest
      | none => none

/-- `std::from_chars` of an unsigned type whose largest value is `limit`,
required to use up the whole text. -/
def parseUnsigned (limit : Nat) (text : Bytes) : Option Nat :=
  if text.isEmpty then none
  else (parseDigits 0 text).filter fun value => value ≤ limit

/-- `std::from_chars` of the signed type with bounds `low` and `high`,
required to use up the whole text. -/
def parseSigned (low high : Int) (text : Bytes) : Option Int :=
  let value :=
    match text with
    | [] => none
    | byte :: rest =>
        if byte = minus then
          if rest.isEmpty then none else (parseDigits 0 rest).map fun value => -(value : Int)
        else (parseDigits 0 (byte :: rest)).map fun value => (value : Int)
  value.filter fun value => low ≤ value && value ≤ high

theorem digitValue_digitByte {digit : Nat} (small : digit < 10) :
    digitValue (digitByte digit) = some digit := by
  have every : ∀ digit < 10, digitValue (digitByte digit) = some digit := by decide
  exact every digit small

/-- The bytes decimal numbers are written with. -/
def IsDigit (byte : UInt8) : Prop :=
  48 ≤ byte ∧ byte ≤ 57

instance (byte : UInt8) : Decidable (IsDigit byte) :=
  inferInstanceAs (Decidable (_ ∧ _))

theorem isDigit_digitByte {digit : Nat} (small : digit < 10) :
    IsDigit (digitByte digit) := by
  have every : ∀ digit < 10, IsDigit (digitByte digit) := by decide
  exact every digit small

theorem isDigit_of_mem_formatDigits {fuel number : Nat} {byte : UInt8}
    (member : byte ∈ formatDigits fuel number) : IsDigit byte := by
  induction fuel generalizing number with
  | zero => simp [formatDigits] at member
  | succ fuel ih =>
      by_cases small : number < 10
      · simp only [formatDigits, small, if_true, List.mem_singleton] at member
        exact member ▸ isDigit_digitByte small
      · simp only [formatDigits, small, if_false, List.mem_append, List.mem_singleton] at member
        rcases member with member | rfl
        · exact ih member
        · exact isDigit_digitByte (Nat.mod_lt _ (by omega))

theorem isDigit_of_mem_formatNat {number : Nat} {byte : UInt8}
    (member : byte ∈ formatNat number) : IsDigit byte :=
  isDigit_of_mem_formatDigits member

/-- A byte that is no digit does not occur in a decimal number. -/
theorem notMem_formatNat {byte : UInt8} (number : Nat) (other : ¬ IsDigit byte) :
    byte ∉ formatNat number :=
  fun member => other (isDigit_of_mem_formatNat member)

theorem formatNat_ne_nil (number : Nat) : formatNat number ≠ [] := by
  by_cases small : number < 10 <;> simp [formatNat, formatDigits, small]

theorem parseDigits_append (value : Nat) (front back : Bytes) :
    parseDigits value (front ++ back) =
      (parseDigits value front).bind fun middle => parseDigits middle back := by
  induction front generalizing value with
  | nil => rfl
  | cons byte front ih =>
      simp only [List.cons_append, parseDigits]
      cases digitValue byte with
      | none => rfl
      | some digit => exact ih _

theorem parseDigits_formatDigits {fuel number : Nat} (enough : number < fuel) :
    parseDigits 0 (formatDigits fuel number) = some number := by
  induction fuel generalizing number with
  | zero => omega
  | succ fuel ih =>
      by_cases small : number < 10
      · simp [formatDigits, small, parseDigits, digitValue_digitByte small]
      · have last : number % 10 < 10 := Nat.mod_lt _ (by omega)
        have less : number / 10 < fuel := by omega
        have front := ih less
        simp only [formatDigits, small, if_false]
        rw [parseDigits_append, front]
        simp only [Option.bind_some, parseDigits, digitValue_digitByte last]
        congr 1
        omega

@[simp] theorem parseDigits_formatNat (number : Nat) :
    parseDigits 0 (formatNat number) = some number :=
  parseDigits_formatDigits (Nat.lt_succ_self number)

/-- What is read as decimal digits is made of them. -/
theorem isDigit_of_parseDigits {value result : Nat} {text : Bytes}
    (read : parseDigits value text = some result) : ∀ byte ∈ text, IsDigit byte := by
  induction text generalizing value with
  | nil => simp
  | cons byte text ih =>
      simp only [parseDigits] at read
      cases known : digitValue byte with
      | none => simp [known] at read
      | some digit =>
          simp only [known] at read
          have isDigit : IsDigit byte := by
            by_contra other
            simp [digitValue, show ¬ (48 ≤ byte ∧ byte ≤ 57) from other] at known
          simpa [isDigit] using ih read

/-- A number of more than one digit does not begin with a zero. -/
theorem head_formatDigits {fuel number : Nat} (enough : number < fuel) (large : 10 ≤ number) :
    (formatDigits fuel number).head? ≠ some (digitByte 0) := by
  induction fuel generalizing number with
  | zero => omega
  | succ fuel ih =>
      have notSmall : ¬ number < 10 := by omega
      simp only [formatDigits, notSmall, if_false]
      by_cases quotient : 10 ≤ number / 10
      · have less : number / 10 < fuel := by omega
        have front := ih less quotient
        cases shape : formatDigits fuel (number / 10) with
        | nil =>
            obtain ⟨more, rfl⟩ : ∃ more, fuel = more + 1 := ⟨fuel - 1, by omega⟩
            simp only [formatDigits] at shape
            split at shape <;> simp at shape
        | cons byte rest => simpa [shape] using front
      · obtain ⟨more, rfl⟩ : ∃ more, fuel = more + 1 := ⟨fuel - 1, by omega⟩
        have single : number / 10 < 10 := by omega
        have every : ∀ digit < 10, 0 < digit → digitByte digit ≠ digitByte 0 := by decide
        simpa [formatDigits, single] using every _ single (by omega)

theorem parseUnsigned_formatNat {limit number : Nat} (fits : number ≤ limit) :
    parseUnsigned limit (formatNat number) = some number := by
  simp [parseUnsigned, formatNat_ne_nil, fits]

/-- A number written without a sign is read as such, if it is within the bounds. -/
theorem parseSigned_formatNat_eq (low high : Int) (number : Nat) :
    parseSigned low high (formatNat number) =
      if low ≤ number ∧ (number : Int) ≤ high then some (number : Int) else none := by
  obtain ⟨byte, rest, shape⟩ : ∃ byte rest, formatNat number = byte :: rest :=
    List.exists_cons_of_ne_nil (formatNat_ne_nil number)
  have digit : IsDigit byte := isDigit_of_mem_formatNat (by rw [shape]; simp)
  have noSign : byte ≠ minus := by
    rintro rfl
    exact absurd digit (by decide)
  have value := parseDigits_formatNat number
  rw [shape] at value ⊢
  simp [parseSigned, noSign, value, Option.filter_some]

theorem parseSigned_formatNat {low high : Int} {number : Nat}
    (above : low ≤ number) (below : (number : Int) ≤ high) :
    parseSigned low high (formatNat number) = some (number : Int) := by
  rw [parseSigned_formatNat_eq, if_pos ⟨above, below⟩]

/-! ## Hexadecimal digits -/

def hexDigit (digit : Nat) : UInt8 :=
  if digit < 10 then (48 + digit).toUInt8 else (87 + digit).toUInt8

def hexValue (byte : UInt8) : Option Nat :=
  if 48 ≤ byte ∧ byte ≤ 57 then some (byte.toNat - 48)
  else if 97 ≤ byte ∧ byte ≤ 102 then some (byte.toNat - 87)
  else if 65 ≤ byte ∧ byte ≤ 70 then some (byte.toNat - 55)
  else none

theorem hexValue_hexDigit {digit : Nat} (small : digit < 16) :
    hexValue (hexDigit digit) = some digit := by
  have every : ∀ digit < 16, hexValue (hexDigit digit) = some digit := by decide
  exact every digit small

end ByteText
