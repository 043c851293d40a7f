import Mathlib.Data.List.TakeWhile
import TunProxy.ByteText

/-!
# JSON texts

A JSON text is read byte by byte into tokens, and the tokens into a value, by
two machines that run together.  What is read so far is their state, so that
a text put together from parts is read part after part.
-/

namespace JsonText

open ByteText

/-! ## Values -/

/-- A number as it is written: digits before and behind the point, and a power of
ten. -/
structure Number where
  negative : Bool
  integer : Nat
  fraction : Bytes
  exponent : Int
  deriving DecidableEq, Repr

/-- A JSON value, the members of an object in their order.  Strings are bytes. -/
inductive Value
  | null
  | bool (value : Bool)
  | number (value : Number)
  | string (value : Bytes)
  | array (items : List Value)
  | object (members : List (Bytes × Value))

inductive Token
  | openBrace
  | closeBrace
  | openBracket
  | closeBracket
  | colon
  | comma
  | null
  | bool (value : Bool)
  | number (value : Number)
  | string (value : Bytes)
  deriving DecidableEq, Repr

/-! ## Numbers and words -/

def isDigit (byte : UInt8) : Bool :=
  decide (IsDigit byte)

/-- A digit, a sign, a point or the mark of an exponent. -/
def isNumberByte (byte : UInt8) : Bool :=
  isDigit byte || byte == 43 || byte == 45 || byte == 46 || byte == 69 || byte == 101

def isLetter (byte : UInt8) : Bool :=
  97 ≤ byte && byte ≤ 122

/-- The digits of an integer part, without needless zeros in front. -/
def readInteger (digits : Bytes) : Option Nat :=
  if 1 < digits.length ∧ digits.head? = some 48 then none
  else if digits.isEmpty then none
  else parseDigits 0 digits

/-- What stands behind the mark of an exponent. -/
def readExponent : Bytes → Option Int
  | 45 :: digits => if digits.isEmpty then none else (parseDigits 0 digits).map fun n => -(n : Int)
  | 43 :: digits => if digits.isEmpty then none else (parseDigits 0 digits).map Int.ofNat
  | digits => if digits.isEmpty then none else (parseDigits 0 digits).map Int.ofNat

/-- The part behind the digits in front: a fraction and an exponent, if any. -/
def readTail (negative : Bool) (integer : Nat) : Bytes → Option Number
  | [] => some ⟨negative, integer, [], 0⟩
  | 46 :: rest =>
      let fraction := rest.takeWhile isDigit
      if fraction.isEmpty then none
      else match rest.dropWhile isDigit with
        | [] => some ⟨negative, integer, fraction, 0⟩
        | mark :: exponent => if mark = 69 ∨ mark = 101 then
            (readExponent exponent).map fun exponent => ⟨negative, integer, fraction, exponent⟩
          else none
  | mark :: exponent => if mark = 69 ∨ mark = 101 then
      (readExponent exponent).map fun exponent => ⟨negative, integer, [], exponent⟩
    else none

def readUnsigned (negative : Bool) (text : Bytes) : Option Number :=
  (readInteger (text.takeWhile isDigit)).bind fun integer =>
    readTail negative integer (text.dropWhile isDigit)

def readNumber : Bytes → Option Number
  | 45 :: text => readUnsigned true text
  | text => readUnsigned false text

def readWord (text : Bytes) : Option Token :=
  if text = ascii "null" then some .null
  else if text = ascii "true" then some (.bool true)
  else if text = ascii "false" then some (.bool false)
  else none

example : readNumber (ascii "-1.50e-3") = some ⟨true, 1, ascii "50", -3⟩ := by decide

/-! ## Tokens -/

/-- The bytes of a code point in UTF-8. -/
def utf8 (code : Nat) : Bytes :=
  if code < 0x80 then [code.toUInt8]
  else if code < 0x800 then [(0xc0 + code / 0x40).toUInt8, (0x80 + code % 0x40).toUInt8]
  else if code < 0x10000 then
    [(0xe0 + code / 0x1000).toUInt8, (0x80 + code / 0x40 % 0x40).toUInt8,
      (0x80 + code % 0x40).toUInt8]
  else
    [(0xf0 + code / 0x40000).toUInt8, (0x80 + code / 0x1000 % 0x40).toUInt8,
      (0x80 + code / 0x40 % 0x40).toUInt8, (0x80 + code % 0x40).toUInt8]

/-- Where in a text the reader is, with what it has read of a token. -/
inductive Reading
  | between
  | string (text : Bytes)
  | escape (text : Bytes)
  /-- In the four digits behind `\u`, perhaps for the second half of a pair. -/
  | unicode (text : Bytes) (high : Option Nat) (digits : List Nat)
  /-- Behind the first half of a pair, where the second has to follow. -/
  | half (text : Bytes) (high : Nat)
  | halfEscape (text : Bytes) (high : Nat)
  | number (text : Bytes)
  | word (text : Bytes)
  deriving DecidableEq, Repr

def readBetween (byte : UInt8) : Option (Option Token × Reading) :=
  if byte = 32 ∨ byte = 10 ∨ byte = 13 ∨ byte = 9 then some (none, .between)
  else if byte = 34 then some (none, .string [])
  else if byte = 44 then some (some .comma, .between)
  else if byte = 58 then some (some .colon, .between)
  else if byte = 123 then some (some .openBrace, .between)
  else if byte = 125 then some (some .closeBrace, .between)
  else if byte = 91 then some (some .openBracket, .between)
  else if byte = 93 then some (some .closeBracket, .between)
  else if byte = 45 ∨ isDigit byte then some (none, .number [byte])
  else if isLetter byte then some (none, .word [byte])
  else none

/-- The byte that an escaped character other than `u` stands for. -/
def unescape (byte : UInt8) : Option UInt8 :=
  if byte = 34 ∨ byte = 92 ∨ byte = 47 then some byte
  else if byte = 98 then some 8
  else if byte = 102 then some 12
  else if byte = 110 then some 10
  else if byte = 114 then some 13
  else if byte = 116 then some 9
  else none

/-- The reader behind a code unit: a character, or the half of a pair. -/
def readCode (text : Bytes) (high : Option Nat) (code : Nat) : Option Reading :=
  match high with
  | none =>
      if 0xd800 ≤ code ∧ code < 0xdc00 then some (.half text code)
      else if 0xdc00 ≤ code ∧ code < 0xe000 then none
      else some (.string (text ++ utf8 code))
  | some high =>
      if 0xdc00 ≤ code ∧ code < 0xe000 then
        some (.string (text ++ utf8 (0x10000 + (high - 0xd800) * 0x400 + (code - 0xdc00))))
      else none

/-- The token that ends where a text or another token begins. -/
def Reading.finish : Reading → Option (Option Token)
  | .between => some none
  | .number text => (readNumber text).map fun number => some (.number number)
  | .word text => (readWord text).map some
  | _ => none

/-- Read a byte inside a token. -/
def Reading.inside : Reading → UInt8 → Option (Option Token × Reading)
  | .string text, byte =>
      if byte = 34 then some (some (.string text), .between)
      else if byte = 92 then some (none, .escape text)
      else if byte < 32 then none
      else some (none, .string (text ++ [byte]))
  | .escape text, byte =>
      if byte = 117 then some (none, .unicode text none [])
      else (unescape byte).map fun byte => (none, .string (text ++ [byte]))
  | .unicode text high digits, byte =>
      (hexValue byte).bind fun digit =>
        if digits.length < 3 then some (none, .unicode text high (digits ++ [digit]))
        else
          let code := (digits ++ [digit]).foldl (fun code digit => code * 16 + digit) 0
          (readCode text high code).map fun reading => (none, reading)
  | .half text high, byte => if byte = 92 then some (none, .halfEscape text high) else none
  | .halfEscape text high, byte =>
      if byte = 117 then some (none, .unicode text (some high) []) else none
  | .number text, byte => if isNumberByte byte then some (none, .number (text ++ [byte])) else none
  | .word text, byte => if isLetter byte then some (none, .word (text ++ [byte])) else none
  | .between, _ => none

/-! ## Values from tokens -/

/-- An array or an object around what is read, with what is already in it. -/
inductive Frame
  | array (items : List Value)
  | member (members : List (Bytes × Value)) (key : Bytes)

/-- What has to follow. -/
inductive Parsing
  | value (stack : List Frame)
  | arrayStart (stack : List Frame)
  | arrayNext (items : List Value) (stack : List Frame)
  | objectStart (stack : List Frame)
  | key (members : List (Bytes × Value)) (stack : List Frame)
  | colon (members : List (Bytes × Value)) (key : Bytes) (stack : List Frame)
  | objectNext (members : List (Bytes × Value)) (stack : List Frame)
  | done (value : Value)

def complete (value : Value) : List Frame → Parsing
  | [] => .done value
  | .array items :: stack => .arrayNext (items ++ [value]) stack
  | .member members key :: stack => .objectNext (members ++ [(key, value)]) stack

def parseValue (stack : List Frame) : Token → Option Parsing
  | .null => some (complete .null stack)
  | .bool value => some (complete (.bool value) stack)
  | .number value => some (complete (.number value) stack)
  | .string value => some (complete (.string value) stack)
  | .openBracket => some (.arrayStart stack)
  | .openBrace => some (.objectStart stack)
  | _ => none

def parseToken : Parsing → Token → Option Parsing
  | .value stack, token => parseValue stack token
  | .arrayStart stack, .closeBracket => some (complete (.array []) stack)
  | .arrayStart stack, token => parseValue (.array [] :: stack) token
  | .arrayNext items stack, .comma => some (.value (.array items :: stack))
  | .arrayNext items stack, .closeBracket => some (complete (.array items) stack)
  | .objectStart stack, .closeBrace => some (complete (.object []) stack)
  | .objectStart stack, .string key => some (.colon [] key stack)
  | .key members stack, .string key => some (.colon members key stack)
  | .colon members key stack, .colon => some (.value (.member members key :: stack))
  | .objectNext members stack, .comma => some (.key members stack)
  | .objectNext members stack, .closeBrace => some (complete (.object members) stack)
  | _, _ => none

/-! ## Texts -/

structure State where
  reading : Reading
  parsing : Parsing

/-- The state after the tokens that a byte has completed. -/
def State.emit (parsing : Parsing) (token : Option Token) (reading : Reading) : Option State :=
  match token with
  | none => some ⟨reading, parsing⟩
  | some token => (parseToken parsing token).map fun parsing => ⟨reading, parsing⟩

/-- Leave a number or a word. -/
def State.leave : State → Option State
  | ⟨reading, parsing⟩ => reading.finish.bind fun token => State.emit parsing token .between

def State.feedByte : State → UInt8 → Option State
  | ⟨reading, parsing⟩, byte =>
      match reading.inside byte with
      | some (token, reading) => State.emit parsing token reading
      | none => (State.leave ⟨reading, parsing⟩).bind fun ⟨_, parsing⟩ =>
          (readBetween byte).bind fun (token, reading) => State.emit parsing token reading

def State.feed : State → Bytes → Option State
  | state, [] => some state
  | state, byte :: rest => (state.feedByte byte).bind fun next => next.feed rest

def State.start : State :=
  ⟨.between, .value []⟩

/-- The value of a text that is one JSON value. -/
def decode (text : Bytes) : Option Value :=
  (State.start.feed text).bind fun last => last.leave.bind fun left =>
    match left.parsing with
    | .done value => some value
    | _ => none

example : (decode (ascii "[01]")).isNone ∧ (decode (ascii "[1,]")).isNone ∧
    (decode (ascii "\x7b\"a\" 1\x7d")).isNone ∧ (decode (ascii "\"a\nb\"")).isNone := by
  decide +kernel

theorem feed_append (state : State) (front back : Bytes) :
    state.feed (front ++ back) = (state.feed front).bind fun middle => middle.feed back := by
  induction front generalizing state with
  | nil => rfl
  | cons byte front ih =>
      rw [List.cons_append, State.feed, State.feed, Option.bind_assoc]
      congr
      ext1 next
      exact ih next

/-- A text put together is read part after part. -/
theorem feed_piece {state middle : State} {last : Option State} {front back : Bytes}
    (first : state.feed front = some middle) (second : middle.feed back = last) :
    state.feed (front ++ back) = last := by
  rw [feed_append, first]
  exact second

theorem feed_literal {state middle : State} {last : Option State} {characters : List Char}
    {back : Bytes}
    (first : state.feed (characters.map fun character => character.toNat.toUInt8) = some middle)
    (second : middle.feed back = last) :
    state.feed (ascii (String.ofList characters) ++ back) = last := by
  rw [ascii_ofList]
  exact feed_piece first second

/-- Between tokens there is nothing to leave. -/
theorem leave_eq {state left : State} (leaves : state.leave = some left) :
    left.reading = .between ∧ left.leave = some left := by
  obtain ⟨token, -, emitted⟩ := Option.bind_eq_some_iff.mp leaves
  cases token with
  | none =>
      obtain rfl := Option.some.inj emitted
      exact ⟨rfl, rfl⟩
  | some token =>
      obtain ⟨parsing, -, rfl⟩ := Option.map_eq_some_iff.mp emitted
      exact ⟨rfl, rfl⟩

/-- A token ends where a byte follows that is not part of it. -/
theorem feed_leave {reading : Reading} {parsing : Parsing} {left : State} {byte : UInt8}
    (rest : Bytes) (leaves : State.leave ⟨reading, parsing⟩ = some left)
    (other : reading.inside byte = none) :
    State.feed ⟨reading, parsing⟩ (byte :: rest) = left.feed (byte :: rest) := by
  obtain ⟨between, again⟩ := leave_eq leaves
  obtain ⟨reading', parsed⟩ := left
  obtain rfl : reading' = .between := between
  have here : State.feedByte ⟨reading, parsing⟩ byte =
      State.feedByte ⟨.between, parsed⟩ byte := by
    simp only [State.feedByte, other, show Reading.between.inside byte = none from rfl, leaves,
      again]
  rw [State.feed, State.feed, here]

/-! ## Numerals -/

theorem feed_digits {text digits : Bytes} (parsing : Parsing)
    (all : ∀ digit ∈ digits, IsDigit digit) :
    State.feed ⟨.number text, parsing⟩ digits = some ⟨.number (text ++ digits), parsing⟩ := by
  induction digits generalizing text with
  | nil => simp [State.feed]
  | cons digit digits ih =>
      have first : isNumberByte digit = true := by
        simp [isNumberByte, isDigit, all digit List.mem_cons_self]
      have rest := @ih (text ++ [digit]) fun other member =>
        all other (List.mem_cons_of_mem _ member)
      simpa [State.feed, State.feedByte, Reading.inside, first, State.emit] using rest

theorem readBetween_digit {digit : UInt8} (isDigit : IsDigit digit) :
    readBetween digit = some (none, .number [digit]) := by
  have low : 48 ≤ digit.toNat := UInt8.le_iff_toNat_le.mp isDigit.1
  have high : digit.toNat ≤ 57 := UInt8.le_iff_toNat_le.mp isDigit.2
  have other {byte : UInt8} (outside : byte.toNat < 48 ∨ 57 < byte.toNat) : digit ≠ byte := by
    rintro rfl
    omega
  simp [readBetween, JsonText.isDigit, isDigit, other]

theorem feed_formatNat (number : Nat) (parsing : Parsing) :
    State.feed ⟨.between, parsing⟩ (formatNat number) =
      some ⟨.number (formatNat number), parsing⟩ := by
  obtain ⟨digit, digits, split⟩ := List.exists_cons_of_ne_nil (formatNat_ne_nil number)
  have all : ∀ byte ∈ digit :: digits, IsDigit byte := fun byte member =>
    isDigit_of_mem_formatNat (split ▸ member)
  have rest := @feed_digits [digit] digits parsing fun byte member =>
    all byte (List.mem_cons_of_mem _ member)
  rw [split]
  simpa [State.feed, State.feedByte, Reading.inside, State.leave, Reading.finish, State.emit,
    readBetween_digit (all digit List.mem_cons_self)] using rest

/-- A numeral is the number it was written for. -/
theorem readNumber_formatNat (number : Nat) :
    readNumber (formatNat number) = some ⟨false, number, [], 0⟩ := by
  have all : ∀ byte ∈ formatNat number, isDigit byte = true := fun byte member =>
    decide_eq_true (isDigit_of_mem_formatNat member)
  have whole : (formatNat number).takeWhile isDigit = formatNat number :=
    List.takeWhile_eq_self_iff.mpr all
  have nothing : (formatNat number).dropWhile isDigit = [] :=
    List.dropWhile_eq_nil_iff.mpr all
  have unpadded : ¬ (1 < (formatNat number).length ∧ (formatNat number).head? = some 48) := by
    rintro ⟨long, padded⟩
    have large : 10 ≤ number := by
      by_contra small
      simp [formatNat, formatDigits, Nat.not_le.mp small] at long
    exact head_formatDigits (Nat.lt_succ_self number) large padded
  have integer : readInteger (formatNat number) = some number := by
    simp [readInteger, unpadded, formatNat_ne_nil]
  have unsigned : readNumber (formatNat number) = readUnsigned false (formatNat number) := by
    unfold readNumber
    split
    next text same =>
      have sign : IsDigit 45 := isDigit_of_mem_formatNat (same ▸ List.mem_cons_self)
      exact absurd sign (by decide)
    next => rfl
  rw [unsigned, readUnsigned, whole, nothing, integer]
  rfl

/-- A numeral in a text is a token. -/
theorem feed_numeral {number : Nat} {parsing parsed : Parsing} {character : Char}
    {characters : List Char} {back : Bytes} {last : Option State}
    (token : parseToken parsing (.number ⟨false, number, [], 0⟩) = some parsed)
    (other : isNumberByte character.toNat.toUInt8 = false)
    (further : State.feed ⟨.between, parsed⟩
      (ascii (String.ofList (character :: characters)) ++ back) = last) :
    State.feed ⟨.between, parsing⟩
      (formatNat number ++ (ascii (String.ofList (character :: characters)) ++ back)) = last := by
  have leaves : State.leave ⟨.number (formatNat number), parsing⟩ = some ⟨.between, parsed⟩ := by
    simp [State.leave, Reading.finish, readNumber_formatNat, State.emit, token]
  refine feed_piece (feed_formatNat number parsing) ?_
  rw [ascii_ofList (character :: characters), List.map_cons, List.cons_append] at further ⊢
  exact (feed_leave _ leaves (by simp [Reading.inside, other])).trans further

/-- A truth value in a text is a token. -/
theorem feed_bool {value : Bool} {parsing parsed : Parsing} {character : Char}
    {characters : List Char} {back : Bytes} {last : Option State}
    (token : parseToken parsing (.bool value) = some parsed)
    (other : isLetter character.toNat.toUInt8 = false)
    (further : State.feed ⟨.between, parsed⟩
      (ascii (String.ofList (character :: characters)) ++ back) = last) :
    State.feed ⟨.between, parsing⟩
      ((if value then ascii "true" else ascii "false") ++
        (ascii (String.ofList (character :: characters)) ++ back)) = last := by
  have read : State.feed ⟨.between, parsing⟩ (if value then ascii "true" else ascii "false") =
      some ⟨.word (if value then ascii "true" else ascii "false"), parsing⟩ := by
    cases value with
    | true => rfl
    | false => rfl
  have leaves : State.leave ⟨.word (if value then ascii "true" else ascii "false"), parsing⟩ =
      some ⟨.between, parsed⟩ := by
    have word : Reading.finish (.word (if value then ascii "true" else ascii "false")) =
        some (some (.bool value)) := by
      cases value with
      | true => rfl
      | false => rfl
    simp only [State.leave, word, Option.bind_some, State.emit, token, Option.map_some]
  refine feed_piece read ?_
  rw [ascii_ofList (character :: characters), List.map_cons, List.cons_append] at further ⊢
  exact (feed_leave _ leaves (by simp [Reading.inside, other])).trans further

/-! ## Looking into a value -/

namespace Value

/-- The member of an object, the first one of that name. -/
def member (key : Bytes) : Value → Option Value
  | .object members => members.lookup key
  | _ => none

def text : Value → Option Bytes
  | .string value => some value
  | _ => none

def flag : Value → Option Bool
  | .bool value => some value
  | _ => none

/-- The strings of an array of nothing else. -/
def texts : Value → Option (List Bytes)
  | .array items => items.mapM text
  | _ => none

/-- The first item of an array that has a member with the given string. -/
def entry (key word : Bytes) : Value → Option Value
  | .array items => items.find? fun item => (item.member key).bind text = some word
  | _ => none

theorem texts_array (values : List Bytes) : (array (values.map string)).texts = some values := by
  induction values with
  | nil => rfl
  | cons value values ih =>
      simp only [texts, List.map_cons, List.mapM_cons, text] at ih ⊢
      simp [ih]

end Value
end JsonText
