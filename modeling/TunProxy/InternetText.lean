import TunProxy.AddressPrefix

/-!
# Internet addresses as texts

The text forms of IPv4 and IPv6 addresses as `inet_pton` reads and `inet_ntop`
writes them: four decimal numbers, or eight groups of hexadecimal digits of
which one run of zeros may be left out and the last two may be written as an
IPv4 address.  What is written is read back, and a written address of one
family is not read as one of the other.
-/

namespace InternetText

open ByteText AddressPrefix

/-! ## IPv4 -/

/-- A number up to 255 without superfluous zeros in front. -/
def parseOctet (text : Bytes) : Option UInt8 :=
  match parseUnsigned 255 text with
  | some value =>
      if 1 < text.length ∧ text.head? = some (digitByte 0) then none else some value.toUInt8
  | none => none

def parseIpv4 (text : Bytes) : Option Bytes :=
  match (fields dot text).mapM parseOctet with
  | some bytes => if bytes.length = 4 then some bytes else none
  | none => none

def formatIpv4 (bytes : Bytes) : Bytes :=
  joinWith dot (bytes.map fun byte => formatNat byte.toNat)

/-! ## IPv6 -/

/-- `%x` of a 16-bit word. -/
def formatGroup (word : Nat) : Bytes :=
  if word < 16 then [hexDigit word]
  else if word < 256 then [hexDigit (word / 16), hexDigit (word % 16)]
  else if word < 4096 then
    [hexDigit (word / 256), hexDigit (word / 16 % 16), hexDigit (word % 16)]
  else [hexDigit (word / 4096), hexDigit (word / 256 % 16), hexDigit (word / 16 % 16),
    hexDigit (word % 16)]

def parseHexDigits : Nat → Bytes → Option Nat
  | value, [] => some value
  | value, byte :: rest =>
      match hexValue byte with
      | some digit => parseHexDigits (value * 16 + digit) rest
      | none => none

/-- One to four hexadecimal digits. -/
def parseGroup (text : Bytes) : Option Nat :=
  if text.isEmpty ∨ 4 < text.length then none else parseHexDigits 0 text

def wordsOf : Bytes → List Nat
  | high :: low :: rest => (high.toNat * 256 + low.toNat) :: wordsOf rest
  | _ => []

def bytesOf (words : List Nat) : Bytes :=
  words.flatMap fun word => [(word / 256).toUInt8, word.toUInt8]

/-- Groups to the end of an address: the last may be an IPv4 address. -/
def parseGroups : List Bytes → Option (List Nat)
  | [] => some []
  | [last] =>
      match parseGroup last with
      | some word => some [word]
      | none => (parseIpv4 last).map wordsOf
  | group :: rest =>
      match parseGroup group, parseGroups rest with
      | some word, some words => some (word :: words)
      | _, _ => none

/-- Split a text at the first double colon. -/
def splitGap : Bytes → Option (Bytes × Bytes)
  | first :: second :: rest =>
      if first = colon ∧ second = colon then some ([], rest)
      else (splitGap (second :: rest)).map fun parts => (first :: parts.1, parts.2)
  | _ => none

def parseIpv6 (text : Bytes) : Option Bytes :=
  match splitGap text with
  | none =>
      match parseGroups (fields colon text) with
      | some words => if words.length = 8 then some (bytesOf words) else none
      | none => none
  | some (front, back) =>
      match if front.isEmpty then some [] else (fields colon front).mapM parseGroup,
          if back.isEmpty then some [] else parseGroups (fields colon back) with
      | some left, some right =>
          if left.length + right.length ≤ 7 then
            some (bytesOf (left ++ List.replicate (8 - (left.length + right.length)) 0 ++ right))
          else none
      | _, _ => none

/-- Where a run of at least two zero words can stand, longer ones first. -/
def candidateRuns : List (Nat × Nat) :=
  [8, 7, 6, 5, 4, 3, 2].flatMap fun length =>
    (List.range (9 - length)).map fun start => (start, length)

/-- Start and length of the first of the longest runs of zero words. -/
def zeroRun (words : List Nat) : Option (Nat × Nat) :=
  candidateRuns.find? fun run => (words.drop run.1).take run.2 == List.replicate run.2 0

/-- The texts of the groups behind a run of zeros: those of an IPv4 address in
an IPv6 one end with it. -/
def groupsBehind (start length : Nat) (words : List Nat) : List Bytes :=
  let behind := words.drop (start + length)
  if start = 0 ∧ (length = 6 ∨ length = 5 ∧ words.getD 5 0 = 0xffff) then
    (behind.take (6 - length)).map formatGroup ++
      [formatIpv4 (bytesOf (behind.drop (6 - length)))]
  else behind.map formatGroup

def formatIpv6 (bytes : Bytes) : Bytes :=
  let words := wordsOf bytes
  match zeroRun words with
  | none => joinWith colon (words.map formatGroup)
  | some (start, length) =>
      joinWith colon ((words.take start).map formatGroup) ++
        colon :: colon :: joinWith colon (groupsBehind start length words)

def inetPton : AddressFamily → Bytes → Option Bytes
  | .inet => parseIpv4
  | .inet6 => parseIpv6

/-- The text `inet_ntop` writes into a large enough buffer. -/
def inetNtop : AddressFamily → Bytes → Bytes
  | .inet => formatIpv4
  | .inet6 => formatIpv6

/-! ## IPv4 round trip -/

theorem parseOctet_formatNat (byte : UInt8) : parseOctet (formatNat byte.toNat) = some byte := by
  have bound := byte.toNat_lt
  have plain : ¬ (1 < (formatNat byte.toNat).length ∧
      (formatNat byte.toNat).head? = some (digitByte 0)) := by
    rintro ⟨long, zero⟩
    by_cases large : 10 ≤ byte.toNat
    · exact head_formatDigits (Nat.lt_succ_self _) large zero
    · simp [formatNat, formatDigits, Nat.lt_of_not_le large] at long
  have fits : byte.toNat ≤ 255 := by omega
  simp only [parseOctet, parseUnsigned_formatNat fits, plain, if_false]
  simp

theorem isDigit_of_parseOctet {text : Bytes} {value : UInt8}
    (read : parseOctet text = some value) : ∀ byte ∈ text, IsDigit byte := by
  cases number : parseUnsigned 255 text with
  | none => simp [parseOctet, number] at read
  | some result =>
      by_cases empty : text = []
      · simp [empty]
      · simp only [parseUnsigned, List.isEmpty_iff, empty, if_false, Option.filter_eq_some_iff]
          at number
        exact isDigit_of_parseDigits number.1

private theorem mapM_map {α β : Type} {write : α → β} {read : β → Option α}
    {entries : List α} (inverse : ∀ entry ∈ entries, read (write entry) = some entry) :
    (entries.map write).mapM read = some entries := by
  induction entries with
  | nil => rfl
  | cons entry entries ih =>
      have head := inverse entry (by simp)
      have tail := ih fun other member => inverse other (by simp [member])
      simp [List.mapM_cons, head, tail]

theorem parseIpv4_formatIpv4 {bytes : Bytes} (sized : bytes.length = 4) :
    parseIpv4 (formatIpv4 bytes) = some bytes := by
  have filled : (bytes.map fun byte => formatNat byte.toNat) ≠ [] := by
    intro none
    simp [List.map_eq_nil_iff.mp none] at sized
  have absent : ∀ entry ∈ bytes.map fun byte => formatNat byte.toNat, dot ∉ entry := by
    intro entry member
    obtain ⟨byte, -, rfl⟩ := List.mem_map.mp member
    exact notMem_formatNat _ (by decide)
  have read : (bytes.map fun byte => formatNat byte.toNat).mapM parseOctet = some bytes :=
    mapM_map fun byte _ => parseOctet_formatNat byte
  simp only [parseIpv4, formatIpv4, fields_joinWith filled absent, read, sized, if_true]

private theorem exists_of_mapM {α β : Type} {read : α → Option β} {entries : List α}
    {values : List β} (done : entries.mapM read = some values) :
    ∀ entry ∈ entries, ∃ value, read entry = some value := by
  induction entries generalizing values with
  | nil => simp
  | cons entry entries ih =>
      cases head : read entry with
      | none => simp [List.mapM_cons, head] at done
      | some value =>
          cases tail : entries.mapM read with
          | none => simp [List.mapM_cons, head, tail] at done
          | some rest =>
              intro other member
              rcases List.mem_cons.mp member with rfl | member
              · exact ⟨value, head⟩
              · exact ih tail other member

/-- A text with a byte that belongs to no IPv4 address is not read as one. -/
theorem parseIpv4_eq_none {text : Bytes} {byte : UInt8} (member : byte ∈ text)
    (noDigit : ¬ IsDigit byte) (noDot : byte ≠ dot) : parseIpv4 text = none := by
  cases octets : (fields dot text).mapM parseOctet with
  | none => simp [parseIpv4, octets]
  | some bytes =>
      rcases mem_fields member with isDot | ⟨field, inFields, inField⟩
      · exact absurd isDot noDot
      · obtain ⟨value, read⟩ := exists_of_mapM octets field inFields
        exact absurd (isDigit_of_parseOctet read byte inField) noDigit

theorem length_of_parseIpv4 {text bytes : Bytes} (read : parseIpv4 text = some bytes) :
    bytes.length = 4 := by
  simp only [parseIpv4] at read
  split at read
  · split at read
    · obtain rfl := Option.some.inj read
      assumption
    · cases read
  · cases read

/-! ## Groups -/

/-- The bytes that groups are written with. -/
def IsHexDigit (byte : UInt8) : Prop :=
  48 ≤ byte ∧ byte ≤ 57 ∨ 97 ≤ byte ∧ byte ≤ 102

instance (byte : UInt8) : Decidable (IsHexDigit byte) :=
  inferInstanceAs (Decidable (_ ∨ _))

theorem isHexDigit_hexDigit {digit : Nat} (small : digit < 16) :
    IsHexDigit (hexDigit digit) := by
  have every : ∀ digit < 16, IsHexDigit (hexDigit digit) := by decide
  exact every digit small

theorem isHexDigit_of_mem_formatGroup {word : Nat} {byte : UInt8} (small : word < 65536)
    (member : byte ∈ formatGroup word) : IsHexDigit byte := by
  unfold formatGroup at member
  split at member
  · obtain rfl := List.mem_singleton.mp member
    exact isHexDigit_hexDigit (by omega)
  · split at member
    · simp only [List.mem_cons, List.not_mem_nil, or_false] at member
      rcases member with rfl | rfl <;> exact isHexDigit_hexDigit (by omega)
    · split at member
      · simp only [List.mem_cons, List.not_mem_nil, or_false] at member
        rcases member with rfl | rfl | rfl <;> exact isHexDigit_hexDigit (by omega)
      · simp only [List.mem_cons, List.not_mem_nil, or_false] at member
        rcases member with rfl | rfl | rfl | rfl <;> exact isHexDigit_hexDigit (by omega)

theorem notMem_formatGroup {word : Nat} {byte : UInt8} (small : word < 65536)
    (other : ¬ IsHexDigit byte) : byte ∉ formatGroup word :=
  fun member => other (isHexDigit_of_mem_formatGroup small member)

theorem formatGroup_ne_nil (word : Nat) : formatGroup word ≠ [] := by
  unfold formatGroup
  repeat' split
  all_goals simp

theorem parseGroup_formatGroup {word : Nat} (small : word < 65536) :
    parseGroup (formatGroup word) = some word := by
  unfold formatGroup
  split
  · simp [parseGroup, parseHexDigits, hexValue_hexDigit (show word < 16 by omega)]
  · split
    · simp only [parseGroup, List.isEmpty_cons, List.length_cons, List.length_nil, parseHexDigits,
        hexValue_hexDigit (show word / 16 < 16 by omega),
        hexValue_hexDigit (show word % 16 < 16 by omega)]
      simp
      omega
    · split
      · simp only [parseGroup, List.isEmpty_cons, List.length_cons, List.length_nil,
          parseHexDigits, hexValue_hexDigit (show word / 256 < 16 by omega),
          hexValue_hexDigit (show word / 16 % 16 < 16 by omega),
          hexValue_hexDigit (show word % 16 < 16 by omega)]
        simp
        omega
      · simp only [parseGroup, List.isEmpty_cons, List.length_cons, List.length_nil,
          parseHexDigits, hexValue_hexDigit (show word / 4096 < 16 by omega),
          hexValue_hexDigit (show word / 256 % 16 < 16 by omega),
          hexValue_hexDigit (show word / 16 % 16 < 16 by omega),
          hexValue_hexDigit (show word % 16 < 16 by omega)]
        simp
        omega

theorem parseHexDigits_eq_none {value : Nat} {text : Bytes} {byte : UInt8}
    (member : byte ∈ text) (noDigit : hexValue byte = none) :
    parseHexDigits value text = none := by
  induction text generalizing value with
  | nil => simp at member
  | cons head text ih =>
      rcases List.mem_cons.mp member with rfl | member
      · simp [parseHexDigits, noDigit]
      · cases known : hexValue head with
        | none => simp [parseHexDigits, known]
        | some digit => simpa [parseHexDigits, known] using ih member

/-- An IPv4 address is not a group. -/
theorem parseGroup_formatIpv4 {bytes : Bytes} (sized : bytes.length = 4) :
    parseGroup (formatIpv4 bytes) = none := by
  have hasDot : dot ∈ formatIpv4 bytes := by
    match bytes, sized with
    | [_, _, _, _], _ => simp [formatIpv4, joinWith]
  simp only [parseGroup]
  split
  · rfl
  · exact parseHexDigits_eq_none hasDot (by decide)

/-! ## Words and bytes -/

theorem wordsOf_bytesOf {words : List Nat} (small : ∀ word ∈ words, word < 65536) :
    wordsOf (bytesOf words) = words := by
  induction words with
  | nil => rfl
  | cons word words ih =>
      have head := small word (by simp)
      have tail := ih fun other member => small other (by simp [member])
      simp only [bytesOf, List.flatMap_cons, List.cons_append, List.nil_append, wordsOf] at tail ⊢
      rw [tail]
      congr 1
      simp [Nat.toUInt8, UInt8.toNat_ofNat']
      omega

theorem bytesOf_wordsOf {bytes : Bytes} (even : bytes.length % 2 = 0) :
    bytesOf (wordsOf bytes) = bytes := by
  induction bytes using wordsOf.induct with
  | case1 high low rest ih =>
      have tail := ih (by simpa [List.length_cons, Nat.add_assoc] using even)
      have highBound := high.toNat_lt
      have lowBound := low.toNat_lt
      have quotient : (high.toNat * 256 + low.toNat) / 256 = high.toNat := by omega
      have remainder : (high.toNat * 256 + low.toNat).toUInt8 = low := by
        apply UInt8.toNat.inj
        simp [Nat.toUInt8]
      simp only [bytesOf] at tail
      simp [wordsOf, bytesOf, quotient, remainder, tail]
  | case2 bytes short =>
      rcases bytes with _ | ⟨byte, _ | ⟨low, rest⟩⟩
      · rfl
      · simp at even
      · exact absurd rfl (short byte low rest)

theorem length_wordsOf (bytes : Bytes) : (wordsOf bytes).length = bytes.length / 2 := by
  induction bytes using wordsOf.induct with
  | case1 high low rest ih => simp [wordsOf, ih]; omega
  | case2 bytes short =>
      rcases bytes with _ | ⟨byte, _ | ⟨low, rest⟩⟩
      · rfl
      · simp [wordsOf]
      · exact absurd rfl (short byte low rest)

theorem length_bytesOf (words : List Nat) : (bytesOf words).length = 2 * words.length := by
  induction words with
  | nil => rfl
  | cons word words ih =>
      simp only [bytesOf, List.flatMap_cons, List.length_append, List.length_cons,
        List.length_nil] at ih ⊢
      omega

theorem lt_of_mem_wordsOf {bytes : Bytes} {word : Nat} (member : word ∈ wordsOf bytes) :
    word < 65536 := by
  induction bytes using wordsOf.induct with
  | case1 high low rest ih =>
      have highBound := high.toNat_lt
      have lowBound := low.toNat_lt
      rcases List.mem_cons.mp member with rfl | member
      · omega
      · exact ih member
  | case2 bytes short =>
      rcases bytes with _ | ⟨byte, _ | ⟨low, rest⟩⟩
      · simp [wordsOf] at member
      · simp [wordsOf] at member
      · exact absurd rfl (short byte low rest)

/-! ## IPv6 round trip -/

theorem splitGap_cons {byte : UInt8} (text : Bytes) (different : byte ≠ colon) :
    splitGap (byte :: text) =
      (splitGap text).map fun parts => (byte :: parts.1, parts.2) := by
  cases text with
  | nil => rfl
  | cons second rest => simp [splitGap, different]

theorem splitGap_append {entry : Bytes} (text : Bytes) (absent : colon ∉ entry) :
    splitGap (entry ++ text) =
      (splitGap text).map fun parts => (entry ++ parts.1, parts.2) := by
  induction entry with
  | nil => simp
  | cons byte entry ih =>
      have different : byte ≠ colon := fun equal => absent (by simp [equal])
      have absentTail : colon ∉ entry := fun member => absent (by simp [member])
      rw [List.cons_append, splitGap_cons _ different, ih absentTail, Option.map_map]
      rfl

/-- A single colon in front of an entry is no gap. -/
theorem splitGap_colon {entry : Bytes} (text : Bytes) (nonempty : entry ≠ [])
    (absent : colon ∉ entry) :
    splitGap (colon :: (entry ++ text)) =
      (splitGap (entry ++ text)).map fun parts => (colon :: parts.1, parts.2) := by
  obtain ⟨byte, rest, rfl⟩ := List.exists_cons_of_ne_nil nonempty
  have different : byte ≠ colon := fun equal => absent (by simp [equal])
  simp [splitGap, different]

section Entries

variable {entries : List Bytes} (nonempty : ∀ entry ∈ entries, entry ≠ [])
  (absent : ∀ entry ∈ entries, colon ∉ entry)

include nonempty absent

theorem splitGap_joinWith_append (rest : Bytes) :
    splitGap (joinWith colon entries ++ colon :: colon :: rest) =
      some (joinWith colon entries, rest) := by
  induction entries with
  | nil => simp [joinWith, splitGap]
  | cons entry entries ih =>
      have tail := ih (fun other member => nonempty other (by simp [member]))
        fun other member => absent other (by simp [member])
      cases entries with
      | nil => simp [joinWith, splitGap_append _ (absent entry (by simp)), splitGap]
      | cons next entries =>
          have unfolded : joinWith colon (next :: entries) ++ colon :: colon :: rest =
              next ++ (joinWith colon (next :: entries) ++ colon :: colon :: rest).drop
                next.length := by
            cases entries <;> simp [joinWith]
          simp only [joinWith, List.append_assoc, List.cons_append]
          rw [splitGap_append _ (absent entry (by simp)), unfolded,
            splitGap_colon _ (nonempty next (by simp)) (absent next (by simp)), ← unfolded, tail]
          rfl

/-- One side of a gap: no text stands for no groups. -/
theorem parse_side {parse : List Bytes → Option (List Nat)} {values : List Nat}
    (read : parse entries = some values) (none : entries = [] → values = []) :
    (if (joinWith colon entries).isEmpty then some []
      else parse (fields colon (joinWith colon entries))) = some values := by
  cases entries with
  | nil => simp [joinWith, none rfl]
  | cons entry rest =>
      have filled : joinWith colon (entry :: rest) ≠ [] := by
        have head := nonempty entry (by simp)
        cases rest <;> simp [joinWith, head]
      simp [filled, fields_joinWith (List.cons_ne_nil entry rest) absent, read]

theorem splitGap_joinWith : splitGap (joinWith colon entries) = none := by
  induction entries with
  | nil => rfl
  | cons entry entries ih =>
      have tail := ih (fun other member => nonempty other (by simp [member]))
        fun other member => absent other (by simp [member])
      cases entries with
      | nil =>
          have split := splitGap_append [] (absent entry (by simp))
          simpa [joinWith, splitGap] using split
      | cons next entries =>
          have unfolded : joinWith colon (next :: entries) =
              next ++ (joinWith colon (next :: entries)).drop next.length := by
            cases entries <;> simp [joinWith]
          simp only [joinWith]
          rw [splitGap_append _ (absent entry (by simp)), unfolded,
            splitGap_colon _ (nonempty next (by simp)) (absent next (by simp)), ← unfolded, tail]
          rfl

end Entries

theorem groups_nonempty (words : List Nat) : ∀ entry ∈ words.map formatGroup, entry ≠ [] := by
  intro entry member
  obtain ⟨word, -, rfl⟩ := List.mem_map.mp member
  exact formatGroup_ne_nil word

section Groups

variable {words : List Nat} (small : ∀ word ∈ words, word < 65536)

include small

theorem groups_absent {byte : UInt8} (other : ¬ IsHexDigit byte) :
    ∀ entry ∈ words.map formatGroup, byte ∉ entry := by
  intro entry member
  obtain ⟨word, inWords, rfl⟩ := List.mem_map.mp member
  exact notMem_formatGroup (small word inWords) other

theorem mapM_parseGroup : (words.map formatGroup).mapM parseGroup = some words :=
  mapM_map fun word member => parseGroup_formatGroup (small word member)

theorem parseGroups_groups : parseGroups (words.map formatGroup) = some words := by
  induction words with
  | nil => rfl
  | cons word words ih =>
      have head := parseGroup_formatGroup (small word (by simp))
      have tail := ih fun other member => small other (by simp [member])
      cases words with
      | nil => simp [parseGroups, head]
      | cons next words =>
          simp only [List.map_cons] at tail ⊢
          simp [parseGroups, head, tail]

theorem parseGroups_embedded {quad : Bytes} (sized : quad.length = 4) :
    parseGroups (words.map formatGroup ++ [formatIpv4 quad]) = some (words ++ wordsOf quad) := by
  induction words with
  | nil => simp [parseGroups, parseGroup_formatIpv4 sized, parseIpv4_formatIpv4 sized]
  | cons word words ih =>
      have head := parseGroup_formatGroup (small word (by simp))
      have tail := ih fun other member => small other (by simp [member])
      cases words with
      | nil =>
          simp only [List.map_nil, List.nil_append] at tail
          simp only [List.map_cons, List.map_nil, List.cons_append, List.nil_append,
            parseGroups.eq_def ([_, _]), head, tail]
      | cons next words =>
          simp only [List.map_cons, List.cons_append] at tail ⊢
          simp [parseGroups, head, tail]

end Groups

theorem notMem_formatIpv4 {bytes : Bytes} {byte : UInt8} (noDigit : ¬ IsDigit byte)
    (noDot : byte ≠ dot) : byte ∉ formatIpv4 bytes := by
  refine notMem_joinWith noDot fun entry member => ?_
  obtain ⟨octet, -, rfl⟩ := List.mem_map.mp member
  exact notMem_formatNat _ noDigit

theorem zeroRun_spec {words : List Nat} {start length : Nat}
    (run : zeroRun words = some (start, length)) :
    2 ≤ length ∧ start + length ≤ 8 ∧
      words = words.take start ++ List.replicate length 0 ++ words.drop (start + length) := by
  have within : ∀ run ∈ candidateRuns, 2 ≤ run.2 ∧ run.1 + run.2 ≤ 8 := by decide
  have zeros := List.find?_some run
  obtain ⟨long, fits⟩ := within _ (List.mem_of_find?_eq_some run)
  refine ⟨long, fits, ?_⟩
  rw [← beq_iff_eq.mp zeros, List.append_assoc, ← List.drop_drop, List.take_append_drop,
    List.take_append_drop]

/-- The groups behind the gap are read back, whichever form they have. -/
theorem parseGroups_groupsBehind {words : List Nat} {start length : Nat}
    (eight : words.length = 8) (small : ∀ word ∈ words, word < 65536) :
    parseGroups (groupsBehind start length words) = some (words.drop (start + length)) := by
  have smallBehind : ∀ word ∈ words.drop (start + length), word < 65536 :=
    fun word member => small word (List.mem_of_mem_drop member)
  unfold groupsBehind
  split
  next embedded =>
    have sized : (bytesOf ((words.drop (start + length)).drop (6 - length))).length = 4 := by
      rw [length_bytesOf, List.length_drop, List.length_drop, eight]
      rcases embedded.2 with six | five <;> omega
    rw [parseGroups_embedded (fun word member => smallBehind word (List.mem_of_mem_take member))
      sized, wordsOf_bytesOf fun word member => smallBehind word (List.mem_of_mem_drop member),
      List.take_append_drop]
  next => exact parseGroups_groups smallBehind

theorem formatIpv4_ne_nil {bytes : Bytes} (sized : bytes.length = 4) : formatIpv4 bytes ≠ [] := by
  intro empty
  have read := parseIpv4_formatIpv4 sized
  rw [empty] at read
  exact absurd read (by simp [parseIpv4, fields, fieldsFrom, parseOctet, parseUnsigned])

theorem groupsBehind_nonempty {words : List Nat} {start length : Nat}
    (eight : words.length = 8) :
    ∀ entry ∈ groupsBehind start length words, entry ≠ [] := by
  unfold groupsBehind
  split
  next embedded =>
    intro entry member
    rcases List.mem_append.mp member with member | member
    · exact groups_nonempty _ entry member
    · obtain rfl := List.mem_singleton.mp member
      apply formatIpv4_ne_nil
      rw [length_bytesOf, List.length_drop, List.length_drop, eight]
      rcases embedded.2 with six | five <;> omega
  next => exact groups_nonempty _

theorem groupsBehind_absent {words : List Nat} {start length : Nat} {byte : UInt8}
    (small : ∀ word ∈ words, word < 65536) (noHex : ¬ IsHexDigit byte) (noDot : byte ≠ dot) :
    ∀ entry ∈ groupsBehind start length words, byte ∉ entry := by
  have smallBehind : ∀ word ∈ words.drop (start + length), word < 65536 :=
    fun word member => small word (List.mem_of_mem_drop member)
  unfold groupsBehind
  split
  · intro entry member
    rcases List.mem_append.mp member with member | member
    · exact groups_absent
        (fun word member => smallBehind word (List.mem_of_mem_take member)) noHex entry member
    · obtain rfl := List.mem_singleton.mp member
      exact notMem_formatIpv4 (fun digit => noHex (Or.inl digit)) noDot
  · exact groups_absent smallBehind noHex

theorem length_of_parseIpv6 {text bytes : Bytes} (read : parseIpv6 text = some bytes) :
    bytes.length = 16 := by
  simp only [parseIpv6] at read
  split at read
  · split at read
    · split at read
      · obtain rfl := Option.some.inj read
        rw [length_bytesOf]
        omega
      · cases read
    · cases read
  · split at read
    · split at read
      · obtain rfl := Option.some.inj read
        simp only [length_bytesOf, List.length_append, List.length_replicate]
        omega
      · cases read
    · cases read

theorem parseIpv6_formatIpv6 {bytes : Bytes} (sized : bytes.length = 16) :
    parseIpv6 (formatIpv6 bytes) = some bytes := by
  have eight : (wordsOf bytes).length = 8 := by rw [length_wordsOf, sized]
  have small : ∀ word ∈ wordsOf bytes, word < 65536 := fun word => lt_of_mem_wordsOf
  have noColon : ¬ IsHexDigit colon := by decide
  have whole : bytesOf (wordsOf bytes) = bytes := bytesOf_wordsOf (by rw [sized])
  simp only [formatIpv6]
  cases run : zeroRun (wordsOf bytes) with
  | none =>
      have some : (wordsOf bytes).map formatGroup ≠ [] := by
        intro none
        rw [List.map_eq_nil_iff] at none
        simp [none] at eight
      simp only [parseIpv6, splitGap_joinWith (groups_nonempty _) (groups_absent small noColon),
        fields_joinWith some (groups_absent small noColon), parseGroups_groups small, eight,
        if_true, whole]
  | some found =>
      obtain ⟨start, length⟩ := found
      obtain ⟨long, fits, split⟩ := zeroRun_spec run
      have smallFront : ∀ word ∈ (wordsOf bytes).take start, word < 65536 :=
        fun word member => small word (List.mem_of_mem_take member)
      have readFront : List.mapM parseGroup (((wordsOf bytes).take start).map formatGroup) =
          some ((wordsOf bytes).take start) := mapM_parseGroup smallFront
      have front := parse_side (groups_nonempty _) (groups_absent smallFront noColon) readFront
        fun none => List.map_eq_nil_iff.mp none
      have readBehind : parseGroups (groupsBehind start length (wordsOf bytes)) =
          some ((wordsOf bytes).drop (start + length)) := parseGroups_groupsBehind eight small
      have back := parse_side (groupsBehind_nonempty eight)
        (groupsBehind_absent small noColon (by decide)) readBehind fun none => by
          unfold groupsBehind at none
          split at none
          · simp at none
          · exact List.map_eq_nil_iff.mp none
      have gap := splitGap_joinWith_append (groups_nonempty _)
        (groups_absent smallFront noColon)
        (joinWith colon (groupsBehind start length (wordsOf bytes)))
      have lengths : ((wordsOf bytes).take start).length +
          ((wordsOf bytes).drop (start + length)).length = 8 - length := by
        simp only [List.length_take, List.length_drop, eight]
        omega
      have missing : 8 - (8 - length) = length := by omega
      have few : 8 - length ≤ 7 := by omega
      simp only [parseIpv6, gap, front, back, lengths, missing, few, if_true]
      rw [← split, whole]

/-! ## Both families -/

/-- The bytes that addresses are written with. -/
def IsAddressByte (byte : UInt8) : Prop :=
  IsHexDigit byte ∨ byte = dot ∨ byte = colon

instance (byte : UInt8) : Decidable (IsAddressByte byte) :=
  inferInstanceAs (Decidable (_ ∨ _))

theorem notMem_inetNtop {family : AddressFamily} {bytes : Bytes} {byte : UInt8}
    (other : ¬ IsAddressByte byte) : byte ∉ inetNtop family bytes := by
  simp only [IsAddressByte, not_or] at other
  obtain ⟨noHex, noDot, noColon⟩ := other
  cases family with
  | inet => exact notMem_formatIpv4 (fun digit => noHex (Or.inl digit)) noDot
  | inet6 =>
      have small : ∀ word ∈ wordsOf bytes, word < 65536 := fun word => lt_of_mem_wordsOf
      simp only [inetNtop, formatIpv6]
      cases run : zeroRun (wordsOf bytes) with
      | none => exact notMem_joinWith noColon (groups_absent small noHex)
      | some found =>
          have smallFront : ∀ word ∈ (wordsOf bytes).take found.1, word < 65536 :=
            fun word member => small word (List.mem_of_mem_take member)
          have absent : ∀ entry ∈ groupsBehind found.1 found.2 (wordsOf bytes), byte ∉ entry :=
            groupsBehind_absent small noHex noDot
          have front := notMem_joinWith noColon (groups_absent smallFront noHex)
          have back := notMem_joinWith noColon absent
          simp only [List.mem_append, List.mem_cons, front, back, noColon, or_self,
            not_false_eq_true]

/-- `inet_pton` reads what `inet_ntop` writes. -/
theorem inetPton_inetNtop (address : IpAddress) :
    inetPton address.family (inetNtop address.family address.bytes) = some address.bytes := by
  obtain ⟨family, bytes, sized⟩ := address
  cases family with
  | inet => exact parseIpv4_formatIpv4 sized
  | inet6 => exact parseIpv6_formatIpv6 sized

/-- An IPv4 text is not an IPv6 text as well. -/
theorem parseIpv6_eq_none {text bytes : Bytes} (v4 : parseIpv4 text = some bytes) :
    parseIpv6 text = none := by
  have absent : colon ∉ text := by
    intro member
    rw [parseIpv4_eq_none member (by decide) (by decide)] at v4
    cases v4
  have noGap : splitGap text = none := by
    have split := splitGap_append [] absent
    simpa [splitGap] using split
  have single : fields colon text = [text] := by
    have split := fieldsFrom_append [] [] absent
    simpa [fields, fieldsFrom] using split
  simp only [parseIpv6, noGap, single, parseGroups]
  cases parseGroup text with
  | some word => simp
  | none => simp [v4, length_wordsOf, length_of_parseIpv4 v4]

theorem inetPton_nil (family : AddressFamily) : inetPton family [] = none := by
  cases family <;> decide

theorem length_of_inetPton {family : AddressFamily} {text bytes : Bytes}
    (read : inetPton family text = some bytes) : bytes.length = family.size := by
  cases family with
  | inet => exact length_of_parseIpv4 read
  | inet6 => exact length_of_parseIpv6 read

example : (inetPton .inet6 (ascii "fe80::1:0:0:ab")).map (inetNtop .inet6) =
    some (ascii "fe80::1:0:0:ab") := by decide
example : inetNtop .inet6 [0, 0, 0, 0, 0, 0, 0, 0, 0, 0, 0xff, 0xff, 10, 0, 0, 1] =
    ascii "::ffff:10.0.0.1" := by decide

end InternetText
