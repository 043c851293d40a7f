import TunProxy.BypassPolicyCoverage

/-!
# How long texts are

Bounds for numbers, Internet addresses and lists of them.  The longest address
is written in 45 characters or less, and a policy has a bounded number of lines.
-/

namespace TunProxy

open ByteText InternetText AddressPrefix

/-! ## Numbers and lists -/

theorem length_formatDigits {digits fuel number : Nat} (small : number < 10 ^ digits)
    (some : 0 < digits) : (formatDigits fuel number).length ≤ digits := by
  induction fuel generalizing digits number with
  | zero => simp [formatDigits]
  | succ fuel ih =>
      unfold formatDigits
      split
      next => exact some
      next large =>
        obtain ⟨fewer, rfl⟩ : ∃ fewer, digits = fewer + 1 := ⟨digits - 1, by omega⟩
        have more : 0 < fewer := by
          rcases Nat.eq_zero_or_pos fewer with rfl | positive
          · omega
          · exact positive
        have smaller : number / 10 < 10 ^ fewer := by
          rw [Nat.pow_succ] at small
          omega
        have shorter := ih smaller more
        simp only [List.length_append, List.length_singleton]
        omega

theorem length_formatNat {digits number : Nat} (small : number < 10 ^ digits)
    (some : 0 < digits) : (formatNat number).length ≤ digits :=
  length_formatDigits small some

theorem length_formatInt {digits : Nat} {number : Int} (small : number.natAbs < 10 ^ digits)
    (some : 0 < digits) : (formatInt number).length ≤ digits + 1 := by
  cases number with
  | ofNat number => exact Nat.le_succ_of_le (length_formatNat small some)
  | negSucc number => exact Nat.succ_le_succ (length_formatNat small some)

theorem length_joinWith {separator : UInt8} {entries : List Bytes} {most : Nat}
    (short : ∀ entry ∈ entries, entry.length ≤ most) :
    (joinWith separator entries).length ≤ entries.length * (most + 1) := by
  induction entries with
  | nil => simp [joinWith]
  | cons entry entries ih =>
      have head := short entry (by simp)
      have tail := ih fun other member => short other (by simp [member])
      cases entries with
      | nil =>
          simp only [joinWith, List.length_singleton]
          omega
      | cons next entries =>
          simp only [joinWith, List.length_append, List.length_cons] at tail ⊢
          rw [Nat.add_mul]
          omega

/-! ## Addresses -/

theorem length_formatIpv4 (bytes : Bytes) : (formatIpv4 bytes).length ≤ bytes.length * 4 := by
  have short : ∀ entry ∈ bytes.map (fun byte => formatNat byte.toNat), entry.length ≤ 3 := by
    intro entry member
    obtain ⟨byte, -, rfl⟩ := List.mem_map.mp member
    have bound := byte.toNat_lt
    exact length_formatNat (by omega) (by decide)
  have bound := @length_joinWith dot _ 3 short
  rwa [List.length_map] at bound

theorem length_formatGroup (word : Nat) : (formatGroup word).length ≤ 4 := by
  unfold formatGroup
  split
  · simp
  split
  · simp
  split
  · simp
  · simp

theorem length_groups (words : List Nat) :
    (joinWith colon (words.map formatGroup)).length ≤ words.length * 5 := by
  have short : ∀ entry ∈ words.map formatGroup, entry.length ≤ 4 := by
    intro entry member
    obtain ⟨word, -, rfl⟩ := List.mem_map.mp member
    exact length_formatGroup word
  have bound := @length_joinWith colon _ 4 short
  rwa [List.length_map] at bound

/-- The groups in front of a gap and those behind it. -/
theorem length_groupsBehind {start length : Nat} {words : List Nat} (eight : words.length = 8)
    (long : 2 ≤ length) (fits : start + length ≤ 8) :
    start * 5 + (joinWith colon (groupsBehind start length words)).length ≤ 40 := by
  unfold groupsBehind
  dsimp only
  split
  next embedded =>
    obtain ⟨rfl, runs⟩ := embedded
    have quad : (bytesOf ((words.drop (0 + length)).drop (6 - length))).length = 4 := by
      rw [length_bytesOf, List.length_drop, List.length_drop, eight]
      rcases runs with six | five <;> omega
    have short : ∀ entry ∈ ((words.drop (0 + length)).take (6 - length)).map formatGroup ++
        [formatIpv4 (bytesOf ((words.drop (0 + length)).drop (6 - length)))],
        entry.length ≤ 16 := by
      intro entry member
      rcases List.mem_append.mp member with group | last
      · obtain ⟨word, -, rfl⟩ := List.mem_map.mp group
        exact Nat.le_trans (length_formatGroup word) (by decide)
      · obtain rfl := List.mem_singleton.mp last
        have bound := length_formatIpv4 (bytesOf ((words.drop (0 + length)).drop (6 - length)))
        rwa [quad] at bound
    have bound := @length_joinWith colon _ 16 short
    rw [List.length_append, List.length_map, List.length_take, List.length_singleton] at bound
    rcases runs with six | five <;> omega
  next =>
    have bound := length_groups (words.drop (start + length))
    rw [List.length_drop, eight] at bound
    omega

theorem length_formatIpv6 {bytes : Bytes} (sized : bytes.length = 16) :
    (formatIpv6 bytes).length ≤ 45 := by
  have eight : (wordsOf bytes).length = 8 := by rw [length_wordsOf, sized]
  unfold formatIpv6
  dsimp only
  split
  next =>
    have bound := length_groups (wordsOf bytes)
    omega
  next start length run =>
    obtain ⟨long, fits, -⟩ := zeroRun_spec run
    have front := length_groups ((wordsOf bytes).take start)
    have behind := length_groupsBehind eight long fits
    rw [List.length_take] at front
    simp only [List.length_append, List.length_cons]
    omega

theorem length_inetNtop (address : IpAddress) :
    (inetNtop address.family address.bytes).length ≤ 45 := by
  have sized := address.sized
  cases family : address.family with
  | inet =>
      have bound := length_formatIpv4 address.bytes
      rw [family] at sized
      simp only [AddressFamily.size] at sized
      simp only [inetNtop]
      omega
  | inet6 =>
      rw [family] at sized
      exact length_formatIpv6 sized

theorem length_formatCidr_hostCidr (address : IpAddress) :
    (formatCidr (hostCidr address)).length ≤ 49 := by
  have text := length_inetNtop address
  have length : (formatNat address.family.bits).length ≤ 3 := by
    apply length_formatNat _ (by decide)
    cases address.family <;> decide
  rw [formatCidr_hostCidr]
  simp only [List.length_append, List.length_cons]
  omega

theorem length_addressHostCidr {address cidr : Bytes} (found : addressHostCidr address = .ok cidr) :
    cidr.length ≤ 49 := by
  unfold addressHostCidr at found
  split at found
  next => cases found
  next parsed _ =>
    split at found
    next => cases found
    next =>
      obtain rfl := Except.ok.inj found
      exact length_formatCidr_hostCidr parsed

/-! ## Policies -/

theorem length_appendInterfaceAddress {collected next : CollectedCidrs} {cidr : BinaryCidr}
    (few : collected.output.length ≤ kMaximumInterfaceCidrs)
    (appended : appendInterfaceAddress collected cidr = .ok next) :
    next.output.length ≤ kMaximumInterfaceCidrs := by
  unfold appendInterfaceAddress at appended
  dsimp only at appended
  split at appended
  · exact Except.ok.inj appended ▸ few
  split at appended
  · cases appended
  split at appended
  · exact Except.ok.inj appended ▸ few
  split at appended
  · exact Except.ok.inj appended ▸ few
  split at appended
  · cases appended
  next room =>
    obtain rfl := Except.ok.inj appended
    simp only [List.length_append, List.length_singleton]
    omega

theorem length_appendInterfaceEntries {collected last : CollectedCidrs}
    {excludedInterface : Bytes} {entries : List InterfaceEntry}
    (few : collected.output.length ≤ kMaximumInterfaceCidrs)
    (appended : appendInterfaceEntries excludedInterface collected entries = .ok last) :
    last.output.length ≤ kMaximumInterfaceCidrs := by
  induction entries generalizing collected with
  | nil => exact Except.ok.inj appended ▸ few
  | cons entry entries ih =>
      unfold appendInterfaceEntries at appended
      split at appended
      · exact ih few appended
      next address _ =>
        split at appended
        next next step => exact ih (length_appendInterfaceAddress few step) appended
        next => cases appended

theorem MergedCidrs.length_append (mandatory : Bool) (merged : MergedCidrs) (text : Bytes) :
    (merged.append mandatory text).output.length ≤ merged.output.length + 1 := by
  unfold MergedCidrs.append
  repeat' split
  all_goals simp

theorem MergedCidrs.length_foldl (merged : MergedCidrs) (texts : List Bytes) :
    (texts.foldl (MergedCidrs.append false) merged).output.length ≤
      merged.output.length + texts.length := by
  induction texts generalizing merged with
  | nil => simp
  | cons text texts ih =>
      have first := merged.length_append false text
      have others := ih (merged.append false text)
      simp only [List.foldl_cons, List.length_cons]
      omega

theorem length_allCidrs (policy : BypassPolicy) :
    policy.allCidrs.length ≤ 1 + policy.fixedCidrs.length + policy.interfaceCidrs.length := by
  unfold BypassPolicy.allCidrs
  dsimp only
  have pinned : (if policy.upstreamCidr.isEmpty then ⟨[], []⟩
      else MergedCidrs.append true ⟨[], []⟩ policy.upstreamCidr :
        MergedCidrs).output.length ≤ 1 := by
    split
    · simp
    · exact MergedCidrs.length_append true ⟨[], []⟩ policy.upstreamCidr
  generalize (if policy.upstreamCidr.isEmpty then ⟨[], []⟩
    else MergedCidrs.append true ⟨[], []⟩ policy.upstreamCidr : MergedCidrs) = first at pinned ⊢
  have fixed := MergedCidrs.length_foldl first policy.fixedCidrs
  have interfaces := MergedCidrs.length_foldl
    (policy.fixedCidrs.foldl (MergedCidrs.append false) first) policy.interfaceCidrs
  omega

/-- A list that is not too long to be shown. -/
structure ShortList (cidrs : List Bytes) : Prop where
  count : cidrs.length ≤ 1037
  each : ∀ cidr ∈ cidrs, cidr.length ≤ 49

/-- Every policy that is collected has such a list. -/
theorem shortList_allCidrs {interfaces : Except Bytes (List InterfaceEntry)}
    {upstreamAddress excludedInterface : Bytes} {policy : BypassPolicy}
    (collected : collectBypassPolicy interfaces upstreamAddress excludedInterface = .ok policy) :
    ShortList policy.allCidrs := by
  unfold collectBypassPolicy collectInterfaceAddresses at collected
  cases interfaces with
  | error detail => cases collected
  | ok entries =>
      cases appended : appendInterfaceEntries excludedInterface ⟨[], fixedBypassCidrs⟩ entries with
      | error failure => simp [appended] at collected
      | ok last =>
          have few : last.output.length ≤ 1024 := length_appendInterfaceEntries (by simp) appended
          have fromPolicy {upstreamCidr : Bytes} (short : upstreamCidr.length ≤ 49)
              (same : policy = ⟨fixedBypassCidrs, last.output, upstreamCidr⟩) :
              ShortList policy.allCidrs := by
            subst same
            constructor
            · have total := length_allCidrs ⟨fixedBypassCidrs, last.output, upstreamCidr⟩
              have fixed : fixedBypassCidrs.length = 12 := by decide
              dsimp only at total
              omega
            · intro cidr member
              have inputs := mem_inputs_of_mem_allCidrs member
              simp only [BypassPolicy.inputs, List.mem_append, List.mem_singleton] at inputs
              rcases inputs with (rfl | fixed) | output
              · exact short
              · have every : ∀ cidr ∈ fixedBypassCidrs, cidr.length ≤ 49 := by decide
                exact every cidr fixed
              · obtain ⟨address, -, -, rfl⟩ :=
                  (collects_fixed.appendEntries appended).fromAddresses cidr output
                exact length_formatCidr_hostCidr address
          simp only [appended] at collected
          split at collected
          · exact fromPolicy (by simp) (Except.ok.inj collected).symm
          · split at collected
            next => cases collected
            next upstreamCidr found =>
              exact fromPolicy (length_addressHostCidr found) (Except.ok.inj collected).symm

end TunProxy
