import TunProxy.BypassPolicyCoverage
import TunProxy.SingBoxConfig

/-!
# Which packets bypass the proxy

sing-box applies the first route rule whose criteria a packet meets.  With the
rules it is given, exactly the packets to a fixed range, to the upstream or to
an address of an active interface go out directly; of the others, DNS is
hijacked, UDP is rejected and the rest goes to the upstream.
-/

namespace TunProxy

open ByteText AddressPrefix InternetText

/-! ## The bypassed destinations -/

/-- The entry is an active interface other than the excluded one, with an
address that is to be bypassed. -/
def InterfaceEntry.HasAddress (entry : InterfaceEntry) (excludedInterface : Bytes)
    (address : IpAddress) : Prop :=
  entry.address = some (.ip address) ∧ entry.flags &&& IFF_UP ≠ 0 ∧
    ∃ name, entry.name = some name ∧ name ≠ excludedInterface

/-- The destinations that are to go out directly. -/
def Bypassed (entries : List InterfaceEntry) (excludedInterface : Bytes) (upstream : IpAddress)
    (destination : IpAddress) : Prop :=
  ListCovers fixedBypassCidrs destination ∨ destination = upstream ∨
    Eligible destination ∧ ∃ entry ∈ entries, entry.HasAddress excludedInterface destination

theorem considered_iff {excludedInterface : Bytes} {entry : InterfaceEntry} {address : IpAddress} :
    entry.considered excludedInterface = some address ↔
      entry.HasAddress excludedInterface address := by
  obtain ⟨name, flags, socketAddress⟩ := entry
  unfold InterfaceEntry.considered InterfaceEntry.HasAddress
  rcases socketAddress with _ | ⟨found⟩ | _
  · simp
  · cases name with
    | none => simp
    | some name =>
        by_cases skipped : flags &&& IFF_UP = 0 ∨ name = excludedInterface
        · simp only [skipped, if_true]
          constructor
          · intro none
            cases none
          · rintro ⟨-, up, other, same, different⟩
            obtain rfl := Option.some.inj same
            rcases skipped with down | excluded
            · exact absurd down up
            · exact absurd excluded different
        · simp only [skipped, if_false]
          rw [not_or] at skipped
          constructor
          · intro same
            obtain rfl := Option.some.inj same
            exact ⟨rfl, skipped.1, name, rfl, skipped.2⟩
          · rintro ⟨same, -⟩
            injection same with same
            injection same with same
            rw [same]
  · simp

theorem mem_consideredAddresses {excludedInterface : Bytes} {entries : List InterfaceEntry}
    {address : IpAddress} :
    address ∈ consideredAddresses excludedInterface entries ↔
      ∃ entry ∈ entries, entry.HasAddress excludedInterface address := by
  simp only [consideredAddresses, List.mem_filterMap, considered_iff]

/-- Text meaning and parsed meaning agree on lists without NUL bytes. -/
theorem listCovers_iff {cidrs : List Bytes} (noNul : ∀ text ∈ cidrs, (0 : UInt8) ∉ text)
    {address : IpAddress} : ListCovers cidrs address ↔ ParsedCovers cidrs address := by
  constructor
  · rintro ⟨text, member, covers⟩
    obtain ⟨cidr, parsed⟩ := exists_parseCidr_of_covers (noNul text member) covers
    exact ⟨text, member, cidr, parsed,
      (covers_iff_of_parseCidr (noNul text member) parsed).mpr covers⟩
  · rintro ⟨text, member, cidr, parsed, covers⟩
    exact ⟨text, member, (covers_iff_of_parseCidr (noNul text member) parsed).mp covers⟩

theorem listCovers_append {front back : List Bytes} {address : IpAddress} :
    ListCovers (front ++ back) address ↔ ListCovers front address ∨ ListCovers back address := by
  simp only [ListCovers, List.mem_append, or_and_right, exists_or]

/-- What the policy for an upstream address is made of. -/
theorem collectBypassPolicy_eq_ok {entries : List InterfaceEntry}
    {upstreamText excludedInterface : Bytes} {upstream : IpAddress} {policy : BypassPolicy}
    (reads : textAddress upstreamText = some upstream)
    (collected : collectBypassPolicy (.ok entries) upstreamText excludedInterface = .ok policy) :
    policy.fixedCidrs = fixedBypassCidrs ∧ policy.upstreamCidr = formatCidr (hostCidr upstream) ∧
      ∃ seen, (⟨policy.interfaceCidrs, seen⟩ : CollectedCidrs).Collects
        (consideredAddresses excludedInterface entries) := by
  unfold collectBypassPolicy collectInterfaceAddresses at collected
  cases appended : appendInterfaceEntries excludedInterface ⟨[], fixedBypassCidrs⟩ entries with
  | error failure => simp [appended] at collected
  | ok last =>
      have collects := collects_fixed.appendEntries appended
      have given : upstreamText.isEmpty = false := by
        cases upstreamText with
        | nil =>
            rw [show textAddress [] = none by decide] at reads
            cases reads
        | cons byte rest => rfl
      simp only [appended, given, addressHostCidr, reads] at collected
      by_cases unspecified : isUnspecifiedAddress (hostCidr upstream) = true
      · simp [unspecified] at collected
      · simp only [unspecified] at collected
        obtain rfl := Except.ok.inj collected
        exact ⟨rfl, rfl, last.seen, by simpa using collects⟩

/-- The merged list covers exactly the bypassed destinations. -/
theorem allCidrs_exact {entries : List InterfaceEntry}
    {upstreamText excludedInterface : Bytes} {upstream : IpAddress} {policy : BypassPolicy}
    (reads : textAddress upstreamText = some upstream)
    (collected : collectBypassPolicy (.ok entries) upstreamText excludedInterface = .ok policy)
    (destination : IpAddress) :
    ListCovers policy.allCidrs destination ↔
      Bypassed entries excludedInterface upstream destination := by
  obtain ⟨fixed, pinned, seen, collects⟩ := collectBypassPolicy_eq_ok reads collected
  have interfaceTexts : ∀ text ∈ policy.interfaceCidrs, ∃ address,
      (∃ entry ∈ entries, entry.HasAddress excludedInterface address) ∧ Eligible address ∧
        text = formatCidr (hostCidr address) := by
    intro text member
    obtain ⟨address, considered, eligible, written⟩ := collects.fromAddresses text member
    exact ⟨address, mem_consideredAddresses.mp considered, eligible, written⟩
  have noNul : ∀ text ∈ policy.inputs, (0 : UInt8) ∉ text := by
    intro text member
    simp only [BypassPolicy.inputs, fixed, pinned, List.mem_append, List.mem_singleton] at member
    rcases member with (rfl | member) | member
    · exact notMem_formatCidr_hostCidr (by decide) (by decide) (by decide)
    · exact notMem_fixedBypassCidrs member
    · obtain ⟨address, -, -, rfl⟩ := interfaceTexts text member
      exact notMem_formatCidr_hostCidr (by decide) (by decide) (by decide)
  have merged : ListCovers policy.allCidrs destination ↔ ListCovers policy.inputs destination := by
    rw [listCovers_iff noNul, ← allCidrs_covers]
    exact listCovers_iff fun text member => noNul text (mem_inputs_of_mem_allCidrs member)
  rw [merged]
  simp only [BypassPolicy.inputs, fixed, pinned, listCovers_append, Bypassed]
  constructor
  · rintro ((covers | covers) | covers)
    · obtain ⟨text, member, covered⟩ := covers
      obtain rfl := List.mem_singleton.mp member
      exact Or.inr (Or.inl (cidrCovers_formatCidr_hostCidr.mp covered))
    · exact Or.inl covers
    · obtain ⟨text, member, covered⟩ := covers
      obtain ⟨address, active, eligible, rfl⟩ := interfaceTexts text member
      obtain rfl := cidrCovers_formatCidr_hostCidr.mp covered
      exact Or.inr (Or.inr ⟨eligible, active⟩)
  · rintro (covers | rfl | ⟨eligible, active⟩)
    · exact Or.inl (Or.inr covers)
    · exact Or.inl (Or.inl ⟨_, List.mem_singleton_self _, cidrCovers_formatCidr_hostCidr.mpr rfl⟩)
    · obtain ⟨text, member, covered⟩ :=
        collects.complete destination (mem_consideredAddresses.mpr active) eligible
      rcases (collects.seen text).mp member with fixedText | interfaceText
      · exact Or.inl (Or.inr ⟨text, fixedText, covered⟩)
      · exact Or.inr ⟨text, interfaceText, covered⟩

/-! ## Routing -/

inductive Network
  | tcp
  | udp
  | icmp
  deriving DecidableEq, Repr

def Network.name : Network → Bytes
  | .tcp => ascii "tcp"
  | .udp => ascii "udp"
  | .icmp => ascii "icmp"

structure Packet where
  destination : IpAddress
  port : Nat
  network : Network

/-- The packet meets every criterion of the rule. -/
def RouteRule.Matches (rule : RouteRule) (packet : Packet) : Prop :=
  (∀ cidrs, rule.ipCidr = some cidrs → ListCovers cidrs packet.destination) ∧
    (∀ port, rule.port = some port → packet.port = port) ∧
    ∀ network, rule.network = some network → packet.network.name = network

/-- The first rule that matches decides; without one the packet goes to the
final outbound. -/
def Routes : List RouteRule → Packet → RouteAction → Prop
  | [], _, action => action = .route (ascii "proxy")
  | rule :: rest, packet, action =>
      rule.Matches packet ∧ action = rule.action ∨
        ¬ rule.Matches packet ∧ Routes rest packet action

theorem routes_routeRules {cidrs : List Bytes} {packet : Packet} {action : RouteAction} :
    Routes (routeRules cidrs) packet action ↔
      ListCovers cidrs packet.destination ∧ action = .route (ascii "direct") ∨
      ¬ ListCovers cidrs packet.destination ∧
        (packet.port = 53 ∧ action = .hijackDns ∨
          packet.port ≠ 53 ∧
            (packet.network = .udp ∧ action = .reject ∨
              packet.network ≠ .udp ∧ action = .route (ascii "proxy"))) := by
  have udp : packet.network.name = ascii "udp" ↔ packet.network = .udp := by
    cases packet.network <;> decide
  simp [Routes, routeRules, RouteRule.Matches, udp]

/-- Neither traffic leaks past the proxy nor is bypassed traffic captured: the
list that both uses in the configuration have covers exactly the bypassed
destinations, it begins with the upstream's own CIDR, and packets are routed
accordingly. -/
theorem bypass_exact {entries : List InterfaceEntry} {upstreamText excludedInterface : Bytes}
    {upstream : IpAddress} {policy : BypassPolicy}
    (reads : textAddress upstreamText = some upstream)
    (collected : collectBypassPolicy (.ok entries) upstreamText excludedInterface = .ok policy) :
    (∀ destination, ListCovers policy.allCidrs destination ↔
      Bypassed entries excludedInterface upstream destination) ∧
    policy.allCidrs.head? = some (inetNtop upstream.family upstream.bytes ++
      slash :: formatNat upstream.family.bits) ∧
    (∀ config text, config.bypassCidrs = policy.allCidrs → buildSingBoxConfig config = .ok text →
      ∃ front middle back, text =
        front ++ ascii "\"route_exclude_address\": " ++ writeStringArray policy.allCidrs ++
        middle ++ ascii "\"rules\": " ++ (ascii "[" ++ (ascii ", ").intercalate
          ((routeRules policy.allCidrs).map RouteRule.write) ++ ascii "]") ++
        ascii ",\n    \"final\": \"proxy\"" ++ back) ∧
    ∀ packet action, Routes (routeRules policy.allCidrs) packet action ↔
      Bypassed entries excludedInterface upstream packet.destination ∧
        action = .route (ascii "direct") ∨
      ¬ Bypassed entries excludedInterface upstream packet.destination ∧
        (packet.port = 53 ∧ action = .hijackDns ∨
          packet.port ≠ 53 ∧
            (packet.network = .udp ∧ action = .reject ∨
              packet.network ≠ .udp ∧ action = .route (ascii "proxy"))) := by
  have exact := allCidrs_exact reads collected
  refine ⟨exact, ?_, ?_, ?_⟩
  · obtain ⟨-, pinned, -⟩ := collectBypassPolicy_eq_ok reads collected
    have parsed : parseCidr policy.upstreamCidr = .ok (hostCidr upstream) := by
      rw [pinned, parseCidr_formatCidr_hostCidr]
    rw [allCidrs_head parsed, pinned, formatCidr_hostCidr]
  · intro config text same built
    have exclusion : ascii "    \"route_exclude_address\": " =
        ascii "    " ++ ascii "\"route_exclude_address\": " := by decide
    have rules : ascii "    \"rules\": " = ascii "    " ++ ascii "\"rules\": " := by decide
    have final : configBack = ascii ",\n    \"final\": \"proxy\"" ++
        ascii ", \"auto_detect_interface\": true\n  \x7d\n\x7d\n" := by decide
    unfold buildSingBoxConfig at built
    split at built
    · cases built
    split at built
    · cases built
    obtain rfl := Except.ok.inj built
    refine ⟨configFront config ++ ascii "    ", configMiddle config ++ ascii "    ",
      ascii ", \"auto_detect_interface\": true\n  \x7d\n\x7d\n", ?_⟩
    rw [exclusion, rules, final, configRules_eq, same]
    simp only [List.append_assoc]
  · intro packet action
    rw [routes_routeRules, exact packet.destination]

/-- A machine with a loopback, an Ethernet address inside no fixed range, the
managed TUN and an interface that is down. -/
def exampleInterfaces : List InterfaceEntry :=
  [⟨some (ascii "lo"), 1, some (.ip ⟨.inet, [127, 0, 0, 1], rfl⟩)⟩,
    ⟨some (ascii "eth0"), 1, some (.ip ⟨.inet, [203, 0, 113, 5], rfl⟩)⟩,
    ⟨some (ascii "tunproxy0"), 1, some (.ip ⟨.inet, [198, 18, 0, 1], rfl⟩)⟩,
    ⟨some (ascii "eth1"), 0, some (.ip ⟨.inet, [203, 0, 113, 6], rfl⟩)⟩]

def exampleUpstream : IpAddress := ⟨.inet, [203, 0, 113, 9], rfl⟩
def examplePolicy : BypassPolicy :=
  ⟨fixedBypassCidrs, [ascii "203.0.113.5/32"], ascii "203.0.113.9/32"⟩

theorem bypass_exact_example :
    Routes (routeRules examplePolicy.allCidrs) ⟨exampleUpstream, 53, .udp⟩
      (.route (ascii "direct")) := by
  have reads : textAddress (ascii "203.0.113.9") = some exampleUpstream := by decide +kernel
  have collected : collectBypassPolicy (.ok exampleInterfaces) (ascii "203.0.113.9")
      (ascii "tunproxy0") = .ok examplePolicy := by rfl
  exact ((bypass_exact reads collected).2.2.2 _ _).mpr (Or.inl ⟨Or.inr (Or.inl rfl), rfl⟩)

end TunProxy
