import TunProxy.ErrorResult
import TunProxy.InternetText

/-!
# The bypass policy

Destinations that must not go through the proxy: fixed local ranges, the
addresses of active interfaces and the upstream itself.  They are collected as
CIDR texts and merged without those that others contain.
-/

namespace TunProxy

open ByteText AddressPrefix InternetText

/-- 198.18.0.0/15, the address space of the managed TUN. -/
def kTunAddressSpacePrefix : Bytes := [198, 18]
def kTunAddressSpacePrefixBits : Nat := 15
def kMaximumInterfaceCidrs : Nat := 1024

/-- A parsed CIDR; the array has room for either family. -/
structure BinaryCidr where
  family : AddressFamily
  address : Bytes
  prefixLength : Nat
  sixteen : address.length = 16
  deriving DecidableEq

/-- An address at the start of a zeroed array. -/
def storeAddress (bytes : Bytes) : Bytes :=
  (bytes ++ List.replicate 16 0).take 16

@[simp] theorem storeAddress_length (bytes : Bytes) : (storeAddress bytes).length = 16 := by
  simp [storeAddress]

/-- What a C string function sees of a string: the bytes before the first NUL. -/
def cString (text : Bytes) : Bytes :=
  text.takeWhile fun byte => byte != 0

/-- The end of `parseCidr`: clear the host bits. -/
def maskedCidr (family : AddressFamily) (bytes : Bytes) (prefixLength : Nat) : BinaryCidr where
  family := family
  address := clearBits family.size prefixLength (storeAddress bytes)
  prefixLength := prefixLength
  sixteen := by simp

def parseCidr (cidr : Bytes) : Result BinaryCidr :=
  match splitLast slash cidr with
  | none => .error (makeError .invalidConfiguration (ascii "invalid CIDR: " ++ cidr))
  | some (addressText, prefixText) =>
      if addressText.isEmpty ∨ prefixText.isEmpty then
        .error (makeError .invalidConfiguration (ascii "invalid CIDR: " ++ cidr))
      else
        match parseUnsigned (2 ^ 32 - 1) prefixText with
        | none => .error (makeError .invalidConfiguration (ascii "invalid CIDR prefix: " ++ cidr))
        | some prefixLength =>
            match inetPton .inet (cString addressText) with
            | some bytes =>
                if 32 < prefixLength then
                  .error (makeError .invalidConfiguration (ascii "invalid IPv4 CIDR prefix"))
                else .ok (maskedCidr .inet bytes prefixLength)
            | none =>
                match inetPton .inet6 (cString addressText) with
                | some bytes =>
                    if 128 < prefixLength then
                      .error (makeError .invalidConfiguration (ascii "invalid IPv6 CIDR prefix"))
                    else .ok (maskedCidr .inet6 bytes prefixLength)
                | none => .error (makeError .invalidConfiguration
                    (ascii "invalid CIDR address: " ++ addressText))

/-- The buffer is large enough for both families, so `inet_ntop` never fails. -/
def formatCidr (cidr : BinaryCidr) : Bytes :=
  inetNtop cidr.family (cidr.address.take cidr.family.size) ++
    ascii "/" ++ formatNat cidr.prefixLength

def overlapsTunAddressSpace (cidr : BinaryCidr) : Bool :=
  if cidr.family ≠ .inet then false
  else sameBits (min cidr.prefixLength kTunAddressSpacePrefixBits) cidr.address
    kTunAddressSpacePrefix

def containsCidr (outer inner : BinaryCidr) : Bool :=
  if outer.family ≠ inner.family ∨ inner.prefixLength < outer.prefixLength then false
  else sameBits outer.prefixLength outer.address inner.address

def isUnspecifiedAddress (cidr : BinaryCidr) : Bool :=
  (cidr.address.take cidr.family.size).all fun value => value == 0

/-! ## Interface addresses -/

/-- The texts collected so far, and the set of all texts seen, of which only
membership counts. -/
structure CollectedCidrs where
  output : List Bytes
  seen : List Bytes

def appendInterfaceAddress (collected : CollectedCidrs) (cidr : BinaryCidr) :
    Result CollectedCidrs :=
  if isUnspecifiedAddress cidr || overlapsTunAddressSpace cidr then .ok collected
  else
    let formatted := formatCidr cidr
    if formatted.isEmpty then
      .error (makeError .stateError (ascii "cannot format detected network address"))
    else if collected.seen.any (fun existingText =>
        match parseCidr existingText with
        | .ok existing => containsCidr existing cidr
        | .error _ => false) then .ok collected
    else if formatted ∈ collected.seen then .ok collected
    else if kMaximumInterfaceCidrs ≤ collected.output.length then
      .error (makeError .stateError (ascii "more than " ++ formatNat kMaximumInterfaceCidrs ++
        ascii (" active interface addresses were detected; " ++
          "refusing an incomplete bypass policy")))
    else .ok ⟨collected.output ++ [formatted], formatted :: collected.seen⟩

/-- The address of an interface entry, which may be of another family. -/
inductive SocketAddress
  | ip (address : IpAddress)
  | other

/-- An entry of the list that `getifaddrs` gives; either pointer may be null. -/
structure InterfaceEntry where
  name : Option Bytes
  flags : UInt32
  address : Option SocketAddress

def IFF_UP : UInt32 := 1

/-- The host CIDR of an address. -/
def hostCidr (address : IpAddress) : BinaryCidr where
  family := address.family
  address := storeAddress address.bytes
  prefixLength := address.family.bits
  sixteen := by simp

/-- The address of an entry that is not skipped. -/
def InterfaceEntry.considered (excludedInterface : Bytes) (entry : InterfaceEntry) :
    Option IpAddress :=
  match entry.address, entry.name with
  | some (.ip address), some name =>
      if entry.flags &&& IFF_UP = 0 ∨ name = excludedInterface then none else some address
  | _, _ => none

/-- The loop over the entries. -/
def appendInterfaceEntries (excludedInterface : Bytes) :
    CollectedCidrs → List InterfaceEntry → Result CollectedCidrs
  | collected, [] => .ok collected
  | collected, entry :: rest =>
      match entry.considered excludedInterface with
      | none => appendInterfaceEntries excludedInterface collected rest
      | some address =>
          match appendInterfaceAddress collected (hostCidr address) with
          | .ok next => appendInterfaceEntries excludedInterface next rest
          | .error failure => .error failure

/-- `interfaces` is what `getifaddrs` gave, or the text of its failure. -/
def collectInterfaceAddresses (collected : CollectedCidrs) (excludedInterface : Bytes)
    (interfaces : Except Bytes (List InterfaceEntry)) : Result CollectedCidrs :=
  match interfaces with
  | .error detail => .error (makeError .stateError
      (ascii "cannot enumerate local interface addresses: " ++ detail))
  | .ok entries => appendInterfaceEntries excludedInterface collected entries

/-! ## The policy -/

def fixedBypassCidrs : List Bytes :=
  [ascii "127.0.0.0/8", ascii "::1/128", ascii "10.0.0.0/8", ascii "172.16.0.0/12",
    ascii "192.168.0.0/16", ascii "100.64.0.0/10", ascii "169.254.0.0/16", ascii "fe80::/10",
    ascii "fc00::/7", ascii "224.0.0.0/4", ascii "ff00::/8", ascii "255.255.255.255/32"]

def canonicalizeCidr (cidr : Bytes) : Result Bytes :=
  match parseCidr cidr with
  | .error failure => .error failure
  | .ok parsed =>
      if (formatCidr parsed).isEmpty then
        .error (makeError .invalidConfiguration (ascii "cannot format CIDR"))
      else .ok (formatCidr parsed)

/-- Every fixed range is written in its canonical form. -/
theorem canonicalizeCidr_fixed : ∀ text ∈ fixedBypassCidrs, canonicalizeCidr text = .ok text := by
  decide +kernel

/-- The address a text stands for, IPv4 tried first. -/
def textAddress (text : Bytes) : Option IpAddress :=
  match v4 : inetPton .inet (cString text) with
  | some bytes => some ⟨.inet, bytes, length_of_inetPton v4⟩
  | none =>
      match v6 : inetPton .inet6 (cString text) with
      | some bytes => some ⟨.inet6, bytes, length_of_inetPton v6⟩
      | none => none

def addressHostCidr (address : Bytes) : Result Bytes :=
  match textAddress address with
  | none =>
      .error (makeError .invalidConfiguration (ascii "upstream address is not an IP address"))
  | some parsed =>
      if isUnspecifiedAddress (hostCidr parsed) then
        .error (makeError .invalidConfiguration (ascii "upstream address is unspecified"))
      else .ok (formatCidr (hostCidr parsed))

structure BypassPolicy where
  fixedCidrs : List Bytes
  interfaceCidrs : List Bytes
  upstreamCidr : Bytes

/-- The merged texts so far with their parsed forms. -/
structure MergedCidrs where
  output : List Bytes
  parsedOutput : List BinaryCidr

def MergedCidrs.append (mandatory : Bool) (merged : MergedCidrs) (cidr : Bytes) : MergedCidrs :=
  if cidr.isEmpty then merged
  else
    match parseCidr cidr with
    | .error _ => merged
    | .ok parsed =>
        if !mandatory && merged.parsedOutput.any (fun existing => containsCidr existing parsed) then
          merged
        else if merged.parsedOutput.any (fun existing => existing.family = parsed.family &&
            existing.prefixLength = parsed.prefixLength &&
            existing.address = parsed.address) then merged
        else ⟨merged.output ++ [cidr], merged.parsedOutput ++ [parsed]⟩

def BypassPolicy.allCidrs (policy : BypassPolicy) : List Bytes :=
  let pinned : MergedCidrs :=
    if policy.upstreamCidr.isEmpty then ⟨[], []⟩
    else MergedCidrs.append true ⟨[], []⟩ policy.upstreamCidr
  let withFixed := policy.fixedCidrs.foldl (MergedCidrs.append false) pinned
  (policy.interfaceCidrs.foldl (MergedCidrs.append false) withFixed).output

def collectBypassPolicy (interfaces : Except Bytes (List InterfaceEntry))
    (upstreamAddress excludedInterface : Bytes) : Result BypassPolicy :=
  match collectInterfaceAddresses ⟨[], fixedBypassCidrs⟩ excludedInterface interfaces with
  | .error failure => .error failure
  | .ok collected =>
      if upstreamAddress.isEmpty then .ok ⟨fixedBypassCidrs, collected.output, []⟩
      else
        match addressHostCidr upstreamAddress with
        | .error failure => .error failure
        | .ok upstreamCidr => .ok ⟨fixedBypassCidrs, collected.output, upstreamCidr⟩

end TunProxy
