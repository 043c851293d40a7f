import Mathlib.Logic.Function.Basic
import TunProxy.ProxyManager
import TunProxy.EffectProgramSafety

/-!
# The exchange with an upstream

An upstream is asked over a socket of its own whether it takes connections
without authentication.  The connection is made without blocking, so that it
can be given up after a while.  Whatever the system answers, the socket is
closed; an address is taken only where a proxy has agreed; and where the system
does its part, the first such address is found.
-/

namespace TunProxy

open ByteText EffectProgram InternetText AddressPrefix

/-! ## The calls on a socket -/

/-- What a socket is waited for. -/
inductive PollEvent
  | input
  | output
  deriving DecidableEq, Repr

/-- What `poll` returns for a socket: whether the event is among those that
happened, a timeout, or a failure with `EINTR` or with another `errno`. -/
inductive SocketPollAnswer
  | ready (wanted : Bool)
  | timedOut
  | interrupted
  | failed

/-- What `connect` returns for a socket that does not block. -/
inductive ConnectAnswer
  | connected
  /-- A failure with `EINPROGRESS`. -/
  | inProgress
  | failed

/-- The two options `SO_RCVTIMEO` and `SO_SNDTIMEO`. -/
inductive TimeoutOption
  | receive
  | send
  deriving DecidableEq, Repr

inductive ProbeCall
  | system (operation : SystemCall)
  /-- `socket` with the family of the address and `SOCK_CLOEXEC`. -/
  | socket (address : SocketAddress)
  | getFlags (fd : Nat)
  | setFlags (fd : Nat) (flags : UInt32)
  | connect (fd : Nat) (address : SocketAddress)
  | poll (fd : Nat) (event : PollEvent) (milliseconds : Nat)
  /-- `getsockopt` with `SO_ERROR`. -/
  | socketError (fd : Nat)
  | setTimeout (fd : Nat) (option : TimeoutOption) (seconds microseconds : Nat)
  | send (fd : Nat) (data : Bytes)
  /-- `recv` with `MSG_WAITALL`. -/
  | recv (fd : Nat) (size : Nat)
  | close (fd : Nat)

abbrev ProbeAnswer : ProbeCall → Type
  | .system operation => SystemAnswer operation
  | .socket _ => Option Nat
  | .getFlags _ => UInt32
  | .connect _ _ => ConnectAnswer
  | .poll _ _ _ => SocketPollAnswer
  | .socketError _ => Option Nat
  | .send _ _ => Option Nat
  | .recv _ _ => Option Bytes
  | _ => Unit

/-- The answer after which a socket is waited for once more. -/
def ProbeCall.interrupted : (operation : ProbeCall) → ProbeAnswer operation → Bool
  | .poll _ _ _, .interrupted => true
  | _, _ => false

abbrev Probe (α : Type) : Type :=
  EffectProgram ProbeAnswer α

def O_NONBLOCK : UInt32 := 0x800

/-- `kUpstreamProbeTimeout`, in milliseconds. -/
def kUpstreamProbeTimeout : Nat := 3000

/-! ## The exchange -/

/-- One turn of the loop of `waitForSocket`. -/
def waitForSocketStep (fd : Nat) (event : PollEvent) (timeout : Nat) :
    Probe (Unit ⊕ Bool) :=
  .call (.poll fd event timeout) fun
    | .ready wanted => .done (.inr wanted)
    | .interrupted => .done (.inl ())
    | .timedOut | .failed => .done (.inr false)

def waitForSocket (fuel fd : Nat) (event : PollEvent) (timeout : Nat) : Probe Bool :=
  iterate (fun _ => waitForSocketStep fd event timeout) fuel ()

def probeError (text : String) : Result Unit :=
  .error (makeError .upstreamUnreachable (ascii text))

/-- Give up on an open socket. -/
def giveUpProbe (fd : Nat) (text : String) : Probe (Result Unit) :=
  .call (.close fd) fun _ => .done (probeError text)

/-- SOCKS5, one method, no authentication. -/
def kGreeting : Bytes := [0x05, 0x01, 0x00]

/-- SOCKS5, no authentication. -/
def kAgreement : Bytes := [0x05, 0x00]

/-- The end of `probeAddress` on a socket that is connected, without the text of
the address. -/
def greetUpstream (fuel fd : Nat) (flags : UInt32) (timeout : Nat) : Probe (Result Unit) :=
  .call (.setFlags fd flags) fun _ =>
  .call (.setTimeout fd .receive (timeout * 1000 / 1000000) (timeout * 1000 % 1000000)) fun _ =>
  .call (.setTimeout fd .send (timeout * 1000 / 1000000) (timeout * 1000 % 1000000)) fun _ =>
  .call (.send fd kGreeting) fun sent =>
  if sent ≠ some kGreeting.length then giveUpProbe fd "SOCKS5 greeting failed"
  else
    (waitForSocket fuel fd .input timeout).bind fun readable =>
    if !readable then giveUpProbe fd "SOCKS5 greeting failed"
    else
      .call (.recv fd 2) fun received =>
      .call (.close fd) fun _ =>
      if received ≠ some kAgreement then
        .done (probeError "upstream rejected unauthenticated SOCKS5")
      else .done (.ok ())

/-- `probeAddress` without the text of the address. -/
def exchangeOverSocket (fuel timeout : Nat) (address : SocketAddress) : Probe (Result Unit) :=
  .call (.socket address) fun
  | none => .done (probeError "cannot create probe socket")
  | some fd =>
      .call (.getFlags fd) fun flags =>
      .call (.setFlags fd (flags ||| O_NONBLOCK)) fun _ =>
      .call (.connect fd address) fun
      | .failed => giveUpProbe fd "upstream connection failed"
      | .connected => greetUpstream fuel fd flags timeout
      | .inProgress =>
          (waitForSocket fuel fd .output timeout).bind fun writable =>
          if !writable then giveUpProbe fd "upstream connect timed out"
          else
            .call (.socketError fd) fun error =>
            if error ≠ some 0 then giveUpProbe fd "upstream connection failed"
            else greetUpstream fuel fd flags timeout

/-- The calls of the proxy manager, with the exchange in steps. -/
def probeStep (fuel : Nat) : (operation : SystemCall) → Probe (SystemAnswer operation)
  | .exchangeGreeting address => exchangeOverSocket fuel kUpstreamProbeTimeout address
  | operation => .call (.system operation) .done

/-! ## The network -/

/-- What names and addresses lead to: the addresses of a name, and what is
answered at an address to what is sent there, if there is anyone. -/
structure ProbeNetwork where
  resolver : Bytes → Bytes → Except Bytes (List SocketAddress)
  peer : SocketAddress → Option (Bytes → Bytes)

/-- A proxy at the address agrees to go without authentication. -/
def ProbeNetwork.agrees (network : ProbeNetwork) (address : SocketAddress) : Bool :=
  match network.peer address with
  | some reply => (reply kGreeting).take 2 == kAgreement
  | none => false

/-- An open socket: where it is or will be connected, and what has been sent. -/
structure ProbeSocket where
  peer : Option SocketAddress := none
  sent : Bytes := []

/-- The sockets that are open. -/
abbrev ProbeWorld : Type :=
  Nat → Option ProbeSocket

namespace ProbeNetwork

/-- How `connect` may be answered.  A system that does its part refuses no one
who is there. -/
def Connects (network : ProbeNetwork) (prompt : Prop) (world : ProbeWorld) (fd : Nat)
    (address : SocketAddress) (answer : ConnectAnswer) (next : ProbeWorld) : Prop :=
  match answer with
  | .failed => next = world ∧ (prompt → network.peer address = none)
  | .connected => (network.peer address).isSome ∧
      next = Function.update world fd (some ⟨some address, []⟩)
  | .inProgress => next = Function.update world fd (some ⟨some address, []⟩)

/-- What a socket is waited for happens, where the system does its part and
someone is there who has something to say. -/
def Awaits (network : ProbeNetwork) (socket : ProbeSocket) (event : PollEvent)
    (answer : SocketPollAnswer) : Prop :=
  ∀ address reply, socket.peer = some address → network.peer address = some reply →
    (event = .input → 2 ≤ (reply socket.sent).length) →
      answer = .interrupted ∨ answer = .ready true

/-- How a call may be answered; where the system does its part, nothing fails
that need not. -/
def Answers (network : ProbeNetwork) (prompt : Prop) (world : ProbeWorld) (operation : ProbeCall)
    (answer : ProbeAnswer operation) (next : ProbeWorld) : Prop :=
  match operation, answer with
  | .system (.getaddrinfo host service), answer =>
      next = world ∧ answer = network.resolver host service
  | .socket _, some fd => world fd = none ∧ next = Function.update world fd (some {})
  | .socket _, none => next = world ∧ ¬ prompt
  | .connect fd address, answer => network.Connects prompt world fd address answer next
  | .poll fd event _, answer => next = world ∧
      (prompt → ∀ socket, world fd = some socket → network.Awaits socket event answer)
  | .socketError fd, answer => next = world ∧ ∀ socket address, world fd = some socket →
      socket.peer = some address →
      (answer = some 0 → (network.peer address).isSome) ∧
        (prompt → (network.peer address).isSome → answer = some 0)
  | .send fd data, answer => (prompt → answer = some data.length) ∧
      ∀ socket, world fd = some socket → next = Function.update world fd
        (some { socket with sent := socket.sent ++ data.take (answer.getD 0) })
  | .recv fd size, answer => next = world ∧ ∀ socket address reply, world fd = some socket →
      socket.peer = some address → network.peer address = some reply →
      (∀ received, answer = some received → received <+: (reply socket.sent).take size) ∧
        (prompt → answer = some ((reply socket.sent).take size))
  | .close fd, _ => next = Function.update world fd none
  | _, _ => next = world

def around (network : ProbeNetwork) (prompt : Prop) : Surroundings ProbeAnswer ProbeWorld where
  answers := network.Answers prompt
  drift _ _ := False

theorem still_around (network : ProbeNetwork) (prompt : Prop) : Still (network.around prompt) :=
  fun _ _ => not_false

end ProbeNetwork

/-- A call on a socket is made while it is open, and nothing but one greeting is
ever sent. -/
def ProbeWorld.Permits (world : ProbeWorld) : ProbeCall → Prop
  | .system _ | .socket _ => True
  | .getFlags fd | .setFlags fd _ | .connect fd _ | .poll fd _ _ | .socketError fd
  | .setTimeout fd _ _ _ | .recv fd _ | .close fd => (world fd).isSome
  | .send fd data => data = kGreeting ∧ ∃ socket, world fd = some socket ∧ socket.sent = []

def probing : Watch ProbeCall ProbeWorld where
  holds _ := True
  permits := ProbeWorld.Permits
  cuts := True

/-! ## One address -/

/-- What an exchange comes to: its socket is closed, it succeeds only where a
proxy agrees, and where the system does its part it succeeds there. -/
structure Exchanged (network : ProbeNetwork) (prompt : Prop) (address : SocketAddress)
    (world : ProbeWorld) (result : Result Unit) (later : ProbeWorld) : Prop where
  closed : later = world
  agreed : result = .ok () → network.agrees address = true
  found : prompt → network.agrees address = true → result = .ok ()
  code : ∀ failure, result = .error failure → failure.code = .upstreamUnreachable

section Exchange

variable {network : ProbeNetwork} {prompt : Prop} {address : SocketAddress} {world : ProbeWorld}
variable {fd fuel timeout : Nat} {socket : ProbeSocket}

theorem isSome_open : (Function.update world fd (some socket) fd).isSome := by
  simp

/-- A socket that was opened is closed again. -/
theorem close_open (free : world fd = none) :
    Function.update (Function.update world fd (some socket)) fd none = world := by
  rw [Function.update_idem, ← free, Function.update_eq_self]

theorem exchanged_error {text : String} (refused : prompt → network.agrees address = false) :
    Exchanged network prompt address world (probeError text) world where
  closed := rfl
  agreed := fun impossible => by cases impossible
  found := fun prompt agrees => by
    rw [refused prompt] at agrees
    cases agrees
  code := fun failure same => by
    cases same
    rfl

theorem safe_giveUpProbe {text : String} (free : world fd = none)
    (refused : prompt → network.agrees address = false) :
    Safe (network.around prompt) probing (Exchanged network prompt address world)
      (giveUpProbe fd text) (Function.update world fd (some socket)) := by
  apply (network.still_around prompt).safe_call trivial isSome_open
  rintro - next rfl
  rw [close_open free]
  exact (network.still_around prompt).safe_done trivial (exchanged_error refused)

/-- Waiting for a socket changes nothing, and does not fail where it need not. -/
theorem safe_waitForSocket {event : PollEvent} (address : SocketAddress) :
    Safe (network.around prompt) probing
      (fun found later => later = Function.update world fd (some socket) ∧
        (prompt → ∀ reply, socket.peer = some address → network.peer address = some reply →
          (event = .input → 2 ≤ (reply socket.sent).length) → found = true))
      (waitForSocket fuel fd event timeout) (Function.update world fd (some socket)) := by
  let here (_ : Unit) (later : ProbeWorld) : Prop :=
    later = Function.update world fd (some socket)
  have stable (state : Unit) : Stable (network.around prompt) (here state) :=
    (network.still_around prompt).stable _
  refine Triple.iterate stable (fun _ _ _ => trivial) trivial ?_ fuel () _ rfl
  rintro state current rfl
  apply (network.still_around prompt).safe_call trivial isSome_open
  rintro answer next ⟨rfl, awaits⟩
  have happens (does : prompt) (reply : Bytes → Bytes) (peer : socket.peer = some address)
      (some : network.peer address = some reply)
      (long : event = .input → 2 ≤ (reply socket.sent).length) :
      answer = .interrupted ∨ answer = .ready true :=
    awaits does socket (Function.update_self ..) address reply peer some long
  cases answer with
  | interrupted => exact (network.still_around prompt).safe_done trivial rfl
  | ready wanted =>
      apply (network.still_around prompt).safe_done trivial
      apply (network.still_around prompt).safe_done trivial
      refine ⟨rfl, fun does reply peer some long => ?_⟩
      cases happens does reply peer some long with
      | inl impossible => cases impossible
      | inr same => exact SocketPollAnswer.ready.inj same
  | timedOut | failed =>
      apply (network.still_around prompt).safe_done trivial
      apply (network.still_around prompt).safe_done trivial
      refine ⟨rfl, fun does reply peer some long => ?_⟩
      cases happens does reply peer some long with
      | inl impossible => cases impossible
      | inr impossible => cases impossible

/-- An agreement is what the peer says to the greeting. -/
theorem agrees_iff {reply : Bytes → Bytes} (peer : network.peer address = some reply) :
    network.agrees address = true ↔ (reply kGreeting).take 2 = kAgreement := by
  unfold ProbeNetwork.agrees
  rw [peer]
  exact beq_iff_eq

theorem length_of_agrees {reply : Bytes → Bytes} (peer : network.peer address = some reply)
    (agrees : network.agrees address = true) : 2 ≤ (reply kGreeting).length := by
  have taken : ((reply kGreeting).take 2).length = 2 := by
    rw [(agrees_iff peer).mp agrees]
    rfl
  rw [List.length_take] at taken
  omega

theorem safe_greetUpstream {flags : UInt32} (free : world fd = none) {reply : Bytes → Bytes}
    (peer : network.peer address = some reply) :
    Safe (network.around prompt) probing (Exchanged network prompt address world)
      (greetUpstream fuel fd flags timeout)
      (Function.update world fd (some ⟨some address, []⟩)) := by
  have still := network.still_around prompt
  apply still.safe_call trivial isSome_open
  rintro - next rfl
  apply still.safe_call trivial isSome_open
  rintro - next rfl
  apply still.safe_call trivial isSome_open
  rintro - next rfl
  have permits : ProbeWorld.Permits (Function.update world fd (some ⟨some address, []⟩))
      (.send fd kGreeting) :=
    ⟨rfl, _, Function.update_self .., rfl⟩
  apply still.safe_call trivial permits
  rintro sent next ⟨whole, sends⟩
  obtain rfl := sends _ (Function.update_self ..)
  rw [Function.update_idem]
  by_cases complete : sent = some kGreeting.length
  · subst complete
    simp only [ne_eq, not_true_eq_false, if_false, Option.getD_some, List.take_length,
      List.nil_append]
    refine (safe_waitForSocket address).bind ?_
    rintro readable later ⟨rfl, happens⟩
    cases readable with
    | false =>
        apply safe_giveUpProbe free
        intro does
        by_contra agrees
        have agrees : network.agrees address = true := Bool.not_eq_false _ ▸ agrees
        have long := length_of_agrees peer agrees
        exact absurd (happens does reply rfl peer fun _ => long) (by decide)
    | true =>
        apply still.safe_call trivial isSome_open
        rintro received last ⟨rfl, receives⟩
        obtain ⟨part, all⟩ := receives _ address reply (Function.update_self ..) rfl peer
        apply still.safe_call trivial isSome_open
        rintro - closed rfl
        rw [close_open free]
        split
        next different =>
          apply still.safe_done trivial
          apply exchanged_error
          intro does
          by_contra agrees
          have agrees : network.agrees address = true := Bool.not_eq_false _ ▸ agrees
          apply different
          rw [all does, (agrees_iff peer).mp agrees]
        next same =>
          have same : received = some kAgreement := not_not.mp same
          apply still.safe_done trivial
          refine ⟨rfl, fun _ => ?_, fun _ _ => rfl, fun _ impossible => by cases impossible⟩
          apply (agrees_iff peer).mpr
          have front := part kAgreement same
          apply (front.eq_of_length_le ?_).symm
          rw [List.length_take]
          exact Nat.min_le_left _ _
  · simp only [ne_eq, complete, not_false_eq_true, if_true]
    apply safe_giveUpProbe free
    exact fun does => absurd (whole does) complete

theorem safe_exchangeOverSocket (address : SocketAddress) :
    Safe (network.around prompt) probing (Exchanged network prompt address world)
      (exchangeOverSocket fuel timeout address) world := by
  have still := network.still_around prompt
  -- An address at which there is no one does not agree.
  have refused (absent : network.peer address = none) : network.agrees address = false := by
    simp [ProbeNetwork.agrees, absent]
  apply still.safe_call trivial trivial
  intro opened next answers
  cases opened with
  | none =>
      obtain ⟨rfl, fails⟩ := answers
      exact still.safe_done trivial (exchanged_error fun does => absurd does fails)
  | some fd =>
      obtain ⟨free, rfl⟩ := answers
      apply still.safe_call trivial isSome_open
      rintro flags next rfl
      apply still.safe_call trivial isSome_open
      rintro - next rfl
      apply still.safe_call trivial isSome_open
      intro answer next connects
      cases answer with
      | failed =>
          obtain ⟨rfl, absent⟩ := connects
          exact safe_giveUpProbe free fun does => refused (absent does)
      | connected =>
          obtain ⟨present, rfl⟩ := connects
          obtain ⟨reply, peer⟩ := Option.isSome_iff_exists.mp present
          rw [Function.update_idem]
          exact safe_greetUpstream free peer
      | inProgress =>
          obtain rfl : next = _ := connects
          rw [Function.update_idem]
          refine (safe_waitForSocket address).bind ?_
          rintro writable later ⟨rfl, happens⟩
          cases writable with
          | false =>
              apply safe_giveUpProbe free
              intro does
              cases peer : network.peer address with
              | none => exact refused peer
              | some reply =>
                  exact absurd (happens does reply rfl peer fun impossible => by cases impossible)
                    (by decide)
          | true =>
              apply still.safe_call trivial isSome_open
              rintro error last ⟨rfl, tells⟩
              obtain ⟨there, none⟩ := tells _ address (Function.update_self ..) rfl
              split
              next different =>
                apply safe_giveUpProbe free
                intro does
                cases peer : network.peer address with
                | none => exact refused peer
                | some reply => exact absurd (none does (by rw [peer]; rfl)) different
              next same =>
                obtain ⟨reply, peer⟩ := Option.isSome_iff_exists.mp (there (not_not.mp same))
                exact safe_greetUpstream free peer

end Exchange

/-! ## Waiting -/

section Waiting

variable {fuel fd timeout : Nat}

/-- The socket is waited for again only after an interruption. -/
theorem patient_waitForSocket {event : PollEvent} :
    Patient ProbeCall.interrupted fuel (waitForSocket fuel fd event timeout) := by
  unfold waitForSocket
  apply patient_iterate
  intro _ budget answer left pays
  cases answer with
  | interrupted =>
      have paid : left + 1 = budget := pays
      exact Nat.lt_of_succ_le (Nat.le_of_eq paid)
  | ready wanted => exact Nat.le_of_eq pays
  | timedOut => exact Nat.le_of_eq pays
  | failed => exact Nat.le_of_eq pays

theorem patient_giveUpProbe {text : String} :
    Patient ProbeCall.interrupted fuel (giveUpProbe fd text) :=
  patient_call fun _ => patient_done _

theorem patient_greetUpstream {flags : UInt32} :
    Patient ProbeCall.interrupted fuel (greetUpstream fuel fd flags timeout) := by
  apply patient_call
  intro _
  apply patient_call
  intro _
  apply patient_call
  intro _
  apply patient_call
  intro sent
  apply Patient.ite patient_giveUpProbe
  apply patient_waitForSocket.bind
  intro readable
  apply Patient.ite patient_giveUpProbe
  apply patient_call
  intro received
  apply patient_call
  intro _
  exact Patient.ite (patient_done _) (patient_done _)

theorem patient_exchangeOverSocket (address : SocketAddress) :
    Patient ProbeCall.interrupted fuel (exchangeOverSocket fuel timeout address) := by
  apply patient_call
  intro opened
  cases opened with
  | none => exact patient_done _
  | some fd =>
      apply patient_call
      intro flags
      apply patient_call
      intro _
      apply patient_call
      intro outcome
      cases outcome with
      | failed => exact patient_giveUpProbe
      | connected => exact patient_greetUpstream
      | inProgress =>
          apply patient_waitForSocket.bind
          intro writable
          apply Patient.ite patient_giveUpProbe
          apply patient_call
          intro error
          exact Patient.ite patient_giveUpProbe patient_greetUpstream

theorem patient_probeAddress (address : SocketAddress) :
    Patient ProbeCall.interrupted fuel ((probeAddress address).expand (probeStep fuel)) := by
  unfold probeAddress andThen
  rw [expand_bind]
  apply ((patient_exchangeOverSocket address).bind patient_done).bind
  intro result
  cases result with
  | error failure => exact patient_done _
  | ok done =>
      cases address with
      | ip found => exact patient_done _
      | other => exact patient_done _

theorem patient_probeAddresses (upstream : Upstream) (lastError : Error)
    (addresses : List SocketAddress) : Patient ProbeCall.interrupted fuel
      ((probeAddresses upstream lastError addresses).expand (probeStep fuel)) := by
  induction addresses generalizing lastError with
  | nil => exact patient_done _
  | cons address rest ih =>
      unfold probeAddresses
      rw [expand_bind]
      apply (patient_probeAddress address).bind
      intro result
      cases result with
      | ok text => exact patient_done _
      | error failure => exact ih failure

theorem patient_resolveAndProbeUpstream (upstream : Upstream) :
    Patient ProbeCall.interrupted fuel
      ((resolveAndProbeUpstream upstream).expand (probeStep fuel)) := by
  apply patient_call
  intro resolved
  cases resolved with
  | error detail => exact patient_done _
  | ok addresses => exact patient_probeAddresses upstream _ addresses

end Waiting

/-! ## All addresses -/

/-- An address at which the probe can succeed. -/
def ProbeNetwork.usable (network : ProbeNetwork) : SocketAddress → Bool
  | .ip found => network.agrees (.ip found)
  | .other => false

/-- What the probe of one address comes to. -/
structure Probed (network : ProbeNetwork) (prompt : Prop) (address : SocketAddress)
    (world : ProbeWorld) (result : Result Bytes) (later : ProbeWorld) : Prop where
  closed : later = world
  agreed : ∀ text, result = .ok text → ∃ found, address = .ip found ∧
    network.usable address = true ∧ text = inetNtop found.family found.bytes
  found : prompt → network.usable address = true → ∃ text, result = .ok text
  code : ∀ failure, result = .error failure → failure.code = .upstreamUnreachable

/-- What the probe of the addresses of an upstream comes to. -/
structure Resolved (network : ProbeNetwork) (prompt : Prop) (upstream : Upstream)
    (addresses : List SocketAddress) (world : ProbeWorld) (result : Result ResolvedUpstream)
    (later : ProbeWorld) : Prop where
  closed : later = world
  agreed : ∀ resolved, result = .ok resolved → ∃ found, .ip found ∈ addresses ∧
    network.agrees (.ip found) = true ∧
      resolved = ⟨upstream, inetNtop found.family found.bytes⟩
  first : prompt → ∀ found, addresses.find? network.usable = some (.ip found) →
    result = .ok ⟨upstream, inetNtop found.family found.bytes⟩
  failed : ∀ failure, result = .error failure → failure.code = .upstreamUnreachable

section Addresses

variable {network : ProbeNetwork} {prompt : Prop} {world : ProbeWorld} {fuel : Nat}

theorem safe_probeAddress (address : SocketAddress) :
    Safe (network.around prompt) probing (Probed network prompt address world)
      ((probeAddress address).expand (probeStep fuel)) world := by
  have still := network.still_around prompt
  have exchanges : Safe (network.around prompt) probing (Exchanged network prompt address world)
      ((exchangeGreeting address).expand (probeStep fuel)) world := by
    have same : (exchangeGreeting address).expand (probeStep fuel) =
        exchangeOverSocket fuel kUpstreamProbeTimeout address :=
      bind_done _
    rw [same]
    exact safe_exchangeOverSocket address
  unfold probeAddress andThen
  rw [expand_bind]
  apply exchanges.bind
  rintro result later ⟨rfl, agreed, found, code⟩
  cases result with
  | error failure =>
      apply still.safe_done trivial
      refine ⟨rfl, (fun _ impossible => by cases impossible), fun does usable => ?_, ?_⟩
      · cases address with
        | ip address => cases found does usable
        | other => cases usable
      · rintro other same
        cases same
        exact code failure rfl
  | ok done =>
      cases address with
      | ip address =>
          apply still.safe_done trivial
          refine ⟨rfl, ?_, fun _ _ => ⟨_, rfl⟩, fun _ impossible => by cases impossible⟩
          rintro text same
          cases same
          exact ⟨address, rfl, agreed rfl, rfl⟩
      | other =>
          apply still.safe_done trivial
          refine ⟨rfl, (fun _ impossible => by cases impossible),
            (fun _ impossible => by cases impossible), ?_⟩
          rintro failure same
          cases same
          rfl

theorem safe_probeAddresses (upstream : Upstream) {lastError : Error}
    (code : lastError.code = .upstreamUnreachable) (addresses : List SocketAddress) :
    Safe (network.around prompt) probing (Resolved network prompt upstream addresses world)
      ((probeAddresses upstream lastError addresses).expand (probeStep fuel)) world := by
  have still := network.still_around prompt
  induction addresses generalizing lastError with
  | nil =>
      apply still.safe_done trivial
      refine ⟨rfl, (fun _ impossible => by cases impossible),
        (fun _ _ impossible => by cases impossible), ?_⟩
      rintro failure same
      cases same
      exact code
  | cons address rest ih =>
      unfold probeAddresses
      rw [expand_bind]
      apply (safe_probeAddress address).bind
      rintro result later ⟨rfl, agreed, found, failed⟩
      cases result with
      | ok text =>
          apply still.safe_done trivial
          obtain ⟨own, rfl, usable, rfl⟩ := agreed text rfl
          refine ⟨rfl, ?_, ?_, fun _ impossible => by cases impossible⟩
          · rintro resolved same
            cases same
            exact ⟨own, List.mem_cons_self, usable, rfl⟩
          · intro does first same
            rw [List.find?_cons_of_pos usable] at same
            cases same
            rfl
      | error failure =>
          refine (ih (failed failure rfl)).imp ?_
          rintro result later ⟨rfl, agreed, first, code⟩
          refine ⟨rfl, ?_, ?_, code⟩
          · intro resolved same
            obtain ⟨own, member, agrees, same⟩ := agreed resolved same
            exact ⟨own, List.mem_cons_of_mem address member, agrees, same⟩
          · intro does own same
            apply first does own
            rwa [List.find?_cons_of_neg] at same
            intro usable
            obtain ⟨text, impossible⟩ := found does usable
            cases impossible

/-- What a run of the probe of an upstream does, down to its calls on sockets,
whatever they return: a socket is used only while it is open, nothing but one
greeting is ever sent on it, and none stays open; success means that one of the
upstream's addresses was found where a proxy agreed to go without
authentication; if nothing fails that need not, the first such address is
found; and no run is cut that has been interrupted less often than its loops
may be unfolded. -/
theorem resolveAndProbeUpstream_exact {upstream : Upstream}
    {program : Probe (Result ResolvedUpstream)} {last : ProbeWorld}
    {moments : Moments ProbeAnswer ProbeWorld} {addresses : List SocketAddress}
    (resolves : network.resolver (cString upstream.host) (formatNat upstream.port.toNat) =
      .ok addresses)
    (reaches : Reaches (network.around prompt).traced
      ((resolveAndProbeUpstream upstream).expand (probeStep fuel), (world, []))
      (program, (last, moments))) :
    (∀ operation rest, program = .call operation rest → last.Permits operation) ∧
      (∀ result, program = .done result →
        Resolved network prompt upstream addresses world result last) ∧
      (program = .cut → fuel ≤ spent ProbeCall.interrupted moments) := by
  have still := network.still_around prompt
  have safe : Safe (network.around prompt) probing
      (Resolved network prompt upstream addresses world)
      ((resolveAndProbeUpstream upstream).expand (probeStep fuel)) world := by
    apply still.safe_call trivial trivial
    rintro answer next ⟨rfl, same⟩
    obtain rfl : answer = .ok addresses := same.trans resolves
    exact safe_probeAddresses upstream rfl addresses
  have reached := safe.of_reaches reaches.of_witnessing
  refine ⟨?_, ?_, ?_⟩
  · rintro operation rest rfl
    exact reached.permits
  · rintro result rfl
    exact reached.result
  · rintro rfl
    exact (patient_resolveAndProbeUpstream upstream).fuel_le_spent reaches

end Addresses

/-! ## A name with two addresses -/

def firstAddress : IpAddress := ⟨.inet, [192, 0, 2, 1], rfl⟩

def secondAddress : IpAddress := ⟨.inet, [192, 0, 2, 2], rfl⟩

/-- No one is at the first address, and a proxy at the second. -/
def twoAddresses : ProbeNetwork where
  resolver _ _ := .ok [.ip firstAddress, .ip secondAddress]
  peer address :=
    match address with
    | .ip found => if found.bytes = secondAddress.bytes then some fun _ => kAgreement else none
    | .other => none

/-- What a system that does its part answers. -/
def ProbeNetwork.respond (network : ProbeNetwork) : Responder ProbeAnswer ProbeWorld :=
  fun world operation =>
    match operation with
    | .system (.getaddrinfo host service) => some (network.resolver host service, world)
    | .system _ => none
    | .socket _ =>
        if (world 5).isNone then some (some 5, Function.update world 5 (some {})) else none
    | .getFlags _ => some (2, world)
    | .connect fd address =>
        if (network.peer address).isSome then
          some (.inProgress, Function.update world fd (some ⟨some address, []⟩))
        else some (.failed, world)
    | .poll _ _ _ => some (.ready true, world)
    | .socketError fd =>
        match world fd with
        | some ⟨some address, _⟩ =>
            if (network.peer address).isSome then some (some 0, world) else none
        | _ => none
    | .send fd data =>
        match world fd with
        | some socket => some (some data.length,
            Function.update world fd (some { socket with sent := socket.sent ++ data }))
        | none => none
    | .recv fd size =>
        match world fd with
        | some ⟨some address, sent⟩ => (network.peer address).map fun reply =>
            (some ((reply sent).take size), world)
        | _ => none
    | .close fd => some ((), Function.update world fd none)
    | .setFlags _ _ | .setTimeout _ _ _ _ => some ((), world)

theorem ProbeNetwork.respond_within (network : ProbeNetwork) :
    network.respond.Within (network.around True) id := by
  intro world operation answer next responded
  refine ⟨world, .refl, ?_⟩
  cases operation with
  | system operation =>
      cases operation with
      | getaddrinfo host service =>
          obtain ⟨rfl, rfl⟩ := Prod.mk.inj (Option.some.inj responded)
          exact ⟨rfl, rfl⟩
      | _ => cases responded
  | socket address =>
      obtain ⟨free, same⟩ := Option.ite_none_right_eq_some.mp responded
      obtain ⟨rfl, rfl⟩ := Prod.mk.inj (Option.some.inj same)
      exact ⟨Option.isNone_iff_eq_none.mp free, rfl⟩
  | getFlags fd =>
      obtain ⟨rfl, rfl⟩ := Prod.mk.inj (Option.some.inj responded)
      rfl
  | connect fd address =>
      simp only [ProbeNetwork.respond] at responded
      split at responded
      next present =>
        obtain ⟨rfl, rfl⟩ := Prod.mk.inj (Option.some.inj responded)
        rfl
      next absent =>
        obtain ⟨rfl, rfl⟩ := Prod.mk.inj (Option.some.inj responded)
        exact ⟨rfl, fun _ => Option.not_isSome_iff_eq_none.mp absent⟩
  | poll fd event timeout =>
      obtain ⟨rfl, rfl⟩ := Prod.mk.inj (Option.some.inj responded)
      exact ⟨rfl, fun _ _ _ _ _ _ _ _ => Or.inr rfl⟩
  | socketError fd =>
      simp only [ProbeNetwork.respond] at responded
      split at responded
      next address sent here =>
        obtain ⟨present, same⟩ := Option.ite_none_right_eq_some.mp responded
        obtain ⟨rfl, rfl⟩ := Prod.mk.inj (Option.some.inj same)
        refine ⟨rfl, fun socket peer found connects => ?_⟩
        obtain rfl := Option.some.inj (here.symm.trans found)
        obtain rfl := Option.some.inj connects
        exact ⟨fun _ => present, fun _ _ => rfl⟩
      next => cases responded
  | send fd data =>
      simp only [ProbeNetwork.respond] at responded
      split at responded
      next socket here =>
        obtain ⟨rfl, rfl⟩ := Prod.mk.inj (Option.some.inj responded)
        refine ⟨fun _ => rfl, fun socket' found => ?_⟩
        obtain rfl := Option.some.inj (here.symm.trans found)
        simp
      next => cases responded
  | recv fd size =>
      simp only [ProbeNetwork.respond] at responded
      split at responded
      next address sent here =>
        obtain ⟨reply, peer, same⟩ := Option.map_eq_some_iff.mp responded
        obtain ⟨rfl, rfl⟩ := Prod.mk.inj same
        refine ⟨rfl, fun socket address' reply' found at' peer' => ?_⟩
        obtain rfl := Option.some.inj (here.symm.trans found)
        obtain rfl := Option.some.inj at'
        obtain rfl := Option.some.inj (peer.symm.trans peer')
        refine ⟨fun received same => ?_, fun _ => rfl⟩
        obtain rfl := Option.some.inj same
        exact List.prefix_refl _
      next => cases responded
  | close fd =>
      obtain ⟨rfl, rfl⟩ := Prod.mk.inj (Option.some.inj responded)
      rfl
  | setFlags fd flags =>
      obtain ⟨rfl, rfl⟩ := Prod.mk.inj (Option.some.inj responded)
      rfl
  | setTimeout fd option seconds microseconds =>
      obtain ⟨rfl, rfl⟩ := Prod.mk.inj (Option.some.inj responded)
      rfl

/-- The upstream that is looked for. -/
def namedUpstream : Upstream :=
  { host := ascii "proxy.example", port := 1080 }

theorem resolveAndProbeUpstream_exact_example : ∃ last, Reaches (twoAddresses.around True)
    ((resolveAndProbeUpstream namedUpstream).expand (probeStep 1), fun _ => none)
    (.done (.ok ⟨namedUpstream, inetNtop .inet secondAddress.bytes⟩), last) := by
  have succeeds : (follow twoAddresses.respond
      ((resolveAndProbeUpstream namedUpstream).expand (probeStep 1))
      fun _ => none).1.outcome? = some true := by
    decide +kernel
  obtain ⟨result, ran, -⟩ := Option.map_eq_some_iff.mp succeeds
  have reaches := reaches_of_follow twoAddresses.respond_within ran
  obtain ⟨moments, traced⟩ := reaches.exists_witnessing []
  have resolved := (resolveAndProbeUpstream_exact rfl traced).2.1 result rfl
  have found : [SocketAddress.ip firstAddress, .ip secondAddress].find? twoAddresses.usable =
      some (.ip secondAddress) :=
    rfl
  rw [resolved.first trivial secondAddress found] at reaches
  exact ⟨_, reaches⟩

end TunProxy
