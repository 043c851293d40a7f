import TunProxy.CoreManager
import TunProxy.DaemonClients

/-!
# The control socket of the daemon

The daemon listens on a socket that it was started with or on one that it binds
itself.  Of its own it first sets the owner and the mode and listens only then,
so that no one but root and the administrators can ever connect to it; it
removes nothing but a socket, and leaves nothing open when it cannot start.
-/

namespace TunProxy

open ByteText EffectProgram

def AppPaths.controlSocket (paths : AppPaths) : Path :=
  paths.runtimeDir ++ [ascii "control.sock"]

namespace ControlSocket

/-! ## The calls -/

inductive HandledSignal
  | term
  | int

/-- What `lstat` finds at the path of the socket. -/
inductive PathAnswer
  | socket
  | other
  /-- `ENOENT`. -/
  | missing
  | failed

inductive SocketCall
  | geteuid
  | umask (mask : Nat)
  | sigaction (signal : HandledSignal)
  /-- `signal` with `SIGPIPE` and `SIG_IGN`. -/
  | ignoreSigpipe
  | getenv (name : Bytes)
  | unsetenv (name : Bytes)
  | getpid
  /-- `fstat`, and whether it is a socket. -/
  | fstat (fd : Nat)
  /-- `getsockname`, and whether it is of the family `AF_UNIX`. -/
  | getsockname (fd : Nat)
  | setCloexec (fd : Nat)
  | ensureDirectory (path : Path) (mode : Nat)
  | lstat (path : Path)
  | unlink (path : Path)
  /-- `socket` with `SOCK_STREAM | SOCK_CLOEXEC`. -/
  | socket
  | bind (fd : Nat) (path : Path)
  | getgrnam (name : Bytes)
  | chown (path : Path) (uid gid : Nat)
  | chmod (path : Path) (mode : Nat)
  | listen (fd backlog : Nat)
  | close (fd : Nat)
  /-- The loop that accepts clients, the wait for their workers and the cleanup. -/
  | serve (listener : Nat)
  | stderr (text : Bytes)

abbrev SocketAnswer : SocketCall → Type
  | .geteuid => Nat
  | .sigaction _ => Bool
  | .getenv _ => Option Bytes
  | .getpid => Nat
  | .fstat _ => Option Bool
  | .getsockname _ => Option Bool
  | .ensureDirectory _ _ => Result Unit
  | .lstat _ => PathAnswer
  | .unlink _ => Bool
  | .socket => Option Nat
  | .bind _ _ => Except Bytes Unit
  | .getgrnam _ => Option Nat
  | .chown _ _ _ => Except Bytes Unit
  | .chmod _ _ => Except Bytes Unit
  | .listen _ _ => Except Bytes Unit
  | .umask _ | .ignoreSigpipe | .unsetenv _ | .setCloexec _ | .close _ | .serve _ | .stderr _ =>
      Unit

abbrev SocketProgram (α : Type) : Type :=
  EffectProgram SocketAnswer α

/-! ## An inherited socket -/

/-- `strtoul` with base 10, required to use up the text without an overflow.  A
number with a sign is negated in `unsigned long`. -/
def strtoul (text : Bytes) : Option Nat :=
  let digits := text.dropWhile isSpace
  if digits.head? = some minus then
    (ByteText.parseUnsigned (2 ^ 64 - 1) (digits.drop 1)).map fun value =>
      (2 ^ 64 - value) % 2 ^ 64
  else if digits.head? = some 43 then ByteText.parseUnsigned (2 ^ 64 - 1) (digits.drop 1)
  else ByteText.parseUnsigned (2 ^ 64 - 1) digits

def parseUnsigned (text : Option Bytes) : Option Nat :=
  text.bind strtoul

def isSocketDescriptor (fd : Nat) : SocketProgram Bool :=
  .call (.fstat fd) fun
  | some true => .call (.getsockname fd) fun family => .done (family == some true)
  | _ => .done false

/-- The descriptor of the first socket that is handed over. -/
def kListenFdsStart : Nat := 3

def inheritedSocket : SocketProgram (Option Nat) :=
  .call (.getenv (ascii "LISTEN_PID")) fun pidText =>
  match parseUnsigned pidText with
  | none => .done none
  | some listenPid =>
      .call (.getenv (ascii "LISTEN_FDS")) fun fdsText =>
      match parseUnsigned fdsText with
      | none => .done none
      | some listenFds =>
          .call .getpid fun (pid : Nat) =>
          if listenPid ≠ pid ∨ listenFds ≠ 1 then .done none
          else
            (isSocketDescriptor kListenFdsStart).bind fun isSocket =>
            if !isSocket then .done none
            else
              .call (.setCloexec kListenFdsStart) fun _ =>
              .call (.unsetenv (ascii "LISTEN_PID")) fun _ =>
              .call (.unsetenv (ascii "LISTEN_FDS")) fun _ =>
              .call (.unsetenv (ascii "LISTEN_FDNAMES")) fun _ => .done (some kListenFdsStart)

/-! ## A socket of its own -/

/-- `sizeof(sockaddr_un::sun_path)`. -/
def kSunPathSize : Nat := 108

def stateFailure {α : Type} (text : Bytes) : Result α :=
  .error (makeError .stateError text)

/-- The part of `createSocket` that makes room for the socket. -/
def clearPath (path : Path) : SocketProgram (Result Unit) :=
  .call (.lstat path) fun
  | .socket => .call (.unlink path) fun removed =>
      .done (if removed then .ok () else stateFailure (ascii "cannot remove stale control socket"))
  | .other => .done (stateFailure (ascii "control socket path exists and is not a socket"))
  | .missing => .done (.ok ())
  | .failed => .done (stateFailure (ascii "cannot inspect control socket path"))

/-- A socket that was bound is given up. -/
def abandon (path : Path) (fd : Nat) (text : Bytes) : SocketProgram (Result Nat) :=
  .call (.close fd) fun _ => .call (.unlink path) fun _ => .done (stateFailure text)

/-- The owner, the mode and the start of listening. -/
def secureSocket (path : Path) (fd gid : Nat) : SocketProgram (Result Nat) :=
  .call (.chown path 0 gid) fun
  | .error detail => abandon path fd (ascii "cannot secure control socket: " ++ detail)
  | .ok () =>
      .call (.chmod path 0o660) fun
      | .error detail => abandon path fd (ascii "cannot secure control socket: " ++ detail)
      | .ok () =>
          .call (.listen fd 8) fun
          | .error detail => abandon path fd (ascii "cannot secure control socket: " ++ detail)
          | .ok () => .done (.ok fd)

def bindSocket (path : Path) (fd : Nat) : SocketProgram (Result Nat) :=
  .call (.bind fd path) fun
  | .error detail =>
      .call (.close fd) fun _ =>
      .done (stateFailure (ascii "cannot bind control socket: " ++ detail))
  | .ok () =>
      .call (.getgrnam kAdminGroup) fun
      | none => abandon path fd (ascii "system group '" ++ kAdminGroup ++ ascii "' does not exist")
      | some gid => secureSocket path fd gid

def createSocket (path : Path) : SocketProgram (Result Nat) :=
  if path.text.isEmpty ∨ kSunPathSize ≤ path.text.length then
    .done (.error (makeError .invalidArguments (ascii "control socket path is invalid")))
  else
    .call (.ensureDirectory path.dropLast 0o755) fun
    | .error failure => .done (.error failure)
    | .ok _ => (clearPath path).andThen fun _ =>
        .call .socket fun
        | none => .done (stateFailure (ascii "cannot create control socket"))
        | some fd => bindSocket path fd

/-! ## The daemon around them -/

/-- `main` once it has a listener. -/
def runDaemon (path : Path) (listener : Nat) (ownsSocket : Bool) : SocketProgram Nat :=
  .call (.serve listener) fun _ =>
  .call (.close listener) fun _ =>
  if ownsSocket then .call (.unlink path) fun _ => .done 0 else .done 0

def openListener (path : Path) : SocketProgram Nat :=
  inheritedSocket.bind fun
  | some listener => runDaemon path listener false
  | none => (createSocket path).bind fun
    | .error failure =>
        .call (.stderr (ascii "tunproxyd: " ++ failure.message ++ [newline])) fun _ =>
        .done failure.code.value.toNat
    | .ok listener => runDaemon path listener true

def failSignals : SocketProgram Nat :=
  .call (.stderr (ascii "tunproxyd: cannot install signal handlers\n")) fun _ =>
  .done ErrorCode.stateError.value.toNat

def main (path : Path) : SocketProgram Nat :=
  .call .geteuid fun (euid : Nat) =>
  if euid ≠ 0 then
    .call (.stderr (ascii "tunproxyd: root privileges are required\n")) fun _ =>
    .done ErrorCode.insufficientPrivileges.value.toNat
  else
    .call (.umask 0o077) fun _ =>
    .call (.sigaction .term) fun handled =>
    if !handled then failSignals
    else
      .call (.sigaction .int) fun handled =>
      if !handled then failSignals else .call .ignoreSigpipe fun _ => openListener path

/-! ## The system -/

/-- How far a socket of the daemon is. -/
inductive SocketState
  | created
  | bound
  | listening
  /-- It was there when the daemon was started. -/
  | inherited
  deriving DecidableEq, Repr

/-- What is at the path of the control socket. -/
structure Node where
  isSocket : Bool
  /-- The descriptor of the daemon that is bound to it. -/
  boundTo : Option Nat
  owner : Nat
  group : Nat
  mode : Nat
  deriving DecidableEq, Repr

structure SocketWorld where
  node : Option Node
  sockets : Nat → Option SocketState
  umask : Nat

/-- Whether the permissions let a process connect. -/
def Node.Admits (node : Node) (uid : Nat) (groups : List Nat) : Prop :=
  uid = 0 ∨ if uid = node.owner then node.mode &&& 0o200 ≠ 0
    else if node.group ∈ groups then node.mode &&& 0o020 ≠ 0
    else node.mode &&& 0o002 ≠ 0

/-- A process can connect to a socket that the daemon has bound. -/
def SocketWorld.Connectable (world : SocketWorld) (uid : Nat) (groups : List Nat) : Prop :=
  ∃ node fd, world.node = some node ∧ node.boundTo = some fd ∧
    world.sockets fd = some .listening ∧ node.Admits uid groups

section Host

-- The group of the administrators, and that of the daemon.
variable (adminGid egid : Nat)

/-- How the calls may be answered, the path being that of the control socket. -/
def HostActs (world : SocketWorld) (operation : SocketCall) (answer : SocketAnswer operation)
    (next : SocketWorld) : Prop :=
  match operation, answer with
  | .umask mask, _ => next = { world with umask := mask }
  | .getsockname fd, some true => world.sockets fd ≠ none ∧ next = world
  | .lstat _, .socket => (∃ node, world.node = some node ∧ node.isSocket = true) ∧ next = world
  | .lstat _, .other => (∃ node, world.node = some node ∧ node.isSocket = false) ∧ next = world
  | .lstat _, .missing => world.node = none ∧ next = world
  | .unlink _, true => world.node ≠ none ∧ next = { world with node := none }
  | .socket, some fd => world.sockets fd = none ∧
      next = { world with sockets := Function.update world.sockets fd (some .created) }
  | .bind fd _, .ok _ => world.node = none ∧ next = { world with
      node := some ⟨true, some fd, 0, egid, 0o777 &&& (0o777 ^^^ world.umask)⟩
      sockets := Function.update world.sockets fd (some .bound) }
  | .getgrnam _, some gid => gid = adminGid ∧ next = world
  | .chown _ uid gid, .ok _ => ∃ node, world.node = some node ∧
      next = { world with node := some { node with owner := uid, group := gid } }
  | .chmod _ mode, .ok _ => ∃ node, world.node = some node ∧
      next = { world with node := some { node with mode := mode } }
  | .listen fd _, .ok _ =>
      next = { world with sockets := Function.update world.sockets fd (some .listening) }
  | .close fd, _ => next = { world with sockets := Function.update world.sockets fd none }
  | _, _ => next = world

def host : Surroundings SocketAnswer SocketWorld where
  answers := HostActs adminGid egid
  drift _ _ := False

theorem still_host : Still (host adminGid egid) :=
  fun _ _ => not_false

end Host

/-! ## What holds at every step -/

/-- Only root and the administrators may connect. -/
def Node.Secure (adminGid : Nat) (node : Node) : Prop :=
  node.owner = 0 ∧ node.group = adminGid ∧ node.mode = 0o660

structure Guarded (adminGid : Nat) (start world : SocketWorld) : Prop where
  /-- A socket that listens under the path is secure. -/
  secure : ∀ node fd, world.node = some node → node.boundTo = some fd →
    world.sockets fd = some .listening → node.Secure adminGid
  /-- What is not a socket stays where it is. -/
  spared : ∀ node, start.node = some node → node.isSocket = false → world.node = some node

/-- What the daemon may do where it does it: remove a socket, and serve one that it
was given or that is secure. -/
def hostWatch (adminGid : Nat) (path : Path) (start : SocketWorld) :
    Watch SocketCall SocketWorld where
  holds := Guarded adminGid start
  permits world
    | .unlink other => other = path ∧ ∀ node, world.node = some node → node.isSocket = true
    | .serve listener => start.sockets listener ≠ none ∨ world.sockets listener = some .listening ∧
        ∃ node, world.node = some node ∧ node.boundTo = some listener ∧ node.Secure adminGid
    | _ => True
  cuts := True

/-- Before the daemon was started none of its own sockets was there. -/
structure Fresh (start : SocketWorld) : Prop where
  node : ∀ node, start.node = some node → node.boundTo = none
  sockets : ∀ fd state, start.sockets fd = some state → state = .inherited

/-- No socket of the daemon was created since the start, and none is bound. -/
structure Untouched (start world : SocketWorld) : Prop where
  node : ∀ node, world.node = some node → node.boundTo = none
  sockets : world.sockets = start.sockets
  spared : ∀ node, start.node = some node → node.isSocket = false → world.node = some node

/-- The daemon listens securely. -/
structure Listens (adminGid : Nat) (start : SocketWorld) (fd : Nat) (world : SocketWorld) :
    Prop where
  fresh : start.sockets fd = none
  sockets : world.sockets = Function.update start.sockets fd (some .listening)
  node : ∃ node, world.node = some node ∧ node.boundTo = some fd ∧ node.Secure adminGid ∧
    node.isSocket = true
  spared : ∀ node, start.node = some node → node.isSocket = true

/-- Nothing of the daemon is open, and nothing of it can be connected to. -/
structure Closed (start world : SocketWorld) : Prop where
  sockets : world.sockets = start.sockets
  node : ∀ node, world.node = some node → node.boundTo = none ∨
    ∃ fd, node.boundTo = some fd ∧ start.sockets fd = none
  spared : ∀ node, start.node = some node → node.isSocket = false → world.node = some node

section Steps

variable {adminGid egid : Nat} {path : Path} {start world : SocketWorld} {α : Type}

theorem Untouched.guarded (untouched : Untouched start world) : Guarded adminGid start world where
  secure := by
    intro node fd found bound _
    cases (untouched.node node found).symm.trans bound
  spared := untouched.spared

theorem Closed.guarded (fresh : Fresh start) (closed : Closed start world) :
    Guarded adminGid start world where
  secure := by
    intro node fd found bound listening
    rw [closed.sockets] at listening
    cases fresh.sockets fd _ listening
  spared := closed.spared

theorem Untouched.closed (untouched : Untouched start world) : Closed start world :=
  ⟨untouched.sockets, fun node found => Or.inl (untouched.node node found), untouched.spared⟩

theorem Listens.guarded {fd : Nat} (listens : Listens adminGid start fd world) :
    Guarded adminGid start world where
  secure := by
    intro node other found bound listening
    obtain ⟨own, foundOwn, boundOwn, secure, -⟩ := listens.node
    obtain rfl := Option.some.inj (found.symm.trans foundOwn)
    exact secure
  spared := by
    intro node found notSocket
    cases (listens.spared node found).symm.trans notSocket

/-- A call after which nothing has changed. -/
theorem safe_ask {operation : SocketCall} {rest : SocketAnswer operation → SocketProgram α}
    {post : α → SocketWorld → Prop} (untouched : Untouched start world)
    (permits : (hostWatch adminGid path start).permits world operation)
    (changes : ∀ answer next, HostActs adminGid egid world operation answer next → next = world)
    (onward : ∀ answer, HostActs adminGid egid world operation answer world →
      Safe (host adminGid egid) (hostWatch adminGid path start) post (rest answer) world) :
    Safe (host adminGid egid) (hostWatch adminGid path start) post (.call operation rest)
      world := by
  apply (still_host adminGid egid).safe_call untouched.guarded permits
  intro answer next acts
  obtain rfl := changes answer next acts
  exact onward answer acts

/-! ### A socket of its own -/

/-- What `createSocket` leaves. -/
def Created (adminGid : Nat) (start : SocketWorld) : Result Nat → SocketWorld → Prop
  | .ok fd => Listens adminGid start fd
  | .error _ => Closed start

/-- The path is free, and nothing was in the way but a socket. -/
structure Cleared (start world : SocketWorld) : Prop where
  sockets : world.sockets = start.sockets
  node : world.node = none
  spared : ∀ node, start.node = some node → node.isSocket = true

theorem Cleared.untouched (cleared : Cleared start world) : Untouched start world where
  node := by
    intro node found
    cases cleared.node.symm.trans found
  sockets := cleared.sockets
  spared := by
    intro node found notSocket
    cases (cleared.spared node found).symm.trans notSocket

/-- What `clearPath` leaves. -/
def Clears (start : SocketWorld) : Result Unit → SocketWorld → Prop
  | .ok _ => Cleared start
  | .error _ => Untouched start

theorem safe_clearPath (untouched : Untouched start world) :
    Safe (host adminGid egid) (hostWatch adminGid path start) (Clears start) (clearPath path)
      world := by
  have fails (text : Bytes) : Safe (host adminGid egid) (hostWatch adminGid path start)
      (Clears start) (.done (stateFailure text)) world :=
    (still_host adminGid egid).safe_done untouched.guarded untouched
  apply (still_host adminGid egid).safe_call untouched.guarded trivial
  intro answer next acts
  cases answer with
  | socket =>
      obtain ⟨⟨node, found, isSocket⟩, rfl⟩ := acts
      have sparedAll (other : Node) (started : start.node = some other) :
          other.isSocket = true := by
        by_contra notSocket
        have stays := untouched.spared other started (by simpa using notSocket)
        obtain rfl := Option.some.inj (found.symm.trans stays)
        exact notSocket isSocket
      apply (still_host adminGid egid).safe_call untouched.guarded
      · refine ⟨rfl, fun other there => ?_⟩
        obtain rfl := Option.some.inj (found.symm.trans there)
        exact isSocket
      intro removed next acts
      cases removed with
      | true =>
          obtain ⟨-, rfl⟩ := acts
          have cleared : Cleared start { next with node := none } :=
            ⟨untouched.sockets, rfl, sparedAll⟩
          exact (still_host adminGid egid).safe_done cleared.untouched.guarded cleared
      | false =>
          obtain rfl : next = _ := acts
          exact fails _
  | other =>
      obtain ⟨-, rfl⟩ := acts
      exact fails _
  | missing =>
      obtain ⟨free, rfl⟩ := acts
      refine (still_host adminGid egid).safe_done untouched.guarded
        ⟨untouched.sockets, free, fun other started => ?_⟩
      by_contra notSocket
      cases free.symm.trans (untouched.spared other started (by simpa using notSocket))
  | failed =>
      obtain rfl : next = world := acts
      exact fails _

/-- A socket was bound to the free path. -/
structure Binds (start : SocketWorld) (fd : Nat) (state : SocketState) (node : Node)
    (world : SocketWorld) : Prop where
  fresh : start.sockets fd = none
  sockets : world.sockets = Function.update start.sockets fd (some state)
  there : world.node = some node
  bound : node.boundTo = some fd
  isSocket : node.isSocket = true
  spared : ∀ node, start.node = some node → node.isSocket = true

variable {fd : Nat} {state : SocketState} {node : Node}

theorem Binds.guarded (binds : Binds start fd state node world) (quiet : state ≠ .listening) :
    Guarded adminGid start world where
  secure := by
    intro other another found bound listening
    obtain rfl := Option.some.inj (binds.there.symm.trans found)
    have same : fd = another := Option.some.inj (binds.bound.symm.trans bound)
    rw [binds.sockets, same, Function.update_self] at listening
    exact absurd (Option.some.inj listening) quiet
  spared := by
    intro other started notSocket
    cases (binds.spared other started).symm.trans notSocket

/-- Its descriptor is closed. -/
theorem close_sockets (fresh : start.sockets fd = none)
    (sockets : world.sockets = Function.update start.sockets fd (some state)) :
    Function.update world.sockets fd none = start.sockets := by
  rw [sockets, Function.update_idem, ← fresh, Function.update_eq_self]

theorem Binds.safe_abandon (fresh : Fresh start) (binds : Binds start fd state node world)
    (quiet : state ≠ .listening) (text : Bytes) :
    Safe (host adminGid egid) (hostWatch adminGid path start) (Created adminGid start)
      (abandon path fd text) world := by
  apply (still_host adminGid egid).safe_call (binds.guarded quiet) trivial
  intro _ next acts
  obtain rfl : next = _ := acts
  have closed : Closed start { world with sockets := Function.update world.sockets fd none } := by
    refine ⟨close_sockets binds.fresh binds.sockets,
      fun other found => Or.inr ⟨fd, ?_, binds.fresh⟩, fun other started notSocket => ?_⟩
    · obtain rfl := Option.some.inj (binds.there.symm.trans found)
      exact binds.bound
    · cases (binds.spared other started).symm.trans notSocket
  apply (still_host adminGid egid).safe_call (closed.guarded fresh)
  · refine ⟨rfl, fun other found => ?_⟩
    obtain rfl := Option.some.inj (binds.there.symm.trans found)
    exact binds.isSocket
  intro removed next acts
  cases removed with
  | true =>
      obtain ⟨-, rfl⟩ := acts
      have gone : Closed start { world with
          sockets := Function.update world.sockets fd none, node := none } := by
        refine ⟨closed.sockets, fun other found => ?_, fun other started notSocket => ?_⟩
        · cases found
        · cases (binds.spared other started).symm.trans notSocket
      exact (still_host adminGid egid).safe_done (gone.guarded fresh) gone
  | false =>
      obtain rfl : next = _ := acts
      exact (still_host adminGid egid).safe_done (closed.guarded fresh) closed

/-- Nothing can be connected to before the owner and the mode are set. -/
theorem Binds.safe_secureSocket (fresh : Fresh start)
    (binds : Binds start fd .bound node world) :
    Safe (host adminGid egid) (hostWatch adminGid path start) (Created adminGid start)
      (secureSocket path fd adminGid) world := by
  have quiet : SocketState.bound ≠ .listening := by decide
  apply (still_host adminGid egid).safe_call (binds.guarded quiet) trivial
  intro owned next acts
  cases owned with
  | error detail =>
      obtain rfl : next = world := acts
      exact binds.safe_abandon fresh quiet _
  | ok _ =>
      obtain ⟨found, there, rfl⟩ := acts
      obtain rfl := Option.some.inj (binds.there.symm.trans there)
      have owns : Binds start fd .bound { node with owner := 0, group := adminGid }
          { world with node := some { node with owner := 0, group := adminGid } } :=
        ⟨binds.fresh, binds.sockets, rfl, binds.bound, binds.isSocket, binds.spared⟩
      apply (still_host adminGid egid).safe_call (owns.guarded quiet) trivial
      intro moded next acts
      cases moded with
      | error detail =>
          obtain rfl : next = _ := acts
          exact owns.safe_abandon fresh quiet _
      | ok _ =>
          obtain ⟨found, there, rfl⟩ := acts
          obtain rfl := Option.some.inj (owns.there.symm.trans there)
          have modes : Binds start fd .bound
              { node with owner := 0, group := adminGid, mode := 0o660 } { world with
                node := some { node with owner := 0, group := adminGid, mode := 0o660 } } :=
            ⟨binds.fresh, binds.sockets, rfl, binds.bound, binds.isSocket, binds.spared⟩
          apply (still_host adminGid egid).safe_call (modes.guarded quiet) trivial
          intro heard next acts
          cases heard with
          | error detail =>
              obtain rfl : next = _ := acts
              exact modes.safe_abandon fresh quiet _
          | ok _ =>
              obtain rfl : next = _ := acts
              have listens : Listens adminGid start fd { world with
                  node := some { node with owner := 0, group := adminGid, mode := 0o660 }
                  sockets := Function.update world.sockets fd (some .listening) } := by
                refine ⟨binds.fresh, ?_, ⟨_, rfl, binds.bound, ⟨rfl, rfl, rfl⟩, binds.isSocket⟩,
                  binds.spared⟩
                simp only [binds.sockets, Function.update_idem]
              exact (still_host adminGid egid).safe_done listens.guarded listens

theorem safe_bindSocket (fresh : Fresh start) (cleared : Cleared start world)
    (free : world.sockets fd = none) :
    Safe (host adminGid egid) (hostWatch adminGid path start) (Created adminGid start)
      (bindSocket path fd)
      { world with sockets := Function.update world.sockets fd (some .created) } := by
  have isFree : start.sockets fd = none := by
    rw [← cleared.sockets, free]
  have guarded (sockets : Nat → Option SocketState) :
      Guarded adminGid start { world with sockets := sockets } := by
    refine ⟨fun node other found => ?_, fun node started notSocket => ?_⟩
    · cases cleared.node.symm.trans found
    · cases (cleared.spared node started).symm.trans notSocket
  apply (still_host adminGid egid).safe_call (guarded _) trivial
  intro bound next acts
  cases bound with
  | error detail =>
      obtain rfl : next = _ := acts
      apply (still_host adminGid egid).safe_call (guarded _) trivial
      intro _ next acts
      obtain rfl : next = _ := acts
      refine (still_host adminGid egid).safe_done (guarded _) ⟨?_, fun node found => ?_,
        fun node started notSocket => ?_⟩
      · exact close_sockets isFree (by rw [cleared.sockets])
      · cases cleared.node.symm.trans found
      · cases (cleared.spared node started).symm.trans notSocket
  | ok _ =>
      obtain ⟨-, rfl⟩ := acts
      have binds : Binds start fd .bound
          ⟨true, some fd, 0, egid, 0o777 &&& (0o777 ^^^ world.umask)⟩ { world with
            node := some ⟨true, some fd, 0, egid, 0o777 &&& (0o777 ^^^ world.umask)⟩
            sockets := Function.update (Function.update world.sockets fd (some .created)) fd
              (some .bound) } := by
        refine ⟨isFree, ?_, rfl, rfl, rfl, cleared.spared⟩
        simp only [Function.update_idem, cleared.sockets]
      have quiet : SocketState.bound ≠ .listening := by decide
      apply (still_host adminGid egid).safe_call (binds.guarded quiet) trivial
      intro group next acts
      cases group with
      | none =>
          obtain rfl : next = _ := acts
          exact binds.safe_abandon fresh quiet _
      | some gid =>
          obtain ⟨rfl, rfl⟩ := acts
          exact binds.safe_secureSocket fresh

theorem safe_createSocket (fresh : Fresh start) (untouched : Untouched start world) :
    Safe (host adminGid egid) (hostWatch adminGid path start) (Created adminGid start)
      (createSocket path) world := by
  have fails {failed : SocketWorld} (untouched : Untouched start failed) (failure : Error) :
      Safe (host adminGid egid) (hostWatch adminGid path start) (Created adminGid start)
        (.done (.error failure)) failed :=
    (still_host adminGid egid).safe_done untouched.guarded untouched.closed
  unfold createSocket
  split
  · exact fails untouched _
  · refine safe_ask untouched trivial (fun _ _ => id) fun made _ => ?_
    cases made with
    | error failure => exact fails untouched _
    | ok _ =>
        apply (safe_clearPath untouched).bind
        intro cleared later clears
        cases cleared with
        | error failure => exact fails clears _
        | ok _ =>
            have cleared : Cleared start later := clears
            apply (still_host adminGid egid).safe_call cleared.untouched.guarded trivial
            intro opened next acts
            cases opened with
            | none =>
                obtain rfl : next = later := acts
                exact fails cleared.untouched _
            | some fd =>
                obtain ⟨free, rfl⟩ := acts
                exact safe_bindSocket fresh cleared free

/-! ### An inherited socket -/

theorem safe_isSocketDescriptor (untouched : Untouched start world) :
    Safe (host adminGid egid) (hostWatch adminGid path start)
      (fun isSocket later => Untouched start later ∧ (isSocket = true → start.sockets fd ≠ none))
      (isSocketDescriptor fd) world := by
  have denies : Safe (host adminGid egid) (hostWatch adminGid path start)
      (fun isSocket later => Untouched start later ∧ (isSocket = true → start.sockets fd ≠ none))
      (.done false) world :=
    (still_host adminGid egid).safe_done untouched.guarded
      ⟨untouched, fun impossible => by cases impossible⟩
  refine safe_ask untouched trivial (fun _ _ => id) fun kind _ => ?_
  cases kind with
  | none => exact denies
  | some isSocket =>
      cases isSocket with
      | false => exact denies
      | true =>
          refine (still_host adminGid egid).safe_call untouched.guarded trivial ?_
          intro family next acts
          have named : next = world ∧ (family = some true → start.sockets fd ≠ none) := by
            rcases family with - | - | -
            · exact ⟨acts, fun impossible => by cases impossible⟩
            · exact ⟨acts, fun impossible => by cases impossible⟩
            · exact ⟨acts.2, fun _ => untouched.sockets ▸ acts.1⟩
          obtain ⟨rfl, known⟩ := named
          refine (still_host adminGid egid).safe_done untouched.guarded ⟨untouched, fun same => ?_⟩
          exact known (beq_iff_eq.mp same)

/-- What `inheritedSocket` leaves. -/
def Inherits (start : SocketWorld) (inherited : Option Nat) (world : SocketWorld) : Prop :=
  Untouched start world ∧ ∀ listener, inherited = some listener → start.sockets listener ≠ none

theorem safe_inheritedSocket (untouched : Untouched start world) :
    Safe (host adminGid egid) (hostWatch adminGid path start) (Inherits start) inheritedSocket
      world := by
  have denies {world : SocketWorld} (untouched : Untouched start world) :
      Safe (host adminGid egid) (hostWatch adminGid path start) (Inherits start) (.done none)
        world :=
    (still_host adminGid egid).safe_done untouched.guarded
      ⟨untouched, fun _ impossible => by cases impossible⟩
  refine safe_ask untouched trivial (fun _ _ => id) fun pidText _ => ?_
  split
  · exact denies untouched
  refine safe_ask untouched trivial (fun _ _ => id) fun fdsText _ => ?_
  split
  · exact denies untouched
  refine safe_ask untouched trivial (fun _ _ => id) fun pid _ => ?_
  split
  · exact denies untouched
  apply (safe_isSocketDescriptor untouched).bind
  rintro isSocket later ⟨untouched, known⟩
  cases isSocket with
  | false => exact denies untouched
  | true =>
      refine safe_ask untouched trivial (fun _ _ => id) fun _ _ => ?_
      refine safe_ask untouched trivial (fun _ _ => id) fun _ _ => ?_
      refine safe_ask untouched trivial (fun _ _ => id) fun _ _ => ?_
      refine safe_ask untouched trivial (fun _ _ => id) fun _ _ => ?_
      refine (still_host adminGid egid).safe_done untouched.guarded ⟨untouched, ?_⟩
      rintro listener same
      obtain rfl := Option.some.inj same
      exact known rfl

/-! ### The whole daemon -/

/-- No socket is open but those that were there at the start. -/
def Ended (start world : SocketWorld) : Prop :=
  ∀ fd state, world.sockets fd = some state → start.sockets fd = some state

theorem Untouched.ended (untouched : Untouched start world) : Ended start world := by
  intro fd state found
  rw [← untouched.sockets, found]

theorem safe_runInherited (untouched : Untouched start world)
    (inherited : start.sockets fd ≠ none) :
    Safe (host adminGid egid) (hostWatch adminGid path start) (fun _ => Ended start)
      (runDaemon path fd false) world := by
  refine safe_ask untouched (Or.inl inherited) (fun _ _ => id) fun _ _ => ?_
  refine (still_host adminGid egid).safe_call untouched.guarded trivial ?_
  intro _ next acts
  obtain rfl : next = _ := acts
  refine (still_host adminGid egid).safe_done ⟨?_, untouched.spared⟩ fun other state found => ?_
  · intro node other found bound _
    cases (untouched.node node found).symm.trans bound
  · have different : other ≠ fd := by
      rintro rfl
      simp at found
    simp only [Function.update_of_ne different] at found
    exact untouched.ended other state found

theorem safe_runOwn (fresh : Fresh start) (listens : Listens adminGid start fd world) :
    Safe (host adminGid egid) (hostWatch adminGid path start) (fun _ => Ended start)
      (runDaemon path fd true) world := by
  obtain ⟨node, found, bound, secure, isSocket⟩ := listens.node
  have serves : world.sockets fd = some .listening := by
    rw [listens.sockets, Function.update_self]
  refine (still_host adminGid egid).safe_call listens.guarded
    (Or.inr ⟨serves, node, found, bound, secure⟩) ?_
  intro _ next acts
  obtain rfl : next = world := acts
  refine (still_host adminGid egid).safe_call listens.guarded trivial ?_
  intro _ later acts
  obtain rfl : later = _ := acts
  have closed : Closed start { next with sockets := Function.update next.sockets fd none } := by
    refine ⟨close_sockets listens.fresh listens.sockets, fun other there => Or.inr ⟨fd, ?_,
      listens.fresh⟩, fun other started notSocket => ?_⟩
    · obtain rfl := Option.some.inj (found.symm.trans there)
      exact bound
    · cases (listens.spared other started).symm.trans notSocket
  have ended {node : Option Node} : Ended start { next with
      sockets := Function.update next.sockets fd none, node := node } := by
    intro other state isOpen
    rwa [← closed.sockets]
  refine (still_host adminGid egid).safe_call (closed.guarded fresh) ⟨rfl, fun other there => ?_⟩ ?_
  · obtain rfl := Option.some.inj (found.symm.trans there)
    exact isSocket
  intro removed last acts
  cases removed with
  | true =>
      obtain ⟨-, rfl⟩ := acts
      refine (still_host adminGid egid).safe_done ⟨fun other another there => ?_,
        fun other started notSocket => ?_⟩ ended
      · cases there
      · cases (listens.spared other started).symm.trans notSocket
  | false =>
      obtain rfl : last = _ := acts
      exact (still_host adminGid egid).safe_done (closed.guarded fresh) ended

theorem Closed.ended (closed : Closed start world) : Ended start world := by
  intro fd state found
  rw [← closed.sockets, found]

theorem safe_openListener (fresh : Fresh start) (untouched : Untouched start world) :
    Safe (host adminGid egid) (hostWatch adminGid path start) (fun _ => Ended start)
      (openListener path) world := by
  apply (safe_inheritedSocket untouched).bind
  rintro inherited later ⟨untouched, known⟩
  cases inherited with
  | some listener => exact safe_runInherited untouched (known listener rfl)
  | none =>
      apply (safe_createSocket fresh untouched).bind
      intro created last result
      cases created with
      | ok listener => exact safe_runOwn fresh result
      | error failure =>
          have closed : Closed start last := result
          refine (still_host adminGid egid).safe_call (closed.guarded fresh) trivial ?_
          intro _ next acts
          obtain rfl : next = last := acts
          exact (still_host adminGid egid).safe_done (closed.guarded fresh) closed.ended

theorem safe_main (fresh : Fresh start) :
    Safe (host adminGid egid) (hostWatch adminGid path start) (fun _ => Ended start)
      (main path) start := by
  have untouched : Untouched start start := ⟨fresh.node, rfl, fun _ found _ => found⟩
  have reports {world : SocketWorld} (untouched : Untouched start world) (text : Bytes)
      (code : Nat) :
      Safe (host adminGid egid) (hostWatch adminGid path start) (fun _ => Ended start)
        (.call (.stderr text) fun _ => .done code) world :=
    safe_ask untouched trivial (fun _ _ => id) fun _ _ =>
      (still_host adminGid egid).safe_done untouched.guarded untouched.ended
  refine safe_ask untouched trivial (fun _ _ => id) fun euid _ => ?_
  split
  · exact reports untouched _ _
  refine (still_host adminGid egid).safe_call untouched.guarded trivial ?_
  intro _ next acts
  obtain rfl : next = _ := acts
  have masked : Untouched start { start with umask := 0o077 } :=
    ⟨untouched.node, untouched.sockets, untouched.spared⟩
  refine safe_ask masked trivial (fun _ _ => id) fun handled _ => ?_
  split
  · exact reports masked _ _
  refine safe_ask masked trivial (fun _ _ => id) fun handled _ => ?_
  split
  · exact reports masked _ _
  refine safe_ask masked trivial (fun _ _ => id) fun _ _ => ?_
  exact safe_openListener fresh masked

end Steps

/-! ## What is served -/

section Served

variable {adminGid egid : Nat} {path : Path} {α : Type}

/-- The program serves nothing. -/
def ServesNothing (program : SocketProgram α) : Prop :=
  program.Calls fun operation => ∀ listener, operation ≠ .serve listener

/-- Serving is followed by the end of the daemon. -/
def ServesLast (path : Path) (program : SocketProgram Nat) : Prop :=
  ∀ listener rest, program = .call (.serve listener) rest →
    ∃ ownsSocket, program = runDaemon path listener ownsSocket

theorem throughout_call {operation : SocketCall}
    {rest : SocketAnswer operation → SocketProgram Nat}
    (other : ∀ listener, operation ≠ .serve listener)
    (others : ∀ answer, (rest answer).Throughout (ServesLast path)) :
    (EffectProgram.call operation rest).Throughout (ServesLast path) := by
  refine ⟨fun listener rest same => ?_, others⟩
  cases same
  exact absurd rfl (other listener)

theorem throughout_servesLast {program : SocketProgram Nat} (nothing : ServesNothing program) :
    program.Throughout (ServesLast path) := by
  induction program with
  | done code => exact fun _ _ impossible => by cases impossible
  | call operation rest ih =>
      exact throughout_call nothing.1 fun answer => ih answer (nothing.2 answer)
  | cut => exact fun _ _ impossible => by cases impossible

theorem throughout_bind {program : SocketProgram α} {next : α → SocketProgram Nat}
    (nothing : ServesNothing program)
    (second : ∀ value, (next value).Throughout (ServesLast path)) :
    (program.bind next).Throughout (ServesLast path) := by
  induction program with
  | done value => exact second value
  | call operation rest ih =>
      exact throughout_call nothing.1 fun answer => ih answer (nothing.2 answer)
  | cut => exact fun _ _ impossible => by cases impossible

theorem servesNothing_call {operation : SocketCall}
    {rest : SocketAnswer operation → SocketProgram α}
    (other : ∀ listener, operation ≠ .serve listener)
    (others : ∀ answer, ServesNothing (rest answer)) :
    ServesNothing (.call operation rest) :=
  ⟨other, others⟩

theorem servesNothing_inheritedSocket : ServesNothing inheritedSocket := by
  have socketDescriptor (fd : Nat) : ServesNothing (isSocketDescriptor fd) := by
    refine servesNothing_call (by simp) fun kind => ?_
    rcases kind with - | - | -
    · trivial
    · trivial
    · exact servesNothing_call (by simp) fun _ => trivial
  refine servesNothing_call (by simp) fun pidText => ?_
  split
  · trivial
  refine servesNothing_call (by simp) fun fdsText => ?_
  split
  · trivial
  refine servesNothing_call (by simp) fun pid => Calls.ite trivial ?_
  refine (socketDescriptor _).bind fun isSocket => Calls.ite trivial ?_
  exact servesNothing_call (by simp) fun _ => servesNothing_call (by simp) fun _ =>
    servesNothing_call (by simp) fun _ => servesNothing_call (by simp) fun _ => trivial

theorem servesNothing_abandon {fd : Nat} {text : Bytes} : ServesNothing (abandon path fd text) :=
  servesNothing_call (by simp) fun _ => servesNothing_call (by simp) fun _ => trivial

theorem servesNothing_secureSocket {fd gid : Nat} : ServesNothing (secureSocket path fd gid) := by
  refine servesNothing_call (by simp) fun owned => ?_
  cases owned with
  | error detail => exact servesNothing_abandon
  | ok done =>
      refine servesNothing_call (by simp) fun moded => ?_
      cases moded with
      | error detail => exact servesNothing_abandon
      | ok done =>
          refine servesNothing_call (by simp) fun listens => ?_
          cases listens with
          | error detail => exact servesNothing_abandon
          | ok done => trivial

theorem servesNothing_bindSocket {fd : Nat} : ServesNothing (bindSocket path fd) := by
  refine servesNothing_call (by simp) fun bound => ?_
  cases bound with
  | error detail => exact servesNothing_call (by simp) fun _ => trivial
  | ok done =>
      refine servesNothing_call (by simp) fun group => ?_
      cases group with
      | none => exact servesNothing_abandon
      | some gid => exact servesNothing_secureSocket

theorem servesNothing_createSocket : ServesNothing (createSocket path) := by
  have clears : ServesNothing (clearPath path) := by
    refine servesNothing_call (by simp) fun found => ?_
    cases found with
    | socket => exact servesNothing_call (by simp) fun _ => trivial
    | _ => trivial
  refine Calls.ite trivial (servesNothing_call (by simp) fun prepared => ?_)
  cases prepared with
  | error failure => trivial
  | ok done =>
      refine clears.andThen fun _ => servesNothing_call (by simp) fun created => ?_
      cases created with
      | none => trivial
      | some fd => exact servesNothing_bindSocket

theorem throughout_runDaemon {listener : Nat} {ownsSocket : Bool} :
    (runDaemon path listener ownsSocket).Throughout (ServesLast path) := by
  refine ⟨fun other rest same => ?_, fun _ => throughout_servesLast ?_⟩
  · obtain rfl : listener = other := by
      injection same with operations
      injection operations
    exact ⟨ownsSocket, rfl⟩
  · exact servesNothing_call (by simp) fun _ =>
      Calls.ite (servesNothing_call (by simp) fun _ => trivial) trivial

theorem throughout_openListener : (openListener path).Throughout (ServesLast path) := by
  refine throughout_bind servesNothing_inheritedSocket fun inherited => ?_
  cases inherited with
  | some listener => exact throughout_runDaemon
  | none =>
      refine throughout_bind servesNothing_createSocket fun created => ?_
      cases created with
      | ok listener => exact throughout_runDaemon
      | error failure =>
          exact throughout_servesLast (servesNothing_call (by simp) fun _ => trivial)

theorem throughout_main : (main path).Throughout (ServesLast path) := by
  have reports (text : Bytes) (code : Nat) : EffectProgram.Throughout (ServesLast path)
      (.call (.stderr text) fun _ => .done code) :=
    throughout_servesLast (servesNothing_call (by simp) fun _ => trivial)
  refine throughout_call (by simp) fun euid => ?_
  split
  · exact reports _ _
  refine throughout_call (by simp) fun _ => throughout_call (by simp) fun handled => ?_
  split
  · exact reports _ _
  refine throughout_call (by simp) fun handled => ?_
  split
  · exact reports _ _
  exact throughout_call (by simp) fun _ => throughout_openListener

/-- A daemon that serves a socket has closed it when it comes to its end. -/
theorem closed_runDaemon {listener code : Nat} {ownsSocket : Bool} {world later : SocketWorld}
    (ends : Reaches (host adminGid egid) (runDaemon path listener ownsSocket, world)
      (.done code, later)) : later.sockets listener = none := by
  have still := still_host adminGid egid
  have safe : Safe (host adminGid egid) unwatched
      (fun _ (later : SocketWorld) => later.sockets listener = none)
      (runDaemon path listener ownsSocket) world := by
    apply still.safe_call trivial trivial
    rintro - next rfl
    apply still.safe_call trivial trivial
    rintro - closed rfl
    have gone : Function.update next.sockets listener none listener = none :=
      Function.update_self ..
    split
    next owns =>
      apply still.safe_call trivial trivial
      intro removed last acts
      apply still.safe_done trivial
      cases removed with
      | true =>
          obtain ⟨-, rfl⟩ := acts
          exact gone
      | false =>
          obtain rfl : last = _ := acts
          exact gone
    next => exact still.safe_done trivial gone
  exact (safe.of_reaches ends).result

end Served

/-! ## Every run -/

/-- Permissions of a secure socket. -/
theorem Node.Secure.admits {adminGid uid : Nat} {groups : List Nat} {node : Node}
    (secure : node.Secure adminGid) (admits : node.Admits uid groups) :
    uid = 0 ∨ adminGid ∈ groups := by
  obtain ⟨owner, rfl, mode⟩ := secure
  rcases admits with root | admits
  · exact Or.inl root
  · by_cases isOwner : uid = node.owner
    · exact Or.inl (isOwner.trans owner)
    · by_cases member : node.group ∈ groups
      · exact Or.inr member
      · simp [isOwner, member, mode] at admits

/-- However the calls are answered, nothing else being done in the directory of the
socket: at every step no one but root and the administrators can connect to what
the daemon has bound; it serves only a socket that it was given or one that is
secure, and has closed it at the end; it removes nothing but a socket, and no
other file at the path is ever touched; and at the end it has left no socket of
its own open. -/
theorem controlSocket_guarded {adminGid egid : Nat} {path : Path} {start later : SocketWorld}
    (fresh : Fresh start) {last : SocketProgram Nat}
    (reaches : Reaches (host adminGid egid) (main path, start) (last, later)) :
    (∀ uid groups, later.Connectable uid groups → uid = 0 ∨ adminGid ∈ groups) ∧
      (∀ listener rest, last = .call (.serve listener) rest → start.sockets listener ≠ none ∨
        later.sockets listener = some .listening ∧ ∃ node, later.node = some node ∧
          node.boundTo = some listener ∧ node.Secure adminGid) ∧
      (∀ other rest, last = .call (.unlink other) rest → other = path ∧
        ∀ node, later.node = some node → node.isSocket = true) ∧
      (∀ node, start.node = some node → node.isSocket = false → later.node = some node) ∧
      (∀ code, last = .done code → Ended start later) ∧
      ∀ listener rest, last = .call (.serve listener) rest → ∀ code ended,
        Reaches (host adminGid egid) (last, later) (.done code, ended) →
          ended.sockets listener = none := by
  have started : Safe (host adminGid egid) (hostWatch adminGid path start) (fun _ => Ended start)
      (main path) start :=
    safe_main fresh
  have safe := started.of_reaches reaches
  have guarded : Guarded adminGid start later := safe.holds
  refine ⟨?_, ?_, ?_, guarded.spared, ?_, ?_⟩
  · rintro uid groups ⟨node, fd, found, bound, listening, admits⟩
    exact (guarded.secure node fd found bound listening).admits admits
  · rintro listener rest rfl
    exact safe.permits
  · rintro other rest rfl
    exact safe.permits
  · rintro code rfl
    exact safe.result
  · intro listener rest serves code ended ends
    have served : ServesLast path last := (throughout_main.of_reaches reaches).now
    obtain ⟨ownsSocket, rfl⟩ := served listener rest serves
    exact closed_runDaemon ends

/-! ## A start over a stale socket -/

/-- The answers on a system with the group 27, up to the first client. -/
def startUp : Responder SocketAnswer SocketWorld
  | world, .geteuid => some ((0 : Nat), world)
  | world, .umask mask => some ((), { world with umask := mask })
  | world, .sigaction _ => some (true, world)
  | world, .ignoreSigpipe => some ((), world)
  | world, .getenv _ => some (none, world)
  | world, .ensureDirectory _ _ => some (.ok (), world)
  | world, .lstat _ =>
      match world.node with
      | some node => some (if node.isSocket then .socket else .other, world)
      | none => some (.missing, world)
  | world, .unlink _ =>
      if world.node ≠ none then some (true, { world with node := none }) else none
  | world, .socket =>
      if world.sockets 5 = none then
        some (some 5, { world with sockets := Function.update world.sockets 5 (some .created) })
      else none
  | world, .bind fd _ =>
      if world.node = none then
        some (.ok (), { world with
          node := some ⟨true, some fd, 0, 0, 0o777 &&& (0o777 ^^^ world.umask)⟩
          sockets := Function.update world.sockets fd (some .bound) })
      else none
  | world, .getgrnam _ => some (some 27, world)
  | world, .chown _ uid gid => world.node.map fun node =>
      (.ok (), { world with node := some { node with owner := uid, group := gid } })
  | world, .chmod _ mode => world.node.map fun node =>
      (.ok (), { world with node := some { node with mode := mode } })
  | world, .listen fd _ =>
      some (.ok (), { world with sockets := Function.update world.sockets fd (some .listening) })
  | _, _ => none

theorem within_startUp : startUp.Within (host 27 0) id := by
  intro world operation answer next responded
  refine ⟨world, .refl, ?_⟩
  unfold startUp at responded
  split at responded
  · cases responded; rfl
  · cases responded; rfl
  · cases responded; rfl
  · cases responded; rfl
  · cases responded; rfl
  · cases responded; rfl
  · split at responded
    next node found =>
      cases responded
      cases isSocket : node.isSocket with
      | true => exact ⟨⟨node, found, isSocket⟩, rfl⟩
      | false => exact ⟨⟨node, found, isSocket⟩, rfl⟩
    next missing => cases responded; exact ⟨missing, rfl⟩
  · split at responded
    next there => cases responded; exact ⟨there, rfl⟩
    next => cases responded
  · split at responded
    next free => cases responded; exact ⟨free, rfl⟩
    next => cases responded
  · split at responded
    next free => cases responded; exact ⟨free, rfl⟩
    next => cases responded
  · cases responded; exact ⟨rfl, rfl⟩
  · obtain ⟨node, found, same⟩ := Option.map_eq_some_iff.mp responded
    cases same
    exact ⟨node, found, rfl⟩
  · obtain ⟨node, found, same⟩ := Option.map_eq_some_iff.mp responded
    cases same
    exact ⟨node, found, rfl⟩
  · cases responded; rfl
  · cases responded

/-- A socket that anyone may connect to is left from an earlier daemon. -/
def stale : SocketWorld :=
  ⟨some ⟨true, none, 1000, 1000, 0o777⟩, fun _ => none, 0o022⟩

/-- The daemon when it begins to serve. -/
def serving : SocketProgram Nat × SocketWorld :=
  follow startUp (main defaultPaths.controlSocket) stale

/-- An administrator can connect to the new one, others cannot. -/
theorem controlSocket_guarded_example : ∃ later : SocketWorld,
    later.Connectable 1000 [1000, 27] ∧ ¬ later.Connectable 1000 [1000] := by
  have fresh : Fresh stale := by
    refine ⟨fun node found => ?_, fun _ _ impossible => by cases impossible⟩
    obtain rfl := Option.some.inj found
    rfl
  have guarded := controlSocket_guarded fresh
    (reaches_follow within_startUp (main defaultPaths.controlSocket) stale)
  have connects : serving.2.Connectable 1000 [1000, 27] :=
    ⟨⟨true, some 5, 0, 27, 0o660⟩, 5, rfl, rfl, rfl, Or.inr (by decide)⟩
  refine ⟨serving.2, connects, fun others => ?_⟩
  have denied := guarded.1 1000 [1000] others
  simp at denied

end ControlSocket

end TunProxy
