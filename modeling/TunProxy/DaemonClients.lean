import TunProxy.Authorization
import TunProxy.DaemonSafety

/-!
# The clients of the daemon

Every connection that the daemon accepts belongs to one of its threads at a
time: to the main thread until the peer is authorised, and then to a worker,
or to the main thread again where no worker can be created.  The mutexes play
no part in this, so that here they may let through whom they like.
-/

namespace TunProxy

open ByteText EffectProgram

/-! ## The daemon with its look at the peer -/

def kAdminGroup : Bytes :=
  ascii "sudo"

/-- The steps of the daemon's threads, where a peer is authorised in steps. -/
inductive ServiceCall
  | daemon (operation : DaemonCall)
  /-- `getsockopt` with `SO_PEERCRED`. -/
  | peerCredentials
  | account (operation : AccountCall)

abbrev ServiceAnswer : ServiceCall → Type
  | .daemon operation => DaemonAnswer operation
  | .peerCredentials => Option (Nat × Nat)
  | .account operation => AccountAnswer operation

abbrev Service (α : Type) : Type :=
  EffectProgram ServiceAnswer α

/-- Whether the peer may control the daemon, and its user. -/
def authorizeClient : Service (Bool × Nat) :=
  .call .peerCredentials fun
  | none => .done (false, 2 ^ 32 - 1)
  | some (uid, gid) =>
      ((isAuthorizedUser uid gid kAdminGroup).expand fun operation =>
        .call (.account operation) .done).bind fun authorized => .done (authorized, uid)

/-- The steps of a thread of the daemon. -/
def serviceStep : (operation : DaemonCall) → Service (DaemonAnswer operation)
  | .authorizeClient => authorizeClient
  | operation => .call (.daemon operation) .done

/-! ## Connections -/

/-- A connection that was accepted, and how often it has been closed. -/
structure Connection where
  uid : Nat
  gid : Nat
  closed : Nat
  deriving DecidableEq

structure ServiceWorld where
  /-- The connections, in the order in which they were accepted. -/
  connections : List Connection
  /-- The connection that the main thread has in hand. -/
  current : Option Nat
  /-- The connections that workers were created for, in the order of the workers. -/
  served : List Nat

namespace ServiceWorld

/-- The daemon when the accept loop begins. -/
def initial : ServiceWorld where
  connections := []
  current := none
  served := []

/-- The connection of a thread. -/
def index? (world : ServiceWorld) : DaemonThread → Option Nat
  | .main => world.current
  | .worker worker => world.served[worker]?

/-- The connection of a thread with what has become of it. -/
def connection? (world : ServiceWorld) (thread : DaemonThread) : Option (Nat × Connection) :=
  (world.index? thread).bind fun index => (world.connections[index]?).map fun connection =>
    (index, connection)

/-- The thread closes its connection. -/
def close (world : ServiceWorld) (thread : DaemonThread) : ServiceWorld :=
  match world.index? thread with
  | none => world
  | some index => { world with
      connections := world.connections.modify index fun connection =>
        { connection with closed := connection.closed + 1 }
      current := if thread = .main then none else world.current }

/-- The main thread leaves its connection to a new worker. -/
def handOver (world : ServiceWorld) : ServiceWorld :=
  match world.current with
  | none => world
  | some index => { world with served := world.served ++ [index], current := none }

/-- How a step may be answered, and what it changes. -/
def Changes (databases : Accounts → Prop) (thread : DaemonThread) (world : ServiceWorld)
    (operation : ServiceCall) (answer : ServiceAnswer operation) (next : ServiceWorld) : Prop :=
  match operation, answer with
  | .daemon .acceptClient, .accepted => ∃ uid gid, next = { world with
      connections := world.connections ++ [⟨uid, gid, 0⟩]
      current := some world.connections.length }
  | .daemon .closeClient, _ => next = world.close thread
  | .daemon .createWorker, .ok worker => worker = world.served.length ∧ next = world.handOver
  | .peerCredentials, answer => next = world ∧ ∀ uid gid, answer = some (uid, gid) →
      ∃ index closed, world.connection? thread = some (index, ⟨uid, gid, closed⟩)
  | .account operation, answer => next = world ∧ AnsweredBy databases operation answer
  | _, _ => next = world

end ServiceWorld

/-- The daemon as threads that share its connections. -/
def serviceSystem (databases : Accounts → Prop) (controller : Controller) :
    SharedSystem ServiceAnswer DaemonThread ServiceWorld where
  answers thread world operation answer next := world.Changes databases thread operation answer next
  creates operation answer :=
    match operation, answer with
    | .daemon .createWorker, .ok worker =>
        some (.worker worker, (TunProxy.worker controller).expand serviceStep)
    | _, _ => none

/-- The daemon at the beginning of the accept loop, run to some depth. -/
def serviceStart (controller : Controller) (fuel : Nat) :
    Pool ServiceAnswer DaemonThread ServiceWorld where
  programs
    | .main => (daemonMain controller fuel).expand serviceStep
    | .worker _ => .done ()
  world := .initial

/-! ## Whose connections these are -/

/-- The peer of a connection may control the daemon. -/
def Connection.Admitted (databases : Accounts → Prop) (connection : Connection) : Prop :=
  Authorized databases connection.uid connection.gid kAdminGroup

namespace ServiceWorld

/-- The thread has a connection that is open. -/
def Serves (thread : DaemonThread) (world : ServiceWorld) : Prop :=
  ∃ index connection, world.connection? thread = some (index, connection) ∧ connection.closed = 0

/-- The connection of the thread, if it has one, is closed; the main thread
has none. -/
def Finished (thread : DaemonThread) (world : ServiceWorld) : Prop :=
  ∀ index connection, world.connection? thread = some (index, connection) →
    thread ≠ .main ∧ connection.closed = 1

/-- Every connection belongs to one thread; workers serve peers that are
admitted; and nothing is closed twice. -/
structure Sound (databases : Accounts → Prop) (world : ServiceWorld) : Prop where
  current : ∀ index, world.current = some index → index ∉ world.served ∧
    ∃ connection, world.connections[index]? = some connection ∧ connection.closed = 0
  served : ∀ index, index ∈ world.served →
    ∃ connection, world.connections[index]? = some connection ∧ connection.Admitted databases
  once : world.served.Nodup
  closed : ∀ index connection, world.connections[index]? = some connection →
    connection.closed ≤ 1 ∧
      (connection.closed = 0 → world.current = some index ∨ index ∈ world.served)

/-- The steps that a thread makes where it makes them. -/
def Permits (databases : Accounts → Prop) (thread : DaemonThread) (world : ServiceWorld) :
    ServiceCall → Prop
  | .daemon .acceptClient => thread = .main ∧ world.current = none
  | .daemon .createWorker => thread = .main ∧ ∃ index connection,
      world.connection? .main = some (index, connection) ∧ connection.closed = 0 ∧
        connection.Admitted databases
  | .daemon .closeClient | .daemon .receiveIpcFrame | .daemon (.sendIpcFrame _) =>
      world.Serves thread
  | .daemon (.enterController command) =>
      thread = .main ∧ command = .off ∨ world.Serves thread ∧ thread ≠ .main
  | _ => True

variable {databases : Accounts → Prop} {world next : ServiceWorld} {thread other : DaemonThread}

/-- What a thread relies on: its connection is its own. -/
structure Relies (databases : Accounts → Prop) (thread : DaemonThread)
    (world next : ServiceWorld) : Prop where
  sound : next.Sound databases
  connection : next.connection? thread = world.connection? thread

/-- What is watched of a thread. -/
def watching (databases : Accounts → Prop) (thread : DaemonThread) :
    Watch ServiceCall ServiceWorld where
  holds := Sound databases
  permits := Permits databases thread
  cuts := True

theorem sound_initial : ServiceWorld.initial.Sound databases where
  current := nofun
  served := nofun
  once := List.nodup_nil
  closed := fun index connection found => by cases found

/-- A connection of a thread is one that was accepted. -/
theorem Sound.index (sound : world.Sound databases) {index : Nat}
    (found : world.index? thread = some index) :
    ∃ connection, world.connections[index]? = some connection ∧
      world.connection? thread = some (index, connection) := by
  have accepted : ∃ connection, world.connections[index]? = some connection := by
    cases thread with
    | main =>
        obtain ⟨-, connection, present, -⟩ := sound.current index found
        exact ⟨connection, present⟩
    | worker worker =>
        obtain ⟨connection, present, -⟩ := sound.served index (List.mem_of_getElem? found)
        exact ⟨connection, present⟩
  obtain ⟨connection, present⟩ := accepted
  exact ⟨connection, present, by simp [connection?, found, present]⟩

theorem index_of_connection {index : Nat} {connection : Connection}
    (found : world.connection? thread = some (index, connection)) :
    world.index? thread = some index ∧ world.connections[index]? = some connection := by
  unfold connection? at found
  obtain ⟨own, isOwn, mapped⟩ := Option.bind_eq_some_iff.mp found
  obtain ⟨present, isPresent, same⟩ := Option.map_eq_some_iff.mp mapped
  obtain ⟨rfl, rfl⟩ := Prod.mk.inj same
  exact ⟨isOwn, isPresent⟩

/-- No two threads have the same connection. -/
theorem Sound.single (sound : world.Sound databases) {index : Nat}
    (found : world.index? thread = some index) (found' : world.index? other = some index) :
    thread = other := by
  cases thread with
  | main =>
      cases other with
      | main => rfl
      | worker worker =>
          exact absurd (List.mem_of_getElem? found') (sound.current index found).1
  | worker worker =>
      cases other with
      | main => exact absurd (List.mem_of_getElem? found) (sound.current index found').1
      | worker worker' =>
          have bound := (List.getElem?_eq_some_iff.mp found).1
          have same : world.served[worker]? = world.served[worker']? := found.trans found'.symm
          rw [(List.getElem?_inj bound sound.once).mp same]

/-! ## Steps that matter -/

theorem Sound.accept (sound : world.Sound databases) (free : world.current = none) (uid gid : Nat) :
    Sound databases { world with
      connections := world.connections ++ [⟨uid, gid, 0⟩]
      current := some world.connections.length } := by
  have bound (index : Nat) (member : index ∈ world.served) : index < world.connections.length := by
    obtain ⟨connection, present, -⟩ := sound.served index member
    exact (List.getElem?_eq_some_iff.mp present).1
  refine ⟨fun index same => ?_, fun index member => ?_, sound.once,
    fun index connection found => ?_⟩
  · obtain rfl := Option.some.inj same
    exact ⟨fun member => absurd (bound _ member) (Nat.lt_irrefl _), ⟨uid, gid, 0⟩, by simp, rfl⟩
  · obtain ⟨connection, present, admitted⟩ := sound.served index member
    refine ⟨connection, ?_, admitted⟩
    rw [List.getElem?_append_left (bound index member)]
    exact present
  · by_cases old : index < world.connections.length
    · rw [List.getElem?_append_left old] at found
      obtain ⟨once, owned⟩ := sound.closed index connection found
      refine ⟨once, fun isOpen => Or.inr ?_⟩
      exact (owned isOpen).resolve_left (by simp [free])
    · rw [List.getElem?_append_right (by omega)] at found
      obtain ⟨inside, rfl⟩ := List.getElem?_eq_some_iff.mp found
      have last : index = world.connections.length := by simp at inside; omega
      simp [last]

/-- The world after a connection has been closed. -/
theorem close_eq {index : Nat} (found : world.index? thread = some index) :
    world.close thread = { world with
      connections := world.connections.modify index fun connection =>
        { connection with closed := connection.closed + 1 }
      current := if thread = .main then none else world.current } := by
  simp [close, found]

theorem getElem?_close {index : Nat} (found : world.index? thread = some index) (other : Nat) :
    (world.close thread).connections[other]? = (world.connections[other]?).map fun connection =>
      if index = other then { connection with closed := connection.closed + 1 }
      else connection := by
  rw [close_eq found, List.getElem?_modify]
  rfl

theorem Sound.close (sound : world.Sound databases) (serves : world.Serves thread) :
    (world.close thread).Sound databases := by
  obtain ⟨index, connection, found, isOpen⟩ := serves
  obtain ⟨found, present⟩ := index_of_connection found
  refine ⟨fun current same => ?_, fun served member => ?_, ?_, fun other later after => ?_⟩
  · have notMain : thread ≠ .main := by
      intro isMain
      rw [close_eq found] at same
      simp [isMain] at same
    have same : world.current = some current := by
      rw [close_eq found] at same
      simpa [notMain] using same
    obtain ⟨fresh, owned, here, zero⟩ := sound.current current same
    refine ⟨by rw [close_eq found]; exact fresh, owned, ?_, zero⟩
    have different : index ≠ current := by
      intro equal
      exact notMain (sound.single found (equal ▸ same))
    rw [getElem?_close found, here]
    simp [different]
  · have before : served ∈ world.served := by
      rw [close_eq found] at member
      exact member
    obtain ⟨old, here, admitted⟩ := sound.served served before
    refine ⟨if index = served then { old with closed := old.closed + 1 } else old, ?_, ?_⟩
    · rw [getElem?_close found, here]
      rfl
    · split
      · exact admitted
      · exact admitted
  · rw [close_eq found]
    exact sound.once
  · rw [getElem?_close found] at after
    obtain ⟨old, here, rfl⟩ := Option.map_eq_some_iff.mp after
    obtain ⟨once, owned⟩ := sound.closed other old here
    by_cases same : index = other
    · subst same
      obtain rfl := Option.some.inj (here.symm.trans present)
      simp [isOpen]
    · simp only [same, if_false]
      refine ⟨once, fun zero => ?_⟩
      rcases owned zero with current | member
      · left
        have notMain : thread ≠ .main := by
          rintro rfl
          exact same (Option.some.inj (found.symm.trans current))
        rw [close_eq found]
        simpa [notMain] using current
      · right
        rw [close_eq found]
        exact member

theorem connection_close_other (sound : world.Sound databases) (serves : world.Serves thread)
    (different : other ≠ thread) :
    (world.close thread).connection? other = world.connection? other := by
  obtain ⟨index, connection, found, -⟩ := serves
  obtain ⟨found, -⟩ := index_of_connection found
  have same : (world.close thread).index? other = world.index? other := by
    rw [close_eq found]
    cases other with
    | main =>
        have notMain : thread ≠ .main := different.symm
        simp [index?, notMain]
    | worker worker => rfl
  unfold connection?
  rw [same]
  cases mine : world.index? other with
  | none => rfl
  | some own =>
      have apart : index ≠ own := by
        intro equal
        exact different (sound.single (equal ▸ mine) found)
      simp only [Option.bind_some, getElem?_close found, apart, if_false, Option.map_id']

theorem finished_close (serves : world.Serves thread) :
    Finished thread (world.close thread) := by
  obtain ⟨index, connection, found, isOpen⟩ := serves
  obtain ⟨found, present⟩ := index_of_connection found
  intro later after own
  obtain ⟨foundLater, presentLater⟩ := index_of_connection own
  cases thread with
  | main =>
      rw [close_eq found] at foundLater
      simp [index?] at foundLater
  | worker worker =>
      rw [getElem?_close found] at presentLater
      rw [close_eq found] at foundLater
      obtain rfl := Option.some.inj (foundLater.symm.trans found)
      rw [present] at presentLater
      simp only [Option.map_some, if_true, Option.some.injEq] at presentLater
      subst presentLater
      simp [isOpen]

theorem Sound.handOver (sound : world.Sound databases) {index : Nat} {connection : Connection}
    (found : world.connection? .main = some (index, connection))
    (admitted : connection.Admitted databases) : world.handOver.Sound databases := by
  obtain ⟨current, present⟩ := index_of_connection found
  have current : world.current = some index := current
  obtain ⟨fresh, -⟩ := sound.current index current
  have eq : world.handOver = { world with served := world.served ++ [index], current := none } := by
    simp [ServiceWorld.handOver, current]
  rw [eq]
  refine ⟨nofun, fun served member => ?_, ?_, fun other later here => ?_⟩
  · rcases List.mem_append.mp member with before | added
    · exact sound.served served before
    · obtain rfl := List.mem_singleton.mp added
      exact ⟨connection, present, admitted⟩
  · refine List.nodup_append.mpr ⟨sound.once, by simp, fun old member added new same => fresh ?_⟩
    rw [← List.mem_singleton.mp new, ← same]
    exact member
  · obtain ⟨once, owned⟩ := sound.closed other later here
    refine ⟨once, fun zero => Or.inr (List.mem_append.mpr ?_)⟩
    rcases owned zero with same | member
    · exact Or.inr (List.mem_singleton.mpr (Option.some.inj (same.symm.trans current)))
    · exact Or.inl member

theorem connection_handOver_worker {worker : Nat} (present : worker ≠ world.served.length) :
    world.handOver.connection? (.worker worker) = world.connection? (.worker worker) := by
  unfold ServiceWorld.handOver
  split
  · rfl
  · unfold connection? index?
    simp only
    by_cases old : worker < world.served.length
    · rw [List.getElem?_append_left old]
    · rw [List.getElem?_eq_none (by simp; omega), List.getElem?_eq_none (by omega)]

theorem connection_accept_worker (sound : world.Sound databases) (uid gid worker : Nat) :
    connection? { world with
        connections := world.connections ++ [⟨uid, gid, 0⟩]
        current := some world.connections.length } (.worker worker) =
      world.connection? (.worker worker) := by
  unfold connection?
  cases found : world.served[worker]? with
  | none => simp [index?, found]
  | some index =>
      obtain ⟨connection, present, -⟩ := sound.served index (List.mem_of_getElem? found)
      have bound := (List.getElem?_eq_some_iff.mp present).1
      simp [index?, found, List.getElem?_append_left bound]

theorem connection_handOver_fresh :
    world.handOver.connection? (.worker world.served.length) = world.connection? .main := by
  unfold ServiceWorld.handOver
  split
  next none => simp [connection?, index?, none]
  next index some => simp [connection?, index?, some]

end ServiceWorld

/-! ## The threads, each by itself -/

open ServiceWorld

/-- The world is sound, and something is known of the thread's connection. -/
def Owns (databases : Accounts → Prop) (thread : DaemonThread)
    (known : Option (Nat × Connection) → Prop) (world : ServiceWorld) : Prop :=
  world.Sound databases ∧ known (world.connection? thread)

/-- What comes first in a thread, with its look at the peer in steps. -/
def Handles {α : Type} (databases : Accounts → Prop) (controller : Controller)
    (thread : DaemonThread) (before : Option (Nat × Connection) → Prop) (program : Daemon α)
    (after : α → Option (Nat × Connection) → Prop) : Prop :=
  Triple ((serviceSystem databases controller).around (Relies databases) thread)
    (watching databases thread) (Owns databases thread before) (program.expand serviceStep)
    fun value => Owns databases thread (after value)

/-- The thread has a connection that is open. -/
def IsOpen (own : Option (Nat × Connection)) : Prop :=
  ∃ index connection, own = some (index, connection) ∧ connection.closed = 0

/-- The thread is through with its connection. -/
def Released (thread : DaemonThread) (own : Option (Nat × Connection)) : Prop :=
  ∀ index connection, own = some (index, connection) → thread ≠ .main ∧ connection.closed = 1

/-- The thread has looked at its peer. -/
def Judged (databases : Accounts → Prop) (authorized : Bool) (own : Option (Nat × Connection)) :
    Prop :=
  ∃ index connection, own = some (index, connection) ∧ connection.closed = 0 ∧
    (authorized = true → connection.Admitted databases)

/-- The steps that leave the connections alone. -/
def Plain : DaemonCall → Prop
  | .acceptClient | .closeClient | .createWorker | .authorizeClient => False
  | _ => True

/-- The plain steps that do not even need a connection. -/
def Unconnected : DaemonCall → Prop
  | .receiveIpcFrame | .sendIpcFrame _ | .enterController _ => False
  | operation => Plain operation

section Rules

variable {α β : Type} {databases : Accounts → Prop} {controller : Controller}
variable {thread : DaemonThread} {before : Option (Nat × Connection) → Prop}

theorem Owns.stable (known : Option (Nat × Connection) → Prop) :
    Stable ((serviceSystem databases controller).around (Relies databases) thread)
      (Owns databases thread known) := by
  rintro world later ⟨-, knows⟩ relies
  refine ⟨relies.sound, ?_⟩
  rw [relies.connection]
  exact knows

theorem Handles.done {value : α} {after : α → Option (Nat × Connection) → Prop}
    (implies : ∀ own, before own → after value own) :
    Handles databases controller thread before (.done value) after :=
  Triple.done (Owns.stable before) (fun _ => And.left) fun _ owns => ⟨owns.1, implies _ owns.2⟩

theorem Handles.bind {program : Daemon α} {next : α → Daemon β}
    {middle : α → Option (Nat × Connection) → Prop} {after : β → Option (Nat × Connection) → Prop}
    (first : Handles databases controller thread before program middle)
    (second : ∀ value, Handles databases controller thread (middle value) (next value) after) :
    Handles databases controller thread before (program.bind next) after := by
  unfold Handles
  rw [expand_bind]
  exact Triple.bind first second

theorem changes_plain {world next : ServiceWorld} {operation : DaemonCall}
    {answer : DaemonAnswer operation} (plain : Plain operation)
    (changes : world.Changes databases thread (.daemon operation) answer next) : next = world := by
  cases operation with
  | acceptClient => exact plain.elim
  | closeClient => exact plain.elim
  | createWorker => exact plain.elim
  | authorizeClient => exact plain.elim
  | _ => exact changes

/-- A program of plain steps, each permitted where it is made. -/
theorem Handles.of_calls {allowed : DaemonCall → Prop} {program : Daemon α}
    (calls : program.Calls allowed) (plain : ∀ operation, allowed operation → Plain operation)
    (permitted : ∀ (world : ServiceWorld) operation, before (world.connection? thread) →
      allowed operation → world.Permits databases thread (.daemon operation)) :
    Handles databases controller thread before program fun _ => before := by
  let stepping (operation : ServiceCall) : Prop :=
    ∃ inner, operation = .daemon inner ∧ allowed inner
  have steps (operation : DaemonCall) (may : allowed operation) :
      (serviceStep operation).Calls stepping := by
    cases operation with
    | authorizeClient => exact (plain _ may).elim
    | _ => exact ⟨⟨_, rfl, may⟩, fun _ => trivial⟩
  apply Triple.of_calls (calls.expand steps) (Owns.stable before) (fun _ => And.left) trivial
  · rintro world _ owns ⟨inner, rfl, may⟩
    exact permitted world inner owns.2 may
  · rintro world _ answer next owns ⟨inner, rfl, may⟩ changes
    rw [changes_plain (plain inner may) changes]
    exact owns

theorem Unconnected.plain {operation : DaemonCall} (unconnected : Unconnected operation) :
    Plain operation := by
  cases operation with
  | receiveIpcFrame => trivial
  | sendIpcFrame frame => trivial
  | enterController command => trivial
  | _ => exact unconnected

theorem Unconnected.permits {world : ServiceWorld} {operation : DaemonCall}
    (unconnected : Unconnected operation) :
    world.Permits databases thread (.daemon operation) := by
  cases operation with
  | acceptClient => exact unconnected.elim
  | closeClient => exact unconnected.elim
  | createWorker => exact unconnected.elim
  | receiveIpcFrame => exact unconnected.elim
  | sendIpcFrame frame => exact unconnected.elim
  | enterController command => exact unconnected.elim
  | _ => trivial

theorem handles_unconnected {program : Daemon α} (calls : program.Calls Unconnected) :
    Handles databases controller thread before program fun _ => before :=
  Handles.of_calls calls (fun _ => Unconnected.plain) fun _ _ _ unconnected => unconnected.permits

theorem handles_step {operation : DaemonCall} (unconnected : Unconnected operation) :
    Handles databases controller thread before (daemonCall operation) fun _ => before :=
  handles_unconnected ⟨unconnected, fun _ => trivial⟩

theorem handles_send (error : Error) (isOpen : ∀ own, before own → IsOpen own) :
    Handles databases controller thread before (sendError error) fun _ => before := by
  have calls : (sendError error).Calls fun operation => ∃ frame, operation = .sendIpcFrame frame :=
    ⟨⟨_, rfl⟩, fun _ => trivial⟩
  apply Handles.of_calls calls
  · rintro _ ⟨frame, rfl⟩
    trivial
  · rintro world _ known ⟨frame, rfl⟩
    exact isOpen _ known

theorem handles_closeClient (isOpen : ∀ own, before own → IsOpen own) :
    Handles databases controller thread before (daemonCall .closeClient)
      fun _ => Released thread := by
  apply Triple.call (Owns.stable before) (fun _ => And.left)
  · exact fun world owns => isOpen _ owns.2
  · rintro world answer next ⟨sound, knows⟩ changes
    obtain rfl : next = world.close thread := changes
    have serves : world.Serves thread := isOpen _ knows
    exact Triple.done (Owns.stable (Released thread)) (fun _ => And.left) (fun _ => id) _
      ⟨sound.close serves, finished_close serves⟩

end Rules

/-! ## A worker -/

theorem calls_sendError {allowed : DaemonCall → Prop} (error : Error)
    (sends : ∀ frame, allowed (.sendIpcFrame frame)) : (sendError error).Calls allowed :=
  ⟨sends _, fun _ => trivial⟩

theorem calls_setActiveName (text : Bytes) : (setActiveName text).Calls Plain :=
  ⟨trivial, fun _ => ⟨trivial, fun _ => ⟨trivial, fun _ => trivial⟩⟩⟩

theorem calls_sendLogFrames (level : LogLevel) (fuel : Nat) (rest : Bytes) :
    (sendLogFrames level fuel rest).Calls Plain := by
  induction fuel generalizing rest with
  | zero => trivial
  | succ fuel ih =>
      unfold sendLogFrames
      apply Calls.ite
      · trivial
      · exact ⟨trivial, fun sent => Calls.ite (ih _) trivial⟩

theorem calls_logMessage (command : Command) (connected : Bool) (level : LogLevel)
    (message : Bytes) : (logMessage command connected level message).Calls Plain := by
  unfold logMessage
  apply Calls.ite
  · trivial
  · have names : Calls Plain (if isMutating command && level ≠ .progress then
        setActiveName (loggedName command message) else .done ()) :=
      Calls.ite (calls_setActiveName _) trivial
    exact names.bind fun _ => calls_sendLogFrames _ _ _

theorem calls_runLogged {α : Type} (command : Command) (program : System α) (connected : Bool) :
    (runLogged command program connected).Calls Plain := by
  induction program generalizing connected with
  | done value => trivial
  | call operation rest ih =>
      cases operation with
      | emitLog level message =>
          exact (calls_logMessage command connected level message).bind fun still => ih () still
      | _ => exact ⟨trivial, fun answer => ih answer connected⟩
  | cut => trivial

theorem calls_executeLogged (controller : Controller) (command : Command) (argument : Bytes) :
    (executeLogged controller command argument).Calls Plain :=
  ⟨trivial, fun _ => (calls_runLogged command _ true).bind fun _ => ⟨trivial, fun _ => trivial⟩⟩

theorem calls_reply (connected : Bool) (result : Result Bytes) :
    (reply connected result).Calls Plain := by
  unfold reply
  apply Calls.ite
  · trivial
  · cases result with
    | error failure => exact calls_sendError failure fun _ => trivial
    | ok text => exact ⟨trivial, fun _ => trivial⟩

theorem calls_refuseBusy : refuseBusy.Calls Plain :=
  ⟨trivial, fun _ => ⟨trivial, fun active => ⟨trivial, fun _ =>
    calls_sendError (busyError active) fun _ => trivial⟩⟩⟩

/-- A worker that serves its client neither closes the connection nor takes another. -/
theorem calls_serveClient (controller : Controller) : (serveClient controller).Calls Plain := by
  refine ⟨trivial, fun received => ?_⟩
  cases received with
  | error failure => exact calls_sendError failure fun _ => trivial
  | ok request =>
      simp only [done_bind]
      cases decodeCommand request.code with
      | error failure => exact calls_sendError _ fun _ => trivial
      | ok command =>
          simp only
          apply Calls.ite
          · exact calls_sendError _ fun _ => trivial
          · apply Calls.ite
            · refine ⟨trivial, fun owned => Calls.ite calls_refuseBusy ?_⟩
              refine (calls_setActiveName _).bind fun _ => ?_
              refine (calls_executeLogged controller command _).bind fun outcome => ?_
              refine (calls_setActiveName _).bind fun _ => ?_
              exact (calls_reply _ _).bind fun _ => ⟨trivial, fun _ => trivial⟩
            · exact (calls_executeLogged controller command _).bind fun outcome => calls_reply _ _

theorem calls_countOff : countOff.Calls Unconnected :=
  ⟨trivial, fun _ => ⟨trivial, fun _ => ⟨trivial, fun _ => trivial⟩⟩⟩

section Threads

variable {databases : Accounts → Prop} {controller : Controller}

theorem handles_worker (index : Nat) :
    Handles databases controller (.worker index) IsOpen (worker controller)
      fun _ => Released (.worker index) := by
  have serves : Handles databases controller (.worker index) IsOpen (serveClient controller)
      fun _ => IsOpen := by
    apply Handles.of_calls (calls_serveClient controller) (fun _ => id)
    intro world operation known plain
    cases operation with
    | acceptClient => exact plain.elim
    | closeClient => exact plain.elim
    | createWorker => exact plain.elim
    | receiveIpcFrame => exact known
    | sendIpcFrame frame => exact known
    | enterController command => exact Or.inr ⟨known, nofun⟩
    | _ => trivial
  refine serves.bind fun _ => ?_
  refine (handles_closeClient fun _ => id).bind fun _ => ?_
  exact (handles_unconnected calls_countOff).bind fun _ => handles_step (by trivial)

/-! ## The main thread -/

theorem current_of_released {world : ServiceWorld} (sound : world.Sound databases)
    (released : Released .main (world.connection? .main)) : world.current = none := by
  cases current : world.current with
  | none => rfl
  | some index =>
      have found : world.index? .main = some index := current
      obtain ⟨connection, -, own⟩ := sound.index found
      exact absurd rfl (released index connection own).1

/-- What the main thread has in hand after it has asked for a connection. -/
def Accepted : AcceptAnswer → Option (Nat × Connection) → Prop
  | .accepted => IsOpen
  | _ => Released .main

theorem handles_acceptClient :
    Handles databases controller .main (Released .main) (daemonCall .acceptClient) Accepted := by
  apply Triple.call (Owns.stable _) (fun _ => And.left)
  · rintro world ⟨sound, released⟩
    exact ⟨rfl, current_of_released sound released⟩
  · rintro world answer next ⟨sound, released⟩ changes
    apply Triple.done (Owns.stable _) (fun _ => And.left) (fun _ => id)
    cases answer with
    | accepted =>
        obtain ⟨uid, gid, rfl⟩ := changes
        refine ⟨sound.accept (current_of_released sound released) uid gid, ?_⟩
        exact ⟨world.connections.length, ⟨uid, gid, 0⟩, by simp [connection?, index?], rfl⟩
    | interrupted =>
        obtain rfl : next = world := changes
        exact ⟨sound, released⟩
    | failed detail =>
        obtain rfl : next = world := changes
        exact ⟨sound, released⟩

/-- What the account database may answer. -/
def Looked (databases : Accounts → Prop) (operation : ServiceCall)
    (answer : ServiceAnswer operation) : Prop :=
  match operation, answer with
  | .account operation, answer => AnsweredBy databases operation answer
  | _, _ => True

theorem triple_isAuthorizedUser {index uid gid : Nat} :
    Triple ((serviceSystem databases controller).around (Relies databases) .main)
      (watching databases .main)
      (Owns databases .main fun own => own = some (index, ⟨uid, gid, 0⟩))
      ((isAuthorizedUser uid gid kAdminGroup).expand fun operation =>
        .call (.account operation) .done)
      fun authorized world => (authorized = true → Authorized databases uid gid kAdminGroup) ∧
        Owns databases .main (fun own => own = some (index, ⟨uid, gid, 0⟩)) world := by
  have step (operation : AccountCall) :
      Calls (fun call : ServiceCall => ∃ inner, call = .account inner)
        (.call (.account operation) .done : Service (AccountAnswer operation)) :=
    ⟨⟨operation, rfl⟩, fun _ => trivial⟩
  have text : cString kAdminGroup = kAdminGroup := by decide
  have gives := gives_isAuthorizedUser databases uid gid kAdminGroup
  rw [text] at gives
  have answered (operation : AccountCall) :
      Gives (Looked databases) (AnsweredBy databases operation)
        (.call (.account operation) .done : Service (AccountAnswer operation)) :=
    fun _ => id
  refine Triple.of_gives (gives.expand answered)
    ((calls_true _).expand fun operation _ => step operation) (Owns.stable _) (fun _ => And.left)
    trivial ?_ ?_
  · rintro world _ - ⟨inner, rfl⟩
    trivial
  · rintro world _ answer next owns ⟨inner, rfl⟩ ⟨rfl, may⟩
    exact ⟨may, owns⟩

/-- The look at the peer says of no one that he is authorised who is not. -/
theorem handles_authorizeClient :
    Handles databases controller .main IsOpen (daemonCall .authorizeClient)
      fun answer => Judged databases answer.1 := by
  have looks : Triple ((serviceSystem databases controller).around (Relies databases) .main)
      (watching databases .main) (Owns databases .main IsOpen) authorizeClient
      fun answer => Owns databases .main (Judged databases answer.1) := by
    apply Triple.call (Owns.stable _) (fun _ => And.left) (fun _ _ => trivial)
    rintro world peer next owns ⟨rfl, told⟩
    obtain ⟨sound, index, connection, own, isOpen⟩ := owns
    cases peer with
    | none =>
        apply Triple.done (Owns.stable (Judged databases false)) (fun _ => And.left) (fun _ => id)
        exact ⟨sound, index, connection, own, isOpen, nofun⟩
    | some credentials =>
        obtain ⟨uid, gid⟩ := credentials
        obtain ⟨_, closed, same⟩ := told uid gid rfl
        obtain ⟨rfl, rfl⟩ := Prod.mk.inj (Option.some.inj (own.symm.trans same))
        obtain rfl : closed = 0 := isOpen
        apply (triple_isAuthorizedUser next ⟨sound, own⟩).bind
        rintro authorized later ⟨right, sound, own⟩
        apply Triple.done (Owns.stable (Judged databases authorized)) (fun _ => And.left)
          (fun _ => id)
        exact ⟨sound, index, ⟨uid, gid, 0⟩, own, rfl, right⟩
  have eq : (daemonCall .authorizeClient).expand serviceStep = authorizeClient :=
    bind_done authorizeClient
  unfold Handles
  rw [eq]
  exact looks

/-- What the main thread has in hand after it has tried to create a worker. -/
def HandedOver : Except Bytes Nat → Option (Nat × Connection) → Prop
  | .ok _ => Released .main
  | .error _ => IsOpen

theorem handles_createWorker :
    Handles databases controller .main (Judged databases true) (daemonCall .createWorker)
      HandedOver := by
  apply Triple.call (Owns.stable _) (fun _ => And.left)
  · rintro world ⟨-, index, connection, own, isOpen, admitted⟩
    exact ⟨rfl, index, connection, own, isOpen, admitted rfl⟩
  · rintro world answer next ⟨sound, index, connection, own, isOpen, admitted⟩ changes
    apply Triple.done (Owns.stable _) (fun _ => And.left) (fun _ => id)
    cases answer with
    | error detail =>
        obtain rfl : next = world := changes
        exact ⟨sound, index, connection, own, isOpen⟩
    | ok worker =>
        obtain ⟨-, rfl⟩ := changes
        refine ⟨sound.handOver own (admitted rfl), fun later other found => ?_⟩
        obtain ⟨current, -⟩ := index_of_connection own
        have current : world.current = some index := current
        obtain ⟨impossible, -⟩ := index_of_connection found
        simp [ServiceWorld.handOver, current, index?] at impossible

theorem Judged.isOpen {authorized : Bool} {own : Option (Nat × Connection)}
    (judged : Judged databases authorized own) : IsOpen own := by
  obtain ⟨index, connection, found, isOpen, -⟩ := judged
  exact ⟨index, connection, found, isOpen⟩

theorem handles_rejectClient (uid : Nat) :
    Handles databases controller .main (Judged databases false) (rejectClient uid)
      fun _ => Released .main := by
  refine (handles_step (by trivial)).bind fun _ => ?_
  refine (handles_send _ fun _ => Judged.isOpen).bind fun _ => ?_
  exact handles_closeClient fun _ => Judged.isOpen

theorem handles_startWorker :
    Handles databases controller .main (Judged databases true) startWorker
      fun _ => Released .main := by
  refine (handles_step (by trivial)).bind fun _ => ?_
  refine (handles_step (by trivial)).bind fun _ => ?_
  refine (handles_step (by trivial)).bind fun _ => ?_
  refine handles_createWorker.bind fun created => ?_
  cases created with
  | ok worker => exact Handles.done fun _ => id
  | error detail =>
      refine (handles_unconnected calls_countOff).bind fun _ => ?_
      refine (handles_step (by trivial)).bind fun _ => ?_
      refine (handles_send _ fun _ => id).bind fun _ => ?_
      exact handles_closeClient fun _ => id

/-- A turn of a loop that leaves the main thread without a connection. -/
theorem Handles.iterate {body : Unit → Daemon (Unit ⊕ Unit)}
    (step : Handles databases controller .main (Released .main) (body ())
      fun _ => Released .main) (fuel : Nat) :
    Handles databases controller .main (Released .main) (iterate body fuel ())
      fun _ => Released .main := by
  induction fuel with
  | zero => exact Triple.cut (Owns.stable _) (fun _ => And.left) trivial
  | succ fuel ih =>
      refine step.bind fun result => ?_
      cases result with
      | inl next => exact ih
      | inr value => exact Handles.done fun _ => id

theorem handles_acceptStep :
    Handles databases controller .main (Released .main) acceptStep fun _ => Released .main := by
  refine (handles_step (by trivial)).bind fun requested => ?_
  cases requested with
  | true => exact Handles.done fun _ => id
  | false =>
      refine (handles_step (by trivial)).bind fun polled => ?_
      cases polled with
      | interrupted => exact Handles.done fun _ => id
      | timedOut => exact Handles.done fun _ => id
      | failed => exact (handles_step (by trivial)).bind fun _ => Handles.done fun _ => id
      | ready =>
          refine handles_acceptClient.bind fun answer => ?_
          cases answer with
          | interrupted => exact Handles.done fun _ => id
          | failed detail =>
              exact (handles_step (by trivial)).bind fun _ => Handles.done fun _ => id
          | accepted =>
              refine handles_authorizeClient.bind fun answer => ?_
              obtain ⟨authorized, uid⟩ := answer
              refine Handles.bind ?_ fun _ => Handles.done fun _ => id
              cases authorized with
              | false => exact handles_rejectClient uid
              | true => exact handles_startWorker

theorem handles_waitStep :
    Handles databases controller .main (Released .main) waitStep fun _ => Released .main := by
  refine (handles_step (by trivial)).bind fun finished => ?_
  cases finished with
  | true => exact Handles.done fun _ => id
  | false =>
      refine (handles_step (by trivial)).bind fun _ => ?_
      exact (handles_step (by trivial)).bind fun _ => Handles.done fun _ => id

theorem calls_runPrinting {α : Type} (program : System α) :
    (runPrinting program).Calls Unconnected := by
  induction program with
  | done value => trivial
  | call operation rest ih =>
      cases operation with
      | emitLog level message => exact ⟨trivial, fun _ => ih ()⟩
      | _ => exact ⟨trivial, ih⟩
  | cut => trivial

theorem handles_shutdownCleanup :
    Handles databases controller .main (Released .main) (shutdownCleanup controller)
      fun _ => Released .main := by
  have enters : Handles databases controller .main (Released .main)
      (daemonCall (.enterController .off)) fun _ => Released .main := by
    have calls : (daemonCall (.enterController .off)).Calls
        fun operation => operation = .enterController .off := ⟨rfl, fun _ => trivial⟩
    apply Handles.of_calls calls
    · rintro _ rfl
      trivial
    · rintro world _ - rfl
      exact Or.inl ⟨rfl, rfl⟩
  refine (handles_step (by trivial)).bind fun present => ?_
  cases present with
  | false => exact Handles.done fun _ => id
  | true =>
      refine enters.bind fun _ => ?_
      refine (handles_unconnected (calls_runPrinting _)).bind fun stopped => ?_
      refine (handles_step (by trivial)).bind fun _ => ?_
      cases stopped with
      | ok text => exact Handles.done fun _ => id
      | error failure => exact handles_step (by trivial)

theorem handles_daemonMain (fuel : Nat) :
    Handles databases controller .main (Released .main) (daemonMain controller fuel)
      fun _ => Released .main := by
  refine (Handles.iterate handles_acceptStep fuel).bind fun _ => ?_
  refine (handles_step (by trivial)).bind fun _ => ?_
  refine (Handles.iterate handles_waitStep fuel).bind fun _ => ?_
  refine (handles_step (by trivial)).bind fun _ => ?_
  exact handles_shutdownCleanup.bind fun _ => handles_step (by trivial)

end Threads

/-! ## All threads together -/

section Together

variable {databases : Accounts → Prop} {controller : Controller}

/-- Whatever a thread does leaves the connections of the others alone. -/
theorem relies_of_changes {thread other : DaemonThread} {world next : ServiceWorld}
    {operation : ServiceCall} {answer : ServiceAnswer operation} (sound : world.Sound databases)
    (permits : world.Permits databases thread operation)
    (changes : world.Changes databases thread operation answer next) (different : other ≠ thread)
    (old : ∀ program,
      (serviceSystem databases controller).creates operation answer ≠ some (other, program)) :
    Relies databases other world next := by
  have unchanged (same : next = world) : Relies databases other world next := by
    rw [same]
    exact ⟨sound, rfl⟩
  cases operation with
  | peerCredentials => exact unchanged changes.1
  | account inner => exact unchanged changes.1
  | daemon inner =>
      cases inner with
      | acceptClient =>
          obtain ⟨rfl, free⟩ := permits
          cases answer with
          | interrupted => exact unchanged changes
          | failed detail => exact unchanged changes
          | accepted =>
              obtain ⟨uid, gid, rfl⟩ := changes
              refine ⟨sound.accept free uid gid, ?_⟩
              cases other with
              | main => exact absurd rfl different
              | worker worker => exact connection_accept_worker sound uid gid worker
      | closeClient =>
          obtain rfl : next = world.close thread := changes
          exact ⟨sound.close permits, connection_close_other sound permits different⟩
      | createWorker =>
          obtain ⟨rfl, index, connection, own, -, admitted⟩ := permits
          cases answer with
          | error detail => exact unchanged changes
          | ok created =>
              obtain ⟨rfl, rfl⟩ := changes
              refine ⟨sound.handOver own admitted, ?_⟩
              cases other with
              | main => exact absurd rfl different
              | worker worker =>
                  apply connection_handOver_worker
                  rintro rfl
                  exact old _ rfl
      | _ => exact unchanged changes

theorem service_discipline (databases : Accounts → Prop) (controller : Controller) :
    (serviceSystem databases controller).Discipline (Relies databases) (watching databases)
      ServiceWorld.Finished where
  others := fun _ _ _ _ _ _ sound permits changes different old =>
    relies_of_changes sound permits changes different old
  created := by
    intro thread world operation answer next other program sound permits changes made
    cases operation with
    | peerCredentials => cases made
    | account inner => cases made
    | daemon inner =>
        cases inner with
        | createWorker =>
            obtain ⟨rfl, index, connection, own, isOpen, admitted⟩ := permits
            cases answer with
            | error detail => cases made
            | ok created =>
                obtain ⟨rfl, rfl⟩ := changes
                obtain ⟨rfl, rfl⟩ := Prod.mk.inj (Option.some.inj made)
                refine ⟨nofun, (handles_worker _ _ ⟨sound.handOver own admitted, ?_⟩).imp ?_⟩
                · rw [connection_handOver_fresh]
                  exact ⟨index, connection, own, isOpen⟩
                · exact fun _ _ owns => owns.2
        | _ => cases made

theorem serviceStart_safe (databases : Accounts → Prop) (controller : Controller) (fuel : Nat) :
    (serviceStart controller fuel).AllSafe (serviceSystem databases controller)
      (Relies databases) (watching databases) ServiceWorld.Finished := by
  intro thread
  cases thread with
  | main =>
      have begins : Owns databases .main (Released .main) ServiceWorld.initial :=
        ⟨sound_initial, nofun⟩
      exact (handles_daemonMain fuel _ begins).imp fun _ _ owns => owns.2
  | worker index =>
      have begins : Owns databases (.worker index) (Released (.worker index))
          ServiceWorld.initial :=
        ⟨sound_initial, nofun⟩
      have waits : Handles databases controller (.worker index) (Released (.worker index))
          (.done ()) fun _ => Released (.worker index) :=
        Handles.done fun _ => id
      exact (waits _ begins).imp fun _ _ owns => owns.2

/-- Connections that are all closed. -/
theorem closed_of_finished {world : ServiceWorld} (sound : world.Sound databases)
    (finished : ∀ thread, world.Finished thread) {connection : Connection}
    (member : connection ∈ world.connections) : connection.closed = 1 := by
  obtain ⟨index, found⟩ := List.getElem?_of_mem member
  obtain ⟨once, owned⟩ := sound.closed index connection found
  by_contra unclosed
  have isOpen : connection.closed = 0 := by omega
  have own {thread : DaemonThread} (has : world.index? thread = some index) :
      world.connection? thread = some (index, connection) := by
    simp [connection?, has, found]
  rcases owned isOpen with current | served
  · exact absurd rfl (finished .main index connection (own current)).1
  · obtain ⟨worker, has⟩ := List.getElem?_of_mem served
    exact unclosed (finished (.worker worker) index connection (own has)).2

end Together

/-- Whatever the threads of the daemon do in whatever order: every connection
that was accepted is closed at most once, and once when the daemon and its
workers have come to their ends; a connection is received from, answered and
closed only while it is open, and by one thread; and a worker, and with it the
controller, works only for a peer that may control the daemon. -/
theorem clients_served {databases : Accounts → Prop} {controller : Controller} {fuel : Nat}
    {pool : Pool ServiceAnswer DaemonThread ServiceWorld}
    (reaches : Pool.Reaches (serviceSystem databases controller) (serviceStart controller fuel)
      pool) :
    (∀ connection ∈ pool.world.connections, connection.closed ≤ 1) ∧
    ((∀ thread, pool.programs thread = .done ()) →
      ∀ connection ∈ pool.world.connections, connection.closed = 1) ∧
    (∀ thread operation rest, pool.programs thread = .call operation rest →
      pool.world.Permits databases thread operation) ∧
    (∀ thread other index, pool.world.index? thread = some index →
      pool.world.index? other = some index → thread = other) ∧
    ∀ worker index connection, pool.world.connection? (.worker worker) = some (index, connection) →
      connection.Admitted databases := by
  have safe := (serviceStart_safe databases controller fuel).of_reaches
    (service_discipline databases controller) reaches
  have sound : pool.world.Sound databases := (safe .main).holds
  refine ⟨fun connection member => ?_, fun done connection member => ?_,
    fun thread operation rest running => safe.permits running,
    fun thread other index => sound.single, fun worker index connection own => ?_⟩
  · obtain ⟨index, found⟩ := List.getElem?_of_mem member
    exact (sound.closed index connection found).1
  · apply closed_of_finished sound _ member
    intro thread
    have own := safe thread
    rw [done thread] at own
    exact own.result
  · obtain ⟨has, present⟩ := index_of_connection own
    obtain ⟨same, here, admitted⟩ := sound.served index (List.mem_of_getElem? has)
    obtain rfl := Option.some.inj (present.symm.trans here)
    exact admitted

/-- The answer to a step of a daemon that is stopped after one client. -/
def visitedAnswer (world : ServiceWorld) :
    (operation : DaemonCall) → Option (DaemonAnswer operation)
  | .stopRequested => some (world.served.length = 1)
  | .pollListener => some .ready
  | .acceptClient => some .accepted
  | .authorizeClient => none
  | .createWorker => some (.ok world.served.length)
  | .receiveIpcFrame => some (.ok ⟨.request, encodeCommand .status, []⟩)
  | .sendIpcFrame _ => some (.ok ())
  | .tryLockOperation _ => some true
  | .readActiveName => some []
  | .clientsFinished => some true
  | .stateFileExists => some false
  | .system _ => none
  | .closeClient | .lockActiveName | .unlockOperation | .writeActiveName _ | .unlockActiveName
  | .lockClients | .incrementClients | .decrementClients | .unlockClients | .notifyClients
  | .waitClients | .enterController _ | .leaveController | .print _ | .closeListener => some ()

/-- What the step makes of the connections. -/
def visitedEffect (thread : DaemonThread) (world : ServiceWorld) : DaemonCall → ServiceWorld
  | .acceptClient => { world with
      connections := world.connections ++ [⟨1000, 1000, 0⟩]
      current := some world.connections.length }
  | .closeClient => world.close thread
  | .createWorker => world.handOver
  | _ => world

def visitedRespond (thread : DaemonThread) (world : ServiceWorld) :
    (operation : ServiceCall) → Option (ServiceAnswer operation × ServiceWorld)
  | .daemon operation => (visitedAnswer world operation).map fun answer =>
      (answer, visitedEffect thread world operation)
  | .peerCredentials =>
      some ((world.connection? thread).map fun own => (own.2.uid, own.2.gid), world)
  | .account operation => some (crowdedAccounts.answer operation, world)

theorem visitedRespond_within {thread : DaemonThread} {world next : ServiceWorld}
    {operation : ServiceCall} {answer : ServiceAnswer operation}
    (responded : visitedRespond thread world operation = some (answer, next)) :
    world.Changes (fun other => other = crowdedAccounts) thread operation answer next := by
  cases operation with
  | peerCredentials =>
      obtain ⟨rfl, rfl⟩ := Prod.mk.inj (Option.some.inj responded)
      refine ⟨rfl, fun uid gid told => ?_⟩
      obtain ⟨⟨index, connection⟩, own, same⟩ := Option.map_eq_some_iff.mp told
      obtain ⟨rfl, rfl⟩ := Prod.mk.inj same
      exact ⟨index, connection.closed, own⟩
  | account operation =>
      obtain ⟨rfl, rfl⟩ := Prod.mk.inj (Option.some.inj responded)
      exact ⟨rfl, crowdedAccounts, rfl, crowdedAccounts.answers_answer operation⟩
  | daemon operation =>
      obtain ⟨reply, answered, same⟩ := Option.map_eq_some_iff.mp responded
      obtain ⟨rfl, rfl⟩ := Prod.mk.inj same
      cases operation with
      | acceptClient =>
          obtain rfl := Option.some.inj answered
          exact ⟨1000, 1000, rfl⟩
      | createWorker =>
          obtain rfl := Option.some.inj answered
          exact ⟨rfl, rfl⟩
      | _ => rfl

/-- One client comes, is admitted and served, and the daemon ends. -/
def visited : Pool ServiceAnswer DaemonThread ServiceWorld :=
  (serviceStart loggingController 3).play
    (serviceSystem (fun other => other = crowdedAccounts) loggingController) visitedRespond
    (.replicate 12 .main ++ .replicate 10 (.worker 0) ++ .replicate 7 .main)

theorem clients_served_example :
    visited.world.connections = [⟨1000, 1000, 1⟩] ∧
      Authorized (fun other => other = crowdedAccounts) 1000 1000 kAdminGroup := by
  have reaches : Pool.Reaches
      (serviceSystem (fun other => other = crowdedAccounts) loggingController)
      (serviceStart loggingController 3) visited :=
    Pool.reaches_play (fun _ _ _ _ _ => visitedRespond_within) _ _
  have own : visited.world.connection? (.worker 0) = some (0, ⟨1000, 1000, 1⟩) := by
    decide +kernel
  exact ⟨by decide +kernel, (clients_served reaches).2.2.2.2 0 0 ⟨1000, 1000, 1⟩ own⟩

end TunProxy
