import TunProxy.BypassPolicy
import TunProxy.EffectProgram

/-!
# Calls to the system

The operations through which TunProxy reads and changes what is around it:
text files, processes and signals, the clock, the file tree, the network and
the utilities it runs.  Programs over them are followed step by step, with
every answer that the system may give.
-/

namespace TunProxy

open ByteText EffectProgram

/-! ## Files -/

/-- An absolute path, as its names from the root on. -/
abbrev Path : Type :=
  List Bytes

def Path.text (path : Path) : Bytes :=
  if path.isEmpty then ascii "/" else path.flatMap fun name => slash :: name

/-- The text files that are read whole. -/
inductive TextFile
  | config
  | state
  | tunSysfs
  | processStat (pid : Int)
  deriving DecidableEq, Repr

/-- The files that are written whole, or removed. -/
inductive WrittenFile
  | config
  | state
  | coreConfig
  deriving DecidableEq, Repr

inductive FileKind
  | regular
  | directory
  | symbolicLink
  | characterDevice
  | other
  deriving DecidableEq, Repr

structure FileStatus where
  kind : FileKind
  owner : Nat
  size : Nat
  deriving DecidableEq, Repr

inductive LstatAnswer
  | found (status : FileStatus)
  | missing
  | failed (detail : Bytes)

/-- The outcome of creating something: it may exist already. -/
inductive CreateAnswer
  | created
  | present
  | failed (detail : Bytes)

/-- The outcome of `std::filesystem::remove`: nothing to remove is no error. -/
inductive RemoveAnswer
  | removed
  | absent
  | failed (detail : Bytes)

/-! ## Processes -/

inductive Signal
  | null
  | term
  | kill
  deriving DecidableEq, Repr

inductive KillAnswer
  | delivered
  | noProcess
  | notPermitted
  | failed

inductive WaitOption
  | noHang
  | block
  deriving DecidableEq, Repr

inductive ExitStatus
  | exited (code : Nat)
  | signaled (number : Nat)
  deriving DecidableEq, Repr

inductive WaitAnswer
  | reaped (status : ExitStatus)
  | running
  | interrupted
  | noChild
  | failed

/-- What comes through the pipe that a successful `exec` closes. -/
inductive HandshakeAnswer
  | closed
  | execError (detail : Bytes)
  | invalid

/-- The utilities that are run, with the files they work on. -/
inductive Tool
  | sha256sum (path : Path)
  | curl (archive : Path)
  | tar (archive staging : Path)
  | coreVersion (executable : Path)
  | coreCheck (executable : Path)
  deriving DecidableEq, Repr

structure UtilityCommand where
  tool : Tool
  arguments : List Bytes
  timeout : Nat
  logsProgress : Bool := false

structure ProcessOutput where
  exitCode : Int := -1
  stdoutText : Bytes := []
  stderrText : Bytes := []

inductive ProcessStream
  | stdout
  | stderr
  deriving DecidableEq, Repr

/-- What a forked child goes on to execute. -/
inductive ChildRole
  | core (executable : Path) (arguments : List Bytes)
  | utility (command : UtilityCommand)

/-! ## The calls -/

inductive SystemCall
  | readTextFile (file : TextFile)
  | writeFileAtomic (file : WrittenFile) (contents : Bytes) (mode : Nat)
  | removeFile (file : WrittenFile)
  | emitLog (level : LogLevel) (message : Bytes)
  | sleepFor (milliseconds : Nat)
  | steadyClock
  | kill (pid : Int) (signal : Signal)
  | waitpid (pid : Int) (option : WaitOption)
  | readExecutableLink (pid : Int)
  | weaklyCanonical (path : Bytes)
  | ifNameToIndex (name : Bytes)
  | lstat (path : Path)
  | mkdir (path : Path) (mode : Nat)
  | chmod (path : Path) (mode : Nat)
  | mknod (path : Path) (major minor : Nat)
  | geteuid
  | getpid
  | listDirectory (path : Path)
  | remove (path : Path)
  | removeAll (path : Path)
  | rename (source destination : Path)
  | openCore (path : Path)
  | openCoreLog
  | pipe
  | fork (role : ChildRole)
  | pollHandshake (child : Int)
  | readHandshake (child : Int)
  | getaddrinfo (host service : Bytes)
  | exchangeGreeting (address : SocketAddress)
  | getifaddrs
  | runCapture (command : UtilityCommand)
  | setNonBlocking (stream : ProcessStream)
  | readAvailable (stream : ProcessStream)
  | pollOutput

abbrev SystemAnswer : SystemCall → Type
  | .readTextFile _ => Result Bytes
  | .writeFileAtomic _ _ _ => Result Unit
  | .removeFile _ => RemoveAnswer
  | .emitLog _ _ => Unit
  | .sleepFor _ => Unit
  | .steadyClock => Nat
  | .kill _ _ => KillAnswer
  | .waitpid _ _ => WaitAnswer
  | .readExecutableLink _ => Bytes
  | .weaklyCanonical _ => Option Bytes
  | .ifNameToIndex _ => Bool
  | .lstat _ => LstatAnswer
  | .mkdir _ _ => CreateAnswer
  | .chmod _ _ => Except Bytes Unit
  | .mknod _ _ _ => CreateAnswer
  | .geteuid => Nat
  | .getpid => Nat
  | .listDirectory _ => Option (List Bytes)
  | .remove _ => Unit
  | .removeAll _ => Unit
  | .rename _ _ => Bool
  | .openCore _ => Bool
  | .openCoreLog => Bool
  | .pipe => Except Bytes Unit
  | .fork _ => Except Bytes Int
  | .pollHandshake _ => Bool
  | .readHandshake _ => HandshakeAnswer
  | .getaddrinfo _ _ => Except Bytes (List SocketAddress)
  | .exchangeGreeting _ => Result Unit
  | .getifaddrs => Except Bytes (List InterfaceEntry)
  | .runCapture _ => Result ProcessOutput
  | .setNonBlocking _ => Except Bytes Unit
  | .readAvailable _ => Bytes
  | .pollOutput => Unit

abbrev System (α : Type) : Type :=
  EffectProgram SystemAnswer α

/-! Each call as a program of its own. -/

def readTextFile (file : TextFile) : System (Result Bytes) :=
  .call (.readTextFile file) .done

def writeFileAtomic (file : WrittenFile) (contents : Bytes) (mode : Nat) : System (Result Unit) :=
  .call (.writeFileAtomic file contents mode) .done

def removeFile (file : WrittenFile) : System RemoveAnswer :=
  .call (.removeFile file) .done

def emitLog (level : LogLevel) (message : Bytes) : System Unit :=
  .call (.emitLog level message) .done

def sleepFor (milliseconds : Nat) : System Unit :=
  .call (.sleepFor milliseconds) .done

def steadyClock : System Nat :=
  .call .steadyClock .done

def kill (pid : Int) (signal : Signal) : System KillAnswer :=
  .call (.kill pid signal) .done

def waitpid (pid : Int) (option : WaitOption) : System WaitAnswer :=
  .call (.waitpid pid option) .done

def readExecutableLink (pid : Int) : System Bytes :=
  .call (.readExecutableLink pid) .done

def weaklyCanonical (path : Bytes) : System (Option Bytes) :=
  .call (.weaklyCanonical path) .done

def ifNameToIndex (name : Bytes) : System Bool :=
  .call (.ifNameToIndex name) .done

def lstat (path : Path) : System LstatAnswer :=
  .call (.lstat path) .done

def mkdir (path : Path) (mode : Nat) : System CreateAnswer :=
  .call (.mkdir path mode) .done

def chmod (path : Path) (mode : Nat) : System (Except Bytes Unit) :=
  .call (.chmod path mode) .done

def mknod (path : Path) (major minor : Nat) : System CreateAnswer :=
  .call (.mknod path major minor) .done

def geteuid : System Nat :=
  .call .geteuid .done

def getpid : System Nat :=
  .call .getpid .done

def listDirectory (path : Path) : System (Option (List Bytes)) :=
  .call (.listDirectory path) .done

def remove (path : Path) : System Unit :=
  .call (.remove path) .done

def removeAll (path : Path) : System Unit :=
  .call (.removeAll path) .done

def rename (source destination : Path) : System Bool :=
  .call (.rename source destination) .done

def openCore (path : Path) : System Bool :=
  .call (.openCore path) .done

def openCoreLog : System Bool :=
  .call .openCoreLog .done

def pipe : System (Except Bytes Unit) :=
  .call .pipe .done

def fork (role : ChildRole) : System (Except Bytes Int) :=
  .call (.fork role) .done

def pollHandshake (child : Int) : System Bool :=
  .call (.pollHandshake child) .done

def readHandshake (child : Int) : System HandshakeAnswer :=
  .call (.readHandshake child) .done

def getaddrinfo (host service : Bytes) : System (Except Bytes (List SocketAddress)) :=
  .call (.getaddrinfo host service) .done

def exchangeGreeting (address : SocketAddress) : System (Result Unit) :=
  .call (.exchangeGreeting address) .done

def getifaddrs : System (Except Bytes (List InterfaceEntry)) :=
  .call .getifaddrs .done

def runCapture (command : UtilityCommand) : System (Result ProcessOutput) :=
  .call (.runCapture command) .done

def setNonBlocking (stream : ProcessStream) : System (Except Bytes Unit) :=
  .call (.setNonBlocking stream) .done

def readAvailable (stream : ProcessStream) : System Bytes :=
  .call (.readAvailable stream) .done

def pollOutput : System Unit :=
  .call .pollOutput .done

end TunProxy
