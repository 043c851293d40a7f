import TunProxy.EffectProgramSafety
import TunProxy.ProxyManager

/-!
# What the parts of a start call

Preparing a start, checking and repairing the core and waiting for the TUN
neither signal nor wait for a process, fork nothing and leave the state file
as it is.  Looking after a core only looks, waits and signals.
-/

namespace TunProxy

open ByteText EffectProgram

/-- Calls that touch neither a process nor the state file. -/
def Harmless : SystemCall → Prop
  | .writeFileAtomic .state _ _ => False
  | .removeFile .state => False
  | .fork _ => False
  | .kill _ _ => False
  | .waitpid _ _ => False
  | _ => True

/-- Calls that look around, wait and make what is missing, as a start is
prepared. -/
def Prepares : SystemCall → Prop
  | .readTextFile _ => True
  | .sleepFor _ => True
  | .ifNameToIndex _ => True
  | .lstat _ => True
  | .mkdir _ _ => True
  | .chmod _ _ => True
  | .mknod _ _ _ => True
  | .getaddrinfo _ _ => True
  | .exchangeGreeting _ => True
  | .getifaddrs => True
  | _ => False

theorem harmless_of_prepares {operation : SystemCall} (prepares : Prepares operation) :
    Harmless operation := by
  cases operation with
  | writeFileAtomic file contents mode => exact prepares.elim
  | removeFile file => exact prepares.elim
  | fork role => exact prepares.elim
  | kill pid signal => exact prepares.elim
  | waitpid pid option => exact prepares.elim
  | _ => trivial

/-! ## Directories and checksums -/

/-- The calls by which the directories on a way are made. -/
def MakesWay (way : Path) : SystemCall → Prop
  | .lstat _ => True
  | .mkdir path _ => path <+: way
  | .chmod _ _ => True
  | _ => False

/-- The calls by which directories are made. -/
def MakesDirectories : SystemCall → Prop
  | .lstat _ => True
  | .mkdir _ _ => True
  | .chmod _ _ => True
  | _ => False

/-- What is looked at after `mkdir`. -/
theorem makesWay_afterCreation {mode : Nat} {next way : Path} {rest : List Bytes}
    (onward : (ensureComponents mode next rest).Calls (MakesWay way)) :
    ((lstat next).bind fun
      | .found status =>
          if status.kind = .directory then ensureComponents mode next rest
          else .done (notRealDirectory
            (ascii "created path component is not a real directory: ") next)
      | _ => .done (notRealDirectory
          (ascii "created path component is not a real directory: ") next)).Calls
      (MakesWay way) := by
  refine ⟨trivial, fun answer => ?_⟩
  cases answer with
  | found status =>
      simp only [done_bind]
      split
      · exact onward
      · trivial
  | failed detail => trivial
  | missing => trivial

theorem makesWay_ensureComponents (mode : Nat) (current : Path) {components : List Bytes}
    {way : Path} (split : current ++ components = way) :
    (ensureComponents mode current components).Calls (MakesWay way) := by
  induction components generalizing current with
  | nil => trivial
  | cons component rest ih =>
      have onward : (current ++ [component]) ++ rest = way := by simpa using split
      unfold ensureComponents
      split
      · trivial
      refine ⟨trivial, fun answer => ?_⟩
      cases answer with
      | found status =>
          simp only [done_bind]
          split
          · exact ih _ onward
          · trivial
      | failed detail => trivial
      | missing =>
          refine ⟨⟨rest, onward⟩, fun made => ?_⟩
          have looked := makesWay_afterCreation (ih (current ++ [component]) onward)
          cases made with
          | failed detail => trivial
          | created => exact looked
          | present => exact looked

theorem makesWay_ensureDirectory (path : Path) (mode : Nat) :
    (ensureDirectory path mode).Calls (MakesWay path) := by
  unfold ensureDirectory
  split
  · trivial
  refine (makesWay_ensureComponents mode [] (List.nil_append path)).andThen fun _ =>
    ⟨trivial, fun answer => ?_⟩
  cases answer with
  | ok done => trivial
  | error detail => trivial

theorem makesDirectories_ensureDirectory (path : Path) (mode : Nat) :
    (ensureDirectory path mode).Calls MakesDirectories := by
  refine (makesWay_ensureDirectory path mode).imp fun operation makes => ?_
  cases operation with
  | lstat path => trivial
  | mkdir path mode => trivial
  | chmod path mode => trivial
  | _ => exact makes.elim

theorem prepares_ensureDirectory (path : Path) (mode : Nat) :
    (ensureDirectory path mode).Calls Prepares := by
  refine (makesDirectories_ensureDirectory path mode).imp fun call makes => ?_
  cases call with
  | lstat path => trivial
  | mkdir path mode => trivial
  | chmod path mode => trivial
  | _ => exact makes.elim

theorem harmless_ensureDirectory (path : Path) (mode : Nat) :
    (ensureDirectory path mode).Calls Harmless :=
  (prepares_ensureDirectory path mode).imp fun _ => harmless_of_prepares

/-- The calls by which files are inspected. -/
def Inspects : SystemCall → Prop
  | .lstat _ => True
  | .geteuid => True
  | .runCapture command =>
      match command.tool with
      | .sha256sum _ => True
      | .coreVersion _ => True
      | _ => False
  | _ => False

theorem harmless_of_inspects {operation : SystemCall} (inspects : Inspects operation) :
    Harmless operation := by
  cases operation with
  | writeFileAtomic file contents mode => exact inspects.elim
  | removeFile file => exact inspects.elim
  | fork role => exact inspects.elim
  | kill pid signal => exact inspects.elim
  | waitpid pid option => exact inspects.elim
  | _ => trivial

theorem inspects_sha256File (path : Path) (sha256sum : Bytes) :
    (sha256File path sha256sum).Calls Inspects := by
  refine Calls.andThen ⟨trivial, fun _ => trivial⟩ fun output => ?_
  split
  · trivial
  · trivial

/-! ## The core manager -/

theorem inspects_regularFileSize (path : Path) : (regularFileSize path).Calls Inspects := by
  refine ⟨trivial, fun answer => ?_⟩
  cases answer with
  | found status =>
      simp only [done_bind]
      split
      · trivial
      split
      · refine ⟨trivial, fun user => ?_⟩
        simp only [done_bind]
        split
        · trivial
        · trivial
      · trivial
  | failed detail => trivial
  | missing => trivial

theorem harmless_removeStaleEntries (directory : Path) (namePrefix : Bytes) (expected : FileKind)
    (names : List Bytes) :
    (removeStaleEntries directory namePrefix expected names).Calls Harmless := by
  induction names with
  | nil => trivial
  | cons name rest ih =>
      unfold removeStaleEntries
      split
      · exact ih
      refine ⟨trivial, fun answer => ?_⟩
      cases answer with
      | found status =>
          simp only [done_bind]
          split
          · exact ih
          split
          · exact ⟨trivial, fun _ => ih⟩
          · exact ⟨trivial, fun _ => ih⟩
      | failed detail => exact ih
      | missing => exact ih

theorem harmless_removeStaleArtifacts (directory : Path) (namePrefix : Bytes)
    (expected : FileKind) :
    (removeStaleArtifacts directory namePrefix expected).Calls Harmless := by
  refine ⟨trivial, fun answer => ?_⟩
  cases answer with
  | none => trivial
  | some names => exact harmless_removeStaleEntries directory namePrefix expected names

namespace Setup

variable (setup : Setup)

/-! ### Verifying -/

theorem inspects_verifyVersion (executable : Path) :
    (setup.verifyVersion executable).Calls Inspects := by
  refine ⟨trivial, fun version => ?_⟩
  cases version with
  | error failure => trivial
  | ok output =>
      simp only [done_bind]
      split
      · trivial
      split
      · trivial
      · trivial

theorem inspects_verifyCandidate (executable : Path) :
    (setup.verifyCandidate executable).Calls Inspects := by
  refine (inspects_regularFileSize executable).bind fun size => ?_
  split
  · trivial
  refine (inspects_sha256File executable _).bind fun hash => ?_
  split
  · trivial
  · exact setup.inspects_verifyVersion executable

theorem inspects_verifyInstalledCore : setup.verifyInstalledCore.Calls Inspects := by
  refine (inspects_sha256File _ _).bind fun licenseHash => ?_
  split
  · trivial
  · exact setup.inspects_verifyCandidate _

/-! ### Repairing -/

/-- The calls of a repair between the making of its staging tree and the removal of
its temporary trees: only the archive is removed, and files are moved from the
staging tree to the installed ones. -/
def Stages (archive staging : Path) : SystemCall → Prop
  | .lstat _ => True
  | .geteuid => True
  | .chmod _ _ => True
  | .emitLog _ _ => True
  | .sleepFor _ => True
  | .remove path => path = archive
  | .rename source destination => (∃ name, source = staging ++ [name]) ∧
      (destination = setup.corePath ∨ destination = setup.licensePath)
  | .runCapture command =>
      match command.tool with
      | .sha256sum _ => True
      | .coreVersion _ => True
      | .curl output => output = archive
      | .tar _ directory => directory = staging
      | .coreCheck _ => False
  | _ => False

section Stages

variable {setup} {archive staging : Path}

theorem harmless_of_stages {operation : SystemCall}
    (stages : setup.Stages archive staging operation) :
    Harmless operation := by
  cases operation with
  | writeFileAtomic file contents mode => exact stages.elim
  | removeFile file => exact stages.elim
  | fork role => exact stages.elim
  | kill pid signal => exact stages.elim
  | waitpid pid option => exact stages.elim
  | _ => trivial

theorem stages_of_inspects {operation : SystemCall} (inspects : Inspects operation) :
    setup.Stages archive staging operation := by
  cases operation with
  | lstat path => trivial
  | geteuid => trivial
  | runCapture command =>
      obtain ⟨tool, arguments, timeout, progress⟩ := command
      cases tool with
      | sha256sum path => trivial
      | coreVersion executable => trivial
      | curl archive => exact inspects.elim
      | tar archive staging => exact inspects.elim
      | coreCheck executable => exact inspects.elim
  | _ => exact inspects.elim

theorem stages_inspection {α : Type} {program : System α} (inspects : program.Calls Inspects) :
    program.Calls (setup.Stages archive staging) :=
  inspects.imp fun _ => stages_of_inspects

theorem stages_downloadLoop (remaining attempt : Nat) (last : Result ProcessOutput) :
    (setup.downloadLoop archive remaining attempt last).Calls (setup.Stages archive staging) := by
  induction remaining generalizing attempt last with
  | zero => trivial
  | succ remaining ih =>
      refine ⟨trivial, fun _ => ⟨rfl, fun _ => ⟨rfl, fun download => ⟨trivial, fun _ => ?_⟩⟩⟩⟩
      simp only [done_bind]
      split
      · trivial
      refine ⟨trivial, fun _ => ?_⟩
      simp only [done_bind]
      refine Calls.bind ?_ fun _ => ih _ _
      split
      · exact ⟨trivial, fun _ => trivial⟩
      · trivial

theorem stages_renameReplacing (name : Bytes) {destination : Path}
    (place : destination = setup.corePath ∨ destination = setup.licensePath) :
    (renameReplacing (staging ++ [name]) destination).Calls (setup.Stages archive staging) := by
  refine ⟨⟨⟨name, rfl⟩, place⟩, fun renamed => ?_⟩
  cases renamed with
  | false => trivial
  | true => trivial

theorem stages_installStaged :
    (setup.installStaged staging).Calls (setup.Stages archive staging) := by
  refine (stages_inspection (inspects_sha256File _ _)).bind fun licenseHash => ?_
  split
  · trivial
  refine (stages_renameReplacing _ (.inr rfl)).andThen fun _ => ?_
  refine (stages_renameReplacing _ (.inl rfl)).andThen fun _ => ?_
  exact ⟨trivial, fun _ => stages_inspection setup.inspects_verifyInstalledCore⟩

theorem stages_extractAndInstall :
    (setup.extractAndInstall archive staging).Calls (setup.Stages archive staging) := by
  refine ⟨rfl, fun extract => ?_⟩
  simp only [done_bind]
  split
  · trivial
  refine ⟨trivial, fun changed => ?_⟩
  cases changed with
  | error detail => trivial
  | ok done =>
      refine (stages_inspection (setup.inspects_verifyCandidate _)).andThen fun _ => ?_
      exact stages_installStaged

theorem stages_repairStaged :
    (setup.repairStaged archive staging).Calls (setup.Stages archive staging) := by
  refine (stages_downloadLoop _ _ _).bind fun download => ?_
  split
  · trivial
  refine (stages_inspection (inspects_regularFileSize archive)).bind fun archiveSize => ?_
  split
  · trivial
  refine (stages_inspection (inspects_sha256File archive _)).bind fun archiveHash => ?_
  split
  · trivial
  · exact stages_extractAndInstall

end Stages

theorem harmless_repairInStaging : setup.repairInStaging.Calls Harmless := by
  refine ⟨trivial, fun process => ⟨trivial, fun made => ?_⟩⟩
  cases made with
  | created =>
      have staged (archive staging : Path) : (setup.repairStaged archive staging).Calls Harmless :=
        stages_repairStaged.imp fun _ => harmless_of_stages
      exact (staged _ _).bind fun _ => ⟨trivial, fun _ => ⟨trivial, fun _ => trivial⟩⟩
  | present => trivial
  | failed detail => trivial

theorem harmless_repairCore : setup.repairCore.Calls Harmless := by
  refine (harmless_ensureDirectory _ _).andThen fun _ => ?_
  refine (harmless_ensureDirectory _ _).andThen fun _ => ?_
  refine (harmless_ensureDirectory _ _).andThen fun _ => ?_
  refine (harmless_removeStaleArtifacts _ _ _).bind fun _ => ?_
  exact (harmless_removeStaleArtifacts _ _ _).bind fun _ => setup.harmless_repairInStaging

theorem harmless_ensureCore : setup.ensureCore.Calls Harmless := by
  refine (setup.inspects_verifyInstalledCore.imp fun _ => harmless_of_inspects).bind
    fun installed => ?_
  cases installed with
  | ok core => trivial
  | error failure => exact ⟨trivial, fun _ => setup.harmless_repairCore⟩

/-! ## The proxy manager -/

/-- The device is made with the numbers that the kernel exposes. -/
theorem prepares_createTunDevice (sysfs : Result Bytes) : Calls Prepares (match sysfs with
    | .error _ => .done (.error (makeError .stateError
        (ascii ("TUN is unavailable: /dev/net/tun is missing and " ++
          "the kernel does not expose tun"))))
    | .ok sysfs =>
        match scanDeviceNumbers sysfs with
        | none => .done (.error (makeError .stateError
            (ascii "invalid kernel TUN device metadata")))
        | some (major, minor) =>
            (ensureDirectory setup.paths.tunDevice.dropLast 0o755).andThen fun _ =>
            (mknod setup.paths.tunDevice major minor).bind fun
              | .failed _ => .done (.error (makeError .stateError
                  (ascii "cannot create /dev/net/tun")))
              | _ => .done (.ok ()) : System (Result Unit)) := by
  cases sysfs with
  | error failure => trivial
  | ok text =>
      simp only
      split
      · trivial
      refine (prepares_ensureDirectory _ _).andThen fun _ => ⟨trivial, fun answer => ?_⟩
      cases answer with
      | created => trivial
      | present => trivial
      | failed detail => trivial

theorem prepares_ensureTunDevice : setup.ensureTunDevice.Calls Prepares := by
  refine ⟨trivial, fun answer => ?_⟩
  cases answer with
  | found status =>
      simp only [done_bind]
      split
      · trivial
      · trivial
  | missing => exact ⟨trivial, fun sysfs => setup.prepares_createTunDevice sysfs⟩
  | failed detail => exact ⟨trivial, fun sysfs => setup.prepares_createTunDevice sysfs⟩

theorem prepares_awaitTunRemoval (code : ErrorCode) :
    (setup.awaitTunRemoval code).Calls Prepares := by
  have polls (attempts : Nat) : (setup.pollTunRemoval attempts).Calls Prepares := by
    induction attempts with
    | zero => trivial
    | succ attempts ih =>
        refine ⟨trivial, fun present => ?_⟩
        cases present with
        | false => trivial
        | true => exact ⟨trivial, fun _ => ih⟩
  refine (polls _).bind fun _ => ⟨trivial, fun present => ?_⟩
  cases present with
  | false => trivial
  | true => trivial

theorem harmless_awaitTunRemoval (code : ErrorCode) :
    (setup.awaitTunRemoval code).Calls Harmless :=
  (setup.prepares_awaitTunRemoval code).imp fun _ => harmless_of_prepares

theorem prepares_probeAddresses (upstream : Upstream) (lastError : Error)
    (addresses : List SocketAddress) :
    (probeAddresses upstream lastError addresses).Calls Prepares := by
  induction addresses generalizing lastError with
  | nil => trivial
  | cons address rest ih =>
      have probed : (probeAddress address).Calls Prepares := by
        refine Calls.andThen ⟨trivial, fun _ => trivial⟩ fun _ => ?_
        cases address with
        | ip found => trivial
        | other => trivial
      refine probed.bind fun result => ?_
      cases result with
      | ok text => trivial
      | error failure => exact ih failure

theorem prepares_resolveAndProbeUpstream (upstream : Upstream) :
    (resolveAndProbeUpstream upstream).Calls Prepares := by
  refine ⟨trivial, fun resolved => ?_⟩
  cases resolved with
  | error detail => trivial
  | ok addresses => exact prepares_probeAddresses upstream _ addresses

theorem harmless_makePlan : setup.makePlan.Calls Harmless := by
  have configured : loadConfig.Calls Prepares := ⟨trivial, fun _ => trivial⟩
  have harmless {β : Type} {program : System β} (prepares : program.Calls Prepares) :
      program.Calls Harmless := prepares.imp fun _ => harmless_of_prepares
  refine (harmless setup.prepares_ensureTunDevice).andThen fun _ => ?_
  refine (harmless configured).andThen fun configured => ?_
  refine (harmless (prepares_resolveAndProbeUpstream configured)).andThen fun resolved => ?_
  refine ⟨trivial, fun interfaces => ?_⟩
  simp only [done_bind]
  split
  · trivial
  refine setup.harmless_ensureCore.andThen fun core => ?_
  exact (harmless_ensureDirectory _ _).andThen fun _ => trivial

end Setup

/-! ## A core and its TUN -/

/-- Calls that look for the process of a core, wait for it and signal it. -/
def Supervises : SystemCall → Prop
  | .readTextFile _ => True
  | .readExecutableLink _ => True
  | .weaklyCanonical _ => True
  | .kill _ _ => True
  | .waitpid _ _ => True
  | .sleepFor _ => True
  | .emitLog _ _ => True
  | _ => False

/-- Calls that also look for the TUN and read the core's handshake. -/
def Attends : SystemCall → Prop
  | .ifNameToIndex _ => True
  | .steadyClock => True
  | .pollHandshake _ => True
  | .readHandshake _ => True
  | operation => Supervises operation

theorem attends_of_supervises {operation : SystemCall} (supervises : Supervises operation) :
    Attends operation := by
  cases operation with
  | ifNameToIndex name => trivial
  | steadyClock => trivial
  | pollHandshake child => trivial
  | readHandshake child => trivial
  | _ => exact supervises

theorem supervises_hasRecordedIdentity (state : RuntimeState) :
    (hasRecordedIdentity state).Calls Supervises := by
  refine Calls.bind ⟨trivial, fun _ => trivial⟩ fun ticks => ?_
  split
  · trivial
  refine Calls.bind ⟨trivial, fun _ => trivial⟩ fun actualExecutable => ?_
  refine Calls.bind ⟨trivial, fun _ => trivial⟩ fun expected => ?_
  split
  · trivial
  · trivial

theorem supervises_isManagedProcessRunning (state : RuntimeState) :
    (isManagedProcessRunning state).Calls Supervises := by
  refine Calls.bind ⟨trivial, fun _ => trivial⟩ fun probe => ?_
  cases probe with
  | delivered => exact supervises_hasRecordedIdentity state
  | notPermitted => exact supervises_hasRecordedIdentity state
  | noProcess => trivial
  | failed => trivial

/-- One look at whether a process has gone. -/
theorem supervises_poll {state : RuntimeState} {rest : System (Option (Result Unit))}
    (onward : rest.Calls Supervises) :
    ((isManagedProcessRunning state).bind fun managed =>
      match managed with
      | .error failure => .done (some (.error failure))
      | .ok false => .done (some (.ok ()))
      | .ok true => (sleepFor kPollInterval).bind fun _ => rest).Calls Supervises := by
  refine (supervises_isManagedProcessRunning state).bind fun managed => ?_
  rcases managed with failure | running
  · trivial
  cases running with
  | false => trivial
  | true => exact ⟨trivial, fun _ => onward⟩

theorem supervises_awaitExit (state : RuntimeState) (attempts : Nat) :
    (awaitExit state attempts).Calls Supervises := by
  induction attempts with
  | zero => trivial
  | succ attempts ih =>
      refine ⟨trivial, fun waited => ?_⟩
      cases waited with
      | reaped status => trivial
      | running => exact supervises_poll ih
      | interrupted => exact supervises_poll ih
      | noChild => exact supervises_poll ih
      | failed => exact supervises_poll ih

theorem supervises_forceStop (state : RuntimeState) : (forceStop state).Calls Supervises := by
  refine (supervises_isManagedProcessRunning state).bind fun managed => ?_
  rcases managed with failure | running
  · trivial
  cases running with
  | false => trivial
  | true =>
      refine ⟨trivial, fun _ => ⟨trivial, fun killed => ?_⟩⟩
      simp only [done_bind]
      split
      · trivial
      refine (supervises_awaitExit state _).bind fun ended => ?_
      cases ended with
      | none => trivial
      | some result => trivial

theorem supervises_terminateCore (state : RuntimeState) :
    (terminateCore state).Calls Supervises := by
  unfold terminateCore
  split
  · trivial
  refine (supervises_isManagedProcessRunning state).bind fun managed => ?_
  rcases managed with failure | running
  · trivial
  cases running with
  | false => trivial
  | true =>
      refine ⟨trivial, fun signalled => ?_⟩
      simp only [done_bind]
      split
      · trivial
      refine (supervises_awaitExit state _).bind fun ended => ?_
      cases ended with
      | none => exact supervises_forceStop state
      | some result => trivial

theorem supervises_discardChild (fuel : Nat) (child : Int) (failure : Error) :
    (Setup.discardChild fuel child failure).Calls Supervises := by
  refine ⟨trivial, fun killed => ?_⟩
  simp only [done_bind]
  split
  · trivial
  have reaps (state : Unit) : (Setup.reapStep child state).Calls Supervises := by
    refine ⟨trivial, fun waited => ?_⟩
    cases waited with
    | _ => trivial
  exact (Calls.iterate reaps fuel ()).bind fun _ => trivial

theorem attends_waitForTun (setup : Setup) (fuel : Nat) (pid : Int) (timeout : Nat) :
    (setup.waitForTun fuel pid timeout).Calls Attends := by
  have looks (started : Nat) (lastReported : Int) :
      (setup.lookForTun started timeout lastReported).Calls Attends := by
    refine ⟨trivial, fun present => ?_⟩
    simp only [done_bind]
    split
    · trivial
    refine ⟨trivial, fun later => ?_⟩
    simp only [done_bind]
    split
    · exact ⟨trivial, fun _ => ⟨trivial, fun _ => trivial⟩⟩
    · exact ⟨trivial, fun _ => trivial⟩
  have steps (started : Nat) (lastReported : Int) :
      (setup.waitForTunStep pid started timeout lastReported).Calls Attends := by
    refine ⟨trivial, fun now => ?_⟩
    simp only [done_bind]
    split
    · trivial
    refine ⟨trivial, fun waited => ?_⟩
    cases waited with
    | reaped status => trivial
    | failed => trivial
    | running => exact looks started lastReported
    | interrupted => exact looks started lastReported
    | noChild => exact looks started lastReported
  exact ⟨trivial, fun started => Calls.iterate (steps started) fuel _⟩

theorem attends_awaitExec (child : Int) : (Setup.awaitExec child).Calls Attends := by
  refine ⟨trivial, fun ready => ?_⟩
  simp only [done_bind]
  split
  · exact ⟨trivial, fun _ => ⟨trivial, fun _ => trivial⟩⟩
  refine ⟨trivial, fun handshake => ?_⟩
  cases handshake with
  | closed => trivial
  | invalid => exact ⟨trivial, fun _ => trivial⟩
  | execError detail => exact ⟨trivial, fun _ => trivial⟩

end TunProxy
