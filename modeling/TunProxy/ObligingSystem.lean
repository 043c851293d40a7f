import TunProxy.ProxyWorld

/-!
# A system that can be computed with

The system answers in many ways, and the results hold for all of them.  This is
one way: a machine with one process besides the program, which does what it is
asked to, but for mishaps that are chosen in advance.  Whatever it does is
possible in the world around the proxy manager, so that its runs are runs of
that world.
-/

namespace TunProxy

open ByteText EffectProgram Relation

/-- What goes wrong, and goes wrong every time. -/
structure Mishaps where
  /-- The state file cannot be opened for reading. -/
  unreadable : Bool := false
  /-- The state file cannot be written. -/
  unwritable : Bool := false
  /-- The core outlives every signal. -/
  undying : Bool := false
  /-- The TUN interface outlives the core. -/
  lingering : Bool := false

/-- A system on which one core can be forked at a time. -/
structure Machine where
  state : Option Bytes := none
  core : Option Process := none
  /-- How many cores were forked so far. -/
  forks : Nat := 0
  /-- The start times of the cores whose first record was not saved. -/
  unsaved : List Nat := []
  tun : Bool := false
  observedAbsent : Bool := false

namespace Machine

def corePid : Int := 100

def processes (machine : Machine) (pid : Int) : Option Process :=
  if pid = corePid then machine.core else none

/-- The world that the machine is in. -/
def world (machine : Machine) : World where
  state := machine.state
  processes := machine.processes
  used pid ticks := pid = corePid ∧ ticks ≤ machine.forks
  pending pid ticks := pid = corePid ∧ ticks ∈ machine.unsaved
  tun := machine.tun
  observedAbsent := machine.observedAbsent = true

def coreAlive (machine : Machine) : Bool :=
  machine.core.any fun process => process.core && process.alive

/-- What the state file records. -/
def recorded (machine : Machine) : Result RuntimeState :=
  parseState (machine.state.elim (.error (makeError .generic [])) .ok)

/-- The state file identifies the core, and the core is alive. -/
def coreServes (machine : Machine) : Bool :=
  match machine.recorded, machine.core with
  | .ok state, some process =>
      state.pid == corePid && process.ticks == state.startTicks && process.core && process.alive
  | _, _ => false

/-! ## Answers -/

/-- The 22 fields of a process, of which only the start time matters. -/
def statText (ticks : Nat) : Bytes :=
  ascii "100 (sing-box) " ++
    ((List.replicate 19 (ascii "0")).flatMap (fun word => word ++ [32]) ++ formatNat ticks)

def textFile (mishaps : Mishaps) (machine : Machine) : TextFile → Result Bytes
  | .config => .ok (ascii "protocol=socks5\nhost=127.0.0.1\nport=10808\n")
  | .state =>
      match machine.state, mishaps.unreadable with
      | some text, false => .ok text
      | _, _ => .error (makeError .generic (ascii "open file"))
  | .tunSysfs => .ok (ascii "10:200")
  | .processStat pid =>
      match machine.processes pid with
      | some process => .ok (statText process.ticks)
      | none => .error (makeError .generic (ascii "open file"))

/-- The cores whose first record is still to be saved after a text was. -/
def stillUnsaved (machine : Machine) (contents : Bytes) : List Nat :=
  match parseState (.ok contents) with
  | .ok state => machine.unsaved.filter fun ticks =>
      ¬ (state.pid = corePid ∧ state.startTicks = ticks)
  | .error _ => machine.unsaved

def fileStatus (path : Path) : FileStatus where
  kind :=
    if path = defaultPaths.tunDevice then .characterDevice
    else if path = shippedSetup.corePath ∨ path = shippedSetup.licensePath then .regular
    else .directory
  owner := 0
  size := kSingBoxRelease.binarySize

def toolOutput (command : UtilityCommand) : ProcessOutput where
  exitCode := 0
  stdoutText :=
    match command.tool with
    | .sha256sum path =>
        (if path = shippedSetup.licensePath then kSingBoxRelease.licenseSha256
          else kSingBoxRelease.binarySha256) ++ ascii "  " ++ path.text
    | .coreVersion _ =>
        shippedSetup.expectedVersion ++ ascii "\n" ++ shippedSetup.expectedRevision
    | _ => []

theorem length_localhost :
    ([127, 0, 0, 1] : Bytes).length = AddressPrefix.AddressFamily.inet.size :=
  rfl

def localhost : SocketAddress :=
  .ip ⟨.inet, [127, 0, 0, 1], length_localhost⟩

/-- How a signal is answered: it ends the core that is not undying. -/
def signalled (mishaps : Mishaps) (machine : Machine) (pid : Int) (signal : Signal) :
    KillAnswer × Machine :=
  match machine.processes pid with
  | none => (.noProcess, machine)
  | some process =>
      if signal = .null ∨ mishaps.undying then (.delivered, machine)
      else (.delivered, { machine with core := some { process with alive := false } })

/-- How waiting is answered.  Waiting for a core that lives on has no answer. -/
def waited (machine : Machine) (pid : Int) (option : WaitOption) :
    Option (WaitAnswer × Machine) :=
  match machine.processes pid with
  | none => some (.noChild, machine)
  | some process =>
      if process.child = false then some (.noChild, machine)
      else if process.alive = false then
        some (.reaped (.signaled 15), { machine with core := none })
      else if option = .noHang then some (.running, machine)
      else none

/-- A fork succeeds where the one other process is gone. -/
def forked (machine : Machine) (executable : Path) : Option (Except Bytes Int × Machine) :=
  if machine.core = none ∧ machine.forks + 1 < 2 ^ 63 then
    some (.ok corePid, { machine with
      core := some {
        ticks := machine.forks + 1
        executable := executable.text
        executed := false
        core := true
        child := true
        alive := true
        doomed := none }
      forks := machine.forks + 1
      unsaved := (machine.forks + 1) :: machine.unsaved
      observedAbsent := false })
  else none

/-- The core has executed its program when the handshake ends. -/
def executed (machine : Machine) : Machine :=
  { machine with core := machine.core.map fun process => { process with executed := true } }

/-- Whether the TUN is there: the core brings it up. -/
def tunPresent (mishaps : Mishaps) (machine : Machine) : Bool :=
  machine.coreAlive || mishaps.lingering && machine.tun

def respond (mishaps : Mishaps) : Responder SystemAnswer Machine := fun machine call =>
  match call with
  | .readTextFile file => some (machine.textFile mishaps file, machine)
  | .writeFileAtomic .state contents _ =>
      if mishaps.unwritable then
        some (.error (makeError .generic (ascii "create temporary file")), machine)
      else some (.ok (), { machine with
        state := some contents, unsaved := machine.stillUnsaved contents })
  | .writeFileAtomic .coreConfig _ _ | .writeFileAtomic .config _ _ => some (.ok (), machine)
  | .removeFile .state => some (.removed, { machine with state := none })
  | .removeFile .coreConfig | .removeFile .config => some (.removed, machine)
  | .kill pid signal => some (machine.signalled mishaps pid signal)
  | .waitpid pid option => machine.waited pid option
  | .readExecutableLink pid => some ((machine.processes pid).elim [] fun process =>
      if process.alive then process.executable else [], machine)
  | .weaklyCanonical path => some (some path, machine)
  | .ifNameToIndex _ => some (machine.tunPresent mishaps, { machine with
      tun := machine.tunPresent mishaps
      observedAbsent := machine.observedAbsent ||
        !machine.tunPresent mishaps && !machine.coreAlive })
  | .sleepFor _ => some ((), { machine with core := machine.core.map Process.tick })
  | .fork (.core executable _) => machine.forked executable
  | .fork (.utility _) => some (.ok 200, machine)
  | .readHandshake _ => some (.closed, machine.executed)
  | .lstat path => some (.found (fileStatus path), machine)
  | .runCapture command => some (.ok (toolOutput command), machine)
  | .getaddrinfo _ _ => some (.ok [localhost], machine)
  | .exchangeGreeting _ => some (.ok (), machine)
  | .getifaddrs => some (.ok [], machine)
  | .emitLog _ _ => some ((), machine)
  | .steadyClock => some (0, machine)
  | .mkdir _ _ => some (.created, machine)
  | .chmod _ _ => some (.ok (), machine)
  | .mknod _ _ _ => some (.created, machine)
  | .geteuid => some (0, machine)
  | .getpid => some (1, machine)
  | .listDirectory _ => some (some [], machine)
  | .remove _ => some ((), machine)
  | .removeAll _ => some ((), machine)
  | .rename _ _ => some (true, machine)
  | .openCore _ => some (true, machine)
  | .openCoreLog => some (true, machine)
  | .pipe => some (.ok (), machine)
  | .pollHandshake _ => some (true, machine)
  | .setNonBlocking _ => some (.ok (), machine)
  | .readAvailable _ => some ([], machine)
  | .pollOutput => some ((), machine)

end Machine

/-! ## The site -/

theorem plain_shippedSetup : shippedSetup.Plain where
  executable := by decide
  version := by decide
  someVersion := by decide

/-- The program as it is shipped, where every path is canonical. -/
def shippedSite (faults : Faults) : Site where
  setup := shippedSetup
  faults := faults
  canonical := id
  plain := plain_shippedSetup
  canonicalPath := fun _ => id
  plainCore := by decide

/-- The faults of the world allow the mishaps. -/
structure Mishaps.Within (mishaps : Mishaps) (faults : Faults) : Prop where
  records : mishaps.unreadable = true → faults.records = true
  legible : ∀ pid ticks, faults.hidden pid ticks = false
  stubborn : mishaps.undying = true → ∀ hard, faults.stubborn hard = true

namespace Machine

/-- The machine after a start, and after a stop. -/
def started (mishaps : Mishaps) (machine : Machine) : Machine :=
  (follow (respond mishaps) (shippedSetup.start 1) machine).2

def stopped (mishaps : Mishaps) (machine : Machine) : Machine :=
  (follow (respond mishaps) shippedSetup.stop machine).2

/-! ## What the machine does is possible -/

variable {mishaps : Mishaps} {faults : Faults} {machine : Machine}

theorem isSpace_of_isDigit {byte : UInt8} (digit : IsDigit byte) : isSpace byte = false := by
  have low : 48 ≤ byte.toNat := UInt8.le_iff_toNat_le.mp digit.1
  have notBlank : byte ≠ 32 := fun same => by
    rw [same] at low
    exact absurd low (by decide)
  have notSmall : ¬ byte ≤ 13 := fun small => by
    have bound : byte.toNat ≤ 13 := UInt8.le_iff_toNat_le.mp small
    omega
  simp [isSpace, notBlank, notSmall]

/-- The start time is the 22nd field. -/
theorem statText_spec (ticks : Nat) : StatText (statText ticks) ticks := by
  have zeros : ∀ word ∈ List.replicate 19 (ascii "0"),
      word ≠ [] ∧ ∀ byte ∈ word, isSpace byte = false := by
    intro word member
    rw [List.eq_of_mem_replicate member]
    exact ⟨by decide, solid_of_all (by decide)⟩
  have fields := @words_flatMap 32 _ _ (by decide) zeros (formatNat_ne_nil ticks)
    fun byte member => isSpace_of_isDigit (isDigit_of_mem_formatNat member)
  have plain : closeParenthesis ∉
      (List.replicate 19 (ascii "0")).flatMap (fun word => word ++ [32]) ++
      formatNat ticks := by
    intro member
    rcases List.mem_append.mp member with front | back
    · exact absurd front (by decide +kernel)
    · exact notMem_formatNat ticks (show ¬ IsDigit closeParenthesis by decide) back
  exact ⟨_, ⟨ascii "100 (sing-box", _, rfl, plain, fields⟩, rfl⟩

/-- The core may come into a later condition by itself. -/
theorem drifts_core {process later : Process} (present : machine.core = some process)
    (becomes : process.Becomes later) (doomed : later.doomed = process.doomed) :
    Drifts machine.world { machine with core := some later }.world where
  tame := {
    state := rfl
    pending := rfl
    used := fun _ _ => id
    processes := by
      intro pid found after
      simp only [world, processes] at after ⊢
      split at after
      next same =>
        obtain rfl := Option.some.inj after
        exact Or.inl ⟨process, by rw [if_pos same, present], becomes⟩
      · cases after }
  children := by
    intro pid found before _
    simp only [world, processes] at before ⊢
    split at before
    next same =>
      obtain rfl := Option.some.inj (present.symm.trans before)
      exact ⟨later, if_pos same, becomes⟩
    · cases before
  doomed := by
    intro pid found after before changed _
    simp only [world, processes] at before changed
    split at before
    next same =>
      rw [if_pos same] at changed
      obtain rfl := Option.some.inj (present.symm.trans before)
      obtain rfl := Option.some.inj changed
      exact doomed
    · cases before
  observed := rfl

theorem drifts_tun (present : Bool) :
    Drifts machine.world { machine with tun := present }.world where
  tame := ⟨rfl, rfl, fun _ _ => id, fun _ found present => Or.inl ⟨found, present, .refl found⟩⟩
  children := fun _ process found _ => ⟨process, found, .refl process⟩
  doomed := fun _ _ _ before after _ =>
    congrArg Process.doomed (Option.some.inj (after.symm.trans before))
  observed := rfl

theorem noCore_world : NoCore machine.world ↔ machine.coreAlive = false := by
  constructor
  · intro none
    cases present : machine.core with
    | none => simp [coreAlive, present]
    | some process =>
        have dead := none corePid process (by simp [world, processes, present])
        simp only [coreAlive, present, Option.any_some, Bool.and_eq_false_iff]
        by_cases core : process.core = true
        · exact Or.inr (dead core)
        · exact Or.inl (Bool.not_eq_true _ ▸ core)
  · intro none pid process found core
    simp only [world, processes] at found
    split at found
    · simpa [coreAlive, found, core] using none
    · cases found

theorem exists_of_coreAlive (alive : machine.coreAlive = true) :
    ∃ pid process, machine.world.processes pid = some process ∧ process.core = true ∧
      process.alive = true := by
  unfold coreAlive at alive
  cases present : machine.core with
  | none =>
      rw [present] at alive
      cases alive
  | some process =>
      rw [present, Option.any_some, Bool.and_eq_true] at alive
      exact ⟨corePid, process, present, alive⟩

theorem loads_of_recorded {state : RuntimeState} (recorded : machine.recorded = .ok state) :
    Loads machine.world.state state := by
  unfold Machine.recorded at recorded
  cases content : machine.state with
  | none =>
      rw [content] at recorded
      cases recorded
  | some text => exact ⟨text, content, by rwa [content] at recorded⟩

theorem exists_of_coreServes (serves : machine.coreServes = true) :
    ∃ state process, Loads machine.world.state state ∧
      machine.world.processes state.pid = some process ∧ process.ticks = state.startTicks ∧
        process.core = true ∧ process.alive = true := by
  unfold coreServes at serves
  split at serves
  next state process parsed present =>
    simp only [Bool.and_eq_true, beq_iff_eq] at serves
    refine ⟨state, process, loads_of_recorded parsed, ?_, serves.1.1.2, serves.1.2, serves.2⟩
    rw [serves.1.1.1]
    exact present
  · cases serves

/-- Where no first record is missing, none is missing of a core that is alive. -/
theorem settled_of_unsaved (saved : machine.unsaved = []) :
    ∀ pid process, machine.world.processes pid = some process → process.core = true →
      process.alive = true → ¬ machine.world.pending pid process.ticks := by
  intro pid process _ _ _ isPending
  have member : process.ticks ∈ machine.unsaved := isPending.2
  rw [saved] at member
  cases member

theorem processes_eq {pid : Int} {process : Process}
    (found : machine.processes pid = some process) :
    pid = corePid ∧ machine.core = some process := by
  unfold processes at found
  split at found
  next same => exact ⟨same, found⟩
  · cases found

theorem world_setCore (core : Option Process) :
    { machine with core := core }.world = machine.world.setProcess corePid core := by
  simp only [world, World.setProcess, World.mk.injEq, true_and, and_true]
  funext pid
  simp only [processes]
  split <;> rfl

theorem answersRead_textFile (within : mishaps.Within faults) (file : TextFile) :
    (shippedSite faults).AnswersRead machine.world file (machine.textFile mishaps file) := by
  cases file with
  | config => trivial
  | tunSysfs => trivial
  | state =>
      simp only [textFile]
      split
      next text content _ => exact ⟨text, content, Or.inl rfl⟩
      next unread =>
        cases content : machine.state with
        | none => exact Or.inl content
        | some text =>
            refine Or.inr (within.records ?_)
            cases closed : mishaps.unreadable with
            | true => rfl
            | false => exact absurd closed (unread text content)
  | processStat pid =>
      simp only [textFile]
      cases found : machine.processes pid with
      | none => exact Or.inl fun process present => by cases found.symm.trans present
      | some process =>
          exact ⟨process, _, found, within.legible pid process.ticks,
            statText_spec process.ticks, Or.inl rfl⟩

theorem pending_stillUnsaved (contents : Bytes) :
    (fun pid ticks => machine.world.pending pid ticks ∧ ¬ Identifies contents pid ticks) =
      fun pid ticks => pid = corePid ∧ ticks ∈ machine.stillUnsaved contents := by
  funext pid ticks
  refine propext ⟨fun ⟨⟨same, unsaved⟩, unnamed⟩ => ⟨same, ?_⟩, fun ⟨same, remains⟩ => ?_⟩
  · unfold stillUnsaved
    split
    next state parsed =>
      refine List.mem_filter.mpr ⟨unsaved, decide_eq_true fun named => unnamed ?_⟩
      exact ⟨state, parsed, named.1.trans same.symm, named.2⟩
    · exact unsaved
  · unfold stillUnsaved at remains
    split at remains
    next state parsed =>
      obtain ⟨unsaved, unnamed⟩ := List.mem_filter.mp remains
      refine ⟨⟨same, unsaved⟩, fun ⟨other, parsed', pid', ticks'⟩ => ?_⟩
      obtain rfl := Except.ok.inj (parsed.symm.trans parsed')
      exact of_decide_eq_true unnamed ⟨pid'.trans same, ticks'⟩
    next failure parsed =>
      refine ⟨⟨same, remains⟩, fun ⟨other, parsed', _⟩ => ?_⟩
      rw [parsed] at parsed'
      cases parsed'

/-- A signal is answered after the core that it ends has come to its end. -/
theorem answersKill_signalled (within : mishaps.Within faults) (pid : Int) (signal : Signal) :
    ∃ later, (shippedSite faults).around.Drifts machine.world later ∧
      (shippedSite faults).AnswersKill later pid signal (machine.signalled mishaps pid signal).1
        (machine.signalled mishaps pid signal).2.world := by
  unfold signalled Site.AnswersKill
  cases found : machine.processes pid with
  | none =>
      refine ⟨machine.world, .refl, ?_⟩
      have absent : machine.world.processes pid = none := found
      simp only [absent]
      exact ⟨trivial, trivial⟩
  | some process =>
      obtain ⟨rfl, present⟩ := processes_eq found
      by_cases harmless : signal = .null ∨ mishaps.undying = true
      · refine ⟨machine.world, .refl, ?_⟩
        have here : machine.world.processes corePid = some process := found
        simp only [here, if_pos harmless]
        refine Or.inl ⟨trivial, Or.inl ⟨trivial, fun isKill _ => ?_⟩⟩
        rcases harmless with null | undying
        · cases null.symm.trans isKill
        · have stubborn := within.stubborn undying
          by_cases isPending : machine.world.pending corePid process.ticks
          · exact ⟨true, stubborn true, iff_of_true rfl isPending⟩
          · exact ⟨false, stubborn false, iff_of_false Bool.false_ne_true isPending⟩
      · let dead : Process := { process with alive := false }
        have dies : Drifts machine.world { machine with core := some dead }.world :=
          drifts_core present ⟨rfl, rfl, rfl, fun _ => rfl, id, fun alive => by cases alive⟩ rfl
        have here : { machine with core := some dead }.world.processes corePid = some dead := rfl
        refine ⟨_, ReflTransGen.single dies, ?_⟩
        simp only [here, if_neg harmless]
        exact Or.inl ⟨trivial, Or.inl ⟨rfl, fun _ alive => absurd alive Bool.false_ne_true⟩⟩

theorem answersWait_waited {pid : Int} {option : WaitOption} {answer : WaitAnswer}
    {next : Machine} (waits : machine.waited pid option = some (answer, next)) :
    (shippedSite faults).AnswersWait machine.world pid option answer next.world := by
  unfold waited at waits
  cases found : machine.processes pid with
  | none =>
      simp only [found] at waits
      obtain ⟨rfl, rfl⟩ := Prod.mk.inj (Option.some.inj waits)
      refine ⟨fun process present => ?_, rfl⟩
      cases found.symm.trans present
  | some process =>
      obtain ⟨rfl, present⟩ := processes_eq found
      simp only [found] at waits
      split at waits
      next foreign =>
        obtain ⟨rfl, rfl⟩ := Prod.mk.inj (Option.some.inj waits)
        refine ⟨fun other same => ?_, rfl⟩
        obtain rfl := Option.some.inj (found.symm.trans same)
        exact foreign
      next child =>
        split at waits
        next dead =>
          obtain ⟨rfl, rfl⟩ := Prod.mk.inj (Option.some.inj waits)
          exact ⟨⟨process, found, Bool.not_eq_false _ |>.mp child, dead⟩, world_setCore none⟩
        · split at waits
          next noHang =>
            obtain ⟨rfl, rfl⟩ := Prod.mk.inj (Option.some.inj waits)
            exact ⟨noHang, rfl⟩
          · cases waits

theorem answersFork_forked {executable : Path} {arguments : List Bytes}
    {answer : Except Bytes Int} {next : Machine}
    (forks : machine.forked executable = some (answer, next)) :
    (shippedSite faults).AnswersFork machine.world (.core executable arguments) answer
      next.world := by
  unfold forked at forks
  split at forks
  next free =>
    obtain ⟨rfl, rfl⟩ := Prod.mk.inj (Option.some.inj forks)
    have absent : machine.world.processes corePid = none := free.1
    refine ⟨by decide, by decide, absent, machine.forks + 1, by omega, free.2,
      fun used => absurd used.2 (by omega), ?_⟩
    have used : (fun pid ticks => pid = corePid ∧ ticks ≤ machine.forks + 1) = fun pid ticks =>
        pid = corePid ∧ ticks = machine.forks + 1 ∨ pid = corePid ∧ ticks ≤ machine.forks := by
      funext pid ticks
      refine propext ⟨fun ⟨same, most⟩ => ?_, fun holds => ?_⟩
      · rcases Nat.le_succ_iff.mp most with less | last
        · exact Or.inr ⟨same, less⟩
        · exact Or.inl ⟨same, last⟩
      · rcases holds with ⟨same, last⟩ | ⟨same, less⟩
        · exact ⟨same, Nat.le_of_eq last⟩
        · exact ⟨same, Nat.le_succ_of_le less⟩
    have pending : (fun pid ticks => pid = corePid ∧
        ticks ∈ (machine.forks + 1) :: machine.unsaved) = fun pid ticks =>
          pid = corePid ∧ ticks = machine.forks + 1 ∨ pid = corePid ∧ ticks ∈ machine.unsaved := by
      funext pid ticks
      rw [List.mem_cons, and_or_left]
    simp only [world, World.setProcess, used, pending, World.mk.injEq, true_and]
    refine ⟨funext fun pid => ?_, eq_false Bool.false_ne_true⟩
    simp only [processes]
    split <;> rfl
  · cases forks

theorem world_tick : { machine with core := machine.core.map Process.tick }.world =
    machine.world.tick := by
  simp only [world, World.tick, World.mk.injEq, true_and, and_true]
  funext pid
  simp only [processes]
  split <;> rfl

theorem observed_iff (present : Bool) :
    ((machine.observedAbsent || !present && !machine.coreAlive) = true) =
      (machine.observedAbsent = true ∨ present = false ∧ NoCore machine.world) := by
  rw [noCore_world]
  simp

theorem drifts_executed :
    (shippedSite faults).around.Drifts machine.world machine.executed.world := by
  unfold executed
  cases present : machine.core with
  | none =>
      have same : { machine with core := Option.map (fun process : Process =>
          { process with executed := true }) none } = machine := by
        cases machine
        exact congrArg (Machine.mk _ · _ _ _ _) present.symm
      exact same ▸ ReflTransGen.refl
  | some process =>
      exact ReflTransGen.single (drifts_core present
        ⟨rfl, rfl, rfl, fun _ => rfl, fun _ => rfl, id⟩ rfl)

/-- Whatever the machine answers is possible around the program. -/
theorem respond_within (within : mishaps.Within faults) :
    (respond mishaps).Within (shippedSite faults).around world := by
  intro machine call answer next responded
  have atOnce (answers : (shippedSite faults).Answers machine.world call answer next.world) :
      ∃ later, (shippedSite faults).around.Drifts machine.world later ∧
        (shippedSite faults).around.answers later call answer next.world :=
    ⟨machine.world, .refl, answers⟩
  cases call with
  | readTextFile file =>
      obtain ⟨rfl, rfl⟩ := Prod.mk.inj (Option.some.inj responded)
      exact atOnce ⟨answersRead_textFile within file, rfl⟩
  | writeFileAtomic file contents mode =>
      cases file with
      | coreConfig | config =>
          obtain ⟨rfl, rfl⟩ := Prod.mk.inj (Option.some.inj responded)
          exact atOnce rfl
      | state =>
          simp only [respond] at responded
          split at responded
          · obtain ⟨rfl, rfl⟩ := Prod.mk.inj (Option.some.inj responded)
            exact atOnce rfl
          · obtain ⟨rfl, rfl⟩ := Prod.mk.inj (Option.some.inj responded)
            refine atOnce ?_
            simp only [Site.Answers, pending_stillUnsaved]
            rfl
  | removeFile file =>
      cases file with
      | coreConfig | config =>
          obtain ⟨rfl, rfl⟩ := Prod.mk.inj (Option.some.inj responded)
          exact atOnce rfl
      | state =>
          obtain ⟨rfl, rfl⟩ := Prod.mk.inj (Option.some.inj responded)
          exact atOnce rfl
  | kill pid signal =>
      obtain ⟨rfl, rfl⟩ := Prod.mk.inj (Option.some.inj responded)
      exact answersKill_signalled within pid signal
  | waitpid pid option => exact atOnce (answersWait_waited responded)
  | readExecutableLink pid =>
      obtain ⟨rfl, rfl⟩ := Prod.mk.inj (Option.some.inj responded)
      refine atOnce ⟨Or.inr ?_, rfl⟩
      simp only [world]
      cases machine.processes pid with
      | none => rfl
      | some process =>
          cases alive : process.alive with
          | true => simp [alive]
          | false => simp [alive]
  | weaklyCanonical path =>
      obtain ⟨rfl, rfl⟩ := Prod.mk.inj (Option.some.inj responded)
      exact atOnce ⟨Or.inl rfl, rfl⟩
  | ifNameToIndex name =>
      obtain ⟨rfl, rfl⟩ := Prod.mk.inj (Option.some.inj responded)
      refine ⟨_, ReflTransGen.single (drifts_tun (machine.tunPresent mishaps)), Or.inl rfl, ?_⟩
      exact congrArg (World.mk _ _ _ _ _) (observed_iff _)
  | sleepFor milliseconds =>
      obtain ⟨rfl, rfl⟩ := Prod.mk.inj (Option.some.inj responded)
      exact atOnce world_tick
  | fork role =>
      cases role with
      | core executable arguments => exact atOnce (answersFork_forked responded)
      | utility command =>
          obtain ⟨rfl, rfl⟩ := Prod.mk.inj (Option.some.inj responded)
          exact atOnce rfl
  | readHandshake child =>
      obtain ⟨rfl, rfl⟩ := Prod.mk.inj (Option.some.inj responded)
      refine ⟨_, drifts_executed, fun _ process found _ _ => ?_, rfl⟩
      obtain ⟨-, present⟩ := processes_eq found
      obtain ⟨before, -, rfl⟩ := Option.map_eq_some_iff.mp present
      rfl
  | _ =>
      obtain ⟨rfl, rfl⟩ := Prod.mk.inj (Option.some.inj responded)
      exact atOnce rfl

/-- The machine's starts are runs around the program. -/
theorem exists_reaches_ok (within : mishaps.Within faults)
    (succeeds : (follow (respond mishaps) (shippedSetup.start 1) machine).1.outcome? = some true) :
    ∃ status, Reaches (shippedSite faults).around (shippedSetup.start 1, machine.world)
      (.done (.ok status), (machine.started mishaps).world) := by
  obtain ⟨result, done, isOk⟩ := Option.map_eq_some_iff.mp succeeds
  cases result with
  | ok status => exact ⟨status, reaches_of_follow (respond_within within) done⟩
  | error failure => cases isOk

theorem exists_reaches_error (within : mishaps.Within faults)
    (fails : (follow (respond mishaps) (shippedSetup.start 1) machine).1.outcome? = some false) :
    ∃ failure, Reaches (shippedSite faults).around (shippedSetup.start 1, machine.world)
      (.done (.error failure), (machine.started mishaps).world) := by
  obtain ⟨result, done, isOk⟩ := Option.map_eq_some_iff.mp fails
  cases result with
  | ok status => cases isOk
  | error failure => exact ⟨failure, reaches_of_follow (respond_within within) done⟩

/-- The machine's stops are runs around the program. -/
theorem reaches_stopped {result : Result Unit} (within : mishaps.Within faults)
    (stops : (follow (respond mishaps) shippedSetup.stop machine).1.result? = some result) :
    Reaches (shippedSite faults).around (shippedSetup.stop, machine.world)
      (.done result, (machine.stopped mishaps).world) :=
  reaches_of_follow (respond_within within) stops

/-- A stop that cannot read the state file only removes it. -/
theorem follow_stop_unreadable (machine : Machine) :
    follow (respond { unreadable := true }) shippedSetup.stop machine =
      (.done (.ok ()), { machine with state := none }) := by
  obtain ⟨state, core, forks, unsaved, tun, observedAbsent⟩ := machine
  cases state with
  | none => rfl
  | some text => rfl

/-- A start succeeds where nothing goes wrong: the core it has started is
recorded and alive. -/
theorem started_empty :
    (follow (respond {}) (shippedSetup.start 1) {}).1.outcome? = some true ∧
      (started {} {}).unsaved = [] ∧ (started {} {}).coreServes = true := by
  decide +kernel

end Machine

end TunProxy
