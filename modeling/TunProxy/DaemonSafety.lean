import TunProxy.DaemonThreads

/-!
# The daemon in every interleaving

What holds of the daemon in every configuration of every run, whatever its
controller does and however many clients there are: operations that change
something exclude each other and are named as long as they are in progress; the
clients are counted, and the cleanup begins when no worker serves one any more;
and when the main thread may go on before a worker has notified it.
-/

namespace TunProxy

open ByteText EffectProgram Relation

/-! ## All threads together -/

theorem daemon_discipline (controller : Controller) :
    (daemonSystem controller).Discipline daemonRely daemonWatch DaemonWorld.Finished where
  others := by
    rintro thread other world operation answer next sound ⟨-, permits⟩ ⟨possible, rfl⟩ different old
    exact ⟨sound.effect permits possible, DaemonWorld.view_effect permits possible different old⟩
  created := by
    rintro thread world operation answer next other program sound ⟨-, permits⟩ ⟨possible, rfl⟩ made
    have sound' := sound.effect permits possible
    cases operation with
    | createWorker =>
        cases answer with
        | error detail => cases made
        | ok index =>
            obtain ⟨rfl, rfl⟩ := Prod.mk.inj (Option.some.inj made)
            obtain rfl : index = world.workers.length := possible
            obtain ⟨rfl, -⟩ := permits
            refine ⟨by simp, (keeps_worker _ ⟨sound', ⟨{}, ?_, rfl⟩, trivial⟩).imp ?_⟩
            · simp [DaemonWorld.view, DaemonWorld.record?, DaemonWorld.effect]
            · rintro - later ⟨-, ⟨found, member, ended⟩, -⟩ record present
              obtain rfl := Option.some.inj (member.symm.trans present)
              exact ended
    | _ => cases made

theorem daemonStart_safe (controller : Controller) (fuel : Nat) :
    (daemonStart controller fuel).AllSafe (daemonSystem controller) daemonRely daemonWatch
      DaemonWorld.Finished := by
  intro thread
  cases thread with
  | main =>
      have main : Keeps controller .main (Mains .accepting) (daemonMain controller fuel)
          fun _ => Mains .left := keeps_daemonMain fuel
      refine (main DaemonWorld.initial ⟨DaemonWorld.sound_initial, rfl⟩).imp ?_
      exact fun _ _ _ record present => nomatch present
  | worker index =>
      have absent : Keeps controller (.worker index) (fun view => view.record = none)
          (.done ()) fun _ view => view.record = none := Keeps.done fun _ => id
      refine (absent DaemonWorld.initial ⟨DaemonWorld.sound_initial, rfl⟩).imp ?_
      rintro - later ⟨-, none⟩ record present
      cases none.symm.trans present

/-- The main thread finds its wait over only when no worker that has counted its
client off has yet to notify. -/
def Undisturbed (_ : DaemonThread) (world : DaemonWorld) (operation : DaemonCall) : Prop :=
  operation = .clientsFinished → world.activeClients = 0 →
    ∀ record ∈ world.workers, record.stage ≠ .countedOff

/-! ## Runs to look at -/

/-- A controller that logs once and succeeds. -/
def loggingController : Controller :=
  fun _ _ => .call (.emitLog .info (ascii "working")) fun _ => .done (.ok (ascii "done"))

/-- Answers for a daemon that is stopped after some clients, all of which send a
request of the same kind; a step that has to wait is not made. -/
def scheduledAnswer (clients : Nat) (command : Command) (world : DaemonWorld) :
    (operation : DaemonCall) → Option (DaemonAnswer operation)
  | .stopRequested => some (world.workers.length = clients)
  | .pollListener => some .ready
  | .acceptClient => some .accepted
  | .authorizeClient => some (true, 1000)
  | .createWorker => some (.ok world.workers.length)
  | .receiveIpcFrame => some (.ok ⟨.request, encodeCommand command, []⟩)
  | .sendIpcFrame _ => some (.ok ())
  | .tryLockOperation _ => some (world.operation == none)
  | .lockActiveName => if world.nameMutex = none then some () else none
  | .readActiveName => some world.activeName
  | .lockClients => if world.clientsMutex = none then some () else none
  | .clientsFinished => some (world.activeClients = 0)
  | .stateFileExists => some false
  | .system _ => none
  | .closeClient | .unlockOperation | .writeActiveName _ | .unlockActiveName | .incrementClients
  | .decrementClients | .unlockClients | .notifyClients | .waitClients | .enterController _
  | .leaveController | .print _ | .closeListener => some ()

def scheduledRespond (clients : Nat) (command : Command) (thread : DaemonThread)
    (world : DaemonWorld) (operation : DaemonCall) :
    Option (DaemonAnswer operation × DaemonWorld) :=
  (scheduledAnswer clients command world operation).map fun answer =>
    (answer, world.effect thread operation answer)

theorem scheduledAnswer_possible {clients : Nat} {command : Command} {world : DaemonWorld}
    {operation : DaemonCall} {answer : DaemonAnswer operation}
    (answered : scheduledAnswer clients command world operation = some answer) :
    world.Possible operation answer := by
  cases operation with
  | createWorker =>
      obtain rfl := Option.some.inj answered
      rfl
  | tryLockOperation command =>
      obtain rfl := Option.some.inj answered
      exact fun free => eq_of_beq free
  | lockActiveName =>
      by_contra held
      simp [scheduledAnswer, show ¬ world.nameMutex = none from held] at answered
  | readActiveName => exact (Option.some.inj answered).symm
  | lockClients =>
      by_contra held
      simp [scheduledAnswer, show ¬ world.clientsMutex = none from held] at answered
  | clientsFinished => exact (Option.some.inj answered).symm
  | _ => trivial

theorem scheduledRespond_within (controller : Controller) {clients : Nat} {command : Command}
    (thread : DaemonThread) (world : DaemonWorld) (operation : DaemonCall)
    (answer : DaemonAnswer operation) (next : DaemonWorld)
    (responded : scheduledRespond clients command thread world operation = some (answer, next)) :
    (daemonSystem controller).answers thread world operation answer next := by
  obtain ⟨found, answered, same⟩ := Option.map_eq_some_iff.mp responded
  obtain ⟨rfl, rfl⟩ := Prod.mk.inj same
  exact ⟨scheduledAnswer_possible answered, rfl⟩

/-- The daemon after a schedule. -/
def scheduled (clients : Nat) (command : Command) (schedule : List DaemonThread) :
    Pool DaemonAnswer DaemonThread DaemonWorld :=
  (daemonStart loggingController 3).play (daemonSystem loggingController)
    (scheduledRespond clients command) schedule

theorem reaches_scheduled (clients : Nat) (command : Command) (schedule : List DaemonThread) :
    Pool.Reaches (daemonSystem loggingController) (daemonStart loggingController 3)
      (scheduled clients command schedule) :=
  Pool.reaches_play (scheduledRespond_within loggingController) _ schedule

/-- The answers of a schedule, but the main thread looks at its wait only when no
worker has yet to notify. -/
def settledRespond (clients : Nat) (command : Command) (thread : DaemonThread)
    (world : DaemonWorld) (operation : DaemonCall) :
    Option (DaemonAnswer operation × DaemonWorld) :=
  match operation with
  | .clientsFinished =>
      if world.workers.all fun record => record.stage ≠ .countedOff then
        scheduledRespond clients command thread world .clientsFinished
      else none
  | other => scheduledRespond clients command thread world other

theorem settledRespond_within (controller : Controller) {clients : Nat} {command : Command}
    (thread : DaemonThread) (world : DaemonWorld) (operation : DaemonCall)
    (answer : DaemonAnswer operation) (next : DaemonWorld)
    (responded : settledRespond clients command thread world operation = some (answer, next)) :
    ((daemonSystem controller).restrict Undisturbed).answers thread world operation
      answer next := by
  cases operation with
  | clientsFinished =>
      simp only [settledRespond, Option.ite_none_right_eq_some] at responded
      obtain ⟨settled, responded⟩ := responded
      refine ⟨scheduledRespond_within controller thread world _ answer next responded, ?_⟩
      intro _ _ record member
      simpa using List.all_eq_true.mp settled record member
  | _ =>
      exact ⟨scheduledRespond_within controller thread world _ answer next responded,
        fun impossible => nomatch impossible⟩

variable {controller : Controller} {fuel : Nat}
variable {pool : Pool DaemonAnswer DaemonThread DaemonWorld}

theorem daemon_safe
    (reaches : Pool.Reaches (daemonSystem controller) (daemonStart controller fuel) pool) :
    pool.AllSafe (daemonSystem controller) daemonRely daemonWatch DaemonWorld.Finished :=
  (daemonStart_safe controller fuel).of_reaches (daemon_discipline controller) reaches

theorem daemon_sound
    (reaches : Pool.Reaches (daemonSystem controller) (daemonStart controller fuel) pool) :
    pool.world.Sound :=
  (daemon_safe reaches .main).holds

/-! ## The operation in progress -/

/-- The protocol of the operation mutex and of the name of the operation in
progress. -/
structure DaemonWorld.OperationProtocol (world : DaemonWorld) : Prop where
  /-- At most one command that changes something is executed. -/
  exclusive : ∀ (first second : Nat) (record record' : WorkerRecord) (command command' : Command),
    world.workers[first]? = some record → world.workers[second]? = some record' →
    record.executing = some command → record'.executing = some command' →
    isMutating command = true → isMutating command' = true → first = second
  /-- It is executed by the worker that holds the mutex for it. -/
  holder : ∀ (index : Nat) record command, world.workers[index]? = some record →
    record.executing = some command → isMutating command = true →
    world.operation = some (.worker index, command)
  named : world.activeName ≠ [] → ∃ index command,
    world.operation = some (.worker index, command) ∧ Names world.activeName command
  unnamed : world.operation = none → world.activeName = []
  /-- A client that is turned away has nothing executed, and is told what was read. -/
  refused : ∀ (index : Nat) record, world.workers[index]? = some record → record.refused = true →
    record.executed = false ∧ ∀ frame ∈ record.sent, ∃ text holder,
      record.seen = some (text, holder) ∧ frame = errorFrame (busyError text)
  /-- What is read names an operation that held the mutex then. -/
  seen : ∀ (index : Nat) record text holder, world.workers[index]? = some record →
    record.seen = some (text, holder) → text ≠ [] →
    ∃ other command, holder = some (.worker other, command) ∧ Names text command

/-- In every configuration of every run the operation mutex protocol is kept. -/
theorem daemon_operationProtocol
    (reaches : Pool.Reaches (daemonSystem controller) (daemonStart controller fuel) pool) :
    pool.world.OperationProtocol := by
  have sound := daemon_sound reaches
  have holder (index : Nat) (record : WorkerRecord) (command : Command)
      (member : pool.world.workers[index]? = some record)
      (executing : record.executing = some command) (mutating : isMutating command = true) :
      pool.world.operation = some (.worker index, command) :=
    ((sound.records index record member).executing command executing).2 mutating
  refine ⟨?_, holder, ?_, ?_, ?_, ?_⟩
  · intro first second record record' command command' member member' executing executing'
      mutating mutating'
    have held := holder first record command member executing mutating
    have held' := holder second record' command' member' executing' mutating'
    rw [held] at held'
    cases held'
    rfl
  · intro named
    obtain ⟨thread, command, held, names⟩ := sound.named named
    obtain ⟨-, index, rfl, -⟩ := sound.owned thread command held
    exact ⟨index, command, held, names⟩
  · intro free
    by_contra named
    obtain ⟨thread, command, held, -⟩ := sound.named named
    rw [free] at held
    cases held
  · intro index record member refused
    obtain ⟨unexecuted, -, sent⟩ := (sound.records index record member).refused refused
    exact ⟨unexecuted, sent⟩
  · intro index record text holder member
    exact (sound.records index record member).seen text holder

/-- Two workers that switch the proxy on: the second is turned away while the
controller works for the first. -/
def conflict : Pool DaemonAnswer DaemonThread DaemonWorld :=
  scheduled 2 .on (.replicate 16 .main ++ .replicate 6 (.worker 0) ++ .replicate 6 (.worker 1))

theorem daemon_operationProtocol_conflict :
    conflict.world.OperationProtocol ∧
      conflict.world.workers.map WorkerRecord.executing = [some .on, none] ∧
      conflict.world.workers.map WorkerRecord.refused = [false, true] :=
  ⟨daemon_operationProtocol (reaches_scheduled _ _ _), by decide +kernel, by decide +kernel⟩

/-! ## The cleanup on shutdown -/

/-- The steps that only the cleanup of the main thread makes there. -/
def DaemonCall.OfCleanup : DaemonCall → Prop
  | .stateFileExists | .enterController _ | .system _ | .leaveController => True
  | _ => False

/-- The main thread is about to make a step of the cleanup. -/
def CleansUp (pool : Pool DaemonAnswer DaemonThread DaemonWorld) : Prop :=
  ∃ operation rest, pool.programs .main = .call operation rest ∧ operation.OfCleanup

/-- A worker's next step is one in the controller, or the call of it. -/
def UsesController (pool : Pool DaemonAnswer DaemonThread DaemonWorld) (index : Nat) : Prop :=
  ∃ operation rest, pool.programs (.worker index) = .call operation rest ∧ operation.OfCleanup

theorem CleansUp.left (cleansUp : CleansUp pool)
    (reaches : Pool.Reaches (daemonSystem controller) (daemonStart controller fuel) pool) :
    pool.world.main = .left := by
  obtain ⟨operation, rest, running, cleanup⟩ := cleansUp
  have permits := ((daemon_safe reaches).permits running).2
  cases operation with
  | stateFileExists => exact permits.2
  | enterController command => exact (permits.resolve_right DaemonWorld.worker_of_main).2
  | system operation => exact (permits.resolve_right DaemonWorld.worker_of_main).2
  | leaveController => exact (permits.resolve_right DaemonWorld.worker_of_main).2
  | _ => exact cleanup.elim

/-- After the wait no worker is created, and the main thread does not go back. -/
theorem DaemonWorld.left_effect {world : DaemonWorld} {thread : DaemonThread}
    {operation : DaemonCall} {answer : DaemonAnswer operation}
    (permits : world.Permits thread operation) (left : world.main = .left) :
    (world.effect thread operation answer).main = .left ∧
      (world.effect thread operation answer).workers.length = world.workers.length := by
  have updated (change : WorkerRecord → WorkerRecord) :
      (world.updateRecord thread change).main = .left ∧
        (world.updateRecord thread change).workers.length = world.workers.length := by
    cases thread with
    | main => exact ⟨left, rfl⟩
    | worker index => exact ⟨left, List.length_modify _ _ _⟩
  cases operation with
  | createWorker => cases permits.2.symm.trans left
  | incrementClients => cases permits.2.1.symm.trans left
  | decrementClients =>
      cases thread with
      | main => cases (permits.2.resolve_right worker_of_main).2.symm.trans left
      | worker index => exact ⟨left, List.length_modify _ _ _⟩
  | tryLockOperation command =>
      cases answer with
      | true => exact ⟨left, rfl⟩
      | false => exact updated _
  | clientsFinished => cases permits.2.1.symm.trans left
  | sendIpcFrame frame => exact updated _
  | closeClient => exact updated _
  | readActiveName => exact updated _
  | notifyClients => exact updated _
  | enterController command => exact updated _
  | leaveController => exact updated _
  | _ => exact ⟨left, rfl⟩

/-- After the wait no worker is counted any more. -/
theorem DaemonWorld.Sound.uncounted {world : DaemonWorld} (sound : world.Sound)
    (left : world.main = .left) {record : WorkerRecord} (member : record ∈ world.workers) :
    record.stage = .countedOff ∨ record.stage = .ended := by
  have count := sound.counted
  have notCounted : world.main ≠ .counted := by
    rw [left]
    decide
  simp only [sound.left left, notCounted, if_false, add_zero] at count
  have none : world.workers.countP WorkerRecord.counted = 0 := by omega
  have uncounted : record.counted ≠ true := List.countP_eq_zero.mp none record member
  cases stage : record.stage with
  | serving => exact absurd (by simp [WorkerRecord.counted, stage]) uncounted
  | closed => exact absurd (by simp [WorkerRecord.counted, stage]) uncounted
  | countedOff => exact .inl rfl
  | ended => exact .inr rfl

/-- After the wait no worker executes anything. -/
theorem DaemonWorld.Sound.idle {world : DaemonWorld} (sound : world.Sound)
    (left : world.main = .left) {index : Nat} {record : WorkerRecord}
    (member : world.workers[index]? = some record) : record.executing = none := by
  cases executing : record.executing with
  | none => rfl
  | some command =>
      have serving := ((sound.records index record member).executing command executing).1
      rcases sound.uncounted left (List.mem_of_getElem? member) with stage | stage <;>
        cases serving.symm.trans stage

/-- The client count in every configuration. -/
structure DaemonWorld.ClientCount (world : DaemonWorld) : Prop where
  nonneg : 0 ≤ world.activeClients
  serving : (world.workers.countP fun record => record.stage = .serving) ≤ world.activeClients
  /-- The main thread may have counted a client that it has not handed over yet. -/
  ended : (∀ record ∈ world.workers, record.stage = .ended) →
    world.activeClients = if world.main = .counted then 1 else 0

theorem DaemonWorld.Sound.clientCount {world : DaemonWorld} (sound : world.Sound) :
    world.ClientCount := by
  have count := sound.counted
  have handed : (0 : Int) ≤ if world.main = .counted then 1 else 0 := by split <;> decide
  refine ⟨by omega, ?_, ?_⟩
  · have some : (world.workers.countP fun record => record.stage = .serving) ≤
        world.workers.countP WorkerRecord.counted :=
      List.countP_mono_left fun record _ serving => by
        simp [WorkerRecord.counted, of_decide_eq_true serving]
    omega
  · intro ended
    have none : world.workers.countP WorkerRecord.counted = 0 :=
      List.countP_eq_zero.mpr fun record member => by
        simp [WorkerRecord.counted, ended record member]
    simpa [none] using count

/-- A worker that has run to its end is recorded so. -/
theorem ended_of_done
    (reaches : Pool.Reaches (daemonSystem controller) (daemonStart controller fuel) pool)
    (done : ∀ index, pool.programs (.worker index) = .done ()) :
    ∀ record ∈ pool.world.workers, record.stage = .ended := by
  intro record member
  obtain ⟨index, found⟩ := List.getElem?_of_mem member
  have safe := daemon_safe reaches (.worker index)
  rw [done index] at safe
  exact safe.result record found

/-- The daemon has left the wait, with a number of workers. -/
def DaemonWorld.LeftWith (count : Nat) (world : DaemonWorld) : Prop :=
  world.main = .left ∧ world.workers.length = count

theorem LeftWith.of_reaches {later : Pool DaemonAnswer DaemonThread DaemonWorld} {count : Nat}
    (reaches : Pool.Reaches (daemonSystem controller) (daemonStart controller fuel) pool)
    (left : pool.world.LeftWith count)
    (further : Pool.Reaches (daemonSystem controller) pool later) :
    later.world.LeftWith count := by
  refine (daemon_safe reaches).invariant (daemon_discipline controller) ?_ left further
  rintro thread world operation answer next - ⟨-, permits⟩ ⟨-, rfl⟩ ⟨left, length⟩
  obtain ⟨left', length'⟩ := DaemonWorld.left_effect permits left
  exact ⟨left', length'.trans length⟩

/-- After the wait no worker makes a step in the controller. -/
theorem not_usesController
    (reaches : Pool.Reaches (daemonSystem controller) (daemonStart controller fuel) pool)
    (left : pool.world.main = .left) (index : Nat) : ¬ UsesController pool index := by
  rintro ⟨operation, rest, running, cleanup⟩
  have sound := daemon_sound reaches
  have permits := ((daemon_safe reaches).permits running).2
  have unserved (worker : pool.world.Worker (.worker index) fun record =>
      record.stage = .serving) : False := by
    obtain ⟨place, record, -, member, serving⟩ := worker
    rcases sound.uncounted left (List.mem_of_getElem? member) with stage | stage <;>
      cases serving.symm.trans stage
  have unexecuted (worker : pool.world.Worker (.worker index) fun record =>
      record.executing.isSome) : False := by
    obtain ⟨place, record, -, member, executing⟩ := worker
    rw [sound.idle left member] at executing
    cases executing
  cases operation with
  | stateFileExists => cases permits.1
  | enterController command =>
      obtain ⟨place, record, same, member, serving, -⟩ := permits.resolve_left (by simp)
      exact unserved ⟨place, record, same, member, serving⟩
  | system operation => exact unexecuted (permits.resolve_left (by simp))
  | leaveController => exact unexecuted (permits.resolve_left (by simp))
  | _ => exact cleanup

/-- The clients are counted rightly in every configuration, and from the moment
the cleanup begins no worker executes a command, makes a step in the controller
or is created. -/
theorem daemon_shutdown
    (reaches : Pool.Reaches (daemonSystem controller) (daemonStart controller fuel) pool) :
    pool.world.ClientCount ∧
    ((∀ index, pool.programs (.worker index) = .done ()) → pool.world.main ≠ .counted →
      pool.world.activeClients = 0) ∧
    (CleansUp pool → ∀ later, Pool.Reaches (daemonSystem controller) pool later →
      later.world.workers.length = pool.world.workers.length ∧
      ∀ index, ¬ UsesController later index ∧
        ∀ record, later.world.workers[index]? = some record → record.executing = none) := by
  have count := (daemon_sound reaches).clientCount
  refine ⟨count, ?_, ?_⟩
  · intro done uncounted
    rw [count.ended (ended_of_done reaches done), if_neg uncounted]
  · intro cleansUp later further
    have leftWith := LeftWith.of_reaches reaches ⟨cleansUp.left reaches, rfl⟩ further
    have reachesLater := reaches.trans further
    refine ⟨leftWith.2, fun index => ⟨not_usesController reachesLater leftWith.1 index, ?_⟩⟩
    intro record member
    exact (daemon_sound reachesLater).idle leftWith.1 member

/-- A daemon that has served one client and is about to clean up. -/
def cleaning : Pool DaemonAnswer DaemonThread DaemonWorld :=
  scheduled 1 .on (.replicate 8 .main ++ .replicate 20 (.worker 0) ++ .replicate 4 .main)

theorem daemon_shutdown_example :
    CleansUp cleaning ∧ cleaning.world.ClientCount ∧
      ∀ later, Pool.Reaches (daemonSystem loggingController) cleaning later →
        later.world.workers.length = cleaning.world.workers.length ∧
        ∀ index, ¬ UsesController later index ∧
          ∀ record, later.world.workers[index]? = some record → record.executing = none := by
  have cleansUp : CleansUp cleaning := ⟨_, _, rfl, trivial⟩
  obtain ⟨count, -, after⟩ := daemon_shutdown (reaches_scheduled 1 .on (.replicate 8 .main ++
    .replicate 20 (.worker 0) ++ .replicate 4 .main))
  exact ⟨cleansUp, count, after cleansUp⟩

/-! ## Workers after the shutdown wait -/

/-- The main thread has not left its wait, or every worker has ended. -/
def DaemonWorld.Outlived (world : DaemonWorld) : Prop :=
  world.main = .left → ∀ record ∈ world.workers, record.stage = .ended

/-- A live worker is in the list and has not ended. -/
theorem DaemonWorld.Outlived.not_live {world : DaemonWorld} (outlived : world.Outlived)
    (left : world.main = .left) {index : Nat} : ¬ world.Live (.worker index) := by
  rintro (main | ⟨place, record, -, member, unended⟩)
  · cases main
  · exact unended (outlived left record (List.mem_of_getElem? member))

theorem DaemonWorld.Outlived.effect {world : DaemonWorld} {thread : DaemonThread}
    {operation : DaemonCall} {answer : DaemonAnswer operation} (outlived : world.Outlived)
    (sound : world.Sound) (live : world.Live thread) (permits : world.Permits thread operation)
    (possible : world.Possible operation answer)
    (undisturbed : Undisturbed thread world operation) :
    (world.effect thread operation answer).Outlived := by
  by_cases before : world.main = .left
  · cases thread with
    | worker index => exact absurd live (outlived.not_live before)
    | main =>
        -- after the wait no step of the main thread changes a record
        have ended := outlived before
        cases operation with
        | createWorker => cases permits.2.symm.trans before
        | incrementClients => cases permits.2.1.symm.trans before
        | decrementClients => cases (permits.2.resolve_right worker_of_main).2.symm.trans before
        | clientsFinished => cases permits.2.1.symm.trans before
        | tryLockOperation command =>
            cases answer with
            | true => exact fun _ => ended
            | false => exact fun _ => ended
        | _ => exact fun _ => ended
  · intro after
    cases operation with
    | clientsFinished =>
        cases answer with
        | false => exact absurd after before
        | true =>
            have zero : world.activeClients = 0 := (sound.effect permits possible).left after
            have left : (world.effect thread .clientsFinished true).main = .left := after
            intro record member
            have settled := (sound.effect permits possible).uncounted left member
            exact settled.resolve_left (undisturbed rfl zero record member)
    | createWorker =>
        cases answer with
        | ok index => cases after
        | error detail => exact absurd after before
    | incrementClients => cases after
    | decrementClients =>
        cases thread with
        | main => cases after
        | worker index => exact absurd after before
    | tryLockOperation command =>
        cases answer with
        | true => exact absurd after before
        | false => cases thread <;> exact absurd after before
    | _ => cases thread <;> exact absurd after before

/-- In every run where the main thread leaves its wait only when no worker has
yet to notify, no worker makes a step after that. -/
theorem daemon_outlives_workers
    (reaches : Pool.Reaches ((daemonSystem controller).restrict Undisturbed)
      (daemonStart controller fuel) pool)
    (left : pool.world.main = .left) (index : Nat)
    (next : Pool DaemonAnswer DaemonThread DaemonWorld) :
    ¬ Pool.Moves (daemonSystem controller) (.worker index) pool next := by
  have outlived : pool.world.Outlived := by
    clear left
    induction reaches with
    | refl => exact fun left => nomatch left
    | tail before steps ih =>
        have safe := daemon_safe (Pool.Reaches.of_restrict before)
        obtain ⟨thread, moves⟩ := steps
        cases moves with
        | answer running answers =>
            obtain ⟨⟨possible, rfl⟩, undisturbed⟩ := answers
            obtain ⟨live, permits⟩ := safe.permits running
            exact ih.effect (safe thread).holds live permits possible undisturbed
  intro moves
  cases moves with
  | answer running answers =>
      exact outlived.not_live left ((daemon_safe reaches.of_restrict).permits running).1

/-- One client is served; its worker notifies before the main thread looks. -/
def settled : Pool DaemonAnswer DaemonThread DaemonWorld :=
  (daemonStart loggingController 3).play ((daemonSystem loggingController).restrict Undisturbed)
    (settledRespond 1 .status)
    (.replicate 8 .main ++ .replicate 10 (.worker 0) ++ .replicate 6 .main)

theorem daemon_outlives_workers_example :
    settled.world.main = .left ∧ settled.world.workers.length = 1 ∧
      ∀ next, ¬ Pool.Moves (daemonSystem loggingController) (.worker 0) settled next := by
  have left : settled.world.main = .left := by decide +kernel
  have reaches : Pool.Reaches ((daemonSystem loggingController).restrict Undisturbed)
      (daemonStart loggingController 3) settled :=
    Pool.reaches_play (settledRespond_within loggingController) _ _
  exact ⟨left, by decide +kernel, daemon_outlives_workers reaches left 0⟩

/-- One client is served; the main thread looks between the decrement of its
worker and the notification, and comes to its end. -/
def overtaken : Pool DaemonAnswer DaemonThread DaemonWorld :=
  scheduled 1 .status (.replicate 8 .main ++ .replicate 9 (.worker 0) ++ .replicate 6 .main)

/-- A worker notifies on a condition variable whose owner has returned. -/
theorem worker_notifies_after_main :
    Pool.Reaches (daemonSystem loggingController) (daemonStart loggingController 3) overtaken ∧
      overtaken.world.main = .left ∧ overtaken.programs .main = .done () ∧
      overtaken.programs (.worker 0) = daemonCall .notifyClients ∧
      ∃ next, Pool.Moves (daemonSystem loggingController) (.worker 0) overtaken next := by
  have notifies : overtaken.programs (.worker 0) = daemonCall .notifyClients := rfl
  have answered : (daemonSystem loggingController).answers (.worker 0) overtaken.world
      .notifyClients () (overtaken.world.effect (.worker 0) .notifyClients ()) := ⟨trivial, rfl⟩
  exact ⟨reaches_scheduled _ _ _, by decide +kernel, rfl, notifies, _, .answer notifies answered⟩

end TunProxy
