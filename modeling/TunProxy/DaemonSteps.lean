import Mathlib.Tactic.Ring
import TunProxy.DaemonWorld

/-!
# The steps of the daemon's threads

Every step that a thread is permitted to make keeps the shared state sound and
leaves alone what the other threads know of themselves.
-/

namespace TunProxy

open ByteText EffectProgram

/-! ## Lists of records -/

/-- Changing one entry of a list changes a count by that entry alone. -/
theorem countP_modify {α : Type} {counts : α → Bool} {change : α → α} {entries : List α}
    {index : Nat} {entry : α} (found : entries[index]? = some entry) :
    ((entries.modify index change).countP counts : Int) =
      entries.countP counts - (if counts entry then 1 else 0) +
        (if counts (change entry) then 1 else 0) := by
  induction entries generalizing index with
  | nil => simp at found
  | cons head entries ih =>
      cases index with
      | zero =>
          obtain rfl : head = entry := by simpa using found
          simp only [List.modify_zero_cons, List.countP_cons]
          push_cast
          split <;> split <;> simp_all
      | succ index =>
          have later : entries[index]? = some entry := by simpa using found
          have tail := ih later
          simp only [List.modify_succ_cons, List.countP_cons]
          push_cast
          rw [tail]
          ring

namespace DaemonWorld

variable {world : DaemonWorld}

@[simp] theorem updateRecord_main (change : WorkerRecord → WorkerRecord) :
    world.updateRecord .main change = world := rfl

theorem updateRecord_worker (index : Nat) (change : WorkerRecord → WorkerRecord) :
    world.updateRecord (.worker index) change =
      { world with workers := world.workers.modify index change } := rfl

theorem getElem?_modify_eq_some {change : WorkerRecord → WorkerRecord} {index place : Nat}
    {entries : List WorkerRecord} {later : WorkerRecord}
    (found : (entries.modify index change)[place]? = some later) :
    ∃ record, entries[place]? = some record ∧
      later = if index = place then change record else record := by
  rw [List.getElem?_modify] at found
  simp only [Option.map_eq_map, Option.map_eq_some_iff] at found
  obtain ⟨record, member, same⟩ := found
  refine ⟨record, member, ?_⟩
  split at same <;> simp_all

/-- A change of one record that is still counted or not as before. -/
theorem Sound.updateRecord (sound : world.Sound) (thread : DaemonThread)
    {change : WorkerRecord → WorkerRecord}
    (kept : ∀ index record, thread = .worker index → world.workers[index]? = some record →
      (change record).counted = record.counted ∧
        (record.Sound thread world.operation → (change record).Sound thread world.operation)) :
    (world.updateRecord thread change).Sound := by
  cases thread with
  | main => exact sound
  | worker index =>
      refine ⟨?_, sound.named, ?_, ?_, sound.left⟩
      · intro holder command held
        simpa [updateRecord_worker] using sound.owned holder command held
      · intro place later found
        obtain ⟨record, member, rfl⟩ := getElem?_modify_eq_some found
        have old := sound.records place record member
        split
        next same =>
          subst same
          exact (kept index record rfl member).2 old
        next => exact old
      · simp only [updateRecord_worker]
        rw [sound.counted]
        cases found : world.workers[index]? with
        | none =>
            have same : world.workers.modify index change = world.workers :=
              List.modify_eq_self (List.getElem?_eq_none_iff.mp found)
            rw [same]
            rfl
        | some record =>
            rw [countP_modify found, (kept index record rfl found).1, Int.sub_add_cancel]
            rfl

theorem worker_of_main {holds : WorkerRecord → Prop} : ¬ world.Worker .main holds := by
  rintro ⟨index, record, same, -⟩
  cases same

/-- The record that a permission speaks about. -/
theorem Worker.of_record {holds : WorkerRecord → Prop} {index : Nat} {record : WorkerRecord}
    (worker : world.Worker (.worker index) holds)
    (member : world.workers[index]? = some record) : holds record := by
  obtain ⟨other, found, same, present, held⟩ := worker
  obtain rfl := DaemonThread.worker.inj same
  obtain rfl := Option.some.inj (member.symm.trans present)
  exact held

/-! ## Soundness -/

theorem Sound.createWorker (sound : world.Sound) (counted : world.main = .counted) :
    ({ world with workers := world.workers ++ [{}], main := .accepting } : DaemonWorld).Sound := by
  refine ⟨fun holder command held => ?_, sound.named, fun place record found => ?_, ?_,
    fun impossible => nomatch impossible⟩
  · obtain ⟨mutating, index, worker, old⟩ := sound.owned holder command held
    exact ⟨mutating, index, worker, by simp only [List.length_append]; omega⟩
  · by_cases old : place < world.workers.length
    · rw [List.getElem?_append_left old] at found
      exact sound.records place record found
    · rw [List.getElem?_append_right (Nat.not_lt.mp old)] at found
      obtain rfl : {} = record := by
        simpa using List.mem_of_getElem? found |> List.mem_singleton.mp |> Eq.symm
      exact ⟨fun _ impossible => (nomatch impossible), fun _ _ impossible => (nomatch impossible),
        fun impossible => (nomatch impossible)⟩
  · have count := sound.counted
    simp only [counted, if_true] at count
    simp [count, WorkerRecord.counted]

theorem Sound.releaseOperation (sound : world.Sound) {thread : DaemonThread}
    (permits : world.Permits thread .unlockOperation) :
    ({ world with operation := none } : DaemonWorld).Sound := by
  obtain ⟨index, record, rfl, member, idle, unnamed, command, held⟩ := permits
  refine ⟨fun _ _ impossible => (nomatch impossible), fun named => absurd unnamed named,
    fun place other found => ?_, sound.counted, sound.left⟩
  have old := sound.records place other found
  refine ⟨fun executed executing => ⟨(old.executing executed executing).1, fun mutating => ?_⟩,
    old.seen, old.refused⟩
  have holder := (old.executing executed executing).2 mutating
  rw [held] at holder
  obtain ⟨same, -⟩ := Prod.mk.inj (Option.some.inj holder)
  obtain rfl := DaemonThread.worker.inj same
  obtain rfl := Option.some.inj (member.symm.trans found)
  rw [idle] at executing
  cases executing

/-- A worker counts its client off. -/
theorem Sound.countOff (sound : world.Sound) {index : Nat} {record : WorkerRecord}
    (member : world.workers[index]? = some record) (closed : record.stage = .closed)
    (idle : record.executing = none) :
    ({ world with
      activeClients := world.activeClients - 1
      workers := world.workers.modify index fun record =>
        { record with stage := .countedOff } } : DaemonWorld).Sound := by
  have counted : record.counted = true := by simp [WorkerRecord.counted, closed]
  refine ⟨fun holder command held => ?_, sound.named, fun place later found => ?_, ?_,
    fun left => ?_⟩
  · simpa using sound.owned holder command held
  · obtain ⟨old, oldMember, rfl⟩ := getElem?_modify_eq_some found
    have soundOld := sound.records place old oldMember
    split
    next same =>
      subst same
      obtain rfl := Option.some.inj (member.symm.trans oldMember)
      refine ⟨fun command executing => ?_, soundOld.seen, soundOld.refused⟩
      rw [show record.executing = some command from executing] at idle
      cases idle
    next => exact soundOld
  · have uncounted : WorkerRecord.counted { record with stage := .countedOff } = false := rfl
    simp only [countP_modify member, sound.counted, counted, uncounted, if_true,
      Bool.false_eq_true, if_false]
    ring
  · have none : world.activeClients = 0 := sound.left left
    have some : 0 < world.workers.countP WorkerRecord.counted :=
      List.countP_pos_iff.mpr ⟨record, List.mem_of_getElem? member, counted⟩
    have count := sound.counted
    have notCounted : world.main ≠ .counted := by
      rw [show world.main = .left from left]
      decide
    simp only [none, notCounted, if_false] at count
    omega

/-- A worker that is refused sends nothing else. -/
theorem Sound.send {thread : DaemonThread} {frame : IpcFrame}
    {answer : DaemonAnswer (.sendIpcFrame frame)} (sound : world.Sound)
    (permits : world.Permits thread (.sendIpcFrame frame)) :
    (world.effect thread (.sendIpcFrame frame) answer).Sound := by
  refine sound.updateRecord thread ?_
  rintro index record rfl member
  have told := (permits.resolve_left (by simp)).of_record member
  refine ⟨rfl, fun old => ⟨old.executing, old.seen, fun refused => ?_⟩⟩
  obtain ⟨unexecuted, idle, sent⟩ := old.refused refused
  refine ⟨unexecuted, idle, fun other among => ?_⟩
  rcases List.mem_append.mp among with earlier | last
  · exact sent other earlier
  · obtain rfl := List.mem_singleton.mp last
    exact told refused

/-- The operation mutex is taken only where no one holds it. -/
theorem Sound.takeOperation {thread : DaemonThread} {command : Command} (sound : world.Sound)
    (permits : world.Permits thread (.tryLockOperation command)) (free : world.operation = none) :
    (world.effect thread (.tryLockOperation command) true).Sound := by
  obtain ⟨mutating, tried⟩ := permits
  refine ⟨fun holder owner held => ?_, fun named => ?_, fun place record member => ?_,
    sound.counted, sound.left⟩
  · obtain ⟨rfl, rfl⟩ := Prod.mk.inj (Option.some.inj held)
    obtain ⟨index, record, same, member, -⟩ := tried
    exact ⟨mutating, index, same, (List.getElem?_eq_some_iff.mp member).1⟩
  · obtain ⟨other, owner, held, -⟩ := sound.named named
    rw [free] at held
    cases held
  · have old := sound.records place record member
    refine ⟨fun executed executing => ⟨(old.executing executed executing).1,
      fun mutating => ?_⟩, old.seen, old.refused⟩
    have held := (old.executing executed executing).2 mutating
    rw [free] at held
    cases held

theorem Sound.refuseOperation {thread : DaemonThread} {command : Command} (sound : world.Sound)
    (permits : world.Permits thread (.tryLockOperation command)) :
    (world.effect thread (.tryLockOperation command) false).Sound := by
  obtain ⟨-, tried⟩ := permits
  refine sound.updateRecord thread ?_
  rintro index record rfl member
  obtain ⟨unexecuted, idle, unsent⟩ := tried.of_record member
  refine ⟨rfl, fun old => ⟨old.executing, old.seen, fun _ => ⟨unexecuted, idle, ?_⟩⟩⟩
  intro frame among
  rw [show record.sent = [] from unsent] at among
  cases among

/-- The name that is read is the one of the command that holds the mutex. -/
theorem Sound.readName {thread : DaemonThread} {answer : DaemonAnswer .readActiveName}
    (sound : world.Sound) (permits : world.Permits thread .readActiveName)
    (possible : world.Possible .readActiveName answer) :
    (world.effect thread .readActiveName answer).Sound := by
  refine sound.updateRecord thread ?_
  rintro index record rfl member
  obtain ⟨unsent, -⟩ := Worker.of_record permits member
  obtain rfl : answer = world.activeName := possible
  refine ⟨rfl, fun old => ⟨old.executing, fun text holder seen named => ?_, fun refused => ?_⟩⟩
  · obtain ⟨rfl, rfl⟩ := Prod.mk.inj (Option.some.inj seen)
    obtain ⟨holder, command, held, names⟩ := sound.named named
    obtain ⟨-, place, rfl, -⟩ := sound.owned holder command held
    exact ⟨place, command, held, names⟩
  · obtain ⟨unexecuted, idle, -⟩ := old.refused refused
    refine ⟨unexecuted, idle, fun frame among => ?_⟩
    rw [show record.sent = [] from unsent] at among
    cases among

/-- Every permitted step keeps the shared state sound. -/
theorem Sound.effect {thread : DaemonThread} {operation : DaemonCall}
    {answer : DaemonAnswer operation} (sound : world.Sound)
    (permits : world.Permits thread operation) (possible : world.Possible operation answer) :
    (world.effect thread operation answer).Sound := by
  cases operation with
  | createWorker =>
      cases answer with
      | error detail => exact sound
      | ok index => exact sound.createWorker permits.2
  | sendIpcFrame frame => exact sound.send permits
  | closeClient =>
      refine sound.updateRecord thread ?_
      rintro index record rfl member
      obtain ⟨serving, idle⟩ := (permits.resolve_left (by simp)).of_record member
      refine ⟨by simp [WorkerRecord.counted, serving],
        fun old => ⟨fun command executing => ?_, old.seen, old.refused⟩⟩
      rw [show record.executing = some command from executing] at idle
      cases idle
  | tryLockOperation command =>
      cases answer with
      | true => exact sound.takeOperation permits (possible rfl)
      | false => exact sound.refuseOperation permits
  | unlockOperation => exact sound.releaseOperation permits
  | readActiveName => exact sound.readName permits possible
  | writeActiveName text =>
      obtain ⟨-, command, held, naming⟩ := permits
      exact ⟨sound.owned, fun named => ⟨thread, command, held, naming.resolve_left named⟩,
        sound.records, sound.counted, sound.left⟩
  | incrementClients =>
      obtain ⟨-, accepting, -⟩ := permits
      refine ⟨sound.owned, sound.named, sound.records, ?_, fun impossible => nomatch impossible⟩
      have count := sound.counted
      rw [accepting] at count
      simpa [DaemonWorld.effect] using count
  | decrementClients =>
      cases thread with
      | main =>
          have counted : world.main = .counted :=
            (permits.2.resolve_right worker_of_main).2
          refine ⟨sound.owned, sound.named, sound.records, ?_, fun impossible => nomatch impossible⟩
          have count := sound.counted
          rw [counted] at count
          simp [DaemonWorld.effect, count]
      | worker index =>
          obtain ⟨other, record, same, member, closed, idle⟩ :=
            permits.2.resolve_left (by simp)
          obtain rfl := DaemonThread.worker.inj same
          exact sound.countOff member closed idle
  | notifyClients =>
      refine sound.updateRecord thread ?_
      rintro index record rfl member
      obtain ⟨countedOff, idle⟩ := (permits.resolve_left (by simp)).of_record member
      refine ⟨by simp [WorkerRecord.counted, countedOff],
        fun old => ⟨fun command executing => ?_, old.seen, old.refused⟩⟩
      rw [show record.executing = some command from executing] at idle
      cases idle
  | clientsFinished =>
      obtain ⟨-, accepting, -⟩ := permits
      cases answer with
      | false => exact sound
      | true =>
          have zero : world.activeClients = 0 := by
            have told : true = decide (world.activeClients = 0) := possible
            exact of_decide_eq_true told.symm
          refine ⟨sound.owned, sound.named, sound.records, ?_, fun _ => zero⟩
          have count := sound.counted
          rw [accepting] at count
          simpa [DaemonWorld.effect] using count
  | enterController command =>
      refine sound.updateRecord thread ?_
      rintro index record rfl member
      obtain ⟨serving, -, unrefused, held⟩ := (permits.resolve_left (by simp)).of_record member
      refine ⟨rfl, fun old => ⟨fun executed executing => ?_, old.seen, fun refused => ?_⟩⟩
      · obtain rfl := Option.some.inj executing
        exact ⟨serving, held⟩
      · rw [show record.refused = true from refused] at unrefused
        cases unrefused
  | leaveController =>
      refine sound.updateRecord thread ?_
      rintro index record rfl member
      refine ⟨rfl, fun old => ⟨fun command executing => (nomatch executing), old.seen,
        fun refused => ?_⟩⟩
      obtain ⟨unexecuted, -, sent⟩ := old.refused refused
      exact ⟨unexecuted, rfl, sent⟩
  | _ => exact ⟨sound.owned, sound.named, sound.records, sound.counted, sound.left⟩

/-! ## What other threads see -/

theorem view_updateRecord {thread other : DaemonThread} (change : WorkerRecord → WorkerRecord)
    (different : other ≠ thread) :
    (world.updateRecord thread change).view other = world.view other := by
  cases thread with
  | main => rfl
  | worker index =>
      cases other with
      | main => rfl
      | worker place =>
          have elsewhere : index ≠ place := fun same => different (by rw [same])
          simp [view, record?, updateRecord_worker, elsewhere]

/-- No permitted step changes what another thread knows of itself. -/
theorem view_effect {thread other : DaemonThread} {operation : DaemonCall}
    {answer : DaemonAnswer operation} (permits : world.Permits thread operation)
    (possible : world.Possible operation answer) (different : other ≠ thread)
    {controller : Controller} (existed : ∀ program,
      (daemonSystem controller).creates operation answer ≠ some (other, program)) :
    (world.effect thread operation answer).view other = world.view other := by
  have apart : thread ≠ other := Ne.symm different
  cases operation with
  | createWorker =>
      cases answer with
      | error detail => rfl
      | ok index =>
          obtain rfl : index = world.workers.length := possible
          cases other with
          | main => exact absurd permits.1.symm different
          | worker place =>
              have elsewhere : world.workers.length ≠ place := fun same =>
                existed _ (by rw [← same]; rfl)
              have entry : (world.workers ++ [({} : WorkerRecord)])[place]? =
                  world.workers[place]? := by
                rw [List.getElem?_append]
                split
                next => rfl
                next beyond =>
                  rw [List.getElem?_eq_none_iff.mpr (by simp only [List.length_singleton]; omega),
                    List.getElem?_eq_none_iff.mpr (by omega)]
              simp [effect, view, record?, entry]
  | sendIpcFrame frame => exact view_updateRecord _ different
  | closeClient => exact view_updateRecord _ different
  | tryLockOperation command =>
      cases answer with
      | true =>
          have free : world.operation = none := possible rfl
          simp [effect, view, record?, free, apart]
      | false => exact view_updateRecord _ different
  | unlockOperation =>
      obtain ⟨index, record, rfl, -, -, -, command, held⟩ := permits
      simp [effect, view, record?, held, apart]
  | lockActiveName =>
      have free : world.nameMutex = none := possible
      simp [effect, view, record?, free, apart]
  | readActiveName => exact view_updateRecord _ different
  | writeActiveName text =>
      obtain ⟨-, command, held, -⟩ := permits
      simp [effect, view, record?, held, apart]
  | unlockActiveName =>
      have held : world.nameMutex = some thread := permits
      simp [effect, view, record?, held, apart]
  | lockClients =>
      have free : world.clientsMutex = none := possible
      simp [effect, view, record?, free, apart]
  | incrementClients =>
      obtain ⟨rfl, -, -⟩ := permits
      simp [effect, view, record?, different]
  | decrementClients =>
      cases thread with
      | main => simp [effect, view, record?, different]
      | worker index =>
          cases other with
          | main => rfl
          | worker place =>
              have elsewhere : index ≠ place := fun same => different (by rw [same])
              simp [effect, view, record?, elsewhere]
  | unlockClients =>
      have held : world.clientsMutex = some thread := permits
      simp [effect, view, record?, held, apart]
  | notifyClients => exact view_updateRecord _ different
  | clientsFinished =>
      obtain ⟨rfl, -, -⟩ := permits
      cases answer with
      | false => rfl
      | true => simp [effect, view, record?, different]
  | waitClients =>
      obtain ⟨-, held⟩ := permits
      simp [effect, view, record?, held, apart]
  | enterController command => exact view_updateRecord _ different
  | leaveController => exact view_updateRecord _ different
  | _ => rfl

end DaemonWorld

end TunProxy
