import TunProxy.ExecHandshake

/-!
# The handshake with a new core is sound

The child and the parent are each followed alone, against anything that the
other may do meanwhile, and then both at once.
-/

namespace TunProxy

open ByteText DescriptorTable EffectProgram

namespace ExecHandshake

/-! ## The child by itself -/

namespace Frame

variable {frame : Frame} {start base : Table}

theorem close_readFd (opened : frame.Opened start) :
    Function.update (withOwn start frame.opened) frame.readFd none =
      withOwn start frame.logging := by
  rw [close_withOwn opened.readEnd]
  simp [Frame.opened, Frame.logging, opened.writeRead, opened.readLog.symm, opened.readCore.symm]

theorem close_logFd (opened : frame.Opened start) (free : base frame.logFd = none) :
    Function.update (withOwn base frame.logging) frame.logFd none = withOwn base frame.lasting := by
  rw [close_withOwn free]
  simp [Frame.lasting, Frame.logging, opened.writeLog, opened.logCore.symm]

/-- The standard streams are none of the descriptors that were opened. -/
theorem low_logging (opened : frame.Opened start) {fd : Nat} (low : fd ≤ 2) :
    ∀ entry ∈ frame.logging, entry.1 ≠ fd := by
  have log := opened.high opened.log
  have write := opened.high opened.writeEnd
  have core := opened.high opened.core
  simp only [Frame.logging, List.forall_mem_cons, List.not_mem_nil]
  exact ⟨by omega, by omega, by omega, fun _ impossible => impossible.elim⟩

theorem dup_logFd (opened : frame.Opened start) {fd : Nat} (low : fd ≤ 2) :
    dup (withOwn base frame.logging) frame.logFd fd =
      withOwn (Function.update base fd (some ⟨.log, false⟩)) frame.logging := by
  have log := opened.high opened.log
  have found : withOwn base frame.logging frame.logFd = some ⟨.log, true⟩ := by
    simp [withOwn, Frame.logging, opened.writeLog.symm]
  exact dup_withOwn found (by omega) (low_logging opened low)

/-- What a core is given. -/
theorem onExec_lasting (opened : frame.Opened start) {input : Option Descriptor} :
    onExec (withOwn (Function.update (Function.update (Function.update start 0 input) 1
        (some ⟨.log, false⟩)) 2 (some ⟨.log, false⟩)) frame.lasting) =
      handed start (input.filter fun descriptor => !descriptor.closesOnExec) := by
  have write := opened.high opened.writeEnd
  have core := opened.high opened.core
  have free {fd : Nat} (high : 2 < fd) (isFree : start fd = none) :
      Function.update (Function.update (Function.update start 0 input) 1 (some ⟨.log, false⟩)) 2
        (some ⟨.log, false⟩) fd = none := by
    rw [Function.update_of_ne (by omega), Function.update_of_ne (by omega),
      Function.update_of_ne (by omega), isFree]
  rw [onExec_withOwn]
  · funext fd
    unfold onExec handed
    by_cases zero : fd = 0
    · simp [zero]
    · by_cases one : fd = 1
      · simp [one]
      · by_cases two : fd = 2
        · simp [two]
        · simp [zero, one, two, onExec]
  · simp [Frame.lasting]
  · simp [Frame.lasting, free write opened.writeEnd, free core opened.core]

end Frame

/-- The shared state is sound; and as long as the child is there, it has a table
that it knows, and has told what it had to tell. -/
def ChildKnows (start : Table) (known : Table → Prop) (told : Prop) (world : SpawnWorld) : Prop :=
  world.Sound start ∧ (world.phase = .running → known world.child ∧ (told → world.Told))

/-- A program of the child. -/
def ChildSafe {α : Type} (start : Table) (before : Table → Prop) (told : Prop)
    (program : Spawn α) (after : α → Table → Prop) : Prop :=
  Triple (spawnSystem.around (SpawnWorld.Relies start) .child) (spawnWatch start .child)
    (ChildKnows start before told) program fun value => ChildKnows start (after value) told

section Child

variable {start base : Table} {frame : Frame} {α β : Type} {known : Table → Prop} {told : Prop}

theorem ChildKnows.stable :
    Stable (spawnSystem.around (SpawnWorld.Relies start) .child) (ChildKnows start known told) := by
  rintro world next ⟨-, knows⟩ ⟨sound, relies⟩
  refine ⟨sound, fun running => ?_⟩
  obtain ⟨before, child, tells⟩ := relies running
  obtain ⟨table, wasTold⟩ := knows before
  exact ⟨child ▸ table, fun has => tells (wasTold has)⟩

/-- A call of the child: it is permitted while the child is there, and what it
does to the child's table is known. -/
theorem childCall {operation : SpawnCall} {rest : SpawnAnswer operation → Spawn α}
    {post : α → SpawnWorld → Prop}
    (permitted : ∀ world : SpawnWorld, world.phase = .running → known world.child →
      (told → world.Told) → world.Permits start .child operation)
    (answered : ∀ (world : SpawnWorld) answer next, known world.child → (told → world.Told) →
      next.Sound start → world.ChildActs operation answer next →
      Safe (spawnSystem.around (SpawnWorld.Relies start) .child) (spawnWatch start .child) post
        (rest answer) next) :
    Triple (spawnSystem.around (SpawnWorld.Relies start) .child) (spawnWatch start .child)
      (ChildKnows start known told) (.call operation rest) post := by
  apply Triple.call ChildKnows.stable (fun _ => And.left)
  · rintro world ⟨-, knows⟩ running
    obtain ⟨table, wasTold⟩ := knows running
    exact permitted world running table wasTold running
  · rintro world answer next ⟨sound, knows⟩ acts
    obtain ⟨table, wasTold⟩ := knows acts.1
    have permits := permitted world acts.1 table wasTold
    exact answered world answer next table wasTold
      ((acts.effect sound permits).relies acts.1 sound).1 acts

/-- A call after which another table is known. -/
theorem ChildSafe.call {operation : SpawnCall} {rest : SpawnAnswer operation → Spawn α}
    {between : SpawnAnswer operation → Table → Prop} {after : α → Table → Prop}
    (permitted : ∀ world : SpawnWorld, world.phase = .running → known world.child →
      (told → world.Told) → world.Permits start .child operation)
    (changed : ∀ (world : SpawnWorld) answer next, known world.child →
      world.ChildActs operation answer next → next.phase = .running →
      between answer next.child ∧ (world.Told → next.Told))
    (onward : ∀ answer, ChildSafe start (between answer) told (rest answer) after) :
    ChildSafe start known told (.call operation rest) after := by
  apply childCall permitted
  intro world answer next table wasTold sound acts
  apply onward answer
  refine ⟨sound, fun running => ?_⟩
  obtain ⟨later, tells⟩ := changed world answer next table acts running
  exact ⟨later, fun has => tells (wasTold has)⟩

theorem ChildSafe.done {value : α} {after : α → Table → Prop}
    (implies : ∀ table, known table → after value table) :
    ChildSafe start known told (.done value) after :=
  Triple.done ChildKnows.stable (fun _ => And.left) fun _ knows =>
    ⟨knows.1, fun running => ⟨implies _ (knows.2 running).1, (knows.2 running).2⟩⟩

/-- The child's input is nothing, or that of the parent. -/
def WithInput (start : Table) (own : List (Nat × Descriptor)) (table : Table) : Prop :=
  ∃ input, (input = some ⟨.null, false⟩ ∨ input = start 0) ∧
    table = withOwn (Function.update start 0 input) own

/-- One more descriptor does not hide the writing end. -/
theorem writes_behind {fd : Nat} {descriptor : Descriptor} (free : frame.writeFd ≠ fd) :
    Writes (withOwn base ((fd, descriptor) :: frame.logging)) := by
  refine ⟨frame.writeFd, ⟨.writeEnd, true⟩, ?_, rfl⟩
  have step : withOwn base ((fd, descriptor) :: frame.logging) =
      Function.update (withOwn base frame.logging) fd (some descriptor) := rfl
  rw [step, Function.update_of_ne free]
  exact Function.update_self ..

theorem dup_null (opened : frame.Opened start) {fd : Nat} (high : 2 < fd) :
    dup (withOwn start ((fd, ⟨.null, true⟩) :: frame.logging)) fd 0 =
      withOwn (Function.update start 0 (some ⟨.null, false⟩))
        ((fd, ⟨.null, true⟩) :: frame.logging) := by
  have found : withOwn start ((fd, ⟨.null, true⟩) :: frame.logging) fd = some ⟨.null, true⟩ :=
    Function.update_self ..
  have different : fd ≠ 0 := by omega
  apply dup_withOwn found different
  exact List.forall_mem_cons.mpr ⟨different, Frame.low_logging opened (by decide)⟩

/-- The descriptor of `/dev/null` becomes the standard input. -/
theorem childSafe_dupNull (opened : frame.Opened start) {fd : Nat}
    (free : withOwn start frame.logging fd = none) :
    ChildSafe start (fun table => table = withOwn start ((fd, ⟨.null, true⟩) :: frame.logging))
      False (.call (.dup2 fd 0) fun _ => .call (.close fd) fun _ => .done ())
      fun _ => WithInput start frame.logging := by
  obtain ⟨isFree, others⟩ := free_withOwn.mp free
  have high := opened.high isFree
  have notWrite : frame.writeFd ≠ fd := others _ List.mem_cons_self
  have closed : Function.update (withOwn (Function.update start 0 (some ⟨.null, false⟩))
      ((fd, ⟨.null, true⟩) :: frame.logging)) fd none =
        withOwn (Function.update start 0 (some ⟨.null, false⟩)) frame.logging := by
    have isFree : Function.update start 0 (some ⟨.null, false⟩) fd = none := by
      rw [Function.update_of_ne (by omega), isFree]
    rw [close_withOwn isFree]
    simp only [Frame.logging, List.mem_cons, List.not_mem_nil, or_false, forall_eq_or_imp,
      forall_eq] at others
    simp [Frame.logging, others]
  apply @ChildSafe.call _ _ _ _ _ _ fun _ table =>
    table = withOwn (Function.update start 0 (some ⟨.null, false⟩))
      ((fd, ⟨.null, true⟩) :: frame.logging)
  · intro world _ table _ _
    change Writes (dup world.child fd 0)
    rw [table, dup_null opened high]
    exact writes_behind notWrite
  · rintro world - next table ⟨-, rfl⟩ -
    refine ⟨?_, id⟩
    simp only [table]
    exact dup_null opened high
  · intro _
    apply @ChildSafe.call _ _ _ _ _ _ fun _ => WithInput start frame.logging
    · intro world _ table _ _
      change Writes (Function.update world.child fd none)
      rw [table, closed]
      exact Frame.writes_withOwn
    · rintro world - next table ⟨-, rfl⟩ -
      refine ⟨⟨some ⟨.null, false⟩, Or.inl rfl, ?_⟩, id⟩
      simp only [table]
      exact closed
    · exact fun _ => ChildSafe.done fun _ => id

theorem childSafe_openInput (opened : frame.Opened start) :
    ChildSafe start (fun table => table = withOwn start frame.logging) False openInput
      fun _ => WithInput start frame.logging := by
  apply childCall fun _ _ _ _ _ => trivial
  intro world answer next table _ sound acts
  cases answer with
  | none =>
      obtain rfl : next = world := acts.2
      have kept : ChildSafe start (fun table => table = withOwn start frame.logging) False
          (.done ()) fun _ => WithInput start frame.logging := by
        apply ChildSafe.done
        rintro _ rfl
        exact ⟨start 0, Or.inr rfl, by rw [Function.update_eq_self]⟩
      exact kept next ⟨sound, fun _ => ⟨table, False.elim⟩⟩
  | some fd =>
      obtain ⟨-, free, rfl⟩ := acts
      rw [table] at free
      apply childSafe_dupNull opened free
      refine ⟨sound, fun _ => ⟨?_, False.elim⟩⟩
      simp only [table]
      rfl

/-- The child's output is the log, its errors are not yet. -/
def WithOutput (start : Table) (own : List (Nat × Descriptor)) (table : Table) : Prop :=
  ∃ input, (input = some ⟨.null, false⟩ ∨ input = start 0) ∧
    table = withOwn (Function.update (Function.update start 0 input) 1 (some ⟨.log, false⟩)) own

/-- The table of a child that is about to execute the core. -/
def AboutToExec (start : Table) (own : List (Nat × Descriptor)) (table : Table) : Prop :=
  ∃ input, (input = some ⟨.null, false⟩ ∨ input = start 0) ∧
    table = withOwn (Function.update (Function.update (Function.update start 0 input) 1
      (some ⟨.log, false⟩)) 2 (some ⟨.log, false⟩)) own

/-- The execution of the core, or the error number and the end. -/
theorem childSafe_executeCore (opened : frame.Opened start) :
    ChildSafe start (AboutToExec start frame.lasting) False (executeCore frame)
      fun _ _ => True := by
  apply childCall
  · rintro world running ⟨input, isInput, table⟩ - -
    refine ⟨input.filter fun descriptor => !descriptor.closesOnExec, ?_, ?_⟩
    · rcases isInput with rfl | rfl
      · exact Or.inl rfl
      · exact Or.inr rfl
    · rw [table]
      exact Frame.onExec_lasting opened
  · intro world answer next table _ sound acts
    cases answer with
    | none =>
        have ends : ChildSafe start (fun _ => True) False (.done ()) fun _ _ => True :=
          ChildSafe.done fun _ => id
        exact ends next ⟨sound, fun _ => ⟨trivial, False.elim⟩⟩
    | some number =>
        have tells : ChildSafe start (fun _ => True) True
            (.call (.exit 127) fun _ => .done ()) fun _ _ => True := by
          apply @ChildSafe.call _ _ _ _ _ _ fun _ _ => True
          · exact fun world running _ told _ => told trivial
          · rintro world - next - ⟨-, rfl⟩ impossible
            cases impossible
          · exact fun _ => ChildSafe.done fun _ => id
        have writes : Triple (spawnSystem.around (SpawnWorld.Relies start) .child)
            (spawnWatch start .child) (ChildKnows start (fun _ => True) False)
            (.call (.write frame.writeFd number) fun _ => .call (.exit 127) fun _ => .done ())
            fun _ => ChildKnows start (fun _ => True) True := by
          apply childCall fun _ _ _ _ _ => trivial
          rintro world - next - - sound ⟨-, rfl⟩
          apply tells
          exact ⟨sound, fun _ => ⟨trivial, fun _ => Or.inl (by simp)⟩⟩
        refine (writes next ⟨sound, fun _ => ⟨trivial, False.elim⟩⟩).imp ?_
        exact fun _ _ knows => ⟨knows.1, fun running => ⟨trivial, False.elim⟩⟩

theorem childSafe_childMain (opened : frame.Opened start) :
    ChildSafe start (fun table => table = withOwn start frame.opened) False (childMain frame)
      fun _ _ => True := by
  have closesRead := Frame.close_readFd opened
  apply @ChildSafe.call _ _ _ _ _ _ fun _ table => table = withOwn start frame.logging
  · intro world _ table _ _
    change Writes (Function.update world.child frame.readFd none)
    rw [table, closesRead]
    exact Frame.writes_withOwn
  · rintro world - next table ⟨-, rfl⟩ -
    refine ⟨?_, id⟩
    simp only [table]
    exact closesRead
  intro _
  apply @ChildSafe.call _ _ _ _ _ _ fun _ table => table = withOwn start frame.logging
  · exact fun _ _ _ _ _ => trivial
  · rintro world - next table ⟨-, rfl⟩ -
    exact ⟨table, id⟩
  intro _
  apply Triple.bind (childSafe_openInput opened)
  intro _
  apply @ChildSafe.call _ _ _ _ _ _ fun _ => WithOutput start frame.logging
  · rintro world - ⟨input, -, table⟩ - -
    change Writes (dup world.child frame.logFd 1)
    rw [table, Frame.dup_logFd opened (by decide)]
    exact Frame.writes_withOwn
  · rintro world - next ⟨input, isInput, table⟩ ⟨-, rfl⟩ -
    refine ⟨⟨input, isInput, ?_⟩, id⟩
    simp only [table]
    exact Frame.dup_logFd opened (by decide)
  intro _
  apply @ChildSafe.call _ _ _ _ _ _ fun _ => AboutToExec start frame.logging
  · rintro world - ⟨input, -, table⟩ - -
    change Writes (dup world.child frame.logFd 2)
    rw [table, Frame.dup_logFd opened (by decide)]
    exact Frame.writes_withOwn
  · rintro world - next ⟨input, isInput, table⟩ ⟨-, rfl⟩ -
    refine ⟨⟨input, isInput, ?_⟩, id⟩
    simp only [table]
    exact Frame.dup_logFd opened (by decide)
  intro _
  have high := opened.high opened.log
  have free (input : Option Descriptor) : Function.update (Function.update (Function.update start 0
      input) 1 (some ⟨.log, false⟩)) 2 (some ⟨.log, false⟩) frame.logFd = none := by
    rw [Function.update_of_ne (by omega), Function.update_of_ne (by omega),
      Function.update_of_ne (by omega), opened.log]
  apply @ChildSafe.call _ _ _ _ _ _ fun _ => AboutToExec start frame.lasting
  · rintro world - ⟨input, -, table⟩ - -
    change Writes (Function.update world.child frame.logFd none)
    rw [table, Frame.close_logFd opened (free input)]
    exact Frame.writes_withOwn
  · rintro world - next ⟨input, isInput, table⟩ ⟨-, rfl⟩ -
    refine ⟨⟨input, isInput, ?_⟩, id⟩
    simp only [table]
    exact Frame.close_logFd opened (free input)
  exact fun _ => childSafe_executeCore opened

end Child

/-! ## The parent by itself -/

/-- The parent has not returned, and has the given descriptors beside those it
began with. -/
structure ParentKnows (start : Table) (own : List (Nat × Descriptor)) (more : SpawnWorld → Prop)
    (world : SpawnWorld) : Prop where
  sound : world.Sound start
  running : world.result = none
  table : world.parent = withOwn start own
  more : more world

/-- What the parent runs against. -/
abbrev besideParent (start : Table) : Surroundings SpawnAnswer SpawnWorld :=
  spawnSystem.around (SpawnWorld.Relies start) .parent

/-- Something that the child cannot change. -/
def Kept (start : Table) (more : SpawnWorld → Prop) : Prop :=
  ∀ world next, SpawnWorld.Relies start .parent world next → more world → more next

/-- Something that the child cannot change, and that has nothing to do with the
parent's descriptors. -/
structure Settled (start : Table) (more : SpawnWorld → Prop) : Prop where
  kept : Kept start more
  table : ∀ (world : SpawnWorld) table, more world → more { world with parent := table }

/-- The child is not there yet. -/
def Unborn (world : SpawnWorld) : Prop :=
  world.phase = .unborn

/-- The child was forked, and nothing was read from the pipe. -/
def Unread (world : SpawnWorld) : Prop :=
  world.phase ≠ .unborn ∧ world.consumed = false

section Parent

variable {start : Table} {own : List (Nat × Descriptor)} {more : SpawnWorld → Prop} {α : Type}

theorem settled_unborn : Settled start Unborn where
  kept := by
    rintro world next ⟨-, -, -, -, -, unborn, -⟩ isUnborn
    exact unborn.mpr isUnborn
  table := fun _ _ => id

theorem settled_unread : Settled start Unread where
  kept := by
    rintro world next ⟨-, -, -, consumed, -, unborn, -⟩ ⟨born, unread⟩
    exact ⟨fun impossible => born (unborn.mp impossible), consumed.trans unread⟩
  table := fun _ _ => id

/-- The child does not take back what there is to read. -/
theorem kept_ready : Kept start fun world => Unread world ∧ world.Ready := by
  rintro world next relies ⟨unread, ready⟩
  constructor
  · exact settled_unread.kept world next relies unread
  · obtain ⟨-, -, -, -, -, -, -, -, -, stays⟩ := relies
    exact stays ready

theorem settled_true : Settled start fun _ => True :=
  ⟨fun _ _ _ => id, fun _ _ => id⟩

theorem settled_truthful (result : Result Int) :
    Settled start fun world => world.Truthful result where
  kept := by
    rintro world next ⟨-, -, -, -, neglected, unborn, reaped, executed, killed, -⟩ truthful
    exact truthful.mono executed killed unborn.mpr reaped fun was => neglected.trans was
  table := by
    intro world table truthful
    cases result with
    | ok child => exact truthful
    | error failure => exact truthful

theorem ParentKnows.relies {world next : SpawnWorld} (kept : Kept start more)
    (knows : ParentKnows start own more world)
    (relies : SpawnWorld.Relies start .parent world next) : ParentKnows start own more next where
  sound := relies.1
  running := relies.2.2.1.trans knows.running
  table := relies.2.1.trans knows.table
  more := kept world next relies knows.more

theorem ParentKnows.stable (kept : Kept start more) :
    Stable (besideParent start) (ParentKnows start own more) :=
  fun _ _ knows relies => knows.relies kept relies

/-- A call of the parent, before which the child may have been killed. -/
theorem parentCall (kept : Kept start more) {operation : SpawnCall}
    {rest : SpawnAnswer operation → Spawn α} {post : α → SpawnWorld → Prop}
    (permitted : ∀ world, ParentKnows start own more world →
      world.Permits start .parent operation)
    (answered : ∀ (world : SpawnWorld) answer next, ParentKnows start own more world →
      next.Sound start → world.ParentActs operation answer next →
      Safe (besideParent start) (spawnWatch start .parent) post (rest answer) next) :
    Triple (besideParent start) (spawnWatch start .parent) (ParentKnows start own more)
      (.call operation rest) post := by
  apply Triple.call (ParentKnows.stable kept) (fun _ => ParentKnows.sound) permitted
  rintro world answer next knows ⟨middle, moved, acts⟩
  have known : ParentKnows start own more middle := by
    rcases moved with rfl | rfl
    · exact knows
    · exact knows.relies kept knows.sound.kill
  exact answered middle answer next known
    (acts.effect.sound known.sound (permitted middle known)) acts

/-- A descriptor is closed. -/
theorem parentClose (settled : Settled start more) {fd : Nat} (free : start fd = none)
    {rest : Unit → Spawn α} {post : α → SpawnWorld → Prop}
    (onward : Triple (besideParent start) (spawnWatch start .parent)
      (ParentKnows start (own.filter fun entry => entry.1 ≠ fd) more) (rest ()) post) :
    Triple (besideParent start) (spawnWatch start .parent) (ParentKnows start own more)
      (.call (.close fd) rest) post := by
  apply parentCall settled.kept
  · exact fun world knows => ⟨knows.running, trivial⟩
  · rintro world - next knows sound rfl
    apply onward
    refine ⟨sound, knows.running, ?_, settled.table world _ knows.more⟩
    simp only [knows.table]
    exact close_withOwn free

theorem parentDone (settled : Settled start more) {value : α} {post : α → SpawnWorld → Prop}
    (implies : ∀ world, ParentKnows start own more world → post value world) :
    Triple (besideParent start) (spawnWatch start .parent) (ParentKnows start own more)
      (.done value) post :=
  Triple.done (ParentKnows.stable settled.kept) (fun _ => ParentKnows.sound) implies

/-- The parent is about to return, with all its descriptors closed. -/
def Concludes (start : Table) (result : Result Int) : SpawnWorld → Prop :=
  ParentKnows start [] fun world => world.Truthful result

theorem parentFails (settled : Settled start more) {failure : Error}
    (truthful : ∀ world, more world → world.Truthful (.error failure)) :
    Triple (besideParent start) (spawnWatch start .parent) (ParentKnows start [] more)
      (.done (.error failure)) (Concludes start) :=
  parentDone settled fun world knows =>
    ⟨knows.sound, knows.running, knows.table, truthful world knows.more⟩

/-- After a wait the child is reaped, or the parent knows nothing of it. -/
theorem parentWaits (settled : Settled start more) {child : Int}
    {rest : WaitAnswer → Spawn α} {post : α → SpawnWorld → Prop}
    (onward : ∀ answer, Triple (besideParent start) (spawnWatch start .parent)
      (ParentKnows start own fun world =>
        ∀ failure, world.Truthful (.error failure)) (rest answer) post) :
    Triple (besideParent start) (spawnWatch start .parent) (ParentKnows start own more)
      (.call (.waitpid child) rest) post := by
  apply parentCall settled.kept
  · exact fun world knows => ⟨knows.running, trivial⟩
  · intro world answer next knows sound acts
    apply onward answer
    have neglects (same : next = { world with neglected := true }) :
        ParentKnows start own (fun world => ∀ failure, world.Truthful (.error failure)) next := by
      subst same
      exact ⟨sound, knows.running, knows.table, fun _ => Or.inr (Or.inr rfl)⟩
    cases answer with
    | reaped status =>
        obtain ⟨-, rfl⟩ := acts
        exact ⟨sound, knows.running, knows.table, fun _ => Or.inr (Or.inl rfl)⟩
    | running => exact neglects acts
    | interrupted => exact neglects acts
    | noChild => exact neglects acts
    | failed => exact neglects acts

theorem settled_failed : Settled start fun world => ∀ failure, world.Truthful (.error failure) where
  kept := fun world next relies truthful failure =>
    (settled_truthful (.error failure)).kept world next relies (truthful failure)
  table := fun _ _ => id

/-- What the parent concludes is right. -/
theorem parentSafe_concludeExec (strerror : Nat → Bytes) (child : Int) (received : PipeRead)
    (closed : received = .closed → ∀ world, more world → world.Truthful (.ok child))
    (settled : Settled start more) :
    Triple (besideParent start) (spawnWatch start .parent) (ParentKnows start [] more)
      (concludeExec strerror child received) (Concludes start) := by
  cases received with
  | closed =>
      exact parentDone settled fun world knows =>
        ⟨knows.sound, knows.running, knows.table, closed rfl world knows.more⟩
  | invalid =>
      exact parentWaits settled fun _ => parentFails settled_failed fun _ truthful => truthful _
  | errno number =>
      exact parentWaits settled fun _ => parentFails settled_failed fun _ truthful => truthful _

/-- When no one can write to the pipe any more and nothing was written, the child
has executed the core or was killed. -/
theorem truthful_closed {world : SpawnWorld} (sound : world.Sound start) (unread : Unread world)
    (empty : world.pipe = []) (closed : ¬ world.WriterOpen) (child : Int) :
    world.Truthful (.ok child) := by
  have ended (gone : world.phase = .zombie ∨ world.phase = .reaped) :
      world.Truthful (.ok child) := by
    rcases sound.ended gone with executed | killed | told
    · exact Or.inl executed
    · exact Or.inr killed
    · rcases told with written | consumed
      · exact absurd empty written
      · cases unread.2.symm.trans consumed
  cases phase : world.phase with
  | unborn => exact absurd phase unread.1
  | running => exact absurd (Or.inr (sound.running phase)) closed
  | core => exact Or.inl (sound.core phase).1
  | zombie => exact ended (Or.inl phase)
  | reaped => exact ended (Or.inr phase)

theorem parentSafe_awaitExec (strerror : Nat → Bytes) (child : Int) {readFd : Nat}
    (free : start readFd = none) :
    Triple (besideParent start) (spawnWatch start .parent)
      (ParentKnows start [(readFd, ⟨.readEnd, true⟩)] Unread) (awaitExec strerror child readFd)
      (Concludes start) := by
  have closes {more : SpawnWorld → Prop} (settled : Settled start more) {rest : Spawn (Result Int)}
      (onward : Triple (besideParent start) (spawnWatch start .parent) (ParentKnows start [] more)
        rest (Concludes start)) :
      Triple (besideParent start) (spawnWatch start .parent)
        (ParentKnows start [(readFd, ⟨.readEnd, true⟩)] more)
        (.call (.close readFd) fun _ => rest) (Concludes start) := by
    apply parentClose settled free
    simpa using onward
  apply parentCall settled_unread.kept
  · exact fun world knows => ⟨knows.running, trivial⟩
  rintro world ready next knows sound ⟨rfl, isReady⟩
  cases ready with
  | false =>
      have kills : Triple (besideParent start) (spawnWatch start .parent)
          (ParentKnows start [(readFd, ⟨.readEnd, true⟩)] fun _ => True)
          (.call (.kill child) fun _ => .call (.waitpid child) fun _ => .call (.close readFd)
            fun _ => .done (startFailure (ascii "sing-box exec handshake timed out")))
          (Concludes start) := by
        apply parentCall settled_true.kept
        · exact fun world knows => ⟨knows.running, trivial⟩
        intro world answer next knows sound acts
        have waits : Triple (besideParent start) (spawnWatch start .parent)
            (ParentKnows start [(readFd, ⟨.readEnd, true⟩)] fun _ => True)
            (.call (.waitpid child) fun _ => .call (.close readFd)
              fun _ => .done (startFailure (ascii "sing-box exec handshake timed out")))
            (Concludes start) :=
          parentWaits settled_true fun _ =>
            closes settled_failed (parentFails settled_failed fun _ truthful => truthful _)
        rcases acts with rfl | ⟨-, rfl⟩
        · exact waits _ (knows.relies settled_true.kept knows.sound.kill)
        · exact waits _ knows
      exact kills next ⟨knows.sound, knows.running, knows.table, trivial⟩
  | true =>
      have reads : Triple (besideParent start) (spawnWatch start .parent)
          (ParentKnows start [(readFd, ⟨.readEnd, true⟩)] fun world =>
            Unread world ∧ world.Ready)
          (.call (.read readFd child) fun received => .call (.close readFd) fun _ =>
            concludeExec strerror child received) (Concludes start) := by
        apply parentCall kept_ready
        · exact fun world knows => ⟨knows.running, knows.more.2⟩
        intro world received next knows sound acts
        cases received with
        | closed =>
            obtain ⟨empty, closed, rfl⟩ := acts
            have truthful := truthful_closed knows.sound knows.more.1 empty closed child
            have concludes := closes (settled_truthful (.ok child))
              (parentSafe_concludeExec strerror child .closed (fun _ _ => id)
                (settled_truthful (.ok child)))
            exact concludes next ⟨sound, knows.running, knows.table, truthful⟩
        | invalid =>
            obtain rfl : next = world := acts
            have concludes := closes settled_true (parentSafe_concludeExec strerror child .invalid
              (fun impossible => by cases impossible) settled_true)
            exact concludes next ⟨sound, knows.running, knows.table, trivial⟩
        | errno number =>
            obtain ⟨rest, -, rfl⟩ := acts
            have concludes := closes settled_true (parentSafe_concludeExec strerror child
              (.errno number) (fun impossible => by cases impossible) settled_true)
            exact concludes _ ⟨sound, knows.running, knows.table, trivial⟩
      exact reads next ⟨knows.sound, knows.running, knows.table, knows.more, isReady rfl⟩

/-- The child was forked and the parent has the reading end, or it is about to
return. -/
def Forked (start : Table) : Result (Int × Nat) → SpawnWorld → Prop
  | .ok started, world => start started.2 = none ∧
      ParentKnows start [(started.2, ⟨.readEnd, true⟩)] Unread world
  | .error failure, world => Concludes start (.error failure) world

/-- One more descriptor. -/
theorem ParentKnows.opens {world : SpawnWorld} (settled : Settled start more)
    (knows : ParentKnows start own more world) {fd : Nat} {descriptor : Descriptor}
    (sound : SpawnWorld.Sound start
      { world with parent := Function.update world.parent fd (some descriptor) }) :
    ParentKnows start ((fd, descriptor) :: own) more
      { world with parent := Function.update world.parent fd (some descriptor) } where
  sound := sound
  running := knows.running
  table := by
    simp only [knows.table]
    rfl
  more := settled.table world _ knows.more

theorem parentFails_unborn {text : Bytes} :
    Triple (besideParent start) (spawnWatch start .parent) (ParentKnows start [] Unborn)
      (.done (startFailure text)) (Forked start) :=
  parentFails settled_unborn fun _ => Or.inl

/-- What the parent has opened for the child. -/
theorem Frame.Opened.of_free (standing : ∀ fd, fd ≤ 2 → start fd ≠ none) {frame : Frame}
    (core : start frame.coreFd = none)
    (log : withOwn start [(frame.coreFd, ⟨.core, true⟩)] frame.logFd = none)
    (readEnd : withOwn start [(frame.logFd, ⟨.log, true⟩), (frame.coreFd, ⟨.core, true⟩)]
      frame.readFd = none)
    (writeEnd : withOwn start [(frame.logFd, ⟨.log, true⟩), (frame.coreFd, ⟨.core, true⟩)]
      frame.writeFd = none)
    (distinct : frame.readFd ≠ frame.writeFd) : frame.Opened start := by
  obtain ⟨logFree, notLog⟩ := free_withOwn.mp log
  obtain ⟨readFree, notRead⟩ := free_withOwn.mp readEnd
  obtain ⟨writeFree, notWrite⟩ := free_withOwn.mp writeEnd
  simp only [List.mem_cons, List.not_mem_nil, or_false, forall_eq_or_imp, forall_eq] at *
  exact ⟨standing, core, logFree, readFree, writeFree, notLog.symm, notRead.2.symm,
    notRead.1.symm, notWrite.2.symm, notWrite.1.symm, distinct.symm⟩

/-- The fork, with everything opened for the child. -/
theorem parentSafe_forkFrame {frame : Frame} (opened : frame.Opened start) :
    Triple (besideParent start) (spawnWatch start .parent)
      (ParentKnows start frame.opened Unborn)
      (forkFrame frame)
      (Forked start) := by
  apply parentCall settled_unborn.kept
  · exact fun world knows => ⟨knows.running, knows.more, opened, knows.table⟩
  intro world answer next knows sound acts
  cases answer with
  | none =>
      obtain rfl : next = world := acts
      have closes : Triple (besideParent start) (spawnWatch start .parent)
          (ParentKnows start frame.opened Unborn)
          (.call (.close frame.coreFd) fun _ => .call (.close frame.logFd) fun _ =>
            .call (.close frame.readFd) fun _ => .call (.close frame.writeFd) fun _ =>
            .done (startFailure (ascii "cannot fork sing-box"))) (Forked start) := by
        apply parentClose settled_unborn opened.core
        apply parentClose settled_unborn opened.log
        apply parentClose settled_unborn opened.readEnd
        apply parentClose settled_unborn opened.writeEnd
        simpa [Frame.opened] using parentFails_unborn
      exact closes next knows
  | some child =>
      obtain rfl : next = _ := acts
      have closes : Triple (besideParent start) (spawnWatch start .parent)
          (ParentKnows start frame.opened Unread)
          (.call (.close frame.coreFd) fun _ => .call (.close frame.logFd) fun _ =>
            .call (.close frame.writeFd) fun _ => .done (.ok (child, frame.readFd)))
          (Forked start) := by
        apply parentClose settled_unread opened.core
        apply parentClose settled_unread opened.log
        apply parentClose settled_unread opened.writeEnd
        apply parentDone settled_unread
        intro later later_knows
        refine ⟨opened.readEnd, ?_⟩
        simpa [Frame.opened, opened.readCore, opened.readLog, opened.writeRead.symm]
          using later_knows
      apply closes
      exact ⟨sound, knows.running, knows.table, by simp, (knows.sound.unborn knows.more).2⟩

theorem parentSafe_forkCore (standing : ∀ fd, fd ≤ 2 → start fd ≠ none) (executable : Path)
    (arguments : List Bytes) :
    Triple (besideParent start) (spawnWatch start .parent) (ParentKnows start [] Unborn)
      (forkCore executable arguments) (Forked start) := by
  have closes {fd : Nat} (free : start fd = none) {descriptor : Descriptor} {text : Bytes} :
      Triple (besideParent start) (spawnWatch start .parent)
        (ParentKnows start [(fd, descriptor)] Unborn)
        (.call (.close fd) fun _ => .done (startFailure text)) (Forked start) := by
    apply parentClose settled_unborn free
    simpa using parentFails_unborn
  have permitted {own : List (Nat × Descriptor)} (operation : SpawnCall)
      (harmless : ∀ world : SpawnWorld, world.result = none →
        world.Permits start .parent operation) (world : SpawnWorld)
      (knows : ParentKnows start own Unborn world) : world.Permits start .parent operation :=
    harmless world knows.running
  apply parentCall settled_unborn.kept (permitted _ fun _ running => ⟨running, trivial⟩)
  intro world answer next knows sound acts
  cases answer with
  | none =>
      obtain rfl : next = world := acts
      exact parentFails_unborn next knows
  | some coreFd =>
      obtain ⟨core, rfl⟩ := acts
      rw [knows.table] at core
      refine parentCall settled_unborn.kept (permitted _ fun _ running => ⟨running, trivial⟩) ?_ _
        (knows.opens settled_unborn sound)
      intro world answer next knows sound acts
      cases answer with
      | none =>
          obtain rfl : next = world := acts
          exact closes core next knows
      | some logFd =>
          obtain ⟨log, rfl⟩ := acts
          rw [knows.table] at log
          refine parentCall settled_unborn.kept (permitted _ fun _ running => ⟨running, trivial⟩)
            ?_ _ (knows.opens settled_unborn sound)
          intro world answer next knows sound acts
          cases answer with
          | none =>
              obtain rfl : next = world := acts
              have both : Triple (besideParent start) (spawnWatch start .parent)
                  (ParentKnows start [(logFd, ⟨.log, true⟩), (coreFd, ⟨.core, true⟩)] Unborn)
                  (.call (.close coreFd) fun _ => .call (.close logFd) fun _ =>
                    .done (startFailure (ascii "cannot create sing-box exec handshake")))
                  (Forked start) := by
                apply parentClose settled_unborn core
                apply parentClose settled_unborn (free_withOwn.mp log).1
                simpa using parentFails_unborn
              exact both next knows
          | some ends =>
              obtain ⟨readEnd, writeEnd, distinct, rfl⟩ := acts
              rw [knows.table] at readEnd writeEnd
              have opened : Frame.Opened ⟨coreFd, logFd, ends.1, ends.2, executable, arguments⟩
                  start :=
                Frame.Opened.of_free standing core log readEnd writeEnd distinct
              apply parentSafe_forkFrame opened
              refine ⟨sound, knows.running, ?_, knows.more⟩
              simp only [knows.table]
              rfl

theorem parentSafe_spawnCore (standing : ∀ fd, fd ≤ 2 → start fd ≠ none)
    (strerror : Nat → Bytes) (executable : Path) (arguments : List Bytes) :
    Triple (besideParent start) (spawnWatch start .parent) (ParentKnows start [] Unborn)
      (spawnCore strerror executable arguments) (Concludes start) := by
  apply Triple.andThen (parentSafe_forkCore standing executable arguments)
  · intro started world forked
    exact parentSafe_awaitExec strerror started.1 forked.1 world forked.2
  · intro failure
    exact parentDone (settled_truthful (.error failure)) fun _ => id

theorem parentSafe_returns (result : Result Int) :
    Triple (besideParent start) (spawnWatch start .parent) (Concludes start result)
      (.call (.returns result) .done) fun _ _ => True := by
  apply parentCall (settled_truthful result).kept
  · exact fun world knows => ⟨knows.running, knows.table, knows.more⟩
  · rintro world - next knows sound rfl later drifts
    suffices stays : Stable (besideParent start) fun world => world.Sound start by
      exact ⟨stays.of_drifts sound drifts, trivial⟩
    exact fun _ _ _ relies => relies.1

end Parent

/-! ## Both processes at once -/

section Both

variable {start : Table}

/-- What the parent may do it may also do after the child has made a step. -/
theorem SpawnWorld.Permits.relies {world next : SpawnWorld} {operation : SpawnCall}
    (permits : world.Permits start .parent operation)
    (relies : SpawnWorld.Relies start .parent world next) :
    next.Permits start .parent operation := by
  obtain ⟨running, permits⟩ := permits
  obtain ⟨sound, parent, result, consumed, neglected, unborn, reaped, executed, killed, ready⟩ :=
    relies
  refine ⟨result.trans running, ?_⟩
  cases operation with
  | fork frame => exact ⟨unborn.mpr permits.1, permits.2.1, parent.trans permits.2.2⟩
  | read fd child => exact ready permits
  | returns value =>
      refine ⟨parent.trans permits.1, permits.2.mono executed killed unborn.mpr reaped ?_⟩
      exact fun was => neglected.trans was
  | openCore path => trivial
  | openLog => trivial
  | pipe => trivial
  | close fd => trivial
  | poll fd child => trivial
  | kill child => trivial
  | waitpid child => trivial
  | setsid => trivial
  | openNull => trivial
  | dup2 old new => trivial
  | fexecve fd arguments => trivial
  | write fd number => trivial
  | exit code => trivial

/-- A fork that fails changes nothing. -/
theorem ParentActs.unforked {world next : SpawnWorld} {operation : SpawnCall}
    {answer : SpawnAnswer operation} (acts : world.ParentActs operation answer next)
    (old : ∀ program, spawnSystem.creates operation answer ≠ some (.child, program))
    (frame : Frame) (same : operation = .fork frame) : next = world := by
  subst same
  cases answer with
  | none => exact acts
  | some child => exact absurd rfl (old (childMain frame))

theorem spawn_discipline : spawnSystem.Discipline (SpawnWorld.Relies start) (spawnWatch start)
    fun _ _ => True where
  others := by
    intro thread other world operation answer next sound permits answers different old
    cases thread with
    | child =>
        cases other with
        | child => exact absurd rfl different
        | parent => exact (answers.effect sound permits).relies answers.1 sound
    | parent =>
        cases other with
        | parent => exact absurd rfl different
        | child =>
            obtain ⟨middle, moved, acts⟩ := answers
            have relies : middle = world ∨ SpawnWorld.Relies start .parent world middle := by
              apply moved.imp id
              rintro rfl
              exact SpawnWorld.Sound.kill sound
            have soundMiddle : middle.Sound start ∧ middle.Permits start .parent operation := by
              rcases relies with rfl | relies
              · exact ⟨sound, permits⟩
              · exact ⟨relies.1, permits.relies relies⟩
            have effect := acts.effect
            refine ⟨effect.sound soundMiddle.1 soundMiddle.2, fun running => ?_⟩
            obtain ⟨before, child, told⟩ := effect.child (ParentActs.unforked acts old) running
            rcases moved with rfl | rfl
            · exact ⟨before, child, told⟩
            · exact absurd before SpawnWorld.phase_kill
  created := by
    intro thread world operation answer next other program sound permits answers creates
    cases operation with
    | fork frame =>
        cases answer with
        | none => cases creates
        | some child =>
            cases creates
            cases thread with
            | child => exact (permits answers.1).elim
            | parent =>
                refine ⟨by decide, ?_⟩
                obtain ⟨middle, moved, acts⟩ := answers
                have forks : world.Permits start .parent (.fork frame) := permits
                have before : middle.Sound start ∧ middle.Permits start .parent (.fork frame) := by
                  rcases moved with rfl | rfl
                  · exact ⟨sound, forks⟩
                  · have kills := SpawnWorld.Sound.kill sound
                    exact ⟨kills.1, forks.relies kills⟩
                obtain ⟨middleSound, permits⟩ := before
                have nextSound := acts.effect.sound middleSound permits
                obtain rfl : next = _ := acts
                have child := childSafe_childMain permits.2.2.1 _
                  ⟨nextSound, fun _ => ⟨permits.2.2.2, False.elim⟩⟩
                exact child.imp fun _ _ _ => trivial
    | openCore path => cases creates
    | openLog => cases creates
    | pipe => cases creates
    | close fd => cases creates
    | poll fd child => cases creates
    | read fd child => cases creates
    | kill child => cases creates
    | waitpid child => cases creates
    | setsid => cases creates
    | openNull => cases creates
    | dup2 old new => cases creates
    | fexecve fd arguments => cases creates
    | write fd number => cases creates
    | exit code => cases creates
    | returns result => cases creates

theorem sound_start : SpawnWorld.Sound start { parent := start } where
  unborn := fun _ => ⟨rfl, rfl⟩
  running := by simp
  core := by simp
  gone := fun _ => SpawnWorld.not_writes_empty
  ended := by simp
  returned := by simp

/-- Before the first step both processes are safe. -/
theorem spawnStart_safe (standing : ∀ fd, fd ≤ 2 → start fd ≠ none) (strerror : Nat → Bytes)
    (executable : Path) (arguments : List Bytes) :
    (spawnStart strerror executable arguments start).AllSafe spawnSystem (SpawnWorld.Relies start)
      (spawnWatch start) fun _ _ => True := by
  intro process
  cases process with
  | parent =>
      have whole : Triple (besideParent start) (spawnWatch start .parent)
          (ParentKnows start [] Unborn)
          ((spawnCore strerror executable arguments).bind fun result =>
            .call (.returns result) .done) fun _ _ => True :=
        (parentSafe_spawnCore standing strerror executable arguments).bind parentSafe_returns
      exact whole _ ⟨sound_start, rfl, rfl, rfl⟩
  | child =>
      have nothing : ChildSafe start (fun _ => True) False (.done ()) fun _ _ => True :=
        ChildSafe.done fun _ => id
      exact (nothing _ ⟨sound_start, fun _ => ⟨trivial, False.elim⟩⟩).imp fun _ _ _ => trivial

/-- Whatever the two processes do in whatever order, the child being killed or
not: a success tells that the core was executed, unless the child was killed
before; after a failure no child is left behind, unless it could not be waited
for; when the parent returns it has exactly the descriptors with which it began,
and a running core has the log and what is kept on `exec`; and the parent never
reads from the pipe before there is something to read or never will be. -/
theorem handshake_sound (standing : ∀ fd, fd ≤ 2 → start fd ≠ none) {strerror : Nat → Bytes}
    {executable : Path} {arguments : List Bytes} {last : Pool SpawnAnswer Process SpawnWorld}
    (reaches : Pool.Reaches spawnSystem (spawnStart strerror executable arguments start) last) :
    (∀ child, last.world.result = some (.ok child) →
      last.world.executed = true ∨ last.world.killed = true) ∧
      (∀ failure, last.world.result = some (.error failure) →
        last.world.phase = .unborn ∨ last.world.phase = .reaped ∨ last.world.neglected = true) ∧
      (last.world.result ≠ none → last.world.parent = start) ∧
      (last.world.phase = .core → ∃ input, IsInput start input ∧
        last.world.child = handed start input) ∧
      ∀ fd child rest, last.programs .parent = .call (.read fd child) rest →
        last.world.Ready := by
  have safe := (spawnStart_safe standing strerror executable arguments).of_reaches
    spawn_discipline reaches
  have sound : last.world.Sound start := (safe .parent).holds
  refine ⟨fun child found => (sound.returned _ found).2,
    fun failure found => (sound.returned _ found).2, fun found => ?_,
    fun core => (sound.core core).2, fun fd child rest reads => (safe.permits reads).2⟩
  obtain ⟨result, found⟩ := Option.ne_none_iff_exists'.mp found
  exact (sound.returned result found).1

end Both

/-! ## A core that cannot be executed -/

/-- The standard streams of a parent. -/
def streams : Table :=
  fun fd => if fd ≤ 2 then some ⟨.inherited fd, false⟩ else none

/-- A file that is opened at a free descriptor. -/
def openAt (world : SpawnWorld) (fd : Nat) (file : OpenFile) : Option (Option Nat × SpawnWorld) :=
  if world.parent fd = none then
    some (some fd, { world with parent := Function.update world.parent fd (some ⟨file, true⟩) })
  else none

/-- The answers to a parent whose core cannot be executed. -/
def missParent (world : SpawnWorld) :
    (operation : SpawnCall) → Option (SpawnAnswer operation × SpawnWorld)
  | .openCore _ => openAt world 3 .core
  | .openLog => openAt world 4 .log
  | .pipe =>
      if world.parent 5 = none ∧ world.parent 6 = none then
        some (some (5, 6), { world with
          parent := Function.update (Function.update world.parent 5 (some ⟨.readEnd, true⟩))
            6 (some ⟨.writeEnd, true⟩) })
      else none
  | .fork _ => some (some 7, { world with child := world.parent, phase := .running })
  | .close fd => some ((), { world with parent := Function.update world.parent fd none })
  | .poll _ _ => if world.pipe ≠ [] then some (true, world) else none
  | .read _ _ =>
      match world.pipe with
      | number :: rest => some (.errno number, { world with pipe := rest, consumed := true })
      | [] => none
  | .waitpid _ =>
      if world.phase = .zombie then some (.reaped (.exited 127), { world with phase := .reaped })
      else none
  | .returns result => some ((), { world with result := some result })
  | _ => none

/-- The answers to its child. -/
def missChild (world : SpawnWorld) :
    (operation : SpawnCall) → Option (SpawnAnswer operation × SpawnWorld)
  | .close fd => some ((), { world with child := Function.update world.child fd none })
  | .setsid => some ((), world)
  | .openNull => some (none, world)
  | .dup2 old new => some ((), { world with child := dup world.child old new })
  | .fexecve _ _ => some (some 2, world)
  | .write _ number => some ((), { world with pipe := world.pipe ++ [number] })
  | .exit _ => some ((), { world with phase := .zombie, child := fun _ => none })
  | _ => none

def miss (process : Process) (world : SpawnWorld) (operation : SpawnCall) :
    Option (SpawnAnswer operation × SpawnWorld) :=
  match process with
  | .parent => missParent world operation
  | .child => if world.phase = .running then missChild world operation else none

theorem missParent_within {world next : SpawnWorld} {operation : SpawnCall}
    {answer : SpawnAnswer operation}
    (responded : missParent world operation = some (answer, next)) :
    world.ParentActs operation answer next := by
  unfold missParent openAt at responded
  split at responded
  · split at responded
    next free => cases responded; exact ⟨free, rfl⟩
    next => cases responded
  · split at responded
    next free => cases responded; exact ⟨free, rfl⟩
    next => cases responded
  · split at responded
    next free => cases responded; exact ⟨free.1, free.2, by decide, rfl⟩
    next => cases responded
  · cases responded; rfl
  · cases responded; rfl
  · split at responded
    next written => cases responded; exact ⟨rfl, fun _ => Or.inl written⟩
    next => cases responded
  · split at responded
    next number rest pipe => cases responded; exact ⟨rest, pipe, rfl⟩
    next => cases responded
  · split at responded
    next zombie => cases responded; exact ⟨zombie, rfl⟩
    next => cases responded
  · cases responded; rfl
  · cases responded

theorem missChild_within {world next : SpawnWorld} {operation : SpawnCall}
    {answer : SpawnAnswer operation} (running : world.phase = .running)
    (responded : missChild world operation = some (answer, next)) :
    world.ChildActs operation answer next := by
  unfold missChild at responded
  split at responded
  · cases responded; exact ⟨running, rfl⟩
  · cases responded; exact ⟨running, rfl⟩
  · cases responded; exact ⟨running, rfl⟩
  · cases responded; exact ⟨running, rfl⟩
  · cases responded; exact ⟨running, rfl⟩
  · cases responded; exact ⟨running, rfl⟩
  · cases responded; exact ⟨running, rfl⟩
  · cases responded

theorem miss_within (process : Process) (world : SpawnWorld) (operation : SpawnCall)
    (answer : SpawnAnswer operation) (next : SpawnWorld)
    (responded : miss process world operation = some (answer, next)) :
    spawnSystem.answers process world operation answer next := by
  cases process with
  | parent => exact ⟨world, Or.inl rfl, missParent_within responded⟩
  | child =>
      unfold miss at responded
      simp only at responded
      split at responded
      next running => exact missChild_within running responded
      next => cases responded

/-- The parent waits for its child, which tells it the error number. -/
def missed : Pool SpawnAnswer Process SpawnWorld :=
  (spawnStart (fun _ => ascii "No such file or directory") [ascii "core"] [] streams).play
    spawnSystem miss
    (List.replicate 8 .parent ++ List.replicate 9 .child ++ List.replicate 5 .parent)

theorem missed_result : missed.world.result =
    some (startFailure (ascii "cannot execute sing-box: No such file or directory")) :=
  rfl

/-- The parent tells why, and has its standard streams and no other descriptor. -/
theorem handshake_sound_example : ∃ last : Pool SpawnAnswer Process SpawnWorld,
    last.world.result =
      some (startFailure (ascii "cannot execute sing-box: No such file or directory")) ∧
      last.world.phase = .reaped ∧ last.world.parent = streams := by
  have standing (fd : Nat) (low : fd ≤ 2) : streams fd ≠ none := by
    simp [streams, low]
  have sound := handshake_sound standing (Pool.reaches_play miss_within
    (spawnStart (fun _ => ascii "No such file or directory") [ascii "core"] [] streams)
    (List.replicate 8 .parent ++ List.replicate 9 .child ++ List.replicate 5 .parent))
  refine ⟨missed, missed_result, rfl, sound.2.2.1 ?_⟩
  exact fun impossible => by cases impossible.symm.trans missed_result

end ExecHandshake

end TunProxy
