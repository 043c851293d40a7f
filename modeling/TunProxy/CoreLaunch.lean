import TunProxy.CoreTermination
import TunProxy.HarmlessCalls

/-!
# Launching a core

An attempt starts with no core alive and no record.  From the fork to the
first save the core is unrecorded; from then on it is held by its record until
it is known to have ended.  An attempt that fails leaves no core alive, or a
recorded core that is still starting, or, if a core outlived its kill signal
before its first record could be saved, that core.
-/

namespace TunProxy

open ByteText EffectProgram

theorem quiet_of_harmless {call : SystemCall} (harmless : Harmless call) : Quiet call := by
  cases call with
  | writeFileAtomic file contents mode =>
      cases file with
      | state => exact harmless
      | coreConfig | config => trivial
  | removeFile file =>
      cases file with
      | state => exact harmless
      | coreConfig | config => trivial
  | fork role => exact harmless
  | _ => trivial

theorem inWindow_of_makesDirectories {call : SystemCall} (makes : MakesDirectories call) :
    Quiet call ∧ Site.InWindow call := by
  cases call with
  | lstat path => exact ⟨trivial, trivial⟩
  | mkdir path mode => exact ⟨trivial, trivial⟩
  | chmod path mode => exact ⟨trivial, trivial⟩
  | _ => exact makes.elim

namespace Site

variable {site : Site} {genuine : Prop} {α : Type}

/-! ## Where an attempt can be -/

/-- No core is alive. -/
def Idle (site : Site) (genuine : Prop) (content : Option Bytes) (world : World) : Prop :=
  ∃ pending, (idle site content pending).Holds genuine world

/-- The only core that may be alive is the one that the state file records. -/
def Held (site : Site) (genuine : Prop) (state : RuntimeState) (world : World) : Prop :=
  ∃ content pending, ∃ loads : Loads content state,
    (held site loads pending).Holds genuine world

/-- The only core that may be alive is a child whose first record is not saved. -/
structure Unrecorded (site : Site) (genuine : Prop) (child : Int) (ticks : Nat) (ran : Prop)
    (world : World) : Prop where
  forked : ∃ pending : Int → Nat → Prop, ∃ isPending : pending child ticks,
    (forked site isPending ran).Holds genuine world
  identity : CoreIdentity child ticks world

theorem robust_idle (content : Option Bytes) : Robust site genuine (site.Idle genuine content) :=
  .exists fun _ =>
    { tame := (lasting_holds _).tame
      tracked := (lasting_holds _).tracked
      settled := fun _ holds => settled_of_noCore holds.noCore }

theorem robust_held (state : RuntimeState) : Robust site genuine (site.Held genuine state) :=
  .exists fun _ => .exists fun _ => .exists fun _ =>
    { tame := (lasting_holds _).tame
      tracked := (lasting_holds _).tracked
      settled := by
        intro world holds pid process found core alive isPending
        rw [holds.pending] at isPending
        exact (holds.cores pid process found core alive).2 isPending }

theorem lasting_unrecorded (child : Int) (ticks : Nat) (ran : Prop) :
    Lasting site genuine (site.Unrecorded genuine child ticks ran) where
  tame := by
    rintro world next ⟨⟨pending, isPending, holds⟩, identity⟩ tame
    exact ⟨⟨pending, isPending, holds.tame tame⟩, identity.tame tame⟩
  tracked := by
    rintro world ⟨⟨pending, isPending, holds⟩, -⟩
    exact holds.tracked

theorem Idle.noCore {content : Option Bytes} {world : World}
    (idle : site.Idle genuine content world) : NoCore world :=
  idle.choose_spec.noCore

theorem Idle.state {content : Option Bytes} {world : World}
    (idle : site.Idle genuine content world) : world.state = content :=
  idle.choose_spec.state

theorem Idle.tracked {content : Option Bytes} {world : World}
    (idle : site.Idle genuine content world) : site.Tracked genuine world :=
  (robust_idle content).tracked world idle

/-- With no core alive, any record is one of a core that is not. -/
theorem Idle.held {content : Option Bytes} {world : World} {state : RuntimeState}
    (idle : site.Idle genuine content world) (loads : Loads content state) :
    site.Held genuine state world := by
  obtain ⟨pending, holds⟩ := idle
  refine ⟨content, pending, loads, holds.state, holds.pending, ?_, holds.named⟩
  exact fun pid process found core alive => (holds.cores pid process found core alive).elim

theorem Held.idle {world : World} {state : RuntimeState} (held : site.Held genuine state world)
    (none : NoCore world) : ∃ content, site.Idle genuine content world := by
  obtain ⟨content, pending, loads, holds⟩ := held
  exact ⟨content, pending, holds.idle none⟩

theorem Held.loads {world : World} {state : RuntimeState}
    (held : site.Held genuine state world) : Loads world.state state := by
  obtain ⟨content, pending, loads, holds⟩ := held
  exact holds.state.symm ▸ loads

theorem Held.onlyHeld {world : World} {state : RuntimeState}
    (held : site.Held genuine state world) : site.OnlyHeld state world := by
  obtain ⟨content, pending, loads, holds⟩ := held
  exact holds.onlyHeld fun pid process known => known.1

theorem Held.named {world : World} {state : RuntimeState}
    (held : site.Held genuine state world) (assumed : genuine) :
    CoreIdentity state.pid state.startTicks world := by
  obtain ⟨content, pending, loads, holds⟩ := held
  exact holds.named assumed state loads

/-! ## Rules for them -/

theorem keeps_harmless {program : System α} {assertion : World → Prop}
    (robust : Robust site genuine assertion) (calls : program.Calls Harmless) :
    site.Keeps genuine assertion program fun _ => assertion :=
  keeps_quiet robust (calls.imp fun _ => quiet_of_harmless)

/-- The record is cleared, or it stays as it was. -/
theorem idle_clearState (content : Option Bytes) :
    site.Keeps genuine (site.Idle genuine content) clearState fun
      | .ok () => site.Idle genuine none
      | .error _ => site.Idle genuine content := by
  refine Triple.exists fun pending => (keeps_clearState content pending).imp ?_
  rintro (failure | _) world holds
  · exact ⟨pending, holds⟩
  · exact ⟨pending, holds⟩

theorem held_terminateCore (faithful : site.Faithful)
    (state identity : RuntimeState) (samePid : identity.pid = state.pid)
    (sameTicks : identity.startTicks = state.startTicks)
    (sameExecutable : identity.executable = state.executable) :
    site.Keeps genuine (site.Held genuine state) (terminateCore identity) fun
      | .ok () => fun world => ∃ content, site.Idle genuine content world
      | .error _ => site.Held genuine state := by
  refine Triple.exists fun content => Triple.exists fun pending => Triple.exists fun loads => ?_
  intro world holds
  have known : ∀ pid process, (held site loads pending).cores pid process →
      site.HeldBy identity pid process := fun pid process ⟨found, _⟩ =>
    ⟨samePid ▸ found.pid, sameTicks ▸ found.ticks, found.executed, found.executable,
      sameExecutable ▸ found.recorded, samePid ▸ sameTicks ▸ found.legible,
      samePid ▸ found.positive, sameTicks ▸ found.bounds⟩
  refine (keeps_terminateCore faithful known world holds).imp ?_
  rintro (failure | _) later outcome
  · exact ⟨content, pending, loads, outcome.1⟩
  · exact ⟨content, pending, outcome⟩

/-! ## Saving a record -/

/-- A record of the only core that may be alive makes it a held one. -/
theorem keeps_saveState {assertion : World → Prop} (lasting : Lasting site genuine assertion)
    {state : RuntimeState} (plain : state.Plain) (loadable : state.Loadable)
    (only : ∀ world, assertion world → site.OnlyHeld state world)
    (named : ∀ world, assertion world → genuine →
      CoreIdentity state.pid state.startTicks world) :
    site.Keeps genuine assertion (site.setup.saveState state) fun
      | .ok () => site.Held genuine state
      | .error _ => assertion := by
  have parsed := parseState_writeState plain loadable
  have directory := (makesDirectories_ensureDirectory site.setup.paths.runtimeDir 0o755).imp
    fun _ => inWindow_of_makesDirectories
  refine (keeps_inWindow lasting directory).andThen (fun _ => ?_)
    fun failure => keeps_done lasting.steady fun _ => id
  refine Triple.call lasting.steady.stable lasting.tracked
    (fun _ _ => permits_of_inWindow trivial) fun world answer next holds answers => ?_
  rcases answer with failure | _
  · obtain rfl : next = world := answers
    exact keeps_done lasting.steady (fun _ => id) _ holds
  · obtain rfl : next = _ := answers
    refine keeps_done (robust_held state).steady (fun _ => id) _ ?_
    refine ⟨some (writeState state), _, ⟨_, rfl, parsed⟩, rfl, rfl, ?_, ?_⟩
    · intro pid process found core alive
      have known := only world holds pid process found core alive
      exact ⟨known, fun isPending =>
        isPending.2 ⟨state, parsed, known.pid.symm, known.ticks.symm⟩⟩
    · rintro assumed other loads
      obtain rfl : other = state := Loads.unique loads ⟨_, rfl, parsed⟩
      exact ⟨(named world holds assumed).used, (named world holds assumed).core⟩

/-! ## Spawning -/

/-- The child is there until it is reaped. -/
def Present (child : Int) (ticks : Nat) (world : World) : Prop :=
  ∃ process, world.processes child = some process ∧ process.child = true ∧ process.ticks = ticks

theorem stable_present (child : Int) (ticks : Nat) : Stable site.around (Present child ticks) := by
  rintro world next ⟨process, present, isChild, same⟩ drifts
  obtain ⟨later, found, becomes⟩ := drifts.children child process present isChild
  exact ⟨later, found, becomes.child.trans isChild, becomes.ticks.trans same⟩

/-- An identity that a state file can hold. -/
def Writable (child : Int) (ticks : Nat) : Prop :=
  (0 < child ∧ child < 2 ^ 31) ∧ 0 < ticks ∧ ticks < 2 ^ 63

/-- A core was spawned and not reaped since. -/
def Spawned (site : Site) (genuine : Prop) (child : Int) (ran : Prop) (world : World) : Prop :=
  ∃ ticks, (site.Unrecorded genuine child ticks ran world ∧ Present child ticks world) ∧
    Writable child ticks

theorem steady_spawned (child : Int) (ran : Prop) :
    Steady site genuine (site.Spawned genuine child ran) :=
  .exists fun ticks =>
    ((lasting_unrecorded child ticks ran).steady.and (stable_present child ticks)).and_fact _

/-- A fork leaves exactly the child alive. -/
theorem Idle.spawned {world next : World} {child : Int} (idle : site.Idle genuine none world)
    (arguments : List Bytes)
    (answers : site.Answers world (.fork (.core site.setup.corePath arguments)) (.ok child)
      next) :
    site.Spawned genuine child False next := by
  obtain ⟨positive, small, free, ticks, someTicks, fewTicks, fresh, rfl⟩ := answers
  refine ⟨ticks, ⟨⟨⟨_, Or.inl ⟨rfl, rfl⟩, ⟨idle.state, rfl, ?_, ?_⟩⟩, ?_⟩, ?_⟩, ⟨positive, small⟩,
    someTicks, fewTicks⟩
  · intro pid process found core alive
    simp only [World.setProcess] at found
    split at found
    · next same =>
      obtain rfl := Option.some.inj found
      exact ⟨same, rfl, rfl, rfl, False.elim⟩
    · rw [idle.noCore pid process found core] at alive
      cases alive
  · rintro - state ⟨text, impossible, -⟩
    cases impossible
  · refine ⟨Or.inl ⟨rfl, rfl⟩, fun process found same => ?_⟩
    simp only [World.setProcess, if_true] at found
    obtain rfl := Option.some.inj found
    rfl
  · exact ⟨_, if_pos rfl, rfl, rfl⟩

/-- Waiting for the child until it ends leaves no core alive, unless the wait is
interrupted. -/
theorem unrecorded_wait (child : Int) (ticks : Nat) (ran : Prop) :
    site.Keeps genuine (site.Unrecorded genuine child ticks ran) (waitpid child .block) fun
      | .interrupted => fun world => site.Unrecorded genuine child ticks ran world ∧
          site.faults.interrupts = true
      | _ => site.Idle genuine none := by
  refine keeps_call trivial (lasting_unrecorded child ticks ran).steady ?_
    fun world answer next holds answers => ?_
  · intro answer
    cases answer with
    | interrupted => exact (lasting_unrecorded child ticks ran).steady.and_fact _
    | _ => exact (robust_idle none).steady
  by_cases interrupted : answer = .interrupted
  · subst interrupted
    obtain ⟨impossible | interrupts, rfl⟩ := answers
    · cases impossible
    · exact ⟨holds, interrupts⟩
  obtain ⟨⟨pending, isPending, situation⟩, -⟩ := holds
  have tame := tame_of_answersWait answers
  suffices ended : site.Idle genuine none next by
    cases answer with
    | interrupted => exact absurd rfl interrupted
    | _ => exact ended
  refine ⟨pending, (situation.tame tame).idle fun pid process found core => ?_⟩
  cases alive : process.alive with
  | false => rfl
  | true =>
      have known := (situation.tame tame).cores pid process found core alive
      cases answer with
      | reaped status =>
          obtain ⟨-, rfl⟩ := answers
          rw [known.pid] at found
          simp only [World.setProcess, if_true] at found
          cases found
      | noChild =>
          obtain ⟨foreign, rfl⟩ := answers
          have isChild := known.child
          rw [foreign process (known.pid ▸ found)] at isChild
          cases isChild
      | running => cases answers.1
      | interrupted => exact absurd rfl interrupted
      | failed => cases answers.1

/-- Where no wait is interrupted the child has ended behind it. -/
theorem unrecorded_reap (faithful : site.Faithful) (child : Int) (ticks : Nat) (ran : Prop) :
    site.Keeps genuine (site.Unrecorded genuine child ticks ran) (waitpid child .block)
      fun _ => site.Idle genuine none := by
  refine (unrecorded_wait child ticks ran).imp fun answer world outcome => ?_
  cases answer with
  | interrupted =>
      obtain ⟨-, interrupts⟩ := outcome
      rw [faithful.interrupts] at interrupts
      cases interrupts
  | _ => exact outcome

/-- The handshake tells that `exec` has taken place. -/
theorem spawned_readHandshake (child : Int) :
    site.Keeps genuine (site.Spawned genuine child False) (readHandshake child) fun
      | .closed => site.Spawned genuine child True
      | _ => site.Spawned genuine child False := by
  refine keeps_call trivial (steady_spawned child False) ?_
    fun world answer next holds answers => ?_
  · intro answer
    cases answer with
    | closed => exact steady_spawned child True
    | execError detail => exact steady_spawned child False
    | invalid => exact steady_spawned child False
  obtain ⟨executed, rfl⟩ := answers
  cases answer with
  | execError detail => exact holds
  | invalid => exact holds
  | closed =>
      obtain ⟨ticks, ⟨⟨⟨pending, isPending, situation⟩, identity⟩, present⟩, writable⟩ := holds
      refine ⟨ticks, ⟨⟨⟨pending, isPending, situation.state, situation.pending, ?_,
        situation.named⟩, identity⟩, present⟩, writable⟩
      intro pid process found core alive
      have known := situation.cores pid process found core alive
      exact ⟨known.pid, known.ticks, known.child, known.executable, fun _ =>
        executed rfl process (known.pid ▸ found) core alive⟩

theorem spawned_reap (faithful : site.Faithful) {child : Int} {ran : Prop} {value : α}
    {post : α → World → Prop} (implies : ∀ world, site.Idle genuine none world → post value world) :
    site.Keeps genuine (site.Spawned genuine child ran)
      ((waitpid child .block).bind fun _ => .done value) post := by
  rintro world ⟨ticks, ⟨holds, -⟩, -⟩
  exact (unrecorded_reap faithful child ticks ran world holds).bind fun _ =>
    keeps_done (robust_idle none).steady implies

theorem spawned_awaitExec (faithful : site.Faithful) (child : Int) :
    site.Keeps genuine (site.Spawned genuine child False) (Setup.awaitExec child) fun
      | .ok found => fun world => found = child ∧ site.Spawned genuine child True world
      | .error _ => site.Idle genuine none := by
  have polled : site.Keeps genuine (site.Spawned genuine child False) (pollHandshake child)
      fun _ => site.Spawned genuine child False :=
    keeps_call trivial (steady_spawned child False) (fun _ => steady_spawned child False)
      fun world answer next holds answers => by
        obtain rfl : next = world := answers
        exact holds
  refine polled.bind fun ready => ?_
  cases ready with
  | false =>
      rintro world ⟨ticks, ⟨holds, -⟩, -⟩
      have killed : site.Keeps genuine (site.Unrecorded genuine child ticks False)
          (kill child .kill) fun _ => site.Unrecorded genuine child ticks False :=
        keeps_inWindow (lasting_unrecorded child ticks False)
          ⟨⟨trivial, trivial⟩, fun _ => trivial⟩
      refine (killed world holds).bind fun _ later held => ?_
      exact (unrecorded_reap faithful child ticks False later held).bind fun _ =>
        keeps_done (robust_idle none).steady fun _ => id
  | true =>
      refine (spawned_readHandshake child).bind fun answer => ?_
      cases answer with
      | closed => exact keeps_done (steady_spawned child True) fun world holds => ⟨rfl, holds⟩
      | execError detail => exact spawned_reap faithful fun _ => id
      | invalid => exact spawned_reap faithful fun _ => id

/-- Spawning the core leaves it unrecorded, or no core alive. -/
theorem idle_spawnCore (faithful : site.Faithful) :
    site.Keeps genuine (site.Idle genuine none) (site.setup.spawnCore site.setup.corePath) fun
      | .ok child => site.Spawned genuine child True
      | .error _ => site.Idle genuine none := by
  have refused {failure : Error} : site.Keeps genuine (site.Idle genuine none)
      (.done (.error failure) : System (Result Int)) fun
        | .ok child => site.Spawned genuine child True
        | .error _ => site.Idle genuine none :=
    keeps_done (robust_idle none).steady fun _ => id
  refine (keeps_quiet_call (robust_idle none) (by trivial)).bind fun coreOpened => ?_
  split
  · exact refused
  refine (keeps_quiet_call (robust_idle none) (by trivial)).bind fun logOpened => ?_
  split
  · exact refused
  refine (keeps_quiet_call (robust_idle none) (by trivial)).bind fun piped => ?_
  cases piped with
  | error detail => exact refused
  | ok done =>
      refine Triple.call (robust_idle none).steady.stable (fun _ => Idle.tracked)
        (fun _ idle => ⟨Or.inr (settled_of_noCore idle.noCore), idle.noCore⟩)
        fun world answer next idle answers => ?_
      cases answer with
      | error detail =>
          obtain rfl : next = world := answers
          exact refused _ idle
      | ok child =>
          have spawned := idle.spawned (site.setup.coreArguments site.setup.corePath) answers
          refine (spawned_awaitExec faithful child next spawned).imp ?_
          rintro (failure | found) later outcome
          · exact outcome
          · obtain ⟨rfl, spawned⟩ := outcome
            exact spawned

/-- The start time of a child that is not reaped is read as it is, or not at all. -/
theorem spawned_processStartTicks (faithful : site.Faithful) (child : Int) :
    site.Keeps genuine (site.Spawned genuine child True) (processStartTicks child) fun
      | .ok ticks => fun world => site.Unrecorded genuine child ticks True world ∧
          Writable child ticks ∧ site.faults.hidden child ticks = false
      | .error _ => site.Spawned genuine child True := by
  have read : site.Keeps genuine (site.Spawned genuine child True)
      (readTextFile (.processStat child)) fun content world =>
        site.Spawned genuine child True world ∧ ∀ ticks, parseStartTicks content = .ok ticks →
          site.Unrecorded genuine child ticks True world ∧ Writable child ticks ∧
            site.faults.hidden child ticks = false := by
    refine Triple.exists fun ticks => ?_
    refine keeps_call trivial
      (((lasting_unrecorded child ticks True).steady.and (stable_present child ticks)).and_fact _)
      (fun content => ((steady_spawned child True).and ?_))
      fun world answer next holds answers => ?_
    · intro world next known drifts ticks parsed
      obtain ⟨unrecorded, writable, legible⟩ := known ticks parsed
      exact ⟨(lasting_unrecorded child ticks True).tame world next unrecorded drifts.tame,
        writable, legible⟩
    · obtain ⟨answers, rfl⟩ := answers
      refine ⟨⟨ticks, holds⟩, fun told parsed => ?_⟩
      obtain ⟨⟨unrecorded, process, present, -, rfl⟩, writable⟩ := holds
      obtain ⟨other, found, rfl, legible⟩ := process_of_parseStartTicks faithful answers parsed
      obtain rfl := Option.some.inj (present.symm.trans found)
      exact ⟨unrecorded, writable, legible⟩
  refine read.bind fun content => ?_
  cases parsed : parseStartTicks content with
  | error failure =>
      refine Triple.weaken ?_ fun world holds => holds.1
      exact keeps_done (steady_spawned child True) fun _ => id
  | ok ticks =>
      refine Triple.weaken ?_ fun world holds => holds.2 ticks rfl
      exact keeps_done ((lasting_unrecorded child ticks True).steady.and_fact _) fun _ => id

/-! ## Discarding a child -/

/-- A child that cannot be signalled outlives every signal. -/
theorem spawned_kill (child : Int) :
    site.Keeps genuine (site.Spawned genuine child True) (kill child .kill) fun killed world =>
      (∃ ticks, site.Unrecorded genuine child ticks True world) ∧
        (killed.sent = false → site.faults.stubborn true = true) := by
  have unrecorded (ticks : Nat) : Lasting site genuine (site.Unrecorded genuine child ticks True) :=
    lasting_unrecorded child ticks True
  refine keeps_call trivial (steady_spawned child True)
    (fun _ => (Steady.exists fun ticks => (unrecorded ticks).steady).and_fact _)
    fun world answer next holds answers => ?_
  obtain ⟨ticks, ⟨holds, process, present, -, rfl⟩, -⟩ := holds
  have tame : Tame world next := tame_of_answersKill answers
  refine ⟨⟨_, (unrecorded _).tame world next holds tame⟩, fun unsent => ?_⟩
  obtain ⟨⟨pending, isPending, situation⟩, -⟩ := holds
  simp only [Answers, AnswersKill, present] at answers
  rcases answers with ⟨rfl, -⟩ | ⟨-, -, -, hard, stubborn, isHard⟩
  · cases unsent
  · have known : world.pending child process.ticks := situation.pending.symm ▸ isPending
    exact isHard.mpr known ▸ stubborn

/-- The loop that reaps a child leaves none alive, however often it is interrupted. -/
theorem unrecorded_reapLoop (child : Int) (fuel : Nat) :
    site.Keeps genuine (fun world => ∃ ticks, site.Unrecorded genuine child ticks True world)
      (iterate (Setup.reapStep child) fuel ()) fun _ => site.Idle genuine none := by
  have steady : Steady site genuine fun world =>
      ∃ ticks, site.Unrecorded genuine child ticks True world :=
    .exists fun ticks => (lasting_unrecorded child ticks True).steady
  refine Triple.iterate (fun _ => steady.stable) (fun _ => steady.tracked) trivial
    (fun _ => ?_) fuel ()
  refine Triple.exists fun ticks => (unrecorded_wait child ticks True).bind fun answer => ?_
  cases answer with
  | interrupted =>
      exact keeps_done ((lasting_unrecorded child ticks True).steady.and_fact _)
        fun world holds => ⟨ticks, holds.1⟩
  | _ =>
      exact keeps_done (robust_idle none).steady fun world idle =>
        keeps_done (robust_idle none).steady (fun _ => id) world idle

end Site

end TunProxy
