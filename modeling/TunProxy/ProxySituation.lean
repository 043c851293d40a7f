import TunProxy.ProxyWorld

/-!
# Situations of the proxy manager

What the program can rely on at one of its points: the content of the state
file, the cores that may be alive, the cores whose first record is still to be
saved.  A situation accounts for every core it allows, and the world cannot
leave it by itself.
-/

namespace TunProxy

open ByteText EffectProgram

theorem Tame.refl (world : World) : Tame world world where
  state := rfl
  pending := rfl
  used := fun _ _ => id
  processes := fun _ process found => Or.inl ⟨process, found, .refl process⟩

theorem becomes_tick (process : Process) : process.Becomes process.tick := by
  unfold Process.tick
  split
  · exact .refl process
  · exact ⟨rfl, rfl, rfl, fun _ => rfl, id, fun alive => by cases alive⟩
  · exact ⟨rfl, rfl, rfl, fun _ => rfl, id, id⟩

theorem tame_tick (world : World) : Tame world world.tick where
  state := rfl
  pending := rfl
  used := fun _ _ => id
  processes := by
    intro pid later found
    obtain ⟨process, present, rfl⟩ := Option.map_eq_some_iff.mp found
    exact Or.inl ⟨process, present, becomes_tick process⟩

theorem tame_setProcess {world : World} {pid : Int} {process : Process} {later : Option Process}
    (present : world.processes pid = some process)
    (becomes : ∀ found, later = some found → process.Becomes found) :
    Tame world (world.setProcess pid later) where
  state := rfl
  pending := rfl
  used := fun _ _ => id
  processes := by
    intro other found after
    by_cases same : other = pid
    · simp only [World.setProcess, same, if_true] at after
      exact Or.inl ⟨process, same ▸ present, becomes found after⟩
    · simp only [World.setProcess, same, if_false] at after
      exact Or.inl ⟨found, after, .refl found⟩

/-- Calls that neither fork a core nor touch the state file. -/
def Quiet : SystemCall → Prop
  | .writeFileAtomic .state _ _ => False
  | .removeFile .state => False
  | .fork _ => False
  | _ => True

namespace Site

variable {site : Site}

theorem tame_of_answersKill {world next : World} {pid : Int} {signal : Signal}
    {answer : KillAnswer} (answers : site.AnswersKill world pid signal answer next) :
    Tame world next := by
  unfold AnswersKill at answers
  cases present : world.processes pid with
  | none =>
      simp only [present] at answers
      exact answers.2 ▸ Tame.refl world
  | some process =>
      simp only [present] at answers
      rcases answers with ⟨-, ⟨rfl, -⟩ | ⟨-, left, -, rfl⟩⟩ | ⟨-, -, rfl, -⟩
      · exact .refl _
      · refine tame_setProcess present fun found same => ?_
        obtain rfl := Option.some.inj same
        exact ⟨rfl, rfl, rfl, fun _ => rfl, id, id⟩
      · exact .refl _

theorem tame_of_answersWait {world next : World} {pid : Int} {option : WaitOption}
    {answer : WaitAnswer} (answers : site.AnswersWait world pid option answer next) :
    Tame world next := by
  cases answer with
  | reaped status =>
      obtain ⟨⟨process, present, -, -⟩, rfl⟩ := answers
      exact tame_setProcess present fun found same => by cases same
  | noChild => exact answers.2 ▸ Tame.refl world
  | running => exact answers.2 ▸ Tame.refl world
  | interrupted => exact answers.2 ▸ Tame.refl world
  | failed => exact answers.2 ▸ Tame.refl world

/-- Quiet calls change the world only in ways it may change by itself. -/
theorem tame_of_quiet {world next : World} {call : SystemCall} {answer : SystemAnswer call}
    (quiet : Quiet call) (answers : site.Answers world call answer next) : Tame world next := by
  cases call with
  | writeFileAtomic file contents mode =>
      cases file with
      | state => exact absurd quiet not_false
      | coreConfig | config => exact (show next = world from answers) ▸ Tame.refl world
  | removeFile file =>
      cases file with
      | state => exact absurd quiet not_false
      | coreConfig | config => exact (show next = world from answers) ▸ Tame.refl world
  | fork role => exact absurd quiet not_false
  | kill pid signal => exact tame_of_answersKill answers
  | waitpid pid option => exact tame_of_answersWait answers
  | sleepFor milliseconds =>
      exact (show next = world.tick from answers) ▸ tame_tick world
  | ifNameToIndex name =>
      obtain ⟨-, rfl⟩ := answers
      exact ⟨rfl, rfl, fun _ _ => id, fun _ process found => Or.inl ⟨process, found, .refl _⟩⟩
  | readTextFile file => exact answers.2 ▸ Tame.refl world
  | readExecutableLink pid => exact answers.2 ▸ Tame.refl world
  | weaklyCanonical path => exact answers.2 ▸ Tame.refl world
  | readHandshake child => exact answers.2 ▸ Tame.refl world
  | _ => exact (show next = world from answers) ▸ Tame.refl world

/-- The path under which the kernel knows the core's program. -/
def coreExecutable (site : Site) : Bytes :=
  site.canonical site.setup.corePath.text

/-- The process is the core that a state records. -/
structure HeldBy (site : Site) (state : RuntimeState) (pid : Int) (process : Process) : Prop where
  pid : pid = state.pid
  ticks : process.ticks = state.startTicks
  executed : process.executed = true
  executable : process.executable = site.coreExecutable
  recorded : site.canonical state.executable = site.coreExecutable
  legible : site.faults.hidden state.pid state.startTicks = false
  positive : 0 < state.pid
  bounds : 0 < state.startTicks ∧ state.startTicks < 2 ^ 63

/-- The state file records the process. -/
def RecordedIn (site : Site) (content : Option Bytes) (pid : Int) (process : Process) : Prop :=
  ∃ state, Loads content state ∧ site.HeldBy state pid process

/-- The identity is a core's, or was. -/
structure CoreIdentity (pid : Int) (ticks : Nat) (world : World) : Prop where
  used : world.used pid ticks
  core : ∀ process, world.processes pid = some process → process.ticks = ticks →
    process.core = true

/-- The state file names no process but cores. -/
def Genuine (content : Option Bytes) (world : World) : Prop :=
  ∀ state, Loads content state → CoreIdentity state.pid state.startTicks world

theorem CoreIdentity.tame {pid : Int} {ticks : Nat} {world next : World}
    (identity : CoreIdentity pid ticks world) (tame : Tame world next) :
    CoreIdentity pid ticks next where
  used := tame.used pid ticks identity.used
  core := by
    intro later found same
    rcases tame.processes pid later found with ⟨process, present, becomes⟩ | ⟨-, fresh, -, -⟩
    · exact becomes.core.trans (identity.core process present (becomes.ticks.symm.trans same))
    · exact absurd (same ▸ identity.used) fresh

theorem Genuine.tame {content : Option Bytes} {world next : World}
    (genuine : Genuine content world) (tame : Tame world next) : Genuine content next :=
  fun state loads => (genuine state loads).tame tame

/-- What is known at a point of the program.  Every core that may be alive is
recorded, or its record is pending and there is no other; and there is at most
one such core. -/
structure Situation (site : Site) where
  content : Option Bytes
  pending : Int → Nat → Prop
  cores : Int → Process → Prop
  closed : ∀ pid process later, process.core = true → process.Becomes later →
    cores pid process → cores pid later
  accounted : ∀ pid process, cores pid process →
    site.RecordedIn content pid process ∧ ¬ pending pid process.ticks ∨
      content = none ∧ pending pid process.ticks
  single : ∀ pid other process otherProcess, cores pid process → cores other otherProcess →
    pid = other

/-- The world is in a situation; `genuine` tells whether the state file is
known to name only cores. -/
structure Situation.Holds {site : Site} (situation : Situation site) (genuine : Prop)
    (world : World) : Prop where
  state : world.state = situation.content
  pending : world.pending = situation.pending
  cores : ∀ pid process, world.processes pid = some process → process.core = true →
    process.alive = true → situation.cores pid process
  named : genuine → Genuine situation.content world

theorem Situation.Holds.tame {situation : Situation site} {genuine : Prop} {world next : World}
    (holds : situation.Holds genuine world) (tame : Tame world next) :
    situation.Holds genuine next where
  state := tame.state.trans holds.state
  pending := tame.pending.trans holds.pending
  cores := by
    intro pid later found core alive
    rcases tame.processes pid later found with ⟨process, present, becomes⟩ | ⟨-, -, -, foreign⟩
    · have wasCore := becomes.core.symm.trans core
      exact situation.closed pid process later wasCore becomes
        (holds.cores pid process present wasCore (becomes.alive alive))
    · rw [core] at foreign
      cases foreign
  named := fun assumed => (holds.named assumed).tame tame

/-- No core is alive. -/
def idle (site : Site) (content : Option Bytes) (pending : Int → Nat → Prop) :
    Situation site where
  content := content
  pending := pending
  cores _ _ := False
  closed _ _ _ _ _ impossible := impossible
  accounted _ _ impossible := impossible.elim
  single _ _ _ _ impossible _ := impossible.elim

theorem HeldBy.becomes {state : RuntimeState} {pid : Int} {process later : Process}
    (held : site.HeldBy state pid process) (core : process.core = true)
    (becomes : process.Becomes later) : site.HeldBy state pid later where
  pid := held.pid
  ticks := becomes.ticks.trans held.ticks
  executed := becomes.executed held.executed
  executable := (becomes.executable core).trans held.executable
  recorded := held.recorded
  legible := held.legible
  positive := held.positive
  bounds := held.bounds

/-- The core that the state file records may be alive. -/
def held (site : Site) {content : Option Bytes} {state : RuntimeState}
    (loads : Loads content state) (pending : Int → Nat → Prop) : Situation site where
  content := content
  pending := pending
  cores pid process := site.HeldBy state pid process ∧ ¬ pending pid process.ticks
  closed _ _ _ core becomes held :=
    ⟨held.1.becomes core becomes, becomes.ticks.symm ▸ held.2⟩
  accounted _ _ held := Or.inl ⟨⟨state, loads, held.1⟩, held.2⟩
  single _ _ _ _ first second := first.1.pid.trans second.1.pid.symm

/-- A core whose record is pending; `ran` tells whether its `exec` is known to
have taken place. -/
structure PendingCore (site : Site) (child : Int) (ticks : Nat) (ran : Prop) (pid : Int)
    (process : Process) : Prop where
  pid : pid = child
  ticks : process.ticks = ticks
  child : process.child = true
  executable : process.executable = site.coreExecutable
  executed : ran → process.executed = true

/-- A core was forked and is not yet recorded. -/
def forked (site : Site) {pending : Int → Nat → Prop} {child : Int} {ticks : Nat}
    (isPending : pending child ticks) (ran : Prop) : Situation site where
  content := none
  pending := pending
  cores pid process := site.PendingCore child ticks ran pid process
  closed _ _ _ core becomes held :=
    ⟨held.pid, becomes.ticks.trans held.ticks, becomes.child.trans held.child,
      (becomes.executable core).trans held.executable, fun known =>
        becomes.executed (held.executed known)⟩
  accounted _ _ held := Or.inr ⟨rfl, held.pid ▸ held.ticks ▸ isPending⟩
  single _ _ _ _ first second := first.pid.trans second.pid.symm

theorem Loads.unique {content : Option Bytes} {first second : RuntimeState}
    (loads : Loads content first) (loads' : Loads content second) : first = second := by
  obtain ⟨text, same, parsed⟩ := loads
  obtain ⟨text', same', parsed'⟩ := loads'
  obtain rfl := Option.some.inj (same.symm.trans same')
  exact Except.ok.inj (parsed.symm.trans parsed')

end Site

end TunProxy
