import TunProxy.ProxyRuns

/-!
# What later calls can rely on

The record of a core outlives every failure: a failed start leaves behind no
core that the state file does not identify, and as long as files are read
faithfully the record is not removed, and no stop succeeds, while the process
it names is alive.
-/

namespace TunProxy

open ByteText EffectProgram Relation

namespace Site

variable {site : Site} {genuine : Prop}

/-- How runs begin: no core is alive, and the state file names only cores. -/
def Fresh (world : World) : Prop :=
  NoCore world ∧ Genuine world.state world

theorem managed_of_fresh {world : World} (fresh : Fresh world) (genuine : Prop) :
    site.Managed genuine world :=
  managed_of_noCore fresh.1 fun _ => fresh.2

theorem Reachable.managed (faithful : site.Faithful) {world : World}
    (reachable : Reachable site Fresh Abandons world) : site.Managed True world :=
  managed_of_reachable faithful (fun _ fresh => managed_of_fresh fresh True)
    (fun _ _ => managed_of_abandons) reachable

theorem fresh_empty : Fresh (Machine.world {}) :=
  ⟨noCore_empty, fun _ ⟨_, content, _⟩ => nomatch content⟩

/-- The world that the machine's start leaves is one between calls. -/
theorem reachable_started {faults : Faults} (within : Mishaps.Within {} faults) :
    Reachable (shippedSite faults) Fresh Abandons (Machine.started {} {}).world := by
  obtain ⟨ends, saved, -⟩ := Machine.started_empty
  exact Reachable.started within (.initial fresh_empty) ends
    (abandons_of_settled (settled_world saved))

/-! ## Identities -/

/-- An identity stays a core's whatever is called. -/
theorem CoreIdentity.answers {pid : Int} {ticks : Nat} {world next : World} {call : SystemCall}
    {answer : SystemAnswer call} (identity : CoreIdentity pid ticks world)
    (answers : site.Answers world call answer next) : CoreIdentity pid ticks next := by
  by_cases quiet : Quiet call
  · exact identity.tame (tame_of_quiet quiet answers)
  cases call with
  | writeFileAtomic file contents mode =>
      cases file with
      | state =>
          rcases answer with failure | _
          · obtain rfl : next = world := answers
            exact identity
          · obtain rfl : next = _ := answers
            exact ⟨identity.used, identity.core⟩
      | coreConfig | config => exact absurd trivial quiet
  | removeFile file =>
      cases file with
      | state =>
          cases answer with
          | removed =>
              obtain rfl : next = _ := answers
              exact ⟨identity.used, identity.core⟩
          | absent =>
              obtain rfl : next = world := answers.2
              exact identity
          | failed detail =>
              obtain rfl : next = world := answers
              exact identity
      | coreConfig | config => exact absurd trivial quiet
  | fork role =>
      cases role with
      | utility command =>
          obtain rfl : next = world := answers
          exact identity
      | core executable arguments =>
          rcases answer with detail | child
          · obtain rfl : next = world := answers
            exact identity
          obtain ⟨-, -, -, time, -, -, fresh, rfl⟩ := answers
          refine ⟨Or.inr identity.used, fun process found same => ?_⟩
          simp only [World.setProcess] at found
          split at found
          · obtain rfl := Option.some.inj found
            rfl
          · exact identity.core process found same
  | _ => exact absurd trivial quiet

theorem CoreIdentity.reaches {α : Type} {pid : Int} {ticks : Nat}
    {first last : System α × World} (reaches : Reaches site.around first last)
    (identity : CoreIdentity pid ticks first.2) : CoreIdentity pid ticks last.2 := by
  induction reaches with
  | refl => exact identity
  | tail _ moves ih =>
      cases moves with
      | drift drifts => exact ih.tame drifts.tame
      | answer answers => exact ih.answers answers

/-! ## The record is kept -/

/-- While files are read faithfully, no call removes the state file while the
process it identifies is alive, and no stop succeeds on such a file. -/
theorem identified_not_forgotten (site : Site) (faithful : site.Faithful)
    {world : World} (reachable : Reachable site Fresh Abandons world) :
    (∀ fuel next later, Reaches site.around (site.setup.start fuel, world)
        (.call (.removeFile .state) next, later) → Forgettable later) ∧
      (∀ next later, Reaches site.around (site.setup.stop, world)
        (.call (.removeFile .state) next, later) → Forgettable later) ∧
      ∀ later state process, Reaches site.around (site.setup.stop, world) (.done (.ok ()), later) →
        Loads world.state state → later.processes state.pid = some process →
          process.ticks = state.startTicks → process.alive = false := by
  have managed : site.Managed True world := reachable.managed faithful
  have stops := managed_stop faithful world managed
  refine ⟨fun fuel next later reaches => ?_, fun next later reaches => ?_,
    fun later state process reaches loads found same => ?_⟩
  · exact ((managed_start faithful fuel world managed).of_reaches reaches).permits.2 trivial
  · exact (stops.of_reaches reaches).permits.2 trivial
  · have tracked : site.Tracked True world := stops.holds
    have identity := CoreIdentity.reaches reaches (tracked.named trivial state loads)
    have idle : site.Idle True none later := (stops.of_reaches reaches).result
    exact idle.noCore state.pid process found (identity.core process found same)

/-- After a start on the machine the record is kept by the calls that follow. -/
theorem identified_not_forgotten_example :
    ∃ state process, Loads (Machine.started {} {}).world.state state ∧
      (Machine.started {} {}).world.processes state.pid = some process ∧ process.alive = true ∧
        ∀ next later, Reaches (shippedSite faultless).around
          (shippedSetup.stop, (Machine.started {} {}).world)
            (.call (.removeFile .state) next, later) → Forgettable later := by
  obtain ⟨-, -, serves⟩ := Machine.started_empty
  have reachable := reachable_started within_faultless
  generalize Machine.started {} {} = machine at *
  obtain ⟨state, process, loads, found, -, -, alive⟩ := Machine.exists_of_coreServes serves
  exact ⟨state, process, loads, found, alive,
    (identified_not_forgotten (shippedSite faultless) faithful_faultless reachable).2.1⟩

/-- The world in which the state file may fail to be read. -/
def misreading : Faults where
  records := true

/-- A stop that cannot open the state file removes it and reports success
while the core that it identifies is alive. -/
theorem identified_forgotten :
    ∃ world later state process, Reachable (shippedSite misreading) Fresh Abandons world ∧
      Loads world.state state ∧
      Reaches (shippedSite misreading).around (shippedSetup.stop, world) (.done (.ok ()), later) ∧
      later.state = none ∧ later.processes state.pid = some process ∧
      process.ticks = state.startTicks ∧ process.core = true ∧ process.alive = true := by
  obtain ⟨-, -, serves⟩ := Machine.started_empty
  have within : Mishaps.Within {} misreading := ⟨nofun, fun _ _ => rfl, nofun⟩
  have reachable := reachable_started within
  generalize Machine.started {} {} = machine at *
  obtain ⟨state, process, loads, found, same, core, alive⟩ := Machine.exists_of_coreServes serves
  have reaches : Reaches (shippedSite misreading).around (shippedSetup.stop, machine.world)
      (.done (.ok ()), { machine with state := none }.world) := by
    have reaches := reaches_follow (Machine.respond_within
      (⟨fun _ => rfl, fun _ _ => rfl, nofun⟩ :
        Mishaps.Within { unreadable := true } misreading))
        shippedSetup.stop machine
    rwa [Machine.follow_stop_unreadable] at reaches
  exact ⟨_, _, state, process, reachable, loads, reaches, rfl, found, same, core, alive⟩

/-! ## Failed starts -/

/-- As long as no core outlives its kill signal before its first record, a
failed start leaves alive only a core that the state file identifies, and a
stop that then succeeds has ended it. -/
theorem failed_start_recoverable (site : Site) (faithful : site.Faithful)
    (mortal : site.faults.stubborn true = false) {world later : World}
    (reachable : Reachable site NoCore Abandons world) {fuel : Nat} {failure : Error}
    (reaches : Reaches site.around (site.setup.start fuel, world) (.done (.error failure), later)) :
    (∀ pid process, later.processes pid = some process → process.core = true →
        process.alive = true → ∃ text, later.state = some text ∧
          Identifies text pid process.ticks) ∧
      ∀ last, Reaches site.around (site.setup.stop, later) (.done (.ok ()), last) →
        NoCore last := by
  have managed : site.Managed False world :=
    managed_of_reachable faithful (fun _ none => managed_of_noCore none False.elim)
      (fun _ _ => managed_of_abandons) reachable
  have ended := (managed_start faithful fuel world managed).of_reaches reaches
  have settled : Settled later := Started.settled mortal ended.result
  have tracked : site.Tracked False later := ended.holds
  refine ⟨fun pid process found core alive => ?_, fun last stopped => ?_⟩
  · rcases tracked.recorded pid process found core alive with ⟨recorded, -⟩ | ⟨-, isPending⟩
    · exact identifies_of_recordedIn recorded
    · exact absurd isPending (settled pid process found core alive)
  · have safe := managed_stop faithful later (tracked.managed settled)
    have idle : site.Idle False none last := (safe.of_reaches stopped).result
    exact idle.noCore

/-- A failed start on the machine: the state file cannot be written. -/
theorem failed_start_recoverable_example :
    ∃ failure, Reaches (shippedSite faultless).around (shippedSetup.start 1, Machine.world {})
        (.done (.error failure), (Machine.started { unwritable := true } {}).world) ∧
      ∀ last, Reaches (shippedSite faultless).around
        (shippedSetup.stop, (Machine.started { unwritable := true } {}).world)
          (.done (.ok ()), last) → NoCore last := by
  have fails : (follow (Machine.respond { unwritable := true }) (shippedSetup.start 1)
      {}).1.outcome? = some false := by decide +kernel
  obtain ⟨failure, reaches⟩ := Machine.exists_reaches_error
    (⟨nofun, fun _ _ => rfl, nofun⟩ : Mishaps.Within { unwritable := true } faultless) fails
  exact ⟨failure, reaches, (failed_start_recoverable (shippedSite faultless) faithful_faultless rfl
    (.initial noCore_empty) reaches).2⟩

/-- The world in which cores may outlive every signal. -/
def outliving : Faults where
  stubborn := fun _ => true

/-- Where the first record cannot be saved and the core outlives its kill
signal, a failed start leaves a core alive that no state file identifies. -/
theorem failed_start_unrecoverable :
    ∃ later failure pid process,
      Reaches (shippedSite outliving).around (shippedSetup.start 1, Machine.world {})
        (.done (.error failure), later) ∧
      later.processes pid = some process ∧ process.core = true ∧ process.alive = true ∧
        later.state = none := by
  have left : (follow (Machine.respond { unwritable := true, undying := true })
        (shippedSetup.start 1) {}).1.outcome? = some false ∧
      (Machine.started { unwritable := true, undying := true } {}).coreAlive = true ∧
      (Machine.started { unwritable := true, undying := true } {}).state = none := by
    decide +kernel
  obtain ⟨fails, survives, absent⟩ := left
  obtain ⟨failure, reaches⟩ := Machine.exists_reaches_error
    (⟨nofun, fun _ _ => rfl, fun _ _ => rfl⟩ :
      Mishaps.Within { unwritable := true, undying := true } outliving) fails
  generalize Machine.started { unwritable := true, undying := true } {} = machine at *
  obtain ⟨pid, process, found, core, alive⟩ := Machine.exists_of_coreAlive survives
  exact ⟨machine.world, failure, pid, process, reaches, found, core, alive, absent⟩

end Site

end TunProxy
