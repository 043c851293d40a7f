import TunProxy.HarmlessCalls
import TunProxy.ProcessCapture

/-!
# Which processes are signalled

The program acts on pids that it forked itself or that it has read from a file.
In every run of a start or a stop, whatever the system answers, a signal goes to
a child of this run that has not been reaped, or to the recorded pid of a
process whose identity was checked right before.
-/

namespace TunProxy

open ByteText EffectProgram

/-! ## Histories -/

/-- The calls of a run so far, and how they were answered. -/
abbrev Log : Type :=
  History SystemAnswer

/-- Any answer is possible, but the parent's answer to a fork is a pid. -/
def Plausible (operation : SystemCall) (answer : SystemAnswer operation) : Prop :=
  match operation, answer with
  | .fork _, .ok pid => 0 < pid
  | _, _ => True

/-- The run has forked a child of this pid and not reaped it since. -/
def ForkedHere (log : Log) (pid : Int) : Prop :=
  0 < pid ∧ ∃ before role after, log = before ++ ⟨.fork role, .ok pid⟩ :: after ∧
    ∀ option status, (⟨.waitpid pid option, .reaped status⟩ : Sigma SystemAnswer) ∉ after

/-- The run has loaded this state from the state file. -/
def Recorded (log : Log) (state : RuntimeState) : Prop :=
  ∃ content, (⟨.readTextFile .state, content⟩ : Sigma SystemAnswer) ∈ log ∧
    parseState content = .ok state

/-- The four calls by which the identity of a process is checked, with answers
that match the recorded state. -/
def IdentityCheck (state : RuntimeState) (entries : Log) : Prop :=
  ∃ probe stat executable,
    entries = [⟨.kill state.pid .null, probe⟩, ⟨.readTextFile (.processStat state.pid), stat⟩,
      ⟨.readExecutableLink state.pid, executable⟩,
      ⟨.weaklyCanonical state.executable, some (stripDeleted executable)⟩] ∧
    (probe = .delivered ∨ probe = .notPermitted) ∧ parseStartTicks stat = .ok state.startTicks

/-- The last thing the run has done, but for messages, is to check the identity
of the process that the state records, and it matched. -/
def JustMatched (log : Log) (state : RuntimeState) : Prop :=
  ∃ before check after, log = before ++ check ++ after ∧ IdentityCheck state check ∧
    ∀ entry ∈ after, ∃ level message, entry = ⟨.emitLog level message, ()⟩

/-- The processes that may be signalled. -/
def MaySignal (log : Log) (pid : Int) : Prop :=
  ForkedHere log pid ∨
    0 < pid ∧ ∃ state, Recorded log state ∧ state.pid = pid ∧ JustMatched log state

def signalling : Watch SystemCall Log where
  holds _ := True
  permits log operation := match operation with
    | .kill pid signal => signal ≠ .null → MaySignal log pid
    | _ => True
  cuts := True

/-- The calls of the program before utilities are run as children: then any
calls may happen. -/
def calling : Surroundings SystemAnswer Log where
  answers log operation answer next := match operation with
    | .runCapture _ => log <+: next
    | operation => Plausible operation answer ∧ next = log ++ [⟨operation, answer⟩]
  drift _ _ := False

theorem still_calling : Still calling :=
  fun _ _ => not_false

/-! ## Rules -/

variable {α : Type}

/-- From every history of this kind the program signals only what it may. -/
def Signals (assertion : Log → Prop) (program : System α) (post : α → Log → Prop) : Prop :=
  Triple calling signalling assertion program post

/-- No matter what has happened. -/
def anything (_ : Log) : Prop :=
  True

theorem signals_done {assertion : Log → Prop} {post : α → Log → Prop} {value : α}
    (implies : ∀ log, assertion log → post value log) :
    Signals assertion (.done value) post :=
  Triple.done (still_calling.stable _) (fun _ _ => trivial) implies

theorem signals_call {operation : SystemCall} {assertion : Log → Prop}
    {post : SystemAnswer operation → Log → Prop}
    (permitted : ∀ log, assertion log → signalling.permits log operation)
    (answered : ∀ log answer next, assertion log → calling.answers log operation answer next →
      post answer next) :
    Signals assertion (.call operation .done) post :=
  Triple.perform (still_calling.stable _) (fun _ _ => trivial) permitted
    (fun _ => still_calling.stable _) (fun _ _ _ => trivial) answered

/-- Calls that signal nothing. -/
def Unsignalling : SystemCall → Prop
  | .kill _ _ => False
  | _ => True

theorem permits_of_unsignalling {log : Log} {operation : SystemCall}
    (unsignalling : Unsignalling operation) : signalling.permits log operation := by
  cases operation with
  | kill pid signal => exact unsignalling.elim
  | _ => trivial

/-- Where nothing is signalled, nothing need be known. -/
theorem signals_unsignalling {program : System α} (calls : program.Calls Unsignalling) :
    Signals anything program fun _ => anything :=
  Triple.of_calls calls (still_calling.stable _) (fun _ _ => trivial) trivial
    (fun _ _ _ => permits_of_unsignalling) fun _ _ _ _ _ _ _ => trivial

theorem unsignalling_of_harmless {operation : SystemCall} (harmless : Harmless operation) :
    Unsignalling operation := by
  cases operation with
  | kill pid signal => exact harmless.elim
  | _ => trivial

theorem signals_harmless {program : System α} (calls : program.Calls Harmless) :
    Signals anything program fun _ => anything :=
  signals_unsignalling (calls.imp fun _ => unsignalling_of_harmless)

/-! ## Processes that may be signalled -/

/-- What a record entitles to: it was loaded, or its process is an own child. -/
def Entitled (state : RuntimeState) (log : Log) : Prop :=
  Recorded log state ∨ ForkedHere log state.pid

/-- Calls after which an own child is still one: it is not waited for. -/
def Unwaiting : SystemCall → Prop
  | .runCapture _ => False
  | .waitpid _ _ => False
  | _ => True

theorem answers_eq {log next : Log} {operation : SystemCall} {answer : SystemAnswer operation}
    (unwaiting : Unwaiting operation) (answers : calling.answers log operation answer next) :
    next = log ++ [⟨operation, answer⟩] := by
  cases operation with
  | runCapture command => exact unwaiting.elim
  | waitpid pid option => exact unwaiting.elim
  | _ => exact answers.2

theorem Recorded.append {log : Log} {state : RuntimeState} (recorded : Recorded log state)
    (entries : Log) : Recorded (log ++ entries) state := by
  obtain ⟨content, member, parsed⟩ := recorded
  exact ⟨content, List.mem_append_left entries member, parsed⟩

theorem ForkedHere.append {log : Log} {pid : Int} (forked : ForkedHere log pid)
    {entry : Sigma SystemAnswer}
    (notReaped : ∀ option status, entry ≠ ⟨.waitpid pid option, .reaped status⟩) :
    ForkedHere (log ++ [entry]) pid := by
  obtain ⟨positive, before, role, after, rfl, kept⟩ := forked
  refine ⟨positive, before, role, after ++ [entry], ?_, fun option status member => ?_⟩
  · rw [List.append_assoc, List.cons_append]
  · rcases List.mem_append.mp member with inside | last
    · exact kept option status inside
    · exact notReaped option status (List.mem_singleton.mp last).symm

theorem ForkedHere.answers {log next : Log} {pid : Int} {operation : SystemCall}
    {answer : SystemAnswer operation} (forked : ForkedHere log pid)
    (unwaiting : Unwaiting operation) (answers : calling.answers log operation answer next) :
    ForkedHere next pid := by
  rw [answers_eq unwaiting answers]
  refine forked.append fun option status same => ?_
  obtain rfl := (Sigma.mk.inj same).1
  exact unwaiting.elim

theorem Entitled.answers {log next : Log} {state : RuntimeState} {operation : SystemCall}
    {answer : SystemAnswer operation} (entitled : Entitled state log)
    (unwaiting : Unwaiting operation) (answers : calling.answers log operation answer next) :
    Entitled state next := by
  rcases entitled with recorded | forked
  · rw [answers_eq unwaiting answers]
    exact Or.inl (recorded.append _)
  · exact Or.inr (forked.answers unwaiting answers)

/-- Calls that neither signal nor wait. -/
def Passive (operation : SystemCall) : Prop :=
  Unsignalling operation ∧ Unwaiting operation

theorem entitled_passive {state : RuntimeState} {program : System α}
    (calls : program.Calls Passive) :
    Signals (Entitled state) program fun _ => Entitled state :=
  Triple.of_calls calls (still_calling.stable _) (fun _ _ => trivial) trivial
    (fun _ _ _ passive => permits_of_unsignalling passive.1)
    fun _ _ _ _ entitled passive answers => entitled.answers passive.2 answers

theorem forked_passive {pid : Int} {program : System α} (calls : program.Calls Passive) :
    Signals (ForkedHere · pid) program fun _ => (ForkedHere · pid) :=
  Triple.of_calls calls (still_calling.stable _) (fun _ _ => trivial) trivial
    (fun _ _ _ passive => permits_of_unsignalling passive.1)
    fun _ _ _ _ forked passive answers => forked.answers passive.2 answers

/-! ## The identity check -/

/-- What was done last. -/
def Ends (state : RuntimeState) (entries log : Log) : Prop :=
  Entitled state log ∧ ∃ before, log = before ++ entries

theorem ends_call {state : RuntimeState} {entries : Log} {operation : SystemCall}
    (permitted : ∀ log, signalling.permits log operation) (unwaiting : Unwaiting operation) :
    Signals (Ends state entries) (.call operation .done) fun answer =>
      Ends state (entries ++ [⟨operation, answer⟩]) := by
  refine signals_call (fun log _ => permitted log) fun log answer next holds answers => ?_
  obtain ⟨entitled, before, rfl⟩ := holds
  refine ⟨entitled.answers unwaiting answers, before, ?_⟩
  rw [answers_eq unwaiting answers, List.append_assoc]

/-- Another process has been found, or none. -/
theorem ends_refused {state : RuntimeState} (entries : Log) :
    Signals (Ends state entries) (.done (.ok false) : System (Result Bool)) fun result log =>
      Entitled state log ∧ (result = .ok true → JustMatched log state) :=
  signals_done fun log holds => ⟨holds.1, fun impossible => by cases impossible⟩

/-- After a probe that a process has answered, its identity is looked at. -/
theorem entitled_hasRecordedIdentity {state : RuntimeState} {probe : KillAnswer}
    (alive : probe = .delivered ∨ probe = .notPermitted) :
    Signals (Ends state [⟨.kill state.pid .null, probe⟩]) (hasRecordedIdentity state)
      fun result log => Entitled state log ∧ (result = .ok true → JustMatched log state) := by
  rw [hasRecordedIdentity, processStartTicks, bind_assoc]
  refine Triple.bind (ends_call (fun _ => trivial) trivial) fun stat => ?_
  rw [done_bind]
  split
  · exact ends_refused _
  next same =>
    refine Triple.bind (ends_call (fun _ => trivial) trivial) fun executable => ?_
    refine Triple.bind (ends_call (fun _ => trivial) trivial) fun expected => ?_
    split
    · exact ends_refused _
    next found =>
      refine signals_done fun log holds => ⟨holds.1, fun _ => ?_⟩
      obtain ⟨-, before, rfl⟩ := holds
      have ticks : parseStartTicks stat = .ok state.startTicks :=
        eq_ok_of_toOption (Decidable.not_not.mp same)
      rw [Decidable.not_not.mp found]
      exact ⟨before, _, [], (List.append_nil _).symm,
        ⟨probe, stat, executable, rfl, alive, ticks⟩,
        fun entry member => absurd member List.not_mem_nil⟩

/-- After a check that says yes, the process may be signalled. -/
theorem entitled_isManagedProcessRunning (state : RuntimeState) :
    Signals (Entitled state) (isManagedProcessRunning state) fun result log =>
      Entitled state log ∧ (result = .ok true → JustMatched log state) := by
  have probed : Signals (Entitled state) (kill state.pid .null) fun probe =>
      Ends state [⟨.kill state.pid .null, probe⟩] := by
    have permitted (log : Log) : signalling.permits log (.kill state.pid .null) :=
      fun impossible => absurd rfl impossible
    exact (ends_call permitted trivial).weaken
      fun log entitled => ⟨entitled, log, (List.append_nil log).symm⟩
  refine probed.bind fun probe => ?_
  cases probe with
  | delivered => exact entitled_hasRecordedIdentity (Or.inl rfl)
  | notPermitted => exact entitled_hasRecordedIdentity (Or.inr rfl)
  | noProcess => exact ends_refused _
  | failed => exact ends_refused _

/-! ## Stopping a core -/

theorem Entitled.maySignal {state : RuntimeState} {log : Log} (positive : 0 < state.pid)
    (entitled : Entitled state log) (matched : JustMatched log state) :
    MaySignal log state.pid := by
  rcases entitled with recorded | forked
  · exact Or.inr ⟨positive, state, recorded, rfl, matched⟩
  · exact Or.inl forked

/-- A message does not invalidate a check. -/
theorem JustMatched.message {state : RuntimeState} {log : Log} (matched : JustMatched log state)
    (level : LogLevel) (message : Bytes) :
    JustMatched (log ++ [⟨.emitLog level message, ()⟩]) state := by
  obtain ⟨before, check, after, rfl, isCheck, messages⟩ := matched
  refine ⟨before, check, after ++ [⟨.emitLog level message, ()⟩], by simp, isCheck, ?_⟩
  intro entry member
  rcases List.mem_append.mp member with inside | last
  · exact messages entry inside
  · exact ⟨level, message, List.mem_singleton.mp last⟩

theorem entitled_kill {state : RuntimeState} (positive : 0 < state.pid) (signal : Signal) :
    Signals (fun log => Entitled state log ∧ JustMatched log state) (kill state.pid signal)
      fun _ => Entitled state := by
  have unwaiting : Unwaiting (.kill state.pid signal) := trivial
  exact signals_call (fun _ holds _ => holds.1.maySignal positive holds.2)
    fun _ _ _ holds answers => holds.1.answers unwaiting answers

/-- A wait that has not reaped the child leaves it one. -/
theorem ForkedHere.waited {log : Log} {pid : Int} (forked : ForkedHere log pid)
    (option : WaitOption) (answer : WaitAnswer) :
    (∃ status, answer = .reaped status) ∨
      ForkedHere (log ++ [⟨.waitpid pid option, answer⟩]) pid := by
  by_cases reaped : ∃ status, answer = .reaped status
  · exact Or.inl reaped
  · refine Or.inr (forked.append fun option' status same => reaped ⟨status, ?_⟩)
    injection same

theorem forked_waitpid (pid : Int) (option : WaitOption) :
    Signals (ForkedHere · pid) (waitpid pid option) fun waited log =>
      (∃ status, waited = .reaped status) ∨ ForkedHere log pid := by
  refine signals_call (fun _ _ => trivial) fun log waited next forked answers => ?_
  obtain ⟨-, rfl⟩ := answers
  exact forked.waited option waited

theorem entitled_waitpid (state : RuntimeState) (option : WaitOption) :
    Signals (Entitled state) (waitpid state.pid option) fun waited log =>
      (∃ status, waited = .reaped status) ∨ Entitled state log := by
  refine signals_call (fun _ _ => trivial) fun log waited next entitled answers => ?_
  obtain ⟨-, rfl⟩ := answers
  rcases entitled with recorded | forked
  · exact Or.inr (Or.inl (recorded.append _))
  · exact (forked.waited option waited).imp_right Or.inr

/-- One look at whether a process has gone. -/
theorem entitled_poll {state : RuntimeState} {rest : System (Option (Result Unit))}
    (onward : Signals (Entitled state) rest fun result log => result = none → Entitled state log) :
    Signals (Entitled state) ((isManagedProcessRunning state).bind fun managed =>
      match managed with
      | .error failure => .done (some (.error failure))
      | .ok false => .done (some (.ok ()))
      | .ok true => (sleepFor kPollInterval).bind fun _ => rest)
        fun result log => result = none → Entitled state log := by
  have ended (result : Result Unit) (assertion : Log → Prop) : Signals assertion
      (.done (some result) : System (Option (Result Unit))) fun result log =>
        result = none → Entitled state log :=
    signals_done fun _ _ impossible => by cases impossible
  refine (entitled_isManagedProcessRunning state).bind fun managed => ?_
  rcases managed with failure | running
  · exact ended _ _
  cases running with
  | false => exact ended _ _
  | true =>
      have passive : (sleepFor kPollInterval).Calls Passive :=
        ⟨⟨trivial, trivial⟩, fun _ => trivial⟩
      exact ((entitled_passive passive).bind fun _ => onward).weaken fun log holds => holds.1

theorem entitled_awaitExit (state : RuntimeState) (attempts : Nat) :
    Signals (Entitled state) (awaitExit state attempts) fun result log =>
      result = none → Entitled state log := by
  induction attempts with
  | zero => exact signals_done fun log entitled _ => entitled
  | succ attempts ih =>
      have polled := entitled_poll ih
      refine (entitled_waitpid state .noHang).bind fun waited => ?_
      cases waited with
      | reaped status => exact signals_done fun _ _ impossible => by cases impossible
      | running => exact polled.weaken fun log holds => holds.resolve_left (by simp)
      | interrupted => exact polled.weaken fun log holds => holds.resolve_left (by simp)
      | noChild => exact polled.weaken fun log holds => holds.resolve_left (by simp)
      | failed => exact polled.weaken fun log holds => holds.resolve_left (by simp)

theorem entitled_forceStop {state : RuntimeState} (positive : 0 < state.pid) :
    Signals (Entitled state) (forceStop state) fun _ => anything := by
  refine (entitled_isManagedProcessRunning state).bind fun beforeKill => ?_
  rcases beforeKill with failure | running
  · exact signals_done fun _ _ => trivial
  cases running with
  | false => exact signals_done fun _ _ => trivial
  | true =>
      have unwaiting : Unwaiting (.emitLog .warning
          (ascii "sing-box did not stop; sending SIGKILL")) := trivial
      have told : Signals (fun log => Entitled state log ∧ JustMatched log state)
          (emitLog .warning (ascii "sing-box did not stop; sending SIGKILL"))
            fun _ log => Entitled state log ∧ JustMatched log state :=
        signals_call (fun _ _ => trivial) fun log answer next holds answers =>
          ⟨holds.1.answers unwaiting answers, answers_eq unwaiting answers ▸ holds.2.message _ _⟩
      refine Triple.weaken (told.bind fun _ => (entitled_kill positive .kill).bind
        fun killed => ?_) fun log holds => ⟨holds.1, holds.2 rfl⟩
      split
      · exact signals_done fun _ _ => trivial
      · refine (entitled_awaitExit state _).bind fun result => ?_
        cases result with
        | none => exact signals_done fun _ _ => trivial
        | some result => exact signals_done fun _ _ => trivial

theorem entitled_terminateCore (state : RuntimeState) :
    Signals (Entitled state) (terminateCore state) fun _ => anything := by
  unfold terminateCore
  split
  · exact signals_done fun _ _ => trivial
  next positive =>
  have positive : 0 < state.pid := Int.not_le.mp positive
  refine (entitled_isManagedProcessRunning state).bind fun managed => ?_
  rcases managed with failure | running
  · exact signals_done fun _ _ => trivial
  cases running with
  | false => exact signals_done fun _ _ => trivial
  | true =>
      refine Triple.weaken ((entitled_kill positive .term).bind fun signalled => ?_)
        fun log holds => ⟨holds.1, holds.2 rfl⟩
      split
      · exact signals_done fun _ _ => trivial
      · refine (entitled_awaitExit state _).bind fun result => ?_
        cases result with
        | some result => exact signals_done fun _ _ => trivial
        | none => exact (entitled_forceStop positive).weaken fun log holds => holds rfl

/-! ## Own children -/

theorem forked_kill (pid : Int) (signal : Signal) :
    Signals (ForkedHere · pid) (kill pid signal) fun _ => (ForkedHere · pid) := by
  have unwaiting : Unwaiting (.kill pid signal) := trivial
  exact signals_call (fun _ forked _ => Or.inl forked)
    fun _ _ _ forked answers => forked.answers unwaiting answers

/-- Waiting for a process needs nothing. -/
theorem signals_wait {assertion : Log → Prop} (pid : Int) (option : WaitOption) :
    Signals assertion (waitpid pid option) fun _ => anything :=
  signals_call (fun _ _ => trivial) fun _ _ _ _ _ => trivial

theorem signals_fork (role : ChildRole) :
    Signals anything (fork role) fun answer log =>
      ∀ pid, answer = .ok pid → ForkedHere log pid := by
  refine signals_call (fun _ _ => trivial) fun log answer next _ answers pid same => ?_
  obtain ⟨possible, rfl⟩ := answers
  subst same
  exact ⟨possible, log, role, [], rfl, fun option status => List.not_mem_nil⟩

theorem forked_awaitExec (child : Int) :
    Signals (ForkedHere · child) (Setup.awaitExec child) fun result log =>
      ∀ pid, result = .ok pid → pid = child ∧ ForkedHere log child := by
  have refused (failure : Error) : Signals anything
      ((waitpid child .block).bind fun _ => .done (.error failure) : System (Result Int))
        fun result log => ∀ pid, result = .ok pid → pid = child ∧ ForkedHere log child :=
    (signals_wait child .block).bind fun _ => signals_done fun _ _ _ same => by cases same
  have polled : (EffectProgram.call (.pollHandshake child) .done : System Bool).Calls Passive :=
    ⟨⟨trivial, trivial⟩, fun _ => trivial⟩
  have read : (EffectProgram.call (.readHandshake child) .done :
      System HandshakeAnswer).Calls Passive :=
    ⟨⟨trivial, trivial⟩, fun _ => trivial⟩
  refine (forked_passive polled).bind fun ready => ?_
  split
  · exact (forked_kill child .kill).bind fun _ => (refused _).weaken fun _ _ => trivial
  · refine (forked_passive read).bind fun answer => ?_
    cases answer with
    | closed => exact signals_done fun log forked pid same =>
        ⟨(Except.ok.inj same).symm, forked⟩
    | invalid => exact (refused _).weaken fun _ _ => trivial
    | execError detail => exact (refused _).weaken fun _ _ => trivial

theorem signals_spawnCore (setup : Setup) (executable : Path) :
    Signals anything (setup.spawnCore executable) fun result log =>
      ∀ pid, result = .ok pid → ForkedHere log pid := by
  have refused (failure : Error) : Signals anything (.done (.error failure) : System (Result Int))
      fun result log => ∀ pid, result = .ok pid → ForkedHere log pid :=
    signals_done fun _ _ _ same => by cases same
  have opened : Signals anything (openCore executable) fun _ => anything :=
    signals_unsignalling ⟨trivial, fun _ => trivial⟩
  have logOpened : Signals anything openCoreLog fun _ => anything :=
    signals_unsignalling ⟨trivial, fun _ => trivial⟩
  have piped : Signals anything pipe fun _ => anything :=
    signals_unsignalling ⟨trivial, fun _ => trivial⟩
  refine opened.bind fun coreOpened => ?_
  split
  · exact refused _
  refine logOpened.bind fun opened => ?_
  split
  · exact refused _
  refine piped.bind fun handshake => ?_
  cases handshake with
  | error detail => exact refused _
  | ok _ =>
      refine (signals_fork _).bind fun forked => ?_
      cases forked with
      | error detail => exact (refused _).weaken fun _ _ => trivial
      | ok child =>
          refine ((forked_awaitExec child).imp fun result log known pid same => ?_).weaken
            fun log known => known child rfl
          obtain ⟨rfl, forked⟩ := known pid same
          exact forked

theorem forked_discardChild (fuel : Nat) (child : Int) (failure : Error) :
    Signals (ForkedHere · child) (Setup.discardChild fuel child failure) fun _ => anything := by
  refine (forked_kill child .kill).bind fun killed => ?_
  split
  · exact signals_done fun _ _ => trivial
  · have reaped : (iterate (Setup.reapStep child) fuel ()).Calls Unsignalling := by
      refine Calls.iterate (fun _ => ?_) fuel ()
      have waits : (waitpid child .block).Calls Unsignalling := ⟨trivial, fun _ => trivial⟩
      refine waits.bind fun waited => ?_
      cases waited with
      | _ => trivial
    exact ((signals_unsignalling reaped).weaken fun _ _ => trivial).bind fun _ =>
      signals_done fun _ _ => trivial

/-! ## Launching a core -/

section Launching

variable (setup : Setup)

theorem passive_saveState (state : RuntimeState) : (setup.saveState state).Calls Passive := by
  have directory : (ensureDirectory setup.paths.runtimeDir 0o755).Calls Passive := by
    refine (makesDirectories_ensureDirectory _ _).imp fun operation makes => ?_
    cases operation with
    | lstat path => exact ⟨trivial, trivial⟩
    | mkdir path mode => exact ⟨trivial, trivial⟩
    | chmod path mode => exact ⟨trivial, trivial⟩
    | _ => exact makes.elim
  exact directory.andThen fun _ => ⟨⟨trivial, trivial⟩, fun _ => trivial⟩

theorem passive_lookForTun (started timeout : Nat) (lastReported : Int) :
    (setup.lookForTun started timeout lastReported).Calls Passive := by
  refine ⟨⟨trivial, trivial⟩, fun present => ?_⟩
  cases present with
  | true => trivial
  | false =>
      refine ⟨⟨trivial, trivial⟩, fun later => ?_⟩
      simp only [done_bind]
      split
      · exact ⟨⟨trivial, trivial⟩, fun _ => ⟨⟨trivial, trivial⟩, fun _ => trivial⟩⟩
      · exact ⟨⟨trivial, trivial⟩, fun _ => trivial⟩

/-- How a turn of the loop leaves an own child. -/
def StillForked (pid : Int) : Int ⊕ Result TunWait → Log → Prop
  | .inl _ => fun log => ForkedHere log pid
  | .inr result => fun log => result ≠ .ok .coreExited → ForkedHere log pid

theorem forked_waitForTunStep (pid : Int) (started timeout : Nat) (lastReported : Int) :
    Signals (ForkedHere · pid) (setup.waitForTunStep pid started timeout lastReported)
      (StillForked pid) := by
  have clock : steadyClock.Calls Passive := ⟨⟨trivial, trivial⟩, fun _ => trivial⟩
  refine (forked_passive clock).bind fun now => ?_
  split
  · exact signals_done fun _ forked _ => forked
  have looked : Signals (ForkedHere · pid) (setup.lookForTun started timeout lastReported)
      (StillForked pid) := by
    refine (forked_passive (passive_lookForTun setup started timeout lastReported)).imp ?_
    rintro (next | result) log forked
    · exact forked
    · exact fun _ => forked
  refine (forked_waitpid pid .noHang).bind fun waited => ?_
  cases waited with
  | reaped status => exact signals_done fun _ _ impossible => absurd rfl impossible
  | failed => exact signals_done fun _ holds _ => holds.resolve_left (by simp)
  | running => exact looked.weaken fun log holds => holds.resolve_left (by simp)
  | interrupted => exact looked.weaken fun log holds => holds.resolve_left (by simp)
  | noChild => exact looked.weaken fun log holds => holds.resolve_left (by simp)

/-- Unless the core was found to have exited, it is still an own child. -/
theorem forked_waitForTun (fuel : Nat) (pid : Int) (timeout : Nat) :
    Signals (ForkedHere · pid) (setup.waitForTun fuel pid timeout) fun result log =>
      result ≠ .ok .coreExited → ForkedHere log pid := by
  have clock : steadyClock.Calls Passive := ⟨⟨trivial, trivial⟩, fun _ => trivial⟩
  refine (forked_passive clock).bind fun started => ?_
  refine Triple.iterate (fun _ => still_calling.stable (ForkedHere · pid)) (fun _ _ _ => trivial)
    trivial (fun lastReported => ?_) fuel (-1)
  refine (forked_waitForTunStep setup pid started timeout lastReported).imp ?_
  rintro (next | result) log holds
  · exact holds
  · exact signals_done (fun _ => id) log holds

theorem unsignalling_clearState : clearState.Calls Unsignalling := by
  refine ⟨trivial, fun answer => ?_⟩
  cases answer with
  | _ => trivial

theorem unsignalling_awaitTunRemoval (code : ErrorCode) :
    (setup.awaitTunRemoval code).Calls Unsignalling :=
  (setup.harmless_awaitTunRemoval code).imp fun _ => unsignalling_of_harmless

theorem unsignalling_retryAfter (lastError : Error) :
    (setup.retryAfter lastError).Calls Unsignalling := by
  refine unsignalling_clearState.bind fun result => ?_
  cases result with
  | error failure => trivial
  | ok _ =>
      refine (unsignalling_awaitTunRemoval setup _).bind fun result => ?_
      cases result with
      | error failure => trivial
      | ok _ => trivial

theorem signals_retryAfter (lastError : Error) :
    Signals anything (setup.retryAfter lastError) fun _ => anything :=
  signals_unsignalling (unsignalling_retryAfter setup lastError)

/-- The clean-up of an own child; what follows signals nothing. -/
theorem forked_cleanUp (state : RuntimeState) {next : Result Unit → System Setup.AttemptEnd}
    (calls : ∀ result, (next result).Calls Unsignalling) :
    Signals (ForkedHere · state.pid) ((terminateCore state).bind next) fun _ => anything := by
  have terminated : Signals (ForkedHere · state.pid) (terminateCore state) fun _ => anything :=
    (entitled_terminateCore state).weaken fun log forked => Or.inr forked
  exact terminated.bind fun result => signals_unsignalling (calls result)

theorem forked_recordRunning (state : RuntimeState) :
    Signals (ForkedHere · state.pid) (setup.recordRunning state) fun _ => anything := by
  refine (forked_passive (passive_saveState setup _)).bind fun saved => ?_
  cases saved with
  | ok _ => exact signals_done fun _ _ => trivial
  | error failure =>
      refine forked_cleanUp { state with phase := ascii "running" } fun result => ?_
      cases result with
      | error failure => trivial
      | ok _ =>
          refine unsignalling_clearState.bind fun _ => ?_
          refine (unsignalling_awaitTunRemoval setup _).bind fun result => ?_
          cases result with
          | error failure => trivial
          | ok _ => trivial

theorem forked_awaitReady (fuel : Nat) (state : RuntimeState) :
    Signals (ForkedHere · state.pid) (setup.awaitReady fuel state) fun _ => anything := by
  refine (forked_waitForTun setup fuel state.pid _).bind fun waited => ?_
  rcases waited with failure | wait
  · refine (forked_cleanUp state fun result => ?_).weaken fun log known => known (by simp)
    cases result with
    | error failure => trivial
    | ok _ =>
        refine unsignalling_clearState.bind fun _ => ?_
        exact (unsignalling_awaitTunRemoval setup _).bind fun _ => trivial
  cases wait with
  | ready => exact (forked_recordRunning setup state).weaken fun log known => known (by simp)
  | coreExited => exact (signals_retryAfter setup _).weaken fun _ _ => trivial
  | timedOut =>
      refine (forked_cleanUp state fun result => ?_).weaken fun log known => known (by simp)
      cases result with
      | error failure => trivial
      | ok _ => exact unsignalling_retryAfter setup _

theorem forked_superviseCore (fuel : Nat) (state : RuntimeState) :
    Signals (ForkedHere · state.pid) (setup.superviseCore fuel state) fun _ => anything := by
  refine (forked_passive (passive_saveState setup state)).bind fun saved => ?_
  cases saved with
  | ok _ => exact forked_awaitReady setup fuel state
  | error failure =>
      refine forked_cleanUp state fun result => ?_
      cases result with
      | error failure => trivial
      | ok _ =>
          refine (unsignalling_awaitTunRemoval setup _).bind fun result => ?_
          cases result with
          | error failure => trivial
          | ok _ => trivial

theorem signals_launchCore (fuel : Nat) (plan : Setup.LaunchPlan) (autoRedirect : Bool) :
    Signals anything (setup.launchCore fuel plan autoRedirect) fun _ => anything := by
  refine (signals_spawnCore setup plan.core.executable).bind fun spawned => ?_
  cases spawned with
  | error failure => exact signals_done fun _ _ => trivial
  | ok child =>
      have read : (processStartTicks child).Calls Passive :=
        ⟨⟨trivial, trivial⟩, fun _ => trivial⟩
      refine ((forked_passive read).bind fun ticks => ?_).weaken fun log known => known child rfl
      cases ticks with
      | error failure =>
          exact (forked_discardChild fuel child failure).bind fun _ =>
            signals_done fun _ _ => trivial
      | ok startTicks =>
          exact forked_superviseCore setup fuel
            (Setup.LaunchPlan.runtimeState plan autoRedirect child startTicks)

end Launching

/-! ## Start and stop -/

section Calls

variable (setup : Setup)

theorem signals_attempt (fuel : Nat) (plan : Setup.LaunchPlan) (autoRedirect : Bool)
    (lastError : Error) (routingFailure : Bool) :
    Signals anything (setup.attempt fuel plan autoRedirect lastError routingFailure)
      fun _ => anything := by
  have returned (result : Result ProxyStatus) : Signals anything
      (.done (.inr result) : System Setup.AttemptEnd) fun _ => anything :=
    signals_done fun _ _ => trivial
  have looked : setup.tunExists.Calls Unsignalling := ⟨trivial, fun _ => trivial⟩
  refine (signals_unsignalling looked).bind fun present => ?_
  split
  · exact returned _
  have silent : (.done () : System Unit).Calls Unsignalling := trivial
  have logged (level : LogLevel) (message : Bytes) : (emitLog level message).Calls Unsignalling :=
    ⟨trivial, fun _ => trivial⟩
  refine (signals_unsignalling (.ite silent (logged _ _))).bind fun _ => ?_
  split
  · exact returned _
  next json _ =>
  have written : (writeFileAtomic .coreConfig json 0o600).Calls Unsignalling :=
    ⟨trivial, fun _ => trivial⟩
  refine (signals_unsignalling written).bind fun result => ?_
  cases result with
  | error failure => exact returned _
  | ok _ =>
      have check : (runCapture (setup.checkCommand plan.core.executable)).Calls Unsignalling :=
        ⟨trivial, fun _ => trivial⟩
      refine (signals_unsignalling check).bind fun checked => ?_
      split
      · exact returned _
      · exact signals_launchCore setup fuel plan autoRedirect

theorem signals_attempts (fuel : Nat) (plan : Setup.LaunchPlan) :
    Signals anything (setup.attempts fuel plan) fun _ => anything := by
  refine (signals_attempt setup fuel plan true Setup.initialError false).bind fun first => ?_
  rcases first with ⟨lastError, routingFailure⟩ | result
  · refine (signals_attempt setup fuel plan false lastError routingFailure).bind fun second => ?_
    rcases second with ⟨lastError, routingFailure⟩ | result
    · exact signals_done fun _ _ => trivial
    · exact signals_done fun _ _ => trivial
  · exact signals_done fun _ _ => trivial

theorem signals_startFresh (fuel : Nat) (terminatedPrevious : Bool) :
    Signals anything (setup.startFresh fuel terminatedPrevious) fun _ => anything := by
  have refused (failure : Error) : Signals anything
      (.done (.error failure) : System (Result ProxyStatus)) fun _ => anything :=
    signals_done fun _ _ => trivial
  have removed : (if terminatedPrevious then setup.awaitTunRemoval .coreStartFailure
      else .done (.ok ())).Calls Unsignalling := by
    split
    · exact unsignalling_awaitTunRemoval setup _
    · trivial
  refine (signals_unsignalling unsignalling_clearState).andThen (fun _ => ?_) refused
  refine (signals_unsignalling removed).andThen (fun _ => ?_) refused
  exact (signals_harmless setup.harmless_makePlan).andThen
    (fun plan => signals_attempts setup fuel plan) refused

theorem signals_loadState :
    Signals anything loadState fun result log => ∀ state, result = .ok state →
      Entitled state log := by
  have read : Signals anything (readTextFile .state) fun content log =>
      (⟨.readTextFile .state, content⟩ : Sigma SystemAnswer) ∈ log := by
    refine signals_call (fun _ _ => trivial) fun log content next _ answers => ?_
    obtain ⟨-, rfl⟩ := answers
    exact List.mem_append_right log List.mem_cons_self
  refine read.bind fun content => signals_done fun log member state parsed => ?_
  exact Or.inl ⟨content, member, parsed⟩

theorem signals_start (fuel : Nat) : Signals anything (setup.start fuel) fun _ => anything := by
  refine signals_loadState.bind fun loaded => ?_
  cases loaded with
  | error failure => exact (signals_startFresh setup fuel false).weaken fun _ _ => trivial
  | ok existing =>
      refine ((entitled_isManagedProcessRunning existing).bind fun running => ?_).weaken
        fun log known => known existing rfl
      have fresh (terminatedPrevious : Bool) {assertion : Log → Prop} : Signals assertion
          (setup.startFresh fuel terminatedPrevious) fun _ => anything :=
        (signals_startFresh setup fuel terminatedPrevious).weaken fun _ _ => trivial
      rcases running with failure | running
      · exact fresh false
      cases running with
      | false => exact fresh false
      | true =>
          simp only
          split
          · exact signals_done fun _ _ => trivial
          · have warning : (emitLog .warning
                (ascii "cleaning up incomplete previous start")).Calls Passive :=
              ⟨⟨trivial, trivial⟩, fun _ => trivial⟩
            refine ((entitled_passive warning).bind fun _ =>
              (entitled_terminateCore existing).andThen (fun _ => fresh true) fun failure =>
                signals_done fun _ _ => trivial).weaken fun log holds => holds.1

theorem unsignalling_finishStop : Setup.finishStop.Calls Unsignalling := by
  refine unsignalling_clearState.andThen fun _ => ?_
  exact ⟨trivial, fun _ => trivial⟩

theorem signals_stop : Signals anything setup.stop fun _ => anything := by
  refine signals_loadState.bind fun loaded => ?_
  cases loaded with
  | error failure =>
      exact (signals_unsignalling unsignalling_clearState).weaken fun _ _ => trivial
  | ok state =>
      refine ((entitled_isManagedProcessRunning state).bind fun running => ?_).weaken
        fun log known => known state rfl
      have stale {assertion : Log → Prop} :
          Signals assertion Setup.stopStale fun _ => anything := by
        have calls : Setup.stopStale.Calls Unsignalling :=
          ⟨trivial, fun _ => unsignalling_finishStop⟩
        exact (signals_unsignalling calls).weaken fun _ _ => trivial
      rcases running with failure | running
      · exact stale
      cases running with
      | false => exact stale
      | true =>
          have rest : ((setup.awaitTunRemoval .stateError).andThen fun _ =>
              Setup.finishStop).Calls Unsignalling :=
            (unsignalling_awaitTunRemoval setup _).andThen fun _ => unsignalling_finishStop
          exact ((entitled_terminateCore state).andThen (fun _ => signals_unsignalling rest)
            fun failure => signals_done fun _ _ => trivial).weaken fun log holds => holds.1

end Calls

/-! ## Utilities -/

theorem passive_readOutput (command : UtilityCommand) (output : ProcessOutput) :
    (readOutput command output).Calls Passive := by
  refine ⟨⟨trivial, trivial⟩, fun stdoutChunk => ⟨⟨trivial, trivial⟩, fun stderrChunk => ?_⟩⟩
  have reported : (reportProgress command stderrChunk).Calls Passive := by
    unfold reportProgress
    split
    · exact ⟨⟨trivial, trivial⟩, fun _ => trivial⟩
    · trivial
  exact reported.bind fun _ => trivial

theorem forked_killChild (child : Int) (failure : Error) :
    Signals (ForkedHere · child) (killChild child failure) fun _ => anything :=
  (forked_kill child .kill).bind fun _ => (signals_wait child .block).bind fun _ =>
    signals_done fun _ _ => trivial

theorem signals_finishCapture (command : UtilityCommand) (child : Int) (output : ProcessOutput)
    (exited : Option ExitStatus) :
    Signals (fun log => exited = none → ForkedHere log child)
      (finishCapture command child output exited) fun _ => anything := by
  cases exited with
  | none => exact (forked_killChild child _).weaken fun log known => known rfl
  | some status =>
      have calls := (passive_readOutput command output).imp fun _ passive => passive.1
      exact ((signals_unsignalling calls).weaken fun _ _ => trivial).bind fun _ =>
        signals_done fun _ _ => trivial

/-- Where the loop has not seen the child exit, it is still an own child. -/
def StillRunning (child : Int) :
    ProcessOutput ⊕ (ProcessOutput × Option ExitStatus) → Log → Prop
  | .inl _ => fun log => ForkedHere log child
  | .inr (_, exited) => fun log => exited = none → ForkedHere log child

theorem forked_captureStep (command : UtilityCommand) (child : Int) (deadline : Nat)
    (output : ProcessOutput) :
    Signals (ForkedHere · child) (captureStep command child deadline output)
      (StillRunning child) := by
  have clock : steadyClock.Calls Passive := ⟨⟨trivial, trivial⟩, fun _ => trivial⟩
  have polls : pollOutput.Calls Passive := ⟨⟨trivial, trivial⟩, fun _ => trivial⟩
  refine (forked_passive clock).bind fun now => ?_
  split
  · exact signals_done fun _ forked _ => forked
  refine (forked_passive (passive_readOutput command output)).bind fun output => ?_
  have polled : Signals (ForkedHere · child) (pollOutput.bind fun _ => .done (.inl output))
      (StillRunning child) :=
    (forked_passive polls).bind fun _ => signals_done fun _ => id
  refine (forked_waitpid child .noHang).bind fun waited => ?_
  cases waited with
  | reaped status => exact signals_done fun _ _ impossible => by cases impossible
  | noChild => exact signals_done fun _ holds _ => holds.resolve_left (by simp)
  | failed => exact signals_done fun _ holds _ => holds.resolve_left (by simp)
  | running => exact polled.weaken fun log holds => holds.resolve_left (by simp)
  | interrupted => exact polled.weaken fun log holds => holds.resolve_left (by simp)

theorem forked_captureChild (fuel : Nat) (command : UtilityCommand) (child : Int) :
    Signals (ForkedHere · child) (captureChild fuel command child) fun _ => anything := by
  have sets (stream : ProcessStream) : (setNonBlocking stream).Calls Passive :=
    ⟨⟨trivial, trivial⟩, fun _ => trivial⟩
  have clock : steadyClock.Calls Passive := ⟨⟨trivial, trivial⟩, fun _ => trivial⟩
  refine (forked_passive (sets .stdout)).bind fun first => ?_
  cases first with
  | error detail => exact forked_killChild child _
  | ok _ =>
      refine (forked_passive (sets .stderr)).bind fun second => ?_
      cases second with
      | error detail => exact forked_killChild child _
      | ok _ =>
          refine (forked_passive clock).bind fun started => ?_
          have looped : Signals (ForkedHere · child)
              (iterate (captureStep command child (started + command.timeout)) fuel {})
              fun result log => result.2 = none → ForkedHere log child := by
            refine Triple.iterate
              (fun _ : ProcessOutput => still_calling.stable (ForkedHere · child))
              (fun _ _ _ => trivial) trivial (fun output => ?_) fuel {}
            refine (forked_captureStep command child _ output).imp ?_
            rintro (next | ⟨output, exited⟩) log holds
            · exact holds
            · exact signals_done (fun _ => id) log holds
          exact looped.bind fun result => signals_finishCapture command child result.1 result.2

theorem signals_capture (fuel : Nat) (command : UtilityCommand) :
    Signals anything (capture fuel command) fun _ => anything := by
  have refused (failure : Error) : Signals anything
      (.done (.error failure) : System (Result ProcessOutput)) fun _ => anything :=
    signals_done fun _ _ => trivial
  have pipes : openPipes.Calls Unsignalling := by
    refine ⟨trivial, fun first => ?_⟩
    cases first with
    | error detail => trivial
    | ok _ => exact ⟨trivial, fun _ => trivial⟩
  unfold capture
  split
  · exact refused _
  refine (signals_unsignalling pipes).bind fun opened => ?_
  cases opened with
  | error detail => exact refused _
  | ok _ =>
      refine (signals_fork _).bind fun forked => ?_
      cases forked with
      | error detail => exact (refused _).weaken fun _ _ => trivial
      | ok child =>
          exact (forked_captureChild fuel command child).weaken fun log known => known child rfl

/-! ## All calls -/

theorem calling_of_recording {log next : Log} {operation : SystemCall}
    {answer : SystemAnswer operation}
    (answers : (recording Plausible).answers log operation answer next) :
    calling.answers log operation answer next := by
  cases operation with
  | runCapture command => exact ⟨_, answers.2.symm⟩
  | _ => exact answers

/-- What was done before is not undone. -/
theorem growing (log : Log) (program : System α) :
    Triple (recording Plausible) unwatched (log <+: ·) program fun _ => (log <+: ·) := by
  refine Triple.of_calls (calls_true program) ((still_recording _).stable _) (fun _ _ => trivial)
    trivial (fun _ _ _ _ => trivial) fun before operation answer next grown _ answers => ?_
  exact grown.trans ⟨_, answers.2.symm⟩

/-- Each call of the program does what the program relies on. -/
theorem signals_calls (fuel : Nat) (operation : SystemCall) (log : Log)
    (permits : signalling.permits log operation) :
    Safe (recording Plausible) signalling
      (fun answer next => calling.answers log operation answer next)
      (calls fuel operation) log := by
  by_cases utility : ∃ command, operation = .runCapture command
  · obtain ⟨command, rfl⟩ := utility
    have signals := (signals_capture fuel command log trivial).of_answers
      (still_recording Plausible) fun _ _ _ _ => calling_of_recording
    refine ((signals.and (growing log _ log List.prefix_rfl)).imp
      fun _ _ holds => holds.2).weakenWatch
      (fun _ _ => trivial) (fun _ _ _ permits => permits.1) fun _ => trivial
  · have same : calls fuel operation = .call operation .done := by
      cases operation with
      | runCapture command => exact absurd ⟨command, rfl⟩ utility
      | _ => rfl
    rw [same]
    intro later drifts
    rw [(still_recording Plausible).eq_of_drifts drifts]
    refine ⟨trivial, permits, fun answer next answers last drifts => ⟨trivial, ?_⟩⟩
    rw [(still_recording Plausible).eq_of_drifts drifts]
    exact calling_of_recording answers

theorem maySignal_of_reaches {program : System α} (fuel : Nat)
    (signals : Signals anything program fun _ => anything) {log : Log} {pid : Int}
    {signal : Signal} {next : KillAnswer → System α}
    (reaches : Reaches (recording Plausible) (program.expand (calls fuel), [])
      (.call (.kill pid signal) next, log)) (effective : signal ≠ .null) : MaySignal log pid := by
  have safe : Safe (recording Plausible) signalling (fun _ => anything)
      (program.expand (calls fuel)) [] :=
    (signals [] trivial).expand (still_recording Plausible) (fun _ _ => trivial)
      (fun _ => trivial) fun operation world _ => signals_calls fuel operation world
  exact (safe.of_reaches reaches).permits effective

theorem MaySignal.positive {log : Log} {pid : Int} (may : MaySignal log pid) : 0 < pid := by
  rcases may with forked | ⟨positive, -⟩
  · exact forked.1
  · exact positive

/-- In every run of a start or a stop, whatever the system answers: a signal
that may have an effect goes to a positive pid, which is that of a child that
this run has forked and not reaped, or the recorded one of a process whose
identity the run has checked right before. -/
theorem only_managed_signalled (setup : Setup) (fuel : Nat) :
    (∀ log pid signal next,
      Reaches (recording Plausible) ((setup.start fuel).expand (calls fuel), [])
        (.call (.kill pid signal) next, log) → signal ≠ .null → 0 < pid ∧ MaySignal log pid) ∧
    ∀ log pid signal next,
      Reaches (recording Plausible) (setup.stop.expand (calls fuel), [])
        (.call (.kill pid signal) next, log) → signal ≠ .null → 0 < pid ∧ MaySignal log pid := by
  refine ⟨fun log pid signal next reaches effective => ?_,
    fun log pid signal next reaches effective => ?_⟩
  · have may := maySignal_of_reaches fuel (signals_start setup fuel) reaches effective
    exact ⟨may.positive, may⟩
  · have may := maySignal_of_reaches fuel (signals_stop setup) reaches effective
    exact ⟨may.positive, may⟩

end TunProxy
