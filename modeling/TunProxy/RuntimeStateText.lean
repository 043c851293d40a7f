import TunProxy.ErrorResult

/-!
# The state file

The file that remembers the running core between calls, one `key=value` line
for each field.  Whatever is written is read back, and the identity it names
is a pid with a start time.
-/

namespace TunProxy

open ByteText

structure RuntimeState where
  pid : Int := -1
  startTicks : Nat := 0
  executable : Bytes := []
  coreVersion : Bytes := []
  upstream : Bytes := []
  routingMode : Bytes := []
  upstreamAddress : Bytes := []
  bypassCidrs : List Bytes := []
  phase : Bytes := ascii "running"
  deriving DecidableEq, Repr

/-- The whole text as a `long long`. -/
def parseInteger (text : Bytes) (name : Bytes) : Result Int :=
  match parseSigned (-2 ^ 63) (2 ^ 63 - 1) text with
  | some value => .ok value
  | none => .error (makeError .stateError (ascii "invalid state " ++ name))

/-- The cast of a `long long` to the 32-bit `pid_t`. -/
def toPid (value : Int) : Int :=
  value.bmod (2 ^ 32)

def splitCidrs (text : Bytes) : List Bytes :=
  pieces comma text

def joinCidrs (values : List Bytes) : Bytes :=
  joinWith comma values

/-- The lines as keys and values, if each has an equals sign. -/
def stateEntries : List Bytes → Option (List (Bytes × Bytes))
  | [] => some []
  | line :: rest =>
      match splitFirst equals line, stateEntries rest with
      | some entry, some entries => some (entry :: entries)
      | _, _ => none

/-- The value of a key: `emplace` keeps the first one, and a missing key reads
as the empty text. -/
def stateValue (entries : List (Bytes × Bytes)) (key : Bytes) : Bytes :=
  (entries.lookup key).getD []

/-- `RuntimeStateStore::load` on what `readTextFile` gave. -/
def parseState (content : Result Bytes) : Result RuntimeState :=
  match content with
  | .error _ => .error (makeError .stateError (ascii "runtime state is absent"))
  | .ok text =>
      match stateEntries (lines text) with
      | none => .error (makeError .stateError (ascii "invalid runtime state"))
      | some entries =>
          match parseInteger (stateValue entries (ascii "pid")) (ascii "pid"),
              parseInteger (stateValue entries (ascii "start_ticks")) (ascii "start_ticks") with
          | .ok pid, .ok startTicks =>
              if pid ≤ 0 ∨ startTicks ≤ 0 then
                .error (makeError .stateError (ascii "invalid runtime process identity"))
              else
                let state : RuntimeState := {
                  pid := toPid pid
                  startTicks := startTicks.toNat
                  executable := stateValue entries (ascii "executable")
                  coreVersion := stateValue entries (ascii "core_version")
                  upstream := stateValue entries (ascii "upstream")
                  routingMode := stateValue entries (ascii "routing_mode")
                  upstreamAddress := stateValue entries (ascii "upstream_address")
                  bypassCidrs := splitCidrs (stateValue entries (ascii "bypass_cidrs"))
                  phase := stateValue entries (ascii "phase") }
                if state.executable.isEmpty ∨ state.coreVersion.isEmpty ∨
                    state.upstream.isEmpty ∨
                    (state.phase ≠ ascii "starting" ∧ state.phase ≠ ascii "running") ∨
                    state.routingMode.isEmpty then
                  .error (makeError .stateError (ascii "runtime state is incomplete"))
                else .ok state
          | _, _ =>
              .error (makeError .stateError (ascii "invalid runtime process identity"))

theorem bounds_of_parseInteger {text name : Bytes} {value : Int}
    (parsed : parseInteger text name = .ok value) : -2 ^ 63 ≤ value ∧ value ≤ 2 ^ 63 - 1 := by
  unfold parseInteger at parsed
  split at parsed
  next number =>
    obtain rfl := Except.ok.inj parsed
    unfold parseSigned at number
    have bounds := (Option.filter_eq_some_iff.mp number).2
    simpa only [Bool.and_eq_true, decide_eq_true_eq] using bounds
  next => cases parsed

/-- A state that is loaded has an executable and a start time that fits. -/
theorem sound_of_parseState {content : Result Bytes} {state : RuntimeState}
    (parsed : parseState content = .ok state) :
    state.executable ≠ [] ∧ 0 < state.startTicks ∧ state.startTicks < 2 ^ 63 := by
  unfold parseState at parsed
  split at parsed
  · cases parsed
  split at parsed
  · cases parsed
  split at parsed
  next _ ticks _ readTicks =>
    have bounds := bounds_of_parseInteger readTicks
    split at parsed
    · cases parsed
    next positive =>
      simp only at parsed
      split at parsed
      · cases parsed
      next complete =>
        obtain rfl := Except.ok.inj parsed
        simp only [not_or] at complete
        refine ⟨fun empty => complete.1 (List.isEmpty_iff.mpr empty), ?_⟩
        change 0 < ticks.toNat ∧ ticks.toNat < 2 ^ 63
        omega
  · cases parsed

/-- The text that `RuntimeStateStore::save` writes. -/
def writeState (state : RuntimeState) : Bytes :=
  ascii "pid" ++ equals :: formatInt state.pid ++ newline ::
  (ascii "start_ticks" ++ equals :: formatNat state.startTicks ++ newline ::
  (ascii "executable" ++ equals :: state.executable ++ newline ::
  (ascii "core_version" ++ equals :: state.coreVersion ++ newline ::
  (ascii "upstream" ++ equals :: state.upstream ++ newline ::
  (ascii "routing_mode" ++ equals :: state.routingMode ++ newline ::
  (ascii "upstream_address" ++ equals :: state.upstreamAddress ++ newline ::
  (ascii "bypass_cidrs" ++ equals :: joinCidrs state.bypassCidrs ++ newline ::
  (ascii "phase" ++ equals :: state.phase ++ newline :: []))))))))

/-! ## Round trip -/

/-- A state whose text has nothing that would be read differently. -/
structure RuntimeState.Plain (state : RuntimeState) : Prop where
  executable : newline ∉ state.executable
  coreVersion : newline ∉ state.coreVersion
  upstream : newline ∉ state.upstream
  routingMode : newline ∉ state.routingMode
  upstreamAddress : newline ∉ state.upstreamAddress
  phase : newline ∉ state.phase
  cidrs : ∀ cidr ∈ state.bypassCidrs, cidr ≠ [] ∧ comma ∉ cidr ∧ newline ∉ cidr

/-- A state that `load` accepts once it is written. -/
structure RuntimeState.Loadable (state : RuntimeState) : Prop where
  pid : 0 < state.pid ∧ state.pid < 2 ^ 31
  startTicks : 0 < state.startTicks ∧ state.startTicks < 2 ^ 63
  executable : state.executable ≠ []
  coreVersion : state.coreVersion ≠ []
  upstream : state.upstream ≠ []
  routingMode : state.routingMode ≠ []
  phase : state.phase = ascii "starting" ∨ state.phase = ascii "running"

/-- One written line in front of others. -/
theorem stateEntries_line {key value rest : Bytes} {entries : List (Bytes × Bytes)}
    (keyPlain : equals ∉ key ∧ newline ∉ key) (valuePlain : newline ∉ value)
    (others : stateEntries (lines rest) = some entries) :
    stateEntries (lines (key ++ equals :: value ++ newline :: rest)) =
      some ((key, value) :: entries) := by
  have absent : newline ∉ key ++ equals :: value := by
    simp only [List.mem_append, List.mem_cons, not_or]
    exact ⟨keyPlain.2, by decide, valuePlain⟩
  rw [lines_append rest absent, stateEntries, splitFirst_append _ keyPlain.1, others]

theorem newline_notMem_formatInt {value : Int} : newline ∉ formatInt value := by
  cases value with
  | ofNat number => exact notMem_formatNat _ (by decide)
  | negSucc number =>
      simp only [formatInt, List.mem_cons, not_or]
      exact ⟨by decide, notMem_formatNat _ (by decide)⟩

/-- The written lines, read as keys and values. -/
theorem stateEntries_writeState {state : RuntimeState} (plain : state.Plain) :
    stateEntries (lines (writeState state)) = some
      [(ascii "pid", formatInt state.pid), (ascii "start_ticks", formatNat state.startTicks),
        (ascii "executable", state.executable), (ascii "core_version", state.coreVersion),
        (ascii "upstream", state.upstream), (ascii "routing_mode", state.routingMode),
        (ascii "upstream_address", state.upstreamAddress),
        (ascii "bypass_cidrs", joinCidrs state.bypassCidrs), (ascii "phase", state.phase)] := by
  have cidrs : newline ∉ joinCidrs state.bypassCidrs :=
    notMem_joinWith (by decide) fun cidr member => (plain.cidrs cidr member).2.2
  unfold writeState
  refine stateEntries_line (by decide) newline_notMem_formatInt ?_
  refine stateEntries_line (by decide) (notMem_formatNat _ (by decide)) ?_
  refine stateEntries_line (by decide) plain.executable ?_
  refine stateEntries_line (by decide) plain.coreVersion ?_
  refine stateEntries_line (by decide) plain.upstream ?_
  refine stateEntries_line (by decide) plain.routingMode ?_
  refine stateEntries_line (by decide) plain.upstreamAddress ?_
  refine stateEntries_line (by decide) cidrs ?_
  exact stateEntries_line (by decide) plain.phase rfl

theorem toPid_of_bounds {value : Int} (positive : 0 < value) (small : value < 2 ^ 31) :
    toPid value = value := by
  unfold toPid
  rw [Int.bmod_def]
  omega

/-- What a written state is read as: its numbers have to be read back, and the
fields are checked as they are. -/
theorem parseState_writeState_eq {state : RuntimeState} (plain : state.Plain) :
    parseState (.ok (writeState state)) =
      match parseInteger (formatInt state.pid) (ascii "pid"),
          parseInteger (formatNat state.startTicks) (ascii "start_ticks") with
      | .ok pid, .ok startTicks =>
          if pid ≤ 0 ∨ startTicks ≤ 0 then
            .error (makeError .stateError (ascii "invalid runtime process identity"))
          else if state.executable.isEmpty ∨ state.coreVersion.isEmpty ∨
              state.upstream.isEmpty ∨
              (state.phase ≠ ascii "starting" ∧ state.phase ≠ ascii "running") ∨
              state.routingMode.isEmpty then
            .error (makeError .stateError (ascii "runtime state is incomplete"))
          else .ok { state with pid := toPid pid, startTicks := startTicks.toNat }
      | _, _ => .error (makeError .stateError (ascii "invalid runtime process identity")) := by
  have readCidrs : splitCidrs (joinCidrs state.bypassCidrs) = state.bypassCidrs :=
    pieces_joinWith (fun cidr member => (plain.cidrs cidr member).1)
      fun cidr member => (plain.cidrs cidr member).2.1
  have values := stateEntries_writeState plain
  generalize (writeState state) = text at values ⊢
  unfold parseState
  simp only [values]
  generalize known : [(ascii "pid", formatInt state.pid), _, _, _, _, _, _, _, _] = entries
  have pid : stateValue entries (ascii "pid") = formatInt state.pid := by rw [← known]; rfl
  have startTicks : stateValue entries (ascii "start_ticks") = formatNat state.startTicks := by
    rw [← known]; rfl
  have executable : stateValue entries (ascii "executable") = state.executable := by
    rw [← known]; rfl
  have coreVersion : stateValue entries (ascii "core_version") = state.coreVersion := by
    rw [← known]; rfl
  have upstream : stateValue entries (ascii "upstream") = state.upstream := by rw [← known]; rfl
  have routingMode : stateValue entries (ascii "routing_mode") = state.routingMode := by
    rw [← known]; rfl
  have upstreamAddress : stateValue entries (ascii "upstream_address") =
      state.upstreamAddress := by
    rw [← known]; rfl
  have bypassCidrs : stateValue entries (ascii "bypass_cidrs") =
      joinCidrs state.bypassCidrs := by
    rw [← known]; rfl
  have phase : stateValue entries (ascii "phase") = state.phase := by rw [← known]; rfl
  simp only [pid, startTicks, executable, coreVersion, upstream, routingMode, upstreamAddress,
    bypassCidrs, phase, readCidrs]

/-- What is saved is loaded again, field by field. -/
theorem parseState_writeState {state : RuntimeState} (plain : state.Plain)
    (loadable : state.Loadable) : parseState (.ok (writeState state)) = .ok state := by
  obtain ⟨pid, pidNat⟩ : ∃ pid : Nat, state.pid = pid := ⟨state.pid.toNat, by
    have := loadable.pid.1
    omega⟩
  have pidSmall := loadable.pid.2
  have ticksSmall := loadable.startTicks.2
  have readPid : parseInteger (formatInt state.pid) (ascii "pid") = .ok state.pid := by
    rw [pidNat]
    have read : parseSigned (-2 ^ 63) (2 ^ 63 - 1) (formatNat pid) = some (pid : Int) :=
      parseSigned_formatNat (by omega) (by omega)
    have shown : formatInt (pid : Int) = formatNat pid := rfl
    simp only [parseInteger, shown, read]
  have readTicks : parseInteger (formatNat state.startTicks) (ascii "start_ticks") =
      .ok (state.startTicks : Int) := by
    have read : parseSigned (-2 ^ 63) (2 ^ 63 - 1) (formatNat state.startTicks) =
        some (state.startTicks : Int) := parseSigned_formatNat (by omega) (by omega)
    simp only [parseInteger, read]
  have positive : ¬ (state.pid ≤ 0 ∨ (state.startTicks : Int) ≤ 0) := by
    have := loadable.startTicks.1
    have := loadable.pid.1
    omega
  have complete : ¬ (state.executable.isEmpty = true ∨ state.coreVersion.isEmpty = true ∨
      state.upstream.isEmpty = true ∨
      (state.phase ≠ ascii "starting" ∧ state.phase ≠ ascii "running") ∨
      state.routingMode.isEmpty = true) := by
    simp only [List.isEmpty_iff, loadable.executable, loadable.coreVersion, loadable.upstream,
      loadable.routingMode, or_false, false_or, not_and, ne_eq]
    exact fun notStarting notRunning => loadable.phase.elim notStarting notRunning
  simp only [parseState_writeState_eq plain, readPid, readTicks, positive, complete, if_false,
    toPid_of_bounds loadable.pid.1 loadable.pid.2, Int.toNat_natCast]

end TunProxy
