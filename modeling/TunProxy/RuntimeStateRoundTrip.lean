import TunProxy.DecimalText
import TunProxy.StoredTexts

/-!
# Saving and loading the runtime state

A state that was saved is loaded exactly as it was, or not at all.  Whatever
the file holds, the start time that is loaded is the number written in it; the
pid is the number written in it unless that does not fit the type of a pid.
-/

namespace TunProxy

open ByteText EffectProgram

/-- The ranges of the types of the fields: a 32-bit `pid_t` and a 64-bit start
time. -/
structure RuntimeState.Typed (state : RuntimeState) : Prop where
  pid : -2 ^ 31 ≤ state.pid ∧ state.pid < 2 ^ 31
  startTicks : state.startTicks < 2 ^ 64

theorem parseInteger_eq_ok {text name : Bytes} {value : Int} :
    parseInteger text name = .ok value ↔
      IsInteger text value ∧ -2 ^ 63 ≤ value ∧ value ≤ 2 ^ 63 - 1 := by
  rw [← parseSigned_eq_some]
  unfold parseInteger
  cases parseSigned (-2 ^ 63) (2 ^ 63 - 1) text with
  | none => simp
  | some found => simp

/-! ## What was saved -/

/-- Only the saved state itself comes out, and only if it is one to be loaded. -/
theorem loadable_of_parseState_writeState {state loaded : RuntimeState} (typed : state.Typed)
    (plain : state.Plain) (parsed : parseState (.ok (writeState state)) = .ok loaded) :
    state.Loadable := by
  rw [parseState_writeState_eq plain] at parsed
  split at parsed
  next pid startTicks readPid readTicks =>
    split at parsed
    · cases parsed
    next positive =>
      split at parsed
      · cases parsed
      next complete =>
        obtain ⟨pidText, -, -⟩ := parseInteger_eq_ok.mp readPid
        obtain ⟨ticksText, -, ticksSmall⟩ := parseInteger_eq_ok.mp readTicks
        obtain rfl := pidText.unique (isInteger_formatInt state.pid)
        obtain rfl := ticksText.unique (.nonnegative (isNumeral_formatNat state.startTicks))
        simp only [not_or, List.isEmpty_iff, not_and_or, not_not] at complete
        have pidSmall := typed.pid.2
        exact ⟨⟨by omega, pidSmall⟩, ⟨by omega, by omega⟩, complete.1, complete.2.1,
          complete.2.2.1, complete.2.2.2.2, complete.2.2.2.1⟩
  next => cases parsed

theorem saved_state {setup : Setup} {state : RuntimeState} {texts saved : StoredTexts}
    (stored : Reaches storing (setup.saveState state, texts) (.done (.ok ()), saved)) :
    saved.state = some (writeState state) := by
  have written : Triple storing unwatched (fun _ => True)
      ((ensureDirectory setup.paths.runtimeDir 0o755).andThen fun _ =>
        writeFileAtomic .state (writeState state) 0o644)
      (fun result texts => result = .ok () → texts.state = some (writeState state)) := by
    apply triple_written
    intro texts next answers
    obtain rfl : next = { texts with state := some (writeState state) } := answers
    rfl
  exact ((written texts trivial).of_reaches stored).result rfl

theorem loaded_state {text : Bytes} {saved last : StoredTexts} {result : Result RuntimeState}
    (holds : saved.state = some text)
    (loaded : Reaches storing (loadState, saved) (.done result, last)) :
    result = parseState (.ok text) := by
  have read : Triple storing unwatched (fun texts => texts.state = some text) loadState
      (fun result _ => result = parseState (.ok text)) := by
    apply triple_read
    intro texts answer next held answers
    obtain ⟨reads, -⟩ : ReadsAs texts.state answer ∧ next = texts := answers
    rw [held] at reads
    exact reads
  exact ((read saved holds).of_reaches loaded).result

/-- After a successful save the load gives exactly the saved state, all nine
fields of it, or it fails; which of the two it is depends on the saved state
alone. -/
theorem runtimeState_round_trip {setup : Setup} {state : RuntimeState}
    {texts saved last : StoredTexts} {result : Result RuntimeState}
    (typed : state.Typed) (plain : state.Plain)
    (stored : Reaches storing (setup.saveState state, texts) (.done (.ok ()), saved))
    (loaded : Reaches storing (loadState, saved) (.done result, last)) :
    (state.Loadable → result = .ok state) ∧
      (¬ state.Loadable → ∃ failure, result = .error failure) ∧
      ∀ other, result = .ok other → other = state := by
  obtain rfl := loaded_state (saved_state stored) loaded
  refine ⟨parseState_writeState plain, fun refused => ?_, fun other parsed => ?_⟩
  · cases parsed : parseState (.ok (writeState state)) with
    | error failure => exact ⟨failure, rfl⟩
    | ok other => exact absurd (loadable_of_parseState_writeState typed plain parsed) refused
  · have loadable := loadable_of_parseState_writeState typed plain parsed
    exact Except.ok.inj (parsed.symm.trans (parseState_writeState plain loadable))

/-- A state with an equals sign in a field, and two ranges in its list. -/
def savedExample : RuntimeState where
  pid := 4321
  startTicks := 7
  executable := ascii "/x/sing=box"
  coreVersion := ascii "1.13.18"
  upstream := ascii "socks5://127.0.0.1:1080"
  routingMode := ascii "auto-redirect"
  upstreamAddress := ascii "127.0.0.1"
  bypassCidrs := [ascii "127.0.0.1/32", ascii "::1/128"]
  phase := ascii "starting"

theorem runtimeState_round_trip_example :
    ∃ saved, Reaches storing (loadState, saved) (.done (.ok savedExample), saved) ∧
      ∀ result last, Reaches storing (loadState, saved) (.done result, last) →
        result = .ok savedExample := by
  have typed : savedExample.Typed := ⟨by decide, by decide⟩
  have plain : savedExample.Plain :=
    ⟨by decide, by decide, by decide, by decide, by decide, by decide, by decide⟩
  have loadable : savedExample.Loadable :=
    ⟨by decide, by decide, by decide, by decide, by decide, by decide, by decide⟩
  have stored : Reaches storing (shippedSetup.saveState savedExample, ⟨none, none⟩)
      (.done (.ok ()), ⟨none, some (writeState savedExample)⟩) :=
    reaches_follow StoredTexts.respond_within (shippedSetup.saveState savedExample) ⟨none, none⟩
  have loaded : Reaches storing (loadState, ⟨none, some (writeState savedExample)⟩)
      (.done (parseState (.ok (writeState savedExample))),
        ⟨none, some (writeState savedExample)⟩) :=
    reaches_follow StoredTexts.respond_within loadState ⟨none, some (writeState savedExample)⟩
  refine ⟨_, ?_, fun result last ran =>
    (runtimeState_round_trip typed plain stored ran).1 loadable⟩
  rw [(runtimeState_round_trip typed plain stored loaded).1 loadable] at loaded
  exact loaded

/-! ## What is in the file -/

/-- The first line of a text that begins with a key and an equals sign, and
what follows there. -/
def FirstEntry (text key value : Bytes) : Prop :=
  ∃ before after, lines text = before ++ (key ++ equals :: value) :: after ∧
    ∀ line ∈ before, ¬ key ++ [equals] <+: line

/-- The value that is looked up is the one of the first line with the key. -/
theorem exists_line_of_lookup {key value : Bytes} {rows : List Bytes}
    {entries : List (Bytes × Bytes)} (plain : equals ∉ key)
    (read : stateEntries rows = some entries)
    (found : entries.lookup key = some value) :
    ∃ before after, rows = before ++ (key ++ equals :: value) :: after ∧
      ∀ line ∈ before, ¬ key ++ [equals] <+: line := by
  induction rows generalizing entries with
  | nil =>
      obtain rfl := Option.some.inj read
      cases found
  | cons row rows ih =>
      simp only [stateEntries] at read
      split at read
      next entry others split rest =>
        obtain rfl := Option.some.inj read
        obtain ⟨front, back⟩ := entry
        obtain ⟨rfl, absent⟩ := eq_of_splitFirst split
        by_cases same : key = front
        · subst same
          obtain rfl : back = value := by simpa using found
          exact ⟨[], rows, rfl, by simp⟩
        · have later : others.lookup key = some value := by
            have different : (key == front) = false := beq_eq_false_iff_ne.mpr same
            simpa only [List.lookup_cons, different] using found
          obtain ⟨before, after, rfl, none⟩ := ih rest later
          refine ⟨(front ++ equals :: back) :: before, after, rfl, ?_⟩
          intro line member
          rcases List.mem_cons.mp member with rfl | member
          · rintro ⟨more, whole⟩
            rw [List.append_assoc] at whole
            have keyFirst := splitFirst_append more plain
            rw [show key ++ equals :: more = front ++ equals :: back from whole,
              splitFirst_append back absent] at keyFirst
            exact same (Prod.mk.inj (Option.some.inj keyFirst)).1.symm
          · exact none line member
      next => cases read

theorem firstEntry_of_parseInteger {text key name : Bytes} {entries : List (Bytes × Bytes)}
    {value : Int} (plain : equals ∉ key) (read : stateEntries (lines text) = some entries)
    (parsed : parseInteger (stateValue entries key) name = .ok value) :
    ∃ written, FirstEntry text key written ∧ IsInteger written value ∧
      -2 ^ 63 ≤ value ∧ value ≤ 2 ^ 63 - 1 := by
  have bounds := parseInteger_eq_ok.mp parsed
  cases found : entries.lookup key with
  | none =>
      simp only [stateValue, found, Option.getD_none] at bounds
      cases bounds.1 with
      | nonnegative numeral => exact absurd rfl numeral.ne_nil
  | some written =>
      simp only [stateValue, found, Option.getD_some] at bounds
      exact ⟨written, exists_line_of_lookup plain read found, bounds⟩

/-- The numbers of a loaded identity, before the pid is narrowed. -/
theorem numbers_of_parseState {text : Bytes} {state : RuntimeState}
    (loaded : parseState (.ok text) = .ok state) :
    ∃ pidText ticksText, ∃ pid ticks : Int,
      FirstEntry text (ascii "pid") pidText ∧ IsInteger pidText pid ∧
      FirstEntry text (ascii "start_ticks") ticksText ∧ IsInteger ticksText ticks ∧
      0 < pid ∧ pid ≤ 2 ^ 63 - 1 ∧ 0 < ticks ∧
      state.pid = toPid pid ∧ state.startTicks = ticks.toNat := by
  unfold parseState at loaded
  simp only at loaded
  split at loaded
  · cases loaded
  next entries read =>
    split at loaded
    next pid startTicks readPid readTicks =>
      split at loaded
      · cases loaded
      next positive =>
        split at loaded
        · cases loaded
        · obtain rfl := Except.ok.inj loaded
          obtain ⟨pidText, pidLine, pidNumber, -, pidHigh⟩ :=
            firstEntry_of_parseInteger (by decide) read readPid
          obtain ⟨ticksText, ticksLine, ticksNumber, -, -⟩ :=
            firstEntry_of_parseInteger (by decide) read readTicks
          exact ⟨pidText, ticksText, pid, startTicks, pidLine, pidNumber, ticksLine, ticksNumber,
            by omega, pidHigh, by omega, rfl, rfl⟩
    · cases loaded

theorem toPid_eq_iff {value : Int} (positive : 0 < value) :
    0 < toPid value ∧ toPid value = value ↔ value < 2 ^ 31 := by
  unfold toPid
  rw [Int.bmod_def]
  omega

/-- The identity that is loaded is the one written in the first lines with its
keys: always the start time, and the pid as long as it is a `pid_t`. -/
theorem identity_loaded_faithfully {text : Bytes} {state : RuntimeState}
    (loaded : parseState (.ok text) = .ok state) :
    ∃ pidText ticksText, ∃ pid ticks : Int,
      FirstEntry text (ascii "pid") pidText ∧ IsInteger pidText pid ∧
      FirstEntry text (ascii "start_ticks") ticksText ∧ IsInteger ticksText ticks ∧
      0 < state.startTicks ∧ (state.startTicks : Int) = ticks ∧
      (0 < state.pid ∧ state.pid = pid ↔ pid < 2 ^ 31) := by
  obtain ⟨pidText, ticksText, pid, ticks, pidLine, pidNumber, ticksLine, ticksNumber, positive, -,
    ticksPositive, statePid, stateTicks⟩ := numbers_of_parseState loaded
  refine ⟨pidText, ticksText, pid, ticks, pidLine, pidNumber, ticksLine, ticksNumber, ?_, ?_, ?_⟩
  · omega
  · omega
  · rw [statePid]
    exact toPid_eq_iff positive

/-- A state file with the given text for the pid. -/
def stateFile (pid : Bytes) : Bytes :=
  ascii "pid" ++ equals :: pid ++ newline ::
    ascii ("start_ticks=7\nexecutable=/x/sing-box\ncore_version=1\n" ++
    "upstream=socks5://127.0.0.1:1080\nrouting_mode=tun-route\nphase=running\n")

/-- What is loaded from the file when the pid is the given number. -/
def stateWithPid (pid : Int) : RuntimeState where
  pid := pid
  startTicks := 7
  executable := ascii "/x/sing-box"
  coreVersion := ascii "1"
  upstream := ascii "socks5://127.0.0.1:1080"
  routingMode := ascii "tun-route"
  upstreamAddress := []
  bypassCidrs := []
  phase := ascii "running"

theorem identity_loaded_faithfully_example : ∃ pidText, ∃ pid : Int,
    FirstEntry (stateFile (ascii "4321")) (ascii "pid") pidText ∧ IsInteger pidText pid ∧
      (0 < (stateWithPid 4321).pid ∧ (stateWithPid 4321).pid = pid ↔ pid < 2 ^ 31) := by
  have loaded : parseState (.ok (stateFile (ascii "4321"))) = .ok (stateWithPid 4321) := by
    decide +kernel
  obtain ⟨pidText, -, pid, -, line, number, -, -, -, -, faithful⟩ :=
    identity_loaded_faithfully loaded
  exact ⟨pidText, pid, line, number, faithful⟩

theorem firstEntry_stateFile {pid : Bytes} (absent : newline ∉ pid) :
    FirstEntry (stateFile pid) (ascii "pid") pid := by
  have absentLine : newline ∉ ascii "pid" ++ equals :: pid := by
    simp only [List.mem_append, List.mem_cons, not_or]
    exact ⟨by decide, by decide, absent⟩
  exact ⟨[], _, lines_append _ absentLine, by simp⟩

/-- The pid 4294967297 is loaded as the pid 1. -/
theorem identity_narrowed :
    parseState (.ok (stateFile (ascii "4294967297"))) = .ok (stateWithPid 1) ∧
      FirstEntry (stateFile (ascii "4294967297")) (ascii "pid") (ascii "4294967297") ∧
      IsInteger (ascii "4294967297") 4294967297 ∧
      ∀ pid, IsInteger (ascii "4294967297") pid → (stateWithPid 1).pid ≠ pid := by
  have number : IsInteger (ascii "4294967297") 4294967297 := isInteger_formatInt 4294967297
  refine ⟨by decide +kernel, firstEntry_stateFile (by decide), number, fun pid other same => ?_⟩
  have narrowed : (4294967297 : Int) = 1 := (number.unique other).trans same.symm
  exact absurd narrowed (by decide)

end TunProxy
