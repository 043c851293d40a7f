import TunProxy.CaptureDescriptors
import TunProxy.DescriptorTable

/-!
# The child of a capture

Between the fork and the execution of the utility the child puts the writing
ends of the pipes in the place of its output and gives up its capabilities.  The
utility gets no other descriptor than those that its parent keeps on `exec`, and
where the child runs as root it gets no capability.
-/

namespace TunProxy

open ByteText DescriptorTable EffectProgram CaptureDescriptors

namespace CaptureChild

/-! ## The program -/

/-- What `prctl` gives for `PR_CAP_AMBIENT_CLEAR_ALL`. -/
inductive AmbientAnswer
  | cleared
  /-- `EINVAL`. -/
  | unknown
  | failed

inductive ChildCall
  | dup2 (old new : Nat)
  | close (fd : Nat)
  | geteuid
  | getSecurebits
  | setSecurebits (bits : Nat)
  | clearAmbient
  /-- `capset` with empty sets. -/
  | capset
  | execv (path : Bytes) (arguments : List Bytes)
  | exit (code : Nat)

/-- A success of `execv` does not return. -/
abbrev ChildAnswer : ChildCall → Type
  | .geteuid => Nat
  | .getSecurebits => Option Nat
  | .setSecurebits _ => Bool
  | .clearAmbient => AmbientAnswer
  | .capset => Bool
  | .execv _ _ => Bool
  | .dup2 _ _ | .close _ | .exit _ => Unit

abbrev ChildProgram (α : Type) : Type :=
  EffectProgram ChildAnswer α

/-- `SECBIT_NOROOT`: root gets no capability by executing something. -/
def secbitNoroot : Nat := 1

def secbitNorootLocked : Nat := 2

def secbitNoSetuidFixup : Nat := 4

def secbitNoSetuidFixupLocked : Nat := 8

def requiredSecurebits : Nat :=
  secbitNoroot ||| secbitNorootLocked ||| secbitNoSetuidFixup ||| secbitNoSetuidFixupLocked

/-- The part of `dropUtilityCapabilities` that sets the required bits. -/
def raiseSecurebits : ChildProgram Bool :=
  .call .getSecurebits fun
  | none => .done false
  | some current =>
      if current &&& requiredSecurebits ≠ requiredSecurebits then
        .call (.setSecurebits requiredSecurebits) .done
      else .done true

/-- The part that empties the sets of capabilities. -/
def clearAmbient : ChildProgram Bool :=
  .call .clearAmbient fun
  | .failed => .done false
  | .cleared | .unknown => .call .capset .done

def dropUtilityCapabilities : ChildProgram Bool :=
  .call .geteuid fun (euid : Nat) =>
  if euid ≠ 0 then .done true
  else raiseSecurebits.bind fun raised => if !raised then .done false else clearAmbient

/-- The execution of the utility. -/
def execUtility (arguments : List Bytes) : ChildProgram Unit :=
  .call (.execv (arguments.headD []) arguments) fun executed =>
  if executed then .done () else .call (.exit 127) fun _ => .done ()

/-- What the child of `runCapture` does. -/
def childMain (arguments : List Bytes) (stdoutPipe stderrPipe : Pipe) : ChildProgram Unit :=
  .call (.dup2 stdoutPipe.write 1) fun _ =>
  .call (.dup2 stderrPipe.write 2) fun _ =>
  .call (.close stdoutPipe.read) fun _ =>
  .call (.close stdoutPipe.write) fun _ =>
  .call (.close stderrPipe.read) fun _ =>
  .call (.close stderrPipe.write) fun _ =>
  dropUtilityCapabilities.bind fun dropped =>
  if !dropped then .call (.exit 126) fun _ => .done () else execUtility arguments

/-! ## The child -/

inductive OpenFile
  | readEnd (stream : ProcessStream)
  | writeEnd (stream : ProcessStream)
  /-- A file of the parent, told apart by its descriptor. -/
  | inherited (fd : Nat)

abbrev Table : Type :=
  DescriptorTable.Table OpenFile

/-- A program that is executed. -/
structure Utility where
  path : Bytes
  arguments : List Bytes
  table : Table
  permitted : Nat

/-- The child, with its sets of capabilities. -/
structure Child where
  table : Table
  euid : Nat
  securebits : Nat
  permitted : Nat
  effective : Nat
  inheritable : Nat
  ambient : Nat
  bounding : Nat
  executed : Option Utility := none

/-- The capabilities that are permitted after a file is executed that has none of
its own. -/
def Child.execPermitted (child : Child) : Nat :=
  if child.euid = 0 ∧ child.securebits &&& secbitNoroot = 0 then
    child.inheritable ||| child.bounding
  else child.ambient

/-- How the calls may be answered.  Where the ambient set is unknown it is empty;
whether `capset` makes it empty as well is left open. -/
def ChildActs (child : Child) (operation : ChildCall) (answer : ChildAnswer operation)
    (next : Child) : Prop :=
  match operation, answer with
  | .dup2 old new, _ => next = { child with table := dup child.table old new }
  | .close fd, _ => next = { child with table := Function.update child.table fd none }
  | .geteuid, euid => euid = child.euid ∧ next = child
  | .getSecurebits, some bits => bits = child.securebits ∧ next = child
  | .setSecurebits bits, true => next = { child with securebits := bits }
  | .clearAmbient, .cleared => next = { child with ambient := 0 }
  | .clearAmbient, .unknown => child.ambient = 0 ∧ next = child
  | .capset, true => ∃ ambient, (ambient = child.ambient ∨ ambient = 0) ∧
      next = { child with permitted := 0, effective := 0, inheritable := 0, ambient := ambient }
  | .execv path arguments, true => next = { child with
      executed := some ⟨path, arguments, onExec child.table, child.execPermitted⟩ }
  | _, _ => next = child

def childSurroundings : Surroundings ChildAnswer Child where
  answers := ChildActs
  drift _ _ := False

theorem still_childSurroundings : Still childSurroundings :=
  fun _ _ => not_false

/-! ## What is executed -/

/-- Both pipes, the ends of which are closed on `exec`. -/
def ends (stdoutPipe stderrPipe : Pipe) : List (Nat × Descriptor OpenFile) :=
  [(stderrPipe.write, ⟨.writeEnd .stderr, true⟩), (stderrPipe.read, ⟨.readEnd .stderr, true⟩),
    (stdoutPipe.write, ⟨.writeEnd .stdout, true⟩), (stdoutPipe.read, ⟨.readEnd .stdout, true⟩)]

/-- Their descriptors. -/
def fds (stdoutPipe stderrPipe : Pipe) : List Nat :=
  [stderrPipe.write, stderrPipe.read, stdoutPipe.write, stdoutPipe.read]

/-- The pipes were opened by a parent with its standard streams. -/
structure Opened (start : Table) (stdoutPipe stderrPipe : Pipe) : Prop where
  standing : ∀ fd, fd ≤ 2 → start fd ≠ none
  free : ∀ fd ∈ fds stdoutPipe stderrPipe, start fd = none
  distinct : (fds stdoutPipe stderrPipe).Nodup

/-- The table with the output given away. -/
def redirected (start : Table) : Table :=
  Function.update (Function.update start 1 (some ⟨.writeEnd .stdout, false⟩)) 2
    (some ⟨.writeEnd .stderr, false⟩)

/-- The utility that is to be executed, with no capability where root executes it. -/
def IsMeant (start : Table) (arguments : List Bytes) (euid : Nat) (utility : Utility) : Prop :=
  utility.path = arguments.headD [] ∧ utility.arguments = arguments ∧
    utility.table = onExec (redirected start) ∧ (euid = 0 → utility.permitted = 0)

/-- Nothing but the utility is executed. -/
def childWatch (start : Table) (arguments : List Bytes) (euid : Nat) : Watch ChildCall Child where
  holds child := ∀ utility, child.executed = some utility → IsMeant start arguments euid utility
  permits _ _ := True
  cuts := True

/-- Nothing was executed yet. -/
structure Before (euid : Nat) (table : Table) (more : Child → Prop) (child : Child) : Prop where
  executed : child.executed = none
  table : child.table = table
  euid : child.euid = euid
  more : more child

section Child

variable {start table : Table} {arguments : List Bytes} {euid : Nat} {α : Type}
variable {stdoutPipe stderrPipe : Pipe} {more : Child → Prop}

theorem Before.holds {child : Child} (before : Before euid table more child) :
    (childWatch start arguments euid).holds child := by
  intro utility executed
  cases before.executed.symm.trans executed

theorem childCall {operation : ChildCall} {rest : ChildAnswer operation → ChildProgram α}
    {post : α → Child → Prop}
    (answered : ∀ child answer next, Before euid table more child →
      ChildActs child operation answer next →
      Safe childSurroundings (childWatch start arguments euid) post (rest answer) next) :
    Triple childSurroundings (childWatch start arguments euid) (Before euid table more)
      (.call operation rest) post :=
  Triple.call (still_childSurroundings.stable _) (fun _ => Before.holds) (fun _ _ => trivial)
    answered

theorem childDone {value : α} {post : α → Child → Prop}
    (implies : ∀ child, Before euid table more child → post value child) :
    Triple childSurroundings (childWatch start arguments euid) (Before euid table more)
      (.done value) post :=
  Triple.done (still_childSurroundings.stable _) (fun _ => Before.holds) implies

/-- A call that only changes the table. -/
theorem childTable {operation : ChildCall} {rest : ChildAnswer operation → ChildProgram α}
    {post : α → Child → Prop} {later : Table}
    (changes : ∀ child answer next, child.table = table →
      ChildActs child operation answer next → next = { child with table := later })
    (onward : ∀ answer, Triple childSurroundings (childWatch start arguments euid)
      (Before euid later fun _ => True) (rest answer) post) :
    Triple childSurroundings (childWatch start arguments euid) (Before euid table fun _ => True)
      (.call operation rest) post := by
  apply childCall
  intro child answer next before acts
  rw [changes child answer next before.table acts]
  exact onward answer _ ⟨before.executed, rfl, before.euid, trivial⟩

/-! ### Capabilities -/

/-- As root the child gets nothing by executing something. -/
def Rootless (child : Child) : Prop :=
  child.securebits &&& secbitNoroot = secbitNoroot

theorem rootless_of_required {bits : Nat}
    (required : bits &&& requiredSecurebits = requiredSecurebits) :
    bits &&& secbitNoroot = secbitNoroot := by
  have part : requiredSecurebits &&& secbitNoroot = secbitNoroot := by decide
  calc
    bits &&& secbitNoroot = bits &&& (requiredSecurebits &&& secbitNoroot) := by rw [part]
    _ = (bits &&& requiredSecurebits) &&& secbitNoroot := (Nat.and_assoc ..).symm
    _ = secbitNoroot := by rw [required, part]

theorem rootless_raiseSecurebits :
    Triple childSurroundings (childWatch start arguments euid) (Before euid table fun _ => True)
      raiseSecurebits fun raised =>
        Before euid table fun child => raised = true → Rootless child := by
  have keeps {raised : Bool} {child : Child} (before : Before euid table (fun _ => True) child)
      (implies : raised = true → Rootless child) :
      Safe childSurroundings (childWatch start arguments euid) (fun raised =>
        Before euid table fun child => raised = true → Rootless child) (.done raised) child :=
    still_childSurroundings.safe_done before.holds
      ⟨before.executed, before.table, before.euid, implies⟩
  apply childCall
  intro child bits next before acts
  cases bits with
  | none =>
      obtain rfl : next = child := acts
      exact keeps before fun impossible => by cases impossible
  | some current =>
      obtain ⟨rfl, rfl⟩ := acts
      simp only
      split
      · refine childCall ?_ next before
        intro child set next before acts
        cases set with
        | true =>
            obtain rfl : next = _ := acts
            exact keeps ⟨before.executed, before.table, before.euid, trivial⟩
              fun _ => rootless_of_required (Nat.and_self _)
        | false =>
            obtain rfl : next = child := acts
            exact keeps before fun impossible => by cases impossible
      next required =>
        exact keeps before fun _ => rootless_of_required (not_not.mp required)

/-- What is permitted after `exec` is nothing, where the child is root. -/
def Powerless (euid : Nat) (child : Child) : Prop :=
  euid = 0 → child.execPermitted = 0

theorem powerless_capset :
    Triple childSurroundings (childWatch start arguments euid)
      (Before euid table fun child => Rootless child ∧ child.ambient = 0)
      (.call .capset .done) fun dropped =>
        Before euid table fun child => dropped = true → Powerless euid child := by
  have powerless {child : Child} (rootless : Rootless child) (ambient : child.ambient = 0) :
      Powerless euid child := by
    intro _
    unfold Child.execPermitted
    rw [if_neg, ambient]
    rintro ⟨-, bare⟩
    cases rootless.symm.trans bare
  apply childCall
  intro child dropped next before acts
  cases dropped with
  | true =>
      obtain ⟨ambient, isAmbient, rfl⟩ := acts
      have empty : ambient = 0 := by
        rcases isAmbient with rfl | rfl
        · exact before.more.2
        · rfl
      refine childDone (fun _ => id) _
        ⟨before.executed, before.table, before.euid, fun _ => powerless before.more.1 empty⟩
  | false =>
      obtain rfl : next = child := acts
      exact still_childSurroundings.safe_done before.holds
        ⟨before.executed, before.table, before.euid, fun impossible => by cases impossible⟩

theorem powerless_clearAmbient :
    Triple childSurroundings (childWatch start arguments euid) (Before euid table Rootless)
      clearAmbient fun dropped =>
        Before euid table fun child => dropped = true → Powerless euid child := by
  apply childCall
  intro child answer next before acts
  cases answer with
  | cleared =>
      obtain rfl : next = _ := acts
      exact powerless_capset _
        ⟨before.executed, before.table, before.euid, before.more, rfl⟩
  | unknown =>
      obtain ⟨empty, rfl⟩ := acts
      exact powerless_capset _
        ⟨before.executed, before.table, before.euid, before.more, empty⟩
  | failed =>
      obtain rfl : next = child := acts
      exact still_childSurroundings.safe_done before.holds
        ⟨before.executed, before.table, before.euid, fun impossible => by cases impossible⟩

theorem powerless_dropUtilityCapabilities :
    Triple childSurroundings (childWatch start arguments euid) (Before euid table fun _ => True)
      dropUtilityCapabilities fun dropped =>
        Before euid table fun child => dropped = true → Powerless euid child := by
  apply childCall
  rintro child asked next before ⟨same, rfl⟩
  split
  next notRoot =>
    refine still_childSurroundings.safe_done before.holds
      ⟨before.executed, before.table, before.euid, fun _ root => absurd ?_ notRoot⟩
    exact same.trans (before.euid.trans root)
  next =>
    apply Safe.bind (rootless_raiseSecurebits next before)
    intro raised child before
    cases raised with
    | false =>
        exact still_childSurroundings.safe_done before.holds
          ⟨before.executed, before.table, before.euid, fun impossible => by cases impossible⟩
    | true =>
        exact powerless_clearAmbient child
          ⟨before.executed, before.table, before.euid, before.more rfl⟩

/-! ### Descriptors -/

theorem Opened.high (opened : Opened start stdoutPipe stderrPipe) {fd : Nat}
    (member : fd ∈ fds stdoutPipe stderrPipe) : 2 < fd := by
  by_contra low
  exact opened.standing fd (by omega) (opened.free fd member)

/-- A stream is given away. -/
theorem Opened.dup_write (opened : Opened start stdoutPipe stderrPipe) {base : Table} {fd new : Nat}
    {stream : ProcessStream} (low : new ≤ 2) (member : fd ∈ fds stdoutPipe stderrPipe)
    (found : withOwn base (ends stdoutPipe stderrPipe) fd = some ⟨.writeEnd stream, true⟩) :
    dup (withOwn base (ends stdoutPipe stderrPipe)) fd new =
      withOwn (Function.update base new (some ⟨.writeEnd stream, false⟩))
        (ends stdoutPipe stderrPipe) := by
  have high : 2 < fd := opened.high member
  apply dup_withOwn found (by omega)
  intro entry among
  have isEnd : entry.1 ∈ fds stdoutPipe stderrPipe :=
    List.mem_map_of_mem among
  have := opened.high isEnd
  omega

theorem Opened.redirected_free (opened : Opened start stdoutPipe stderrPipe) {fd : Nat}
    (member : fd ∈ fds stdoutPipe stderrPipe) : redirected start fd = none := by
  have high := opened.high member
  unfold redirected
  rw [Function.update_of_ne (by omega), Function.update_of_ne (by omega), opened.free fd member]

/-- An end is closed. -/
theorem childClose {own : List (Nat × Descriptor OpenFile)} {fd : Nat}
    (free : redirected start fd = none) {rest : Unit → ChildProgram α} {post : α → Child → Prop}
    (onward : Triple childSurroundings (childWatch start arguments euid)
      (Before euid (withOwn (redirected start) (own.filter fun entry => entry.1 ≠ fd))
        fun _ => True) (rest ()) post) :
    Triple childSurroundings (childWatch start arguments euid)
      (Before euid (withOwn (redirected start) own) fun _ => True) (.call (.close fd) rest)
      post := by
  refine childTable ?_ fun _ => onward
  rintro child - next same rfl
  rw [same, close_withOwn free]

theorem meant_execUtility :
    Triple childSurroundings (childWatch start arguments euid)
      (Before euid (redirected start) (Powerless euid)) (execUtility arguments)
      fun _ _ => True := by
  apply childCall
  intro child executed next before acts
  cases executed with
  | true =>
      obtain rfl : next = _ := acts
      refine still_childSurroundings.safe_done ?_ trivial
      intro utility same
      obtain rfl := Option.some.inj same
      exact ⟨rfl, rfl, congrArg onExec before.table, before.more⟩
  | false =>
      obtain rfl : next = child := acts
      refine childCall ?_ next before
      intro child answer next before acts
      obtain rfl : next = child := acts
      exact still_childSurroundings.safe_done before.holds trivial

theorem meant_childMain (opened : Opened start stdoutPipe stderrPipe) :
    Triple childSurroundings (childWatch start arguments euid)
      (Before euid (withOwn start (ends stdoutPipe stderrPipe)) fun _ => True)
      (childMain arguments stdoutPipe stderrPipe) fun _ _ => True := by
  obtain ⟨⟨-, bothWrite, -⟩, ⟨readWrite, -⟩, -⟩ :
      (stderrPipe.write ≠ stderrPipe.read ∧ stderrPipe.write ≠ stdoutPipe.write ∧
        stderrPipe.write ≠ stdoutPipe.read) ∧
      (stderrPipe.read ≠ stdoutPipe.write ∧ stderrPipe.read ≠ stdoutPipe.read) ∧
        stdoutPipe.write ≠ stdoutPipe.read := by
    simpa [fds] using opened.distinct
  refine @childTable _ _ _ _ _ _ _ _ (withOwn (Function.update start 1
    (some ⟨.writeEnd .stdout, false⟩)) (ends stdoutPipe stderrPipe)) ?_ fun _ => ?_
  · rintro child - next same rfl
    rw [same, opened.dup_write (by decide) (by simp [fds])]
    simp [withOwn, ends, bothWrite.symm, readWrite.symm]
  refine @childTable _ _ _ _ _ _ _ _ (withOwn (redirected start) (ends stdoutPipe stderrPipe)) ?_
    fun _ => ?_
  · rintro child - next same rfl
    rw [same, opened.dup_write (by decide) (by simp [fds]) (Function.update_self ..)]
    rfl
  apply childClose (opened.redirected_free (by simp [fds]))
  apply childClose (opened.redirected_free (by simp [fds]))
  apply childClose (opened.redirected_free (by simp [fds]))
  apply childClose (opened.redirected_free (by simp [fds]))
  have closed : ((((ends stdoutPipe stderrPipe).filter
      fun entry => entry.1 ≠ stdoutPipe.read).filter
      fun entry => entry.1 ≠ stdoutPipe.write).filter
      fun entry => entry.1 ≠ stderrPipe.read).filter
      (fun entry => entry.1 ≠ stderrPipe.write) = [] := by
    simp [ends]
  rw [closed]
  apply powerless_dropUtilityCapabilities.bind
  intro dropped
  cases dropped with
  | true =>
      apply Triple.weaken meant_execUtility
      exact fun child before => ⟨before.executed, before.table, before.euid, before.more rfl⟩
  | false =>
      apply childCall
      intro child answer next before acts
      obtain rfl : next = child := acts
      exact still_childSurroundings.safe_done before.holds trivial

/-- However the calls are answered, the child executes nothing but the utility; it
has the parent's descriptors that are kept on `exec`, with the pipes for its
output, and no capability where the child is root. -/
theorem child_executes_utility (opened : Opened start stdoutPipe stderrPipe) {child later : Child}
    (starts : child.table = withOwn start (ends stdoutPipe stderrPipe))
    (unexecuted : child.executed = none) {last : ChildProgram Unit}
    (reaches : Reaches childSurroundings (childMain arguments stdoutPipe stderrPipe, child)
      (last, later)) {utility : Utility} (executed : later.executed = some utility) :
    utility.path = arguments.headD [] ∧ utility.arguments = arguments ∧
      utility.table = onExec (redirected start) ∧
      (child.euid = 0 → utility.permitted = 0) := by
  have safe : Safe childSurroundings (childWatch start arguments child.euid) (fun _ _ => True)
      (childMain arguments stdoutPipe stderrPipe) child :=
    meant_childMain opened child ⟨unexecuted, starts, rfl, trivial⟩
  exact (safe.of_reaches reaches).holds utility executed

end Child

/-! ## A child of root -/

/-- The answers to a child that may do what it does. -/
def grantedChild : Responder ChildAnswer Child
  | child, .dup2 old new => some ((), { child with table := dup child.table old new })
  | child, .close fd => some ((), { child with table := Function.update child.table fd none })
  | child, .geteuid => some (child.euid, child)
  | child, .getSecurebits => some (some child.securebits, child)
  | child, .setSecurebits bits => some (true, { child with securebits := bits })
  | child, .clearAmbient => some (.cleared, { child with ambient := 0 })
  | child, .capset =>
      some (true, { child with permitted := 0, effective := 0, inheritable := 0 })
  | child, .execv path arguments => some (true, { child with
      executed := some ⟨path, arguments, onExec child.table, child.execPermitted⟩ })
  | _, .exit _ => none

theorem within_grantedChild : grantedChild.Within childSurroundings id := by
  intro child operation answer next responded
  refine ⟨child, .refl, ?_⟩
  cases operation with
  | geteuid => cases responded; exact ⟨rfl, rfl⟩
  | getSecurebits => cases responded; exact ⟨rfl, rfl⟩
  | capset => cases responded; exact ⟨child.ambient, Or.inl rfl, rfl⟩
  | exit code => cases responded
  | dup2 old new => cases responded; rfl
  | close fd => cases responded; rfl
  | setSecurebits bits => cases responded; rfl
  | clearAmbient => cases responded; rfl
  | execv path arguments => cases responded; rfl

/-- The standard streams. -/
def streams : Table :=
  fun fd => if fd ≤ 2 then some ⟨.inherited fd, false⟩ else none

/-- A child of root with capabilities and two pipes. -/
def rootChild : Child where
  table := withOwn streams (ends ⟨3, 4⟩ ⟨5, 6⟩)
  euid := 0
  securebits := 0
  permitted := 63
  effective := 63
  inheritable := 1
  ambient := 1
  bounding := 63

/-- Before it would have kept them all, and afterwards it has none. -/
theorem child_executes_utility_example : rootChild.execPermitted = 63 ∧
    ∃ utility : Utility, utility.arguments = [ascii "/sing-box", ascii "version"] ∧
      utility.permitted = 0 := by
  have opened : Opened streams ⟨3, 4⟩ ⟨5, 6⟩ :=
    ⟨fun fd low => by simp [streams, low], by decide, by decide⟩
  have ran := reaches_follow within_grantedChild
    (childMain [ascii "/sing-box", ascii "version"] ⟨3, 4⟩ ⟨5, 6⟩) rootChild
  have meant := child_executes_utility opened rfl rfl ran rfl
  exact ⟨rfl, _, meant.2.1, meant.2.2.2 rfl⟩

end CaptureChild

end TunProxy
