import TunProxy.ControlSocket
import TunProxy.ProgramRefinement
import TunProxy.RemoteExecution
import TunProxy.ResourceLedger

/-!
# The tool's connection to the daemon

The tool opens a socket, connects it to the path of the daemon and talks over
it.  However the calls are answered the socket is closed exactly once and used
only before; and what goes over it is what the tool sends and receives once it
has a connection.
-/

namespace TunProxy

open ByteText EffectProgram

namespace ControlConnection

/-! ## The program -/

inductive ConnectAnswer
  | connected
  /-- `EACCES`. -/
  | denied
  | failed (detail : Bytes)

/-- The calls of the tool with their descriptor. -/
inductive LinkCall
  | socket
  | connect (fd : Nat) (path : Bytes)
  | close (fd : Nat)
  | transfer (fd : Nat) (operation : IpcOperation)

abbrev LinkAnswer : LinkCall → Type
  | .socket => Option Nat
  | .connect _ _ => ConnectAnswer
  | .close _ => Unit
  | .transfer _ operation => IpcAnswer operation

abbrev LinkProgram (α : Type) : Type :=
  EffectProgram LinkAnswer α

/-- Close a socket that is not connected. -/
def giveUp (fd : Nat) (text : Bytes) : LinkProgram (Result Nat) :=
  .call (.close fd) fun _ => .done (.error (makeError .stateError text))

def connectControlSocket (path : Bytes) : LinkProgram (Result Nat) :=
  if path.isEmpty ∨ ControlSocket.kSunPathSize ≤ path.length then
    .done (.error (makeError .invalidArguments (ascii "control socket path is invalid")))
  else
    .call .socket fun
    | none => .done (.error (makeError .stateError (ascii "cannot create control socket")))
    | some fd =>
        .call (.connect fd path) fun
        | .connected => .done (.ok fd)
        | .denied => giveUp fd (ascii ("permission denied connecting to tunproxyd; " ++
            "the user must belong to the sudo group"))
        | .failed detail => giveUp fd (ascii "cannot connect to tunproxyd at " ++ path ++
            ascii ": " ++ detail)

/-- A program of one end, over a descriptor. -/
def overSocket {α : Type} (fd : Nat) (program : IpcProgram α) : LinkProgram α :=
  program.expand fun operation => .call (.transfer fd operation) .done

/-- The client from its request on, with the connection that it closes. -/
def converse (fuel turns fd : Nat) (command : Command) (argument : Bytes) :
    LinkProgram RemoteOutcome :=
  (overSocket fd (sendIpcFrame fuel ⟨.request, encodeCommand command, argument⟩)).bind fun
  | .error failure => .call (.close fd) fun _ => .done (.error failure, [])
  | .ok () =>
      (iterate (fun printed => overSocket fd (remoteStep fuel printed)) turns []).bind
        fun outcome => .call (.close fd) fun _ => .done outcome

def executeRemote (fuel turns : Nat) (path : Bytes) (command : Command) (argument : Bytes) :
    LinkProgram RemoteOutcome :=
  (connectControlSocket path).bind fun
  | .error failure => .done (.error failure, [])
  | .ok fd => converse fuel turns fd command argument

/-! ## The socket -/

/-- The socket is there from its creation until it is closed. -/
def handling : Handling LinkAnswer Nat where
  takes operation answer :=
    match operation, answer with
    | .socket, some fd => {fd}
    | _, _ => 0
  uses
    | .socket => []
    | .connect fd _ | .close fd | .transfer fd _ => [fd]
  returns operation answer :=
    match operation, answer with
    | .close fd, _ => {fd}
    | _, _ => 0
  returned := by
    intro operation answer resource given
    cases operation with
    | close fd => simpa using given
    | _ => cases given

section Ledger

variable {fuel turns fd : Nat} {held : Multiset Nat}

/-- The last call on a socket. -/
theorem leaves_close {α : Type} {value : α} {kept : α → Multiset Nat} (nothing : kept value = 0) :
    handling.Leaves {fd} (.call (.close fd) fun _ => .done value) kept := by
  have alone : ({fd} : Multiset Nat) = {fd} + 0 := (add_zero _).symm
  rw [alone]
  apply Handling.Leaves.release rfl (fun _ => rfl) fun _ => rfl
  exact fun _ => .done nothing.symm

/-- What goes over the socket leaves it open. -/
theorem leaves_overSocket {α : Type} (isOpen : fd ∈ held) (program : IpcProgram α) :
    handling.Leaves held (overSocket fd program) fun _ => held := by
  induction program with
  | done value => exact .done rfl
  | cut => exact .cut
  | call operation rest ih =>
      apply Handling.Leaves.step
      · simpa [handling] using isOpen
      · exact fun _ => rfl
      · exact fun _ => rfl
      · exact ih

theorem leaves_connectControlSocket (path : Bytes) :
    handling.Leaves 0 (connectControlSocket path) fun result =>
      result.toOption.elim 0 fun fd => {fd} := by
  apply Handling.Leaves.ite
  · exact .done rfl
  apply Handling.Leaves.call (fun _ impossible => by cases impossible)
  intro made others split _
  cases made with
  | none => exact .done split.symm
  | some fd =>
      obtain rfl : others = 0 := by simpa [handling] using split.symm
      have opened : handling.takes .socket (some fd) + 0 = {fd} := add_zero _
      rw [opened]
      apply Handling.Leaves.step
      · simp [handling]
      · exact fun _ => rfl
      · exact fun _ => rfl
      · intro answer
        cases answer with
        | connected => exact .done rfl
        | denied => exact leaves_close rfl
        | failed detail => exact leaves_close rfl

theorem leaves_converse (command : Command) (argument : Bytes) :
    handling.Leaves {fd} (converse fuel turns fd command argument) fun _ => 0 := by
  have isOpen : fd ∈ ({fd} : Multiset Nat) := Multiset.mem_singleton_self fd
  apply (leaves_overSocket isOpen _).bind
  intro sent
  cases sent with
  | error failure => exact leaves_close rfl
  | ok _ =>
      have looped : handling.Leaves {fd}
          (iterate (fun printed => overSocket fd (remoteStep fuel printed)) turns [])
          fun _ => {fd} :=
        Handling.Leaves.iterate_keeps (fun _ => leaves_overSocket isOpen _) turns []
      exact looped.bind fun _ => leaves_close rfl

theorem leaves_executeRemote (path : Bytes) (command : Command) (argument : Bytes) :
    handling.Leaves 0 (executeRemote fuel turns path command argument) fun _ => 0 := by
  apply (leaves_connectControlSocket path).bind
  intro connected
  cases connected with
  | error failure => exact .done rfl
  | ok fd => exact leaves_converse command argument

end Ledger

/-! ## What goes over the connection -/

/-- A transfer without its descriptor; nothing else is seen. -/
def seen : Sigma LinkAnswer → Option (Sigma IpcAnswer)
  | ⟨.transfer _ operation, answer⟩ => some ⟨operation, answer⟩
  | _ => none

/-- The calls that are not seen. -/
def Unseen : LinkCall → Prop
  | .transfer _ _ => False
  | _ => True

section Refinement

variable {fuel turns fd : Nat}

theorem refines_overSocket {α : Type} (program : IpcProgram α) :
    Refines seen (overSocket fd program) program := by
  induction program with
  | done value => exact .done value
  | cut => exact .cut
  | call operation rest ih => exact .shown id (fun _ => rfl) ih

/-- A socket is closed out of sight. -/
theorem refines_close {α : Type} {rest : Unit → LinkProgram α} {above : IpcProgram α}
    (onward : Refines seen (rest ()) above) : Refines seen (.call (.close fd) rest) above :=
  .unseen (fun _ => rfl) fun _ => onward

/-- With a connection the tool does what it does without descriptors. -/
theorem refines_converse (command : Command) (argument : Bytes) :
    Refines seen (converse fuel turns fd command argument)
      (TunProxy.executeRemote fuel turns (.ok ()) command argument) := by
  apply (refines_overSocket _).bind
  intro sent
  cases sent with
  | error failure => exact refines_close (.done _)
  | ok _ =>
      have looped : Refines seen
          (iterate (fun printed => overSocket fd (remoteStep fuel printed)) turns [])
          (iterate (remoteStep fuel) turns []) :=
        Refines.iterate (fun printed => refines_overSocket _) turns []
      have closes (outcome : RemoteOutcome) : Refines seen
          (.call (.close fd) fun _ => .done outcome : LinkProgram RemoteOutcome) (.done outcome) :=
        refines_close (.done outcome)
      have closed := looped.bind closes
      rw [bind_done] at closed
      exact closed

theorem unseen_connectControlSocket (path : Bytes) : (connectControlSocket path).Calls Unseen := by
  apply Calls.ite
  · trivial
  refine ⟨trivial, fun made => ?_⟩
  cases made with
  | none => trivial
  | some fd =>
      refine ⟨trivial, fun answer => ?_⟩
      cases answer with
      | connected => trivial
      | denied => exact ⟨trivial, fun _ => trivial⟩
      | failed detail => exact ⟨trivial, fun _ => trivial⟩

/-- Nothing is seen of the tool until it has a connection. -/
theorem lookAt_connectControlSocket
    {possible : (operation : LinkCall) → LinkAnswer operation → Prop} {path : Bytes}
    {connected : Result Nat} {history : History LinkAnswer}
    (reaches : Reaches (recording possible) (connectControlSocket path, [])
      (.done connected, history)) : lookAt seen history = [] := by
  have quiet : Triple (recording possible) (keeping fun _ => True)
      (fun history => lookAt seen history = []) (connectControlSocket path)
      fun _ history => lookAt seen history = [] := by
    apply Triple.of_calls (unseen_connectControlSocket path) ((still_recording possible).stable _)
    · exact fun _ _ => trivial
    · trivial
    · exact fun _ _ _ _ => trivial
    · rintro history operation answer _ unseen hidden ⟨-, rfl⟩
      cases operation with
      | transfer fd operation => exact hidden.elim
      | socket | connect fd path | close fd =>
          simpa [lookAt, List.filterMap_append, seen] using unseen
  exact ((quiet [] rfl).of_reaches reaches).result

end Refinement

/-! ## Every run -/

section Runs

variable {fuel turns : Nat} {path : Bytes} {command : Command} {argument : Bytes}

/-- Whatever is answered and whatever else is open: the tool uses and closes
only a socket of its own that is open, never a descriptor that was there before,
and none of its own is left at the end. -/
theorem executeRemote_leaves_others {others held : Multiset Nat} (distinct : others.Nodup)
    {last : LinkProgram RemoteOutcome}
    (reaches : Reaches handling.ledger (executeRemote fuel turns path command argument, others)
      (last, held)) :
    ∃ own, held = own + others ∧ held.Nodup ∧
      (∀ operation rest, last = .call operation rest →
        ∀ fd ∈ handling.uses operation, fd ∈ own) ∧
      ∀ outcome, last = .done outcome → own = 0 := by
  have leaves : handling.Leaves 0 (executeRemote fuel turns path command argument) fun _ => 0 :=
    leaves_executeRemote path command argument
  have started : 0 + others = others := zero_add others
  rw [← started] at reaches distinct
  obtain ⟨own, split, heldDistinct, ran⟩ := leaves.own_of_reaches distinct reaches
  obtain ⟨-, uses, ended⟩ := leaves.of_reaches Multiset.nodup_zero ran
  exact ⟨own, split, heldDistinct, uses, ended⟩

/-- A run to its end is, without the descriptor, one of the tool that is given
what it came to when it tried to connect. -/
theorem executeRemote_looks {possible : (operation : IpcOperation) → IpcAnswer operation → Prop}
    {outcome : RemoteOutcome} {history : History LinkAnswer}
    (reaches : Reaches (recording (LooksPossible seen possible))
      (executeRemote fuel turns path command argument, []) (.done outcome, history)) :
    ∃ connected middle, Reaches (recording (LooksPossible seen possible))
        (connectControlSocket path, []) (.done connected, middle) ∧
      Reaches (recording possible)
        (TunProxy.executeRemote fuel turns (connected.map fun _ => ()) command argument, [])
        (.done outcome, lookAt seen history) := by
  obtain ⟨connected, middle, connects, rest⟩ := reaches.of_bind
  have unseen := lookAt_connectControlSocket connects
  -- What follows the connection does what the tool does with it.
  have continues {program : LinkProgram RemoteOutcome} {above : IpcProgram RemoteOutcome}
      (refines : Refines seen program above)
      (ran : Reaches (recording (LooksPossible seen possible)) (program, middle)
        (.done outcome, history)) :
      Reaches (recording possible) (above, []) (.done outcome, lookAt seen history) := by
    obtain ⟨last, ranAbove, ends⟩ := refines.reaches
      (fun _ _ operation' answer' looks => looks operation' answer') ran
    rw [unseen] at ranAbove
    cases ends with
    | done => exact ranAbove
  refine ⟨connected, middle, connects, ?_⟩
  cases connected with
  | error failure => exact continues (.done _) rest
  | ok fd => exact continues (refines_converse command argument) rest

end Runs

/-! ## A connection that is closed at once -/

/-- The daemon accepts a connection, lets a request be written and closes. -/
def shortTalk : Responder LinkAnswer (Multiset Nat)
  | held, .socket => if 3 ∉ held then some (some 3, {3} + held) else none
  | held, .connect _ _ => some (.connected, held)
  | held, .close fd => if fd ∈ held then some ((), held.erase fd) else none
  | held, .transfer _ (.write data) => some (.wrote data.length, held)
  | held, .transfer _ (.recv _) => some (.closed, held)

theorem within_shortTalk : shortTalk.Within handling.ledger id := by
  intro held operation answer next responded
  refine ⟨held, .refl, ?_⟩
  unfold shortTalk at responded
  split at responded
  · split at responded
    next free =>
      cases responded
      refine ⟨Multiset.nodup_singleton _, ?_, held, (zero_add held).symm, rfl⟩
      simpa [handling] using free
    next => cases responded
  · cases responded
    exact ⟨Multiset.nodup_zero, by simp [handling], held, (zero_add held).symm, (zero_add _).symm⟩
  · split at responded
    next isOpen =>
      cases responded
      exact ⟨Multiset.nodup_zero, by simp [handling], _, (Multiset.cons_erase isOpen).symm,
        (zero_add _).symm⟩
    next => cases responded
  · cases responded
    exact ⟨Multiset.nodup_zero, by simp [handling], held, (zero_add held).symm, (zero_add _).symm⟩
  · cases responded
    exact ⟨Multiset.nodup_zero, by simp [handling], held, (zero_add held).symm, (zero_add _).symm⟩

/-- The tool asks for the status. -/
def asking : LinkProgram RemoteOutcome :=
  executeRemote 9 1 (ascii "/run/tunproxy/control.sock") .status []

/-- What it is told. -/
def refusal : RemoteOutcome :=
  (.error (makeError .stateError
    (ascii "control connection read failed: " ++ ascii "connection closed")), [])

theorem executeRemote_leaves_others_example :
    ∃ held : Multiset Nat, held = {0, 1, 2} ∧
      Reaches handling.ledger (asking, {0, 1, 2}) (.done refusal, held) := by
  have asked : Reaches handling.ledger (asking, {0, 1, 2}) (.done refusal, _) :=
    reaches_of_follow within_shortTalk (by rfl)
  obtain ⟨own, split, -, -, ended⟩ := executeRemote_leaves_others (by decide) asked
  rw [ended _ rfl, zero_add] at split
  exact ⟨_, split, asked⟩

/-- The calls and their answers are kept beside what is held. -/
def recorded : Responder LinkAnswer (Multiset Nat × History LinkAnswer) :=
  shortTalk.logging noted

theorem executeRemote_looks_example :
    ∃ (connected : Result Nat) (history : History IpcAnswer),
      Reaches (recording fun _ _ => True)
        (TunProxy.executeRemote 9 1 (connected.map fun _ => ()) .status [], [])
        (.done refusal, history) := by
  have within : recorded.Within (handling.ledger.logging noted) fun state =>
      (id state.1, state.2) :=
    within_shortTalk.logging
  have recordedRun : Reaches (recording (LooksPossible seen fun _ _ => True))
      (asking, []) ((follow recorded asking (0, [])).1, (follow recorded asking (0, [])).2.2) :=
    Reaches.log answers_noted (reaches_follow within _ (0, []))
  have ended : (follow recorded asking (0, [])).1 = .done refusal := eq_done_of_result? (by rfl)
  rw [ended] at recordedRun
  obtain ⟨connected, -, -, ran⟩ := executeRemote_looks recordedRun
  exact ⟨connected, _, ran⟩

end ControlConnection

end TunProxy
