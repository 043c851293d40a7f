import TunProxy.AtomicWrite

/-!
# Descriptors of an atomic write

A write opens its temporary file and at the end the directory, and closes both.
A failed sync of the temporary file skips the close behind it, and this is the
only way in which a descriptor is lost.
-/

namespace TunProxy

open ByteText EffectProgram

namespace AtomicWrite

/-! ## The ledger -/

/-- How often a descriptor has been opened, and how often it has been closed. -/
structure DescriptorUse where
  opened : Nat
  closed : Nat
  deriving DecidableEq

/-- What has been done with the two descriptors `fd` and `directory`, and whether
an `fsync` of the temporary file has failed. -/
structure Ledger where
  fd : DescriptorUse
  directory : DescriptorUse
  syncFailed : Bool
  deriving DecidableEq

namespace Ledger

/-- Before the write. -/
def fresh : Ledger :=
  ⟨⟨0, 0⟩, ⟨0, 0⟩, false⟩

/-- The ledger after an answer.  A `close` counts whatever it returns. -/
def after (ledger : Ledger) (operation : FileCall) (answer : FileAnswer operation) : Ledger :=
  match operation, answer with
  | .openTemporary _ _, true => { ledger with fd.opened := ledger.fd.opened + 1 }
  | .close, _ => { ledger with fd.closed := ledger.fd.closed + 1 }
  | .openDirectory _, true => { ledger with directory.opened := ledger.directory.opened + 1 }
  | .closeDirectory, _ => { ledger with directory.closed := ledger.directory.closed + 1 }
  | .fsync, false => { ledger with syncFailed := true }
  | _, _ => ledger

/-- No descriptor is closed that is not open, and none is opened twice. -/
def Proper (ledger : Ledger) : Prop :=
  (ledger.fd.closed ≤ ledger.fd.opened ∧ ledger.fd.opened ≤ 1) ∧
    ledger.directory.closed ≤ ledger.directory.opened ∧ ledger.directory.opened ≤ 1

/-- Every descriptor that was opened has been closed exactly once. -/
def ClosedOnce (ledger : Ledger) : Prop :=
  ledger.fd.closed = ledger.fd.opened ∧ ledger.directory.closed = ledger.directory.opened

instance (ledger : Ledger) : Decidable ledger.Proper :=
  inferInstanceAs (Decidable (_ ∧ _))

instance (ledger : Ledger) : Decidable ledger.ClosedOnce :=
  inferInstanceAs (Decidable (_ ∧ _))

end Ledger

/-- The calls return whatever they like. -/
def accounting : Surroundings FileAnswer Ledger where
  answers ledger operation answer next := next = ledger.after operation answer
  drift _ _ := False

theorem still_accounting : Still accounting :=
  fun _ _ => not_false

/-! ## Every exit of a write -/

def properUse : Watch FileCall Ledger where
  holds := Ledger.Proper
  permits _ _ := True
  cuts := True

/-- A descriptor is lost exactly where a sync has failed. -/
def Settled (ledger : Ledger) : Prop :=
  ledger.Proper ∧ (ledger.ClosedOnce ↔ ledger.syncFailed = false)

instance (ledger : Ledger) : Decidable (Settled ledger) :=
  inferInstanceAs (Decidable (_ ∧ _))

namespace Ledger

/-- The temporary file is open, and nothing has gone wrong with it. -/
def writing : Ledger :=
  ⟨⟨1, 0⟩, ⟨0, 0⟩, false⟩

/-- The temporary file has been closed. -/
def released : Ledger :=
  ⟨⟨1, 1⟩, ⟨0, 0⟩, false⟩

/-- A failed sync has left the temporary file open. -/
def lost : Ledger :=
  ⟨⟨1, 0⟩, ⟨0, 0⟩, true⟩

/-- The directory has been opened behind the temporary file. -/
def syncing : Ledger :=
  ⟨⟨1, 1⟩, ⟨1, 0⟩, false⟩

/-- Both have been closed. -/
def finished : Ledger :=
  ⟨⟨1, 1⟩, ⟨1, 1⟩, false⟩

end Ledger

section Exits

variable {ledger : Ledger} {target : TargetPath} {temporary operation : Bytes}

theorem safe_answer {α : Type} {post : α → Ledger → Prop} {operation : FileCall}
    {rest : FileAnswer operation → FileProgram α} (proper : ledger.Proper)
    (answered : ∀ answer,
      Safe accounting properUse post (rest answer) (ledger.after operation answer)) :
    Safe accounting properUse post (.call operation rest) ledger := by
  apply still_accounting.safe_call proper trivial
  rintro answer next rfl
  exact answered answer

theorem safe_return {result : Result Unit} (settled : Settled ledger) :
    Safe accounting properUse (fun _ => Settled) (.done result) ledger :=
  still_accounting.safe_done settled.1 settled

theorem safe_failWith (settled : Settled ledger) :
    Safe accounting properUse (fun _ => Settled) (failWith operation) ledger :=
  safe_answer settled.1 fun _ => safe_return settled

/-- Removing the temporary file leaves the descriptors as they are. -/
theorem safe_unlink (settled : Settled ledger) :
    Safe accounting properUse (fun _ => Settled)
      (.call (.unlink temporary) fun _ => failWith operation) ledger := by
  apply safe_answer settled.1
  intro removed
  cases removed with
  | false => exact safe_failWith settled
  | true => exact safe_failWith settled

theorem safe_abandon :
    Safe accounting properUse (fun _ => Settled) (abandon temporary operation) .writing := by
  have released : Settled .released := by decide
  apply safe_answer (by decide)
  intro closed
  exact safe_unlink released

/-- The writing loop leaves the temporary file open, or it has been given up. -/
def Kept : Result Unit → Ledger → Prop
  | .ok _, ledger => ledger = .writing
  | .error _, ledger => Settled ledger

/-- Giving up the write in a turn of the loop. -/
theorem safe_giveUp (again : Bytes → FileProgram (Result Unit)) :
    Safe accounting properUse Kept
      (((abandon temporary operation).bind fun result => .done (Sum.inr result)).bind fun
        | .inl next => again next
        | .inr value => .done value) .writing := by
  have released : Settled .released := by decide
  apply safe_answer (by decide)
  intro closed
  apply safe_answer released.1
  intro removed
  cases removed with
  | false =>
      apply safe_answer released.1
      intro detail
      exact still_accounting.safe_done released.1 released
  | true =>
      apply safe_answer released.1
      intro detail
      exact still_accounting.safe_done released.1 released

theorem safe_writeLoop (fuel : Nat) (remaining : Bytes) :
    Safe accounting properUse Kept (iterate (writeStep temporary) fuel remaining) .writing := by
  have proper : Ledger.writing.Proper := by decide
  induction fuel generalizing remaining with
  | zero =>
      intro later drifts
      rw [still_accounting.eq_of_drifts drifts]
      exact ⟨proper, trivial⟩
  | succ fuel ih =>
      unfold iterate writeStep
      split
      · exact still_accounting.safe_done proper rfl
      · apply safe_answer proper
        intro answer
        cases answer with
        | interrupted => exact ih remaining
        | failed => exact safe_giveUp (iterate (writeStep temporary) fuel)
        | wrote count =>
            cases count with
            | zero => exact safe_giveUp (iterate (writeStep temporary) fuel)
            | succ count => exact ih (remaining.drop (count + 1))

/-- The directory is closed if it could be opened. -/
theorem safe_syncDirectory_released :
    Safe accounting properUse (fun _ => Settled) (syncDirectory target) .released := by
  have released : Settled .released := by decide
  apply safe_answer released.1
  intro opened
  cases opened with
  | false => exact safe_return released
  | true =>
      have syncing : Ledger.syncing.Proper := by decide
      apply safe_answer syncing
      intro synced
      have same : Ledger.syncing.after .fsyncDirectory synced = .syncing := by
        cases synced <;> rfl
      rw [← same] at syncing
      apply safe_answer syncing
      intro closed
      rw [same]
      exact @safe_return .finished (.ok ()) (by decide)

/-- From the complete temporary file on. -/
theorem safe_finish_writing :
    Safe accounting properUse (fun _ => Settled)
      (syncAndClose.bind fun
        | false => .call (.unlink temporary) fun _ => failWith (ascii "sync")
        | true => .call (.rename temporary target.filename) fun
          | false => .call (.unlink temporary) fun _ => failWith (ascii "rename")
          | true => syncDirectory target) .writing := by
  have released : Settled .released := by decide
  apply safe_answer (by decide)
  intro synced
  cases synced with
  | false => exact @safe_unlink .lost temporary (ascii "sync") (by decide)
  | true =>
      apply safe_answer (by decide)
      intro closed
      cases closed with
      | false => exact safe_unlink released
      | true =>
          apply safe_answer released.1
          intro renamed
          cases renamed with
          | false => exact safe_unlink released
          | true => exact safe_syncDirectory_released

theorem safe_descriptors (fuel : Nat) (target : TargetPath) (draw : UInt64) (contents : Bytes)
    (mode : Nat) :
    Safe accounting properUse (fun _ => Settled) (writeFileAtomic fuel target draw contents mode)
      .fresh := by
  have fresh : Settled .fresh := by decide
  unfold writeFileAtomic
  split
  · exact safe_return fresh
  apply safe_answer fresh.1
  intro created
  cases created with
  | false => exact safe_failWith fresh
  | true =>
      have writing : Ledger.writing.Proper := by decide
      apply safe_answer writing
      intro changed
      cases changed with
      | false => exact safe_abandon
      | true =>
          refine Safe.bind (safe_writeLoop fuel contents) ?_
          intro result last kept
          cases result with
          | error failure => exact safe_return kept
          | ok value =>
              rw [show last = .writing from kept]
              exact safe_finish_writing

end Exits

/-- Whatever the calls of a write return, no descriptor is closed that is not
open.  When the write returns, it has closed each descriptor that it opened
exactly once if and only if no sync of the temporary file has failed. -/
theorem writeFileAtomic_descriptors {fuel : Nat} {target : TargetPath} {draw : UInt64}
    {contents : Bytes} {mode : Nat} {program : FileProgram (Result Unit)} {last : Ledger}
    (reaches : Reaches accounting
      (writeFileAtomic fuel target draw contents mode, .fresh) (program, last)) :
    last.Proper ∧
      ∀ result, program = .done result → (last.ClosedOnce ↔ last.syncFailed = false) := by
  have there := (safe_descriptors fuel target draw contents mode).of_reaches reaches
  refine ⟨there.holds, ?_⟩
  rintro result rfl
  exact there.result.2

/-- Give the chosen answers. -/
def recorded (choose : (operation : FileCall) → FileAnswer operation) :
    Responder FileAnswer Ledger := fun ledger operation =>
  some (choose operation, ledger.after operation (choose operation))

theorem within_recorded (choose : (operation : FileCall) → FileAnswer operation) :
    (recorded choose).Within accounting id := by
  intro ledger operation answer next responded
  obtain ⟨rfl, rfl⟩ := Option.some.inj responded
  exact ⟨ledger, .refl, rfl⟩

/-- Writes of a byte each, and a sync that succeeds or fails. -/
def syncs (synced : Bool) : (operation : FileCall) → FileAnswer operation
  | .write _ => .wrote 1
  | .strerror => ascii "No space left on device"
  | .fsync => synced
  | .openTemporary _ _ | .fchmod _ | .close | .rename _ _ | .unlink _
  | .openDirectory _ | .fsyncDirectory | .closeDirectory => true

theorem writeFileAtomic_descriptors_example : ∃ last : Ledger,
    last.fd = ⟨1, 1⟩ ∧ last.directory = ⟨1, 1⟩ ∧ last.ClosedOnce := by
  have written : Reaches accounting
      (writeFileAtomic 12 ⟨ascii "/etc/tunproxy", ascii "config"⟩ 7 (ascii "mode=tun") 0o600,
        .fresh) (.done (.ok ()), _) :=
    reaches_of_follow (within_recorded (syncs true)) (by decide +kernel)
  exact ⟨_, by decide +kernel, by decide +kernel,
    ((writeFileAtomic_descriptors written).2 (.ok ()) rfl).mpr (by decide +kernel)⟩

/-- A write whose sync fails returns with its temporary file open. -/
theorem failed_sync_leaks : ∃ failure last, Reaches accounting
    (writeFileAtomic 12 ⟨ascii "/etc/tunproxy", ascii "config"⟩ 7 (ascii "mode=tun") 0o600,
      .fresh) (.done (.error failure), last) ∧
    last.fd = ⟨1, 0⟩ ∧ ¬ last.ClosedOnce := by
  have written : Reaches accounting
      (writeFileAtomic 12 ⟨ascii "/etc/tunproxy", ascii "config"⟩ 7 (ascii "mode=tun") 0o600,
        .fresh) (.done (.error (makeError .generic (ascii "sync: No space left on device"))), _) :=
    reaches_of_follow (within_recorded (syncs false)) (by decide +kernel)
  exact ⟨_, _, written, by decide +kernel, by decide +kernel⟩

end AtomicWrite

end TunProxy
