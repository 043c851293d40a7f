import TunProxy.EffectProgramSafety
import TunProxy.ErrorResult

/-!
# The control connection's frames

Requests, log messages and results travel over a local socket as frames: a
size in network byte order, a type byte, a 32-bit code and a payload.  Both
ends move bytes with loops over `write` and `recv`, which may transfer any
part of what they are asked for and may be interrupted by signals.
-/

namespace TunProxy

open ByteText EffectProgram

def kIpcMaximumPayload : Nat := 64 * 1024

/-- Type byte and code. -/
def kFrameMetadataSize : Nat := 1 + 4

inductive IpcFrameType
  | request
  | log
  | result
  | error
  deriving DecidableEq, Repr

def IpcFrameType.toByte : IpcFrameType → UInt8
  | .request => 1
  | .log => 2
  | .result => 3
  | .error => 4

/-- The cast that follows the range check on a received type byte. -/
def IpcFrameType.ofByte (byte : UInt8) : Option IpcFrameType :=
  if byte < IpcFrameType.request.toByte ∨ byte > IpcFrameType.error.toByte then none
  else if byte = 1 then some .request
  else if byte = 2 then some .log
  else if byte = 3 then some .result
  else some .error

structure IpcFrame where
  type : IpcFrameType
  code : UInt32
  payload : Bytes
  deriving DecidableEq, Repr

/-! ## Network byte order -/

/-- The four bytes of `htonl`, as they lie in memory. -/
def networkBytes (value : UInt32) : Bytes :=
  [(value.toNat / 2 ^ 24).toUInt8, (value.toNat / 2 ^ 16).toUInt8,
    (value.toNat / 2 ^ 8).toUInt8, value.toNat.toUInt8]

/-- `ntohl` of four bytes in memory. -/
def hostWord : Bytes → UInt32
  | [first, second, third, fourth] =>
      (first.toNat * 2 ^ 24 + second.toNat * 2 ^ 16 + third.toNat * 2 ^ 8 +
        fourth.toNat).toUInt32
  | _ => 0

@[simp] theorem networkBytes_length (value : UInt32) : (networkBytes value).length = 4 := rfl

@[simp] theorem hostWord_networkBytes (value : UInt32) :
    hostWord (networkBytes value) = value := by
  apply UInt32.toNat.inj
  have bound := value.toNat_lt
  simp [hostWord, networkBytes, UInt8.toNat_ofNat']
  omega

theorem networkBytes_hostWord {bytes : Bytes} (four : bytes.length = 4) :
    networkBytes (hostWord bytes) = bytes := by
  obtain ⟨first, second, third, fourth, rfl⟩ : ∃ first second third fourth,
      bytes = [first, second, third, fourth] := by
    match bytes, four with
    | [first, second, third, fourth], _ => exact ⟨first, second, third, fourth, rfl⟩
  have firstBound := first.toNat_lt
  have secondBound := second.toNat_lt
  have thirdBound := third.toNat_lt
  have fourthBound := fourth.toNat_lt
  simp only [hostWord, networkBytes, List.cons.injEq, and_true]
  refine ⟨?_, ?_, ?_, ?_⟩ <;> apply UInt8.toNat.inj <;>
    simp [UInt8.toNat_ofNat'] <;> omega

/-! ## System calls -/

inductive IpcOperation
  | write (data : Bytes)
  | recv (size : Nat)

/-- What `write` returns: a positive count, an interruption by a signal, or a
failure with its `strerror` text. -/
inductive WriteAnswer
  | wrote (count : Nat)
  | interrupted
  | failed (detail : Bytes)

/-- What `recv` returns: at least one byte, the end of the stream, an
interruption, or a failure. -/
inductive RecvAnswer
  | received (first : UInt8) (more : Bytes)
  | closed
  | interrupted
  | failed (detail : Bytes)

abbrev IpcAnswer : IpcOperation → Type
  | .write _ => WriteAnswer
  | .recv _ => RecvAnswer

abbrev IpcProgram (α : Type) : Type :=
  EffectProgram IpcAnswer α

def write (data : Bytes) : IpcProgram WriteAnswer :=
  .call (.write data) .done

def recv (size : Nat) : IpcProgram RecvAnswer :=
  .call (.recv size) .done

/-! ## Partial transfers -/

/-- One turn of the loop of `sendAll`, with the bytes not yet sent. -/
def sendStep (rest : Bytes) : IpcProgram (Bytes ⊕ Result Unit) :=
  if rest.isEmpty then .done (.inr (.ok ()))
  else (write rest).bind fun
    | .wrote count => .done (.inl (rest.drop count))
    | .interrupted => .done (.inl rest)
    | .failed detail => .done (.inr (.error (makeError .stateError
        (ascii "control connection write failed: " ++ detail))))

def sendAll (fuel : Nat) (data : Bytes) : IpcProgram (Result Unit) :=
  iterate sendStep fuel data

/-- One turn of the loop of `receiveAll`, with the bytes received so far. -/
def receiveStep (size : Nat) (received : Bytes) : IpcProgram (Bytes ⊕ Result Bytes) :=
  if received.length < size then
    (recv (size - received.length)).bind fun
      | .received first more => .done (.inl (received ++ first :: more))
      | .interrupted => .done (.inl received)
      | .closed => .done (.inr (.error (makeError .stateError
          (ascii "control connection read failed: " ++ ascii "connection closed"))))
      | .failed detail => .done (.inr (.error (makeError .stateError
          (ascii "control connection read failed: " ++ detail))))
  else .done (.inr (.ok received))

def receiveAll (fuel size : Nat) : IpcProgram (Result Bytes) :=
  iterate (receiveStep size) fuel []

/-! ## Frames -/

def sendIpcFrame (fuel : Nat) (frame : IpcFrame) : IpcProgram (Result Unit) :=
  if kIpcMaximumPayload < frame.payload.length then
    .done (.error (makeError .invalidArguments (ascii "IPC payload is too large")))
  else
    let bodySize := kFrameMetadataSize + frame.payload.length
    if 2 ^ 32 - 1 < bodySize then
      .done (.error (makeError .invalidArguments (ascii "IPC frame is too large")))
    else
      (sendAll fuel (networkBytes bodySize.toUInt32)).andThen fun _ =>
      (sendAll fuel [frame.type.toByte]).andThen fun _ =>
      (sendAll fuel (networkBytes frame.code)).andThen fun _ =>
      if frame.payload.isEmpty then .done (.ok ())
      else sendAll fuel frame.payload

/-- The part of `receiveIpcFrame` after the size check. -/
def receiveFrameBody (fuel bodySize : Nat) : IpcProgram (Result IpcFrame) :=
  (receiveAll fuel 1).andThen fun type =>
  (receiveAll fuel 4).andThen fun networkCode =>
  match IpcFrameType.ofByte (type.headD 0) with
  | none => .done (.error (makeError .invalidArguments (ascii "invalid IPC frame type")))
  | some frameType =>
      if bodySize - kFrameMetadataSize = 0 then
        .done (.ok ⟨frameType, hostWord networkCode, []⟩)
      else (receiveAll fuel (bodySize - kFrameMetadataSize)).andThen fun payload =>
        .done (.ok ⟨frameType, hostWord networkCode, payload⟩)

def receiveIpcFrame (fuel : Nat) : IpcProgram (Result IpcFrame) :=
  (receiveAll fuel 4).andThen fun networkSize =>
  let bodySize := (hostWord networkSize).toNat
  if bodySize < kFrameMetadataSize ∨ kFrameMetadataSize + kIpcMaximumPayload < bodySize then
    .done (.error (makeError .invalidArguments (ascii "invalid IPC frame size")))
  else receiveFrameBody fuel bodySize

end TunProxy
