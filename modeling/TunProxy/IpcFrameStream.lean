import TunProxy.IpcFrames

/-!
# Frames over a byte stream

The connection is a byte stream: `write` appends any non-empty part of what it
is offered, `recv` takes any non-empty part of what has arrived up to the size
asked for, and a signal may interrupt either any finite number of times.
Whatever the parts, both transfer loops come to an end and move exactly the
bytes they were asked to, so that frames are received as they were sent and
nothing else is accepted as a frame.
-/

namespace TunProxy

open ByteText EffectProgram

/-- One direction of a connection: the bytes written and not yet read,
whether the writing side is closed, and how many more calls get interrupted. -/
structure ByteStream where
  pending : Bytes
  ended : Bool
  interruptions : Nat

/-- How `write` and `recv` may answer; failures are among the answers only
where `failures` says so. -/
def byteStream (failures : Bool) : Surroundings IpcAnswer ByteStream where
  answers stream operation answer next :=
    match operation, answer with
    | .write data, .wrote count =>
        0 < count ∧ count ≤ data.length ∧
          next = { stream with pending := stream.pending ++ data.take count }
    | .write _, .interrupted =>
        0 < stream.interruptions ∧
          next = { stream with interruptions := stream.interruptions - 1 }
    | .write _, .failed _ => failures = true ∧ next = stream
    | .recv size, .received first more =>
        more.length < size ∧
          ∃ rest, stream.pending = first :: more ++ rest ∧
            next = { stream with pending := rest }
    | .recv _, .closed => stream.pending = [] ∧ stream.ended = true ∧ next = stream
    | .recv _, .interrupted =>
        0 < stream.interruptions ∧
          next = { stream with interruptions := stream.interruptions - 1 }
    | .recv _, .failed _ => failures = true ∧ next = stream
  drift _ _ := False

theorem still_byteStream (failures : Bool) : Still (byteStream failures) :=
  fun _ _ => not_false

/-- Every call can be answered and no run is cut off: runs come to a result. -/
def completing (failures : Bool) : Watch IpcOperation ByteStream where
  holds _ := True
  permits stream operation :=
    ∃ answer next, (byteStream failures).answers stream operation answer next
  cuts := False

theorem safe_done {failures : Bool} {α : Type} {post : α → ByteStream → Prop} {value : α}
    {stream : ByteStream} (holds : post value stream) :
    Safe (byteStream failures) (completing failures) post (.done value) stream :=
  Triple.done ((still_byteStream failures).stable (post value)) (fun _ _ => trivial)
    (fun _ => id) stream holds

/-! ## Sending -/

/-- `sendAll` appends exactly its data, if there is fuel for every byte and
every interruption. -/
theorem sendAll_triple {fuel patience : Nat} {data before : Bytes}
    (enough : data.length + patience < fuel) :
    Triple (byteStream false) (completing false)
      (fun stream => stream.pending = before ∧ stream.interruptions ≤ patience)
      (sendAll fuel data)
      (fun result stream => result = .ok () ∧ stream.pending = before ++ data ∧
        stream.interruptions ≤ patience) := by
  refine Triple.weaken (Triple.iterate_of_measure
    (fun rest stream => ∃ sent, data = sent ++ rest ∧ stream.pending = before ++ sent ∧
      stream.interruptions ≤ patience)
    (fun rest stream => rest.length + stream.interruptions) ?step fuel data) ?start
  case start =>
    rintro stream ⟨pending, patient⟩
    exact ⟨⟨[], rfl, by simpa using pending, patient⟩, by omega⟩
  intro rest bound
  by_cases finished : rest = []
  · subst rest
    refine Triple.done ((still_byteStream _).stable _) (fun _ _ => trivial) ?_
    rintro stream ⟨⟨sent, split, pending, patient⟩, -⟩
    have whole : data = sent := by simpa using split
    exact safe_done ⟨rfl, whole ▸ pending, patient⟩
  · have positive : 0 < rest.length := List.length_pos_iff.mpr finished
    simp only [sendStep, List.isEmpty_iff, finished, if_false, write, call_bind, done_bind]
    refine Triple.call ((still_byteStream _).stable _) (fun _ _ => trivial) ?_ ?_
    · exact fun stream _ => ⟨.wrote 1, _, Nat.one_pos, positive, rfl⟩
    rintro stream answer next ⟨⟨sent, split, pending, patient⟩, low⟩ answers
    cases answer with
    | wrote count =>
        obtain ⟨some, within, rfl⟩ := answers
        refine safe_done ⟨⟨sent ++ rest.take count, ?_, ?_, patient⟩, ?_⟩
        · rw [List.append_assoc, List.take_append_drop, split]
        · simp [pending]
        · simp only [List.length_drop]
          omega
    | interrupted =>
        obtain ⟨some, rfl⟩ := answers
        refine safe_done ⟨⟨sent, split, pending, ?_⟩, ?_⟩ <;> simp only <;> omega
    | failed detail => exact absurd answers.1 (by simp)

/-- What `sendIpcFrame` puts on the stream for a frame. -/
def frameBytes (frame : IpcFrame) : Bytes :=
  networkBytes (kFrameMetadataSize + frame.payload.length).toUInt32 ++
    frame.type.toByte :: networkBytes frame.code ++ frame.payload

/-- A frame that may be sent: its payload fits. -/
def IpcFrame.Sendable (frame : IpcFrame) : Prop :=
  frame.payload.length ≤ kIpcMaximumPayload

theorem sendIpcFrame_triple {fuel patience : Nat} {frame : IpcFrame} {before : Bytes}
    (sendable : frame.Sendable) (enough : kIpcMaximumPayload + 4 + patience < fuel) :
    Triple (byteStream false) (completing false)
      (fun stream => stream.pending = before ∧ stream.interruptions ≤ patience)
      (sendIpcFrame fuel frame)
      (fun result stream => result = .ok () ∧ stream.pending = before ++ frameBytes frame ∧
        stream.interruptions ≤ patience) := by
  have fits : ¬ kIpcMaximumPayload < frame.payload.length := Nat.not_lt.mpr sendable
  have small : ¬ 2 ^ 32 - 1 < kFrameMetadataSize + frame.payload.length := by
    unfold IpcFrame.Sendable at sendable
    simp only [kIpcMaximumPayload, kFrameMetadataSize] at *
    omega
  have failed {α : Type} {post : Result α → ByteStream → Prop} {failure : Error}
      {sent : Bytes} : Triple (byteStream false) (completing false)
        (fun stream => (Except.error failure : Result Unit) = .ok () ∧ stream.pending = sent ∧
          stream.interruptions ≤ patience) (.done (.error failure)) post :=
    fun _ impossible => nomatch impossible.1
  have sent (data front : Bytes) (short : data.length ≤ kIpcMaximumPayload + 4) :
      Triple (byteStream false) (completing false)
        (fun stream => stream.pending = front ∧ stream.interruptions ≤ patience)
        (sendAll fuel data)
        (fun result stream => result = .ok () ∧ stream.pending = front ++ data ∧
          stream.interruptions ≤ patience) := sendAll_triple (by omega)
  simp only [sendIpcFrame, fits, small, if_false]
  refine (sent _ before (by simp)).andThen (fun _ => ?_) fun _ => failed
  refine Triple.weaken ?_ fun _ holds => holds.2
  refine (sent _ _ (by simp)).andThen (fun _ => ?_) fun _ => failed
  refine Triple.weaken ?_ fun _ holds => holds.2
  refine (sent _ _ (by simp)).andThen (fun _ => ?_) fun _ => failed
  by_cases empty : frame.payload = []
  · simp only [empty, List.isEmpty_nil, if_true]
    refine Triple.done ((still_byteStream _).stable _) (fun _ _ => trivial) ?_
    rintro stream ⟨-, pending, patient⟩
    exact ⟨rfl, by simpa [frameBytes, empty] using pending, patient⟩
  · simp only [List.isEmpty_iff, empty, if_false]
    refine Triple.weaken ?_ fun _ holds => holds.2
    refine (sent frame.payload _ (Nat.le_trans sendable (by omega))).imp ?_
    rintro result stream ⟨ok, pending, patient⟩
    exact ⟨ok, by simpa [frameBytes] using pending, patient⟩

/-! ## Receiving -/

/-- What `receiveAll` guarantees from a stream holding `source`. -/
def ReceivedFrom (failures : Bool) (source : Bytes) (size patience : Nat) (ended : Bool) :
    Result Bytes → ByteStream → Prop
  | .ok data, stream => source = data ++ stream.pending ∧ data.length = size ∧
      stream.ended = ended ∧ stream.interruptions ≤ patience
  | .error _, _ => failures = true ∨ source.length < size

/-- `receiveAll` takes exactly as many bytes as it was asked for from the front
of the stream, and fails only if they are not there or a call fails. -/
theorem receiveAll_triple {failures : Bool} {fuel patience size : Nat} {source : Bytes}
    {ended : Bool} (enough : size + patience < fuel) :
    Triple (byteStream failures) (completing failures)
      (fun stream => stream.pending = source ∧ stream.ended = ended ∧
        stream.interruptions ≤ patience ∧ (ended = true ∨ size ≤ source.length))
      (receiveAll fuel size) (ReceivedFrom failures source size patience ended) := by
  refine Triple.weaken (Triple.iterate_of_measure
    (fun received stream => source = received ++ stream.pending ∧
      received.length ≤ size ∧ stream.ended = ended ∧ stream.interruptions ≤ patience ∧
      (ended = true ∨ size ≤ source.length))
    (fun received stream => size - received.length + stream.interruptions) ?step fuel []) ?start
  case start =>
    rintro stream ⟨pending, end_, patient, available⟩
    refine ⟨⟨by simpa using pending.symm, by simp, end_, patient, available⟩, ?_⟩
    simp only [List.length_nil]
    omega
  intro received bound
  by_cases short : received.length < size
  · simp only [receiveStep, short, if_true, recv, call_bind, done_bind]
    refine Triple.call ((still_byteStream _).stable _) (fun _ _ => trivial) ?_ ?_
    · rintro stream ⟨⟨split, -, end_, -, available⟩, -⟩
      cases pending : stream.pending with
      | nil =>
          refine ⟨.closed, stream, pending, ?_, rfl⟩
          have whole : source.length = received.length := by simp [split, pending]
          rcases available with closed | long
          · exact end_.trans closed
          · omega
      | cons first rest =>
          exact ⟨.received first [], _, by simp only [List.length_nil]; omega, rest,
            by simpa using pending, rfl⟩
    rintro stream answer next ⟨⟨split, within, end_, patient, available⟩, low⟩ answers
    cases answer with
    | received first more =>
        obtain ⟨fits, rest, pending, rfl⟩ := answers
        refine safe_done ⟨⟨?_, ?_, end_, patient, available⟩, ?_⟩
        · rw [split, pending, List.append_assoc, List.cons_append]
        · simp only [List.length_append, List.length_cons]
          omega
        · simp only [List.length_append, List.length_cons]
          omega
    | interrupted =>
        obtain ⟨some, rfl⟩ := answers
        refine safe_done ⟨⟨split, within, end_, ?_, available⟩, ?_⟩ <;> simp only <;> omega
    | closed =>
        obtain ⟨empty, -, rfl⟩ := answers
        refine safe_done (safe_done (Or.inr ?_))
        simpa [split, empty] using short
    | failed detail => exact safe_done (safe_done (Or.inl answers.1))
  · simp only [receiveStep, short, if_false]
    refine Triple.done ((still_byteStream _).stable _) (fun _ _ => trivial) ?_
    rintro stream ⟨⟨split, within, end_, patient, -⟩, -⟩
    exact safe_done ⟨split, by omega, end_, patient⟩

/-- `source` begins with the encoding of a frame that may be sent. -/
def StartsWithFrame (source : Bytes) : Prop :=
  ∃ frame rest, IpcFrame.Sendable frame ∧ source = frameBytes frame ++ rest

/-- Whatever comes after it, no frame begins with `source`: the announced size is not
one of a frame, or the type is none. -/
def RulesOutFrame (source : Bytes) : Prop :=
  ∃ header body, source = header ++ body ∧ header.length = 4 ∧
    ((hostWord header).toNat < kFrameMetadataSize ∨
      kFrameMetadataSize + kIpcMaximumPayload < (hostWord header).toNat ∨
      kFrameMetadataSize ≤ body.length ∧ IpcFrameType.ofByte (body.headD 0) = none)

/-- It can be told from `source` whether a frame begins with it. -/
def Decided (source : Bytes) : Prop :=
  StartsWithFrame source ∨ RulesOutFrame source

/-- Taking an encoded frame apart at the places where it is read. -/
theorem frameBytes_split {frame : IpcFrame} {rest header afterHeader : Bytes}
    (four : header.length = 4) (source : frameBytes frame ++ rest = header ++ afterHeader) :
    header = networkBytes (kFrameMetadataSize + frame.payload.length).toUInt32 ∧
      afterHeader =
        [frame.type.toByte] ++ (networkBytes frame.code ++ (frame.payload ++ rest)) := by
  simp only [frameBytes, List.append_assoc, List.cons_append] at source
  have split := List.append_inj source (by simp [four])
  exact ⟨split.1.symm, split.2.symm⟩

theorem toNat_bodySize {frame : IpcFrame} (sendable : frame.Sendable) :
    (kFrameMetadataSize + frame.payload.length).toUInt32.toNat =
      kFrameMetadataSize + frame.payload.length := by
  unfold IpcFrame.Sendable at sendable
  simp only [kIpcMaximumPayload, kFrameMetadataSize] at *
  simp only [Nat.toUInt32, UInt32.toNat_ofNat']
  omega

theorem frameBytes_length (frame : IpcFrame) :
    (frameBytes frame).length = 4 + (kFrameMetadataSize + frame.payload.length) := by
  simp [frameBytes, kFrameMetadataSize]
  omega

@[simp] theorem ofByte_toByte (type : IpcFrameType) :
    IpcFrameType.ofByte type.toByte = some type := by
  cases type <;> rfl

theorem toByte_of_ofByte {byte : UInt8} {type : IpcFrameType}
    (read : IpcFrameType.ofByte byte = some type) : type.toByte = byte := by
  unfold IpcFrameType.ofByte at read
  by_cases outside : byte < IpcFrameType.request.toByte ∨ byte > IpcFrameType.error.toByte
  · simp [outside] at read
  simp only [outside, if_false] at read
  by_cases one : byte = 1
  · obtain rfl : IpcFrameType.request = type := by simpa [one] using read
    exact one.symm
  by_cases two : byte = 2
  · obtain rfl : IpcFrameType.log = type := by simpa [two] using read
    exact two.symm
  by_cases three : byte = 3
  · obtain rfl : IpcFrameType.result = type := by simpa [three] using read
    exact three.symm
  obtain rfl : IpcFrameType.error = type := by simpa [one, two, three] using read
  simp only [IpcFrameType.toByte, not_or, gt_iff_lt, UInt8.lt_iff_toNat_lt,
    ← UInt8.toNat_inj, UInt8.reduceToNat] at *
  omega

/-- What `receiveIpcFrame` guarantees from a stream holding `source`. -/
def FrameFrom (failures : Bool) (source : Bytes) (patience : Nat) (ended : Bool) :
    Result IpcFrame → ByteStream → Prop
  | .ok frame, stream => frame.Sendable ∧ source = frameBytes frame ++ stream.pending ∧
      stream.ended = ended ∧ stream.interruptions ≤ patience
  | .error _, _ => failures = true ∨ ¬ StartsWithFrame source

/-- Fuel for one frame with a given number of interruptions. -/
def EnoughFuel (fuel patience : Nat) : Prop :=
  kIpcMaximumPayload + 4 + patience < fuel

private theorem headD_of_length_one {bytes : Bytes} (one : bytes.length = 1) :
    bytes = [bytes.headD 0] := by
  match bytes, one with
  | [byte], _ => rfl

theorem length_le_of_startsWithFrame {source : Bytes} (starts : StartsWithFrame source) :
    4 + kFrameMetadataSize ≤ source.length := by
  obtain ⟨frame, rest, -, rfl⟩ := starts
  simp only [List.length_append, frameBytes_length]
  omega

section Receiving

variable {failures : Bool} {fuel patience : Nat} {ended : Bool}

private theorem triple_done {α : Type} {pre : ByteStream → Prop} {post : α → ByteStream → Prop}
    {value : α} (implies : ∀ stream, pre stream → post value stream) :
    Triple (byteStream failures) (completing failures) pre (.done value) post :=
  Triple.done ((still_byteStream _).stable _) (fun _ _ => trivial) implies

section Fields

variable {source header body : Bytes}

/-- The announced size and the fields of an encoded frame. -/
theorem fields_of_frame (four : header.length = 4) (split : source = header ++ body)
    {frame : IpcFrame} {rest : Bytes} (sendable : frame.Sendable)
    (encoded : source = frameBytes frame ++ rest) :
    (hostWord header).toNat = kFrameMetadataSize + frame.payload.length ∧
      body = [frame.type.toByte] ++ (networkBytes frame.code ++ (frame.payload ++ rest)) := by
  have parts := frameBytes_split four (encoded.symm.trans split)
  rw [parts.1, hostWord_networkBytes, toNat_bodySize sendable]
  exact ⟨rfl, parts.2⟩

/-- Where a frame stands, as much follows its header as was announced. -/
theorem bodySize_le_of_frame (four : header.length = 4) (split : source = header ++ body)
    (stands : StartsWithFrame source) : (hostWord header).toNat ≤ body.length := by
  obtain ⟨frame, rest, sendable, encoded⟩ := stands
  obtain ⟨size, rfl⟩ := fields_of_frame four split sendable encoded
  simp only [List.length_append, networkBytes_length, List.length_singleton, size,
    kFrameMetadataSize]
  omega

/-- Where a frame is ruled out although its size may be one, its type rules it out. -/
theorem RulesOutFrame.untyped (ruledOut : RulesOutFrame source) (four : header.length = 4)
    (split : source = header ++ body) (least : kFrameMetadataSize ≤ (hostWord header).toNat)
    (most : (hostWord header).toNat ≤ kFrameMetadataSize + kIpcMaximumPayload) :
    kFrameMetadataSize ≤ body.length ∧ IpcFrameType.ofByte (body.headD 0) = none := by
  obtain ⟨front, back, split', four', small | large | untyped⟩ := ruledOut
  all_goals obtain ⟨rfl, rfl⟩ := List.append_inj (split.symm.trans split') (four.trans four'.symm)
  · exact absurd least (Nat.not_le.mpr small)
  · exact absurd most (Nat.not_le.mpr large)
  · exact untyped

theorem RulesOutFrame.not_startsWithFrame (ruledOut : RulesOutFrame source) :
    ¬ StartsWithFrame source := by
  rintro ⟨frame, rest, sendable, encoded⟩
  obtain ⟨header, body, split, four, known⟩ := ruledOut
  obtain ⟨size, rfl⟩ := fields_of_frame four split sendable encoded
  rw [size] at known
  unfold IpcFrame.Sendable at sendable
  rcases known with small | large | ⟨-, untyped⟩
  · omega
  · omega
  · simp at untyped

/-- The metadata of a frame of a possible size are there when it can be told whether
the frame is. -/
theorem metadata_of_decided (decided : Decided source) (four : header.length = 4)
    (split : source = header ++ body) (least : kFrameMetadataSize ≤ (hostWord header).toNat)
    (most : (hostWord header).toNat ≤ kFrameMetadataSize + kIpcMaximumPayload) :
    kFrameMetadataSize ≤ body.length := by
  rcases decided with stands | ruledOut
  · exact Nat.le_trans least (bodySize_le_of_frame four split stands)
  · exact (ruledOut.untyped four split least most).1

/-- The fields and a payload of the announced size are those of a frame. -/
theorem frame_of_fields {type : IpcFrameType} {code payload : Bytes} (four : header.length = 4)
    (fourCode : code.length = 4) (least : kFrameMetadataSize ≤ (hostWord header).toNat)
    (most : (hostWord header).toNat ≤ kFrameMetadataSize + kIpcMaximumPayload)
    (length : payload.length = (hostWord header).toNat - kFrameMetadataSize) :
    IpcFrame.Sendable ⟨type, hostWord code, payload⟩ ∧
      header ++ ([type.toByte] ++ (code ++ payload)) =
        frameBytes ⟨type, hostWord code, payload⟩ := by
  have size : kFrameMetadataSize + payload.length = (hostWord header).toNat := by omega
  constructor
  · unfold IpcFrame.Sendable
    dsimp only
    omega
  · simp only [frameBytes, size, Nat.toUInt32, UInt32.ofNat_toNat, networkBytes_hostWord four,
      networkBytes_hostWord fourCode, List.append_assoc, List.cons_append, List.nil_append]

end Fields

/-- The rest of a frame whose header announced `bodySize` bytes. -/
theorem receiveFrameBody_triple {source header body : Bytes} (enough : EnoughFuel fuel patience)
    (four : header.length = 4) (split : source = header ++ body)
    (least : kFrameMetadataSize ≤ (hostWord header).toNat)
    (most : (hostWord header).toNat ≤ kFrameMetadataSize + kIpcMaximumPayload) :
    Triple (byteStream failures) (completing failures)
      (fun stream => stream.pending = body ∧ stream.ended = ended ∧
        stream.interruptions ≤ patience ∧ (ended = true ∨ Decided source))
      (receiveFrameBody fuel (hostWord header).toNat)
      (FrameFrom failures source patience ended) := by
  have received (size : Nat) (part : Bytes) (small : size ≤ kIpcMaximumPayload) :
      Triple (byteStream failures) (completing failures)
        (fun stream => stream.pending = part ∧ stream.ended = ended ∧
          stream.interruptions ≤ patience ∧ (ended = true ∨ size ≤ part.length))
        (receiveAll fuel size) (ReceivedFrom failures part size patience ended) :=
    receiveAll_triple (by unfold EnoughFuel at enough; omega)
  rintro start ⟨pending, end_, patient, available⟩
  have metadata : ended = true ∨ 5 ≤ body.length :=
    available.imp_right fun decided => metadata_of_decided decided four split least most
  have refused {stream : ByteStream} {failure : Error}
      (short : failures = true ∨ body.length < (hostWord header).toNat) :
      FrameFrom failures source patience ended (.error failure) stream :=
    short.imp_right fun short stands =>
      absurd (bodySize_le_of_frame four split stands) (Nat.not_le.mpr short)
  unfold receiveFrameBody
  have five : 5 ≤ (hostWord header).toNat := least
  refine Triple.andThen (received 1 body (by decide)) (fun type => ?_)
    (fun failure => triple_done fun stream short => refused (short.imp_right (by omega)))
    start ⟨pending, end_, patient, metadata.imp_right (by omega)⟩
  rintro afterType ⟨bodyEq, one, end₁, patient₁⟩
  have afterTypeLength : body.length = 1 + afterType.pending.length := by
    rw [bodyEq, List.length_append, one]
  refine Triple.andThen (received 4 afterType.pending (by decide)) (fun code => ?_)
    (fun failure => triple_done fun stream short => refused (short.imp_right (by omega)))
    afterType ⟨rfl, end₁, patient₁, metadata.imp_right (by omega)⟩
  rintro afterCode ⟨restEq, fourCode, end₂, patient₂⟩
  have afterCodeLength : body.length = 5 + afterCode.pending.length := by
    rw [afterTypeLength, restEq, List.length_append, fourCode]
    omega
  cases known : IpcFrameType.ofByte (type.headD 0) with
  | none =>
      refine safe_done (Or.inr ?_)
      rintro ⟨frame, rest, sendable, encoded⟩
      have parts := List.append_inj
        ((fields_of_frame four split sendable encoded).2.symm.trans bodyEq) (by simp [one])
      simp [← parts.1] at known
  | some frameType =>
      have typeEq : type = [frameType.toByte] := by
        rw [toByte_of_ofByte known]
        exact headD_of_length_one one
      -- With a type of a frame, only a frame that stands there is decided.
      have long : ended = true ∨ (hostWord header).toNat ≤ body.length := by
        refine available.imp_right ?_
        rintro (stands | ruledOut)
        · exact bodySize_le_of_frame four split stands
        · have untyped := (ruledOut.untyped four split least most).2
          rw [bodyEq, typeEq, List.singleton_append, List.headD_cons, ofByte_toByte] at untyped
          cases untyped
      -- Whatever follows the metadata is the payload, of the announced size.
      have whole {payload rest : Bytes}
          (length : payload.length = (hostWord header).toNat - kFrameMetadataSize)
          (restOfCode : afterCode.pending = payload ++ rest) :
          IpcFrame.Sendable ⟨frameType, hostWord code, payload⟩ ∧
            source = frameBytes ⟨frameType, hostWord code, payload⟩ ++ rest := by
        obtain ⟨sendable, encoded⟩ := frame_of_fields four fourCode least most length
        refine ⟨sendable, ?_⟩
        rw [split, bodyEq, restEq, restOfCode, typeEq, ← encoded]
        simp only [List.append_assoc]
      by_cases empty : (hostWord header).toNat - kFrameMetadataSize = 0
      · simp only [empty, if_true]
        have none : ([] : Bytes).length = (hostWord header).toNat - kFrameMetadataSize := empty.symm
        obtain ⟨sendable, encoded⟩ := whole none (List.nil_append _).symm
        exact safe_done ⟨sendable, encoded, end₂, patient₂⟩
      · simp only [empty, if_false]
        refine Triple.andThen (received _ afterCode.pending
            (by simp only [kFrameMetadataSize] at *; omega))
          (fun payload => triple_done ?_)
          (fun failure => triple_done fun stream short => refused (short.imp_right ?_))
          afterCode ⟨rfl, end₂, patient₂, long.imp_right ?_⟩
        · rintro stream ⟨payloadEq, length, end₃, patient₃⟩
          obtain ⟨sendable, encoded⟩ := whole length payloadEq
          exact ⟨sendable, encoded, end₃, patient₃⟩
        · simp only [kFrameMetadataSize]
          omega
        · simp only [kFrameMetadataSize]
          omega

variable (failures ended) in
/-- A frame comes out exactly where its encoding stands on the stream, and
where no encoding stands an error does. -/
theorem receiveIpcFrame_triple {source : Bytes} (enough : EnoughFuel fuel patience) :
    Triple (byteStream failures) (completing failures)
      (fun stream => stream.pending = source ∧ stream.ended = ended ∧
        stream.interruptions ≤ patience ∧ (ended = true ∨ Decided source))
      (receiveIpcFrame fuel) (FrameFrom failures source patience ended) := by
  rintro start ⟨pending, end_, patient, available⟩
  have long : ended = true ∨ 4 ≤ source.length := by
    refine available.imp_right ?_
    rintro (starts | ⟨header, body, rfl, four, -⟩)
    · exact Nat.le_trans (by decide) (length_le_of_startsWithFrame starts)
    · rw [List.length_append, four]
      exact Nat.le_add_right 4 body.length
  refine Triple.andThen (receiveAll_triple (by unfold EnoughFuel at enough; omega))
    (fun header => ?_) (fun failure => triple_done ?_) start ⟨pending, end_, patient, long⟩
  case refine_2 =>
    rintro stream (failed | short)
    · exact Or.inl failed
    · refine Or.inr fun starts => ?_
      have := length_le_of_startsWithFrame starts
      omega
  rintro afterSize ⟨sourceEq, four, end₁, patient₁⟩
  -- A wrong size rules out every frame: it is the first thing an encoding fixes.
  by_cases bad : (hostWord header).toNat < kFrameMetadataSize ∨
      kFrameMetadataSize + kIpcMaximumPayload < (hostWord header).toNat
  · simp only [bad, if_true]
    refine safe_done (Or.inr ?_)
    rintro ⟨frame, rest, sendable, encoded⟩
    have parts := frameBytes_split four (encoded.symm.trans sourceEq)
    rw [parts.1, hostWord_networkBytes, toNat_bodySize sendable] at bad
    unfold IpcFrame.Sendable at sendable
    omega
  · simp only [bad, if_false]
    rw [not_or, Nat.not_lt, Nat.not_lt] at bad
    exact receiveFrameBody_triple enough four sourceEq bad.1 bad.2 afterSize
      ⟨rfl, end₁, patient₁, available⟩

end Receiving

end TunProxy
