import TunProxy.IpcFrameStream

/-!
# Sequences of frames on one connection

A connection carries frame after frame without anything between them, so that
one byte too many or too few would spoil every later frame.  Sending a list of
frames and receiving as many gives the list back and leaves nothing on the
stream; what is received as a frame is its encoding, and a stream that does
not begin with an encoding gives an error.
-/

namespace TunProxy

open ByteText EffectProgram Relation

/-- Send frames one after the other, up to the first failure. -/
def sendIpcFrames (fuel : Nat) : List IpcFrame → IpcProgram (Result Unit)
  | [] => .done (.ok ())
  | frame :: frames => (sendIpcFrame fuel frame).andThen fun _ => sendIpcFrames fuel frames

/-- Receive a number of frames, up to the first failure. -/
def receiveIpcFrames (fuel : Nat) : Nat → IpcProgram (Result (List IpcFrame))
  | 0 => .done (.ok [])
  | count + 1 => (receiveIpcFrame fuel).andThen fun frame =>
      (receiveIpcFrames fuel count).andThen fun frames => .done (.ok (frame :: frames))

/-- Send frames and receive as many. -/
def exchangeIpcFrames (fuel : Nat) (frames : List IpcFrame) :
    IpcProgram (Result (List IpcFrame)) :=
  (sendIpcFrames fuel frames).andThen fun _ => receiveIpcFrames fuel frames.length

/-- The encoding at the front of a stream is that of one frame only. -/
theorem frameBytes_append_inj {frame other : IpcFrame} {rest remaining : Bytes}
    (sendable : frame.Sendable) (sendable' : other.Sendable)
    (same : frameBytes frame ++ rest = frameBytes other ++ remaining) :
    frame = other ∧ rest = remaining := by
  have header : frameBytes other ++ remaining =
      networkBytes (kFrameMetadataSize + other.payload.length).toUInt32 ++
        ([other.type.toByte] ++ (networkBytes other.code ++ (other.payload ++ remaining))) := by
    simp [frameBytes]
  obtain ⟨sizes, body⟩ := frameBytes_split (by simp) (same.trans header)
  have lengths : other.payload.length = frame.payload.length := by
    have words := congrArg (fun bytes => (hostWord bytes).toNat) sizes
    simp only [hostWord_networkBytes, toNat_bodySize sendable, toNat_bodySize sendable'] at words
    omega
  obtain ⟨types, body⟩ := List.append_inj body rfl
  obtain ⟨codes, body⟩ := List.append_inj body rfl
  obtain ⟨payloads, tails⟩ := List.append_inj body lengths
  have sameType : frame.type = other.type := by
    have known := congrArg (fun bytes => IpcFrameType.ofByte (bytes.headD 0)) types
    simpa using known.symm
  have sameCode : frame.code = other.code := by
    have words := congrArg hostWord codes
    simpa using words.symm
  cases frame
  cases other
  simp only at sameType sameCode payloads
  exact ⟨by rw [sameType, sameCode, payloads], tails.symm⟩

section Sequences

variable {fuel patience : Nat}

theorem sendIpcFrames_triple {frames : List IpcFrame} (before : Bytes)
    (sendable : ∀ frame ∈ frames, frame.Sendable) (enough : EnoughFuel fuel patience) :
    Triple (byteStream false) (completing false)
      (fun stream => stream.pending = before ∧ stream.interruptions ≤ patience)
      (sendIpcFrames fuel frames)
      (fun result stream => result = .ok () ∧
        stream.pending = before ++ frames.flatMap frameBytes ∧
        stream.interruptions ≤ patience) := by
  induction frames generalizing before with
  | nil =>
      refine Triple.done ((still_byteStream _).stable _) (fun _ _ => trivial) ?_
      rintro stream ⟨pending, patient⟩
      exact ⟨rfl, by simpa using pending, patient⟩
  | cons frame frames ih =>
      refine (sendIpcFrame_triple (sendable frame (by simp)) enough).andThen (fun _ => ?_)
        fun failure => ?_
      · have rest := ih (before ++ frameBytes frame) fun other member =>
          sendable other (by simp [member])
        refine (rest.weaken fun stream holds => holds.2).imp ?_
        rintro result stream ⟨ok, pending, patient⟩
        exact ⟨ok, by simpa using pending, patient⟩
      · exact fun stream impossible => nomatch impossible.1

/-- From the front of a stream that goes on with a frame, that frame is
received and the rest is left. -/
theorem receiveIpcFrame_encoded {frame : IpcFrame} (rest : Bytes)
    (sendable : frame.Sendable) (enough : EnoughFuel fuel patience) :
    Triple (byteStream false) (completing false)
      (fun stream => stream.pending = frameBytes frame ++ rest ∧
        stream.interruptions ≤ patience)
      (receiveIpcFrame fuel)
      (fun result stream => result = .ok frame ∧ stream.pending = rest ∧
        stream.interruptions ≤ patience) := by
  rintro stream ⟨pending, patient⟩
  have starts : StartsWithFrame (frameBytes frame ++ rest) := ⟨frame, rest, sendable, rfl⟩
  have received := receiveIpcFrame_triple false stream.ended enough stream
    ⟨pending, rfl, patient, Or.inr (Or.inl starts)⟩
  refine received.imp ?_
  rintro (failure | other) next outcome
  · rcases outcome with impossible | refused
    · exact absurd impossible (by decide)
    · exact absurd starts refused
  · obtain ⟨otherSendable, split, -, nextPatient⟩ := outcome
    obtain ⟨rfl, restEq⟩ := frameBytes_append_inj sendable otherSendable split
    exact ⟨rfl, restEq.symm, nextPatient⟩

theorem receiveIpcFrames_triple {frames : List IpcFrame} (rest : Bytes)
    (sendable : ∀ frame ∈ frames, frame.Sendable) (enough : EnoughFuel fuel patience) :
    Triple (byteStream false) (completing false)
      (fun stream => stream.pending = frames.flatMap frameBytes ++ rest ∧
        stream.interruptions ≤ patience)
      (receiveIpcFrames fuel frames.length)
      (fun result stream => result = .ok frames ∧ stream.pending = rest ∧
        stream.interruptions ≤ patience) := by
  induction frames with
  | nil =>
      refine Triple.done ((still_byteStream _).stable _) (fun _ _ => trivial) ?_
      rintro stream ⟨pending, patient⟩
      exact ⟨rfl, by simpa using pending, patient⟩
  | cons frame frames ih =>
      have first := receiveIpcFrame_encoded (frames.flatMap frameBytes ++ rest)
        (sendable frame (by simp)) enough
      refine Triple.andThen (first.weaken ?_) (fun received => ?_) fun failure => ?_
      · rintro stream ⟨pending, patient⟩
        exact ⟨by simpa using pending, patient⟩
      · rintro stream ⟨same, pending, patient⟩
        have others := ih (fun other member => sendable other (by simp [member]))
          stream ⟨pending, patient⟩
        refine others.bind ?_
        rintro result next ⟨rfl, nextPending, nextPatient⟩
        obtain rfl : received = frame := by injection same
        exact safe_done ⟨rfl, nextPending, nextPatient⟩
      · exact fun stream impossible => nomatch impossible.1

/-- Whatever the transfers, an exchange of frames gives the frames back and
takes from the stream what it put there. -/
theorem exchangeIpcFrames_triple {frames : List IpcFrame}
    (sendable : ∀ frame ∈ frames, frame.Sendable) (enough : EnoughFuel fuel patience) :
    Triple (byteStream false) (completing false)
      (fun stream => stream.pending = [] ∧ stream.interruptions ≤ patience)
      (exchangeIpcFrames fuel frames)
      (fun result stream => result = .ok frames ∧ stream.pending = []) := by
  refine (sendIpcFrames_triple [] sendable enough).andThen (fun _ => ?_) fun failure => ?_
  · refine Triple.imp (Triple.weaken (receiveIpcFrames_triple [] sendable enough) ?_) ?_
    · rintro stream ⟨-, pending, patient⟩
      exact ⟨by simpa using pending, patient⟩
    · rintro result stream ⟨ok, pending, -⟩
      exact ⟨ok, pending⟩
  · exact fun stream impossible => nomatch impossible.1

end Sequences

/-! ## Runs -/

/-- A run on a connection that may still bring more is a run on one that ends
after the same bytes: only the second may tell the end. -/
theorem reaches_ended {failures : Bool} {α : Type} {program last : IpcProgram α}
    {stream later : ByteStream}
    (reaches : Reaches (byteStream failures) (program, stream) (last, later)) :
    Reaches (byteStream failures) (program, { stream with ended := true })
      (last, { later with ended := true }) := by
  have image : ∀ first last : IpcProgram α × ByteStream,
      Moves (byteStream failures) first last →
        Moves (byteStream failures) (first.1, { first.2 with ended := true })
          (last.1, { last.2 with ended := true }) := by
    rintro ⟨first, before⟩ ⟨second, after⟩ moves
    cases moves with
    | drift drift => exact absurd drift (still_byteStream failures _ _)
    | @answer operation rest answer _ _ answers =>
        refine Moves.answer ?_
        cases operation with
        | write data =>
            cases answer with
            | wrote count =>
                obtain ⟨some, within, rfl⟩ := answers
                exact ⟨some, within, rfl⟩
            | interrupted =>
                obtain ⟨some, rfl⟩ := answers
                exact ⟨some, rfl⟩
            | failed detail =>
                obtain ⟨may, rfl⟩ := answers
                exact ⟨may, rfl⟩
        | recv size =>
            cases answer with
            | received first more =>
                obtain ⟨fits, remaining, pending, rfl⟩ := answers
                exact ⟨fits, remaining, pending, rfl⟩
            | closed =>
                obtain ⟨empty, -, rfl⟩ := answers
                exact ⟨empty, rfl, rfl⟩
            | interrupted =>
                obtain ⟨some, rfl⟩ := answers
                exact ⟨some, rfl⟩
            | failed detail =>
                obtain ⟨may, rfl⟩ := answers
                exact ⟨may, rfl⟩
  exact ReflTransGen.lift (fun configuration : IpcProgram α × ByteStream =>
    (configuration.1, { configuration.2 with ended := true })) image _ _ reaches

/-- The run has come to a result satisfying `expected`, or it can go on. -/
def Progresses {α : Type} (failures : Bool) (expected : α → ByteStream → Prop)
    (configuration : IpcProgram α × ByteStream) : Prop :=
  match configuration.1 with
  | .done value => expected value configuration.2
  | .call operation _ => ∃ answer next,
      (byteStream failures).answers configuration.2 operation answer next
  | .cut => False

theorem progresses_of_safe {α : Type} {failures : Bool} {expected : α → ByteStream → Prop}
    {program : IpcProgram α} {stream : ByteStream}
    (safe : Safe (byteStream failures) (completing failures) expected program stream) :
    Progresses failures expected (program, stream) := by
  cases program with
  | done value => exact safe.result
  | call operation rest => exact safe.permits
  | cut => exact safe.cuts

/-- The frame codec is a bijection over any chunking.  Sent frames are put on
the stream as their encodings and received again, whatever parts the transfers
have; a frame is received from an arbitrary stream only by taking exactly its
encoding; and there is an error at the end of a stream that does not go on with
an encoding, and already where its size or its type are wrong. -/
theorem ipcFrames_codec (fuel patience : Nat) (stream : ByteStream)
    (enough : EnoughFuel fuel patience) (patient : stream.interruptions ≤ patience) :
    (∀ frames : List IpcFrame, (∀ frame ∈ frames, frame.Sendable) → stream.pending = [] →
      (∀ last, Reaches (byteStream false) (sendIpcFrames fuel frames, stream) last →
        Progresses false (fun result later => result = .ok () ∧
          later.pending = frames.flatMap frameBytes) last) ∧
      (∀ last, Reaches (byteStream false) (exchangeIpcFrames fuel frames, stream) last →
        Progresses false (fun result later => result = .ok frames ∧ later.pending = []) last)) ∧
    (∀ failures frame later,
      Reaches (byteStream failures) (receiveIpcFrame fuel, stream) (.done (.ok frame), later) →
        frame.Sendable ∧ stream.pending = frameBytes frame ++ later.pending) ∧
    (stream.ended = true ∧ ¬ StartsWithFrame stream.pending ∨ RulesOutFrame stream.pending →
      ∀ failures last, Reaches (byteStream failures) (receiveIpcFrame fuel, stream) last →
        Progresses failures (fun result _ => ∃ failure, result = .error failure) last) := by
  refine ⟨fun frames sendable empty => ⟨fun last reaches => ?_, fun last reaches => ?_⟩,
    fun failures frame later reaches => ?_, fun refused failures last reaches => ?_⟩
  · have sent := sendIpcFrames_triple [] sendable enough stream ⟨empty, patient⟩
    refine progresses_of_safe ((sent.of_reaches reaches).imp ?_)
    rintro result later ⟨ok, pending, -⟩
    exact ⟨ok, by simpa using pending⟩
  · have exchanged := exchangeIpcFrames_triple sendable enough stream ⟨empty, patient⟩
    exact progresses_of_safe (exchanged.of_reaches reaches)
  · have received := receiveIpcFrame_triple failures true enough { stream with ended := true }
      ⟨rfl, rfl, patient, Or.inl rfl⟩
    obtain ⟨sendable, split, -, -⟩ := (received.of_reaches (reaches_ended reaches)).result
    exact ⟨sendable, split⟩
  · have decided : stream.ended = true ∨ Decided stream.pending :=
      refused.imp And.left Or.inr
    have absent : ¬ StartsWithFrame stream.pending :=
      refused.elim And.right RulesOutFrame.not_startsWithFrame
    have received := receiveIpcFrame_triple failures stream.ended enough stream
      ⟨rfl, rfl, patient, decided⟩
    refine progresses_of_safe ((received.of_reaches reaches).imp ?_)
    rintro (failure | frame) later outcome
    · exact ⟨failure, rfl⟩
    · exact absurd ⟨frame, later.pending, outcome.1, outcome.2.1⟩ absent

/-- Two frames through a connection on which one call is interrupted, a stream that
ends within a header, and one that stays open behind a size that is too small. -/
theorem ipcFrames_codec_examples :
    Progresses false
        (fun result later => result = .ok [⟨.request, 1, [7]⟩, ⟨.log, 0, []⟩] ∧
          later.pending = [])
        (exchangeIpcFrames 70000 [⟨.request, 1, [7]⟩, ⟨.log, 0, []⟩], ⟨[], false, 1⟩) ∧
      Progresses true (fun result _ => ∃ failure, result = .error failure)
        (receiveIpcFrame 70000, ⟨[0, 0, 0], true, 0⟩) ∧
      Progresses true (fun result _ => ∃ failure, result = .error failure)
        (receiveIpcFrame 70000, ⟨[0, 0, 0, 4], false, 0⟩) := by
  have sendable : ∀ frame ∈ ([⟨.request, 1, [7]⟩, ⟨.log, 0, []⟩] : List IpcFrame),
      frame.Sendable := by
    intro frame member
    simp only [List.mem_cons, List.not_mem_nil, or_false] at member
    rcases member with rfl | rfl <;> simp [IpcFrame.Sendable, kIpcMaximumPayload]
  have absent : ¬ StartsWithFrame [0, 0, 0] := fun starts =>
    absurd (length_le_of_startsWithFrame starts) (by decide)
  have ruledOut : RulesOutFrame [0, 0, 0, 4] := ⟨[0, 0, 0, 4], [], rfl, rfl, Or.inl (by decide)⟩
  refine ⟨?_, ?_, ?_⟩
  · exact ((ipcFrames_codec 70000 1 ⟨[], false, 1⟩ (by unfold EnoughFuel; decide)
      (by decide)).1 _ sendable rfl).2 _ ReflTransGen.refl
  · exact (ipcFrames_codec 70000 0 ⟨[0, 0, 0], true, 0⟩ (by unfold EnoughFuel; decide)
      (by decide)).2.2 (Or.inl ⟨rfl, absent⟩) true _ ReflTransGen.refl
  · exact (ipcFrames_codec 70000 0 ⟨[0, 0, 0, 4], false, 0⟩ (by unfold EnoughFuel; decide)
      (by decide)).2.2 (Or.inr ruledOut) true _ ReflTransGen.refl

end TunProxy
