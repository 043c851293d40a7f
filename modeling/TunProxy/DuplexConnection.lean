import Mathlib.Order.GameAdd
import TunProxy.IpcFrameStream

/-!
# Two programs on one connection

A client and a server are joined by a byte stream in each direction.  Either
may make the next step, transfers may have any size, and a signal may interrupt
a call a limited number of times.  Each end is verified alone, against a stream
on which the other end's bytes have all arrived; a session of two such ends
never gets stuck and comes to the results that they have alone.
-/

namespace TunProxy

open ByteText EffectProgram Relation

/-! ## One end alone -/

/-- What one end sees: the bytes it has yet to read, those it has written, and
how many more calls get interrupted. -/
structure Endpoint where
  incoming : Bytes
  outgoing : Bytes
  interruptions : Nat

def Endpoint.Answers (world : Endpoint) (operation : IpcOperation) (answer : IpcAnswer operation)
    (next : Endpoint) : Prop :=
  match operation, answer with
  | .write data, .wrote count =>
      0 < count ∧ count ≤ data.length ∧
        next = { world with outgoing := world.outgoing ++ data.take count }
  | .recv size, .received first more =>
      more.length < size ∧ ∃ rest, world.incoming = first :: more ++ rest ∧
        next = { world with incoming := rest }
  | .write _, .interrupted | .recv _, .interrupted =>
      0 < world.interruptions ∧ next = { world with interruptions := world.interruptions - 1 }
  | _, _ => False

/-- The surroundings of one end, whose transfers all succeed. -/
def endpoint : Surroundings IpcAnswer Endpoint where
  answers := Endpoint.Answers
  drift _ _ := False

theorem still_endpoint : Still endpoint :=
  fun _ _ => not_false

def IpcOperation.Writes : IpcOperation → Prop
  | .write _ => True
  | .recv _ => False

def IpcOperation.Reads : IpcOperation → Prop
  | .write _ => False
  | .recv _ => True

/-- Every call can be answered, no run is cut off, and nothing is read before
what has been written satisfies a condition. -/
def attentive (mayRead : Bytes → Prop) : Watch IpcOperation Endpoint where
  holds _ := True
  permits world operation := (∃ answer next, world.Answers operation answer next) ∧
    (operation.Reads → mayRead world.outgoing)
  cuts := False

section Ends

variable {α : Type} {mayRead : Bytes → Prop}

theorem end_done {post : α → Endpoint → Prop} {value : α} {world : Endpoint}
    (holds : post value world) : Safe endpoint (attentive mayRead) post (.done value) world :=
  Triple.done (still_endpoint.stable (post value)) (fun _ _ => trivial) (fun _ => id) world holds

/-- A program that only writes does at an end what it does on a stream. -/
theorem safe_writing {program : IpcProgram α} {post : α → ByteStream → Prop} {world : Endpoint}
    (writes : program.Calls IpcOperation.Writes)
    (safe : Safe (byteStream false) (completing false) post program
      ⟨world.outgoing, false, world.interruptions⟩) :
    Safe endpoint (attentive mayRead)
      (fun value last => post value ⟨last.outgoing, false, last.interruptions⟩ ∧
        last.incoming = world.incoming) program world := by
  induction program generalizing world with
  | done value => exact end_done ⟨safe.result, rfl⟩
  | cut => exact absurd safe.cuts not_false
  | call operation rest ih =>
      cases operation with
      | recv size => exact absurd writes.1 not_false
      | write data =>
          intro later drifts
          rw [still_endpoint.eq_of_drifts drifts]
          obtain ⟨-, ⟨some, next, possible⟩, answered⟩ := safe _ .refl
          refine ⟨trivial, ⟨?_, fun impossible => impossible.elim⟩, ?_⟩
          · cases some with
            | wrote count =>
                obtain ⟨positive, within, -⟩ := possible
                exact ⟨.wrote count, _, positive, within, rfl⟩
            | interrupted =>
                obtain ⟨patient, -⟩ := possible
                exact ⟨.interrupted, _, patient, rfl⟩
            | failed detail => exact absurd possible.1 (by simp)
          · intro answer next answers
            cases answer with
            | wrote count =>
                obtain ⟨positive, within, rfl⟩ := answers
                have after := answered (.wrote count) _ ⟨positive, within, rfl⟩
                exact @ih (.wrote count) { world with
                  outgoing := world.outgoing ++ data.take count } (writes.2 _) after
            | interrupted =>
                obtain ⟨patient, rfl⟩ := answers
                have after := answered .interrupted _ ⟨patient, rfl⟩
                exact @ih .interrupted { world with
                  interruptions := world.interruptions - 1 } (writes.2 _) after
            | failed detail => exact answers.elim

/-- A program that only reads does at an end what it does on a stream. -/
theorem safe_reading {program : IpcProgram α} {post : α → ByteStream → Prop} {world : Endpoint}
    (reads : program.Calls IpcOperation.Reads) (may : mayRead world.outgoing)
    (safe : Safe (byteStream false) (completing false) post program
      ⟨world.incoming, false, world.interruptions⟩) :
    Safe endpoint (attentive mayRead)
      (fun value last => post value ⟨last.incoming, false, last.interruptions⟩ ∧
        last.outgoing = world.outgoing) program world := by
  induction program generalizing world with
  | done value => exact end_done ⟨safe.result, rfl⟩
  | cut => exact absurd safe.cuts not_false
  | call operation rest ih =>
      cases operation with
      | write data => exact absurd reads.1 not_false
      | recv size =>
          intro later drifts
          rw [still_endpoint.eq_of_drifts drifts]
          obtain ⟨-, ⟨some, next, possible⟩, answered⟩ := safe _ .refl
          refine ⟨trivial, ⟨?_, fun _ => may⟩, ?_⟩
          · cases some with
            | received first more =>
                obtain ⟨fits, rest, pending, -⟩ := possible
                exact ⟨.received first more, _, fits, rest, pending, rfl⟩
            | interrupted =>
                obtain ⟨patient, -⟩ := possible
                exact ⟨.interrupted, _, patient, rfl⟩
            | closed => exact absurd possible.2.1 (by simp)
            | failed detail => exact absurd possible.1 (by simp)
          · intro answer next answers
            cases answer with
            | received first more =>
                obtain ⟨fits, rest, pending, rfl⟩ := answers
                have after := answered (.received first more) _ ⟨fits, rest, pending, rfl⟩
                exact @ih (.received first more) { world with incoming := rest } (reads.2 _) may
                  after
            | interrupted =>
                obtain ⟨patient, rfl⟩ := answers
                have after := answered .interrupted _ ⟨patient, rfl⟩
                exact @ih .interrupted { world with
                  interruptions := world.interruptions - 1 } (reads.2 _) may after
            | closed => exact answers.elim
            | failed detail => exact answers.elim

/-- What an end has written is the beginning of what it will have written. -/
theorem outgoing_prefix {program : IpcProgram α} {total : Bytes}
    {post : α → Endpoint → Prop} {world : Endpoint}
    (safe : Safe endpoint (attentive mayRead) post program world)
    (writesTotal : ∀ value last, post value last → last.outgoing = total) :
    ∃ more, total = world.outgoing ++ more := by
  induction program generalizing world with
  | done value => exact ⟨[], by rw [writesTotal value world safe.result, List.append_nil]⟩
  | cut => exact absurd safe.cuts not_false
  | call operation rest ih =>
      obtain ⟨-, ⟨⟨answer, next, answers⟩, -⟩, answered⟩ := safe _ .refl
      obtain ⟨more, whole⟩ := ih answer (answered answer next answers)
      cases operation with
      | write data =>
          cases answer with
          | wrote count =>
              obtain ⟨-, -, rfl⟩ := answers
              exact ⟨data.take count ++ more, by rw [whole, List.append_assoc]⟩
          | interrupted =>
              obtain ⟨-, rfl⟩ := answers
              exact ⟨more, whole⟩
          | failed detail => exact answers.elim
      | recv size =>
          cases answer with
          | received first others =>
              obtain ⟨-, remaining, -, rfl⟩ := answers
              exact ⟨more, whole⟩
          | interrupted =>
              obtain ⟨-, rfl⟩ := answers
              exact ⟨more, whole⟩
          | closed => exact answers.elim
          | failed detail => exact answers.elim

end Ends

/-! ## Two ends together -/

/-- One direction: everything written so far, and what has yet to be read. -/
structure Channel where
  written : Bytes
  pending : Bytes

def Channel.write (channel : Channel) (part : Bytes) : Channel :=
  ⟨channel.written ++ part, channel.pending ++ part⟩

/-- A client and a server with the connection between them. -/
structure Session (α β : Type) where
  client : IpcProgram α
  server : IpcProgram β
  requests : Channel
  replies : Channel
  clientInterruptions : Nat
  serverInterruptions : Nat

/-- What one call of an end does to the channel it reads, to the one it writes
and to the number of interruptions. -/
inductive Transfers (incoming outgoing : Channel) (interruptions : Nat) :
    (operation : IpcOperation) → IpcAnswer operation → Channel → Channel → Nat → Prop
  | write {data : Bytes} {count : Nat} (positive : 0 < count) (within : count ≤ data.length) :
      Transfers incoming outgoing interruptions (.write data) (.wrote count) incoming
        (outgoing.write (data.take count)) interruptions
  | recv {size : Nat} {first : UInt8} {more rest : Bytes} (fits : more.length < size)
      (pending : incoming.pending = first :: more ++ rest) :
      Transfers incoming outgoing interruptions (.recv size) (.received first more)
        { incoming with pending := rest } outgoing interruptions
  | interruptedWrite {data : Bytes} (patient : 0 < interruptions) :
      Transfers incoming outgoing interruptions (.write data) .interrupted incoming outgoing
        (interruptions - 1)
  | interruptedRecv {size : Nat} (patient : 0 < interruptions) :
      Transfers incoming outgoing interruptions (.recv size) .interrupted incoming outgoing
        (interruptions - 1)

namespace Session

variable {α β : Type}

inductive Moves : Session α β → Session α β → Prop
  | client {session : Session α β} {operation : IpcOperation}
      {rest : IpcAnswer operation → IpcProgram α} {answer : IpcAnswer operation}
      {replies requests : Channel} {interruptions : Nat}
      (running : session.client = .call operation rest)
      (transfers : Transfers session.replies session.requests session.clientInterruptions
        operation answer replies requests interruptions) :
      Moves session { session with
        client := rest answer, replies := replies, requests := requests
        clientInterruptions := interruptions }
  | server {session : Session α β} {operation : IpcOperation}
      {rest : IpcAnswer operation → IpcProgram β} {answer : IpcAnswer operation}
      {requests replies : Channel} {interruptions : Nat}
      (running : session.server = .call operation rest)
      (transfers : Transfers session.requests session.replies session.serverInterruptions
        operation answer requests replies interruptions) :
      Moves session { session with
        server := rest answer, requests := requests, replies := replies
        serverInterruptions := interruptions }

def Reaches (first last : Session α β) : Prop :=
  ReflTransGen Moves first last

/-! ## Every run is finite -/

/-- What is left of a program after one call. -/
inductive After : IpcProgram α → IpcProgram α → Prop
  | call (operation : IpcOperation) (rest : IpcAnswer operation → IpcProgram α)
      (answer : IpcAnswer operation) : After (rest answer) (.call operation rest)

theorem after_wellFounded : WellFounded (After : IpcProgram α → IpcProgram α → Prop) := by
  refine ⟨fun program => ?_⟩
  induction program with
  | done value => exact .intro _ fun _ after => nomatch after
  | cut => exact .intro _ fun _ after => nomatch after
  | call operation rest ih =>
      refine .intro _ fun left after => ?_
      cases after with
      | call operation rest answer => exact ih answer

/-- No session goes on forever. -/
theorem moves_wellFounded :
    WellFounded fun later earlier : Session α β => Moves earlier later := by
  have programs := after_wellFounded (α := α) |>.prod_gameAdd (after_wellFounded (α := β))
  refine Subrelation.wf ?_ (InvImage.wf (fun session => (session.client, session.server)) programs)
  intro later earlier moves
  cases moves with
  | @client operation rest answer _ _ _ running transfers =>
      simp only [InvImage, running]
      exact .fst (.call operation rest answer)
  | @server operation rest answer _ _ _ running transfers =>
      simp only [InvImage, running]
      exact .snd (.call operation rest answer)

/-- Every session comes to a state in which neither end can go on. -/
theorem comes_to_rest (session : Session α β) :
    ∃ last, Reaches session last ∧ ∀ next, ¬ Moves last next := by
  induction session using moves_wellFounded.induction with
  | _ session ih =>
      by_cases moves : ∃ next, Moves session next
      · obtain ⟨next, step⟩ := moves
        obtain ⟨last, reaches, rests⟩ := ih next step
        exact ⟨last, ReflTransGen.head step reaches, rests⟩
      · exact ⟨session, ReflTransGen.refl, fun next step => moves ⟨next, step⟩⟩

/-! ## Neither end gets stuck -/

/-- Both ends are as they are alone, when what the other end has yet to write has
already arrived; in the end the client has written all requests and the server
all replies. -/
def Joined (requests replies : Bytes) (clientPost : α → Prop) (serverPost : β → Prop)
    (session : Session α β) : Prop :=
  ∃ moreRequests moreReplies,
    requests = session.requests.written ++ moreRequests ∧
    replies = session.replies.written ++ moreReplies ∧
    Safe endpoint (attentive fun written => written = requests)
      (fun value last => clientPost value ∧ last.outgoing = requests) session.client
      ⟨session.replies.pending ++ moreReplies, session.requests.written,
        session.clientInterruptions⟩ ∧
    Safe endpoint (attentive fun _ => True)
      (fun value last => serverPost value ∧ last.outgoing = replies) session.server
      ⟨session.requests.pending ++ moreRequests, session.replies.written,
        session.serverInterruptions⟩

end Session

section Transfers

variable {incoming outgoing incoming' outgoing' : Channel} {interruptions interruptions' : Nat}
variable {operation : IpcOperation} {answer : IpcAnswer operation}

/-- A call is answered as it would be if more had arrived. -/
theorem Transfers.answers (transfers : Transfers incoming outgoing interruptions operation answer
      incoming' outgoing' interruptions') (future : Bytes) :
    Endpoint.Answers ⟨incoming.pending ++ future, outgoing.written, interruptions⟩ operation answer
      ⟨incoming'.pending ++ future, outgoing'.written, interruptions'⟩ := by
  cases transfers with
  | write positive within => exact ⟨positive, within, rfl⟩
  | @recv _ _ _ rest fits pending =>
      refine ⟨fits, rest ++ future, ?_, rfl⟩
      rw [pending, List.append_assoc]
  | interruptedWrite patient => exact ⟨patient, rfl⟩
  | interruptedRecv patient => exact ⟨patient, rfl⟩

theorem Transfers.channels (transfers : Transfers incoming outgoing interruptions operation answer
      incoming' outgoing' interruptions') :
    incoming'.written = incoming.written ∧ ∃ part, outgoing' = outgoing.write part := by
  have same : outgoing = outgoing.write [] := by simp [Channel.write]
  cases transfers with
  | write positive within => exact ⟨rfl, _, rfl⟩
  | recv fits pending => exact ⟨rfl, [], same⟩
  | interruptedWrite patient => exact ⟨rfl, [], same⟩
  | interruptedRecv patient => exact ⟨rfl, [], same⟩

/-- A call that could be answered with more bytes there can be answered, unless
it waits for the first of them. -/
theorem Endpoint.Answers.transfers {future : Bytes} {next : Endpoint}
    (answers : Endpoint.Answers ⟨incoming.pending ++ future, outgoing.written, interruptions⟩
      operation answer next)
    (unblocked : operation.Reads → incoming.pending ≠ [] ∨ future = []) :
    ∃ answer incoming' outgoing' interruptions', Transfers incoming outgoing interruptions operation
      answer incoming' outgoing' interruptions' := by
  cases operation with
  | write data =>
      cases answer with
      | wrote count =>
          obtain ⟨positive, within, -⟩ := answers
          exact ⟨_, _, _, _, .write positive within⟩
      | interrupted => exact ⟨_, _, _, _, .interruptedWrite answers.1⟩
      | failed detail => exact answers.elim
  | recv size =>
      cases answer with
      | received first more =>
          obtain ⟨fits, rest, arrived, -⟩ := answers
          have present : incoming.pending ≠ [] := by
            rcases unblocked trivial with present | noFuture
            · exact present
            · rintro empty
              simp [empty, noFuture] at arrived
          obtain ⟨head, tail, pending⟩ := List.exists_cons_of_ne_nil present
          have one : ([] : Bytes).length < size := by
            simp only [List.length_nil]
            omega
          exact ⟨.received head [], _, _, _, .recv one pending⟩
      | interrupted => exact ⟨_, _, _, _, .interruptedRecv answers.1⟩
      | closed => exact answers.elim
      | failed detail => exact answers.elim

end Transfers

namespace Session

variable {α β : Type} {requests replies : Bytes} {clientPost : α → Prop} {serverPost : β → Prop}
variable {session next : Session α β}

theorem Joined.moves (joined : session.Joined requests replies clientPost serverPost)
    (moves : Moves session next) : next.Joined requests replies clientPost serverPost := by
  obtain ⟨moreRequests, moreReplies, requestsEq, repliesEq, client, server⟩ := joined
  cases moves with
  | @client operation rest answer _ _ _ running transfers =>
      rw [running] at client
      have after := (client _ .refl).2.2 answer _ (transfers.answers moreReplies)
      obtain ⟨left, whole⟩ := outgoing_prefix after fun _ _ post => post.2
      obtain ⟨repliesWritten, part, rfl⟩ := transfers.channels
      have future : moreRequests = part ++ left := by
        simpa [requestsEq, Channel.write] using whole
      refine ⟨left, moreReplies, whole, repliesEq.trans (by rw [repliesWritten]), after, ?_⟩
      simpa [future, Channel.write, repliesWritten] using server
  | @server operation rest answer _ _ _ running transfers =>
      rw [running] at server
      have after := (server _ .refl).2.2 answer _ (transfers.answers moreRequests)
      obtain ⟨left, whole⟩ := outgoing_prefix after fun _ _ post => post.2
      obtain ⟨requestsWritten, part, rfl⟩ := transfers.channels
      have future : moreReplies = part ++ left := by
        simpa [repliesEq, Channel.write] using whole
      refine ⟨moreRequests, left, requestsEq.trans (by rw [requestsWritten]), whole, ?_, after⟩
      simpa [future, Channel.write, requestsWritten] using client

theorem Joined.of_reaches (joined : session.Joined requests replies clientPost serverPost)
    (reaches : Reaches session next) : next.Joined requests replies clientPost serverPost := by
  induction reaches with
  | refl => exact joined
  | tail _ moves ih => exact ih.moves moves

/-- Both ends have come to their results, and everything was written. -/
def Finished (requests replies : Bytes) (clientPost : α → Prop) (serverPost : β → Prop)
    (session : Session α β) : Prop :=
  ∃ clientValue serverValue, session.client = .done clientValue ∧
    session.server = .done serverValue ∧ clientPost clientValue ∧ serverPost serverValue ∧
    session.requests.written = requests ∧ session.replies.written = replies

/-- A session that has not finished can go on. -/
theorem Joined.progresses (joined : session.Joined requests replies clientPost serverPost) :
    session.Finished requests replies clientPost serverPost ∨ ∃ next, Moves session next := by
  obtain ⟨moreRequests, moreReplies, requestsEq, repliesEq, client, server⟩ := joined
  have serverGoesOn (allSent : moreRequests = []) :
      (∃ value, session.server = .done value) ∨ ∃ next, Moves session next := by
    cases running : session.server with
    | done value => exact .inl ⟨value, rfl⟩
    | cut =>
        rw [running] at server
        exact absurd server.cuts not_false
    | call operation rest =>
        rw [running] at server
        obtain ⟨⟨answer, next, answers⟩, -⟩ := server.permits
        obtain ⟨_, _, _, _, transfers⟩ := answers.transfers fun _ => .inr allSent
        exact .inr ⟨_, .server running transfers⟩
  have serverDone {value : β} (done : session.server = .done value) :
      serverPost value ∧ session.replies.written = replies := by
    rw [done] at server
    exact server.result
  cases running : session.client with
  | cut =>
      rw [running] at client
      exact absurd client.cuts not_false
  | done value =>
      rw [running] at client
      obtain ⟨post, written⟩ := client.result
      have allSent : moreRequests = [] := by
        simpa [show session.requests.written = requests from written] using requestsEq
      rcases serverGoesOn allSent with ⟨other, done⟩ | moves
      · obtain ⟨otherPost, otherWritten⟩ := serverDone done
        exact .inl ⟨value, other, running, done, post, otherPost, written, otherWritten⟩
      · exact .inr moves
  | call operation rest =>
      rw [running] at client
      obtain ⟨⟨answer, next, answers⟩, reads⟩ := client.permits
      by_cases unblocked : operation.Reads → session.replies.pending ≠ [] ∨ moreReplies = []
      · obtain ⟨_, _, _, _, transfers⟩ := answers.transfers unblocked
        exact .inr ⟨_, .client running transfers⟩
      · -- the client waits for a reply: it has sent everything, so the server goes on
        rw [Classical.not_imp, not_or] at unblocked
        obtain ⟨waits, -, unsent⟩ := unblocked
        have allSent : moreRequests = [] := by
          simpa [show session.requests.written = requests from reads waits] using requestsEq
        rcases serverGoesOn allSent with ⟨other, done⟩ | moves
        · rw [(serverDone done).2] at repliesEq
          exact absurd (by simpa using repliesEq) unsent
        · exact .inr moves

end Session

end TunProxy
