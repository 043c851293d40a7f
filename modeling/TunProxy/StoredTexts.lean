import TunProxy.EffectProgramSafety
import TunProxy.RuntimeStateStore

/-!
# The text files that are written and read again

Of all that surrounds the program only the contents of the configuration and
of the state file are kept here: nothing else writes them, what is written
whole is read whole, and everything else may be answered in any way.
-/

namespace TunProxy

open ByteText EffectProgram

/-- What the files hold, if they exist. -/
structure StoredTexts where
  config : Option Bytes
  state : Option Bytes

/-- A file that exists is read, another one is not. -/
def ReadsAs (content : Option Bytes) (answer : Result Bytes) : Prop :=
  match content with
  | some text => answer = .ok text
  | none => ∃ failure, answer = .error failure

def StoredTexts.Answers (texts : StoredTexts) (call : SystemCall) (answer : SystemAnswer call)
    (next : StoredTexts) : Prop :=
  match call, answer with
  | .readTextFile .config, answer => ReadsAs texts.config answer ∧ next = texts
  | .readTextFile .state, answer => ReadsAs texts.state answer ∧ next = texts
  | .writeFileAtomic .config contents _, .ok () => next = { texts with config := some contents }
  | .writeFileAtomic .state contents _, .ok () => next = { texts with state := some contents }
  | .removeFile .config, .removed => next = { texts with config := none }
  | .removeFile .state, .removed => next = { texts with state := none }
  | _, _ => next = texts

/-- The files, with nobody else who writes them. -/
def storing : Surroundings SystemAnswer StoredTexts where
  answers := StoredTexts.Answers
  drift _ _ := False

theorem still_storing : Still storing :=
  fun _ _ => not_false

/-- After any program that may fail a file is written: a success tells that it
holds what was written. -/
theorem triple_written {file : WrittenFile} {contents : Bytes} {mode : Nat}
    {holds : StoredTexts → Prop}
    (written : ∀ texts next, StoredTexts.Answers texts (.writeFileAtomic file contents mode)
      (.ok ()) next → holds next)
    (program : System (Result Unit)) :
    Triple storing unwatched (fun _ => True)
      (program.andThen fun _ => writeFileAtomic file contents mode)
      (fun result texts => result = .ok () → holds texts) := by
  have before : Triple storing unwatched (fun _ => True) program (fun _ _ => True) :=
    fun texts _ => safe_unwatched storing program texts
  refine before.andThen (fun _ => ?_) fun failure => ?_
  · refine Triple.call (still_storing.stable _) (fun _ _ => trivial) (fun _ _ => trivial) ?_
    intro texts answer next _ answers
    refine Triple.done (still_storing.stable fun later => answer = .ok () → holds later)
      (fun _ _ => trivial) (fun _ => id) next ?_
    rintro rfl
    exact written texts next answers
  · exact Triple.done (still_storing.stable _) (fun _ _ => trivial) fun _ _ failed => nomatch failed

/-- What a text file is made of when it is read. -/
theorem triple_read {α : Type} {file : TextFile} {text : Bytes} {holds : StoredTexts → Prop}
    (read : ∀ texts answer next, holds texts →
      StoredTexts.Answers texts (.readTextFile file) answer next → answer = .ok text)
    (parse : Result Bytes → α) :
    Triple storing unwatched holds ((readTextFile file).bind fun content => .done (parse content))
      (fun result _ => result = parse (.ok text)) := by
  refine Triple.call (still_storing.stable _) (fun _ _ => trivial) (fun _ _ => trivial) ?_
  intro texts answer next held answers
  obtain rfl := read texts answer next held answers
  exact Triple.done (still_storing.stable fun _ => True) (fun _ _ => trivial) (fun _ _ => rfl)
    next trivial

/-! ## Files to compute with -/

/-- Answers of a system on which every directory exists and no call fails. -/
def StoredTexts.respond : Responder SystemAnswer StoredTexts
  | texts, .readTextFile .config =>
      some (texts.config.elim (.error (makeError .generic (ascii "open"))) .ok, texts)
  | texts, .readTextFile .state =>
      some (texts.state.elim (.error (makeError .generic (ascii "open"))) .ok, texts)
  | texts, .writeFileAtomic .config contents _ =>
      some (.ok (), { texts with config := some contents })
  | texts, .writeFileAtomic .state contents _ =>
      some (.ok (), { texts with state := some contents })
  | texts, .lstat _ => some (.found ⟨.directory, 0, 0⟩, texts)
  | texts, .chmod _ _ => some (.ok (), texts)
  | _, _ => none

theorem readsAs_elim (content : Option Bytes) (failure : Error) :
    ReadsAs content (content.elim (.error failure) .ok) := by
  cases content with
  | none => exact ⟨failure, rfl⟩
  | some text => rfl

theorem StoredTexts.respond_within : StoredTexts.respond.Within storing id := by
  intro texts call answer next responded
  refine ⟨texts, .refl, ?_⟩
  unfold StoredTexts.respond at responded
  split at responded <;> cases responded
  · exact ⟨readsAs_elim _ _, rfl⟩
  · exact ⟨readsAs_elim _ _, rfl⟩
  all_goals rfl

end TunProxy
