import TunProxy.CommandLine
import TunProxy.ConfigRoundTrip
import TunProxy.OperationLock

/-!
# Asking for the upstream

Without an argument `setting` shows the upstream and asks for a host and a port,
each of which may be left as it is.  What was asked for is sent back as a URI,
which the controller parses once more; where the tool reports success the
configuration holds exactly what was typed, with what was not typed taken from
the configuration before, and otherwise it holds that or has not changed.
-/

namespace TunProxy

open ByteText EffectProgram

/-! ## A host in a URI -/

/-- A host as it is written in a URI. -/
def writeHost (host : Bytes) : Bytes :=
  if colon ∈ host then openBracket :: host ++ [closeBracket] else host

/-- The hosts that can be read from a URI, and as what. -/
inductive ReadsAsHost : Bytes → Bytes → Prop
  | enclosed {host : Bytes} (inside : colon ∈ host) (closed : closeBracket ∉ host) :
      ReadsAsHost host host
  | plain {host : Bytes} (absent : colon ∉ host) (first : host.head? ≠ some openBracket) :
      ReadsAsHost host host
  /-- Brackets around a host without a colon are dropped. -/
  | bracketed {host : Bytes} (absent : colon ∉ host) (closed : closeBracket ∉ host) :
      ReadsAsHost (openBracket :: host ++ [closeBracket]) host

theorem isDigit_of_parsePort {text : Bytes} {port : UInt16} (parsed : parsePort text = .ok port) :
    ∀ byte ∈ text, IsDigit byte := by
  unfold parsePort parseUnsigned at parsed
  split at parsed
  next value read =>
    split at read
    · cases read
    · exact isDigit_of_parseDigits (Option.filter_eq_some_iff.mp read).1
  next => cases parsed

/-- Behind a leading bracket the host ends at the first closing one. -/
theorem splitAuthority_bracket {host : Bytes} (tail : Bytes) (closed : closeBracket ∉ host) :
    splitAuthority (openBracket :: host ++ closeBracket :: tail) =
      if tail.head? = some colon then .ok (host, tail.drop 1)
      else .error (makeError .invalidConfiguration (ascii "invalid bracketed IPv6 upstream")) := by
  have absent : closeBracket ∉ openBracket :: host := by
    simp only [List.mem_cons, not_or]
    exact ⟨by decide, closed⟩
  have first : (openBracket :: host ++ closeBracket :: tail).head? = some openBracket := rfl
  rw [splitAuthority, if_pos first, splitFirst_append tail absent]
  rfl

/-- Without a leading bracket the host ends at the only colon. -/
theorem splitAuthority_plain {host : Bytes} {tail found portText : Bytes}
    (absent : colon ∉ host) (first : host.head? ≠ some openBracket)
    (split : splitAuthority (host ++ colon :: tail) = .ok (found, portText)) :
    found = host ∧ portText = tail := by
  have notBracket : (host ++ colon :: tail).head? ≠ some openBracket := by
    cases host with
    | nil => exact fun same => absurd (Option.some.inj same) (by decide)
    | cons byte rest => exact first
  rw [splitAuthority, if_neg notBracket] at split
  cases last : splitLast colon (host ++ colon :: tail) with
  | none =>
      rw [last] at split
      cases split
  | some parts =>
      obtain ⟨front, back⟩ := parts
      rw [last] at split
      dsimp only at split
      split at split
      · cases split
      next single =>
        obtain ⟨rfl, rfl⟩ := Prod.mk.inj (Except.ok.inj split)
        obtain ⟨whole, -⟩ := eq_of_splitLast last
        have alone : colon ∉ front := fun member => single (List.contains_iff_mem.mpr member)
        -- two splits at a colon that is not in front of it are the same
        have one := splitFirst_append tail absent
        rw [whole, splitFirst_append back alone] at one
        exact Prod.mk.inj (Option.some.inj one)

/-- What a readable host is read as does not depend on the port. -/
theorem ReadsAsHost.split {host read tail found portText : Bytes} (reads : ReadsAsHost host read)
    (split : splitAuthority (writeHost host ++ colon :: tail) = .ok (found, portText)) :
    found = read ∧ portText = tail := by
  have enclosed (inner : Bytes) (closed : closeBracket ∉ inner)
      (split : splitAuthority (openBracket :: inner ++ closeBracket :: (colon :: tail)) =
        .ok (found, portText)) : found = inner ∧ portText = tail := by
    have colonNext : (colon :: tail).head? = some colon := rfl
    rw [splitAuthority_bracket _ closed, if_pos colonNext] at split
    obtain ⟨rfl, rfl⟩ := Prod.mk.inj (Except.ok.inj split)
    exact ⟨rfl, rfl⟩
  cases reads with
  | enclosed inside closed =>
      rw [writeHost, if_pos inside] at split
      exact enclosed host closed (by simpa using split)
  | plain absent first =>
      rw [writeHost, if_neg absent] at split
      exact splitAuthority_plain absent first split
  | bracketed absent closed =>
      have noColon : colon ∉ openBracket :: read ++ [closeBracket] := by
        simp only [List.mem_append, List.mem_cons, List.not_mem_nil, or_false, not_or]
        exact ⟨⟨by decide, absent⟩, by decide⟩
      rw [writeHost, if_neg noColon] at split
      exact enclosed read closed (by simpa using split)

/-- A host that is read back from its own URI is readable. -/
theorem readsAsHost_of_split {host digits found portText : Bytes} {port : UInt16}
    (numeric : ∀ byte ∈ digits, IsDigit byte)
    (split : splitAuthority (writeHost host ++ colon :: digits) = .ok (found, portText))
    (parsed : parsePort portText = .ok port) : ReadsAsHost host found := by
  have unclosed : closeBracket ∉ digits :=
    fun member => absurd (numeric closeBracket member) (by decide)
  by_cases inside : colon ∈ host
  · by_cases closed : closeBracket ∈ host
    · -- what follows the first closing bracket is no port
      obtain ⟨front, back, rfl, before⟩ := List.eq_append_cons_of_mem closed
      have shape : writeHost (front ++ closeBracket :: back) ++ colon :: digits =
          openBracket :: front ++ closeBracket :: (back ++ closeBracket :: colon :: digits) := by
        simp [writeHost, inside]
      rw [shape, splitAuthority_bracket _ before] at split
      split at split
      next colonNext =>
        obtain ⟨-, rfl⟩ := Prod.mk.inj (Except.ok.inj split)
        have member : closeBracket ∈
            (back ++ closeBracket :: colon :: digits).drop 1 := by
          cases back with
          | nil => exact absurd (Option.some.inj colonNext) (by decide)
          | cons byte back => simp
        exact absurd (isDigit_of_parsePort parsed closeBracket member) (by decide)
      next => cases split
    · have reads := ReadsAsHost.enclosed inside closed
      obtain ⟨rfl, -⟩ := reads.split split
      exact reads
  · by_cases first : host.head? = some openBracket
    · obtain ⟨rest, rfl⟩ : ∃ rest, host = openBracket :: rest := by
        cases host with
        | nil => cases first
        | cons byte rest => exact ⟨rest, by rw [Option.some.inj first]⟩
      rw [writeHost, if_neg inside] at split
      by_cases closed : closeBracket ∈ rest
      · obtain ⟨front, back, rfl, before⟩ := List.eq_append_cons_of_mem closed
        have shape : openBracket :: (front ++ closeBracket :: back) ++ colon :: digits =
            openBracket :: front ++ closeBracket :: (back ++ colon :: digits) := by simp
        rw [shape, splitAuthority_bracket _ before] at split
        split at split
        next colonNext =>
          obtain ⟨rfl, -⟩ := Prod.mk.inj (Except.ok.inj split)
          have nothing : back = [] := by
            cases back with
            | nil => rfl
            | cons byte back =>
                obtain rfl : byte = colon := Option.some.inj colonNext
                exact absurd (by simp) inside
          subst nothing
          have absent : colon ∉ front := fun member => inside (by simp [member])
          exact ReadsAsHost.bracketed absent before
        next => cases split
      · -- there is no closing bracket at all
        have leading : (openBracket :: rest ++ colon :: digits).head? = some openBracket := rfl
        rw [splitAuthority, if_pos leading] at split
        cases parts : splitFirst closeBracket (openBracket :: rest ++ colon :: digits) with
        | none =>
            rw [parts] at split
            cases split
        | some pair =>
            obtain ⟨whole, -⟩ := eq_of_splitFirst parts
            have member : closeBracket ∈ openBracket :: rest ++ colon :: digits := by
              rw [whole]
              simp
            simp only [List.mem_append, List.mem_cons, closed, unclosed, or_false] at member
            exact absurd member (by decide)
    · have reads := ReadsAsHost.plain inside first
      obtain ⟨rfl, -⟩ := reads.split split
      exact reads

theorem eq_of_parsePort_formatNat {port found : UInt16}
    (parsed : parsePort (formatNat port.toNat) = .ok found) : found = port := by
  by_cases zero : port = 0
  · subst zero
    have refused : parsePort (formatNat (0 : UInt16).toNat) =
        .error (makeError .invalidConfiguration (ascii "port must be 1..65535")) := by decide
    rw [refused] at parsed
    cases parsed
  · rw [parsePort_formatNat zero] at parsed
    exact (Except.ok.inj parsed).symm

/-- What a URI with the only scheme is made of. -/
theorem parts_of_parseUpstreamUri {authority : Bytes} {parsed : Upstream}
    (filled : authority ≠ [])
    (read : parseUpstreamUri (ascii "socks5" ++ colon :: ([slash, slash] ++ authority)) =
      .ok parsed) :
    parsed.protocol = ascii "socks5" ∧ ∃ portText,
      splitAuthority authority = .ok (parsed.host, portText) ∧
      parsePort portText = .ok parsed.port := by
  have scheme : ascii "://" = colon :: [slash, slash] := by decide
  have absent : colon ∉ ascii "socks5" := by decide
  have found := findText_append [slash, slash] authority absent
  have behind : (ascii "socks5" ++ colon :: ([slash, slash] ++ authority)).drop
      ((ascii "socks5").length + 3) = authority := by
    rw [← List.drop_drop, List.drop_left]
    rfl
  have nonempty : ¬ authority.isEmpty = true := by simpa using filled
  rw [parseUpstreamUri, scheme, found] at read
  simp only [behind, nonempty, List.take_left] at read
  cases split : splitAuthority authority with
  | error failure =>
      rw [split] at read
      cases read
  | ok parts =>
      obtain ⟨host, portText⟩ := parts
      rw [split] at read
      dsimp only at read
      cases ported : parsePort portText with
      | error failure =>
          rw [ported] at read
          cases read
      | ok port =>
          rw [ported] at read
          have valid : validateUpstream ⟨ascii "socks5", host, port⟩ = .ok parsed := read
          obtain ⟨rfl, -⟩ := validateUpstream_eq_ok valid
          exact ⟨rfl, portText, rfl, ported⟩

/-- What is read back of an upstream. -/
theorem readsAsHost_of_parse {upstream read : Upstream}
    (socks5 : upstream.protocol = ascii "socks5")
    (parsed : parseUpstreamUri (formatUpstreamUri upstream) = .ok read) :
    ReadsAsHost upstream.host read.host ∧ read.protocol = ascii "socks5" ∧
      read.port = upstream.port := by
  rw [formatUpstreamUri_eq socks5] at parsed
  obtain ⟨protocol, portText, split, ported⟩ :=
    parts_of_parseUpstreamUri (writeAuthority_ne_nil _ _) parsed
  have numeric : ∀ byte ∈ formatNat upstream.port.toNat, IsDigit byte :=
    fun byte member => isDigit_of_mem_formatNat member
  have reads : ReadsAsHost upstream.host read.host := readsAsHost_of_split numeric split ported
  obtain ⟨-, rfl⟩ := reads.split split
  exact ⟨reads, protocol, eq_of_parsePort_formatNat ported⟩

/-! ## Commands among the stored texts -/

/-- The calls of a command that leave the stored texts alone. -/
def LeavesTexts (paths : AppPaths) : CommandCall → Prop
  | .system operation => paths.Looks operation
  | _ => True

theorem texts_of_looks {paths : AppPaths} {texts next : StoredTexts} {operation : SystemCall}
    {answer : SystemAnswer operation} (looks : paths.Looks operation)
    (answers : storing.answers texts operation answer next) : next = texts := by
  cases operation with
  | readTextFile file =>
      cases file with
      | config => exact answers.2
      | state => exact answers.2
      | _ => exact answers
  | emitLog level message => exact answers
  | kill pid signal => exact answers
  | readExecutableLink pid => exact answers
  | weaklyCanonical path => exact answers
  | lstat path => exact answers
  | getifaddrs => exact answers
  | mkdir path mode => exact answers
  | chmod path mode => exact answers
  | _ => exact looks.elim

section Commands

variable {paths : AppPaths} {texts : StoredTexts} {holds : StoredTexts → Prop}

/-- A part of a command that leaves the texts alone. -/
theorem triple_leaving {α : Type} {program : CommandProgram α}
    (leaves : program.Calls (LeavesTexts paths)) (held : holds texts) :
    Triple (commandAround storing) (keeping holds) (fun found => found = texts) program
      fun _ found => found = texts := by
  have still : Still (commandAround storing) := fun _ _ => not_false
  apply Triple.of_calls leaves (still.stable _)
  · rintro _ rfl
    exact held
  · trivial
  · exact fun _ _ _ _ => trivial
  · rintro _ operation answer next rfl leaves answers
    cases operation with
    | system operation => exact texts_of_looks leaves answers
    | _ => exact answers

/-- A command on the system, run as a part of one with a lock file. -/
theorem triple_ofSystem {α : Type} {pre : StoredTexts → Prop} {post : α → StoredTexts → Prop}
    {program : System α} (triple : Triple storing (keeping holds) pre program post) :
    Triple (commandAround storing) (keeping holds) pre (CommandProgram.ofSystem program) post :=
  fun texts held => (safe_ofSystem (triple texts held)).weakenWatch (fun _ => id)
    (fun _ _ _ _ => trivial) id

theorem leaves_waitLoop (fuel : Nat) :
    (iterate FileLock.waitStep fuel ()).Calls (LeavesTexts paths) := by
  apply Calls.iterate
  intro _
  refine ⟨trivial, fun answer => ?_⟩
  cases answer with
  | locked | interrupted => trivial
  | wouldBlock | failed => exact ⟨trivial, fun _ => trivial⟩

theorem leaves_acquire (fuel : Nat) (message : Bytes) :
    (FileLock.acquire fuel paths.lockFile
      (CommandProgram.ofSystem (emitLog .info message))).Calls (LeavesTexts paths) := by
  have onSystem {operation : CommandCall} (looks : OnSystem paths.Looks operation) :
      LeavesTexts paths operation := by
    cases operation with
    | system operation => exact looks
    | _ => exact looks.elim
  have directory : paths.lockFile.dropLast = paths.runtimeDir := by simp [AppPaths.lockFile]
  have waits : (CommandProgram.ofSystem (emitLog .info message)).Calls (LeavesTexts paths) :=
    ⟨trivial, fun _ => trivial⟩
  unfold FileLock.acquire
  rw [directory]
  apply ((calls_ofSystem (paths.looks_ensureDirectory 0o755)).imp fun _ => onSystem).andThen
  intro made
  refine ⟨trivial, fun opened => ?_⟩
  cases opened with
  | false => trivial
  | true =>
      refine ⟨trivial, fun answer => ?_⟩
      cases answer with
      | locked => trivial
      | wouldBlock => exact waits.bind fun _ => leaves_waitLoop fuel
      | interrupted | failed => exact leaves_waitLoop fuel

/-- Around what is done under the lock the texts stay as they are. -/
theorem triple_underLock {fuel : Nat} {program : System (Result Bytes)}
    {post : Result Bytes → StoredTexts → Prop}
    (held : holds texts) (failed : ∀ failure, post (.error failure) texts)
    (triple : Triple storing (keeping holds) (fun found => found = texts) program post) :
    Triple (commandAround storing) (keeping holds) (fun found => found = texts)
      (paths.underLock fuel program) post := by
  have still : Still (commandAround storing) := fun _ _ => not_false
  have released : FileLock.release.Calls (LeavesTexts paths) :=
    ⟨trivial, fun _ => ⟨trivial, fun _ => trivial⟩⟩
  apply (triple_leaving (leaves_acquire fuel _) held).andThen
  · intro acquired start same
    apply ((triple_ofSystem triple) start same).and_holds.bind
    rintro result later ⟨reached, heldLater⟩
    apply (triple_leaving released heldLater later rfl).bind
    rintro _ last rfl
    exact Triple.done (still.stable fun found => post result found ∧ holds found)
      (fun _ both => both.2) (fun _ both => both.1) last ⟨reached, heldLater⟩
  · intro failure
    apply Triple.done (still.stable _)
    · rintro _ rfl
      exact held
    · rintro _ rfl
      exact failed failure

/-- The text that shows the upstream of a configuration. -/
def Shows (texts : StoredTexts) (text : Bytes) : Prop :=
  ∃ stored loaded, texts.config = some stored ∧ parseConfig (.ok stored) = .ok loaded ∧
    text = formatUpstreamUri loaded

theorem triple_executeGetSetting (held : holds texts) :
    Triple storing (keeping holds) (fun found => found = texts) (Setup.executeGetSetting [])
      fun result found => found = texts ∧ ∀ text, result = .ok text → Shows texts text := by
  have still := still_storing
  have loads : Triple storing (keeping holds) (fun found => found = texts) loadConfig
      fun result found => found = texts ∧ ∀ loaded, result = .ok loaded →
        Shows texts (formatUpstreamUri loaded) := by
    apply Triple.call (still.stable _)
    · rintro _ rfl
      exact held
    · exact fun _ _ => trivial
    · rintro found answer next same ⟨reads, unchanged⟩
      subst same
      apply Triple.done (still.stable fun later => later = found)
      · rintro _ rfl
        exact held
      · intro later same
        refine ⟨same, fun loaded parsed => ?_⟩
        cases present : found.config with
        | none =>
            rw [present] at reads
            obtain ⟨failure, rfl⟩ := reads
            cases parsed
        | some stored =>
            rw [present] at reads
            obtain rfl : answer = .ok stored := reads
            exact ⟨stored, loaded, present, parsed, rfl⟩
      · exact unchanged
  apply loads.andThen
  · intro loaded
    apply Triple.done (still.stable _)
    · rintro _ ⟨rfl, -⟩
      exact held
    · rintro _ ⟨rfl, shows⟩
      refine ⟨rfl, fun text same => ?_⟩
      obtain rfl := Except.ok.inj same
      exact shows loaded rfl
  · intro failure
    apply Triple.done (still.stable _)
    · rintro _ ⟨rfl, -⟩
      exact held
    · rintro _ ⟨rfl, -⟩
      exact ⟨rfl, fun text failed => by cases failed⟩

/-- The texts after an upstream has been set. -/
def StoredTexts.setTo (texts : StoredTexts) (upstream : Upstream) : StoredTexts :=
  { texts with config := some (writeConfig upstream) }

/-- The upstream of a URI has been set. -/
def SetBy (texts : StoredTexts) (uri : Bytes) (found : StoredTexts) : Prop :=
  ∃ upstream, parseUpstreamUri uri = .ok upstream ∧ found = texts.setTo upstream

/-- It has been set, or the texts are as before. -/
def SetOrNot (texts : StoredTexts) (uri : Bytes) (found : StoredTexts) : Prop :=
  found = texts ∨ SetBy texts uri found

theorem triple_executeSetSetting (setup : Setup) (uri : Bytes) :
    Triple storing (keeping (SetOrNot texts uri)) (fun found => found = texts)
      (setup.executeSetSetting uri)
      fun result found => ∀ text, result = .ok text → SetBy texts uri found := by
  have still := still_storing
  have failed (failure : Error) : Triple storing (keeping (SetOrNot texts uri)) (SetOrNot texts uri)
      (.done (.error failure))
      fun (result : Result Bytes) found => ∀ text, result = .ok text → SetBy texts uri found := by
    apply Triple.done (still.stable _) (fun _ => id)
    intro found held text impossible
    cases impossible
  unfold Setup.executeSetSetting
  split
  · exact (failed _).weaken fun _ => .inl
  cases parsed : parseUpstreamUri uri with
  | error failure => exact (failed failure).weaken fun _ => .inl
  | ok upstream =>
      have directories : Triple storing (keeping (SetOrNot texts uri)) (fun found => found = texts)
          (ensureDirectory setup.paths.configFile.dropLast 0o750) fun _ found => found = texts := by
        apply Triple.of_calls (makesWay_ensureDirectory _ _) (still.stable _)
          (fun _ same => Or.inl same) trivial
        · exact fun _ _ _ _ => trivial
        · rintro found operation answer next rfl makes answers
          cases operation with
          | lstat path => exact answers
          | mkdir path mode => exact answers
          | chmod path mode => exact answers
          | _ => exact makes.elim
      have writes : Triple storing (keeping (SetOrNot texts uri)) (fun found => found = texts)
          (writeFileAtomic .config (writeConfig upstream) 0o640)
          fun result found => SetOrNot texts uri found ∧
            (result = .ok () → SetBy texts uri found) := by
        apply Triple.perform (still.stable _) (fun _ same => Or.inl same) (fun _ _ => trivial)
          (fun _ => still.stable _) (fun _ _ both => both.1)
        rintro found answer next rfl answers
        cases answer with
        | error failure =>
            refine ⟨.inl answers, fun impossible => ?_⟩
            cases impossible
        | ok done =>
            have set : SetBy found uri next := ⟨upstream, parsed, answers⟩
            exact ⟨.inr set, fun _ => set⟩
      have saves : Triple storing (keeping (SetOrNot texts uri)) (fun found => found = texts)
          (setup.saveConfig upstream)
          fun result found => SetOrNot texts uri found ∧
            (result = .ok () → SetBy texts uri found) := by
        have refused (failure : Error) : Triple storing (keeping (SetOrNot texts uri))
            (fun found => found = texts) (.done (.error failure))
            fun (result : Result Unit) found => SetOrNot texts uri found ∧
              (result = .ok () → SetBy texts uri found) := by
          apply Triple.done (still.stable _) (fun _ same => Or.inl same)
          exact fun _ same => ⟨.inl same, fun impossible => by cases impossible⟩
        unfold Setup.saveConfig
        split
        · exact refused _
        · exact directories.andThen (fun _ => writes) refused
      apply saves.andThen
      · intro _
        apply Triple.done (still.stable _) (fun _ both => both.1)
        exact fun _ both _ _ => both.2 rfl
      · exact fun failure => (failed failure).weaken fun _ both => both.1

/-- What shows the setting changes nothing and shows what is stored. -/
theorem getSetting_reached {fuel : Nat} {program : CommandProgram (Result Bytes)}
    {last : StoredTexts}
    (reaches : Reaches (commandAround storing) (paths.execute fuel .getSetting [], texts)
      (program, last)) :
    last = texts ∧ ∀ text, program = .done (.ok text) → Shows texts text := by
  have keeps : Triple storing (keeping fun found => found = texts) (fun found => found = texts)
      (Setup.executeGetSetting []) _ := triple_executeGetSetting rfl
  have safe := (triple_ofSystem keeps texts rfl).of_reaches reaches
  refine ⟨safe.holds, fun text done => ?_⟩
  subst done
  exact safe.result.2 text rfl

/-- What sets the upstream of a URI has set it or changed nothing, and tells
the former only where it has. -/
theorem setSetting_reached {fuel : Nat} {uri : Bytes} {program : CommandProgram (Result Bytes)}
    {last : StoredTexts}
    (reaches : Reaches (commandAround storing) (paths.execute fuel .setSetting uri, texts)
      (program, last)) :
    SetOrNot texts uri last ∧ ∀ text, program = .done (.ok text) → SetBy texts uri last := by
  have unset (failure : Error) : ∀ text, (.error failure : Result Bytes) = .ok text →
      SetBy texts uri texts := by
    intro text impossible
    cases impossible
  have keeps : Triple (commandAround storing) (keeping (SetOrNot texts uri))
      (fun found => found = texts) (paths.execute fuel .setSetting uri) _ :=
    triple_underLock (.inl rfl) unset (triple_executeSetSetting paths.setup uri)
  have safe := (keeps texts rfl).of_reaches reaches
  refine ⟨safe.holds, fun text done => ?_⟩
  subst done
  exact safe.result text rfl

end Commands

/-! ## What is asked for -/

/-- The upstream that is asked for: the lines that are not empty, with the rest
from the upstream before, whose host has been shown in a URI. -/
structure Asked (loaded : Upstream) (hostInput portInput : Bytes) (upstream : Upstream) :
    Prop where
  protocol : upstream.protocol = ascii "socks5"
  host : ∃ shown, ReadsAsHost loaded.host shown ∧
    ReadsAsHost (if hostInput.isEmpty then shown else hostInput) upstream.host
  port : if portInput.isEmpty then upstream.port = loaded.port
    else parsePort portInput = .ok upstream.port

namespace CommandLine

theorem withHost_eq (parsed : Upstream) (hostInput : Bytes) :
    (withHost parsed hostInput).host = (if hostInput.isEmpty then parsed.host else hostInput) ∧
      (withHost parsed hostInput).protocol = parsed.protocol ∧
      (withHost parsed hostInput).port = parsed.port := by
  cases hostInput with
  | nil => exact ⟨rfl, rfl, rfl⟩
  | cons byte rest => exact ⟨rfl, rfl, rfl⟩

/-- A port that has been typed behind a host which can be read. -/
theorem port_of_withPort {upstream updated : Upstream} {portInput read : Bytes}
    (reads : ReadsAsHost upstream.host read) (ported : withPort upstream portInput = .ok updated) :
    if portInput.isEmpty then updated.port = upstream.port
    else parsePort portInput = .ok updated.port := by
  unfold withPort at ported
  cases empty : portInput.isEmpty with
  | true =>
      rw [empty] at ported
      obtain rfl := Except.ok.inj ported
      rfl
  | false =>
      rw [empty] at ported
      have bracket : ascii "[" = [openBracket] ∧ ascii "]" = [closeBracket] ∧
          ascii ":" = [colon] ∧ ascii "socks5://" = ascii "socks5" ++ [colon, slash, slash] := by
        decide
      obtain ⟨opening, closing, single, scheme⟩ := bracket
      have shape : ascii "socks5://" ++ (if !upstream.host.contains colon then upstream.host
          else ascii "[" ++ upstream.host ++ ascii "]") ++ ascii ":" ++ portInput =
          ascii "socks5" ++ colon :: ([slash, slash] ++
            (writeHost upstream.host ++ colon :: portInput)) := by
        by_cases inside : colon ∈ upstream.host <;>
          simp [writeHost, inside, opening, closing, single, scheme]
      rw [shape] at ported
      cases typed : parseUpstreamUri (ascii "socks5" ++ colon :: ([slash, slash] ++
          (writeHost upstream.host ++ colon :: portInput))) with
      | error failure =>
          rw [typed] at ported
          cases ported
      | ok found =>
          rw [typed] at ported
          obtain rfl := Except.ok.inj ported
          obtain ⟨-, portText, split, parsed⟩ := parts_of_parseUpstreamUri (by simp) typed
          obtain ⟨-, rfl⟩ := reads.split split
          exact parsed

/-- What the controller reads of the URI that the tool makes is what was asked for. -/
theorem asked_of_parse {loaded parsed updated upstream : Upstream} {hostInput portInput : Bytes}
    (socks5 : loaded.protocol = ascii "socks5")
    (shown : parseUpstreamUri (formatUpstreamUri loaded) = .ok parsed)
    (ported : withPort (withHost parsed hostInput) portInput = .ok updated)
    (set : parseUpstreamUri (formatUpstreamUri updated) = .ok upstream) :
    Asked loaded hostInput portInput upstream := by
  obtain ⟨showsHost, parsedProtocol, parsedPort⟩ := readsAsHost_of_parse socks5 shown
  obtain ⟨host, protocol, port⟩ := withHost_eq parsed hostInput
  obtain ⟨sameProtocol, sameHost⟩ := withPort_keeps ported
  have updatedSocks5 : updated.protocol = ascii "socks5" := by
    rw [sameProtocol, protocol, parsedProtocol]
  obtain ⟨reads, setProtocol, setPort⟩ := readsAsHost_of_parse updatedSocks5 set
  rw [sameHost] at reads
  have typed := port_of_withPort reads ported
  rw [port, parsedPort, ← setPort] at typed
  rw [host] at reads
  exact ⟨setProtocol, ⟨parsed.host, showsHost, reads⟩, typed⟩

end CommandLine

/-! ## Runs of the tool -/

/-- The stored texts and what is left of the standard input. -/
structure SettingWorld where
  texts : StoredTexts
  input : CommandLine.StandardInput

namespace SettingWorld

/-- A command has run, to its end where it has succeeded. -/
def CommandRan (paths : AppPaths) (command : Command) (argument : Bytes) (world : SettingWorld)
    (result : Result Bytes) (next : SettingWorld) : Prop :=
  next.input = world.input ∧ ∃ fuel program,
    Reaches (commandAround storing) (paths.execute fuel command argument, world.texts)
      (program, next.texts) ∧
    ∀ text, result = .ok text → program = .done (.ok text)

/-- A failure may be one of the connection, at any moment of the command. -/
def Answers (paths : AppPaths) (world : SettingWorld) (call : CommandLine.ToolCall)
    (answer : CommandLine.ToolAnswer call) (next : SettingWorld) : Prop :=
  match call, answer with
  | .executeRemote command argument, outcome | .executeDirect command argument, outcome =>
      CommandRan paths command argument world outcome.1 next
  | .getline, line =>
      line = world.input.getline.1 ∧ next = { world with input := world.input.getline.2 }
  | .geteuid, _ | .writeOutput _, _ | .writeErrors _, _ => next = world

def around (paths : AppPaths) : Surroundings CommandLine.ToolAnswer SettingWorld where
  answers := Answers paths
  drift _ _ := False

/-- The world after a line has been read. -/
def afterLine (world : SettingWorld) : SettingWorld :=
  { world with input := world.input.getline.2 }

/-- The first line that is typed. -/
def hostInput (world : SettingWorld) : Bytes :=
  world.input.getline.1.getD []

/-- The second one; where it is missing the variable still holds the first. -/
def portInput (world : SettingWorld) : Bytes :=
  world.afterLine.input.getline.1.getD world.hostInput

/-- The configuration is that before with what has been typed. -/
def Stored (world : SettingWorld) (texts : StoredTexts) : Prop :=
  ∃ stored loaded upstream, world.texts.config = some stored ∧
    parseConfig (.ok stored) = .ok loaded ∧
    Asked loaded world.hostInput world.portInput upstream ∧
    texts = world.texts.setTo upstream

section Runs

variable {paths : AppPaths} {holds : SettingWorld → Prop} {now : SettingWorld} {direct : Bool}

theorem still_around (paths : AppPaths) : Still (around paths) :=
  fun _ _ => not_false

/-- From a world the tool goes on as it should. -/
abbrev After (paths : AppPaths) (holds : SettingWorld → Prop) {α : Type} (now : SettingWorld)
    (program : CommandLine.ToolProgram α) (post : α → SettingWorld → Prop) : Prop :=
  Triple (around paths) (keeping holds) (fun world => world = now) program post

theorem after_done {α : Type} {value : α} {post : α → SettingWorld → Prop} (held : holds now)
    (reached : post value now) : After paths holds now (.done value) post := by
  apply Triple.done ((still_around paths).stable _)
  · rintro _ rfl
    exact held
  · rintro _ rfl
    exact reached

theorem after_call {call : CommandLine.ToolCall}
    {post : CommandLine.ToolAnswer call → SettingWorld → Prop} (held : holds now)
    (answered : ∀ answer next, Answers paths now call answer next → post answer next ∧ holds next) :
    After paths holds now (CommandLine.toolCall call) post := by
  have still := still_around paths
  apply Triple.call (still.stable _)
  · rintro _ rfl
    exact held
  · exact fun _ _ => trivial
  · rintro _ answer next rfl answers
    obtain ⟨reached, heldNext⟩ := answered answer next answers
    exact after_done heldNext reached next rfl

theorem after_writeOutput (held : holds now) (text : Bytes) :
    After paths holds now (CommandLine.writeOutput text) fun _ world => world = now := by
  apply after_call held
  rintro _ _ rfl
  exact ⟨rfl, held⟩

theorem after_writeErrors (held : holds now) (text : Bytes) :
    After paths holds now (CommandLine.writeErrors text) fun _ world => world = now := by
  apply after_call held
  rintro _ _ rfl
  exact ⟨rfl, held⟩

theorem after_getline (held : holds now) (heldNext : holds now.afterLine) :
    After paths holds now (CommandLine.toolCall .getline)
      fun line world => line = now.input.getline.1 ∧ world = now.afterLine := by
  apply after_call held
  rintro _ _ ⟨rfl, rfl⟩
  exact ⟨⟨rfl, rfl⟩, heldNext⟩

/-- An execution, by either way. -/
theorem after_execute {command : Command} {argument : Bytes} (held : holds now)
    (kept : ∀ result next, CommandRan paths command argument now result next → holds next) :
    After paths holds now (CommandLine.execute direct command argument)
      (CommandRan paths command argument now) := by
  have printed (outcome : RemoteOutcome) (next : SettingWorld)
      (ran : CommandRan paths command argument now outcome.1 next) :
      Safe (around paths) (keeping holds) (CommandRan paths command argument now)
        ((CommandLine.writeErrors (CommandLine.logTexts outcome.2)).bind fun _ => .done outcome.1)
        next := by
    have heldNext := kept outcome.1 next ran
    apply (after_writeErrors heldNext _ next rfl).bind
    rintro _ _ rfl
    exact after_done heldNext ran _ rfl
  cases direct with
  | false =>
      have runs : After paths holds now
          (CommandLine.toolCall (.executeRemote command argument))
          fun outcome next => CommandRan paths command argument now outcome.1 next :=
        after_call held fun outcome next ran => ⟨ran, kept outcome.1 next ran⟩
      exact runs.bind fun outcome next ran => printed outcome next ran
  | true =>
      have asks : After paths holds now (CommandLine.toolCall .geteuid)
          fun _ world => world = now := by
        apply after_call held
        rintro _ _ rfl
        exact ⟨rfl, held⟩
      have runs : After paths holds now
          (CommandLine.toolCall (.executeDirect command argument))
          fun outcome next => CommandRan paths command argument now outcome.1 next :=
        after_call held fun outcome next ran => ⟨ran, kept outcome.1 next ran⟩
      apply asks.bind
      intro euid
      apply Triple.ite
      · apply after_done held
        refine ⟨rfl, 0, _, .refl, fun text impossible => ?_⟩
        cases impossible
      · exact runs.bind fun outcome next ran => printed outcome next ran

/-- An error never has the exit status of a success. -/
theorem after_printError (held : holds now) (failure : Error) {reached : SettingWorld → Prop} :
    After paths holds now (CommandLine.printError failure)
      fun status world => status = 0 → reached world := by
  apply (after_writeErrors held _).bind
  rintro _ _ rfl
  refine after_done held (fun success => ?_) _ rfl
  have nonzero : failure.code.value.toNat ≠ 0 := by
    cases failure.code <;> decide
  exact absurd success nonzero

/-- The exit status tells whether an execution has succeeded. -/
theorem after_runCommand {command : Command} {argument : Bytes} {reached : SettingWorld → Prop}
    (held : holds now)
    (kept : ∀ result next, CommandRan paths command argument now result next → holds next)
    (succeeded : ∀ text next, CommandRan paths command argument now (.ok text) next →
      reached next) :
    After paths holds now (CommandLine.runCommand direct command argument)
      fun status next => status = 0 → reached next := by
  apply (after_execute held kept).bind
  intro result next ran
  have heldNext := kept result next ran
  cases result with
  | error failure => exact after_printError heldNext failure next rfl
  | ok text =>
      apply (after_writeOutput heldNext text next rfl).bind
      rintro _ _ rfl
      exact after_done heldNext (fun _ => succeeded text _ ran) _ rfl

/-- The texts are as before, or what has been asked for is stored. -/
def StoredOrNot (world later : SettingWorld) : Prop :=
  later.texts = world.texts ∨ world.Stored later.texts

theorem after_askUpstream {world : SettingWorld} {stored : Bytes} {loaded parsed : Upstream}
    (present : world.texts.config = some stored) (loads : parseConfig (.ok stored) = .ok loaded)
    (shown : parseUpstreamUri (formatUpstreamUri loaded) = .ok parsed) :
    After paths world.StoredOrNot world (CommandLine.askUpstream direct parsed)
      fun status later => status = 0 → world.Stored later.texts := by
  have unread : world.StoredOrNot world := .inl rfl
  have hosted : world.StoredOrNot world.afterLine := .inl rfl
  have ported : world.StoredOrNot world.afterLine.afterLine := .inl rfl
  obtain ⟨socks5, -, -⟩ := valid_of_parseConfig loads
  apply (after_writeOutput unread _).bind
  intro _
  apply (after_getline unread hosted).bind
  rintro _ _ ⟨rfl, rfl⟩
  apply (after_writeOutput hosted _ _ rfl).bind
  rintro _ _ rfl
  apply (after_getline hosted ported _ rfl).bind
  rintro _ _ ⟨rfl, rfl⟩
  cases typed : CommandLine.withPort (CommandLine.withHost parsed world.hostInput)
      world.portInput with
  | error failure =>
      simp only [hostInput, portInput] at typed
      simp only [typed]
      exact after_printError ported failure _ rfl
  | ok updated =>
      simp only [hostInput, portInput] at typed
      simp only [typed]
      have stores {uri : Bytes} {found : StoredTexts} (same : uri = formatUpstreamUri updated)
          (set : SetBy world.texts uri found) : world.Stored found := by
        obtain ⟨upstream, read, rfl⟩ := set
        rw [same] at read
        exact ⟨stored, loaded, upstream, present, loads,
          CommandLine.asked_of_parse socks5 shown typed read, rfl⟩
      apply after_runCommand ported ?_ ?_ _ rfl
      · rintro result next ⟨-, fuel, program, reaches, -⟩
        exact (setSetting_reached reaches).1.imp id (stores rfl)
      · rintro text next ⟨-, fuel, program, reaches, done⟩
        exact stores rfl ((setSetting_reached reaches).2 text (done text rfl))

/-- When the tool tells success, what was typed is stored in the configuration;
at every moment the stored texts are those or the ones before. -/
theorem interactiveSetting_stores {world last : SettingWorld}
    {program : CommandLine.ToolProgram Nat}
    (ran : Reaches (around paths) (CommandLine.interactiveSetting direct, world) (program, last)) :
    (last.texts = world.texts ∨ world.Stored last.texts) ∧
      (program = .done 0 → world.Stored last.texts) := by
  have unread : world.StoredOrNot world := .inl rfl
  have asks : After paths world.StoredOrNot world (CommandLine.interactiveSetting direct)
      fun status later => status = 0 → world.Stored later.texts := by
    have shows (result : Result Bytes) (next : SettingWorld)
        (ran : CommandRan paths .getSetting [] world result next) :
        next = world ∧ ∀ text, result = .ok text → Shows world.texts text := by
      obtain ⟨input, fuel, program, reaches, done⟩ := ran
      obtain ⟨texts, shown⟩ := getSetting_reached reaches
      refine ⟨?_, fun text same => shown text (done text same)⟩
      cases next
      cases world
      exact congrArg₂ SettingWorld.mk texts input
    apply (after_execute unread fun result next ran => ?_).bind
    · intro result next ran
      obtain ⟨rfl, shown⟩ := shows result next ran
      cases result with
      | error failure => exact after_printError unread failure _ rfl
      | ok current =>
          obtain ⟨stored, loaded, present, loads, rfl⟩ := shown current rfl
          cases parsed : parseUpstreamUri (formatUpstreamUri loaded) with
          | error failure =>
              simp only [parsed]
              exact after_printError unread failure _ rfl
          | ok upstream =>
              simp only [parsed]
              exact after_askUpstream present loads parsed _ rfl
    · obtain ⟨rfl, -⟩ := shows result next ran
      exact unread
  have safe := (asks world rfl).of_reaches ran
  refine ⟨safe.holds, fun done => ?_⟩
  subst done
  exact safe.result rfl

end Runs

/-! ## A run to compute with -/

/-- A lock that is free, around the stored texts. -/
def commandRespond : Responder CommandAnswer StoredTexts
  | texts, .system operation => StoredTexts.respond texts operation
  | texts, .openLock _ => some (true, texts)
  | texts, .tryFlock | texts, .flock => some (.locked, texts)
  | texts, .unlock | texts, .closeLock => some ((), texts)

theorem commandRespond_within : commandRespond.Within (commandAround storing) id := by
  intro texts call answer next responded
  cases call with
  | system operation =>
      exact StoredTexts.respond_within texts operation answer next responded
  | openLock path | tryFlock | flock | unlock | closeLock =>
      cases responded
      exact ⟨texts, .refl, rfl⟩

/-- The result of a program that has come to its end, with the world it leaves. -/
def ended? (world : SettingWorld) (ran : CommandProgram (Result Bytes) × StoredTexts) :
    Option (RemoteOutcome × SettingWorld) :=
  ran.1.result?.map fun result => ((result, []), { world with texts := ran.2 })

def respond : Responder CommandLine.ToolAnswer SettingWorld
  | world, .executeRemote command argument | world, .executeDirect command argument =>
      world.ended? (follow commandRespond (defaultPaths.execute 1 command argument) world.texts)
  | world, .getline => some (world.input.getline.1, world.afterLine)
  | world, .geteuid => some (0, world)
  | world, .writeOutput _ | world, .writeErrors _ => some ((), world)

theorem commandRan_of_follow {command : Command} {argument : Bytes} {world next : SettingWorld}
    {outcome : RemoteOutcome}
    (ran : world.ended? (follow commandRespond (defaultPaths.execute 1 command argument)
      world.texts) = some (outcome, next)) :
    CommandRan defaultPaths command argument world outcome.1 next := by
  obtain ⟨result, done, same⟩ := Option.map_eq_some_iff.mp ran
  obtain ⟨rfl, rfl⟩ := Prod.mk.inj same
  refine ⟨rfl, 1, .done result, reaches_of_follow commandRespond_within done, ?_⟩
  intro text same
  exact congrArg _ same

theorem respond_within : respond.Within (around defaultPaths) id := by
  intro world call answer next responded
  refine ⟨world, .refl, ?_⟩
  cases call with
  | executeRemote command argument => exact commandRan_of_follow responded
  | executeDirect command argument => exact commandRan_of_follow responded
  | getline =>
      cases responded
      exact ⟨rfl, rfl⟩
  | geteuid | writeOutput text | writeErrors text =>
      cases responded
      rfl

/-- A host and a port are typed. -/
def typing : SettingWorld where
  texts := ⟨some (writeConfig ⟨ascii "socks5", ascii "127.0.0.1", 10808⟩), none⟩
  input := ⟨ascii "[proxy]\n9050\n", false⟩

theorem interactiveSetting_stores_example :
    (follow respond (CommandLine.interactiveSetting false) typing).2.texts.config =
        some (writeConfig ⟨ascii "socks5", ascii "proxy", 9050⟩) ∧
      typing.Stored (follow respond (CommandLine.interactiveSetting false) typing).2.texts := by
  have done : (follow respond (CommandLine.interactiveSetting false) typing).1.result? =
      some 0 := by decide +kernel
  refine ⟨by decide +kernel, ?_⟩
  exact (interactiveSetting_stores (reaches_of_follow respond_within done)).2 rfl

end SettingWorld

end TunProxy
