import TunProxy.CoreDisk

/-!
# Verifying and repairing the core

What the core manager's functions do to the core's files: verification changes
nothing and is right; a repair touches the installed files only by moving
verified files into their places.
-/

namespace TunProxy

open ByteText EffectProgram

namespace CoreDisk

variable {Content : Type} {disk : CoreDisk Content} {holds : Tree Content → Prop}
variable {tree : Tree Content}

section Calls

variable {α : Type} {post : α → Tree Content → Prop}

theorem safe_value {value : α} (held : holds tree) (result : post value tree) :
    Safe disk.surroundings (disk.guarded holds) post (.done value) tree :=
  disk.still.safe_done held result

/-- A call that executes no core. -/
theorem safe_quiet {operation : SystemCall} {rest : SystemAnswer operation → System α}
    (held : holds tree) (quiet : operation.executes = none)
    (answered : ∀ answer next, disk.Answers tree operation answer next →
      Safe disk.surroundings (disk.guarded holds) post (rest answer) next) :
    Safe disk.surroundings (disk.guarded holds) post (.call operation rest) tree := by
  refine disk.still.safe_call held (fun path executes => ?_) answered
  rw [quiet] at executes
  cases executes

end Calls

/-! ## Verification -/

theorem safe_regularFileSize (held : holds tree) (path : Path) :
    Safe disk.surroundings (disk.guarded holds)
      (fun result later => later = tree ∧ ∀ size, result = .ok size →
        ∃ content, tree.lookup path = some (.file content) ∧ size = disk.size content)
      (regularFileSize path) tree := by
  have fails {text : Bytes} : Safe disk.surroundings (disk.guarded holds)
      (fun (result : Result Nat) later => later = tree ∧ ∀ size, result = .ok size →
        ∃ content, tree.lookup path = some (.file content) ∧ size = disk.size content)
      (.done (.error (makeError .coreVerificationFailure text))) tree :=
    safe_value held ⟨rfl, fun _ impossible => nomatch impossible⟩
  refine safe_quiet held rfl fun answer next answers => ?_
  cases answer with
  | missing =>
      obtain ⟨rfl, -⟩ := answers
      exact fails
  | failed detail =>
      obtain rfl : next = tree := answers
      exact fails
  | found status =>
      obtain ⟨rfl, node, found, describes⟩ := answers
      simp only [done_bind]
      split
      next => exact fails
      next regular =>
        have kind : status.kind = .regular := not_not.mp regular
        have sized : ∃ content, next.lookup path = some (.file content) ∧
            status.size = disk.size content := by
          cases node with
          | file content => exact ⟨content, found, describes.2⟩
          | directory => cases kind.symm.trans describes
          | link target => cases kind.symm.trans describes
          | special => rcases describes with other | other <;> cases kind.symm.trans other
        have succeeds : Safe disk.surroundings (disk.guarded holds)
            (fun (result : Result Nat) later => later = next ∧ ∀ size, result = .ok size →
              ∃ content, next.lookup path = some (.file content) ∧ size = disk.size content)
            (.done (.ok status.size)) next :=
          safe_value held ⟨rfl, fun size same => Except.ok.inj same ▸ sized⟩
        split
        next =>
          refine safe_quiet held rfl fun user after same => ?_
          obtain rfl : after = next := same
          simp only [done_bind]
          split
          next => exact fails
          next => exact succeeds
        next => exact succeeds

theorem safe_sha256File (held : holds tree) (path : Path) (sha256sum : Bytes) :
    Safe disk.surroundings (disk.guarded holds)
      (fun result later => later = tree ∧ ∀ hash, result = .ok hash →
        ∃ content, tree.read path = some content ∧ hash = disk.digest content)
      (sha256File path sha256sum) tree := by
  refine safe_quiet held rfl fun result next answers => ?_
  obtain ⟨rfl, reports⟩ := answers
  cases result with
  | error failure => exact safe_value held ⟨rfl, fun _ impossible => nomatch impossible⟩
  | ok output =>
      simp only [done_bind]
      split
      next => exact safe_value held ⟨rfl, fun _ impossible => nomatch impossible⟩
      next exited =>
        exact safe_value held ⟨rfl, fun hash parsed => reports output hash rfl (not_not.mp exited)
          parsed⟩

/-- A candidate is executed only after its size and digest were checked. -/
theorem safe_verifyCandidate (held : holds tree) (executable : Path) :
    Safe disk.surroundings (disk.guarded holds)
      (fun result later => later = tree ∧ (result.isOk = true → disk.Verified tree executable))
      (disk.setup.verifyCandidate executable) tree := by
  have fails {text : Bytes} : Safe disk.surroundings (disk.guarded holds)
      (fun (result : Result CoreInfo) later => later = tree ∧
        (result.isOk = true → disk.Verified tree executable))
      (.done (.error (makeError .coreVerificationFailure text))) tree :=
    safe_value held ⟨rfl, fun impossible => nomatch impossible⟩
  refine (safe_regularFileSize held executable).bind fun size later => ?_
  rintro ⟨rfl, sized⟩
  split
  next => exact fails
  next sameSize =>
    refine (safe_sha256File held executable _).bind fun hash later => ?_
    rintro ⟨rfl, hashed⟩
    split
    next => exact fails
    next sameHash =>
      obtain ⟨content, found, size_eq⟩ := sized _ (eq_ok_of_toOption (not_not.mp sameSize))
      obtain ⟨other, read, hash_eq⟩ := hashed _ (eq_ok_of_toOption (not_not.mp sameHash))
      obtain rfl := Option.some.inj ((FileTree.read_of_lookup found).symm.trans read)
      have verified : disk.Verified later executable :=
        ⟨content, found, size_eq.symm, hash_eq.symm⟩
      refine disk.still.safe_call held ?_ fun version next same => ?_
      · rintro path executes
        obtain rfl := Option.some.inj executes
        exact verified
      · obtain rfl : next = later := same
        simp only [done_bind]
        cases version with
        | error failure => exact safe_value held ⟨rfl, fun _ => verified⟩
        | ok output =>
            dsimp only
            split
            next => exact safe_value held ⟨rfl, fun _ => verified⟩
            next => split <;> exact safe_value held ⟨rfl, fun _ => verified⟩

theorem safe_verifyInstalledCore (held : holds tree) :
    Safe disk.surroundings (disk.guarded holds)
      (fun result later => later = tree ∧ (result.isOk = true →
        disk.Verified tree disk.setup.corePath ∧ disk.Licensed tree))
      disk.setup.verifyInstalledCore tree := by
  refine (safe_sha256File held disk.setup.licensePath _).bind fun hash later => ?_
  rintro ⟨rfl, hashed⟩
  split
  next => exact safe_value held ⟨rfl, fun impossible => nomatch impossible⟩
  next sameHash =>
    obtain ⟨content, read, hash_eq⟩ := hashed _ (eq_ok_of_toOption (not_not.mp sameHash))
    refine (safe_verifyCandidate held disk.setup.corePath).imp fun result last => ?_
    rintro ⟨same, verified⟩
    exact ⟨same, fun ok => ⟨verified ok, content, read, hash_eq.symm⟩⟩

/-! ## Making directories -/

theorem placed_directory {next : Tree Content} {position way : List Bytes}
    (onWay : position <+: way) (absent : tree.node position = none)
    (placed : ∀ other, next.node other = if other = position then some .directory
      else tree.node other) : tree.Paves next way := by
  refine ⟨⟨?_, ?_⟩, ?_⟩
  · intro other node present
    have different : other ≠ position := by
      rintro rfl
      rw [absent] at present
      cases present
    rw [placed other, if_neg different, present]
  · intro other missing
    by_cases same : other = position
    · exact .inr (by rw [placed other, if_pos same])
    · exact .inl (by rw [placed other, if_neg same, missing])
  · intro other missing present
    by_cases same : other = position
    · exact same ▸ onWay
    · rw [placed other, if_neg same] at present
      exact absurd missing present

/-- What is looked at after `mkdir`. -/
theorem safe_afterCreation {mode : Nat} {path : Path} {rest : List Bytes}
    {post : Result Unit → Tree Content → Prop} (held : holds tree)
    (fails : ∀ failure, Safe disk.surroundings (disk.guarded holds) post
      (.done (.error failure)) tree)
    (onward : ∀ (status : FileStatus) (node : FileNode Bytes Content),
      tree.lookup path = some node → disk.Describes status node → status.kind = .directory →
      Safe disk.surroundings (disk.guarded holds) post (ensureComponents mode path rest) tree) :
    Safe disk.surroundings (disk.guarded holds) post
      ((lstat path).bind fun
        | .found status =>
            if status.kind = .directory then ensureComponents mode path rest
            else .done (notRealDirectory
              (ascii "created path component is not a real directory: ") path)
        | _ => .done (notRealDirectory
            (ascii "created path component is not a real directory: ") path)) tree := by
  refine safe_quiet held rfl fun answer next answers => ?_
  cases answer with
  | found status =>
      obtain ⟨rfl, node, found, describes⟩ := answers
      simp only [done_bind]
      split
      next kind => exact onward status node found describes kind
      next => exact fails _
  | missing =>
      obtain ⟨rfl, -⟩ := answers
      exact fails _
  | failed detail =>
      obtain rfl : next = tree := answers
      exact fails _

/-- Walking down and creating components adds directories, and in the end all
components are real ones. -/
theorem safe_ensureComponents {start : Tree Content}
    (held : ∀ later, start.AddsDirectories later → holds later) (mode : Nat) {current way : Path}
    {components : List Bytes} (split : current ++ components = way) (adds : start.Paves tree way)
    (real : tree.Real current) :
    Safe disk.surroundings (disk.guarded holds)
      (fun result later => start.Paves later way ∧ (result = .ok () → later.Real way))
      (ensureComponents mode current components) tree := by
  induction components generalizing current tree with
  | nil =>
      rw [List.append_nil] at split
      exact safe_value (held tree adds.toAddsDirectories) ⟨adds, fun _ => split ▸ real⟩
  | cons component rest ih =>
      have onward : (current ++ [component]) ++ rest = way := by simpa using split
      have fails {later : Tree Content} {failure : Error} (adds : start.Paves later way) :
          Safe disk.surroundings (disk.guarded holds)
            (fun (result : Result Unit) last => start.Paves last way ∧
              (result = .ok () → last.Real way))
            (.done (.error failure)) later :=
        safe_value (held later adds.toAddsDirectories) ⟨adds, fun impossible => nomatch impossible⟩
      have goesOn {later : Tree Content} (adds : start.Paves later way)
          (real : later.Real current) {status : FileStatus} {node : FileNode Bytes Content}
          (found : later.lookup (current ++ [component]) = some node)
          (describes : disk.Describes status node) (kind : status.kind = .directory) :
          Safe disk.surroundings (disk.guarded holds)
            (fun result last => start.Paves last way ∧
              (result = .ok () → last.Real way))
            (ensureComponents mode (current ++ [component]) rest) later := by
        have directory : node = .directory := by
          cases node with
          | directory => rfl
          | file content => cases kind.symm.trans describes.1
          | link target => cases kind.symm.trans describes
          | special => rcases describes with other | other <;> cases kind.symm.trans other
        rw [real.lookup, directory] at found
        exact ih onward adds (real.append found)
      unfold ensureComponents
      split
      next => exact fails adds
      next =>
        refine safe_quiet (held tree adds.toAddsDirectories) rfl fun answer next answers => ?_
        cases answer with
        | failed detail =>
            obtain rfl : next = tree := answers
            exact fails adds
        | found status =>
            obtain ⟨rfl, node, found, describes⟩ := answers
            simp only [done_bind]
            split
            next kind => exact goesOn adds real found describes kind
            next => exact fails adds
        | missing =>
            obtain ⟨rfl, -⟩ := answers
            have looks {later : Tree Content} (adds : start.Paves later way)
                (real : later.Real current) :=
              safe_afterCreation (held later adds.toAddsDirectories) (fun _ => fails adds)
                fun status node found => goesOn adds real found
            refine safe_quiet (held next adds.toAddsDirectories) rfl fun made after answers => ?_
            cases made with
            | failed detail =>
                obtain rfl : after = next := answers
                exact fails adds
            | present =>
                obtain rfl : after = next := answers
                exact looks adds real
            | created =>
                obtain ⟨position, located, absent, placed⟩ := answers
                rw [real.locate] at located
                obtain rfl := Option.some.inj located
                have more := placed_directory ⟨rest, onward⟩ absent placed
                exact looks (adds.trans more) (more.grows.real real)

theorem safe_ensureDirectory (held : ∀ later, tree.AddsDirectories later → holds later)
    (path : Path) (mode : Nat) :
    Safe disk.surroundings (disk.guarded holds)
      (fun result later => tree.Paves later path ∧ (result = .ok () → later.Real path))
      (ensureDirectory path mode) tree := by
  have same := FileTree.Paves.refl tree path
  unfold ensureDirectory
  split
  next =>
    exact safe_value (held tree same.toAddsDirectories) ⟨same, fun impossible => nomatch impossible⟩
  next =>
    refine (safe_ensureComponents held mode (List.nil_append path) same FileTree.real_nil).bind
      fun result later => ?_
    rintro ⟨adds, real⟩
    have holdsLater := held later adds.toAddsDirectories
    cases result with
    | error failure => exact safe_value holdsLater ⟨adds, fun impossible => nomatch impossible⟩
    | ok done =>
        refine safe_quiet holdsLater rfl fun changed next unchanged => ?_
        obtain rfl : next = later := unchanged
        cases changed with
        | error detail => exact safe_value holdsLater ⟨adds, fun impossible => nomatch impossible⟩
        | ok mode => exact safe_value holdsLater ⟨adds, fun _ => real rfl⟩

/-! ## What a repair keeps -/

/-- The core's place holds a file with the release's core. -/
def CoreInPlace (disk : CoreDisk Content) (tree : Tree Content) : Prop :=
  ∃ content, tree.node disk.setup.corePath = some (.file content) ∧ disk.IsCore content

/-- The license's place holds a file with the release's license, if `tar` leaves
no link there. -/
def LicenseInPlace (disk : CoreDisk Content) (tree : Tree Content) : Prop :=
  disk.linksLicense = false → ∃ content,
    tree.node disk.setup.licensePath = some (.file content) ∧
    disk.digest content = disk.setup.manifest.licenseSha256

/-- The directories are real, and each of the two files is as at the start or the
verified one. -/
structure Kept (disk : CoreDisk Content) (start tree : Tree Content) : Prop where
  cache : tree.Real disk.setup.paths.cacheDir
  directory : tree.Real disk.setup.coreDirectory
  core : tree.node disk.setup.corePath = start.node disk.setup.corePath ∨ disk.CoreInPlace tree
  license : tree.node disk.setup.licensePath = start.node disk.setup.licensePath ∨
    disk.LicenseInPlace tree

/-- Where a repair may change something only by moving verified files. -/
def Guards (disk : CoreDisk Content) (position : List Bytes) : Prop :=
  position <+: disk.setup.paths.cacheDir ∨ position <+: disk.setup.coreDirectory ∨
    position = disk.setup.corePath ∨ position = disk.setup.licensePath

/-- Nothing changes in a guarded place. -/
def GuardedSame (disk : CoreDisk Content) (tree next : Tree Content) : Prop :=
  ∀ position, disk.Guards position → next.node position = tree.node position

section Guarded

variable {start next : Tree Content}

theorem CoreInPlace.of_node_eq (inPlace : disk.CoreInPlace tree)
    (same : next.node disk.setup.corePath = tree.node disk.setup.corePath) :
    disk.CoreInPlace next := by
  obtain ⟨content, found, isCore⟩ := inPlace
  exact ⟨content, same.trans found, isCore⟩

theorem LicenseInPlace.of_node_eq (inPlace : disk.LicenseInPlace tree)
    (same : next.node disk.setup.licensePath = tree.node disk.setup.licensePath) :
    disk.LicenseInPlace next := by
  intro unlinked
  obtain ⟨content, found, digest⟩ := inPlace unlinked
  exact ⟨content, same.trans found, digest⟩

theorem GuardedSame.coreInPlace (same : disk.GuardedSame tree next)
    (inPlace : disk.CoreInPlace tree) : disk.CoreInPlace next :=
  inPlace.of_node_eq (same _ (.inr (.inr (.inl rfl))))

theorem GuardedSame.licenseInPlace (same : disk.GuardedSame tree next)
    (inPlace : disk.LicenseInPlace tree) : disk.LicenseInPlace next :=
  inPlace.of_node_eq (same _ (.inr (.inr (.inr rfl))))

theorem GuardedSame.kept (same : disk.GuardedSame tree next) (kept : disk.Kept start tree) :
    disk.Kept start next := by
  refine ⟨?_, ?_, ?_, ?_⟩
  · intro position nonempty within
    rw [same position (.inl within)]
    exact kept.cache position nonempty within
  · intro position nonempty within
    rw [same position (.inr (.inl within))]
    exact kept.directory position nonempty within
  · exact kept.core.imp (same _ (.inr (.inr (.inl rfl)))).trans same.coreInPlace
  · exact kept.license.imp (same _ (.inr (.inr (.inr rfl)))).trans same.licenseInPlace

/-- Files of a download lie beside everything that is guarded. -/
theorem not_guards_cache (separate : disk.setup.Separate) {name : Bytes} {position : List Bytes}
    (below : disk.setup.paths.cacheDir ++ [name] <+: position) : ¬ disk.Guards position := by
  have above : disk.setup.paths.cacheDir <+: position := (List.prefix_append _ _).trans below
  have longer : disk.setup.paths.cacheDir.length < position.length := by
    have length := below.length_le
    simp only [List.length_append, List.length_singleton] at length
    omega
  have apart (last : Bytes) : position ≠ disk.setup.coreDirectory ++ [last] := by
    rintro rfl
    have within := List.prefix_concat_iff.mp above
    rcases within with same | within
    · rw [same] at longer
      exact Nat.lt_irrefl _ longer
    · exact separate.cache within
  rintro (within | within | same | same)
  · exact absurd within.length_le (Nat.not_le.mpr longer)
  · exact separate.cache (above.trans within)
  · exact apart _ same
  · exact apart _ same

/-- Staging trees lie beside everything that is guarded. -/
theorem not_guards_staging (separate : disk.setup.Separate) {name : Bytes}
    (staged : Setup.stagingPrefix.isPrefixOf name = true) {position : List Bytes}
    (below : disk.setup.coreDirectory ++ [name] <+: position) : ¬ disk.Guards position := by
  have above : disk.setup.coreDirectory <+: position := (List.prefix_append _ _).trans below
  have length : disk.setup.coreDirectory.length + 1 ≤ position.length := by
    simpa using below.length_le
  have apart {last : Bytes} (unstaged : Setup.stagingPrefix.isPrefixOf last = false) :
      position ≠ disk.setup.coreDirectory ++ [last] := by
    rintro rfl
    have same : disk.setup.coreDirectory ++ [name] = disk.setup.coreDirectory ++ [last] :=
      below.eq_of_length (by simp)
    obtain rfl : name = last := by simpa using same
    rw [staged] at unstaged
    cases unstaged
  rintro (within | within | same | same)
  · exact separate.core (above.trans within)
  · exact absurd within.length_le (by omega)
  · exact apart (by decide) same
  · exact apart (by decide) same

/-- Removing an entry of a real directory changes nothing elsewhere. -/
theorem Removed.apart {parent : List Bytes} {name : Bytes} (real : tree.Real parent)
    (removed : Removed tree (parent ++ [name]) next) {position : List Bytes}
    (outside : ¬ parent ++ [name] <+: position) : next.node position = tree.node position := by
  rcases removed position with same | ⟨-, place, located, below⟩
  · exact same
  · obtain rfl := Option.some.inj ((real.locate name).symm.trans located)
    exact absurd below outside

/-- Removing what lies beside the guarded places changes nothing there. -/
theorem Removed.guardedSame {parent : List Bytes} {name : Bytes}
    (beside : ∀ position, parent ++ [name] <+: position → ¬ disk.Guards position)
    (real : tree.Real parent) (removed : Removed tree (parent ++ [name]) next) :
    disk.GuardedSame tree next := by
  intro position guards
  apply removed.apart real
  intro below
  exact beside position below guards

end Guarded

/-! ## Repair -/

section Repair

variable {start : Tree Content}

/-- Stale entries are removed beside the guarded places. -/
theorem safe_removeStaleEntries (held : ∀ later, disk.Kept start later → holds later)
    {directory : Path} {namePrefix : Bytes}
    (real : ∀ later : Tree Content, disk.Kept start later → later.Real directory)
    (beside : ∀ name, namePrefix.isPrefixOf name = true → ∀ position,
      directory ++ [name] <+: position → ¬ disk.Guards position)
    (expected : FileKind) (names : List Bytes) (kept : disk.Kept start tree) :
    Safe disk.surroundings (disk.guarded holds) (fun _ later => disk.Kept start later)
      (removeStaleEntries directory namePrefix expected names) tree := by
  induction names generalizing tree with
  | nil => exact safe_value (held tree kept) kept
  | cons name names ih =>
      unfold removeStaleEntries
      split
      next => exact ih kept
      next matching =>
        have gone {next : Tree Content} (removed : Removed tree (directory ++ [name]) next) :
            disk.Kept start next := by
          have named : namePrefix.isPrefixOf name = true := by simpa using matching
          exact (removed.guardedSame (beside name named) (real tree kept)).kept kept
        refine safe_quiet (held tree kept) rfl fun answer next answers => ?_
        cases answer with
        | missing =>
            obtain ⟨rfl, -⟩ := answers
            exact ih kept
        | failed detail =>
            obtain rfl : next = tree := answers
            exact ih kept
        | found status =>
            obtain ⟨rfl, -⟩ := answers
            simp only [done_bind]
            split
            next => exact ih kept
            next =>
              split
              next =>
                exact safe_quiet (held next kept) rfl fun _ after removed => ih (gone removed)
              next =>
                exact safe_quiet (held next kept) rfl fun _ after removed => ih (gone removed)

theorem safe_removeStaleArtifacts (held : ∀ later, disk.Kept start later → holds later)
    {directory : Path} {namePrefix : Bytes}
    (real : ∀ later : Tree Content, disk.Kept start later → later.Real directory)
    (beside : ∀ name, namePrefix.isPrefixOf name = true → ∀ position,
      directory ++ [name] <+: position → ¬ disk.Guards position)
    (expected : FileKind) (kept : disk.Kept start tree) :
    Safe disk.surroundings (disk.guarded holds) (fun _ later => disk.Kept start later)
      (removeStaleArtifacts directory namePrefix expected) tree := by
  refine safe_quiet (held tree kept) rfl fun listed next same => ?_
  obtain rfl : next = tree := same
  cases listed with
  | none => exact safe_value (held next kept) kept
  | some names => exact safe_removeStaleEntries held real beside expected names kept

/-- The staging tree is there, and the rest is kept. -/
structure Staged (disk : CoreDisk Content) (start tree : Tree Content) (name : Bytes) : Prop where
  kept : disk.Kept start tree
  staging : tree.Real (disk.setup.coreDirectory ++ [name])

variable {name : Bytes}

/-- A change of the downloaded archive leaves the staging tree as it is. -/
theorem Staged.of_archive (separate : disk.setup.Separate) (archive : Bytes)
    {next : Tree Content} (staged : disk.Staged start tree name)
    (same : ∀ position, ¬ disk.setup.paths.cacheDir ++ [archive] <+: position →
      next.node position = tree.node position) : disk.Staged start next name := by
  have guarded : disk.GuardedSame tree next := fun position guards =>
    same position fun below => not_guards_cache separate below guards
  refine ⟨guarded.kept staged.kept, fun position nonempty within => ?_⟩
  rw [same position ?_]
  · exact staged.staging position nonempty within
  · intro below
    rcases List.prefix_concat_iff.mp within with rfl | above
    · rcases List.prefix_concat_iff.mp below with equal | inside
      · have parents : disk.setup.paths.cacheDir = disk.setup.coreDirectory := by
          have front := congrArg List.dropLast equal
          simpa using front
        exact separate.cache (parents ▸ List.prefix_refl _)
      · exact separate.cache ((List.prefix_append _ _).trans inside)
    · exact separate.cache (((List.prefix_append _ _).trans below).trans above)

theorem Staged.of_removed (separate : disk.setup.Separate) {archive : Bytes}
    {next : Tree Content} (staged : disk.Staged start tree name)
    (removed : Removed tree (disk.setup.paths.cacheDir ++ [archive]) next) :
    disk.Staged start next name := by
  exact staged.of_archive separate archive fun position beside =>
    removed.apart staged.kept.cache beside

theorem safe_downloadLoop (separate : disk.setup.Separate)
    (held : ∀ later, disk.Kept start later → holds later) (archive : Bytes)
    (remaining attempt : Nat) (last : Result ProcessOutput) (staged : disk.Staged start tree name) :
    Safe disk.surroundings (disk.guarded holds) (fun _ later => disk.Staged start later name)
      (disk.setup.downloadLoop (disk.setup.paths.cacheDir ++ [archive]) remaining attempt last)
      tree := by
  induction remaining generalizing attempt last tree with
  | zero => exact safe_value (held tree staged.kept) staged
  | succ remaining ih =>
      unfold Setup.downloadLoop
      refine safe_quiet (held tree staged.kept) rfl fun _ next same => ?_
      obtain rfl : next = tree := same
      refine safe_quiet (held next staged.kept) rfl fun _ cleared removed => ?_
      have before := staged.of_removed separate removed
      refine safe_quiet (held cleared before.kept) rfl fun download after written => ?_
      have downloaded : disk.Staged start after name := by
        refine before.of_archive separate archive fun position beside => ?_
        refine written position fun located => ?_
        rw [before.kept.cache.locate] at located
        exact beside (Option.some.inj located ▸ List.prefix_refl _)
      refine safe_quiet (held after downloaded.kept) rfl fun _ next same => ?_
      obtain rfl : next = after := same
      simp only [done_bind]
      split
      next => exact safe_value (held next downloaded.kept) downloaded
      next =>
        refine safe_quiet (held next downloaded.kept) rfl fun _ later same => ?_
        obtain rfl : later = next := same
        simp only [done_bind]
        split
        next =>
          refine safe_quiet (held later downloaded.kept) rfl fun _ last same => ?_
          obtain rfl : last = later := same
          exact ih _ _ downloaded
        next => exact ih _ _ downloaded

/-! ### Extracting and installing -/

section Renamed

variable {parent directory : List Bytes} {file destination : Bytes} {next : Tree Content}

/-- Between real directories, the entries named are those that are moved. -/
theorem Renamed.node (source : tree.Real parent) (real : tree.Real directory)
    (renamed : Renamed tree (parent ++ [file]) (directory ++ [destination]) next)
    (position : List Bytes) :
    next.node position =
      if directory ++ [destination] <+: position then
        tree.node (parent ++ [file] ++ position.drop (directory ++ [destination]).length)
      else if parent ++ [file] <+: position then none
      else tree.node position := by
  obtain ⟨old, new, sourceLocated, goalLocated, moved⟩ := renamed
  rw [source.locate] at sourceLocated
  rw [real.locate] at goalLocated
  obtain rfl := Option.some.inj sourceLocated
  obtain rfl := Option.some.inj goalLocated
  exact moved position

/-- Moving a file between real directories puts it at its destination. -/
theorem Renamed.target (source : tree.Real parent) (real : tree.Real directory)
    (renamed : Renamed tree (parent ++ [file]) (directory ++ [destination]) next) :
    next.node (directory ++ [destination]) = tree.node (parent ++ [file]) := by
  rw [renamed.node source real, if_pos List.prefix_rfl, List.drop_length, List.append_nil]

/-- Moving a file between real directories changes nothing elsewhere. -/
theorem Renamed.apart (source : tree.Real parent) (real : tree.Real directory)
    (renamed : Renamed tree (parent ++ [file]) (directory ++ [destination]) next)
    {position : List Bytes} (here : ¬ parent ++ [file] <+: position)
    (there : ¬ directory ++ [destination] <+: position) :
    next.node position = tree.node position := by
  rw [renamed.node source real, if_neg there, if_neg here]

end Renamed

/-- Longer positions are not above. -/
theorem not_prefix_of_length {front position : List Bytes}
    (shorter : position.length < front.length) : ¬ front <+: position :=
  fun within => absurd within.length_le (Nat.not_le.mpr shorter)

/-- What moving a staged file into the core's directory does. -/
structure Installs (disk : CoreDisk Content) (tree next : Tree Content) (name file target : Bytes) :
    Prop where
  placed : next.node (disk.setup.coreDirectory ++ [target]) =
    tree.node (disk.setup.coreDirectory ++ [name] ++ [file])
  guarded : ∀ position, disk.Guards position →
    position ≠ disk.setup.coreDirectory ++ [target] → next.node position = tree.node position
  staging : next.Real (disk.setup.coreDirectory ++ [name])
  beside : ∀ other, other ≠ file →
    next.node (disk.setup.coreDirectory ++ [name] ++ [other]) =
      tree.node (disk.setup.coreDirectory ++ [name] ++ [other])

theorem Staged.installs (separate : disk.setup.Separate)
    (staging : Setup.stagingPrefix.isPrefixOf name = true) {file target : Bytes}
    (unstaged : Setup.stagingPrefix.isPrefixOf target = false) {next : Tree Content}
    (staged : disk.Staged start tree name)
    (renamed : Renamed tree (disk.setup.coreDirectory ++ [name] ++ [file])
      (disk.setup.coreDirectory ++ [target]) next) :
    disk.Installs tree next name file target := by
  have different : name ≠ target := by
    rintro rfl
    rw [staging] at unstaged
    cases unstaged
  have elsewhere {position : List Bytes}
      (here : ¬ disk.setup.coreDirectory ++ [name] ++ [file] <+: position)
      (there : ¬ disk.setup.coreDirectory ++ [target] <+: position) :
      next.node position = tree.node position :=
    renamed.apart staged.staging staged.kept.directory here there
  have outside (rest : List Bytes) : ¬ disk.setup.coreDirectory ++ [target] <+:
      disk.setup.coreDirectory ++ ([name] ++ rest) := by
    rw [List.prefix_append_right_inj]
    intro within
    simp only [List.singleton_append, List.cons_prefix_cons] at within
    exact different within.1.symm
  constructor
  · exact renamed.target staged.staging staged.kept.directory
  · intro position guards notTarget
    apply elsewhere
    · intro below
      exact not_guards_staging separate staging ((List.prefix_append _ _).trans below) guards
    · intro below
      rcases guards with within | within | rfl | rfl
      · exact separate.core (((List.prefix_append _ _).trans below).trans within)
      · exact not_prefix_of_length (by simp) (below.trans within)
      · exact notTarget (below.eq_of_length (by simp [Setup.corePath])).symm
      · exact notTarget (below.eq_of_length (by simp [Setup.licensePath])).symm
  · intro position nonempty within
    rw [elsewhere]
    · exact staged.staging position nonempty within
    · intro below
      exact not_prefix_of_length (by simp) (below.trans within)
    · intro below
      exact outside [] (by simpa using below.trans within)
  · intro other distinct
    rw [elsewhere]
    · intro below
      have same := below.eq_of_length (by simp)
      exact distinct (by simpa using same.symm)
    · simpa using outside [other]

/-- The staged files after extraction. -/
structure Extracted (disk : CoreDisk Content) (start tree : Tree Content) (name : Bytes) : Prop
    extends disk.Staged start tree name where
  unlinked : disk.linksLicense = false → ∀ target,
    tree.node (disk.setup.coreDirectory ++ [name] ++ [ascii "LICENSE"]) ≠ some (.link target)

/-- What a repair has achieved when it succeeds. -/
def Installed (disk : CoreDisk Content) (tree : Tree Content) : Prop :=
  disk.CoreInPlace tree ∧ disk.LicenseInPlace tree

/-- A file that is read and no link is a regular file. -/
theorem FileNode.eq_file_of_content? {node : Option (FileNode Bytes Content)} {content : Content}
    (read : node.bind FileTree.FileNode.content? = some content) : node = some (.file content) := by
  cases node with
  | none => cases read
  | some node =>
      cases node with
      | file other => exact congrArg _ (congrArg _ (Option.some.inj read))
      | directory => cases read
      | link target => cases read
      | special => cases read

/-- How a repair in a staging tree may end: a success has installed both files. -/
def Repaired (disk : CoreDisk Content) (start : Tree Content) (name : Bytes)
    (result : Result CoreInfo) (tree : Tree Content) : Prop :=
  disk.Staged start tree name ∧ (result.isOk = true → disk.Installed tree)

theorem Staged.safe_error (staged : disk.Staged start tree name)
    (held : ∀ later, disk.Kept start later → holds later) {failure : Error} :
    Safe disk.surroundings (disk.guarded holds) (disk.Repaired start name)
      (.done (.error failure)) tree :=
  safe_value (held tree staged.kept) ⟨staged, fun impossible => nomatch impossible⟩

theorem corePath_ne_licensePath (setup : Setup) : setup.corePath ≠ setup.licensePath := by
  have names : ascii "sing-box" ≠ ascii "LICENSE" := by decide
  simpa [Setup.corePath, Setup.licensePath] using names

section Installs

variable {next : Tree Content} {file target : Bytes}

theorem Installs.cache (installs : disk.Installs tree next name file target)
    (separate : disk.setup.Separate) (real : tree.Real disk.setup.paths.cacheDir) :
    next.Real disk.setup.paths.cacheDir := by
  intro position nonempty within
  rw [installs.guarded position (.inl within)]
  · exact real position nonempty within
  · rintro rfl
    exact separate.core ((List.prefix_append _ _).trans within)

theorem Installs.directory (installs : disk.Installs tree next name file target)
    (real : tree.Real disk.setup.coreDirectory) : next.Real disk.setup.coreDirectory := by
  intro position nonempty within
  rw [installs.guarded position (.inr (.inl within))]
  · exact real position nonempty within
  · rintro rfl
    exact not_prefix_of_length (by simp) within

/-- The verified license comes into its place. -/
theorem Installs.license (separate : disk.setup.Separate)
    (extracted : disk.Extracted start tree name) {content : Content}
    (read : tree.read (disk.setup.coreDirectory ++ [name] ++ [ascii "LICENSE"]) = some content)
    (digest : disk.digest content = disk.setup.manifest.licenseSha256)
    (installs : disk.Installs tree next name (ascii "LICENSE") (ascii "LICENSE")) :
    disk.Staged start next name ∧ disk.LicenseInPlace next := by
  have inPlace : disk.LicenseInPlace next := by
    intro unlinked
    rw [extracted.staging.read (extracted.unlinked unlinked)] at read
    exact ⟨content, installs.placed.trans (FileNode.eq_file_of_content? read), digest⟩
  have same : next.node disk.setup.corePath = tree.node disk.setup.corePath :=
    installs.guarded _ (.inr (.inr (.inl rfl))) (corePath_ne_licensePath disk.setup)
  have core := extracted.kept.core.imp same.trans fun core => core.of_node_eq same
  exact ⟨⟨⟨installs.cache separate extracted.kept.cache,
    installs.directory extracted.kept.directory, core, .inr inPlace⟩, installs.staging⟩, inPlace⟩

/-- The verified core comes into its place. -/
theorem Installs.core (separate : disk.setup.Separate) (staged : disk.Staged start tree name)
    {content : Content}
    (found : tree.node (disk.setup.coreDirectory ++ [name] ++ [file]) = some (.file content))
    (isCore : disk.IsCore content)
    (installs : disk.Installs tree next name file (ascii "sing-box"))
    (license : disk.LicenseInPlace tree) : disk.Staged start next name ∧ disk.Installed next := by
  have inPlace : disk.CoreInPlace next := ⟨content, installs.placed.trans found, isCore⟩
  have same : next.node disk.setup.licensePath = tree.node disk.setup.licensePath :=
    installs.guarded _ (.inr (.inr (.inr rfl))) (corePath_ne_licensePath disk.setup).symm
  have licensed := license.of_node_eq same
  exact ⟨⟨⟨installs.cache separate staged.kept.cache, installs.directory staged.kept.directory,
    .inr inPlace, .inr licensed⟩, installs.staging⟩, inPlace, licensed⟩

end Installs

/-- The staged files are moved in one after the other; before, between and after
the two steps each of them is as at the start or verified. -/
theorem safe_installStaged (separate : disk.setup.Separate)
    (held : ∀ later, disk.Kept start later → holds later)
    (staging : Setup.stagingPrefix.isPrefixOf name = true)
    (extracted : disk.Extracted start tree name)
    (verified : disk.Verified tree (disk.setup.coreDirectory ++ [name] ++ [ascii "sing-box"])) :
    Safe disk.surroundings (disk.guarded holds) (disk.Repaired start name)
      (disk.setup.installStaged (disk.setup.coreDirectory ++ [name])) tree := by
  obtain ⟨core, coreFound, isCore⟩ := verified
  rw [extracted.staging.lookup] at coreFound
  refine (safe_sha256File (held tree extracted.kept) _ _).bind fun hash later => ?_
  rintro ⟨rfl, hashed⟩
  split
  next => exact extracted.toStaged.safe_error held
  next sameHash =>
    obtain ⟨license, read, digest⟩ := hashed _ (eq_ok_of_toOption (not_not.mp sameHash))
    refine safe_quiet (held later extracted.kept) rfl fun renamed next moved => ?_
    cases renamed with
    | false =>
        obtain rfl : next = later := moved
        exact extracted.toStaged.safe_error held
    | true =>
        have firstInstalls : disk.Installs later next name (ascii "LICENSE") (ascii "LICENSE") :=
          extracted.toStaged.installs separate staging (by decide) moved
        obtain ⟨staged, licensed⟩ := firstInstalls.license separate extracted read digest.symm
        have found : next.node (disk.setup.coreDirectory ++ [name] ++ [ascii "sing-box"]) =
            some (.file core) := (firstInstalls.beside _ (by decide)).trans coreFound
        refine safe_quiet (held next staged.kept) rfl fun renamed last moved => ?_
        cases renamed with
        | false =>
            obtain rfl : last = next := moved
            exact staged.safe_error held
        | true =>
            have secondInstalls :
                disk.Installs next last name (ascii "sing-box") (ascii "sing-box") :=
              staged.installs separate staging (by decide) moved
            obtain ⟨stagedLast, installed⟩ :=
              secondInstalls.core separate staged found isCore licensed
            refine safe_quiet (held last stagedLast.kept) rfl fun _ after same => ?_
            obtain rfl : after = last := same
            have holdsAfter := held after stagedLast.kept
            refine (safe_verifyInstalledCore holdsAfter).imp fun result final => ?_
            rintro ⟨rfl, -⟩
            exact ⟨stagedLast, fun _ => installed⟩

/-- What `tar` may do leaves the staging tree and the guarded places as they are. -/
theorem Staged.extracted (separate : disk.setup.Separate)
    (staging : Setup.stagingPrefix.isPrefixOf name = true) {archive : Path}
    {result : Result ProcessOutput} {next : Tree Content} (staged : disk.Staged start tree name)
    (answers : disk.Answers tree (.runCapture (disk.setup.extractCommand archive
      (disk.setup.coreDirectory ++ [name]))) result next) : disk.Extracted start next name := by
  obtain ⟨changes, unlinked⟩ := answers
  have same {position : List Bytes}
      (outside : disk.setup.coreDirectory ++ [name] <+: position →
        position = disk.setup.coreDirectory ++ [name]) :
      next.node position = tree.node position := by
    rcases changes position with same | ⟨place, located, below, different⟩
    · exact same
    · rw [staged.kept.directory.locate] at located
      obtain rfl := Option.some.inj located
      exact absurd (outside below).symm different
  have guarded : disk.GuardedSame tree next := fun position guards =>
    same fun below => absurd guards (not_guards_staging separate staging below)
  have real : next.Real (disk.setup.coreDirectory ++ [name]) := by
    intro position nonempty within
    rw [same fun below => within.eq_of_length_le below.length_le]
    exact staged.staging position nonempty within
  refine ⟨⟨guarded.kept staged.kept, real⟩, fun allowed target => ?_⟩
  rw [← real.lookup]
  exact unlinked allowed target

theorem safe_extractAndInstall (separate : disk.setup.Separate)
    (held : ∀ later, disk.Kept start later → holds later)
    (staging : Setup.stagingPrefix.isPrefixOf name = true) (archive : Path)
    (staged : disk.Staged start tree name) :
    Safe disk.surroundings (disk.guarded holds) (disk.Repaired start name)
      (disk.setup.extractAndInstall archive (disk.setup.coreDirectory ++ [name])) tree := by
  refine safe_quiet (held tree staged.kept) rfl fun extract next answers => ?_
  have extracted := staged.extracted separate staging answers
  simp only [done_bind]
  split
  next => exact extracted.toStaged.safe_error held
  next =>
    refine safe_quiet (held next extracted.kept) rfl fun changed after same => ?_
    obtain rfl : after = next := same
    cases changed with
    | error detail => exact extracted.toStaged.safe_error held
    | ok mode =>
        refine (safe_verifyCandidate (held after extracted.kept) _).bind fun result later => ?_
        rintro ⟨rfl, verified⟩
        cases result with
        | error failure => exact extracted.toStaged.safe_error held
        | ok information =>
            exact safe_installStaged separate held staging extracted (verified rfl)

theorem safe_repairStaged (separate : disk.setup.Separate)
    (held : ∀ later, disk.Kept start later → holds later)
    (staging : Setup.stagingPrefix.isPrefixOf name = true) (archive : Bytes)
    (staged : disk.Staged start tree name) :
    Safe disk.surroundings (disk.guarded holds) (disk.Repaired start name)
      (disk.setup.repairStaged (disk.setup.paths.cacheDir ++ [archive])
        (disk.setup.coreDirectory ++ [name])) tree := by
  refine (safe_downloadLoop separate held archive _ _ _ staged).bind fun download next staged => ?_
  split
  next => exact staged.safe_error held
  next =>
    refine (safe_regularFileSize (held next staged.kept) _).bind fun size later => ?_
    rintro ⟨rfl, -⟩
    split
    next => exact staged.safe_error held
    next =>
      refine (safe_sha256File (held later staged.kept) _ _).bind fun hash last => ?_
      rintro ⟨rfl, -⟩
      split
      next => exact staged.safe_error held
      next => exact safe_extractAndInstall separate held staging _ staged

/-- The temporary trees are removed beside what was installed. -/
theorem safe_repairInStaging (separate : disk.setup.Separate)
    (held : ∀ later, disk.Kept start later → holds later) (kept : disk.Kept start tree) :
    Safe disk.surroundings (disk.guarded holds)
      (fun result later => disk.Kept start later ∧ (result.isOk = true → disk.Installed later))
      disk.setup.repairInStaging tree := by
  have fails {later : Tree Content} {failure : Error} (kept : disk.Kept start later) :
      Safe disk.surroundings (disk.guarded holds)
        (fun (result : Result CoreInfo) last => disk.Kept start last ∧
          (result.isOk = true → disk.Installed last)) (.done (.error failure)) later :=
    safe_value (held later kept) ⟨kept, fun impossible => nomatch impossible⟩
  refine safe_quiet (held tree kept) rfl fun process next same => ?_
  obtain rfl : next = tree := same
  have staging : Setup.stagingPrefix.isPrefixOf
      (Setup.stagingPrefix ++ formatNat process) = true :=
    List.isPrefixOf_iff_prefix.mpr (List.prefix_append _ _)
  refine safe_quiet (held next kept) rfl fun made after answers => ?_
  cases made with
  | present =>
      obtain rfl : after = next := answers
      exact fails kept
  | failed detail =>
      obtain rfl : after = next := answers
      exact fails kept
  | created =>
      obtain ⟨position, located, -, placed⟩ := answers
      rw [Setup.stagingPath, kept.directory.locate] at located
      obtain rfl := Option.some.inj located
      have guarded : disk.GuardedSame next after := by
        intro other guards
        rw [placed other, if_neg]
        rintro rfl
        exact not_guards_staging separate staging (List.prefix_refl _) guards
      have keptAfter := guarded.kept kept
      have staged : disk.Staged start after (Setup.stagingPrefix ++ formatNat process) :=
        ⟨keptAfter, keptAfter.directory.append (by rw [placed, if_pos rfl])⟩
      refine (safe_repairStaged separate held staging _ staged).bind fun result later => ?_
      rintro ⟨staged, installed⟩
      refine safe_quiet (held later staged.kept) rfl fun _ cleared removed => ?_
      have clearedSame := removed.guardedSame
        (fun _ => not_guards_cache separate) staged.kept.cache
      have clearedKept := clearedSame.kept staged.kept
      refine safe_quiet (held cleared clearedKept) rfl fun _ last removed => ?_
      have lastSame := removed.guardedSame
        (fun _ => not_guards_staging separate staging) clearedKept.directory
      have lastKept := lastSame.kept clearedKept
      refine safe_value (held last lastKept) ⟨lastKept, fun succeeded => ?_⟩
      obtain ⟨core, license⟩ := installed succeeded
      exact ⟨lastSame.coreInPlace (clearedSame.coreInPlace core),
        lastSame.licenseInPlace (clearedSame.licenseInPlace license)⟩

end Repair

/-! ## The whole repair -/

section Whole

variable {first : Tree Content}

/-- A tree during a repair: only directories are new, or what is to be kept is
kept. -/
def Sound (disk : CoreDisk Content) (first tree : Tree Content) : Prop :=
  first.AddsDirectories tree ∨
    ∃ start : Tree Content, first.AddsDirectories start ∧ start.Real disk.setup.coreDirectory ∧
      disk.Kept start tree

theorem safe_repairCore (separate : disk.setup.Separate)
    (held : ∀ later, disk.Sound tree later → holds later) :
    Safe disk.surroundings (disk.guarded holds)
      (fun result later => disk.Sound tree later ∧ (result.isOk = true →
        later.Real disk.setup.coreDirectory ∧ disk.Installed later))
      disk.setup.repairCore tree := by
  have fails {later : Tree Content} {failure : Error} (adds : tree.AddsDirectories later) :
      Safe disk.surroundings (disk.guarded holds)
        (fun (result : Result CoreInfo) last => disk.Sound tree last ∧ (result.isOk = true →
          last.Real disk.setup.coreDirectory ∧ disk.Installed last))
        (.done (.error failure)) later :=
    safe_value (held later (.inl adds)) ⟨.inl adds, fun impossible => nomatch impossible⟩
  have ensures {later : Tree Content} (adds : tree.AddsDirectories later) (path : Path)
      (mode : Nat) : Safe disk.surroundings (disk.guarded holds)
        (fun result last => later.AddsDirectories last ∧ (result = .ok () → last.Real path))
        (ensureDirectory path mode) later :=
    (safe_ensureDirectory (fun last more => held last (.inl (adds.trans more))) path mode).imp
      fun _ _ ensured => ⟨ensured.1.toAddsDirectories, ensured.2⟩
  refine (ensures (FileTree.AddsDirectories.refl tree) _ _).bind fun result next => ?_
  rintro ⟨adds, cache⟩
  cases result with
  | error failure => exact fails adds
  | ok done =>
      refine (ensures adds _ _).bind fun result middle => ?_
      rintro ⟨more, -⟩
      cases result with
      | error failure => exact fails (adds.trans more)
      | ok done =>
          refine (ensures (adds.trans more) _ _).bind fun result start => ?_
          rintro ⟨again, directory⟩
          have all := (adds.trans more).trans again
          cases result with
          | error failure => exact fails all
          | ok done =>
              have cacheReal := (more.trans again).grows.real (cache rfl)
              have keeps (later : Tree Content) (kept : disk.Kept start later) : holds later :=
                held later (.inr ⟨start, all, directory rfl, kept⟩)
              have kept : disk.Kept start start :=
                ⟨cacheReal, directory rfl, .inl rfl, .inl rfl⟩
              refine (safe_removeStaleArtifacts keeps (fun _ kept => kept.directory)
                (fun name staged position => not_guards_staging separate staged)
                _ kept).bind fun _ second kept => ?_
              refine (safe_removeStaleArtifacts keeps (fun _ kept => kept.cache)
                (fun name _ position => not_guards_cache separate) _ kept).bind
                  fun _ third kept => ?_
              refine (safe_repairInStaging separate keeps kept).imp fun result last => ?_
              rintro ⟨kept, installed⟩
              exact ⟨.inr ⟨start, all, directory rfl, kept⟩, fun succeeded =>
                ⟨kept.directory, installed succeeded⟩⟩

/-- What is in its place in a real directory is seen there from its path. -/
theorem Installed.verified (installed : disk.Installed tree)
    (real : tree.Real disk.setup.coreDirectory) :
    disk.Verified tree disk.setup.corePath ∧ (disk.linksLicense = false → disk.Licensed tree) := by
  obtain ⟨⟨content, found, isCore⟩, license⟩ := installed
  refine ⟨⟨content, (real.lookup _).trans found, isCore⟩, fun unlinked => ?_⟩
  obtain ⟨text, present, digest⟩ := license unlinked
  rw [Setup.licensePath] at present
  refine ⟨text, ?_, digest⟩
  rw [Setup.licensePath, real.read (by simp [present]), present]
  rfl

theorem safe_ensureCore (separate : disk.setup.Separate)
    (held : ∀ later, disk.Sound tree later → holds later) :
    Safe disk.surroundings (disk.guarded holds)
      (fun result later => disk.Sound tree later ∧ (result.isOk = true →
        disk.Verified later disk.setup.corePath ∧
          (disk.linksLicense = false → disk.Licensed later)))
      disk.setup.ensureCore tree := by
  have same : disk.Sound tree tree := .inl (FileTree.AddsDirectories.refl tree)
  refine (safe_verifyInstalledCore (held tree same)).bind fun result next => ?_
  rintro ⟨rfl, verified⟩
  cases result with
  | ok installed =>
      obtain ⟨core, license⟩ := verified rfl
      exact safe_value (held next same) ⟨same, fun _ => ⟨core, fun _ => license⟩⟩
  | error failure =>
      refine safe_quiet (held next same) rfl fun _ later unchanged => ?_
      obtain rfl : later = next := unchanged
      refine (safe_repairCore separate held).imp fun result last => ?_
      rintro ⟨sound, installed⟩
      refine ⟨sound, fun succeeded => ?_⟩
      obtain ⟨real, files⟩ := installed succeeded
      exact files.verified real

end Whole

end CoreDisk

end TunProxy
