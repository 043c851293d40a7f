import TunProxy.Filesystem

/-!
# The core manager

The sing-box core that TunProxy runs is a fixed release.  Before every use the
installed files are checked against the manifest; when they fail, the release
is downloaded, checked, extracted next to the installed files, checked again
and moved into place.
-/

namespace TunProxy

open ByteText EffectProgram

/-- The paths the program works with. -/
structure AppPaths where
  configFile : Path
  dataDir : Path
  cacheDir : Path
  runtimeDir : Path
  tunDevice : Path
  curlExecutable : Bytes
  tarExecutable : Bytes
  sha256sumExecutable : Bytes
  tunInterface : Bytes

structure CoreReleaseManifest where
  version : Bytes
  revision : Bytes
  assetName : Bytes
  downloadUrl : Bytes
  archiveSize : Nat
  archiveSha256 : Bytes
  binaryMember : Bytes
  binarySize : Nat
  binarySha256 : Bytes
  licenseMember : Bytes
  licenseSha256 : Bytes

/-- The default values of `AppPaths`. -/
def defaultPaths : AppPaths where
  configFile := [ascii "etc", ascii "tunproxy", ascii "config"]
  dataDir := [ascii "var", ascii "lib", ascii "tunproxy"]
  cacheDir := [ascii "var", ascii "cache", ascii "tunproxy"]
  runtimeDir := [ascii "run", ascii "tunproxy"]
  tunDevice := [ascii "dev", ascii "net", ascii "tun"]
  curlExecutable := ascii "/usr/bin/curl"
  tarExecutable := ascii "/usr/bin/tar"
  sha256sumExecutable := ascii "/usr/bin/sha256sum"
  tunInterface := ascii "tunproxy0"

def kSingBoxRelease : CoreReleaseManifest where
  version := ascii "1.13.18"
  revision := ascii "45ca32dcb966f07f97fc888fe8586e359dbe8405"
  assetName := ascii "sing-box-1.13.18-linux-amd64.tar.gz"
  downloadUrl := ascii ("https://github.com/SagerNet/sing-box/releases/download/v1.13.18/" ++
    "sing-box-1.13.18-linux-amd64.tar.gz")
  archiveSize := 23922330
  archiveSha256 := ascii "d34d987ed6ae39ca3760269264fb502b867e5477db45518c829b07776245c495"
  binaryMember := ascii "sing-box-1.13.18-linux-amd64/sing-box"
  binarySize := 58102016
  binarySha256 := ascii "8cb29c5b743fbda33502a2b6d49cf66ce13f5d1a41fcd0afc53fff17184ccf8e"
  licenseMember := ascii "sing-box-1.13.18-linux-amd64/LICENSE"
  licenseSha256 := ascii "650d5e3b99a446fb38e820fa87a49562e0c79eab868fff58618ac487a58e554c"

structure CoreInfo where
  executable : Path
  version : Bytes
  revision : Bytes

/-- What the managers are constructed with. -/
structure Setup where
  paths : AppPaths
  manifest : CoreReleaseManifest

/-- The program as it is shipped. -/
def shippedSetup : Setup where
  paths := defaultPaths
  manifest := kSingBoxRelease

def kCoreVersionTimeout : Nat := 10000
def kDownloadConnectTimeout : Nat := 15
def kDownloadMaxTime : Nat := 600
def kDownloadProcessTimeout : Nat := 620000
def kDownloadAttempts : Nat := 3
def kDownloadRetryDelay : Nat := 1000
def kExtractTimeout : Nat := 60000

def processFailureDetail : Result ProcessOutput → Bytes
  | .error failure => failure.message
  | .ok output =>
      if !output.stderrText.isEmpty then output.stderrText
      else ascii "process exited with status " ++ formatInt output.exitCode

def succeeded : Result ProcessOutput → Bool
  | .ok output => output.exitCode == 0
  | .error _ => false

def regularFileSize (path : Path) : System (Result Nat) :=
  (lstat path).bind fun
    | .found status =>
        if status.kind ≠ .regular then
          .done (.error (makeError .coreVerificationFailure
            (ascii "core file is missing or is not a regular file")))
        else if status.owner ≠ 0 then
          geteuid.bind fun user =>
          if user = 0 then
            .done (.error (makeError .coreVerificationFailure
              (ascii "core file is not owned by root")))
          else .done (.ok status.size)
        else .done (.ok status.size)
    | _ => .done (.error (makeError .coreVerificationFailure
        (ascii "core file is missing or is not a regular file")))

def renameReplacing (source destination : Path) : System (Result Unit) :=
  (rename source destination).bind fun renamed =>
  if renamed then .done (.ok ())
  else .done (.error (makeError .coreVerificationFailure
    (ascii "atomic core replacement failed")))

/-- The loop of `removeStaleArtifacts` over the entries of a directory. -/
def removeStaleEntries (directory : Path) (namePrefix : Bytes) (expected : FileKind) :
    List Bytes → System Unit
  | [] => .done ()
  | name :: rest =>
      if !namePrefix.isPrefixOf name then removeStaleEntries directory namePrefix expected rest
      else (lstat (directory ++ [name])).bind fun
        | .found status =>
            if status.kind ≠ expected then removeStaleEntries directory namePrefix expected rest
            else if expected = .directory then
              (removeAll (directory ++ [name])).bind fun _ =>
              removeStaleEntries directory namePrefix expected rest
            else
              (remove (directory ++ [name])).bind fun _ =>
              removeStaleEntries directory namePrefix expected rest
        | _ => removeStaleEntries directory namePrefix expected rest

def removeStaleArtifacts (directory : Path) (namePrefix : Bytes) (expected : FileKind) :
    System Unit :=
  (listDirectory directory).bind fun
    | none => .done ()
    | some names => removeStaleEntries directory namePrefix expected names

namespace Setup

variable (setup : Setup)

def coreDirectory : Path :=
  setup.paths.dataDir ++ [ascii "cores", setup.manifest.version]

def corePath : Path :=
  setup.coreDirectory ++ [ascii "sing-box"]

def licensePath : Path :=
  setup.coreDirectory ++ [ascii "LICENSE"]

/-! ## Verification -/

def versionCommand (executable : Path) : UtilityCommand where
  tool := .coreVersion executable
  arguments := [executable.text, ascii "version"]
  timeout := kCoreVersionTimeout

def expectedVersion : Bytes :=
  ascii "sing-box version " ++ setup.manifest.version

def expectedRevision : Bytes :=
  ascii "Revision: " ++ setup.manifest.revision

/-- The part of `verifyCandidate` that executes the file. -/
def verifyVersion (executable : Path) : System (Result CoreInfo) :=
  (runCapture (versionCommand executable)).bind fun version =>
  match version with
  | .error _ => .done (.error (makeError .coreVerificationFailure
      (ascii "cannot execute verified sing-box version command")))
  | .ok output =>
      if output.exitCode ≠ 0 then
        .done (.error (makeError .coreVerificationFailure
          (ascii "cannot execute verified sing-box version command")))
      else if !containsText setup.expectedVersion output.stdoutText ||
          !containsText setup.expectedRevision output.stdoutText then
        .done (.error (makeError .coreVerificationFailure
          (ascii "sing-box version or revision mismatch")))
      else .done (.ok ⟨executable, setup.manifest.version, setup.manifest.revision⟩)

def verifyCandidate (executable : Path) : System (Result CoreInfo) :=
  (regularFileSize executable).bind fun size =>
  if size.toOption ≠ some setup.manifest.binarySize then
    .done (.error (makeError .coreVerificationFailure (ascii "sing-box binary size mismatch")))
  else
    (sha256File executable setup.paths.sha256sumExecutable).bind fun hash =>
    if hash.toOption ≠ some setup.manifest.binarySha256 then
      .done (.error (makeError .coreVerificationFailure
        (ascii "sing-box binary checksum mismatch")))
    else setup.verifyVersion executable

def verifyInstalledCore : System (Result CoreInfo) :=
  (sha256File setup.licensePath setup.paths.sha256sumExecutable).bind fun licenseHash =>
  if licenseHash.toOption ≠ some setup.manifest.licenseSha256 then
    .done (.error (makeError .coreVerificationFailure
      (ascii "sing-box license is missing or invalid")))
  else setup.verifyCandidate setup.corePath

/-! ## Repair -/

def partPrefix : Bytes :=
  setup.manifest.assetName ++ ascii ".part."

def stagingPrefix : Bytes :=
  ascii ".staging."

def archivePath (suffix : Bytes) : Path :=
  setup.paths.cacheDir ++ [setup.partPrefix ++ suffix]

def stagingPath (suffix : Bytes) : Path :=
  setup.coreDirectory ++ [stagingPrefix ++ suffix]

def downloadCommand (archive : Path) : UtilityCommand where
  tool := .curl archive
  arguments := [setup.paths.curlExecutable, ascii "--fail", ascii "--progress-bar",
    ascii "--location", ascii "--proto", ascii "=https", ascii "--tlsv1.2",
    ascii "--connect-timeout", formatNat kDownloadConnectTimeout, ascii "--max-time",
    formatNat kDownloadMaxTime, ascii "--output", archive.text, setup.manifest.downloadUrl]
  timeout := kDownloadProcessTimeout
  logsProgress := true

def extractCommand (archive staging : Path) : UtilityCommand where
  tool := .tar archive staging
  arguments := [setup.paths.tarExecutable, ascii "--extract", ascii "--gzip", ascii "--file",
    archive.text, ascii "--directory", staging.text, ascii "--strip-components=1",
    ascii "--no-same-owner", ascii "--no-same-permissions", ascii "--",
    setup.manifest.binaryMember, setup.manifest.licenseMember]
  timeout := kExtractTimeout

def downloadMessage (attempt : Nat) : Bytes :=
  ascii "Downloading sing-box " ++ setup.manifest.version ++
    if attempt = 0 then []
    else ascii " (attempt " ++ formatNat (attempt + 1) ++ ascii "/" ++
      formatNat kDownloadAttempts ++ ascii ")"

/-- The download loop with `remaining` attempts after `attempt` of them. -/
def downloadLoop (archive : Path) : Nat → Nat → Result ProcessOutput →
    System (Result ProcessOutput)
  | 0, _, last => .done last
  | remaining + 1, attempt, _ =>
      (emitLog .info (setup.downloadMessage attempt)).bind fun _ =>
      (remove archive).bind fun _ =>
      (runCapture (setup.downloadCommand archive)).bind fun download =>
      (emitLog .progress (ascii "\n")).bind fun _ =>
      if succeeded download then .done download
      else
        (emitLog .warning
          (ascii "download failed: " ++ processFailureDetail download)).bind fun _ =>
        (if attempt + 1 < kDownloadAttempts then sleepFor kDownloadRetryDelay
          else .done ()).bind fun _ =>
        downloadLoop archive remaining (attempt + 1) download

/-- From the verified staged files to the installed ones. -/
def installStaged (staging : Path) : System (Result CoreInfo) :=
  let candidate := staging ++ [ascii "sing-box"]
  (sha256File (staging ++ [ascii "LICENSE"]) setup.paths.sha256sumExecutable).bind
    fun licenseHash =>
  if licenseHash.toOption ≠ some setup.manifest.licenseSha256 then
    .done (.error (makeError .coreVerificationFailure
      (ascii "sing-box license checksum mismatch")))
  else
    (renameReplacing (staging ++ [ascii "LICENSE"]) setup.licensePath).andThen fun _ =>
    (renameReplacing candidate setup.corePath).andThen fun _ =>
    (emitLog .info (ascii "sing-box " ++ setup.manifest.version ++ ascii " installed")).bind
      fun _ =>
    setup.verifyInstalledCore

/-- From the verified archive to the verified staged files. -/
def extractAndInstall (archive staging : Path) : System (Result CoreInfo) :=
  (runCapture (setup.extractCommand archive staging)).bind fun extract =>
  if !succeeded extract then
    let detail := match extract with
      | .ok output => output.stderrText
      | .error failure => failure.message
    .done (.error (makeError .coreVerificationFailure
      (ascii "cannot extract verified sing-box archive: " ++ detail)))
  else
    let candidate := staging ++ [ascii "sing-box"]
    (chmod candidate 0o755).bind fun
      | .error _ => .done (.error (makeError .coreVerificationFailure
          (ascii "cannot set sing-box executable permissions")))
      | .ok () =>
          (setup.verifyCandidate candidate).andThen fun _ =>
          setup.installStaged staging

/-- The part of `repairCore` during which the staging tree and the archive are
to be removed at the end. -/
def repairStaged (archive staging : Path) : System (Result CoreInfo) :=
  (setup.downloadLoop archive kDownloadAttempts 0
    (.error (makeError .coreDownloadFailure (ascii "download not attempted")))).bind fun download =>
  if !succeeded download then
    .done (.error (makeError .coreDownloadFailure
      (ascii "sing-box download failed: " ++ processFailureDetail download)))
  else
    (regularFileSize archive).bind fun archiveSize =>
    if archiveSize.toOption ≠ some setup.manifest.archiveSize then
      .done (.error (makeError .coreVerificationFailure
        (ascii "sing-box archive size mismatch")))
    else
      (sha256File archive setup.paths.sha256sumExecutable).bind fun archiveHash =>
      if archiveHash.toOption ≠ some setup.manifest.archiveSha256 then
        .done (.error (makeError .coreVerificationFailure
          (ascii "sing-box archive checksum mismatch")))
      else setup.extractAndInstall archive staging

/-- The end of `repairCore`, with the destructors of its temporary trees. -/
def repairInStaging : System (Result CoreInfo) :=
  getpid.bind fun process =>
  let suffix := formatNat process
  let archive := setup.archivePath suffix
  let staging := setup.stagingPath suffix
  (mkdir staging 0o700).bind fun
    | .created =>
        (setup.repairStaged archive staging).bind fun result =>
        (removeAll archive).bind fun _ =>
        (removeAll staging).bind fun _ =>
        .done result
    | _ => .done (.error (makeError .coreDownloadFailure
        (ascii "cannot create core staging directory")))

def repairCore : System (Result CoreInfo) :=
  (ensureDirectory setup.paths.cacheDir 0o700).andThen fun _ =>
  (ensureDirectory (setup.paths.dataDir ++ [ascii "cores"]) 0o750).andThen fun _ =>
  (ensureDirectory setup.coreDirectory 0o750).andThen fun _ =>
  (removeStaleArtifacts setup.coreDirectory stagingPrefix .directory).bind fun _ =>
  (removeStaleArtifacts setup.paths.cacheDir setup.partPrefix .regular).bind fun _ =>
  setup.repairInStaging

def ensureCore : System (Result CoreInfo) :=
  setup.verifyInstalledCore.bind fun
    | .ok installed => .done (.ok installed)
    | .error failure =>
        (emitLog .warning (ascii "sing-box " ++ setup.manifest.version ++
          ascii " missing or failed verification: " ++ failure.message)).bind fun _ =>
        setup.repairCore

end Setup

end TunProxy
