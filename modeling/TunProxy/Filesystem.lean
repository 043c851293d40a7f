import TunProxy.SystemCalls

/-!
# Directories and checksums

Directories are created component by component, so that an existing symbolic
link cannot lead out of the intended tree, and checksums are taken by a
utility.
-/

namespace TunProxy

open ByteText EffectProgram

def notRealDirectory (prefixText : Bytes) (path : Path) : Result Unit :=
  .error (makeError .generic (prefixText ++ path.text))

/-- The walk over the components of a path from `current` on. -/
def ensureComponents (mode : Nat) : Path → List Bytes → System (Result Unit)
  | _, [] => .done (.ok ())
  | current, component :: rest =>
      if component = ascii "." ∨ component = ascii ".." then
        .done (.error (makeError .generic
          (ascii "directory path contains traversal components")))
      else
        let next := current ++ [component]
        (lstat next).bind fun
          | .found status =>
              if status.kind = .directory then ensureComponents mode next rest
              else .done (notRealDirectory
                (ascii "path component is not a real directory: ") next)
          | .failed detail => .done (.error (makeError .generic
              (ascii "stat directory: " ++ detail)))
          | .missing => (mkdir next mode).bind fun
              | .failed detail => .done (.error (makeError .generic
                  (ascii "create directory: " ++ detail)))
              | _ => (lstat next).bind fun
                  | .found status =>
                      if status.kind = .directory then ensureComponents mode next rest
                      else .done (notRealDirectory
                        (ascii "created path component is not a real directory: ") next)
                  | _ => .done (notRealDirectory
                      (ascii "created path component is not a real directory: ") next)

/-- `ensureDirectory` on an absolute path. -/
def ensureDirectory (path : Path) (mode : Nat) : System (Result Unit) :=
  if path.isEmpty then
    .done (.error (makeError .generic (ascii "refusing to change root directory permissions")))
  else
    (ensureComponents mode [] path).andThen fun _ =>
    (chmod path mode).bind fun
      | .ok () => .done (.ok ())
      | .error detail => .done (.error (makeError .generic (ascii "chmod directory: " ++ detail)))

/-- The digest in front of the two blanks of a line of `sha256sum`. -/
def parseDigest (output : Bytes) : Result Bytes :=
  if findText (ascii "  ") output ≠ some 64 ∨ output.length < 64 then
    .error (makeError .generic (ascii "invalid sha256sum output"))
  else .ok (output.take 64)

def kSha256Timeout : Nat := 30000

def sha256Command (path : Path) (sha256sum : Bytes) : UtilityCommand where
  tool := .sha256sum path
  arguments := [sha256sum, ascii "--", path.text]
  timeout := kSha256Timeout

def sha256File (path : Path) (sha256sum : Bytes) : System (Result Bytes) :=
  (runCapture (sha256Command path sha256sum)).andThen fun output =>
  if output.exitCode ≠ 0 then
    .done (.error (makeError .generic (ascii "sha256sum failed: " ++ output.stderrText)))
  else .done (parseDigest output.stdoutText)

end TunProxy
