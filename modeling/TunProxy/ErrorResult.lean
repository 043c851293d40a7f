import TunProxy.ByteText

/-!
# Results and log levels

The result type that every fallible function of TunProxy returns, with the
error codes of `result.hpp` and the log levels of `log.hpp`.
-/

namespace TunProxy

open ByteText

inductive ErrorCode
  | generic
  | invalidArguments
  | insufficientPrivileges
  | invalidConfiguration
  | upstreamUnreachable
  | coreVerificationFailure
  | coreDownloadFailure
  | coreStartFailure
  | stateError
  deriving DecidableEq, Repr

structure Error where
  code : ErrorCode
  message : Bytes
  deriving DecidableEq, Repr

abbrev Result (α : Type) : Type :=
  Except Error α

theorem eq_ok_of_toOption {ε α : Type} {result : Except ε α} {value : α}
    (same : result.toOption = some value) : result = .ok value := by
  cases result with
  | error failure => cases same
  | ok found => exact congrArg _ (Option.some.inj same)

def makeError (code : ErrorCode) (message : Bytes) : Error :=
  ⟨code, message⟩

inductive LogLevel
  | info
  | warning
  | progress
  deriving DecidableEq, Repr

end TunProxy
