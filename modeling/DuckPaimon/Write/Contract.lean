/-
What Vane and Paimon hand to the distributed write: the contract of a registered write operator,
task results with their fragments, and the codec of commit messages.
-/
import DuckPaimon.Lib.Code
import DuckPaimon.Write.Transport
import Mathlib.Data.UInt

namespace DuckPaimon.Write

open Outcome

/-! ## The contract of a write operator -/

/-- `DistributedWriteMode`. -/
inductive DistributedWriteMode
  | callbackSink
  | other (value : UInt8)
  deriving DecidableEq, Repr

/-- An extension's capability: its name and protocol version, under the extension's name. -/
structure ExtensionCapability where
  extensionName : String
  name : String
  protocolVersion : UInt32
  deriving DecidableEq, Repr

/-- The codec of the fragments a worker returns. -/
structure FragmentCodec where
  name : String
  version : UInt32
  deriving DecidableEq, Repr

/-- `DistributedExtensionWriteInfo`: a write operator as it is registered, with a worker's bind. -/
structure DistributedExtensionWriteInfo where
  mode : DistributedWriteMode
  capability : ExtensionCapability
  fragmentCodec : FragmentCodec
  /-- `Name()`. -/
  name : String
  workerBindData : String
  deriving DecidableEq, Repr

/-- `PAIMON_DISTRIBUTED_WRITE_FRAGMENT_CODEC`. -/
def writeFragmentCodec : String := "paimon.append-commit-fragment"

/-- `ValidateResolvedInfo`. -/
def validateResolvedInfo (info : DistributedExtensionWriteInfo) (transport : InsertTransport) :
    Except Exception Unit := do
  let mismatch : Exception := .invalidInput
    "Distributed Paimon write coordinator contract does not match its registration"
  throwIf (info.mode ≠ .callbackSink ∨ info.capability.extensionName ≠ "paimon") mismatch
  let operatorName ← writeOperatorName transport.writeKind
  throwIf (info.capability.name ≠ operatorName ∨ info.capability.protocolVersion ≠ protocolVersion ∨
      info.fragmentCodec.name ≠ writeFragmentCodec ∨ info.fragmentCodec.version ≠ protocolVersion)
    mismatch

/-! ## Task results -/

/-- `DistributedWriteFragment`. -/
structure DistributedWriteFragment where
  fragmentId : String
  payload : String
  rowCount : UInt64
  byteCount : UInt64
  artifacts : List String := []
  deriving DecidableEq, Repr

/-- `DistributedWriteTaskResult`: what an attempt returned. -/
structure DistributedWriteTaskResult where
  queryId : String
  taskAttemptId : String
  capability : ExtensionCapability
  fragmentCodec : FragmentCodec
  fragments : List DistributedWriteFragment
  deriving DecidableEq, Repr

/-- Vane's own checks and counts. -/
structure Vane where
  /-- `DistributedWriteTaskContext::Validate`. -/
  validateTask : DistributedWriteTaskContext → Except Exception Unit
  /-- `DistributedWriteTaskResult::Validate`. -/
  validateResult : DistributedWriteTaskResult → Except Exception Unit
  /-- `DistributedWriteTaskResult::RowCount`. -/
  rowCount : DistributedWriteTaskResult → UInt64
  /-- `DistributedWriteTaskResult::ByteCount`. -/
  byteCount : DistributedWriteTaskResult → UInt64

/-- Vane without checks of its own, counting what the fragments say. -/
def Vane.counting : Vane where
  validateTask _ := .ok ()
  validateResult _ := .ok ()
  rowCount result := (result.fragments.map (·.rowCount)).sum
  byteCount result := (result.fragments.map (·.byteCount)).sum

/-- The codec of `paimon::CommitMessage`; a decoded list may hold null entries. -/
structure MessageCodec (Message : Type) where
  /-- `CommitMessage::CurrentVersion`. -/
  currentVersion : Int32
  /-- `CommitMessage::Serialize`. -/
  serialize : Message → Result String
  /-- `CommitMessage::SerializeList`. -/
  serializeList : List Message → Result String
  /-- `CommitMessage::DeserializeList` of a version. -/
  deserializeList : Int32 → String → Result (List (Option Message))

/-- Texts as messages. -/
def MessageCodec.text (currentVersion : Int32) : MessageCodec String where
  currentVersion
  serialize message := .ok message
  serializeList messages := .ok (String.ofList (Code.string.list.write messages))
  deserializeList _ bytes :=
    match Code.string.list.read bytes.toList with
    | some (messages, _) => .ok (messages.map some)
    | none => .error { text := "Invalid: commit messages end early" }

end DuckPaimon.Write
