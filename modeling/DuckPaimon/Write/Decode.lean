/-
`DecodeCommitResults` (paimon_distributed_insert.cpp): the coordinator's loop over the task
results. It runs as a procedure over its accumulators, because what it has collected before it
throws is aborted by the caller.
-/
import DuckPaimon.Lib.Proc
import DuckPaimon.Write.Contract

namespace DuckPaimon.Write

open Outcome

/-- `PaimonDecodedDistributedCommit`. -/
structure DecodedCommit (Message : Type) where
  messages : List Message := []
  rowCount : UInt64 := 0

/-- The accumulators of the loop; a set is the list of the values inserted into it. -/
structure DecodeState (Message : Type) where
  queryId : String := ""
  duplicateLogicalTaskId : String := ""
  taskAttemptIds : List String := []
  logicalTaskIds : List String := []
  fragmentIds : List String := []
  canonicalMessages : List String := []
  decoded : DecodedCommit Message := {}

/-- The accumulators with another total of rows. -/
def DecodeState.setRowCount {Message : Type} (state : DecodeState Message) (rowCount : UInt64) :
    DecodeState Message :=
  { state with decoded := { state.decoded with rowCount } }

/-- A procedure over the accumulators. -/
abbrev Decode (Message : Type) := Proc Exception Empty (DecodeState Message)

/-- The comparisons of an envelope with its operation and its result, as the code rejects them. -/
def EnvelopeMismatch {Message : Type} (rt : Runtime) (vane : Vane) (codec : MessageCodec Message)
    (transport : InsertTransport) (expectedSerializedTransport : String) (result : DistributedWriteTaskResult)
    (fragment : DistributedWriteFragment) (envelope : CommitEnvelope) : Prop :=
  envelope.operationId ≠ transport.operationId ∨ envelope.tableUuid ≠ transport.tableUuid ∨
    envelope.tablePath ≠ transport.tablePath ∨ envelope.schemaFingerprint ≠ transport.schemaFingerprint ∨
    envelope.schemaId ≠ transport.schemaId ∨ envelope.hasSnapshot ≠ transport.hasSnapshot ∨
    envelope.snapshotId ≠ transport.snapshotId ∨ envelope.commitIdentifier ≠ transport.commitIdentifier ∨
    envelope.queryId ≠ result.queryId ∨ envelope.taskAttemptId ≠ result.taskAttemptId ∨
    envelope.writerCommitUser ≠
      workerCommitUser rt transport.operationId ⟨result.queryId, result.taskAttemptId⟩ ∨
    envelope.commitMessageVersion ≠ codec.currentVersion ∨
    envelope.serializedTransport ≠ expectedSerializedTransport ∨ envelope.rowCount ≠ fragment.rowCount ∨
    envelope.rowCount ≠ vane.rowCount result

instance {Message : Type} (rt : Runtime) (vane : Vane) (codec : MessageCodec Message) (transport : InsertTransport)
    (expected : String) (result : DistributedWriteTaskResult) (fragment : DistributedWriteFragment)
    (envelope : CommitEnvelope) :
    Decidable (EnvelopeMismatch rt vane codec transport expected result fragment envelope) :=
  inferInstanceAs (Decidable (_ ∨ _))

section Decode

variable {Message : Type} (rt : Runtime) (vane : Vane) (codec : MessageCodec Message)
  (info : DistributedExtensionWriteInfo) (transport : InsertTransport) (expectedSerializedTransport : String)

/-- The loop over the messages of a fragment. -/
def decodeMessages : List (Option Message) → Decode Message Unit
  | [] => pure ()
  | none :: _ =>
    throw (.invalidInput "Distributed Paimon INSERT commit fragment contains an empty message")
  | some message :: messages => do
    match codec.serialize message with
    | .error status =>
      throw (.invalidInput ("Failed to canonicalize distributed Paimon commit message: " ++ status.text))
    | .ok canonical =>
      let state ← Proc.get
      throwIf (canonical ∈ state.canonicalMessages)
        (.invalidInput "Distributed Paimon INSERT selected a duplicate commit message")
      Proc.modify fun state => { state with
        canonicalMessages := state.canonicalMessages ++ [canonical],
        decoded := { state.decoded with messages := state.decoded.messages ++ [message] } }
      decodeMessages messages

/-- The messages of a fragment's envelope, before they are looked at one by one. -/
def deserializeMessages (envelope : CommitEnvelope) : Except Exception (List (Option Message)) := do
  throwIf (envelope.serializedMessages.length > 2 ^ 31 - 1)
    (.invalidInput "Distributed Paimon INSERT commit fragment exceeds the Paimon codec limit")
  match codec.deserializeList envelope.commitMessageVersion envelope.serializedMessages with
  | .error status =>
    throw (.invalidInput ("Failed to deserialize distributed Paimon commit messages: " ++ status.text))
  | .ok messages =>
    throwIf (messages.length ≠ envelope.messageCount.toNat ∨ messages = [])
      (.invalidInput "Distributed Paimon INSERT commit-message count does not match its envelope")
    return messages

/-- The only fragment of a result, up to its messages. -/
def openFragment (result : DistributedWriteTaskResult) (fragment : DistributedWriteFragment) :
    Decode Message (CommitEnvelope × List (Option Message)) := do
  let metadataError : Exception := .invalidInput
    "Distributed Paimon INSERT task result has invalid fragment metadata"
  throwIf (fragment.fragmentId ≠ expectedFragmentId transport.operationId result.taskAttemptId) metadataError
  let state ← Proc.get
  Proc.modify fun state => { state with fragmentIds := state.fragmentIds ++ [fragment.fragmentId] }
  throwIf (fragment.fragmentId ∈ state.fragmentIds ∨ fragment.artifacts ≠ [] ∨ fragment.byteCount ≠ 0)
    metadataError
  let envelope ← Proc.ofExcept (deserializeCommitEnvelope rt fragment.payload)
  throwIf (EnvelopeMismatch rt vane codec transport expectedSerializedTransport result fragment envelope)
    (.invalidInput "Distributed Paimon INSERT commit fragment does not match its target or attempt")
  let messages ← Proc.ofExcept (deserializeMessages codec envelope)
  return (envelope, messages)

/-- The checks of a result before its fragments. -/
def enterResult (result : DistributedWriteTaskResult) : Decode Message Unit := do
  Proc.ofExcept (vane.validateResult result)
  throwIf (result.capability ≠ info.capability ∨ result.fragmentCodec ≠ info.fragmentCodec)
    (.invalidInput "Distributed Paimon INSERT task result does not match its coordinator contract")
  let state ← Proc.get
  throwIf (state.queryId ≠ "" ∧ state.queryId ≠ result.queryId)
    (.invalidInput "Distributed Paimon INSERT selected results have inconsistent query identities")
  Proc.modify fun state => { state with queryId := result.queryId }
  throwIf (result.taskAttemptId ∈ state.taskAttemptIds)
    (.invalidInput
      ("Distributed Paimon INSERT selected task attempt '" ++ result.taskAttemptId ++ "' more than once"))
  Proc.modify fun state => { state with taskAttemptIds := state.taskAttemptIds ++ [result.taskAttemptId] }
  let logicalTaskId ← Proc.ofExcept (vaneLogicalTaskIdentity result.queryId result.taskAttemptId)
  -- a second attempt of a task is remembered here and rejected after the loop
  Proc.modify fun state => { state with
    duplicateLogicalTaskId :=
      if logicalTaskId ∈ state.logicalTaskIds ∧ state.duplicateLogicalTaskId = "" then logicalTaskId
      else state.duplicateLogicalTaskId,
    logicalTaskIds := state.logicalTaskIds ++ [logicalTaskId] }

/-- Adds the rows of an envelope to the total. -/
def addRowCount (rowCount : UInt64) : Decode Message Unit := do
  let state ← Proc.get
  let total ← Proc.ofExcept (checkedAdd state.decoded.rowCount rowCount "selected row count")
  Proc.modify fun state => state.setRowCount total

/-- The only fragment of a result with its messages and rows. -/
def decodeFragment (result : DistributedWriteTaskResult) (fragment : DistributedWriteFragment) :
    Decode Message Unit := do
  let contents ← openFragment rt vane codec transport expectedSerializedTransport result fragment
  decodeMessages codec contents.2
  addRowCount contents.1.rowCount

/-- The fragments of a result: none, or one. -/
def decodeFragments (result : DistributedWriteTaskResult) : Decode Message Unit :=
  match result.fragments with
  | [] =>
    throwIf (vane.rowCount result ≠ 0 ∨ vane.byteCount result ≠ 0)
      (.invalidInput "Empty distributed Paimon INSERT task result has non-zero counts")
  | [fragment] => decodeFragment rt vane codec transport expectedSerializedTransport result fragment
  | _ =>
    throw (.invalidInput "Distributed Paimon INSERT task result must contain at most one commit fragment")

/-- The body of the loop over the results. -/
def decodeResult (result : DistributedWriteTaskResult) : Decode Message Unit := do
  enterResult vane info result
  decodeFragments rt vane codec transport expectedSerializedTransport result

/-- The loop over the results. -/
def decodeResults : List DistributedWriteTaskResult → Decode Message Unit
  | [] => pure ()
  | result :: results => do
    decodeResult rt vane codec info transport expectedSerializedTransport result
    decodeResults results

/-- The check behind the loop: no logical task was selected in two attempts. -/
def rejectDuplicateTask : Decode Message Unit := do
  let state ← Proc.get
  throwIf (state.duplicateLogicalTaskId ≠ "")
    (.invalidInput ("Distributed Paimon INSERT selected multiple attempts for Vane logical task '" ++
      state.duplicateLogicalTaskId ++ "'"))

/-- `DecodeCommitResults`. -/
def decodeCommitResults (results : List DistributedWriteTaskResult) : Decode Message Unit := do
  Proc.ofExcept (validateResolvedInfo info transport)
  let expectedSerializedTransport ← Proc.ofExcept (serializeTransport rt transport)
  decodeResults rt vane codec info transport expectedSerializedTransport results
  rejectDuplicateTask

end Decode

end DuckPaimon.Write
