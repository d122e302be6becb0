/-
Identities in a distributed write (paimon_distributed_insert.cpp): the identity of a Vane logical
task, and the commit user, data file prefix and fragment id derived from an attempt of it.
-/
import DuckPaimon.Lib.Getline
import DuckPaimon.Runtime

namespace DuckPaimon.Write

/-- `DistributedWriteTaskContext`: an attempt of a task of a query. -/
structure DistributedWriteTaskContext where
  queryId : String
  taskAttemptId : String
  deriving DecidableEq, Repr

/-! ## Logical tasks -/

/-- `StringUtil::CharacterIsDigit`. -/
def characterIsDigit (character : Char) : Bool := '0' ≤ character && character ≤ '9'

/-- `ValidateVaneTaskIdentityComponent`: a canonical decimal number. -/
def validateVaneTaskIdentityComponent (component : List Char) (description : String) : Except Exception Unit :=
  if component.isEmpty || (1 < component.length && component.head? == some '0') then
    throw (.invalidInput ("Distributed Paimon INSERT has an invalid Vane " ++ description))
  else if component.all characterIsDigit then
    return ()
  else
    throw (.invalidInput ("Distributed Paimon INSERT has an invalid Vane " ++ description))

/-- `VaneLogicalTaskIdentity`: the query, fragment execution and partition of an attempt
`query.fragment.partition.attempt`. -/
def vaneLogicalTaskIdentity (queryId taskAttemptId : String) : Except Exception String :=
  let leading := queryId ++ "."
  if queryId.isEmpty || !leading.toList.isPrefixOf taskAttemptId.toList then
    throw (.invalidInput "Distributed Paimon INSERT task attempt does not match its Vane query identity")
  else
    match Getline.pieces '.' (taskAttemptId.toList.drop leading.length) with
    | [fragment, partition, attempt] => do
      validateVaneTaskIdentityComponent fragment "fragment execution identity"
      validateVaneTaskIdentityComponent partition "task partition identity"
      validateVaneTaskIdentityComponent attempt "task attempt identity"
      return leading ++ String.ofList fragment ++ "." ++ String.ofList partition
    | _ => throw (.invalidInput "Distributed Paimon INSERT has an invalid Vane task attempt identity")

/-- The attempt id of a query's fragment execution, task partition and attempt. -/
def attemptId (queryId : String) (fragment partition attempt : List Char) : String :=
  queryId ++ "." ++ String.ofList fragment ++ "." ++ String.ofList partition ++ "." ++ String.ofList attempt

/-- Accepted attempts with the same fragment execution and partition numbers have one identity. -/
theorem vaneLogicalTaskIdentity_attemptId {queryId identity : String} {fragment partition attempt : List Char}
    (hfragment : '.' ∉ fragment) (hpartition : '.' ∉ partition)
    (h : vaneLogicalTaskIdentity queryId (attemptId queryId fragment partition attempt) = .ok identity) :
    identity = queryId ++ "." ++ String.ofList fragment ++ "." ++ String.ofList partition := by
  unfold vaneLogicalTaskIdentity attemptId at h
  dsimp only at h
  split at h
  · cases h
  · have hdrop : (queryId ++ "." ++ String.ofList fragment ++ "." ++ String.ofList partition ++ "." ++
        String.ofList attempt).toList.drop (queryId ++ ".").length =
          fragment ++ '.' :: (partition ++ '.' :: attempt) := by
      have hlength : (queryId ++ ".").length = (queryId ++ ".").toList.length := (String.length_toList).symm
      have htext : queryId ++ "." ++ String.ofList fragment ++ "." ++ String.ofList partition ++ "." ++
          String.ofList attempt = (queryId ++ ".") ++ (String.ofList fragment ++ ("." ++
            (String.ofList partition ++ ("." ++ String.ofList attempt)))) := by
        simp only [String.append_assoc]
      rw [hlength, htext, String.toList_append (s := queryId ++ "."), List.drop_left]
      simp only [String.toList_append, String.toList_ofList]
      rfl
    rw [hdrop, Getline.pieces_append hfragment, Getline.pieces_append hpartition] at h
    split at h
    · rename_i heq
      obtain ⟨rfl, rfl, -⟩ : _ ∧ _ ∧ _ := by simpa using heq
      obtain ⟨_, _, h⟩ := Outcome.bind_eq_ok.1 h
      obtain ⟨_, _, h⟩ := Outcome.bind_eq_ok.1 h
      obtain ⟨_, _, h⟩ := Outcome.bind_eq_ok.1 h
      exact (Outcome.pure_eq_ok.1 h).symm
    · cases h

/-- An accepted attempt is one of a fragment execution and a partition of its query. -/
theorem exists_attemptId {queryId taskAttemptId identity : String}
    (h : vaneLogicalTaskIdentity queryId taskAttemptId = .ok identity) :
    ∃ fragment partition attempt : List Char, '.' ∉ fragment ∧ '.' ∉ partition ∧
      taskAttemptId = attemptId queryId fragment partition attempt := by
  unfold vaneLogicalTaskIdentity at h
  dsimp only at h
  split at h
  · cases h
  · rename_i hguard
    rw [Bool.or_eq_true, not_or, Bool.not_eq_true', Bool.not_eq_false, List.isPrefixOf_iff_prefix] at hguard
    obtain ⟨tail, htail⟩ := hguard.2
    have hdrop : taskAttemptId.toList.drop (queryId ++ ".").length = tail := by
      rw [← htail, ← String.length_toList, List.drop_left]
    rw [hdrop] at h
    split at h
    · rename_i fragment partition attempt hpieces
      obtain ⟨rest, rfl, hrest⟩ := Getline.pieces_eq_cons hpieces (List.cons_ne_nil _ _)
      obtain ⟨rest', rfl, hrest'⟩ := Getline.pieces_eq_cons hrest (List.cons_ne_nil _ _)
      refine ⟨fragment, partition, rest', ?_, ?_, ?_⟩
      · exact Getline.not_mem_of_mem_pieces (hpieces ▸ List.mem_cons_self ..)
      · exact Getline.not_mem_of_mem_pieces (hrest ▸ List.mem_cons_self ..)
      · rw [← String.toList_inj, ← htail]
        simp [attemptId, String.toList_append]
    · cases h
/-- An accepted attempt belongs to a query. -/
theorem queryId_ne_empty {queryId taskAttemptId identity : String}
    (h : vaneLogicalTaskIdentity queryId taskAttemptId = .ok identity) : queryId ≠ "" := by
  rintro rfl
  cases h

/-- The identity of a logical task has at least its separators. -/
theorem logicalTaskId_ne_empty {queryId taskAttemptId identity : String}
    (h : vaneLogicalTaskIdentity queryId taskAttemptId = .ok identity) : identity ≠ "" := by
  unfold vaneLogicalTaskIdentity at h
  dsimp only at h
  split at h
  · cases h
  · split at h
    · obtain ⟨_, _, h⟩ := Outcome.bind_eq_ok.1 h
      obtain ⟨_, _, h⟩ := Outcome.bind_eq_ok.1 h
      obtain ⟨_, _, h⟩ := Outcome.bind_eq_ok.1 h
      rw [← Outcome.pure_eq_ok.1 h]
      simp [String.append_eq_empty_iff]
    · cases h

/-! ## Names derived from an attempt -/

/-- `CompactUUID`: a UUID without its dashes. -/
def compactUUID (uuid : String) : String := String.ofList (uuid.toList.filter (· ≠ '-'))

/-- `AttemptDigest`. -/
def attemptDigest (rt : Runtime) (queryId taskAttemptId : String) : String :=
  rt.md5Hex (queryId ++ String.singleton (Char.ofNat 0) ++ taskAttemptId)

/-- `WorkerCommitUser` of the operation a transport carries. -/
def workerCommitUser (rt : Runtime) (operationId : String) (task : DistributedWriteTaskContext) : String :=
  "vane-" ++ compactUUID operationId ++ "-" ++ attemptDigest rt task.queryId task.taskAttemptId

/-- `WorkerDataFilePrefix` of the operation a transport carries. -/
def workerDataFilePrefix (rt : Runtime) (operationId : String) (task : DistributedWriteTaskContext) : String :=
  "vane_" ++ compactUUID operationId ++ "_" ++ attemptDigest rt task.queryId task.taskAttemptId

/-- `ExpectedFragmentId` in the operation a transport carries. -/
def expectedFragmentId (operationId taskAttemptId : String) : String := operationId ++ ":" ++ taskAttemptId

/-- `CreateCommitIdentifier`: a positive number from the hash of the operation id. -/
def createCommitIdentifier (rt : Runtime) (operationId : String) : Int64 :=
  let value := rt.hash operationId &&& 0x7fffffffffffffff
  (if value = 0 then 1 else value).toInt64

end DuckPaimon.Write
