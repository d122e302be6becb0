/-
`paimon_snapshots` (paimon_snapshots.cpp): the rows that are resolved when the function is bound, their way to
other hosts, and the chunks an execution puts out.
-/
import DuckPaimon.Scan.TimeTravel

namespace DuckPaimon.Scan

open Outcome

/-! ## The bind -/

/-- `paimon::SnapshotInfo`, with the text of its commit kind. -/
structure SnapshotInfo where
  snapshotId : Int64
  schemaId : Int64
  commitUser : String
  /-- `CommitKindToString`. -/
  commitKind : String
  timeMillis : Int64
  totalRecordCount : Option Int64
  deltaRecordCount : Option Int64
  watermark : Option Int64

/-- `SnapshotTypes`. -/
def snapshotTypes : List LogicalType :=
  [{ id := .bigint }, { id := .bigint }, { id := .varchar }, { id := .varchar }, { id := .timestamp },
    { id := .bigint }, { id := .bigint }, { id := .bigint }]

/-- `Value::BIGINT`, and the NULL of its type. -/
def bigintValue (value : Option Int64) : Value := ⟨{ id := .bigint }, value.map fun value => .int value.toInt⟩

/-- The row of a snapshot. -/
def snapshotRow (snapshot : SnapshotInfo) : List Value :=
  [bigintValue (some snapshot.snapshotId), bigintValue (some snapshot.schemaId),
    ⟨{ id := .varchar }, some (.string snapshot.commitUser)⟩, ⟨{ id := .varchar }, some (.string snapshot.commitKind)⟩,
    -- the product of milliseconds wraps around
    ⟨{ id := .timestamp }, some (.int (snapshot.timeMillis * 1000).toInt)⟩,
    bigintValue snapshot.totalRecordCount, bigintValue snapshot.deltaRecordCount, bigintValue snapshot.watermark]

/-- `PaimonSnapshotsBindData`. -/
structure PaimonSnapshotsBindData where
  rows : List (List Value)
  deriving DecidableEq

/-- What Paimon replies to the bind. -/
structure SnapshotsReplies where
  /-- `paimon::Catalog::Create`. -/
  create : String → StringMap → Result Unit
  listSnapshots : Result (List SnapshotInfo)

/-- `PaimonSnapshotsBind`. -/
def paimonSnapshotsBind (host : BindHost) (replies : SnapshotsReplies) (inputs : List String)
    (namedParameters : NamedParameters) : Except Exception PaimonSnapshotsBindData := do
  let path ← PaimonTablePath.parse inputs
  createPaimonCatalog host.toOptionsHost replies.create path.warehouse (host.walk namedParameters.entries)
  let snapshots ← replies.listSnapshots.orIO
  return ⟨snapshots.map snapshotRow⟩

/-! ## Its transport -/

/-- How DuckDB writes and reads rows of values as a property. -/
abbrev RowsCodec := PropertyCodec Unit (fun _ => List (List Value)) Exception

/-- `PaimonSnapshotsBindData::Serialize`. -/
def PaimonSnapshotsBindData.serialize (codec : RowsCodec) (bind : PaimonSnapshotsBindData) : List String :=
  [codec.write () 100 "rows" bind.rows]

/-- The loop over the columns of a row. -/
def validateColumns : List (Value × LogicalType) → Except Exception Unit
  | [] => return ()
  | (value, type) :: columns => do
    throwIf (value.type ≠ type) (.serialization "Paimon snapshot row has an invalid column type")
    validateColumns columns

/-- The loop over the rows. -/
def validateRows (types : List LogicalType) : List (List Value) → Except Exception Unit
  | [] => return ()
  | row :: rows => do
    throwIf (row.length ≠ types.length) (.serialization "Paimon snapshot row has an invalid column count")
    validateColumns (row.zip types)
    validateRows types rows

/-- `PaimonSnapshotsBindData::Deserialize`. -/
def PaimonSnapshotsBindData.deserialize (codec : RowsCodec) : Deserializer PaimonSnapshotsBindData := do
  let rows ← codec.readProperty () 100 "rows"
  validateRows snapshotTypes rows
  return ⟨rows⟩

/-- A bind is serialized on one host and deserialized on another. -/
def shipSnapshots (codec : RowsCodec) (bind : PaimonSnapshotsBindData) : Except Exception PaimonSnapshotsBindData := do
  let (bind, _) ← (PaimonSnapshotsBindData.deserialize codec).run (codec.object (bind.serialize codec))
  return bind

/-! ## The execution -/

/-- The loop of `PaimonSnapshotsExecute`: with room for this many rows, from the current row. -/
def fillSnapshots (rows : List (List Value)) : Nat → Nat → List (List Value) × Nat
  | 0, currentRow => ([], currentRow)
  | room + 1, currentRow =>
    match rows[currentRow]? with
    | none => ([], currentRow)
    | some row =>
      let (output, currentRow) := fillSnapshots rows room (currentRow + 1)
      (row :: output, currentRow)

/-- `PaimonSnapshotsExecute`: the rows of the chunk and the row behind them. -/
def paimonSnapshotsExecute (bind : PaimonSnapshotsBindData) (currentRow : Nat) : List (List Value) × Nat :=
  fillSnapshots bind.rows standardVectorSize currentRow

/-- A bind on a host, with `PaimonSnapshotsGlobalState` of an execution that has begun. -/
structure SnapshotsState where
  bind : PaimonSnapshotsBindData
  currentRow : Option Nat := none

/-- What is done with the bind: it is shipped, an execution begins (again), or puts out a chunk. -/
inductive SnapshotsMove
  | ship
  | initGlobal
  | execute (output : List (List Value))

/-- The chunks of the last execution that has begun, after a further move. -/
def addMove (chunks : List (List (List Value))) : SnapshotsMove → List (List (List Value))
  | .execute output => chunks ++ [output]
  | .initGlobal => []
  | .ship => []

/-- The chunks of the last execution that has begun. -/
def chunksOf (moves : List SnapshotsMove) : List (List (List Value)) := moves.foldl addMove []

theorem chunksOf_snoc (moves : List SnapshotsMove) (move : SnapshotsMove) :
    chunksOf (moves ++ [move]) = addMove (chunksOf moves) move := by
  unfold chunksOf
  rw [List.foldl_concat]

section Run

variable (codec : RowsCodec)

inductive SnapshotsStep (s : SnapshotsState) : SnapshotsMove → SnapshotsState → Prop
  | ship {bind : PaimonSnapshotsBindData} (h : shipSnapshots codec s.bind = .ok bind) : SnapshotsStep s .ship { bind }
  | initGlobal : SnapshotsStep s .initGlobal { s with currentRow := some 0 }
  | execute {currentRow : Nat} (h : s.currentRow = some currentRow) :
      SnapshotsStep s (.execute (paimonSnapshotsExecute s.bind currentRow).1)
        { s with currentRow := some (paimonSnapshotsExecute s.bind currentRow).2 }

/-! ## What an execution puts out -/

/-- A chunk is the next rows, as many as there is room for. -/
theorem fillSnapshots_eq (rows : List (List Value)) (room currentRow : Nat) (h : currentRow ≤ rows.length) :
    fillSnapshots rows room currentRow = ((rows.drop currentRow).take room, min (currentRow + room) rows.length) := by
  induction room generalizing currentRow with
  | zero => simp [fillSnapshots, h]
  | succ room ih =>
    unfold fillSnapshots
    cases hrow : rows[currentRow]? with
    | none =>
      -- behind the last row
      have hend := List.getElem?_eq_none_iff.1 hrow
      have hlast : currentRow = rows.length := by omega
      simp [hlast]
    | some row =>
      obtain ⟨hlt, rfl⟩ := List.getElem?_eq_some_iff.1 hrow
      simp only
      rw [ih (currentRow + 1) hlt, List.drop_eq_getElem_cons hlt, List.take_succ_cons]
      congr 1
      omega

theorem validateColumns_zip (row : List Value) :
    validateColumns (row.zip (row.map Value.type)) = .ok () := by
  induction row with
  | nil => rfl
  | cons value row ih =>
    rw [List.map_cons, List.zip_cons_cons, validateColumns, throwIf_bind_eq_ok]
    exact ⟨not_not.2 rfl, ih⟩

theorem types_snapshotRow (snapshot : SnapshotInfo) : (snapshotRow snapshot).map Value.type = snapshotTypes := rfl

/-- Every resolved row has the columns that are checked for. -/
theorem validateRows_snapshotRow (snapshots : List SnapshotInfo) :
    validateRows snapshotTypes (snapshots.map snapshotRow) = .ok () := by
  induction snapshots with
  | nil => rfl
  | cons snapshot snapshots ih =>
    rw [List.map_cons, validateRows, throwIf_bind_eq_ok]
    refine ⟨not_not.2 rfl, bind_eq_ok.2 ⟨(), ?_, ih⟩⟩
    rw [← types_snapshotRow snapshot]
    exact validateColumns_zip _

variable {codec}

/-- Resolved rows arrive as they were. -/
theorem shipSnapshots_ok (lawful : codec.Lawful) {bind : PaimonSnapshotsBindData} {snapshots : List SnapshotInfo}
    (h : bind.rows = snapshots.map snapshotRow) : shipSnapshots codec bind = .ok bind := by
  have hread : (PaimonSnapshotsBindData.deserialize codec).run (codec.object (bind.serialize codec)) =
      .ok (bind, codec.object []) := by
    unfold PaimonSnapshotsBindData.deserialize PaimonSnapshotsBindData.serialize
    rw [lawful.readProperty_bind, PropertyCodec.run_liftM_bind, h, validateRows_snapshotRow, ← h]
    rfl
  unfold shipSnapshots
  rw [hread]
  rfl

/-- A bind holds the listed snapshots, and the execution is behind the rows it has put out. -/
structure Executing (snapshots : List SnapshotInfo) (moves : List SnapshotsMove) (s : SnapshotsState) : Prop where
  rows : s.bind.rows = snapshots.map snapshotRow
  output : (chunksOf moves).flatten =
    (snapshots.map snapshotRow).take (standardVectorSize * (chunksOf moves).length)
  fits : ∀ chunk ∈ chunksOf moves, chunk.length ≤ standardVectorSize
  current : ∀ currentRow, s.currentRow = some currentRow →
    currentRow = min (standardVectorSize * (chunksOf moves).length) snapshots.length

theorem Executing.step {snapshots : List SnapshotInfo} {moves : List SnapshotsMove} {s s' : SnapshotsState}
    {move : SnapshotsMove} (h : Executing snapshots moves s) (lawful : codec.Lawful)
    (hstep : SnapshotsStep codec s move s') : Executing snapshots (moves ++ [move]) s' := by
  cases hstep with
  | ship hship =>
    cases (shipSnapshots_ok lawful h.rows).symm.trans hship
    refine ⟨h.rows, ?_, ?_, ?_⟩ <;> rw [chunksOf_snoc]
    · simp [addMove]
    · simp [addMove]
    · intro currentRow hcurrent
      cases hcurrent
  | initGlobal =>
    refine ⟨h.rows, ?_, ?_, ?_⟩ <;> rw [chunksOf_snoc]
    · simp [addMove]
    · simp [addMove]
    · intro currentRow hcurrent
      cases hcurrent
      simp [addMove]
  | @execute currentRow hcurrent =>
    have hrow := h.current currentRow hcurrent
    have hlength : s.bind.rows.length = snapshots.length := by rw [h.rows, List.length_map]
    have hchunk : paimonSnapshotsExecute s.bind currentRow =
        ((s.bind.rows.drop currentRow).take standardVectorSize,
          min (currentRow + standardVectorSize) s.bind.rows.length) :=
      fillSnapshots_eq _ _ _ (by omega)
    -- behind k full chunks the next one starts at row k * 2048, or at the end
    rw [hchunk, h.rows]
    refine ⟨h.rows, ?_, ?_, ?_⟩ <;> rw [chunksOf_snoc, addMove]
    · rw [List.flatten_concat, h.output, List.length_append, List.length_singleton, Nat.mul_add, Nat.mul_one,
        List.take_add, hrow]
      congr 2
      -- the rows behind the last are none
      by_cases hend : standardVectorSize * (chunksOf moves).length ≤ snapshots.length
      · rw [Nat.min_eq_left hend]
      · rw [Nat.min_eq_right (by omega), List.drop_of_length_le (by simp), List.drop_of_length_le (by simp; omega)]
    · intro chunk hmem
      rcases List.mem_append.1 hmem with hmem | hmem
      · exact h.fits chunk hmem
      · cases List.mem_singleton.1 hmem
        exact List.length_take_le _ _
    · intro currentRow' hcurrent'
      cases hcurrent'
      simp only [List.length_append, List.length_singleton, List.length_map]
      rw [hrow, Nat.mul_add, Nat.mul_one]
      omega

/-- Over every order of shipping the bind and executing it, again and on whatever host: the rows are those that
were resolved when the function was bound, and the calls since an execution began have put out the first of
them, full chunks in order, until there are no more. -/
theorem snapshots_are_those_bound {host : BindHost} {replies : SnapshotsReplies} {inputs : List String}
    {namedParameters : NamedParameters} {bind : PaimonSnapshotsBindData} {moves : List SnapshotsMove}
    {s : SnapshotsState} (lawful : codec.Lawful)
    (bound : paimonSnapshotsBind host replies inputs namedParameters = .ok bind)
    (run : Run (SnapshotsStep codec) { bind } moves s) :
    ∃ snapshots, replies.listSnapshots = .ok snapshots ∧ s.bind.rows = snapshots.map snapshotRow ∧
      shipSnapshots codec s.bind = .ok s.bind ∧
      (chunksOf moves).flatten = (snapshots.map snapshotRow).take (standardVectorSize * (chunksOf moves).length) ∧
      ∀ chunk ∈ chunksOf moves, chunk.length ≤ standardVectorSize := by
  unfold paimonSnapshotsBind at bound
  obtain ⟨path, -, bound⟩ := bind_eq_ok.1 bound
  obtain ⟨-, -, bound⟩ := bind_eq_ok.1 bound
  obtain ⟨snapshots, hlisted, bound⟩ := bind_eq_ok.1 bound
  cases pure_eq_ok.1 bound
  have hexecuting : Executing snapshots moves s := by
    refine run.invariant (I := Executing snapshots) ⟨rfl, rfl, ?_, ?_⟩ fun h hstep => h.step lawful hstep
    · intro chunk hmem
      cases hmem
    · intro currentRow hcurrent
      cases hcurrent
  exact ⟨snapshots, Write.orIO_eq_ok.1 hlisted, hexecuting.rows, shipSnapshots_ok lawful hexecuting.rows,
    hexecuting.output, hexecuting.fits⟩

end Run

namespace Sample

/-- What is stored as a tag, a number and a text. -/
def storedParts : Option Stored → Nat × Nat × String
  | none => (0, 0, "")
  | some (.boolean b) => (1, b.toNat, "")
  | some (.int (.ofNat n)) => (2, n, "")
  | some (.int (.negSucc n)) => (3, n, "")
  | some (.float bits) => (4, bits.toNat, "")
  | some (.string s) => (5, 0, s)

def storedOfParts : Nat × Nat × String → Option (Option Stored)
  | (0, _, _) => some none
  | (1, n, _) => some (some (.boolean (n == 1)))
  | (2, n, _) => some (some (.int (.ofNat n)))
  | (3, n, _) => some (some (.int (.negSucc n)))
  | (4, n, _) => some (some (.float (UInt64.ofNat n)))
  | (5, _, s) => some (some (.string s))
  | _ => none

theorem storedOfParts_storedParts (stored : Option Stored) : storedOfParts (storedParts stored) = some stored := by
  rcases stored with _ | b | i | bits | s
  · rfl
  · cases b <;> rfl
  · cases i <;> rfl
  · simp [storedParts, storedOfParts]
  · rfl

/-- The code of a value: its type and what it stores. -/
def valueCode : Code Value :=
  (PropertyKind.typeCode.pair ((Code.nat.pair (Code.nat.pair Code.string)).along storedParts storedOfParts
    storedOfParts_storedParts)).along (fun value => (value.type, value.stored))
      (fun (type, stored) => some ⟨type, stored⟩) fun _ => rfl

/-- Rows of values behind a field id. -/
def rowsCodec : RowsCodec where
  write _ id _ rows := String.ofList ((Code.nat.pair valueCode.list.list).write (id, rows))
  endMark := binaryFormat.endMark
  read _ id name bytes :=
    match (Code.nat.pair valueCode.list.list).read bytes.toList with
    | some ((id', rows), rest) =>
      if id' = id then .ok (rows, String.ofList rest)
      else .error (.serialization ("Failed to deserialize: field id mismatch, expected: " ++ toString id ++ ", got: " ++
        toString id'))
    | none => .error (.serialization ("Failed to deserialize: no property " ++ name))
  readEnd := binaryFormat.readEnd

theorem rowsCodec_lawful : rowsCodec.Lawful where
  read_write _ id name rows rest := by
    unfold rowsCodec
    dsimp only
    rw [String.toList_append, String.toList_ofList, Code.read_write]
    dsimp only
    rw [if_pos rfl, String.ofList_toList]
  readEnd_endMark := binaryFormat_lawful.readEnd_endMark

def firstSnapshot : SnapshotInfo := ⟨1, 0, "duckdb", "APPEND", 1700000000000, some 2, some 2, none⟩

def snapshotsReplies : SnapshotsReplies where
  create _ _ := .ok ()
  listSnapshots := .ok [firstSnapshot]

theorem bound_firstSnapshot : paimonSnapshotsBind bindHost snapshotsReplies ["/wh", "db", "t"] .empty =
    .ok ⟨[snapshotRow firstSnapshot]⟩ := rfl

theorem run_firstSnapshot : Run (SnapshotsStep rowsCodec) { bind := ⟨[snapshotRow firstSnapshot]⟩ }
    [.ship, .initGlobal, .execute [snapshotRow firstSnapshot], .execute [], .initGlobal,
      .execute [snapshotRow firstSnapshot]] ⟨⟨[snapshotRow firstSnapshot]⟩, some 1⟩ := by
  have hship : shipSnapshots rowsCodec ⟨[snapshotRow firstSnapshot]⟩ = .ok ⟨[snapshotRow firstSnapshot]⟩ :=
    shipSnapshots_ok rowsCodec_lawful (show [snapshotRow firstSnapshot] = [firstSnapshot].map snapshotRow from rfl)
  have hfirst := @SnapshotsStep.execute rowsCodec ⟨⟨[snapshotRow firstSnapshot]⟩, some 0⟩ 0 rfl
  have hend := @SnapshotsStep.execute rowsCodec ⟨⟨[snapshotRow firstSnapshot]⟩, some 1⟩ 1 rfl
  exact (((((Run.nil.snoc (.ship hship)).snoc .initGlobal).snoc hfirst).snoc hend).snoc .initGlobal).snoc hfirst

/-- On another host, executed to the end and begun again. -/
theorem snapshots_are_those_bound_firstSnapshot :
    ∃ snapshots, snapshotsReplies.listSnapshots = .ok snapshots ∧
      [snapshotRow firstSnapshot] = snapshots.map snapshotRow ∧
      [[snapshotRow firstSnapshot]].flatten = (snapshots.map snapshotRow).take 2048 := by
  obtain ⟨snapshots, hlisted, hrows, -, houtput, -⟩ :=
    snapshots_are_those_bound rowsCodec_lawful bound_firstSnapshot run_firstSnapshot
  exact ⟨snapshots, hlisted, hrows, houtput⟩

end Sample

end DuckPaimon.Scan
