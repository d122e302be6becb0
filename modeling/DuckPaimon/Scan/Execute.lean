/-
The execution of a scan (paimon_scan.cpp): the global state with its shared split counter, the local
states that take splits from it, and the conversion of a batch to an output chunk.

What Paimon reads and how DuckDB converts an Arrow column are a parameter; a reader is the list of
what its `NextBatch` returns before the EOF batch.
-/
import DuckPaimon.Scan.Distributed

namespace DuckPaimon.Scan

open Outcome

/-! ## What the scan reads -/

/-- `STANDARD_VECTOR_SIZE`. -/
def standardVectorSize : Nat := 2048

/-- A non-null `ArrowArray` that is not released. -/
structure ArrowArray (Array : Type) where
  length : Nat
  children : List Array

/-- A batch that is not the EOF batch: its array and what `PopulateArrowTableSchema` makes of its
schema, unless they are null or released. -/
structure ReadBatch (Array : Type) where
  array : Option (ArrowArray Array)
  schema : Option (Except Exception ArrowTableSchema) := none

/-- The rows of a batch. -/
def ReadBatch.length {Array : Type} (batch : ReadBatch Array) : Nat :=
  match batch.array with
  | some array => array.length
  | none => 0

/-- What the `ReadContextBuilder` of a split is given. -/
structure ReadContext where
  path : String
  options : StringMap
  tableSchema : String
  readFieldIds : List Nat
  predicate : Option Predicate

/-- Paimon's readers and DuckDB's conversion of Arrow columns. -/
structure ReadLibrary (Split Array Cell : Type) where
  /-- `CreatePaimonScanSplits`. -/
  scanSplits : PaimonScanBindData Split → Except Exception (List Split)
  /-- `PredicateUtils::CreatePickedFieldFilter`. -/
  pickedFieldFilter : Predicate → SortedMap String Nat → Result (Option Predicate)
  /-- `ReadContextBuilder::Finish`, `TableRead::Create` and `CreateReader`. -/
  createReader : ReadContext → Split → Result (List (Result (ReadBatch Array)))
  /-- Whether `SetValidityMask` and `ColumnArrowToDuckDB` take a column of this many rows. -/
  convert : ArrowType → Array → Nat → Except Exception Unit
  /-- A row of the converted column. -/
  cell : ArrowType → Array → Nat → Cell

variable {Split Array Cell : Type} (lib : ReadLibrary Split Array Cell) (bind : PaimonScanBindData Split)

/-! ## Global state -/

/-- `PaimonScanGlobalState`. -/
structure PaimonScanGlobalState (Split : Type) where
  splits : List Split
  splitIndex : Nat := 0
  path : String
  arrowTable : ArrowTableSchema := {}
  paimonPredicates : Option Predicate := none
  distributedWorker : Bool := false

/-- The positions of the projected columns by name. -/
def columnIdsMapping (names : List String) : Nat → List Nat → Except Exception (SortedMap String Nat)
  | _, [] => return .empty
  | position, columnId :: columnIds =>
    match names[columnId]? with
    | none => throw (.internal ("Attempted to access index " ++ toString columnId ++ " within vector of size " ++
        toString names.length))
    | some name => do
      let rest ← columnIdsMapping names (position + 1) columnIds
      -- the first position of a name stays
      return rest.insert name position

/-- The predicates of the bind, against the projected columns. -/
def remapPredicates (columnIds : List Nat) : Except Exception (Option Predicate) :=
  match bind.predicates with
  | none => return none
  | some predicates => do
    let mapping ← columnIdsMapping bind.arrowTable.names 0 columnIds
    Result.orIO (lib.pickedFieldFilter predicates mapping)

/-- The splits of a scan; a worker reads those it was assigned. -/
def initialSplits : Except Exception (List Split) :=
  if bind.distributed.phase = .workerAssigned then return bind.distributed.assignedSplits else lib.scanSplits bind

/-- `PaimonScanInitGlobal`. -/
def paimonScanInitGlobal (columnIds : List Nat) : Except Exception (PaimonScanGlobalState Split) := do
  match bind.distributed.phase with
  | .distributedCoordinator =>
    throw (.invalidInput "A distributed Paimon coordinator scan cannot execute on a worker")
  | .workerTemplate =>
    throw (.invalidInput "A distributed Paimon worker scan requires an explicit split assignment")
  | .coordinator | .workerAssigned =>
    let distributedWorker := bind.distributed.phase = .workerAssigned
    let paimonPredicates ← remapPredicates lib bind columnIds
    let splits ← initialSplits lib bind
    throwIf (bind.debugExpectedSplits.any fun expected => splits.length ≠ expected.toNat)
      (.invalidInput ("Paimon scan planned " ++ toString splits.length ++ " split(s), expected " ++
        toString (bind.debugExpectedSplits.getD 0).toNat))
    return { splits, path := bind.tableDataPath, paimonPredicates, distributedWorker
             arrowTable := if distributedWorker then {} else bind.arrowTable }

/-! ## Local states -/

/-- `PaimonScanLocalState`: the projected columns, and what its reader still returns. -/
structure PaimonScanLocalState (Array : Type) where
  readColumnIds : List Nat
  batchReader : List (Result (ReadBatch Array)) := []
  exhausted : Bool := false

/-- A split that is opened, with its number and the context it is read in. -/
structure OpenedSplit where
  index : Nat
  context : ReadContext

/-- A procedure of a local state. -/
abbrev ScanProc (Split Array α : Type) :=
  Proc Exception OpenedSplit (PaimonScanGlobalState Split × PaimonScanLocalState Array) α

/-- `COLUMN_IDENTIFIER_ROW_ID`. -/
def columnIdentifierRowId : Nat := 18446744073709551615

/-- The columns the projected ids are checked against. -/
def columnCount : Nat :=
  if bind.distributed.phase = .workerAssigned then bind.distributed.returnTypes.length
  else bind.arrowTable.columns.length

/-- The `read_column_ids` of a local state. -/
def readColumnIds (columnIds : List Nat) : Except Exception (List Nat) :=
  columnIds.mapM fun columnId => do
    throwIf (columnId = columnIdentifierRowId) (.invalidInput "Paimon tables do not support selecting rowid")
    throwIf (columnId ≥ columnCount bind)
      (.invalidInput ("Invalid projected column id " ++ toString columnId ++ " for paimon scan"))
    -- `NumericCast<int>`
    throwIf (columnId > 2147483647) (.internal ("Information loss on integer cast: value " ++ toString columnId ++
      " outside of target range [-2147483648, 2147483647]"))
    return columnId

/-- The context a split is read in. -/
def readContext (global : PaimonScanGlobalState Split) (readColumnIds : List Nat) : ReadContext where
  path := global.path
  options := bind.paimonOptions
  tableSchema := bind.tableSchemaJson
  readFieldIds := readColumnIds
  predicate := global.paimonPredicates

/-- `NextSplit`. -/
def nextSplit : ScanProc Split Array Bool := do
  let state ← Proc.get
  let index := state.1.splitIndex
  Proc.modify fun state => ({ state.1 with splitIndex := state.1.splitIndex + 1 }, state.2)
  match state.1.splits[index]? with
  | none => do
    Proc.modify fun state => (state.1, { state.2 with exhausted := true })
    return false
  | some split => do
    let context := readContext bind state.1 state.2.readColumnIds
    Proc.call ⟨index, context⟩
    let batchReader ← Proc.ofExcept (Result.orIO (lib.createReader context split))
    Proc.modify fun state => (state.1, { state.2 with batchReader })
    return true

/-- The loop of `NextBatch`; a round that goes on has taken a split. -/
def nextBatchLoop : Nat → ScanProc Split Array (Option (ReadBatch Array))
  | 0 => return none
  | rounds + 1 => do
    let state ← Proc.get
    if state.2.exhausted = true then return none
    else match state.2.batchReader with
      | .error status :: _ => throw (.io status.text)
      | .ok batch :: rest => do
        Proc.modify fun state => (state.1, { state.2 with batchReader := rest })
        return some batch
      | [] => do
        let more ← nextSplit lib bind
        if more = true then nextBatchLoop rounds else return none

/-- `NextBatch`: the next batch, or none when it is the EOF batch. -/
def nextBatch : ScanProc Split Array (Option (ReadBatch Array)) := do
  let state ← Proc.get
  nextBatchLoop lib bind (state.1.splits.length - state.1.splitIndex + 1)

/-! ## Output -/

/-- A `DataChunk` that is filled: the columns give the cell of a row. -/
structure OutputChunk (Cell : Type) where
  cardinality : Nat := 0
  columns : List (Nat → Cell) := []

/-- The rows of a chunk. -/
def OutputChunk.rows (chunk : OutputChunk Cell) : List (List Cell) :=
  (List.range chunk.cardinality).map fun row => chunk.columns.map fun column => column row

/-- The Arrow types of the columns; a worker takes them from the batch, which must have one column
more than the output. -/
def arrowTypes (global : PaimonScanGlobalState Split) (outputColumns : Nat) (batch : ReadBatch Array) :
    Except Exception (List ArrowType) :=
  if global.distributedWorker = true then
    match batch.schema with
    | none => throw (.io "Distributed Paimon worker returned an invalid Arrow schema")
    | some populated =>
      match batch.array with
      | none => throw (.io "Distributed Paimon worker returned an invalid Arrow batch")
      | some array => do
        throwIf (array.children.length ≠ outputColumns + 1)
          (.io "Distributed Paimon worker returned an invalid Arrow batch")
        let workerArrowTable ← populated
        return workerArrowTable.columns
  else return global.arrowTable.columns

/-- The conversion of the projected columns, from a position; a column or type that is not there stands
for undefined behaviour. -/
def convertColumns (distributedWorker : Bool) (types : List ArrowType) (array : ArrowArray Array) (outputSize : Nat) :
    Nat → List Nat → Except Exception (List (Nat → Cell))
  | _, [] => return []
  | columnIndex, columnId :: columnIds => do
    -- the first column is ignored
    let typeIndex := if distributedWorker = true then columnIndex + 1 else columnId
    match array.children[columnIndex + 1]?, types[typeIndex]? with
    | some child, some type => do
      lib.convert type child outputSize
      let rest ← convertColumns distributedWorker types array outputSize (columnIndex + 1) columnIds
      return lib.cell type child :: rest
    | _, _ => throw (.internal "Attempted to access a column outside of the batch")

/-- The output a batch is converted to. -/
def fillChunk (global : PaimonScanGlobalState Split) (readColumnIds : List Nat) (batch : ReadBatch Array) :
    Except Exception (OutputChunk Cell) := do
  let types ← arrowTypes global readColumnIds.length batch
  match batch.array with
  | none => throw (.internal "Attempted to dereference unique_ptr that is NULL!")
  | some array => do
    let outputSize := min standardVectorSize array.length
    let columns ← convertColumns lib global.distributedWorker types array outputSize 0 readColumnIds
    return { cardinality := outputSize, columns }

/-- `PaimonScan` into an empty chunk. -/
def paimonScan : ScanProc Split Array (OutputChunk Cell) := do
  let batch ← nextBatch lib bind
  match batch with
  | none => return {}
  | some batch => do
    let state ← Proc.get
    Proc.ofExcept (fillChunk lib state.1 state.2.readColumnIds batch)

/-- `PaimonScanInitLocal`, with the constructor of the local state. -/
def paimonScanInitLocal (columnIds : List Nat) :
    Proc Exception OpenedSplit (PaimonScanGlobalState Split) (PaimonScanLocalState Array) := do
  let ids ← Proc.ofExcept (readColumnIds bind columnIds)
  Proc.alloc { readColumnIds := ids } (nextSplit lib bind)

end DuckPaimon.Scan
