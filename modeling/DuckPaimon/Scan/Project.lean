/-
Which fields of a table a projecting scan reads: the extension hands Paimon the positions of the
projected columns as field ids, so they are the fields asked for as long as no field was ever dropped
from in front of them.
-/
import Mathlib.Data.List.Nodup
import DuckPaimon.Scan.Execute

namespace DuckPaimon.Scan

open Outcome

/-! ## Table schemas -/

/-- A field of a table schema. -/
structure TableField where
  id : Nat
  name : String
  type : ArrowType
  deriving DecidableEq

/-- The fields of a table schema: ids are `int`s that grow, names are not repeated. -/
structure TableFields where
  fields : List TableField
  increasing : fields.Pairwise fun a b => a.id < b.id
  bounded : ∀ field ∈ fields, field.id ≤ 2147483647
  distinct : (fields.map TableField.name).Nodup

namespace TableFields

variable (schema : TableFields)

/-- The field of an id. -/
def byId (id : Nat) : Option TableField := schema.fields.find? fun field => field.id = id

/-- The fields at the projected positions. -/
def projected (columnIds : List Nat) : List TableField := columnIds.filterMap fun position => schema.fields[position]?

/-- Up to a position, every field has its position for id: none was dropped before it. -/
def NoGap (position : Nat) : Prop := ∀ q ≤ position, ∀ field, schema.fields[q]? = some field → field.id = q

variable {schema}

theorem byId_of_mem {field : TableField} (h : field ∈ schema.fields) : schema.byId field.id = some field := by
  have hnodup : (schema.fields.map TableField.id).Nodup :=
    List.pairwise_map.2 (schema.increasing.imp fun hlt => hlt.ne)
  unfold byId
  rcases hfind : schema.fields.find? fun other => other.id = field.id with _ | other
  · rw [List.find?_eq_none] at hfind
    exact absurd (decide_eq_true rfl) (hfind field h)
  · have hid : other.id = field.id := by simpa using List.find?_some hfind
    rw [hfind, List.inj_on_of_nodup_map hnodup (List.mem_of_find?_eq_some hfind) h hid]

/-- Ids grow at least as fast as positions. -/
theorem id_add_le {p q : Nat} {a b : TableField} (hq : schema.fields[q]? = some a) (hp : schema.fields[p]? = some b)
    (h : q ≤ p) : a.id + (p - q) ≤ b.id := by
  obtain ⟨d, rfl⟩ := Nat.exists_eq_add_of_le h
  clear h
  induction d generalizing b with
  | zero =>
    cases hq.symm.trans hp
    omega
  | succ d ih =>
    obtain ⟨hlt, hb⟩ := List.getElem?_eq_some_iff.1 hp
    have hprev : schema.fields[q + d]? = some schema.fields[q + d] := List.getElem?_eq_getElem (by omega)
    have hstep : schema.fields[q + d].id < schema.fields[q + (d + 1)].id :=
      List.pairwise_iff_getElem.1 schema.increasing _ _ _ _ (by omega)
    have hle := ih hprev
    rw [hb] at hstep
    omega

theorem position_le_id {p : Nat} {field : TableField} (h : schema.fields[p]? = some field) : p ≤ field.id := by
  have hlt := (List.getElem?_eq_some_iff.1 h).1
  have hfirst : schema.fields[0]? = some schema.fields[0] := List.getElem?_eq_getElem (by omega)
  have hle := id_add_le hfirst h (Nat.zero_le p)
  omega

/-- A field whose id is its position has no gap before it. -/
theorem noGap_iff {p : Nat} {field : TableField} (h : schema.fields[p]? = some field) : schema.NoGap p ↔ field.id = p := by
  constructor
  · intro hgap
    exact hgap p (Nat.le_refl p) field h
  · intro hid q hq other hother
    have hle := position_le_id hother
    have hadd := id_add_le hother h hq
    omega

end TableFields

/-! ## What a scan reads -/

section Projection

variable {Split Array Cell : Type}

/-- `SetReadFieldIds` selects the fields of the schema by their ids and ignores ids that are absent,
unless the reader is refused: behind its first column a batch has the data of the selected fields, with
their types. -/
def SelectsById (lib : ReadLibrary Split Array Cell) (schema : TableFields) (data : ReadBatch Array → TableField → Array) :
    Prop :=
  ∀ context split reader batch, lib.createReader context split = .ok reader → .ok batch ∈ reader →
    ∃ length kind names types kindType,
      batch.array = some ⟨length, kind :: (context.readFieldIds.filterMap schema.byId).map (data batch)⟩ ∧
      batch.schema =
        some (.ok ⟨names, types, kindType :: (context.readFieldIds.filterMap schema.byId).map TableField.type⟩)

/-- The scan of a table with these fields. -/
structure ScansTable (bind : PaimonScanBindData Split) (schema : TableFields) : Prop where
  count : columnCount bind = schema.fields.length
  columns : bind.distributed.phase ≠ .workerAssigned → bind.arrowTable.columns = schema.fields.map TableField.type

/-- The ids handed to `SetReadFieldIds` identify the projected fields in order, and every column of an
output chunk is the data of its field, decoded with the type of that field. -/
def ReadsProjected (bind : PaimonScanBindData Split) (schema : TableFields) (columnIds : List Nat) : Prop :=
  ∀ ids, readColumnIds bind columnIds = .ok ids →
    (∀ global, (readContext bind global ids).readFieldIds.map schema.byId =
      columnIds.map fun position => schema.fields[position]?) ∧
    ∀ (Array Cell : Type) (lib : ReadLibrary Split Array Cell) (data : ReadBatch Array → TableField → Array),
      SelectsById lib schema data → ∀ global, paimonScanInitGlobal lib bind columnIds = .ok global →
        ∀ split reader batch chunk, lib.createReader (readContext bind global ids) split = .ok reader →
          .ok batch ∈ reader → fillChunk lib global ids batch = .ok chunk →
            chunk.columns = (schema.projected columnIds).map fun field => lib.cell field.type (data batch field)

/-- The conversion takes the child behind the position of a column, and the type found for it. -/
theorem convertColumns_eq {lib : ReadLibrary Split Array Cell} {worker : Bool} {types : List ArrowType}
    {array : ArrowArray Array} {outputSize position : Nat} {columnIds : List Nat} {columns : List (Nat → Cell)}
    {fields : List TableField} {data : TableField → Array} (hlength : columnIds.length = fields.length)
    (hchild : ∀ j field, fields[j]? = some field → array.children[position + j + 1]? = some (data field))
    (htype : ∀ j columnId field, columnIds[j]? = some columnId → fields[j]? = some field →
      types[if worker = true then position + j + 1 else columnId]? = some field.type)
    (h : convertColumns lib worker types array outputSize position columnIds = .ok columns) :
    columns = fields.map fun field => lib.cell field.type (data field) := by
  induction columnIds generalizing position fields columns with
  | nil =>
    cases fields with
    | nil =>
      cases h
      rfl
    | cons field fields => cases hlength
  | cons columnId columnIds ih =>
    cases fields with
    | nil => cases hlength
    | cons field fields =>
      have hhead := hchild 0 field rfl
      have hheadType := htype 0 columnId field rfl rfl
      unfold convertColumns at h
      rw [Nat.add_zero] at hhead hheadType
      dsimp only at h
      rw [hhead, hheadType] at h
      obtain ⟨-, -, h⟩ := bind_eq_ok.1 h
      obtain ⟨rest, hrest, h⟩ := bind_eq_ok.1 h
      obtain rfl := pure_eq_ok.1 h
      refine congrArg _ (ih (Nat.succ.inj hlength) (fun j other hother => ?_) (fun j id other hid hother => ?_) hrest)
      · have hnext := hchild (j + 1) other hother
        rwa [show position + (j + 1) + 1 = position + 1 + j + 1 by omega] at hnext
      · have hnext := htype (j + 1) id other hid hother
        rwa [show position + (j + 1) + 1 = position + 1 + j + 1 by omega] at hnext

theorem readColumnIds_of_within {bind : PaimonScanBindData Split} {columnIds : List Nat}
    (h : ∀ p ∈ columnIds, p < columnCount bind ∧ p ≤ 2147483647) : readColumnIds bind columnIds = .ok columnIds := by
  unfold readColumnIds
  induction columnIds with
  | nil => rfl
  | cons p columnIds ih =>
    obtain ⟨⟨hcount, hint⟩, hrest⟩ := List.forall_mem_cons.1 h
    have hrow : p ≠ columnIdentifierRowId := by
      unfold columnIdentifierRowId
      omega
    rw [List.mapM_cons]
    refine bind_eq_ok.2 ⟨p, ?_, bind_eq_ok.2 ⟨columnIds, ih hrest, rfl⟩⟩
    exact throwIf_bind_eq_ok.2 ⟨hrow, throwIf_bind_eq_ok.2 ⟨not_le.2 hcount, throwIf_bind_eq_ok.2 ⟨not_lt.2 hint, rfl⟩⟩⟩

/-- What the conversion of a new scan depends on. -/
theorem paimonScanInitGlobal_worker {lib : ReadLibrary Split Array Cell} {bind : PaimonScanBindData Split}
    {columnIds : List Nat} {global : PaimonScanGlobalState Split} (h : paimonScanInitGlobal lib bind columnIds = .ok global) :
    (global.distributedWorker = true ↔ bind.distributed.phase = .workerAssigned) ∧
      (bind.distributed.phase ≠ .workerAssigned → global.arrowTable = bind.arrowTable) := by
  unfold paimonScanInitGlobal at h
  split at h
  · cases h
  · cases h
  all_goals
    obtain ⟨predicates, -, h⟩ := bind_eq_ok.1 h
    obtain ⟨splits, -, h⟩ := bind_eq_ok.1 h
    obtain ⟨-, h⟩ := throwIf_bind_eq_ok.1 h
    obtain rfl := pure_eq_ok.1 h
    exact ⟨decide_eq_true_iff, fun hphase => if_neg hphase⟩

/-- Where no position is outside of the schema, the projected fields are those at the positions. -/
theorem TableFields.projected_eq {schema : TableFields} {columnIds : List Nat}
    (h : ∀ p ∈ columnIds, p < schema.fields.length) :
    (schema.projected columnIds).map some = columnIds.map fun position => schema.fields[position]? := by
  unfold TableFields.projected
  induction columnIds with
  | nil => rfl
  | cons p columnIds ih =>
    obtain ⟨hp, hrest⟩ := List.forall_mem_cons.1 h
    have hfield : schema.fields[p]? = some schema.fields[p] := List.getElem?_eq_getElem hp
    rw [List.map_cons, List.filterMap_cons_some hfield, List.map_cons, ih hrest, hfield]

/-- A scan reads the projected columns exactly when no field was dropped in front of one of them. -/
theorem projection_exact_iff {bind : PaimonScanBindData Split} {schema : TableFields} {columnIds : List Nat}
    (hbind : ScansTable bind schema) (hwithin : ∀ p ∈ columnIds, p < schema.fields.length) :
    ReadsProjected bind schema columnIds ↔ ∀ p ∈ columnIds, schema.NoGap p := by
  have hfield (p : Nat) (hp : p ∈ columnIds) : schema.fields[p]? = some (schema.fields.get ⟨p, hwithin p hp⟩) :=
    List.getElem?_eq_getElem (hwithin p hp)
  have hids : readColumnIds bind columnIds = .ok columnIds := by
    refine readColumnIds_of_within fun p hp => ⟨hbind.count ▸ hwithin p hp, ?_⟩
    exact (TableFields.position_le_id (hfield p hp)).trans (schema.bounded _ (List.mem_of_getElem? (hfield p hp)))
  constructor
  · intro h p hp
    rw [TableFields.noGap_iff (hfield p hp)]
    -- the id that was handed over is the position
    have hidentified := List.map_inj_left.1 ((h columnIds hids).1 ⟨[], 0, "", {}, none, false⟩) p hp
    rw [hfield p hp] at hidentified
    simpa using List.find?_some hidentified
  · intro h ids hok
    cases hids.symm.trans hok
    have hbyId (p : Nat) (hp : p ∈ columnIds) : schema.byId p = schema.fields[p]? := by
      have hid := (TableFields.noGap_iff (hfield p hp)).1 (h p hp)
      have hmem := TableFields.byId_of_mem (List.mem_of_getElem? (hfield p hp))
      rw [hid] at hmem
      rw [hmem, hfield p hp]
    refine ⟨fun global => List.map_congr_left hbyId, fun Array Cell lib data hselects global hinit split reader batch chunk
      hcreate hbatch hfill => ?_⟩
    obtain ⟨length, kind, names, types, kindType, harray, hschema⟩ := hselects _ _ _ _ hcreate hbatch
    have hselected : columnIds.filterMap schema.byId = schema.projected columnIds := List.filterMap_congr hbyId
    have hreadIds : (readContext bind global columnIds).readFieldIds = columnIds := rfl
    rw [hreadIds, hselected] at harray hschema
    have hprojected := TableFields.projected_eq hwithin
    have hlength : columnIds.length = (schema.projected columnIds).length := by
      simpa using (congrArg List.length hprojected).symm
    have hat (j p : Nat) (field : TableField) (hp : columnIds[j]? = some p)
        (hj : (schema.projected columnIds)[j]? = some field) : schema.fields[p]? = some field := by
      have hsame := congrArg (fun xs => xs[j]?) hprojected
      rw [List.getElem?_map, List.getElem?_map, hp, hj] at hsame
      exact (Option.some.inj hsame).symm
    -- the chunk is filled from the columns behind the first one
    unfold fillChunk at hfill
    obtain ⟨types, htypes, hfill⟩ := bind_eq_ok.1 hfill
    rw [harray] at hfill
    obtain ⟨columns, hconvert, hfill⟩ := bind_eq_ok.1 hfill
    obtain rfl := pure_eq_ok.1 hfill
    refine convertColumns_eq hlength (fun j field hj => ?_) (fun j p field hp hj => ?_) hconvert
    · rw [Nat.zero_add, List.getElem?_cons_succ, List.getElem?_map, hj]
      rfl
    · obtain ⟨hworker, htable⟩ := paimonScanInitGlobal_worker hinit
      unfold arrowTypes at htypes
      by_cases hphase : bind.distributed.phase = .workerAssigned
      · -- a worker finds the types in the batch
        rw [if_pos (hworker.2 hphase), hschema, harray] at htypes
        obtain ⟨-, htypes⟩ := throwIf_bind_eq_ok.1 htypes
        obtain ⟨table, htable, htypes⟩ := bind_eq_ok.1 htypes
        cases htable
        obtain rfl := pure_eq_ok.1 htypes
        rw [if_pos (hworker.2 hphase), Nat.zero_add, List.getElem?_cons_succ, List.getElem?_map, hj]
        rfl
      · have hnot : ¬ global.distributedWorker = true := fun h => hphase (hworker.1 h)
        rw [if_neg hnot, htable hphase, hbind.columns hphase] at htypes
        obtain rfl := pure_eq_ok.1 htypes
        rw [if_neg hnot, List.getElem?_map, hat j p field hp hj]
        rfl

end Projection

/-! ## A table a field was dropped from -/

namespace Sample

/-- The second field was dropped, and one was added behind the third. -/
def evolved : TableFields where
  fields := [⟨0, "a", ⟨{ id := .integer }, ""⟩⟩, ⟨2, "c", ⟨{ id := .integer }, ""⟩⟩, ⟨3, "d", ⟨{ id := .integer }, ""⟩⟩]
  increasing := by decide
  bounded := by decide
  distinct := by decide

/-- The bind of a table. -/
def bindOf (schema : TableFields) : PaimonScanBindData Unit where
  path := ⟨"/wh", "db", "t"⟩
  tableDataPath := "/wh/db.db/t"
  paimonOptions := .empty
  arrowTable := ⟨schema.fields.map TableField.name, schema.fields.map (·.type.type), schema.fields.map TableField.type⟩
  partKeys := []
  tableSchemaJson := ""
  distributed := {}

theorem scansTable_bindOf (schema : TableFields) : ScansTable (bindOf schema) schema :=
  ⟨List.length_map .., fun _ => rfl⟩

/-- A scan of `d` asks Paimon for the field `c`. -/
theorem projection_exact_iff_d : ¬ ReadsProjected (bindOf evolved) evolved [2] ∧
    (readContext (bindOf evolved) ⟨[], 0, "", {}, none, false⟩ [2]).readFieldIds.map evolved.byId =
      [some ⟨2, "c", ⟨{ id := .integer }, ""⟩⟩] ∧
    evolved.projected [2] = [⟨3, "d", ⟨{ id := .integer }, ""⟩⟩] := by
  refine ⟨fun h => ?_, rfl, rfl⟩
  have hidentified := (h [2] rfl).1 ⟨[], 0, "", {}, none, false⟩
  revert hidentified
  decide

/-- The fourth field was dropped, and one was added behind it. -/
def extended : TableFields where
  fields := [⟨0, "a", ⟨{ id := .integer }, ""⟩⟩, ⟨1, "b", ⟨{ id := .varchar }, ""⟩⟩, ⟨2, "c", ⟨{ id := .integer }, ""⟩⟩,
    ⟨4, "d", ⟨{ id := .integer }, ""⟩⟩]
  increasing := by decide
  bounded := by decide
  distinct := by decide

/-- `c` and `b` are read in this order, and together with `d` they are not. -/
theorem projection_exact_iff_evolved : ReadsProjected (bindOf extended) extended [2, 1] ∧
    ¬ ReadsProjected (bindOf extended) extended [2, 1, 3] := by
  have hscans : ScansTable (bindOf extended) extended := scansTable_bindOf extended
  have hb : extended.fields[1]? = some ⟨1, "b", ⟨{ id := .varchar }, ""⟩⟩ := rfl
  have hc : extended.fields[2]? = some ⟨2, "c", ⟨{ id := .integer }, ""⟩⟩ := rfl
  have hd : extended.fields[3]? = some ⟨4, "d", ⟨{ id := .integer }, ""⟩⟩ := rfl
  refine ⟨(projection_exact_iff hscans (by decide)).2 ?_, fun h => ?_⟩
  · intro p hp
    rcases List.mem_cons.1 hp with rfl | hp
    · exact (TableFields.noGap_iff hc).2 rfl
    · rw [List.mem_singleton.1 hp]
      exact (TableFields.noGap_iff hb).2 rfl
  · have hgap := (projection_exact_iff hscans (by decide)).1 h 3 (by decide)
    have hid := (TableFields.noGap_iff hd).1 hgap
    revert hid
    decide

end Sample

end DuckPaimon.Scan
