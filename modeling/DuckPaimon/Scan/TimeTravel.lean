/-
Binding a scan (paimon_scan.cpp, paimon_table_entry.cpp): the named parameters a table of an attached catalog
is scanned with, the bind that is made of them, and the version of the table that is read wherever the bind
goes.
-/
import DuckPaimon.Scan.Workers
import DuckPaimon.Write.Target

namespace DuckPaimon.Scan

open Outcome

/-! ## Named parameters -/

theorem ciEquals_iff {left right : String} : Catalog.ciEquals left right = true ↔
    Catalog.lower left = Catalog.lower right :=
  beq_iff_eq

/-- `parameters[key] = value`, where names differ in more than their case. -/
def setEntry (key value : String) : Catalog.InputOptions → Catalog.InputOptions
  | [] => [(key, value)]
  | entry :: entries =>
    if Catalog.ciEquals entry.1 key then (entry.1, value) :: entries else entry :: setEntry key value entries

/-- The names, as they are compared. -/
def spellings (entries : Catalog.InputOptions) : List String := entries.map fun entry => Catalog.lower entry.1

theorem mem_spellings_setEntry {key value name : String} {entries : Catalog.InputOptions} :
    name ∈ spellings (setEntry key value entries) ↔ name = Catalog.lower key ∨ name ∈ spellings entries := by
  induction entries with
  | nil => simp [setEntry, spellings]
  | cons entry entries ih =>
    unfold setEntry
    split
    · rename_i hkey
      rw [ciEquals_iff] at hkey
      simp [spellings, hkey]
    · simp only [spellings, List.map_cons, List.mem_cons] at ih ⊢
      rw [ih]
      exact or_left_comm

theorem nodup_spellings_setEntry {key value : String} {entries : Catalog.InputOptions} (h : (spellings entries).Nodup) :
    (spellings (setEntry key value entries)).Nodup := by
  induction entries with
  | nil => exact List.nodup_singleton _
  | cons entry entries ih =>
    obtain ⟨hnot, hrest⟩ := List.nodup_cons.1 h
    unfold setEntry
    split
    · exact h
    · rename_i hkey
      rw [ciEquals_iff] at hkey
      refine List.nodup_cons.2 ⟨?_, ih hrest⟩
      intro hmem
      rcases mem_spellings_setEntry.1 hmem with heq | hmem
      · exact hkey heq
      · exact hnot hmem

/-- `named_parameter_map_t`, with the texts of the values. -/
structure NamedParameters where
  entries : Catalog.InputOptions
  spelledOnce : (spellings entries).Nodup

/-- No parameter. -/
def NamedParameters.empty : NamedParameters := ⟨[], List.nodup_nil⟩

/-- `parameters[option.first] = option.second`. -/
def NamedParameters.set (parameters : NamedParameters) (option : String × String) : NamedParameters :=
  ⟨setEntry option.1 option.2 parameters.entries, nodup_spellings_setEntry parameters.spelledOnce⟩

/-- The value of the last option of a name, whatever its case. -/
def lastOption (options : Catalog.InputOptions) (key : String) : Option String :=
  Catalog.tryGetPaimonOptionValue options.reverse key

theorem tryGet_cons (entry : String × String) (entries : Catalog.InputOptions) (key : String) :
    Catalog.tryGetPaimonOptionValue (entry :: entries) key =
      if Catalog.ciEquals entry.1 key then some entry.2 else Catalog.tryGetPaimonOptionValue entries key := by
  unfold Catalog.tryGetPaimonOptionValue
  rw [List.find?_cons]
  cases Catalog.ciEquals entry.1 key <;> rfl

theorem ciEquals_congr {a b : String} (h : Catalog.ciEquals a b = true) (c : String) :
    Catalog.ciEquals a c = Catalog.ciEquals b c := by
  unfold Catalog.ciEquals
  rw [ciEquals_iff.1 h]

theorem tryGet_setEntry (entries : Catalog.InputOptions) (key value name : String) :
    Catalog.tryGetPaimonOptionValue (setEntry key value entries) name =
      if Catalog.ciEquals key name then some value else Catalog.tryGetPaimonOptionValue entries name := by
  induction entries with
  | nil => exact tryGet_cons (key, value) [] name
  | cons entry entries ih =>
    unfold setEntry
    by_cases hkey : Catalog.ciEquals entry.1 key = true
    · rw [if_pos hkey, tryGet_cons, tryGet_cons, ciEquals_congr hkey name]
      cases Catalog.ciEquals key name <;> rfl
    · rw [if_neg hkey, tryGet_cons, tryGet_cons, ih]
      by_cases hname : Catalog.ciEquals entry.1 name = true
      · -- the entry is not spelled as the key
        have hother : Catalog.ciEquals key name ≠ true := by
          intro hsame
          apply hkey
          rw [ciEquals_iff] at hname hsame ⊢
          exact hname.trans hsame.symm
        rw [if_pos hname, if_neg hother, if_pos hname]
      · rw [if_neg hname, if_neg hname]

/-- What is set last is what is found. -/
theorem tryGet_foldl_set (options : Catalog.InputOptions) (key : String) :
    Catalog.tryGetPaimonOptionValue (options.foldl NamedParameters.set .empty).entries key =
      lastOption options key := by
  induction options using List.reverseRecOn with
  | nil => rfl
  | append_singleton options option ih =>
    unfold lastOption
    rw [List.foldl_concat, List.reverse_concat, tryGet_cons]
    refine (tryGet_setEntry _ _ _ _).trans ?_
    rw [ih]
    rfl

theorem tryGet_eq_some {entries : Catalog.InputOptions} (h : (spellings entries).Nodup) {key value : String} :
    Catalog.tryGetPaimonOptionValue entries key = some value ↔
      ∃ name, (name, value) ∈ entries ∧ Catalog.ciEquals name key = true := by
  induction entries with
  | nil => simp [Catalog.tryGetPaimonOptionValue]
  | cons entry entries ih =>
    obtain ⟨hnot, hrest⟩ := List.nodup_cons.1 h
    rw [tryGet_cons]
    split
    · rename_i hkey
      constructor
      · intro hvalue
        cases hvalue
        exact ⟨entry.1, List.mem_cons_self, hkey⟩
      · rintro ⟨name, hmem, hname⟩
        rcases List.mem_cons.1 hmem with heq | hmem
        · rw [← heq]
        · -- a second spelling of the name
          refine absurd (List.mem_map.2 ⟨_, hmem, ?_⟩) hnot
          rw [ciEquals_iff] at hkey hname
          exact hname.trans hkey.symm
    · rename_i hkey
      rw [ih hrest]
      constructor
      · rintro ⟨name, hmem, hname⟩
        exact ⟨name, List.mem_cons_of_mem _ hmem, hname⟩
      · rintro ⟨name, hmem, hname⟩
        rcases List.mem_cons.1 hmem with heq | hmem
        · cases heq
          exact absurd hname hkey
        · exact ⟨name, hmem, hname⟩

/-- In whatever order the parameters are walked. -/
theorem tryGet_perm {entries entries' : Catalog.InputOptions} (h : (spellings entries).Nodup)
    (hperm : entries'.Perm entries) (key : String) :
    Catalog.tryGetPaimonOptionValue entries' key = Catalog.tryGetPaimonOptionValue entries key := by
  have h' : (spellings entries').Nodup := (hperm.map _).nodup_iff.2 h
  refine Option.ext fun value => ?_
  rw [tryGet_eq_some h', tryGet_eq_some h]
  simp only [hperm.mem_iff]

/-! ## The bind of a table -/

/-- What a host replies to a bind. -/
structure BindHost extends Catalog.OptionsHost where
  /-- `Value::GetValue<int64_t>` of the value with a text. -/
  getInt64 : String → Except Exception Int64
  /-- The text of what `Value::CastAs` makes of the value with a text. -/
  castAs : LogicalTypeId → String → Except Exception String
  /-- The order in which an `unordered_map` of these options is walked. -/
  walk : Catalog.InputOptions → Catalog.InputOptions
  walk_perm : ∀ options, (walk options).Perm options

/-- `paimon::Schema` of a table, with what `PopulateArrowTableSchema` makes of its Arrow schema, which may be
null. -/
structure ScanSchema where
  dataSchema : Option Write.DataSchema
  jsonSchema : Result String
  arrowSchema : Result (Option (Except Exception ArrowTableSchema))

/-- What Paimon replies to a bind, and the UUID that is generated. -/
structure BindReplies where
  /-- `paimon::Catalog::Create`. -/
  create : String → StringMap → Result Unit
  getTableLocation : Result String
  loadTableSchema : Result (Option ScanSchema)
  uuid : String

/-- `PaimonCatalog::CreatePaimonCatalog`, with `paimon::Catalog::Create`. -/
def createPaimonCatalog (host : Catalog.OptionsHost) (create : String → StringMap → Result Unit) (path : String)
    (inputOptions : Catalog.InputOptions) : Except Exception Unit := do
  let paimonOptions ← Catalog.getPaimonOptions host path inputOptions
  Result.orIO (create path paimonOptions)

/-- The splits a test expects; the name is not compared in another case. -/
def readExpectedSplits (host : BindHost) (scanOptions : Catalog.InputOptions) : Except Exception (Option UInt64) :=
  match scanOptions.find? fun option => option.1 == "debug_expected_splits" with
  | none => return none
  | some expectedSplits => do
    let expectedValue ← host.getInt64 expectedSplits.2
    throwIf (expectedValue < 0) (.invalidInput "'debug_expected_splits' must be non-negative")
    return some expectedValue.toUInt64

/-- The bind of a loaded schema, before it has a split set. -/
def ScanSchema.bindData {Split : Type} (schema : ScanSchema) (path : PaimonTablePath) (tableDataPath : String)
    (paimonOptions : StringMap) (debugExpectedSplits : Option UInt64) (tableSchemaJson : String)
    (arrowTable : ArrowTableSchema) : PaimonScanBindData Split where
  path := path
  tableDataPath := tableDataPath
  paimonOptions := paimonOptions
  arrowTable := arrowTable
  partKeys := (schema.dataSchema.map Write.DataSchema.partitionKeys).getD []
  debugExpectedSplits := debugExpectedSplits
  tableSchemaJson := tableSchemaJson
  distributed :=
    { schemaId := (schema.dataSchema.map Write.DataSchema.id).getD (-1)
      appendOnly := (schema.dataSchema.map fun dataSchema => dataSchema.primaryKeys.isEmpty).getD false
      returnTypes := arrowTable.types
      returnNames := arrowTable.names }

/-- `PaimonScanBind`. -/
def paimonScanBind {Split : Type} (host : BindHost) (replies : BindReplies) (inputs : List String)
    (namedParameters : NamedParameters) : Except Exception (PaimonScanBindData Split) := do
  let path ← PaimonTablePath.parse inputs
  let scanOptions := host.walk namedParameters.entries
  let debugExpectedSplits ← readExpectedSplits host scanOptions
  let paimonOptions ← Catalog.getPaimonOptions host.toOptionsHost path.warehouse scanOptions
  createPaimonCatalog host.toOptionsHost replies.create path.warehouse scanOptions
  let tableDataPath ← replies.getTableLocation.orIO
  match ← replies.loadTableSchema.orIO with
  | none => throw (.io "Paimon table schema is empty")
  | some tableSchema => do
    let tableSchemaJson ← tableSchema.jsonSchema.orIO
    match ← tableSchema.arrowSchema.orIO with
    | none => throw (.io "Paimon Arrow schema is empty")
    | some populate => do
      let arrowTable ← populate
      initializePaimonDistributedScanBind replies.uuid
        (tableSchema.bindData path tableDataPath paimonOptions debugExpectedSplits tableSchemaJson arrowTable)

/-- `BoundAtClause`, with the text of its value. -/
structure AtClause where
  unit : String
  value : String

/-- A table entry: where its catalog is attached, the options of the ATTACH in the order they are walked, the
schema and the table. -/
structure AttachedTable where
  dbPath : String
  attachOptions : Catalog.InputOptions
  schemaName : String
  name : String

/-- `StringUtil::Upper`, of ASCII letters. -/
def upper (text : String) : String := String.ofList (text.toList.map Char.toUpper)

/-- The parameters with the AT clause. -/
def addAtClause (host : BindHost) (paramMap : NamedParameters) : Option AtClause → Except Exception NamedParameters
  | none => return paramMap
  | some atClause =>
    if upper atClause.unit = "VERSION" then do
      let snapshotId ← host.castAs .bigint atClause.value
      return paramMap.set ("snapshot_from_id", snapshotId)
    else if upper atClause.unit = "TIMESTAMP" then do
      let timestamp ← host.castAs .timestamp atClause.value
      return paramMap.set ("snapshot_from_timestamp", timestamp)
    else throw (.invalidInput ("Unsupported AT unit \"" ++ atClause.unit ++ "\" for Paimon. Use VERSION or TIMESTAMP."))

/-- `PaimonTableEntry::GetScanFunction`, where `paimon_scan` is registered. -/
def getScanFunction {Split : Type} (host : BindHost) (replies : BindReplies) (table : AttachedTable)
    (atClause : Option AtClause) : Except Exception (PaimonScanBindData Split) := do
  let paramMap ← addAtClause host (table.attachOptions.foldl NamedParameters.set .empty) atClause
  paimonScanBind host replies [table.dbPath, table.schemaName, table.name] paramMap

/-! ## The version that is asked for -/

/-- The version of a table that is read: a snapshot, the last one at an instant, or the newest. -/
structure ScanVersion where
  snapshotId : Option String
  timestampMillis : Option String
  exclusive : snapshotId = none ∨ timestampMillis = none

/-- These options ask Paimon for the version. -/
structure ScanVersion.AskedBy (version : ScanVersion) (options : StringMap) : Prop where
  snapshotId : options.find? scanSnapshotId = version.snapshotId
  timestampMillis : options.find? scanTimestampMillis = version.timestampMillis

/-- The epoch milliseconds of a timestamp the user gives. -/
def EpochMillis (host : Catalog.OptionsHost) : Option String → Option String → Prop
  | none, millis => millis = none
  | some timestamp, millis => ∃ epochMs, host.getEpochMs timestamp = .ok epochMs ∧ millis = some (toString epochMs)

/-- An option of a key that neither a host nor the user's other options set. -/
def VersionKey (key : String) : Prop := key = scanSnapshotId ∨ key = scanTimestampMillis

theorem find?_metastoreOptions {inputOptions : Catalog.InputOptions} {options options' : StringMap} {key : String}
    (hkey : VersionKey key) (h : Catalog.metastoreOptions inputOptions options = .ok options') :
    options'.find? key = options.find? key := by
  have hmetastore : key ≠ Catalog.metastoreKey := by rcases hkey with rfl | rfl <;> decide
  have huri : key ≠ Catalog.uriKey := by rcases hkey with rfl | rfl <;> decide
  have hprovider : key ≠ Catalog.tokenProviderKey := by rcases hkey with rfl | rfl <;> decide
  have htoken : key ≠ Catalog.tokenKey := by rcases hkey with rfl | rfl <;> decide
  unfold Catalog.metastoreOptions at h
  split at h
  · cases pure_eq_ok.1 h
    rfl
  · dsimp only at h
    split at h
    · cases pure_eq_ok.1 h
      rw [SortedMap.find?_insert, if_neg hmetastore]
    · obtain ⟨-, h⟩ := throwIf_bind_eq_ok.1 h
      obtain ⟨-, h⟩ := throwIf_bind_eq_ok.1 h
      obtain ⟨-, h⟩ := throwIf_bind_eq_ok.1 h
      split at h <;> cases pure_eq_ok.1 h <;>
        simp only [SortedMap.find?_insert, if_neg hmetastore, if_neg huri, if_neg hprovider, if_neg htoken]

theorem find?_formatOption {inputOptions : Catalog.InputOptions} {inputKey formatKey : String}
    {supportedValues : List String} {options options' : StringMap} {key : String} (hkey : key ≠ formatKey)
    (h : Catalog.formatOption inputOptions inputKey formatKey supportedValues options = .ok options') :
    options'.find? key = options.find? key := by
  unfold Catalog.formatOption at h
  split at h
  · cases pure_eq_ok.1 h
    rfl
  · obtain ⟨format, -, h⟩ := bind_eq_ok.1 h
    cases pure_eq_ok.1 h
    rw [SortedMap.find?_insert, if_neg hkey]

theorem find?_s3SecretOptions {secret : Catalog.KeyValueSecret} {options : StringMap} {key : String}
    (hkey : ¬Catalog.HostKey key) : (Catalog.s3SecretOptions secret options).find? key = options.find? key := by
  have hadd (entries : List (String × String)) (hentries : ∀ entry ∈ entries, key ≠ entry.2) (options : StringMap) :
      (entries.foldl (Catalog.addOptionalSecretOption secret) options).find? key = options.find? key := by
    induction entries generalizing options with
    | nil => rfl
    | cons entry entries ih =>
      rw [List.forall_mem_cons] at hentries
      rw [List.foldl_cons, ih hentries.2]
      unfold Catalog.addOptionalSecretOption
      split
      · rw [SortedMap.find?_insert, if_neg hentries.1]
      · rfl
  have hs3 (rest : String) : key ≠ "s3." ++ rest := by
    rintro rfl
    exact hkey (.inr (.inr (.inr ⟨rest, rfl⟩)))
  refine hadd _ ?_ _
  simp only [List.forall_mem_cons, List.not_mem_nil, false_implies, implies_true, and_true]
  exact ⟨hs3 "access-key", hs3 "secret-key", hs3 "endpoint", hs3 "session.token", hs3 "profile", hs3 "region",
    hs3 "path-style-access"⟩

theorem find?_ossSecretOptions {secret : Catalog.KeyValueSecret} {path : String} {options options' : StringMap}
    {key : String} (hkey : ¬Catalog.HostKey key) (h : Catalog.ossSecretOptions secret path options = .ok options') :
    options'.find? key = options.find? key := by
  have hadd (entries : List (String × String)) (hentries : ∀ entry ∈ entries, key ≠ entry.2) {options : StringMap}
      (h : entries.foldlM (Catalog.addRequiredSecretOption secret) options = .ok options') :
      options'.find? key = options.find? key := by
    induction entries generalizing options with
    | nil =>
      cases pure_eq_ok.1 h
      rfl
    | cons entry entries ih =>
      rw [List.forall_mem_cons] at hentries
      rw [List.foldlM_cons] at h
      obtain ⟨added, hadded, h⟩ := bind_eq_ok.1 h
      rw [ih hentries.2 h]
      unfold Catalog.addRequiredSecretOption at hadded
      split at hadded
      · obtain ⟨-, hadded⟩ := guard_eq_ok.1 hadded
        cases pure_eq_ok.1 hadded
        rw [SortedMap.find?_insert, if_neg hentries.1]
      · cases hadded
  have hoss (rest : String) : key ≠ "fs.oss." ++ rest := by
    rintro rfl
    exact hkey (.inr (.inr (.inl ⟨rest, rfl⟩)))
  have hbucket (option : String) : key ≠ "fs.oss.bucket." ++ Catalog.bucketOf path ++ "." ++ option := by
    have hsplit : "fs.oss.bucket." ++ Catalog.bucketOf path ++ "." ++ option =
        "fs.oss." ++ ("bucket." ++ Catalog.bucketOf path ++ "." ++ option) := by
      simp [String.append_assoc]
      rfl
    rw [hsplit]
    exact hoss _
  unfold Catalog.ossSecretOptions at h
  obtain ⟨-, h⟩ := throwIf_bind_eq_ok.1 h
  have huser : key ≠ "fs.oss.user" := hoss "user"
  rw [hadd _ ?_ h, SortedMap.find?_insert, if_neg huser]
  simp only [List.forall_mem_cons, List.not_mem_nil, false_implies, implies_true, and_true]
  exact ⟨hbucket _, hbucket _, hbucket _⟩

/-- A secret sets keys of a host only. -/
theorem find?_secretOptions {secret : Option Catalog.KeyValueSecret} {path : String} {options options' : StringMap}
    {key : String} (hkey : ¬Catalog.HostKey key) (h : Catalog.secretOptions secret path options = .ok options') :
    options'.find? key = options.find? key := by
  cases secret with
  | none =>
    cases pure_eq_ok.1 h
    rfl
  | some secret =>
    unfold Catalog.secretOptions at h
    obtain ⟨-, h⟩ := throwIf_bind_eq_ok.1 h
    split at h
    · exact find?_ossSecretOptions hkey h
    · split at h
      · cases pure_eq_ok.1 h
        exact find?_s3SecretOptions hkey
      · cases pure_eq_ok.1 h
        rfl

theorem not_hostKey_of_versionKey {key : String} (h : VersionKey key) : ¬Catalog.HostKey key := by
  intro hhost
  apply not_portable_of_hostKey hhost
  rcases h with rfl | rfl <;> decide

/-- The options ask for the snapshot the user's options name. -/
theorem version_getPaimonOptions {host : Catalog.OptionsHost} {path : String} {inputOptions : Catalog.InputOptions}
    {options : StringMap} (h : Catalog.getPaimonOptions host path inputOptions = .ok options) :
    ∃ version : ScanVersion, version.AskedBy options ∧
      version.snapshotId = Catalog.tryGetPaimonOptionValue inputOptions "snapshot_from_id" ∧
      EpochMillis host (Catalog.tryGetPaimonOptionValue inputOptions "snapshot_from_timestamp")
        version.timestampMillis := by
  unfold Catalog.getPaimonOptions at h
  obtain ⟨options₀, hmetastore, h⟩ := bind_eq_ok.1 h
  obtain ⟨options₁, hmanifest, h⟩ := bind_eq_ok.1 h
  obtain ⟨options₂, hfile, h⟩ := bind_eq_ok.1 h
  obtain ⟨secret, -, h⟩ := bind_eq_ok.1 h
  obtain ⟨withSecret, hsecret, h⟩ := bind_eq_ok.1 h
  -- what is set before the version is asked for sets no version: neither the host's options nor its secret
  have hunset {key : String} (hkey : VersionKey key) :
      (withSecret.emplace Catalog.readBatchSizeKey "2048").find? key = none := by
    have hhost := not_hostKey_of_versionKey hkey
    have hbatch : key ≠ Catalog.readBatchSizeKey := by
      rintro rfl
      exact hhost (.inr (.inl rfl))
    have hsystem : key ≠ Catalog.fileSystemKey := by
      rintro rfl
      exact hhost (.inl rfl)
    have hmanifestKey : key ≠ Catalog.manifestFormatKey := by rcases hkey with rfl | rfl <;> decide
    have hfileKey : key ≠ Catalog.fileFormatKey := by rcases hkey with rfl | rfl <;> decide
    unfold SortedMap.emplace
    rw [SortedMap.find?_upsert, if_neg hbatch, find?_secretOptions hhost hsecret, SortedMap.find?_insert,
      if_neg hsystem, find?_formatOption hfileKey hfile, find?_formatOption hmanifestKey hmanifest,
      find?_metastoreOptions hkey hmetastore]
    rfl
  have hids : scanTimestampMillis ≠ scanSnapshotId := by decide
  have hid : Catalog.scanSnapshotIdKey = scanSnapshotId := rfl
  have hts : Catalog.scanTimestampMillisKey = scanTimestampMillis := rfl
  have hsnapshot := hunset (.inl rfl)
  have htimestamp := hunset (.inr rfl)
  generalize withSecret.emplace Catalog.readBatchSizeKey "2048" = unversioned at h hsnapshot htimestamp
  unfold Catalog.snapshotOptions at h
  obtain ⟨hone, h⟩ := throwIf_bind_eq_ok.1 h
  cases hsnapId : Catalog.tryGetPaimonOptionValue inputOptions "snapshot_from_id" with
  | none =>
    simp only [hsnapId] at h
    cases hsnapTs : Catalog.tryGetPaimonOptionValue inputOptions "snapshot_from_timestamp" with
    | none =>
      simp only [hsnapTs] at h
      cases pure_eq_ok.1 h
      exact ⟨⟨none, none, .inl rfl⟩, ⟨hsnapshot, htimestamp⟩, rfl, rfl⟩
    | some snapTs =>
      simp only [hsnapTs] at h
      obtain ⟨epochMs, hepochMs, h⟩ := bind_eq_ok.1 h
      cases pure_eq_ok.1 h
      refine ⟨⟨none, some (toString epochMs), .inl rfl⟩, ⟨?_, ?_⟩, rfl, epochMs, hepochMs, rfl⟩
      · rw [hts, SortedMap.find?_insert, if_neg hids.symm, hsnapshot]
      · rw [hts, SortedMap.find?_insert, if_pos rfl]
  | some snapId =>
    cases hsnapTs : Catalog.tryGetPaimonOptionValue inputOptions "snapshot_from_timestamp" with
    | none =>
      simp only [hsnapId, hsnapTs] at h
      cases pure_eq_ok.1 h
      refine ⟨⟨some snapId, none, .inr rfl⟩, ⟨?_, ?_⟩, rfl, rfl⟩
      · rw [hid, SortedMap.find?_insert, if_pos rfl]
      · rw [hid, SortedMap.find?_insert, if_neg hids, htimestamp]
    | some snapTs =>
      -- both were refused above
      refine absurd ⟨?_, ?_⟩ hone
      · rw [hsnapId]
        rfl
      · rw [hsnapTs]
        rfl

/-! ## Wherever the bind goes -/

/-- What may be done to a bind. -/
inductive BindMove
  /-- It is serialized, and deserialized on a host. -/
  | ship (host : Catalog.OptionsHost)
  /-- A worker bind is made of it. -/
  | createWorkerBind
  /-- Splits are applied to it, and may be refused. -/
  | applySplits (splits : List DistributedScanSplit)
  /-- Filters are pushed into it. -/
  | pushdownFilter (get : LogicalGet) (filters : List Expression)

section Moves

variable {Split : Type} (rt : Runtime) (objectStart : PropertyCodec.ObjectStart Exception)
  (splitLib : SplitLibrary Split) (reader : ValueReader) (builder : PredicateBuilder) (render : Value → String)

/-- The bind after a move. -/
inductive BindStep (bind : PaimonScanBindData Split) : BindMove → PaimonScanBindData Split → Prop
  | ship {host : Catalog.OptionsHost} {bind' : PaimonScanBindData Split}
      (h : hop rt objectStart bind host = .ok bind') : BindStep bind (.ship host) bind'
  | createWorkerBind {bind' : PaimonScanBindData Split}
      (h : paimonCreateDistributedWorkerBind (some bind) = .ok bind') :
      BindStep bind .createWorkerBind bind'
  | applySplits {splits : List DistributedScanSplit} {r : Except Exception Unit} {bind' : PaimonScanBindData Split}
      (h : paimonApplyDistributedScanSplits rt splitLib (some bind) splits = (r, some bind')) :
      BindStep bind (.applySplits splits) bind'
  | pushdownFilter {get : LogicalGet} {filters : List Expression} {bind' : PaimonScanBindData Split}
      (h : paimonPushdownFilter reader builder render get bind filters = .ok bind') :
      BindStep bind (.pushdownFilter get filters) bind'

/-- `bind'` is of the table `bind` is of, and of its split set. -/
structure SameTable (bind bind' : PaimonScanBindData Split) : Prop where
  path : bind'.path = bind.path
  tableDataPath : bind'.tableDataPath = bind.tableDataPath
  tableSchemaJson : bind'.tableSchemaJson = bind.tableSchemaJson
  schemaId : bind'.distributed.schemaId = bind.distributed.schemaId
  appendOnly : bind'.distributed.appendOnly = bind.distributed.appendOnly
  returnTypes : bind'.distributed.returnTypes = bind.distributed.returnTypes
  returnNames : bind'.distributed.returnNames = bind.distributed.returnNames
  partKeys : bind'.partKeys = bind.partKeys
  splitSetId : bind'.distributed.splitSetId = bind.distributed.splitSetId

theorem SameTable.refl (bind : PaimonScanBindData Split) : SameTable bind bind :=
  ⟨rfl, rfl, rfl, rfl, rfl, rfl, rfl, rfl, rfl⟩

theorem SameTable.trans {bind bind' bind'' : PaimonScanBindData Split} (h : SameTable bind bind')
    (h' : SameTable bind' bind'') : SameTable bind bind'' :=
  ⟨h'.path.trans h.path, h'.tableDataPath.trans h.tableDataPath, h'.tableSchemaJson.trans h.tableSchemaJson,
    h'.schemaId.trans h.schemaId, h'.appendOnly.trans h.appendOnly, h'.returnTypes.trans h.returnTypes,
    h'.returnNames.trans h.returnNames, h'.partKeys.trans h.partKeys, h'.splitSetId.trans h.splitSetId⟩

/-- The bind asks for the version, and its options stand where they are shipped from. -/
structure KeepsVersion (version : ScanVersion) (bind : PaimonScanBindData Split) : Prop where
  placed : Placed bind
  asked : version.AskedBy bind.paimonOptions

variable {rt objectStart splitLib reader builder render}

/-- The body of the loop of `GetPortableOptions`. -/
def copyOption (options result : StringMap) (key : String) : StringMap :=
  match options.find? key with
  | some value => result.emplace key value
  | none => result

theorem find?_copyOption (options result : StringMap) (copied key : String) :
    (copyOption options result copied).find? key =
      (result.find? key).or (if key = copied then options.find? copied else none) := by
  unfold copyOption
  by_cases heq : key = copied
  · subst heq
    rw [if_pos rfl]
    cases options.find? key with
    | none => simp
    | some value =>
      unfold SortedMap.emplace
      rw [SortedMap.find?_upsert, if_pos rfl]
      cases result.find? key <;> simp
  · rw [if_neg heq]
    cases options.find? copied with
    | none => simp
    | some value =>
      unfold SortedMap.emplace
      rw [SortedMap.find?_upsert, if_neg heq]
      simp

theorem getPortableOptions_eq_foldl (options : StringMap) : getPortableOptions options =
    [scanManifestFormat, scanFileFormat, scanSnapshotId, scanTimestampMillis].foldl (copyOption options) .empty := rfl

/-- The portable options are those of the options that are portable. -/
theorem find?_getPortableOptions (options : StringMap) {key : String} (hkey : isPortableOption key = true) :
    (getPortableOptions options).find? key = options.find? key := by
  have hfoldl (keys : List String) (result : StringMap) :
      (keys.foldl (copyOption options) result).find? key =
        (result.find? key).or (if key ∈ keys then options.find? key else none) := by
    induction keys generalizing result with
    | nil => simp
    | cons copied keys ih =>
      rw [List.foldl_cons, ih, find?_copyOption]
      by_cases heq : key = copied
      · subst heq
        rw [if_pos rfl, if_pos List.mem_cons_self]
        cases result.find? key <;> cases options.find? key <;> simp
      · have hmem : key ∈ copied :: keys ↔ key ∈ keys := by simp [heq]
        simp only [hmem, if_neg heq, Option.or_none]
  rw [getPortableOptions_eq_foldl, hfoldl, if_pos (isPortableOption_iff.1 hkey)]
  rfl

/-- The options a bind ships ask for what its own do. -/
theorem KeepsVersion.shipped {version : ScanVersion} {bind : PaimonScanBindData Split} (h : KeepsVersion version bind) :
    version.AskedBy bind.transportBase.portableOptions := by
  have hsame {key : String} (hkey : isPortableOption key = true) :
      bind.transportBase.portableOptions.find? key = bind.paimonOptions.find? key := by
    rw [h.placed.portableOptions]
    unfold PaimonScanBindData.carriedOptions
    split
    · exact find?_getPortableOptions _ hkey
    · rename_i hphase
      exact (h.placed.shipped hphase key hkey).symm
  exact ⟨(hsame (by decide)).trans h.asked.snapshotId, (hsame (by decide)).trans h.asked.timestampMillis⟩

/-- A host adds no version of its own. -/
theorem KeepsVersion.ship {version : ScanVersion} {bind bind' : PaimonScanBindData Split} {host : Catalog.OptionsHost}
    (h : KeepsVersion version bind) (lawful : rt.binary.Lawful) (startLawful : objectStart.Lawful)
    (hhop : hop rt objectStart bind host = .ok bind') : KeepsVersion version bind' ∧ SameTable bind bind' := by
  obtain ⟨options, hoptions, rfl⟩ := hop_returns lawful startLawful hhop
  have hhost := Catalog.hostOnly_getPaimonOptions hoptions
  -- the host's own options have no portable key, so those that travelled win
  have hfind {key : String} (hkey : isPortableOption key = true) :
      (bind.transportBase.bindData bind.distributed.phase.bindKind options :
        PaimonScanBindData Split).paimonOptions.find? key = bind.transportBase.portableOptions.find? key :=
    find?_paimonOptions_of_hostOnly hhost bind.distributed.phase.bindKind hkey
  refine ⟨⟨⟨?_, fun _ key hkey => hfind hkey⟩, ?_, ?_⟩, rfl, rfl, rfl, rfl, rfl, rfl, rfl, rfl, rfl⟩
  · intro hphase
    unfold PaimonDistributedBindTransport.bindData at hphase
    dsimp only at hphase
    split at hphase <;> cases hphase
  · exact (hfind (by decide)).trans h.shipped.snapshotId
  · exact (hfind (by decide)).trans h.shipped.timestampMillis

theorem KeepsVersion.createWorkerBind {version : ScanVersion} {bind bind' : PaimonScanBindData Split}
    (h : KeepsVersion version bind) (hcreate : paimonCreateDistributedWorkerBind (some bind) = .ok bind') :
    KeepsVersion version bind' ∧ SameTable bind bind' := by
  unfold paimonCreateDistributedWorkerBind requireDistributedScanBindData at hcreate
  obtain ⟨source, hsource, hcreate⟩ := bind_eq_ok.1 hcreate
  cases pure_eq_ok.1 hsource
  obtain ⟨hphase, hcreate⟩ := throwIf_bind_eq_ok.1 hcreate
  cases pure_eq_ok.1 hcreate
  have hshipped : bind.distributed.phase ≠ .coordinator := by
    intro hcoordinator
    apply hphase
    rw [hcoordinator]
    exact .inl (by decide)
  refine ⟨⟨⟨?_, fun _ _ _ => rfl⟩, ?_, ?_⟩, rfl, rfl, rfl, rfl, rfl, rfl, rfl, rfl, rfl⟩
  · intro hcoordinator
    cases hcoordinator
  · exact (h.placed.shipped hshipped _ (by decide)).symm.trans h.asked.snapshotId
  · exact (h.placed.shipped hshipped _ (by decide)).symm.trans h.asked.timestampMillis

/-- Splits are refused, or assigned. -/
theorem applied_cases {bind bind' : PaimonScanBindData Split} {splits : List DistributedScanSplit}
    {r : Except Exception Unit}
    (h : paimonApplyDistributedScanSplits rt splitLib (some bind) splits = (r, some bind')) :
    (bind' = bind ∧ ¬∃ snapshotId assigned, Assignable rt splitLib bind splits snapshotId assigned) ∨
      ∃ snapshotId assigned, Assignable rt splitLib bind splits snapshotId assigned ∧
        bind' = bind.assign splits snapshotId assigned := by
  unfold paimonApplyDistributedScanSplits at h
  rcases hrun : (applySplits rt splitLib splits).run bind with ⟨r', after, l⟩
  dsimp only at h
  rw [hrun] at h
  cases h
  rcases Proc.wp_run (wp_applySplits bind splits) hrun with ⟨-, rfl, hnot⟩ | ⟨-, hassigned⟩
  · exact .inl ⟨rfl, hnot⟩
  · exact .inr hassigned

theorem KeepsVersion.step {version : ScanVersion} {bind bind' : PaimonScanBindData Split} {move : BindMove}
    (h : KeepsVersion version bind) (lawful : rt.binary.Lawful) (startLawful : objectStart.Lawful)
    (hstep : BindStep rt objectStart splitLib reader builder render bind move bind') :
    KeepsVersion version bind' ∧ SameTable bind bind' := by
  cases hstep with
  | ship hhop => exact h.ship lawful startLawful hhop
  | createWorkerBind hcreate => exact h.createWorkerBind hcreate
  | applySplits happly =>
    rcases applied_cases happly with ⟨rfl, -⟩ | ⟨snapshotId, assigned, hassigned, rfl⟩
    · exact ⟨h, .refl _⟩
    · -- only a template takes splits
      have htemplate : bind.distributed.phase ≠ .coordinator := by
        rw [hassigned.phase]
        decide
      refine ⟨⟨⟨?_, fun _ => h.placed.shipped htemplate⟩, h.asked⟩, rfl, rfl, rfl, rfl, rfl, rfl, rfl, rfl, rfl⟩
      intro hcoordinator
      cases hcoordinator
  | pushdownFilter hpushdown =>
    obtain ⟨predicates, partFilters, -, rfl⟩ := paimonPushdownFilter_eq_ok hpushdown
    exact ⟨⟨⟨h.placed.bound, h.placed.shipped⟩, h.asked⟩, rfl, rfl, rfl, rfl, rfl, rfl, rfl, rfl, rfl⟩

/-- Whatever is done to a bind, in whatever order. -/
theorem KeepsVersion.run {version : ScanVersion} {bind bind' : PaimonScanBindData Split} {moves : List BindMove}
    (h : KeepsVersion version bind) (lawful : rt.binary.Lawful) (startLawful : objectStart.Lawful)
    (run : Run (BindStep rt objectStart splitLib reader builder render) bind moves bind') :
    KeepsVersion version bind' ∧ SameTable bind bind' := by
  refine run.invariant (I := fun _ after => KeepsVersion version after ∧ SameTable bind after) ⟨h, .refl bind⟩ ?_
  rintro moves after move after' ⟨hkeeps, hsame⟩ hstep
  obtain ⟨hkeeps', hsame'⟩ := hkeeps.step lawful startLawful hstep
  exact ⟨hkeeps', hsame.trans hsame'⟩

end Moves

/-! ## Tables of an attached catalog -/

section Attached

variable {Split : Type} {host : BindHost} {replies : BindReplies}

/-- A bound scan asks for the version its parameters name. -/
theorem keepsVersion_paimonScanBind {inputs : List String} {namedParameters : NamedParameters}
    {bind : PaimonScanBindData Split} (h : paimonScanBind host replies inputs namedParameters = .ok bind) :
    PaimonTablePath.parse inputs = .ok bind.path ∧ bind.predicates = none ∧ bind.partFilters = [] ∧
      ∃ version : ScanVersion, KeepsVersion version bind ∧
      version.snapshotId = Catalog.tryGetPaimonOptionValue namedParameters.entries "snapshot_from_id" ∧
      EpochMillis host.toOptionsHost (Catalog.tryGetPaimonOptionValue namedParameters.entries "snapshot_from_timestamp")
        version.timestampMillis := by
  unfold paimonScanBind at h
  obtain ⟨path, hpath, h⟩ := bind_eq_ok.1 h
  obtain ⟨debugExpectedSplits, -, h⟩ := bind_eq_ok.1 h
  obtain ⟨paimonOptions, hoptions, h⟩ := bind_eq_ok.1 h
  obtain ⟨-, -, h⟩ := bind_eq_ok.1 h
  obtain ⟨tableDataPath, -, h⟩ := bind_eq_ok.1 h
  obtain ⟨tableSchema, -, h⟩ := bind_eq_ok.1 h
  rcases tableSchema with _ | tableSchema
  · cases h
  obtain ⟨tableSchemaJson, -, h⟩ := bind_eq_ok.1 h
  obtain ⟨populate, -, h⟩ := bind_eq_ok.1 h
  rcases populate with _ | populate
  · cases h
  obtain ⟨arrowTable, -, h⟩ := bind_eq_ok.1 h
  unfold initializePaimonDistributedScanBind at h
  obtain ⟨-, h⟩ := throwIf_bind_eq_ok.1 h
  cases pure_eq_ok.1 h
  obtain ⟨version, hasked, hsnapshotId, htimestampMillis⟩ := version_getPaimonOptions hoptions
  -- the parameters are walked in no particular order, which is no matter as none is spelled twice
  rw [tryGet_perm namedParameters.spelledOnce (host.walk_perm _)] at hsnapshotId htimestampMillis
  refine ⟨hpath, rfl, rfl, version, ⟨⟨fun _ => rfl, ?_⟩, hasked⟩, hsnapshotId, htimestampMillis⟩
  intro hphase
  exact absurd rfl hphase

/-- The version a query asks for: that of its AT clause, else that of the ATTACH. -/
def Requested (host : BindHost) (attachOptions : Catalog.InputOptions) (version : ScanVersion) : Option AtClause → Prop
  | none => version.snapshotId = lastOption attachOptions "snapshot_from_id" ∧
      EpochMillis host.toOptionsHost (lastOption attachOptions "snapshot_from_timestamp") version.timestampMillis
  | some atClause =>
    (upper atClause.unit = "VERSION" ∧ version.timestampMillis = none ∧
      ∃ snapshotId, host.castAs .bigint atClause.value = .ok snapshotId ∧ version.snapshotId = some snapshotId) ∨
    (upper atClause.unit = "TIMESTAMP" ∧ version.snapshotId = none ∧
      ∃ timestamp, host.castAs .timestamp atClause.value = .ok timestamp ∧
        EpochMillis host.toOptionsHost (some timestamp) version.timestampMillis)

/-- What the parameters with the AT clause name is what is requested. -/
theorem requested_of_addAtClause {attachOptions : Catalog.InputOptions} {atClause : Option AtClause}
    {paramMap : NamedParameters} {version : ScanVersion}
    (h : addAtClause host (attachOptions.foldl NamedParameters.set .empty) atClause = .ok paramMap)
    (hsnapshotId : version.snapshotId = Catalog.tryGetPaimonOptionValue paramMap.entries "snapshot_from_id")
    (htimestampMillis : EpochMillis host.toOptionsHost
      (Catalog.tryGetPaimonOptionValue paramMap.entries "snapshot_from_timestamp") version.timestampMillis) :
    Requested host attachOptions version atClause := by
  have hset (parameters : NamedParameters) (key value name : String) :
      Catalog.tryGetPaimonOptionValue (parameters.set (key, value)).entries name =
        if Catalog.ciEquals key name then some value else Catalog.tryGetPaimonOptionValue parameters.entries name :=
    tryGet_setEntry _ _ _ _
  cases atClause with
  | none =>
    cases pure_eq_ok.1 h
    rw [tryGet_foldl_set] at hsnapshotId htimestampMillis
    exact ⟨hsnapshotId, htimestampMillis⟩
  | some atClause =>
    unfold addAtClause at h
    dsimp only at h
    split at h
    · rename_i hunit
      obtain ⟨snapshotId, hcast, h⟩ := bind_eq_ok.1 h
      cases pure_eq_ok.1 h
      rw [hset, if_pos (by decide +kernel)] at hsnapshotId
      refine .inl ⟨hunit, ?_, snapshotId, hcast, hsnapshotId⟩
      -- a version has no snapshot or no instant
      rcases version.exclusive with hnone | hnone
      · rw [hnone] at hsnapshotId
        cases hsnapshotId
      · exact hnone
    · split at h
      · rename_i hunit
        obtain ⟨timestamp, hcast, h⟩ := bind_eq_ok.1 h
        cases pure_eq_ok.1 h
        rw [hset, if_pos (by decide +kernel)] at htimestampMillis
        refine .inr ⟨hunit, ?_, timestamp, hcast, htimestampMillis⟩
        obtain ⟨epochMs, -, hmillis⟩ := htimestampMillis
        rcases version.exclusive with hnone | hnone
        · exact hnone
        · rw [hmillis] at hnone
          cases hnone
      · cases h

/-- The bind of a table of an attached catalog asks for the version that is requested, and has no filters yet. -/
theorem keepsVersion_getScanFunction {table : AttachedTable} {atClause : Option AtClause}
    {bind : PaimonScanBindData Split} (h : getScanFunction host replies table atClause = .ok bind) :
    bind.path = ⟨table.dbPath, table.schemaName, table.name⟩ ∧ bind.predicates = none ∧ bind.partFilters = [] ∧
      ∃ version : ScanVersion, Requested host table.attachOptions version atClause ∧ KeepsVersion version bind := by
  unfold getScanFunction at h
  obtain ⟨paramMap, hparamMap, h⟩ := bind_eq_ok.1 h
  obtain ⟨hpath, hpredicates, hpartFilters, version, hkeeps, hsnapshotId, htimestampMillis⟩ :=
    keepsVersion_paimonScanBind h
  exact ⟨(Except.ok.inj hpath).symm, hpredicates, hpartFilters, version,
    requested_of_addAtClause hparamMap hsnapshotId htimestampMillis, hkeeps⟩

/-- A table of an attached catalog is read at the version the query asks for, and at no other: by the host that
bound it, by every host its bind is shipped to and by every worker, whatever options and secrets these hosts have,
and whatever filters and splits the bind gets. -/
theorem attached_scan_keeps_version {rt : Runtime} {objectStart : PropertyCodec.ObjectStart Exception}
    {splitLib : SplitLibrary Split} {reader : ValueReader} {builder : PredicateBuilder} {render : Value → String}
    {table : AttachedTable} {atClause : Option AtClause} {bind bind' : PaimonScanBindData Split} {moves : List BindMove}
    (lawful : rt.binary.Lawful) (startLawful : objectStart.Lawful)
    (bound : getScanFunction host replies table atClause = .ok bind)
    (run : Run (BindStep rt objectStart splitLib reader builder render) bind moves bind') :
    ∃ version : ScanVersion, Requested host table.attachOptions version atClause ∧
      version.AskedBy bind'.paimonOptions ∧ SameTable bind bind' ∧
      bind'.path = ⟨table.dbPath, table.schemaName, table.name⟩ := by
  obtain ⟨hpath, -, -, version, hrequested, hkeeps⟩ := keepsVersion_getScanFunction bound
  obtain ⟨hkeeps', hsame⟩ := hkeeps.run lawful startLawful run
  refine ⟨version, hrequested, hkeeps'.asked, hsame, ?_⟩
  rw [hsame.path, hpath]

end Attached

namespace Sample

/-- A host whose casts keep the text. -/
def bindHost : BindHost where
  toOptionsHost := TwoSplits.host
  getInt64 _ := .ok 0
  castAs _ text := .ok text
  walk options := options
  walk_perm _ := .refl _

def bindReplies : BindReplies where
  create _ _ := .ok ()
  getTableLocation := .ok "/wh/db.db/t"
  loadTableSchema := .ok (some
    { dataSchema := some ⟨0, [], [], .empty⟩
      jsonSchema := .ok "[]"
      arrowSchema := .ok (some (.ok ⟨["a"], [{ id := .integer }], [integerColumn]⟩)) })
  uuid := "00000000-0000-4000-8000-000000000000"

/-- A catalog that is attached at snapshot 3. -/
def attachedTable : AttachedTable := ⟨"/wh", [("SNAPSHOT_FROM_ID", "3")], "db", "t"⟩

/-- The bind of a query of snapshot 7. -/
def boundAtSeven : PaimonScanBindData String :=
  match getScanFunction bindHost bindReplies attachedTable (some ⟨"version", "7"⟩) with
  | .ok bind => bind
  | .error _ => TwoSplits.coordinator

theorem bound_boundAtSeven :
    getScanFunction bindHost bindReplies attachedTable (some ⟨"version", "7"⟩) = .ok boundAtSeven := by
  rfl

theorem validate_boundAtSeven : boundAtSeven.transportBase.validate = .ok () := by decide +kernel

theorem castAs_seven : bindHost.castAs .bigint "7" = .ok "7" := rfl

/-- A worker of a query of snapshot 7 reads that snapshot, over two hosts and whatever the ATTACH says. -/
theorem attached_scan_keeps_version_seven : ∃ worker : PaimonScanBindData String,
    Run (BindStep TwoSplits.runtime binaryObjectStart TwoSplits.library reader builder
      Write.Sample.renderText) boundAtSeven [.ship TwoSplits.host, .createWorkerBind, .ship TwoSplits.host] worker ∧
    worker.paimonOptions.find? scanSnapshotId = some "7" ∧ worker.paimonOptions.find? scanTimestampMillis = none := by
  have hlawful : TwoSplits.runtime.binary.Lawful := binaryFormat_lawful
  have hunassigned : boundAtSeven.distributed.phase ≠ .workerAssigned := by decide
  obtain ⟨coordinator, hcoordinator, hbase, hphase, hsame⟩ :=
    hop_sameScan hlawful binaryObjectStart_lawful hunassigned validate_boundAtSeven TwoSplits.serves_host
  obtain ⟨template, htemplate, hisTemplate⟩ := template_paimonCreateDistributedWorkerBind hphase
    (hbase ▸ validate_boundAtSeven)
  have hserves : Serves TwoSplits.host coordinator.workerTransport.tableDataPath := by
    show Serves TwoSplits.host coordinator.tableDataPath
    rw [hsame.tableDataPath]
    exact TwoSplits.serves_host
  obtain ⟨worker, hworker, -⟩ := hisTemplate.hop hlawful binaryObjectStart_lawful
    (validate_workerTransport (hbase ▸ validate_boundAtSeven)) hserves
  have run : Run (BindStep TwoSplits.runtime binaryObjectStart TwoSplits.library reader builder
    Write.Sample.renderText) boundAtSeven [.ship TwoSplits.host, .createWorkerBind, .ship TwoSplits.host] worker :=
    ((Run.nil.snoc (.ship hcoordinator)).snoc (.createWorkerBind htemplate)).snoc (.ship hworker)
  obtain ⟨version, hrequested, hasked, -, -⟩ := attached_scan_keeps_version hlawful binaryObjectStart_lawful
    bound_boundAtSeven run
  refine ⟨worker, run, ?_, ?_⟩
  · rcases hrequested with ⟨-, -, snapshotId, hcast, hid⟩ | ⟨hunit, -⟩
    · cases castAs_seven.symm.trans hcast
      exact hasked.snapshotId.trans hid
    · exact absurd hunit (by decide +kernel)
  · rcases hrequested with ⟨-, hnone, -⟩ | ⟨hunit, -⟩
    · exact hasked.timestampMillis.trans hnone
    · exact absurd hunit (by decide +kernel)

end Sample

end DuckPaimon.Scan
