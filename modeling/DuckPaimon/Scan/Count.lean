/-
`PaimonGetPartitionStats` (paimon_scan.cpp): the row count that DuckDB may put in the place of COUNT(*).
It is given for native scans without pushed filters only, and is the number of rows such a scan emits.
-/
import DuckPaimon.Scan.Answer

namespace DuckPaimon.Scan

open Outcome

/-! ## Row counts -/

/-- What the `ReadContextBuilder` of a count is given. -/
structure CountContext where
  path : String
  options : StringMap
  tableSchema : String

/-- Paimon's count reader. -/
structure CountLibrary (Split : Type) where
  /-- `ReadContextBuilder::Finish` and `TableRead::Create`. -/
  createTableRead : CountContext → Result Unit
  createCountReader : CountContext → List Split → Result Unit
  countRows : CountContext → List Split → Result Int64

/-- `CountType`. -/
inductive CountType
  | exact | approximate
  deriving DecidableEq, Repr

/-- `PartitionStatistics`. -/
structure PartitionStatistics where
  count : UInt64
  countType : CountType
  deriving DecidableEq, Repr

section Stats

variable {Split Array Cell : Type}

/-- The context of a count. -/
def countContext (bind : PaimonScanBindData Split) : CountContext :=
  ⟨bind.tableDataPath, bind.paimonOptions, bind.tableSchemaJson⟩

/-- The count of the splits, unless Paimon fails. -/
def countSplits (counts : CountLibrary Split) (context : CountContext) (splits : List Split) :
    List PartitionStatistics :=
  match counts.createTableRead context with
  | .error _ => []
  | .ok () =>
    match counts.createCountReader context splits with
    | .error _ => []
    | .ok () =>
      match counts.countRows context splits with
      | .error _ => []
      | .ok rowCount => if rowCount < 0 then [] else [⟨rowCount.toUInt64, .exact⟩]

/-- `PaimonGetPartitionStats`. -/
def paimonGetPartitionStats (lib : ReadLibrary Split Array Cell) (counts : CountLibrary Split)
    (bind : PaimonScanBindData Split) : List PartitionStatistics :=
  if bind.distributed.phase ≠ .coordinator then []
  else if bind.predicates.isSome = true ∨ bind.partFilters.isEmpty = false then []
  else
    match lib.scanSplits bind with
    | .error _ => []
    | .ok splits => countSplits counts (countContext bind) splits

/-- `CountRows` counts the rows of the splits. -/
def CountsRows (counts : CountLibrary Split) (contents : Split → List StoredRow) : Prop :=
  ∀ context splits rowCount, counts.countRows context splits = .ok rowCount → ¬rowCount < 0 →
    rowCount.toUInt64.toNat = (splits.flatMap contents).length

/-! ## What is counted -/

variable {lib : ReadLibrary Split Array Cell} {counts : CountLibrary Split} {bind : PaimonScanBindData Split}
  {stats : PartitionStatistics}

/-- A count that is given: the only one, and that of Paimon. -/
structure Counted (counts : CountLibrary Split) (context : CountContext) (splits : List Split)
    (given : List PartitionStatistics) (stats : PartitionStatistics) (rowCount : Int64) : Prop where
  only : given = [stats]
  exact : stats = ⟨rowCount.toUInt64, .exact⟩
  counted : counts.countRows context splits = .ok rowCount
  nonnegative : ¬rowCount < 0

theorem mem_countSplits {context : CountContext} {splits : List Split} (h : stats ∈ countSplits counts context splits) :
    ∃ rowCount, Counted counts context splits (countSplits counts context splits) stats rowCount := by
  generalize hgiven : countSplits counts context splits = given at h ⊢
  unfold countSplits at hgiven
  split at hgiven
  · rw [← hgiven] at h
    cases h
  · split at hgiven
    · rw [← hgiven] at h
      cases h
    · split at hgiven
      · rw [← hgiven] at h
        cases h
      · rename_i rowCount hcount
        split at hgiven
        · rw [← hgiven] at h
          cases h
        · rename_i hnonnegative
          rw [← hgiven, List.mem_singleton] at h
          exact ⟨rowCount, by rw [h, hgiven], h, hcount, hnonnegative⟩

/-- A count is given for the splits of a native scan without filters. -/
theorem mem_paimonGetPartitionStats (h : stats ∈ paimonGetPartitionStats lib counts bind) :
    bind.distributed.phase = .coordinator ∧ bind.predicates = none ∧ bind.partFilters = [] ∧
      ∃ splits rowCount, lib.scanSplits bind = .ok splits ∧
        Counted counts (countContext bind) splits (paimonGetPartitionStats lib counts bind) stats rowCount := by
  generalize hgiven : paimonGetPartitionStats lib counts bind = given at h ⊢
  unfold paimonGetPartitionStats at hgiven
  split at hgiven
  · rw [← hgiven] at h
    cases h
  · rename_i hphase
    split at hgiven
    · rw [← hgiven] at h
      cases h
    · rename_i hunfiltered
      rw [not_or, Option.not_isSome_iff_eq_none, Bool.not_eq_false, List.isEmpty_iff] at hunfiltered
      split at hgiven
      · rw [← hgiven] at h
        cases h
      · rename_i splits hsplits
        rw [← hgiven] at h ⊢
        obtain ⟨rowCount, hcounted⟩ := mem_countSplits h
        exact ⟨not_not.1 hphase, hunfiltered.1, hunfiltered.2, splits, rowCount, hsplits, hcounted⟩

/-- A bind without filters selects every row. -/
theorem selected_of_unfiltered {test : Predicate.LeafTest} {schema : TableFields} (hpredicates : bind.predicates = none)
    (hfilters : bind.partFilters = []) (stored : StoredRow) : selected test schema bind stored = true := by
  unfold selected
  rw [hpredicates, hfilters]
  rfl

/-- All that is needed of everything is everything. -/
theorem fetches_all_perm {needed : StoredRow → Bool} {stored fetched : List StoredRow}
    (h : Fetches needed stored fetched) (hall : ∀ row, needed row = true) : fetched.Perm stored := by
  have hperm := h.filter_perm
  rwa [List.filter_eq_self.2 fun row _ => hall row, List.filter_eq_self.2 fun row _ => hall row] at hperm

end Stats

/-- A count that is given is exact: it is the number of rows of the table, and of the rows that any scan of
the same bind, whatever its columns and however it is polled, has emitted at its end. -/
theorem exact_count_is_scanned {Split Array : Type} {lib : ReadLibrary Split Array Value} {counts : CountLibrary Split}
    {test : Predicate.LeafTest} {schema : TableFields} {contents : Split → List StoredRow} {table : List StoredRow}
    {bind : PaimonScanBindData Split} {stats : PartitionStatistics}
    (given : stats ∈ paimonGetPartitionStats lib counts bind) (counted : CountsRows counts contents)
    (plans : ∀ splits, lib.scanSplits bind = .ok splits → PlansSelected test schema contents table bind splits) :
    paimonGetPartitionStats lib counts bind = [stats] ∧ stats.countType = .exact ∧ stats.count.toNat = table.length ∧
      ∀ columnIds start history, Completes lib bind columnIds start history →
        ReadsMatching lib test schema contents bind start columnIds →
          (emittedIn history).length = stats.count.toNat := by
  obtain ⟨hphase, hpredicates, hfilters, splits, rowCount, hsplits, hcounted⟩ := mem_paimonGetPartitionStats given
  have hrows : stats.count.toNat = (splits.flatMap contents).length := by
    rw [hcounted.exact]
    exact counted _ _ _ hcounted.counted hcounted.nonnegative
  have hall : ∀ stored, selected test schema bind stored = true := selected_of_unfiltered hpredicates hfilters
  have hexact : stats.countType = .exact := by rw [hcounted.exact]
  refine ⟨hcounted.only, hexact, ?_, ?_⟩
  · rw [hrows]
    exact (fetches_all_perm (plans splits hsplits) hall).length_eq
  · intro columnIds start history completes reads
    have hsame : splits = start.splits := Except.ok.inj (hsplits.symm.trans (scanSplits_of_init completes.init hphase))
    obtain ⟨fetched, hfetched, hemitted⟩ := completes.fetches_unfiltered reads hpredicates fun _ => true
    rw [hemitted.length_eq, List.length_map, hrows, hsame]
    exact (fetches_all_perm hfetched fun _ => rfl).length_eq

namespace Sample

/-- Counts the rows of a split as often as it is given. -/
def pairCounts : CountLibrary Unit where
  createTableRead _ := .ok ()
  createCountReader _ _ := .ok ()
  countRows _ splits :=
    let rowCount := (splits.flatMap fun _ => pairTable).length
    if rowCount < 2 ^ 63 then .ok (Int64.ofNat rowCount) else .error { text := "too many rows" }

theorem countsRows_pairCounts : CountsRows pairCounts fun _ => pairTable := by
  intro context splits rowCount h _
  obtain ⟨hlt, h⟩ : (splits.flatMap fun _ => pairTable).length < 2 ^ 63 ∧
      Int64.ofNat (splits.flatMap fun _ => pairTable).length = rowCount := by
    unfold pairCounts at h
    dsimp only at h
    split at h
    · rename_i hlt
      exact ⟨hlt, Except.ok.inj h⟩
    · cases h
  rw [← h]
  show ((splits.flatMap fun _ => pairTable).length : BitVec 64).toNat = _
  simp only [BitVec.natCast_eq_ofNat, BitVec.toNat_ofNat]
  omega

/-- The three rows of the table may be counted without a scan. -/
theorem exact_count_is_scanned_pairTable :
    paimonGetPartitionStats pairLibrary pairCounts twoColumnsBind = [⟨3, .exact⟩] ∧
      CountType.exact = .exact ∧ (3 : UInt64).toNat = pairTable.length ∧
      ∀ columnIds start history, Completes pairLibrary twoColumnsBind columnIds start history →
        ReadsMatching pairLibrary test twoColumns (fun _ => pairTable) twoColumnsBind start columnIds →
          (emittedIn history).length = (3 : UInt64).toNat := by
  have hgiven : (⟨3, .exact⟩ : PartitionStatistics) ∈ paimonGetPartitionStats pairLibrary pairCounts twoColumnsBind :=
    List.mem_singleton.2 rfl
  have hplans : ∀ splits, pairLibrary.scanSplits twoColumnsBind = .ok splits →
      PlansSelected test twoColumns (fun _ => pairTable) pairTable twoColumnsBind splits := by
    rintro _ ⟨⟩
    exact .refl _ _
  exact exact_count_is_scanned hgiven countsRows_pairCounts hplans

end Sample

end DuckPaimon.Scan
