/-
The estimates of a split (paimon_distributed_scan.cpp): the total of its files is either exact or
absent, it does not depend on the order of the files, and every reader of a split takes it.
-/
import DuckPaimon.BinaryFormat
import DuckPaimon.Lib.Machine
import DuckPaimon.Scan.Assign

namespace DuckPaimon.Scan

open Outcome Machine

/-! ## One value -/

/-- A value that is not negative is converted without a change. -/
theorem toNat_toUInt64 {value : Int64} (h : 0 ≤ value.toInt) : (value.toUInt64.toNat : Int) = value.toInt := by
  have hle : 0 ≤ value := Int64.le_iff_toInt_le.2 h
  rw [Int64.toNat_toUInt64_of_le hle, Int64.toInt_eq_toNatClampNeg hle]

/-- `TryAddEstimate` adds on numbers, below the index that stands for an absent estimate. -/
theorem tryAddEstimate_eq (value : Int64) (total : UInt64) :
    (tryAddEstimate value total).map UInt64.toNat = addBelow? idxMaximum.toNat total.toNat value.toInt := by
  have hmax : idxMaximum.toNat = 2 ^ 64 - 1 := rfl
  have htotal := total.toNat_lt
  unfold tryAddEstimate addBelow?
  by_cases hnegative : value < 0
  · have hnot : ¬(0 ≤ value.toInt ∧ total.toNat + value.toInt < idxMaximum.toNat) := by
      rw [Int64.lt_iff_toInt_lt] at hnegative
      change value.toInt < 0 at hnegative
      omega
    rw [if_pos hnegative, if_neg hnot]
    rfl
  · have hnonneg : 0 ≤ value.toInt := Int64.le_iff_toInt_le.1 (Int64.not_lt.1 hnegative)
    have hvalue := toNat_toUInt64 hnonneg
    have hbound := value.toUInt64.toNat_lt
    -- no 64-bit index is above the largest one, so the subtraction does not wrap
    have hle : value.toUInt64 ≤ idxMaximum := UInt64.le_iff_toNat_le.2 (by omega)
    have hstop : (value.toUInt64 ≥ idxMaximum ∨ total ≥ idxMaximum - value.toUInt64) ↔
        ¬(0 ≤ value.toInt ∧ total.toNat + value.toInt < idxMaximum.toNat) := by
      rw [ge_iff_le, ge_iff_le, UInt64.le_iff_toNat_le, UInt64.le_iff_toNat_le, UInt64.toNat_sub_of_le _ _ hle]
      omega
    rw [if_neg hnegative]
    by_cases hfits : 0 ≤ value.toInt ∧ total.toNat + value.toInt < idxMaximum.toNat
    · rw [if_pos hfits, if_neg (fun h => hstop.1 h hfits), Option.map_some, Option.some_inj, UInt64.toNat_add]
      omega
    · rw [if_neg hfits, if_pos (hstop.2 hfits)]
      rfl

/-- An addition that is made is exact. -/
theorem tryAddEstimate_exact {value : Int64} {total total' : UInt64} (h : tryAddEstimate value total = some total') :
    0 ≤ value.toInt ∧ (total'.toNat : Int) = total.toNat + value.toInt ∧ total'.toNat < idxMaximum.toNat := by
  have heq := tryAddEstimate_eq value total
  rw [h] at heq
  exact addBelow?_eq_some.1 heq.symm

theorem tryAddEstimate_lt {value : Int64} {total total' : UInt64} (h : tryAddEstimate value total = some total') :
    total' < idxMaximum :=
  UInt64.lt_iff_toNat_lt.2 (tryAddEstimate_exact h).2.2

namespace Estimate

/-- The total, while it is valid. -/
def get? (estimate : Estimate) : Option Nat := if estimate.valid then some estimate.total.toNat else none

/-- One round of the loop. -/
theorem get?_add (estimate : Estimate) (value : Int64) :
    (estimate.add value).get? = estimate.get?.bind fun total => addBelow? idxMaximum.toNat total value.toInt := by
  unfold get? add
  by_cases hvalid : estimate.valid = true
  · rw [if_pos hvalid, if_pos hvalid, Option.bind_some, ← tryAddEstimate_eq]
    cases tryAddEstimate value estimate.total with
    | none => rfl
    | some total => exact if_pos hvalid
  · rw [if_neg hvalid, if_neg hvalid]
    rfl

/-- The loop. -/
theorem get?_foldl (value : DataFileMeta → Int64) (files : List DataFileMeta) (estimate : Estimate) :
    (files.foldl (fun (estimate : Estimate) file => estimate.add (value file)) estimate).get? =
      estimate.get?.bind fun total =>
        (files.map fun file => (value file).toInt).foldlM (addBelow? idxMaximum.toNat) total := by
  induction files generalizing estimate with
  | nil => exact (Option.bind_fun_some estimate.get?).symm
  | cons file files ih =>
    rw [List.foldl_cons, ih, get?_add, Option.bind_assoc]
    rfl

/-- A round adds exactly or leaves the total. -/
theorem add_total (estimate : Estimate) (value : Int64) :
    (estimate.add value).total = estimate.total ∨
      0 ≤ value.toInt ∧ ((estimate.add value).total.toNat : Int) = estimate.total.toNat + value.toInt := by
  unfold add
  split
  · split
    · rename_i total htotal
      obtain ⟨hnonneg, hexact, -⟩ := tryAddEstimate_exact htotal
      exact .inr ⟨hnonneg, hexact⟩
    · exact .inl rfl
  · exact .inl rfl

theorem add_lt {estimate : Estimate} (h : estimate.total < idxMaximum) (value : Int64) :
    (estimate.add value).total < idxMaximum := by
  unfold Estimate.add
  split
  · split
    · rename_i total htotal
      exact tryAddEstimate_lt htotal
    · exact h
  · exact h

end Estimate

/-- An estimate never reaches the index that stands for an absent one. -/
theorem foldl_add_lt (value : DataFileMeta → Int64) (files : List DataFileMeta) {estimate : Estimate}
    (h : estimate.total < idxMaximum) :
    (files.foldl (fun (estimate : Estimate) file => estimate.add (value file)) estimate).total < idxMaximum := by
  induction files generalizing estimate with
  | nil => exact h
  | cons file files ih => exact ih (Estimate.add_lt h _)

theorem getSplitEstimates_lt {Split : Type} (lib : SplitLibrary Split) (split : Split) (appendOnly : Bool) :
    (getSplitEstimates lib split appendOnly).cardinality < idxMaximum ∧
      (getSplitEstimates lib split appendOnly).bytes < idxMaximum := by
  have hzero : (0 : UInt64) < idxMaximum := by decide
  unfold getSplitEstimates
  dsimp only
  split
  · exact ⟨hzero, hzero⟩
  · exact ⟨foldl_add_lt DataFileMeta.rowCount _ hzero, foldl_add_lt DataFileMeta.fileSize _ hzero⟩

/-- The optional index of an estimate is present exactly when the estimate is. -/
theorem estimateIdx_ok (has : Bool) {estimate : UInt64} (h : estimate < idxMaximum) :
    ∃ idx, estimateIdx has estimate = .ok idx ∧ idx.get? = if has then some estimate else none := by
  have hne : estimate ≠ idxMaximum := UInt64.ne_of_lt h
  cases has with
  | false => exact ⟨{}, rfl, rfl⟩
  | true =>
    refine ⟨⟨estimate⟩, ?_, ?_⟩
    · exact throwIf_bind_eq_ok.2 ⟨hne, rfl⟩
    · unfold OptionalIdx.get? OptionalIdx.isValid
      simp [hne]

/-! ## Exact or absent -/

/-- An estimate is present exactly if there are values whose total is an index, and is that total. -/
structure ExactOrAbsent (has : Bool) (estimate : UInt64) (values : Option (List Int)) : Prop where
  present : has = true ↔ ∃ vs, values = some vs ∧ (∀ v ∈ vs, 0 ≤ v) ∧ vs.sum < idxMaximum.toNat
  exact : has = true → ∀ vs, values = some vs → (estimate.toNat : Int) = vs.sum

/-- No values, no estimate. -/
theorem exactOrAbsent_none (estimate : UInt64) : ExactOrAbsent false estimate none where
  present := ⟨nofun, nofun⟩
  exact := nofun

theorem Estimate.get?_eq_some {estimate : Estimate} {total : Nat} :
    estimate.get? = some total ↔ estimate.valid = true ∧ estimate.total.toNat = total := by
  unfold get?
  split
  · rename_i hvalid
    rw [Option.some_inj]
    exact ⟨fun h => ⟨hvalid, h⟩, fun h => h.2⟩
  · rename_i hvalid
    exact ⟨nofun, fun h => absurd h.1 hvalid⟩

/-- What the loop makes of a valid start. -/
theorem exactOrAbsent_foldl (value : DataFileMeta → Int64) (files : List DataFileMeta) {estimate : Estimate}
    (h : estimate = files.foldl (fun (estimate : Estimate) file => estimate.add (value file)) ⟨true, 0⟩) :
    ExactOrAbsent estimate.valid estimate.total (some (files.map fun file => (value file).toInt)) := by
  have hfold := Estimate.get?_foldl value files ⟨true, 0⟩
  rw [← h] at hfold
  have hiff (total : Nat) : estimate.get? = some total ↔
      (∀ v ∈ files.map fun file => (value file).toInt, 0 ≤ v) ∧
        (total : Int) = 0 + (files.map fun file => (value file).toInt).sum ∧ total < idxMaximum.toNat := by
    rw [hfold]
    exact foldlM_addBelow? (by decide) _
  constructor
  · constructor
    · intro hvalid
      obtain ⟨hnonneg, hsum, hlt⟩ := (hiff _).1 (Estimate.get?_eq_some.2 ⟨hvalid, rfl⟩)
      exact ⟨_, rfl, hnonneg, by omega⟩
    · rintro ⟨vs, hvs, hnonneg, hlt⟩
      cases hvs
      have hsum := List.sum_nonneg hnonneg
      have htotal := (hiff (files.map fun file => (value file).toInt).sum.toNat).2 ⟨hnonneg, by omega, by omega⟩
      exact (Estimate.get?_eq_some.1 htotal).1
  · intro hvalid vs hvs
    cases hvs
    obtain ⟨-, hsum, -⟩ := (hiff _).1 (Estimate.get?_eq_some.2 ⟨hvalid, rfl⟩)
    omega

/-- A loop that starts invalid stays so. -/
theorem foldl_invalid (value : DataFileMeta → Int64) (files : List DataFileMeta) (total : UInt64) :
    (files.foldl (fun (estimate : Estimate) file => estimate.add (value file)) ⟨false, total⟩).valid = false := by
  induction files with
  | nil => rfl
  | cons file files ih => exact ih

/-! ## The estimates of a split -/

section Split

variable {Split : Type} (lib : SplitLibrary Split) (split : Split) (appendOnly : Bool)

/-- The files of the data split that a split is, or that it holds when it is indexed. -/
def dataFiles : Option (List DataFileMeta) :=
  match lib.dataSplit split with
  | some files => some files
  | none => match lib.indexedSplit split with
    | some files => files
    | none => none

/-- The values bytes are estimated from: the sizes of the files. -/
def fileSizes : Option (List Int) := (dataFiles lib split).map fun files => files.map fun file => file.fileSize.toInt

/-- The values a cardinality is estimated from: the row counts of the files, of an append-only
table, and never of an indexed split. -/
def rowCounts : Option (List Int) :=
  if appendOnly = true ∧ lib.indexedSplit split = none then
    (dataFiles lib split).map fun files => files.map fun file => file.rowCount.toInt
  else none

namespace PaimonDistributedSplitEstimates

/-- The estimates that are reported. -/
def cardinality? (estimates : PaimonDistributedSplitEstimates) : Option UInt64 :=
  if estimates.hasCardinality then some estimates.cardinality else none
@[inherit_doc cardinality?] def bytes? (estimates : PaimonDistributedSplitEstimates) : Option UInt64 :=
  if estimates.hasBytes then some estimates.bytes else none

end PaimonDistributedSplitEstimates

/-- `GetSplitEstimates` over the files of the data split. -/
theorem getSplitEstimates_eq :
    getSplitEstimates lib split appendOnly = (dataFiles lib split).elim {} fun files =>
      let bytes := files.foldl (fun (estimate : Estimate) file => estimate.add file.fileSize) ⟨true, 0⟩
      let cardinality := files.foldl (fun (estimate : Estimate) file => estimate.add file.rowCount) ⟨appendOnly, 0⟩
      { hasBytes := bytes.valid, bytes := bytes.total
        hasCardinality := cardinality.valid && (lib.indexedSplit split).isNone, cardinality := cardinality.total } := by
  unfold getSplitEstimates dataFiles
  cases lib.dataSplit split with
  | some files => rfl
  | none =>
    cases lib.indexedSplit split with
    | none => rfl
    | some files => cases files <;> rfl

theorem getSplitEstimates_exact :
    ExactOrAbsent (getSplitEstimates lib split appendOnly).hasBytes (getSplitEstimates lib split appendOnly).bytes
        (fileSizes lib split) ∧
      ExactOrAbsent (getSplitEstimates lib split appendOnly).hasCardinality
        (getSplitEstimates lib split appendOnly).cardinality (rowCounts lib split appendOnly) := by
  unfold fileSizes rowCounts
  rw [getSplitEstimates_eq]
  cases dataFiles lib split with
  | none =>
    rw [Option.map_none, Option.map_none, ite_self]
    exact ⟨exactOrAbsent_none 0, exactOrAbsent_none 0⟩
  | some files =>
    refine ⟨exactOrAbsent_foldl DataFileMeta.fileSize files rfl, ?_⟩
    dsimp only [Option.elim_some]
    by_cases hestimated : appendOnly = true ∧ lib.indexedSplit split = none
    · obtain ⟨rfl, hindexed⟩ := hestimated
      rw [if_pos ⟨rfl, hindexed⟩, hindexed, Option.isNone_none, Bool.and_true]
      exact exactOrAbsent_foldl DataFileMeta.rowCount files rfl
    · rw [if_neg hestimated]
      have habsent : ((files.foldl (fun (estimate : Estimate) file => estimate.add file.rowCount)
          ⟨appendOnly, 0⟩).valid && (lib.indexedSplit split).isNone) = false := by
        cases appendOnly with
        | false => rw [foldl_invalid DataFileMeta.rowCount, Bool.false_and]
        | true =>
          cases hindexed : lib.indexedSplit split with
          | none => exact absurd ⟨rfl, hindexed⟩ hestimated
          | some _ => exact Bool.and_false _
      rw [habsent]
      exact exactOrAbsent_none _

end Split

/-! ## The order of the files -/

/-- Two splits of one kind whose data splits list the same files in any order. -/
structure SameFiles {Split : Type} (lib : SplitLibrary Split) (split split' : Split) : Prop where
  files : Option.Rel List.Perm (dataFiles lib split) (dataFiles lib split')
  indexed : lib.indexedSplit split = none ↔ lib.indexedSplit split' = none

theorem rel_map_perm {α β : Type} {f : α → β} {as as' : Option (List α)} (h : Option.Rel List.Perm as as') :
    Option.Rel List.Perm (as.map (List.map f)) (as'.map (List.map f)) := by
  cases h with
  | some hperm => exact .some (hperm.map f)
  | none => exact .none

/-- Estimates of the same values are the same. -/
theorem ExactOrAbsent.eq_of_perm {has has' : Bool} {estimate estimate' : UInt64} {values values' : Option (List Int)}
    (h : ExactOrAbsent has estimate values) (h' : ExactOrAbsent has' estimate' values')
    (hperm : Option.Rel List.Perm values values') :
    (if has then some estimate else none) = if has' then some estimate' else none := by
  have hpresent : has = true ↔ has' = true := by
    rw [h.present, h'.present]
    cases hperm with
    | none => exact Iff.rfl
    | some hperm => simp only [Option.some_inj, exists_eq_left', hperm.sum_eq, hperm.mem_iff]
  rw [present_eq_iff]
  refine ⟨Bool.eq_iff_iff.2 hpresent, ?_⟩
  intro hhas
  obtain ⟨vs, rfl, -⟩ := h.present.1 hhas
  cases hperm with
  | some hperm =>
    apply UInt64.toNat_inj.1
    have hsum := h.exact hhas _ rfl
    have hsum' := h'.exact (hpresent.1 hhas) _ rfl
    rw [hperm.sum_eq] at hsum
    omega

theorem getSplitEstimates_perm {Split : Type} {lib : SplitLibrary Split} {split split' : Split}
    (h : SameFiles lib split split') (appendOnly : Bool) :
    (getSplitEstimates lib split appendOnly).bytes? = (getSplitEstimates lib split' appendOnly).bytes? ∧
      (getSplitEstimates lib split appendOnly).cardinality? = (getSplitEstimates lib split' appendOnly).cardinality? := by
  obtain ⟨hbytes, hcardinality⟩ := getSplitEstimates_exact lib split appendOnly
  obtain ⟨hbytes', hcardinality'⟩ := getSplitEstimates_exact lib split' appendOnly
  refine ⟨hbytes.eq_of_perm hbytes' (rel_map_perm h.files), hcardinality.eq_of_perm hcardinality' ?_⟩
  unfold rowCounts
  simp only [h.indexed]
  split
  · exact rel_map_perm h.files
  · exact .none

/-! ## Readers of the estimates -/

/-- The envelope with these estimates. -/
def PaimonDistributedSplitEnvelope.withEstimates (envelope : PaimonDistributedSplitEnvelope)
    (estimates : PaimonDistributedSplitEstimates) : PaimonDistributedSplitEnvelope :=
  { envelope with
    hasEstimatedCardinality := estimates.hasCardinality
    estimatedCardinality := estimates.cardinality
    hasEstimatedBytes := estimates.hasBytes
    estimatedBytes := estimates.bytes }

theorem not_invalid_of_deserialize {rt : Runtime} (lawful : rt.binary.Lawful)
    {envelope read : PaimonDistributedSplitEnvelope}
    (h : deserializeSplitEnvelope rt (serializeSplitEnvelope rt envelope) = .ok read) : ¬envelope.canonical.Invalid := by
  unfold deserializeSplitEnvelope at h
  obtain ⟨-, h⟩ := throwIf_bind_eq_ok.1 h
  obtain ⟨result, hresult, h⟩ := bind_eq_ok.1 h
  rw [readSplitEnvelope_serializeSplitEnvelope lawful envelope] at hresult
  cases hresult
  exact (throwIf_bind_eq_ok.1 h).1

/-- Estimates below the index that stands for an absent one make no envelope invalid. -/
theorem not_invalid_withEstimates {envelope : PaimonDistributedSplitEnvelope} {estimates : PaimonDistributedSplitEstimates}
    (hcardinality : estimates.cardinality < idxMaximum) (hbytes : estimates.bytes < idxMaximum)
    (h : ¬(envelope.withEstimates {}).canonical.Invalid) : ¬(envelope.withEstimates estimates).canonical.Invalid := by
  rintro (hset | hid | hschema | hsnapshot | hpayload | ⟨hhas, heq⟩ | ⟨hhas, heq⟩)
  · exact h (.inl hset)
  · exact h (.inr (.inl hid))
  · exact h (.inr (.inr (.inl hschema)))
  · exact h (.inr (.inr (.inr (.inl hsnapshot))))
  · exact h (.inr (.inr (.inr (.inr (.inl hpayload)))))
  · exact UInt64.ne_of_lt hcardinality ((if_pos hhas).symm.trans heq)
  · exact UInt64.ne_of_lt hbytes ((if_pos hhas).symm.trans heq)

section Readers

variable {Split : Type} (rt : Runtime) (lib : SplitLibrary Split) (split : Split) (appendOnly : Bool)

/-- An envelope that opens without estimates opens with those of the split, and gives them back. -/
def AcceptsEstimates (estimates : PaimonDistributedSplitEstimates) : Prop :=
  ∀ envelope read : PaimonDistributedSplitEnvelope,
    deserializeSplitEnvelope rt (serializeSplitEnvelope rt (envelope.withEstimates {})) = .ok read →
    ∃ read', deserializeSplitEnvelope rt (serializeSplitEnvelope rt (envelope.withEstimates estimates)) = .ok read' ∧
      read'.bytes? = estimates.bytes? ∧ read'.cardinality? = estimates.cardinality?

/-- What holds of the estimates of a split. -/
structure SoundEstimates : Prop where
  bytes : ExactOrAbsent (getSplitEstimates lib split appendOnly).hasBytes (getSplitEstimates lib split appendOnly).bytes
    (fileSizes lib split)
  cardinality : ExactOrAbsent (getSplitEstimates lib split appendOnly).hasCardinality
    (getSplitEstimates lib split appendOnly).cardinality (rowCounts lib split appendOnly)
  order : ∀ split', SameFiles lib split split' →
    (getSplitEstimates lib split appendOnly).bytes? = (getSplitEstimates lib split' appendOnly).bytes? ∧
      (getSplitEstimates lib split appendOnly).cardinality? = (getSplitEstimates lib split' appendOnly).cardinality?
  accepted : AcceptsEstimates rt (getSplitEstimates lib split appendOnly)
  bytesIdx : ∃ idx, estimateIdx (getSplitEstimates lib split appendOnly).hasBytes
      (getSplitEstimates lib split appendOnly).bytes = .ok idx ∧
    idx.get? = (getSplitEstimates lib split appendOnly).bytes?
  cardinalityIdx : ∃ idx, estimateIdx (getSplitEstimates lib split appendOnly).hasCardinality
      (getSplitEstimates lib split appendOnly).cardinality = .ok idx ∧
    idx.get? = (getSplitEstimates lib split appendOnly).cardinality?

variable {rt}

theorem acceptsEstimates (lawful : rt.binary.Lawful) : AcceptsEstimates rt (getSplitEstimates lib split appendOnly) := by
  intro envelope read hread
  obtain ⟨hcardinality, hbytes⟩ := getSplitEstimates_lt lib split appendOnly
  have hvalid := not_invalid_withEstimates hcardinality hbytes (not_invalid_of_deserialize lawful hread)
  exact ⟨_, (deserializeSplitEnvelope_serializeSplitEnvelope lawful hvalid).2,
    PaimonDistributedSplitEnvelope.canonical_bytes? _, PaimonDistributedSplitEnvelope.canonical_cardinality? _⟩

/-- The estimates of every split are exact or absent, whatever its files and their order, every
round of the loops adds exactly or not at all, and whoever reads a split takes its estimates. -/
theorem split_estimates_exact (lawful : rt.binary.Lawful) :
    SoundEstimates rt lib split appendOnly ∧
      ∀ (estimate : Estimate) (value : Int64), (estimate.add value).total = estimate.total ∨
        0 ≤ value.toInt ∧ ((estimate.add value).total.toNat : Int) = estimate.total.toNat + value.toInt := by
  obtain ⟨hbytes, hcardinality⟩ := getSplitEstimates_exact lib split appendOnly
  obtain ⟨hcardinalityLt, hbytesLt⟩ := getSplitEstimates_lt lib split appendOnly
  exact ⟨{
    bytes := hbytes
    cardinality := hcardinality
    order := fun _ h => getSplitEstimates_perm h appendOnly
    accepted := acceptsEstimates lib split appendOnly lawful
    bytesIdx := estimateIdx_ok _ hbytesLt
    cardinalityIdx := estimateIdx_ok _ hcardinalityLt }, Estimate.add_total⟩

end Readers

/-- File lists as splits. -/
def fileLists : SplitLibrary (List DataFileMeta) where
  serialize _ := .ok "files"
  deserialize _ := .ok (some [])
  dataSplit files := some files
  indexedSplit _ := none

/-- The third file reaches the limit of the bytes; the row counts stay estimated. -/
theorem split_estimates_exact_limit :
    SoundEstimates (.fixed "" 1 []) fileLists [⟨9223372036854775807, 2⟩, ⟨9223372036854775807, 3⟩, ⟨1, 0⟩] true ∧
      ∀ (estimate : Estimate) (value : Int64), (estimate.add value).total = estimate.total ∨
        0 ≤ value.toInt ∧ ((estimate.add value).total.toNat : Int) = estimate.total.toNat + value.toInt :=
  split_estimates_exact fileLists _ true binaryFormat_lawful

-- the largest total that is reported, and the next one
example : (getSplitEstimates fileLists [⟨9223372036854775807, 2⟩, ⟨9223372036854775807, 3⟩] true).bytes? =
    some 18446744073709551614 := by decide
example : (getSplitEstimates fileLists [⟨1, 2⟩, ⟨9223372036854775807, 3⟩, ⟨9223372036854775807, 0⟩] true).bytes? =
    none := by decide

end DuckPaimon.Scan
