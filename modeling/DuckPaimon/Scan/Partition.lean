/-
Partition pruning (paimon_scan.cpp): `PaimonPushdownFilter` extracts equalities on partition keys
from the filters, as alternatives of partition entries, and Paimon plans only the partitions that
contain an alternative. The partition of a written row on which every filter is TRUE contains one.
-/
import DuckPaimon.Lib.Submap
import DuckPaimon.Scan.Distributed
import DuckPaimon.Scan.Sound
import DuckPaimon.Write.Sink

namespace DuckPaimon.Scan

open Outcome

section Extract

-- `render` is `Value::ToString`
variable (render : Value → String) (get : LogicalGet) (partKeys : List String)

/-- The part of `TryExtractPartitionFilter` after the operands are known to be a column and a
constant: whether it matched, and the partition filter. -/
def extractEquality (partFilter : StringMap) (columnIndex : Nat) (value : Value) :
    Except Exception (Bool × StringMap) := do
  let column ← vectorAt get.columnIds columnIndex
  let name ← get.columnName column
  if name ∉ partKeys then
    return (false, partFilter)
  else if value.isNull then
    return (false, partFilter)
  else
    return (true, partFilter.insert name (render value))

/-- The BOUND_COMPARISON case of `TryExtractPartitionFilter`. -/
def extractComparison (partFilter : StringMap) (type : ExpressionType) (left right : Expression) :
    Except Exception (Bool × StringMap) :=
  if type ≠ .compareEqual then
    return (false, partFilter)
  else
    match left, right with
    | .columnRef i, .constant v => extractEquality render get partKeys partFilter i v
    | .constant v, .columnRef i => extractEquality render get partKeys partFilter i v
    | _, _ => return (false, partFilter)

mutual

/-- `TryExtractPartitionFilter`. -/
def tryExtractPartitionFilter (partFilter : StringMap) : Expression → Except Exception (Bool × StringMap)
  | .comparison type left right => extractComparison render get partKeys partFilter type left right
  | .conjunction type children =>
    if type ≠ .conjunctionAnd then return (false, partFilter) else extractChildren false partFilter children
  | _ => return (false, partFilter)

/-- The loop over the children of an AND. -/
def extractChildren (matched : Bool) (partFilter : StringMap) : List Expression → Except Exception (Bool × StringMap)
  | [] => return (matched, partFilter)
  | child :: children => do
    let (childMatched, partFilter) ← tryExtractPartitionFilter partFilter child
    extractChildren (if childMatched then true else matched) partFilter children

end

/-- One filter, if it matched. -/
def extractOne (filter : Expression) : Except Exception (List StringMap) := do
  let (matched, partFilter) ← tryExtractPartitionFilter render get partKeys .empty filter
  return if matched then [partFilter] else []

/-- The loop over the children of an OR: `none` as soon as one does not match. -/
def extractDisjuncts : List Expression → Except Exception (Option (List StringMap))
  | [] => return some []
  | child :: children => do
    let (matched, partFilter) ← tryExtractPartitionFilter render get partKeys .empty child
    if !matched then return none else return (← extractDisjuncts children).map (partFilter :: ·)

/-- `TryExtractPartitionFilters`. -/
def tryExtractPartitionFilters (filter : Expression) : Except Exception (List StringMap) :=
  match filter with
  | .comparison .. => extractOne render get partKeys filter
  | .conjunction type children =>
    if type = .conjunctionAnd then
      extractOne render get partKeys filter
    else if type = .conjunctionOr then do
      return (← extractDisjuncts render get partKeys children).getD []
    else
      return []
  | _ => return []

/-- The alternatives of every filter that has some. -/
def extractAll : List Expression → Except Exception (List (List StringMap))
  | [] => return []
  | filter :: filters => do
    let partFilter ← tryExtractPartitionFilters render get partKeys filter
    let perExpr ← extractAll filters
    return if partFilter ≠ [] then partFilter :: perExpr else perExpr

/-- The cross-product of the alternatives. -/
def combineFilters : List (List StringMap) → List StringMap
  | [] => []
  | first :: rest => SortedMap.mergeAll first rest

end Extract

/-- `PaimonPushdownFilter`. -/
def paimonPushdownFilter {Split : Type} (reader : ValueReader) (builder : PredicateBuilder) (render : Value → String)
    (get : LogicalGet) (bind : PaimonScanBindData Split) (filters : List Expression) :
    Except Exception (PaimonScanBindData Split) := do
  let predicates ← pushdownPredicates reader builder get filters
  if bind.partKeys = [] then
    return { bind with predicates, partFilters := [] }
  else
    let perExpr ← extractAll render get bind.partKeys filters
    return { bind with predicates, partFilters := combineFilters perExpr }

/-! ## What is extracted -/

/-- The partition `s` of a row holds the row's rendered value under every partition key. -/
def PartitionHolds (render : Value → String) (nullPartName : String) (get : LogicalGet) (partKeys : List String)
    (row : Row) (s : StringMap) : Prop :=
  ∀ column name, get.names[column]? = some name → name ∈ partKeys →
    s.find? name = some (Write.partitionValue render nullPartName (row column))

/-- Constants that equal a partition value of the row are rendered as it is. -/
def RendersEquals (eng : Engine) (render : Value → String) (get : LogicalGet) (partKeys : List String) (row : Row) :
    Prop :=
  ∀ column name, get.names[column]? = some name → name ∈ partKeys →
    ∀ constant, eng.equals (row column) constant = true → render (row column) = render constant

section Sound

variable {eng : Engine} {render : Value → String} {nullPartName : String} {get : LogicalGet} {partKeys : List String}
  {row : Row} {s : StringMap}

/-- An equality that is TRUE compares two values that are not NULL. -/
theorem compareNullable_equal_true {a b : Value} (h : eng.compareNullable .compareEqual a b = some true) :
    a.isNull = false ∧ b.isNull = false ∧ eng.equals a b = true := by
  unfold Engine.compareNullable at h
  dsimp only at h
  split at h
  · cases h
  · rename_i hnull
    rw [Bool.not_eq_true, Bool.or_eq_false_iff] at hnull
    exact ⟨hnull.1, hnull.2, Option.some.inj h⟩

theorem extractEquality_sub (hpartition : PartitionHolds render nullPartName get partKeys row s)
    (hrenders : RendersEquals eng render get partKeys row) {partFilter partFilter' : StringMap} {i : Nat} {v : Value}
    {matched : Bool} (h : extractEquality render get partKeys partFilter i v = .ok (matched, partFilter'))
    (htrue : eng.compareNullable .compareEqual (eval eng get row (.columnRef i)) v = some true)
    (hsub : SortedMap.Sub partFilter s) : SortedMap.Sub partFilter' s := by
  unfold extractEquality at h
  obtain ⟨column, hcolumn, h⟩ := bind_eq_ok.1 h
  obtain ⟨name, hname, h⟩ := bind_eq_ok.1 h
  rw [vectorAt_eq_ok] at hcolumn
  rw [LogicalGet.columnName, vectorAt_eq_ok] at hname
  rw [eval, hcolumn] at htrue
  dsimp only at htrue
  split at h
  · cases pure_eq_ok.1 h
    exact hsub
  · rename_i hkey
    rw [not_not] at hkey
    split at h
    · cases pure_eq_ok.1 h
      exact hsub
    · cases pure_eq_ok.1 h
      obtain ⟨hnull, -, hequals⟩ := compareNullable_equal_true htrue
      refine SortedMap.insert_sub hsub ?_
      rw [hpartition column name hname hkey, Write.partitionValue, hnull, if_neg Bool.false_ne_true,
        hrenders column name hname hkey v hequals]

/-- A constant on the left is compared as on the right. -/
theorem compareNullable_equal_comm (a b : Value) :
    eng.compareNullable .compareEqual a b = eng.compareNullable .compareEqual b a := by
  simp only [Engine.compareNullable, Engine.compare, eng.equals_comm a b, Bool.or_comm]

theorem extractComparison_sub (hpartition : PartitionHolds render nullPartName get partKeys row s)
    (hrenders : RendersEquals eng render get partKeys row) {partFilter partFilter' : StringMap} {type : ExpressionType}
    {left right : Expression} {matched : Bool}
    (h : extractComparison render get partKeys partFilter type left right = .ok (matched, partFilter'))
    (htrue : truth eng get row (.comparison type left right) = some true) (hsub : SortedMap.Sub partFilter s) :
    SortedMap.Sub partFilter' s := by
  unfold extractComparison at h
  rw [truth_comparison] at htrue
  split at h
  · cases pure_eq_ok.1 h
    exact hsub
  · rename_i htype
    rw [ne_eq, not_not] at htype
    subst htype
    split at h
    · exact extractEquality_sub hpartition hrenders h htrue hsub
    · rw [compareNullable_equal_comm] at htrue
      exact extractEquality_sub hpartition hrenders h htrue hsub
    · cases pure_eq_ok.1 h
      exact hsub

mutual

/-- What is extracted from an expression that is TRUE on the row is in the row's partition. -/
theorem tryExtractPartitionFilter_sub (hpartition : PartitionHolds render nullPartName get partKeys row s)
    (hrenders : RendersEquals eng render get partKeys row) :
    ∀ (e : Expression) {partFilter partFilter' : StringMap} {matched : Bool},
      tryExtractPartitionFilter render get partKeys partFilter e = .ok (matched, partFilter') →
      truth eng get row e = some true → SortedMap.Sub partFilter s → SortedMap.Sub partFilter' s
  | .comparison type left right, partFilter, partFilter', matched, h, htrue, hsub => by
    rw [tryExtractPartitionFilter] at h
    exact extractComparison_sub hpartition hrenders h htrue hsub
  | .conjunction type children, partFilter, partFilter', matched, h, htrue, hsub => by
    rw [tryExtractPartitionFilter] at h
    split at h
    · cases pure_eq_ok.1 h
      exact hsub
    · rename_i htype
      rw [ne_eq, not_not] at htype
      subst htype
      rw [truth_and, Ternary.all_eq_true, List.forall_mem_map] at htrue
      exact extractChildren_sub hpartition hrenders children h htrue hsub
  | .columnRef _, _, _, _, h, _, hsub => by cases pure_eq_ok.1 h; exact hsub
  | .constant _, _, _, _, h, _, hsub => by cases pure_eq_ok.1 h; exact hsub
  | .between .., _, _, _, h, _, hsub => by cases pure_eq_ok.1 h; exact hsub
  | .operator .., _, _, _, h, _, hsub => by cases pure_eq_ok.1 h; exact hsub
  | .function .., _, _, _, h, _, hsub => by cases pure_eq_ok.1 h; exact hsub
  | .other .., _, _, _, h, _, hsub => by cases pure_eq_ok.1 h; exact hsub

theorem extractChildren_sub (hpartition : PartitionHolds render nullPartName get partKeys row s)
    (hrenders : RendersEquals eng render get partKeys row) :
    ∀ (children : List Expression) {partFilter partFilter' : StringMap} {matched matched' : Bool},
      extractChildren render get partKeys matched partFilter children = .ok (matched', partFilter') →
      (∀ c ∈ children, truth eng get row c = some true) → SortedMap.Sub partFilter s → SortedMap.Sub partFilter' s
  | [], _, _, _, _, h, _, hsub => by
    rw [extractChildren] at h
    cases pure_eq_ok.1 h
    exact hsub
  | c :: children, _, _, _, _, h, htrue, hsub => by
    rw [extractChildren] at h
    obtain ⟨⟨childMatched, partFilter⟩, hchild, h⟩ := bind_eq_ok.1 h
    have hsub' := tryExtractPartitionFilter_sub hpartition hrenders c hchild (htrue c (.head _)) hsub
    exact extractChildren_sub hpartition hrenders children h (fun c hc => htrue c (.tail _ hc)) hsub'

end

theorem extractOne_anySub (hpartition : PartitionHolds render nullPartName get partKeys row s)
    (hrenders : RendersEquals eng render get partKeys row) {e : Expression} {alternatives : List StringMap}
    (h : extractOne render get partKeys e = .ok alternatives) (htrue : truth eng get row e = some true)
    (hne : alternatives ≠ []) : SortedMap.AnySub alternatives s := by
  unfold extractOne at h
  obtain ⟨⟨matched, partFilter⟩, hextract, h⟩ := bind_eq_ok.1 h
  cases pure_eq_ok.1 h
  cases matched with
  | false => exact absurd rfl hne
  | true =>
    refine ⟨partFilter, .head _, ?_⟩
    exact tryExtractPartitionFilter_sub hpartition hrenders e hextract htrue (SortedMap.empty_sub s)

/-- If every disjunct matched, one of them is TRUE and its alternative is in the partition. -/
theorem extractDisjuncts_anySub (hpartition : PartitionHolds render nullPartName get partKeys row s)
    (hrenders : RendersEquals eng render get partKeys row) {children : List Expression} {alternatives : List StringMap}
    (h : extractDisjuncts render get partKeys children = .ok (some alternatives))
    (htrue : ∃ c ∈ children, truth eng get row c = some true) : SortedMap.AnySub alternatives s := by
  induction children generalizing alternatives with
  | nil =>
    obtain ⟨c, hc, -⟩ := htrue
    cases hc
  | cons child children ih =>
    rw [extractDisjuncts] at h
    obtain ⟨⟨matched, partFilter⟩, hextract, h⟩ := bind_eq_ok.1 h
    cases matched with
    | false => cases pure_eq_ok.1 h
    | true =>
      obtain ⟨rest, hrest, h⟩ := bind_eq_ok.1 h
      cases rest with
      | none => cases pure_eq_ok.1 h
      | some rest =>
        cases pure_eq_ok.1 h
        obtain ⟨c, hc, htrue⟩ := htrue
        rcases List.mem_cons.1 hc with rfl | hc
        · refine ⟨partFilter, .head _, ?_⟩
          exact tryExtractPartitionFilter_sub hpartition hrenders c hextract htrue (SortedMap.empty_sub s)
        · obtain ⟨m, hm, hsub⟩ := ih hrest ⟨c, hc, htrue⟩
          exact ⟨m, .tail _ hm, hsub⟩

theorem tryExtractPartitionFilters_anySub (hpartition : PartitionHolds render nullPartName get partKeys row s)
    (hrenders : RendersEquals eng render get partKeys row) {e : Expression} {alternatives : List StringMap}
    (h : tryExtractPartitionFilters render get partKeys e = .ok alternatives) (htrue : truth eng get row e = some true)
    (hne : alternatives ≠ []) : SortedMap.AnySub alternatives s := by
  unfold tryExtractPartitionFilters at h
  split at h
  · exact extractOne_anySub hpartition hrenders h htrue hne
  · rename_i type children
    split at h
    · exact extractOne_anySub hpartition hrenders h htrue hne
    · split at h
      · rename_i htype
        subst htype
        obtain ⟨disjuncts, hdisjuncts, h⟩ := bind_eq_ok.1 h
        cases pure_eq_ok.1 h
        cases disjuncts with
        | none => exact absurd rfl hne
        | some disjuncts =>
          rw [truth_or, Ternary.any_eq_true, List.mem_map] at htrue
          exact extractDisjuncts_anySub hpartition hrenders hdisjuncts htrue
      · cases pure_eq_ok.1 h
        exact absurd rfl hne
  · cases pure_eq_ok.1 h
    exact absurd rfl hne

theorem extractAll_anySub (hpartition : PartitionHolds render nullPartName get partKeys row s)
    (hrenders : RendersEquals eng render get partKeys row) {filters : List Expression} {perExpr : List (List StringMap)}
    (h : extractAll render get partKeys filters = .ok perExpr) (htrue : ∀ f ∈ filters, truth eng get row f = some true) :
    ∀ alternatives ∈ perExpr, SortedMap.AnySub alternatives s := by
  induction filters generalizing perExpr with
  | nil =>
    cases pure_eq_ok.1 h
    exact nofun
  | cons f filters ih =>
    rw [extractAll] at h
    obtain ⟨alternatives, hextract, h⟩ := bind_eq_ok.1 h
    obtain ⟨rest, hrest, h⟩ := bind_eq_ok.1 h
    have hall := ih hrest fun f hf => htrue f (.tail _ hf)
    cases pure_eq_ok.1 h
    split
    · rename_i hne
      rw [List.forall_mem_cons]
      exact ⟨tryExtractPartitionFilters_anySub hpartition hrenders hextract (htrue f (.head _)) hne, hall⟩
    · exact hall

/-- The stored alternatives leave the row's partition in. -/
theorem paimonPushdownFilter_anySub {Split : Type} {reader : ValueReader} {builder : PredicateBuilder}
    {bind bind' : PaimonScanBindData Split} {filters : List Expression}
    (h : paimonPushdownFilter reader builder render get bind filters = .ok bind')
    (hpartition : PartitionHolds render nullPartName get bind.partKeys row s)
    (hrenders : RendersEquals eng render get bind.partKeys row)
    (htrue : ∀ f ∈ filters, truth eng get row f = some true) :
    bind'.partFilters = [] ∨ SortedMap.AnySub bind'.partFilters s := by
  unfold paimonPushdownFilter at h
  obtain ⟨predicates, -, h⟩ := bind_eq_ok.1 h
  split at h
  · cases pure_eq_ok.1 h
    exact .inl rfl
  · obtain ⟨perExpr, hextract, h⟩ := bind_eq_ok.1 h
    cases pure_eq_ok.1 h
    have hall := extractAll_anySub hpartition hrenders hextract htrue
    cases perExpr with
    | nil => exact .inl rfl
    | cons first rest => exact .inr (SortedMap.mergeAll_anySub.2 (List.forall_mem_cons.1 hall))

end Sound

/-! ## Written rows -/

/-- The row of a chunk, by the columns of the table. -/
def chunkRow (chunk : Write.DataChunk) (index : Nat) : Row := fun column =>
  match chunk.columns[column]? with
  | some values => values.getValue index
  | none => .null { id := .invalid }

/-- The partition a sink writes a row under holds the row's partition values. -/
theorem partitionHolds_of_issued {render : Value → String} {get : LogicalGet} {partKeys : List String}
    {partColIdxs : List Nat} {missing : String → Exception} {nullPartName : String} {chunk : Write.DataChunk}
    {writes : List Write.PartitionWrite} (hnodup : get.names.Nodup)
    (hidxs : Write.findPartColIdxs get.names missing partKeys = .ok partColIdxs)
    (hissued : Write.IssuedBy render chunk partKeys partColIdxs nullPartName writes)
    {write : Write.PartitionWrite} (hwrite : write ∈ writes) {index : Nat} (hindex : index ∈ write.rows) :
    PartitionHolds render nullPartName get partKeys (chunkRow chunk index) write.partition := by
  intro column name hcolumn hkey
  obtain ⟨hpresent, rfl⟩ := Write.findPartColIdxs_eq_ok.1 hidxs
  have hpartitioned : partKeys.map get.names.idxOf ≠ [] := List.ne_nil_of_mem (List.mem_map_of_mem hkey)
  obtain ⟨columns, hmap, hle⟩ := hissued.chunkWrites hpartitioned (List.ne_nil_of_mem hwrite)
  obtain ⟨key, hpartition, -, hrows⟩ := Write.mem_groupWrites (hle.subset hwrite)
  have hcolumnOf : get.names.idxOf name = column := by
    obtain ⟨hlt, heq⟩ := List.getElem?_eq_some_iff.1 hcolumn
    rw [← heq]
    exact List.Nodup.idxOf_getElem hnodup column hlt
  have hlength : columns.length = partKeys.length := by
    have := congrArg List.length hmap
    simpa using this.symm
  -- the key of the row, entry by entry
  have hentry (i : Nat) (hi : i < partKeys.length) (hi' : i < columns.length) :
      chunk.columns[get.names.idxOf partKeys[i]]? = some columns[i] := by
    have := congrArg (·[i]?) hmap
    simpa [hi, hi'] using this
  rw [hpartition, ← ((hrows index).1 hindex).2, Write.rowKey_eq]
  refine SortedMap.find?_foldl_insert_of_eq _ _ ?_ (.inr ?_)
  · intro e he hname
    obtain ⟨i, hi, rfl⟩ := List.mem_iff_getElem.1 he
    rw [List.length_zip, List.length_map] at hi
    have hfound := hentry i (by omega) (by omega)
    simp only [List.getElem_zip, List.getElem_map] at hname ⊢
    rw [hname, hcolumnOf] at hfound
    rw [chunkRow, hfound]
  · have hfst : (partKeys.zip (columns.map fun column =>
        Write.partitionValue render nullPartName (column.getValue index))).map Prod.fst = partKeys :=
      List.map_fst_zip (by rw [List.length_map]; omega)
    rw [← hfst, List.mem_map] at hkey
    exact hkey

/-- Pruning never loses a written row: under the alternatives stored for filters that are all TRUE
on a row a sink has written, the partition the row is written under is read. -/
theorem pruning_keeps_written_rows {Split : Type} {eng : Engine} {reader : ValueReader} {builder : PredicateBuilder}
    {render : Value → String} {get : LogicalGet} {bind bind' : PaimonScanBindData Split} {filters : List Expression}
    {missing : String → Exception} {partColIdxs : List Nat} {nullPartName : String} {chunk : Write.DataChunk}
    {writes : List Write.PartitionWrite} (hnodup : get.names.Nodup)
    (hidxs : Write.findPartColIdxs get.names missing bind.partKeys = .ok partColIdxs)
    (hissued : Write.IssuedBy render chunk bind.partKeys partColIdxs nullPartName writes)
    (hrenders : ∀ index, RendersEquals eng render get bind.partKeys (chunkRow chunk index))
    (hstored : paimonPushdownFilter reader builder render get bind filters = .ok bind') :
    ∀ write ∈ writes, ∀ index ∈ write.rows, (∀ f ∈ filters, truth eng get (chunkRow chunk index) f = some true) →
      bind'.partFilters = [] ∨
        ∃ filter ∈ bind'.partFilters, ∀ entry ∈ filter.entries, entry ∈ write.partition.entries := by
  intro write hwrite index hindex htrue
  have hpartition := partitionHolds_of_issued hnodup hidxs hissued hwrite hindex
  rcases paimonPushdownFilter_anySub hstored hpartition (hrenders index) htrue with hnil | ⟨filter, hfilter, hsub⟩
  · exact .inl hnil
  · refine .inr ⟨filter, hfilter, fun entry hentry => ?_⟩
    exact (SortedMap.find?_eq_some _ _ _).1 (SortedMap.sub_iff_entries.1 hsub entry hentry)

/-! ## A pruned scan -/

namespace Sample

/-- Reads VARCHAR constants. -/
def textReader : ValueReader :=
  { reader with
    getString := fun v => match v.stored with
      | some (.string text) => .ok text
      | _ => .error (.conversion "not a VARCHAR") }

/-- Compares by equality. -/
def textEngine : Engine :=
  { engine with
    equals := fun a b => decide (a = b)
    equals_comm := fun a b => by simp [eq_comm] }

/-- A scan of a VARCHAR column, the partition key. -/
def textScan : LogicalGet where
  columnIds := [0]
  names := ["p"]
  returnedTypes := [{ id := .varchar }]

def textBind : PaimonScanBindData Unit where
  path := ⟨"w", "d", "t"⟩
  tableDataPath := "w/d.db/t"
  paimonOptions := .empty
  partKeys := ["p"]
  tableSchemaJson := "json"
  distributed := {}

/-- `p = text`. -/
def equalsText (text : String) : Expression :=
  .comparison .compareEqual (.columnRef 0) (.constant ⟨{ id := .varchar }, some (.string text)⟩)

end Sample

/-- `p = 'a' OR p = 'b'` reads the partition of a row that holds `a`. -/
theorem pruning_keeps_written_rows_sample :
    ∃ filter ∈ ([SortedMap.empty.insert "p" "a", SortedMap.empty.insert "p" "b"] : List StringMap),
      ∀ entry ∈ filter.entries, entry ∈ (SortedMap.empty.insert "p" "a" : StringMap).entries := by
  have hissued : Write.IssuedBy Write.Sample.renderText (Write.Sample.chunk "a" "a") Sample.textBind.partKeys [0] "N" _ :=
    .native _ _ _ _ Write.Sample.sink_chunk
  have hstored : paimonPushdownFilter Sample.textReader Sample.builder Write.Sample.renderText Sample.textScan
      Sample.textBind [.conjunction .conjunctionOr [Sample.equalsText "a", Sample.equalsText "b"]] =
        .ok { Sample.textBind with
          predicates := some (.and [.or [.leaf .equal 0 "p" .string [.string "a"], .leaf .equal 0 "p" .string [.string "b"]]])
          partFilters := [SortedMap.empty.insert "p" "a", SortedMap.empty.insert "p" "b"] } := rfl
  have hidxs : Write.nativePartColIdxs Sample.textScan.names Sample.textBind.partKeys = .ok [0] := rfl
  have hrenders (index : Nat) : RendersEquals Sample.textEngine Write.Sample.renderText Sample.textScan
      Sample.textBind.partKeys (chunkRow (Write.Sample.chunk "a" "a") index) :=
    fun column name _ _ constant h => by rw [of_decide_eq_true h]
  have hkept := pruning_keeps_written_rows (List.nodup_singleton _) hidxs hissued hrenders hstored
    ⟨SortedMap.empty.insert "p" "a", [0, 2]⟩ (.tail _ (.head _)) 0 (.head _) (by decide)
  exact hkept.resolve_left (List.cons_ne_nil _ _)

end DuckPaimon.Scan
