/-
Which rows a scan emits: any number of local states take splits from one counter and are polled in
any order, each until a call leaves the output chunk empty.

A batch without rows leaves the output chunk empty too, so the local state that reads it is not polled
again; what the scan promises holds where such batches only end the last split.
-/
import DuckPaimon.Lib.Run
import DuckPaimon.Scan.Execute

namespace DuckPaimon.Scan

open Outcome

variable {Split Array Cell : Type}

section Runs

variable (lib : ReadLibrary Split Array Cell) (bind : PaimonScanBindData Split)

/-! ## Rows -/

/-- The rows of a batch: the cells of the projected columns. -/
def batchRows (start : PaimonScanGlobalState Split) (columnIds : List Nat) (batch : ReadBatch Array) :
    List (List Cell) :=
  match fillChunk lib start columnIds batch with
  | .ok chunk => OutputChunk.rows { chunk with cardinality := batch.length }
  | .error _ => []

/-- The rows of what a reader still returns. -/
def readerRows (start : PaimonScanGlobalState Split) (columnIds : List Nat) (reader : List (Result (ReadBatch Array))) :
    List (List Cell) :=
  reader.flatMap fun returned =>
    match returned with
    | .ok batch => batchRows lib start columnIds batch
    | .error _ => []

/-- The rows of a split. -/
def splitRows (start : PaimonScanGlobalState Split) (columnIds : List Nat) (split : Split) : List (List Cell) :=
  match lib.createReader (readContext bind start columnIds) split with
  | .ok reader => readerRows lib start columnIds reader
  | .error _ => []

/-! ## Runs of a scan -/

/-- A scan: its global state, and its local states with whether a call has left them an empty chunk. -/
structure ScanState (Split Array : Type) where
  global : PaimonScanGlobalState Split
  locals : List (PaimonScanLocalState Array × Bool) := []

/-- A call that returned: the local state it made or polled, the chunk it filled and the splits it
opened. -/
structure ScanRecord (Cell : Type) where
  localState : Nat
  chunk : OutputChunk Cell
  opened : List OpenedSplit

/-- One call. A local state is polled until its chunk stays empty. -/
inductive ScanStep (columnIds : List Nat) (s : ScanState Split Array) : ScanRecord Cell → ScanState Split Array → Prop
  | initLocal {state : PaimonScanLocalState Array} {global : PaimonScanGlobalState Split} {opened : List OpenedSplit}
      (run : (paimonScanInitLocal lib bind columnIds).run s.global = (.ok state, global, opened)) :
      ScanStep columnIds s ⟨s.locals.length, {}, opened⟩ { global, locals := s.locals ++ [(state, false)] }
  | scan (i : Nat) {state state' : PaimonScanLocalState Array} {global : PaimonScanGlobalState Split}
      {chunk : OutputChunk Cell} {opened : List OpenedSplit} (found : s.locals[i]? = some (state, false))
      (run : (paimonScan lib bind).run (s.global, state) = (.ok chunk, (global, state'), opened)) :
      ScanStep columnIds s ⟨i, chunk, opened⟩
        { global, locals := s.locals.set i (state', decide (chunk.cardinality = 0)) }

/-- The rows a run emitted. -/
def emittedIn (history : List (ScanRecord Cell)) : List (List Cell) := history.flatMap fun record => record.chunk.rows

/-- The splits a run opened, each with the local state that opened it. -/
def openedIn (history : List (ScanRecord Cell)) : List (Nat × Nat) :=
  history.flatMap fun record => record.opened.map fun opened => (record.localState, opened.index)

/-- A batch without rows comes only at the end of the last split. -/
def EmptyOnlyAtEnd (start : PaimonScanGlobalState Split) (columnIds : List Nat) : Prop :=
  ∀ k split reader before batch after, start.splits[k]? = some split →
    lib.createReader (readContext bind start columnIds) split = .ok reader → reader = before ++ .ok batch :: after →
    batch.length = 0 → k + 1 = start.splits.length ∧ ∀ b, .ok b ∈ after → b.length = 0

/-! ## What a call draws -/

/-- What a local state reads is the rest of a split that was opened; an exhausted one has found no
more splits. -/
structure Reads (start : PaimonScanGlobalState Split) (columnIds : List Nat) (index : Nat)
    (state : PaimonScanLocalState Array) : Prop where
  readColumnIds : state.readColumnIds = columnIds
  reader : state.batchReader = [] ∨ ∃ k split reader before, k < index ∧ start.splits[k]? = some split ∧
    lib.createReader (readContext bind start columnIds) split = .ok reader ∧ reader = before ++ state.batchReader
  exhausted : state.exhausted = true → start.splits.length ≤ index ∧ state.batchReader = []

/-- Between two states of the counter and of one local state, these splits were opened and these rows
taken out of the reader. -/
structure Draws (start : PaimonScanGlobalState Split) (columnIds : List Nat) (index : Nat)
    (state : PaimonScanLocalState Array) (index' : Nat) (state' : PaimonScanLocalState Array)
    (opened : List OpenedSplit) (taken : List (List Cell)) : Prop where
  le : index ≤ index'
  opened : List.range (min index start.splits.length) ++ opened.map OpenedSplit.index =
    List.range (min index' start.splits.length)
  rows : ∃ new, (start.splits.take index').flatMap (splitRows lib bind start columnIds) =
      (start.splits.take index).flatMap (splitRows lib bind start columnIds) ++ new ∧
    readerRows lib start columnIds state.batchReader ++ new = taken ++ readerRows lib start columnIds state'.batchReader

end Runs

section Calls

variable {lib : ReadLibrary Split Array Cell} {bind : PaimonScanBindData Split} {start : PaimonScanGlobalState Split}
  {columnIds : List Nat}

theorem Draws.trans {index index' index'' : Nat} {state state' state'' : PaimonScanLocalState Array}
    {opened opened' : List OpenedSplit} {taken : List (List Cell)}
    (h : Draws lib bind start columnIds index state index' state' opened [])
    (h' : Draws lib bind start columnIds index' state' index'' state'' opened' taken) :
    Draws lib bind start columnIds index state index'' state'' (opened ++ opened') taken := by
  obtain ⟨new, hall, hnew⟩ := h.rows
  obtain ⟨new', hall', hnew'⟩ := h'.rows
  refine ⟨h.le.trans h'.le, ?_, new ++ new', ?_, ?_⟩
  · rw [List.map_append, ← List.append_assoc, h.opened, h'.opened]
  · rw [hall', hall, List.append_assoc]
  · rw [← List.append_assoc, hnew, List.nil_append, hnew']

/-- What `NextSplit` does. -/
theorem wp_nextSplit (index : Nat) (state : PaimonScanLocalState Array) (hstate : state.readColumnIds = columnIds)
    (hopen : state.exhausted = false) (hreader : state.batchReader = []) :
    (nextSplit lib bind).wp ({ start with splitIndex := index }, state) fun r s' opened =>
      ∀ more, r = .ok more → ∃ state', s' = ({ start with splitIndex := index + 1 }, state') ∧
        Reads lib bind start columnIds (index + 1) state' ∧
        Draws lib bind start columnIds index state (index + 1) state' opened [] ∧
        (more = true → index < start.splits.length) ∧
        (more = false → state'.batchReader = [] ∧ start.splits.length ≤ index) := by
  unfold nextSplit
  rw [Proc.wp_bind, Proc.wp_get]
  show Proc.wp _ _ _
  rw [Proc.wp_bind, Proc.wp_modify]
  show Proc.wp _ _ _
  subst hstate
  rcases hsplit : start.splits[index]? with _ | split
  · -- no split is left
    have hle : start.splits.length ≤ index := List.getElem?_eq_none_iff.1 hsplit
    show Proc.wp _ _ _
    rw [Proc.wp_bind, Proc.wp_modify]
    refine (Proc.wp_pure _ _ _).2 fun more hmore => ?_
    cases hmore
    refine ⟨_, rfl, ⟨rfl, .inl hreader, fun _ => ⟨Nat.le_succ_of_le hle, hreader⟩⟩, ⟨Nat.le_succ _, ?_, [], ?_, ?_⟩,
      nofun, fun _ => ⟨hreader, hle⟩⟩
    · rw [Nat.min_eq_right hle, Nat.min_eq_right (Nat.le_succ_of_le hle)]
      exact List.append_nil _
    · rw [List.take_of_length_le hle, List.take_of_length_le (Nat.le_succ_of_le hle), List.append_nil]
    · rw [List.append_nil, List.nil_append]
  · have hlt : index < start.splits.length := (List.getElem?_eq_some_iff.1 hsplit).1
    show Proc.wp _ _ _
    rw [Proc.wp_bind, Proc.wp_call]
    show Proc.wp _ _ _
    rw [Proc.wp_bind, Proc.wp_ofExcept]
    dsimp only
    -- the counter is no part of the context
    have hcontext : readContext bind { start with splitIndex := index } state.readColumnIds =
        readContext bind start state.readColumnIds := rfl
    rw [hcontext]
    rcases hcreate : lib.createReader (readContext bind start state.readColumnIds) split with status | reader
    · exact nofun
    · show Proc.wp _ _ _
      rw [Proc.wp_bind, Proc.wp_modify]
      refine (Proc.wp_pure _ _ _).2 fun more hmore => ?_
      cases hmore
      have hrows : splitRows lib bind start state.readColumnIds split = readerRows lib start state.readColumnIds reader := by
        unfold splitRows
        rw [hcreate]
      refine ⟨_, rfl, ⟨rfl, .inr ⟨index, split, reader, [], Nat.lt_succ_self _, hsplit, hcreate, rfl⟩, ?_⟩,
        ⟨Nat.le_succ _, ?_, splitRows lib bind start state.readColumnIds split, ?_, ?_⟩, fun _ => hlt, nofun⟩
      · intro hexhausted
        exact absurd (hexhausted.symm.trans hopen) Bool.noConfusion
      · rw [Nat.min_eq_left hlt.le, Nat.min_eq_left hlt]
        exact List.range_succ.symm
      · rw [List.take_add_one, hsplit, List.flatMap_append]
        simp
      · rw [hreader, hrows]
        rfl

/-- What a batch is the next of: the reader of a split that was opened. -/
def Next (lib : ReadLibrary Split Array Cell) (bind : PaimonScanBindData Split) (start : PaimonScanGlobalState Split)
    (columnIds : List Nat) (index : Nat) (batch : ReadBatch Array) (rest : List (Result (ReadBatch Array))) : Prop :=
  ∃ k split reader before, k < index ∧ start.splits[k]? = some split ∧
    lib.createReader (readContext bind start columnIds) split = .ok reader ∧ reader = before ++ .ok batch :: rest

/-- What `NextBatch` returns: rows of the next batch, or nothing once no split is left. -/
structure Delivers (lib : ReadLibrary Split Array Cell) (bind : PaimonScanBindData Split)
    (start : PaimonScanGlobalState Split) (columnIds : List Nat) (index : Nat) (state : PaimonScanLocalState Array)
    (batch : Option (ReadBatch Array)) (s' : PaimonScanGlobalState Split × PaimonScanLocalState Array)
    (opened : List OpenedSplit) : Prop where
  global : s'.1 = { start with splitIndex := s'.1.splitIndex }
  reads : Reads lib bind start columnIds s'.1.splitIndex s'.2
  draws : Draws lib bind start columnIds index state s'.1.splitIndex s'.2 opened
    (batch.elim [] (batchRows lib start columnIds))
  next : ∀ b, batch = some b → Next lib bind start columnIds s'.1.splitIndex b s'.2.batchReader
  eof : batch = none → start.splits.length ≤ s'.1.splitIndex ∧ s'.2.batchReader = []

/-- With a round for every split that is left and one more, the loop does not run out of rounds. -/
theorem wp_nextBatchLoop (rounds index : Nat) (state : PaimonScanLocalState Array)
    (hreads : Reads lib bind start columnIds index state) (hrounds : start.splits.length - index < rounds) :
    (nextBatchLoop lib bind rounds).wp ({ start with splitIndex := index }, state) fun r s' opened =>
      ∀ batch, r = .ok batch → Delivers lib bind start columnIds index state batch s' opened := by
  induction rounds generalizing index state with
  | zero => omega
  | succ rounds ih =>
    have hstays : Draws lib bind start columnIds index state index state [] [] := by
      refine ⟨Nat.le_refl _, List.append_nil _, [], (List.append_nil _).symm, ?_⟩
      rw [List.append_nil, List.nil_append]
    unfold nextBatchLoop
    rw [Proc.wp_bind, Proc.wp_get]
    show Proc.wp _ _ _
    rw [Proc.wp_ite]
    split
    · rename_i hexhausted
      refine (Proc.wp_pure _ _ _).2 fun batch hbatch => ?_
      cases hbatch
      exact ⟨rfl, hreads, hstays, nofun, fun _ => hreads.exhausted hexhausted⟩
    · rename_i hexhausted
      have hopen : state.exhausted = false := Bool.not_eq_true _ ▸ hexhausted
      rcases hreader : state.batchReader with _ | ⟨status | batch, rest⟩
      · -- the split is at its end
        show Proc.wp _ _ _
        rw [Proc.wp_bind]
        refine Proc.wp_mono (wp_nextSplit index state hreads.readColumnIds hopen hreader) ?_
        rintro (e | more) s' opened hnext
        · exact nofun
        · obtain ⟨state', rfl, hreads', hdraws, hleft, hnone⟩ := hnext more rfl
          show Proc.wp _ _ _
          rw [Proc.wp_ite]
          split
          · rename_i hmore
            have hlt := hleft hmore
            refine Proc.wp_mono (ih (index + 1) state' hreads' (by omega)) ?_
            intro r s'' opened' hrest batch hbatch
            have hdelivers := hrest batch hbatch
            exact ⟨hdelivers.global, hdelivers.reads, hdraws.trans hdelivers.draws, hdelivers.next, hdelivers.eof⟩
          · rename_i hmore
            obtain ⟨hend, hle⟩ := hnone (Bool.not_eq_true _ ▸ hmore)
            refine (Proc.wp_pure _ _ _).2 fun batch hbatch => ?_
            cases hbatch
            rw [List.append_nil]
            exact ⟨rfl, hreads', hdraws, nofun, fun _ => ⟨Nat.le_succ_of_le hle, hend⟩⟩
      · exact (Proc.wp_throw _ _ _).2 nofun
      · -- the reader returned a batch
        show Proc.wp _ _ _
        rw [Proc.wp_bind, Proc.wp_modify]
        refine (Proc.wp_pure _ _ _).2 fun b hb => ?_
        cases hb
        have hnext : Next lib bind start columnIds index batch rest := by
          rcases hreads.reader with hnil | ⟨k, split, reader, before, hk, hsplit, hcreate, hrest⟩
          · rw [hreader] at hnil
            cases hnil
          · exact ⟨k, split, reader, before, hk, hsplit, hcreate, hreader ▸ hrest⟩
        obtain ⟨k, split, reader, before, hk, hsplit, hcreate, hrest⟩ := hnext
        refine ⟨rfl, ⟨hreads.readColumnIds, .inr ⟨k, split, reader, before ++ [.ok batch], hk, hsplit, hcreate, ?_⟩, ?_⟩,
          ⟨Nat.le_refl _, List.append_nil _, [], (List.append_nil _).symm, ?_⟩, ?_, nofun⟩
        · rw [hrest, List.append_assoc]
          rfl
        · exact fun hexhausted' => absurd hexhausted' hexhausted
        · rw [List.append_nil, hreader]
          exact List.flatMap_cons
        · rintro _ ⟨⟩
          exact ⟨k, split, reader, before, hk, hsplit, hcreate, hrest⟩

theorem wp_nextBatch (index : Nat) (state : PaimonScanLocalState Array)
    (hreads : Reads lib bind start columnIds index state) :
    (nextBatch lib bind).wp ({ start with splitIndex := index }, state) fun r s' opened =>
      ∀ batch, r = .ok batch → Delivers lib bind start columnIds index state batch s' opened := by
  unfold nextBatch
  rw [Proc.wp_bind, Proc.wp_get]
  exact wp_nextBatchLoop _ index state hreads (Nat.lt_succ_self _)

/-- Every reader of the scan delivers batches of at most the size of a vector. -/
def FitsVector (lib : ReadLibrary Split Array Cell) (bind : PaimonScanBindData Split) (start : PaimonScanGlobalState Split)
    (columnIds : List Nat) : Prop :=
  ∀ split ∈ start.splits, ∀ reader, lib.createReader (readContext bind start columnIds) split = .ok reader →
    ∀ batch, .ok batch ∈ reader → batch.length ≤ standardVectorSize

theorem fillChunk_cardinality {global : PaimonScanGlobalState Split} {batch : ReadBatch Array} {chunk : OutputChunk Cell}
    (h : fillChunk lib global columnIds batch = .ok chunk) : chunk.cardinality = min standardVectorSize batch.length := by
  unfold fillChunk at h
  obtain ⟨types, -, h⟩ := bind_eq_ok.1 h
  rcases harray : batch.array with _ | array
  · rw [harray] at h
    cases h
  · rw [harray] at h
    obtain ⟨columns, -, h⟩ := bind_eq_ok.1 h
    obtain rfl := pure_eq_ok.1 h
    show min standardVectorSize array.length = min standardVectorSize batch.length
    unfold ReadBatch.length
    rw [harray]

/-- A batch that fits a vector is emitted whole. -/
theorem batchRows_eq {batch : ReadBatch Array} {chunk : OutputChunk Cell} (h : fillChunk lib start columnIds batch = .ok chunk)
    (hlength : batch.length ≤ standardVectorSize) : batchRows lib start columnIds batch = chunk.rows := by
  have hcardinality : chunk.cardinality = batch.length := (fillChunk_cardinality h).trans (Nat.min_eq_right hlength)
  unfold batchRows
  rw [h, ← hcardinality]

theorem batchRows_empty {batch : ReadBatch Array} (h : batch.length = 0) : batchRows lib start columnIds batch = [] := by
  unfold batchRows
  split
  · rw [h]
    rfl
  · rfl

theorem readerRows_empty {reader : List (Result (ReadBatch Array))} (h : ∀ batch, .ok batch ∈ reader → batch.length = 0) :
    readerRows lib start columnIds reader = [] := by
  unfold readerRows
  rw [List.flatMap_eq_nil_iff]
  rintro (status | batch) hmem
  · rfl
  · exact batchRows_empty (h batch hmem)

/-- What a call that returns emits; an empty chunk says that nothing is left. -/
theorem wp_paimonScan (index : Nat) (state : PaimonScanLocalState Array)
    (hreads : Reads lib bind start columnIds index state) (hfits : FitsVector lib bind start columnIds)
    (hempty : EmptyOnlyAtEnd lib bind start columnIds) :
    (paimonScan lib bind).wp ({ start with splitIndex := index }, state) fun r s' opened =>
      ∀ chunk, r = .ok chunk → s'.1 = { start with splitIndex := s'.1.splitIndex } ∧
        Reads lib bind start columnIds s'.1.splitIndex s'.2 ∧
        Draws lib bind start columnIds index state s'.1.splitIndex s'.2 opened chunk.rows ∧
        (chunk.cardinality = 0 →
          start.splits.length ≤ s'.1.splitIndex ∧ readerRows lib start columnIds s'.2.batchReader = []) := by
  unfold paimonScan
  rw [Proc.wp_bind]
  refine Proc.wp_mono (wp_nextBatch index state hreads) ?_
  rintro (e | batch) s' opened hnext
  · exact nofun
  · have hdelivers := hnext batch rfl
    cases batch with
    | none =>
      refine (Proc.wp_pure _ _ _).2 fun chunk hchunk => ?_
      cases hchunk
      rw [List.append_nil]
      obtain ⟨hle, hend⟩ := hdelivers.eof rfl
      refine ⟨hdelivers.global, hdelivers.reads, hdelivers.draws, fun _ => ⟨hle, ?_⟩⟩
      rw [hend]
      rfl
    | some batch =>
      show Proc.wp _ _ _
      rw [Proc.wp_bind, Proc.wp_get]
      show Proc.wp _ _ _
      rw [Proc.wp_ofExcept]
      intro chunk hchunk
      have hfill : fillChunk lib start columnIds batch = .ok chunk := by
        rw [hdelivers.global, hdelivers.reads.readColumnIds] at hchunk
        exact hchunk
      obtain ⟨k, split, reader, before, hk, hsplit, hcreate, hreader⟩ := hdelivers.next batch rfl
      have hmem : .ok batch ∈ reader := by simp [hreader]
      have hlength := hfits split (List.mem_of_getElem? hsplit) reader hcreate batch hmem
      have hdraws := hdelivers.draws
      rw [Option.elim_some, batchRows_eq hfill hlength] at hdraws
      rw [List.append_nil, List.append_nil]
      refine ⟨hdelivers.global, hdelivers.reads, hdraws, fun hcardinality => ?_⟩
      rw [fillChunk_cardinality hfill, Nat.min_eq_right hlength] at hcardinality
      -- the empty batch ends the last split
      obtain ⟨hlast, hafter⟩ := hempty k split reader before batch _ hsplit hcreate hreader hcardinality
      exact ⟨by omega, readerRows_empty hafter⟩

/-- The ids of a local state are those it was given. -/
theorem readColumnIds_eq_ok {ids : List Nat} (h : readColumnIds bind columnIds = .ok ids) : ids = columnIds := by
  unfold readColumnIds at h
  induction columnIds generalizing ids with
  | nil =>
    cases h
    rfl
  | cons columnId columnIds ih =>
    rw [List.mapM_cons] at h
    obtain ⟨id, hid, h⟩ := bind_eq_ok.1 h
    obtain ⟨rest, hrest, h⟩ := bind_eq_ok.1 h
    obtain rfl := pure_eq_ok.1 h
    obtain ⟨-, hid⟩ := throwIf_bind_eq_ok.1 hid
    obtain ⟨-, hid⟩ := throwIf_bind_eq_ok.1 hid
    obtain ⟨-, hid⟩ := throwIf_bind_eq_ok.1 hid
    rw [pure_eq_ok.1 hid, ih hrest]

/-- What a new local state has taken. -/
theorem wp_paimonScanInitLocal (index : Nat) :
    (paimonScanInitLocal lib bind columnIds).wp { start with splitIndex := index } fun r global opened =>
      ∀ state, r = .ok state → global = { start with splitIndex := global.splitIndex } ∧
        Reads lib bind start columnIds global.splitIndex state ∧
        Draws lib bind start columnIds index { readColumnIds := columnIds } global.splitIndex state opened [] := by
  unfold paimonScanInitLocal
  rw [Proc.wp_bind, Proc.wp_ofExcept]
  rcases hids : readColumnIds bind columnIds with e | ids
  · exact nofun
  · obtain rfl := readColumnIds_eq_ok hids
    show Proc.wp _ _ _
    rw [Proc.wp_alloc]
    refine Proc.wp_mono (wp_nextSplit index { readColumnIds := ids } rfl rfl rfl) ?_
    rintro (e | more) s' opened hnext
    · exact nofun
    · intro state hstate
      obtain ⟨state', rfl, hreads, hdraws, -, -⟩ := hnext more rfl
      cases hstate
      exact ⟨rfl, hreads, hdraws⟩

end Calls

/-! ## What a run has taken -/

section Invariant

variable (lib : ReadLibrary Split Array Cell) (bind : PaimonScanBindData Split) (start : PaimonScanGlobalState Split)
  (columnIds : List Nat)

/-- What the local states still have to return. -/
def heldRows (locals : List (PaimonScanLocalState Array × Bool)) : List (List Cell) :=
  locals.flatMap fun state => readerRows lib start columnIds state.1.batchReader

/-- The splits below the counter were opened once each; their rows were emitted or are held by a local
state, and a local state that is not polled again holds none and leaves no split behind. -/
structure Shared (history : List (ScanRecord Cell)) (s : ScanState Split Array) : Prop where
  global : s.global = { start with splitIndex := s.global.splitIndex }
  reads : ∀ state ∈ s.locals, Reads lib bind start columnIds s.global.splitIndex state.1
  opened : (openedIn history).map Prod.snd = List.range (min s.global.splitIndex start.splits.length)
  rows : (emittedIn history ++ heldRows lib start columnIds s.locals).Perm
    ((start.splits.take s.global.splitIndex).flatMap (splitRows lib bind start columnIds))
  finished : ∀ state ∈ s.locals, state.2 = true →
    start.splits.length ≤ s.global.splitIndex ∧ readerRows lib start columnIds state.1.batchReader = []

end Invariant

section Steps

variable {lib : ReadLibrary Split Array Cell} {bind : PaimonScanBindData Split} {start : PaimonScanGlobalState Split}
  {columnIds : List Nat}

theorem Reads.mono {index index' : Nat} {state : PaimonScanLocalState Array}
    (h : Reads lib bind start columnIds index state) (hle : index ≤ index') :
    Reads lib bind start columnIds index' state := by
  refine ⟨h.readColumnIds, h.reader.imp id ?_, fun hexhausted => ?_⟩
  · rintro ⟨k, split, reader, before, hk, hrest⟩
    exact ⟨k, split, reader, before, hk.trans_le hle, hrest⟩
  · obtain ⟨hend, hnil⟩ := h.exhausted hexhausted
    exact ⟨hend.trans hle, hnil⟩

theorem shared_start (hindex : start.splitIndex = 0) : Shared lib bind start columnIds [] { global := start } := by
  refine ⟨rfl, nofun, ?_, ?_, nofun⟩
  · rw [hindex, Nat.zero_min]
    rfl
  · rw [hindex]
    exact .nil

/-- One entry of a list replaced. -/
theorem set_eq_append {α : Type} {xs : List α} {i : Nat} {x : α} (h : xs[i]? = some x) (y : α) :
    ∃ before after, xs = before ++ x :: after ∧ xs.set i y = before ++ y :: after := by
  obtain ⟨hi, rfl⟩ := List.getElem?_eq_some_iff.1 h
  refine ⟨xs.take i, xs.drop (i + 1), ?_, List.set_eq_take_append_cons_drop.trans (if_pos hi)⟩
  rw [List.getElem_cons_drop, List.take_append_drop]

theorem openedIn_snoc (history : List (ScanRecord Cell)) (record : ScanRecord Cell) :
    (openedIn (history ++ [record])).map Prod.snd = (openedIn history).map Prod.snd ++ record.opened.map OpenedSplit.index := by
  unfold openedIn
  rw [List.flatMap_append, List.map_append]
  simp [Function.comp_def]

theorem emittedIn_snoc (history : List (ScanRecord Cell)) (record : ScanRecord Cell) :
    emittedIn (history ++ [record]) = emittedIn history ++ record.chunk.rows := by
  unfold emittedIn
  rw [List.flatMap_append, List.flatMap_singleton]

/-- Every call keeps what the run has taken. -/
theorem Shared.step {history : List (ScanRecord Cell)} {s s' : ScanState Split Array} {record : ScanRecord Cell}
    (hfits : FitsVector lib bind start columnIds) (hempty : EmptyOnlyAtEnd lib bind start columnIds)
    (h : Shared lib bind start columnIds history s) (hstep : ScanStep lib bind columnIds s record s') :
    Shared lib bind start columnIds (history ++ [record]) s' := by
  cases hstep with
  | @initLocal state global opened run =>
    rw [h.global] at run
    obtain ⟨hglobal, hreads, hdraws⟩ := Proc.wp_run (wp_paimonScanInitLocal s.global.splitIndex) run state rfl
    obtain ⟨new, hall, hnew⟩ := hdraws.rows
    have hnew : new = readerRows lib start columnIds state.batchReader := hnew
    refine ⟨hglobal, fun e he => ?_, ?_, ?_, fun e he hdone => ?_⟩
    · rcases List.mem_append.1 he with he | he
      · exact (h.reads e he).mono hdraws.le
      · rw [List.mem_singleton.1 he]
        exact hreads
    · rw [openedIn_snoc, h.opened]
      exact hdraws.opened
    · rw [emittedIn_snoc, hall, hnew]
      unfold heldRows
      rw [List.flatMap_append, List.flatMap_singleton]
      show (emittedIn history ++ [] ++ (heldRows lib start columnIds s.locals ++ _)).Perm _
      rw [List.append_nil, ← List.append_assoc]
      exact h.rows.append_right _
    · rcases List.mem_append.1 he with he | he
      · obtain ⟨hend, hrest⟩ := h.finished e he hdone
        exact ⟨hend.trans hdraws.le, hrest⟩
      · rw [List.mem_singleton.1 he] at hdone
        cases hdone
  | @scan i state state' global chunk opened found run =>
    have hreads := h.reads _ (List.mem_of_getElem? found)
    rw [h.global] at run
    obtain ⟨hglobal, hreads', hdraws, hend⟩ :=
      Proc.wp_run (wp_paimonScan s.global.splitIndex state hreads hfits hempty) run chunk rfl
    obtain ⟨new, hall, hnew⟩ := hdraws.rows
    obtain ⟨before, after, hlocals, hset⟩ := set_eq_append found (state', decide (chunk.cardinality = 0))
    -- the other local states are as they were
    have hothers (e : PaimonScanLocalState Array × Bool)
        (he : e ∈ s.locals.set i (state', decide (chunk.cardinality = 0))) :
        e = (state', decide (chunk.cardinality = 0)) ∨ e ∈ s.locals := by
      rw [hset] at he
      rw [hlocals]
      simp only [List.mem_append, List.mem_cons] at he ⊢
      tauto
    refine ⟨hglobal, fun e he => ?_, ?_, ?_, fun e he hdone => ?_⟩
    · rcases hothers e he with rfl | he
      · exact hreads'
      · exact (h.reads e he).mono hdraws.le
    · rw [openedIn_snoc, h.opened]
      exact hdraws.opened
    · have hrows := h.rows
      rw [emittedIn_snoc, hall]
      show (_ ++ heldRows lib start columnIds (s.locals.set i _)).Perm _
      rw [hset]
      rw [hlocals] at hrows
      classical
      rw [List.perm_iff_count] at hrows ⊢
      intro row
      have hcount := hrows row
      have hmoved := congrArg (List.count row) hnew
      simp only [heldRows, List.flatMap_append, List.flatMap_cons, List.count_append] at hcount hmoved ⊢
      omega
    · rcases hothers e he with rfl | he
      · exact hend (of_decide_eq_true hdone)
      · obtain ⟨hend', hrest⟩ := h.finished e he hdone
        exact ⟨hend'.trans hdraws.le, hrest⟩

/-- A new scan has taken no split. -/
theorem paimonScanInitGlobal_splitIndex (h : paimonScanInitGlobal lib bind columnIds = .ok start) :
    start.splitIndex = 0 := by
  unfold paimonScanInitGlobal at h
  split at h
  · cases h
  · cases h
  all_goals
    obtain ⟨predicates, -, h⟩ := bind_eq_ok.1 h
    obtain ⟨splits, -, h⟩ := bind_eq_ok.1 h
    obtain ⟨-, h⟩ := throwIf_bind_eq_ok.1 h
    obtain rfl := pure_eq_ok.1 h
    rfl

/-- Once every local state was left an empty chunk, every row of every split was emitted once and
every split was opened once, where batches without rows only end the last split. -/
theorem scan_emits_every_row {history : List (ScanRecord Cell)} {s : ScanState Split Array}
    (hinit : paimonScanInitGlobal lib bind columnIds = .ok start) (hfits : FitsVector lib bind start columnIds)
    (hempty : EmptyOnlyAtEnd lib bind start columnIds)
    (run : Run (ScanStep lib bind columnIds) { global := start } history s) (hstates : s.locals ≠ [])
    (hdone : ∀ state ∈ s.locals, state.2 = true) :
    (emittedIn history).Perm (start.splits.flatMap (splitRows lib bind start columnIds)) ∧
      (openedIn history).map Prod.snd = List.range start.splits.length := by
  have hshared : Shared lib bind start columnIds history s :=
    run.invariant (shared_start (paimonScanInitGlobal_splitIndex hinit)) (Shared.step hfits hempty)
  obtain ⟨state, hstate⟩ := List.exists_mem_of_ne_nil _ hstates
  have hend := (hshared.finished state hstate (hdone state hstate)).1
  have hheld : heldRows lib start columnIds s.locals = [] := by
    unfold heldRows
    rw [List.flatMap_eq_nil_iff]
    exact fun state hstate => (hshared.finished state hstate (hdone state hstate)).2
  have hrows := hshared.rows
  rw [hheld, List.append_nil, List.take_of_length_le hend] at hrows
  refine ⟨hrows, ?_⟩
  rw [hshared.opened, Nat.min_eq_right hend]

end Steps

/-! ## A split with an empty batch -/

namespace Sample

def integerColumn : ArrowType := ⟨{ id := .integer }, ""⟩

def scanBind : PaimonScanBindData Unit where
  path := ⟨"/wh", "db", "t"⟩
  tableDataPath := "/wh/db.db/t"
  paimonOptions := .empty
  arrowTable := ⟨["a"], [{ id := .integer }], [integerColumn]⟩
  partKeys := []
  tableSchemaJson := ""
  distributed := {}

/-- One split, whose reader returns these batches; a cell is the number of its row. -/
def library (reader : List (Result (ReadBatch Unit))) : ReadLibrary Unit Unit Nat where
  scanSplits _ := .ok [()]
  pickedFieldFilter _ _ := .ok none
  createReader _ _ := .ok reader
  convert _ _ _ := .ok ()
  cell _ _ row := row

/-- A batch of this many rows. -/
def batchOf (length : Nat) : ReadBatch Unit := ⟨some ⟨length, [(), ()]⟩, none⟩

def global (splitIndex : Nat) : PaimonScanGlobalState Unit where
  splits := [()]
  splitIndex
  path := "/wh/db.db/t"
  arrowTable := scanBind.arrowTable

theorem initGlobal (reader : List (Result (ReadBatch Unit))) :
    paimonScanInitGlobal (library reader) scanBind [0] = .ok (global 0) := rfl

def context : ReadContext := readContext scanBind (global 0) [0]

/-- The first batch has no rows, the second has one. -/
def emptyFirst : List (Result (ReadBatch Unit)) := [.ok (batchOf 0), .ok (batchOf 1)]

def emptyFirstHistory : List (ScanRecord Nat) :=
  [⟨0, {}, [⟨0, context⟩]⟩, ⟨0, ⟨0, [fun row => row]⟩, []⟩]

def emptyFirstState : ScanState Unit Unit where
  global := global 1
  locals := [(⟨[0], [.ok (batchOf 1)], false⟩, true)]

theorem run_emptyFirst :
    Run (ScanStep (library emptyFirst) scanBind [0]) { global := global 0 } emptyFirstHistory emptyFirstState := by
  have hinit : ScanStep (library emptyFirst) scanBind [0] { global := global 0 } ⟨0, {}, [⟨0, context⟩]⟩
      { global := global 1, locals := [(⟨[0], emptyFirst, false⟩, false)] } := .initLocal rfl
  have hscan : ScanStep (library emptyFirst) scanBind [0]
      { global := global 1, locals := [(⟨[0], emptyFirst, false⟩, false)] } ⟨0, ⟨0, [fun row => row]⟩, []⟩
      emptyFirstState := .scan 0 rfl rfl
  exact .snoc (.snoc .nil hinit) hscan

/-- The scan ends behind the empty batch and the row is lost. -/
theorem scan_emits_every_row_emptyFirst :
    paimonScanInitGlobal (library emptyFirst) scanBind [0] = .ok (global 0) ∧
      Run (ScanStep (library emptyFirst) scanBind [0]) { global := global 0 } emptyFirstHistory emptyFirstState ∧
      emptyFirstState.locals ≠ [] ∧ (∀ state ∈ emptyFirstState.locals, state.2 = true) ∧
      emittedIn emptyFirstHistory = [] ∧
      [()].flatMap (splitRows (library emptyFirst) scanBind (global 0) [0]) = [[0]] := by
  refine ⟨rfl, run_emptyFirst, nofun, ?_, rfl, rfl⟩
  intro state hstate
  rw [List.mem_singleton.1 hstate]

/-- One batch of one row. -/
def oneBatch : List (Result (ReadBatch Unit)) := [.ok (batchOf 1)]

def oneBatchHistory : List (ScanRecord Nat) :=
  [⟨0, {}, [⟨0, context⟩]⟩, ⟨0, ⟨1, [fun row => row]⟩, []⟩, ⟨0, {}, []⟩]

def oneBatchState : ScanState Unit Unit where
  global := global 2
  locals := [(⟨[0], [], true⟩, true)]

theorem run_oneBatch :
    Run (ScanStep (library oneBatch) scanBind [0]) { global := global 0 } oneBatchHistory oneBatchState := by
  have hinit : ScanStep (library oneBatch) scanBind [0] { global := global 0 } ⟨0, {}, [⟨0, context⟩]⟩
      { global := global 1, locals := [(⟨[0], oneBatch, false⟩, false)] } := .initLocal rfl
  have hscan : ScanStep (library oneBatch) scanBind [0]
      { global := global 1, locals := [(⟨[0], oneBatch, false⟩, false)] } ⟨0, ⟨1, [fun row => row]⟩, []⟩
      { global := global 1, locals := [(⟨[0], [], false⟩, false)] } := .scan 0 rfl rfl
  have hend : ScanStep (library oneBatch) scanBind [0]
      { global := global 1, locals := [(⟨[0], [], false⟩, false)] } ⟨0, {}, []⟩ oneBatchState := .scan 0 rfl rfl
  exact .snoc (.snoc (.snoc .nil hinit) hscan) hend

theorem scan_emits_every_row_oneBatch :
    (emittedIn oneBatchHistory).Perm ((global 0).splits.flatMap (splitRows (library oneBatch) scanBind (global 0) [0])) ∧
      (openedIn oneBatchHistory).map Prod.snd = List.range (global 0).splits.length := by
  have hbatch (batch : ReadBatch Unit) (hmem : .ok batch ∈ oneBatch) : batch = batchOf 1 :=
    Except.ok.inj (List.mem_singleton.1 hmem)
  refine scan_emits_every_row (initGlobal oneBatch) ?_ ?_ run_oneBatch nofun ?_
  · rintro split - reader ⟨⟩ batch hmem
    rw [hbatch batch hmem]
    decide
  · rintro k split reader before batch after - ⟨⟩ hreader hlength
    rw [hbatch batch (hreader ▸ List.mem_append_right _ List.mem_cons_self)] at hlength
    cases hlength
  · intro state hstate
    rw [List.mem_singleton.1 hstate]

end Sample

end DuckPaimon.Scan
