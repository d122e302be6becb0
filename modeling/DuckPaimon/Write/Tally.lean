/-
What an INSERT adds up to, on either side (paimon_insert.cpp, paimon_distributed_insert.cpp): local states that
count the rows of their chunks until they are combined, and a global state that takes over their messages and
counts. In whatever way rows are measured, the local states are the accounts of a ledger; where every
`PrepareCommit` answers for the rows of its writer, the messages of the global state answer for all rows.
-/
import DuckPaimon.Lib.Ledger
import DuckPaimon.Write.Sink

namespace DuckPaimon.Write

/-! ## Counts -/

/-- The states of an INSERT as far as it counts: of a local state its count and whether it has its writer, of the
global state its messages and its count. -/
structure Tally (α : Type) where
  locals : List (UInt64 × Bool) := []
  items : List α := []
  count : UInt64 := 0

/-- What a call that returned has done. A Combine has the messages of `PrepareCommit`, if it called it. -/
inductive Act (α : Type)
  | opens
  | sinks (writer : Nat) (sunk : Sunk)
  | combines (writer : Nat) (prepared : Option (List α))

variable {α M : Type}

/-- One call. Rows are only written with a writer, and `PrepareCommit` is only called for rows. -/
inductive Acts (t : Tally α) : Act α → Tally α → Prop
  | opens : Acts t .opens { t with locals := t.locals ++ [(0, true)] }
  | sinks {writer : Nat} {count : UInt64} {live : Bool} {sunk : Sunk} (found : t.locals[writer]? = some (count, live))
      (rows : (sunk.writes.flatMap PartitionWrite.rows).Perm (List.range sunk.chunk.size.toNat))
      (open_ : live = true ∨ sunk.chunk.size.toNat = 0) :
      Acts t (.sinks writer sunk) { t with locals := t.locals.set writer (count + sunk.chunk.size, live) }
  | combines {writer : Nat} {count : UInt64} {prepared : Option (List α)}
      (found : t.locals[writer]? = some (count, true)) (called : prepared = none ↔ count = 0) :
      Acts t (.combines writer prepared)
        { locals := t.locals.set writer (count, false)
          items := t.items ++ prepared.getD []
          count := t.count + count }

/-- What was sunk into a local state, and what was sunk at all. -/
def sunkInto (acts : List (Act α)) (writer : Nat) : List Sunk := acts.filterMap fun
  | .sinks sinker sunk => if sinker = writer then some sunk else none
  | _ => none
@[inherit_doc sunkInto] def allSunk (acts : List (Act α)) : List Sunk := acts.filterMap fun
  | .sinks _ sunk => some sunk
  | _ => none

/-! ## Measures of rows -/

/-- A way to measure what is sunk, in which the number of rows can be counted. -/
structure Measure (M : Type) [AddCommMonoid M] where
  of : Sunk → M
  count : M →+ ℕ
  zero : ∀ amount, count amount = 0 → amount = 0
  counts : ∀ sunk, (sunk.writes.flatMap PartitionWrite.rows).Perm (List.range sunk.chunk.size.toNat) →
    count (of sunk) = sunk.chunk.size.toNat

/-- The number of rows itself. -/
def Measure.size : Measure ℕ where
  of sunk := sunk.chunk.size.toNat
  count := .id ℕ
  zero _ h := h
  counts _ _ := rfl

/-- The rows of the chunks that calls were given are those of the calls. -/
theorem size_given {ι : Type} {given : ι → Option Sunk} {rows : ι → Nat}
    (h : ∀ record, rows record = (given record).elim 0 Measure.size.of) (history : List ι) :
    ((history.filterMap given).map Measure.size.of).sum = (history.map rows).sum := by
  induction history with
  | nil => rfl
  | cons record history ih =>
    rw [List.filterMap_cons, List.map_cons, List.sum_cons, ← ih, h record]
    cases given record with
    | none => exact (Nat.zero_add _).symm
    | some sunk => exact List.sum_cons

variable [AddCommMonoid M]

/-- The entry of a call in a ledger. -/
def Act.entry (measure : Measure M) : Act α → Ledger.Entry M α
  | opens => .opened
  | sinks writer sunk => .added writer (measure.of sunk)
  | combines writer prepared => .closed writer (prepared.getD [])

/-- The entries of a run. -/
def entries (measure : Measure M) (acts : List (Act α)) : List (Ledger.Entry M α) := acts.map (Act.entry measure)

section Entries

variable (measure : Measure M) (acts : List (Act α)) (act : Act α)

theorem entries_snoc : entries measure (acts ++ [act]) = entries measure acts ++ [act.entry measure] := by
  simp [entries]

/-- The account of a local state has what was sunk into it. -/
theorem addedTo_entries (writer : Nat) :
    Ledger.addedTo (entries measure acts) writer = ((sunkInto acts writer).map measure.of).sum := by
  induction acts with
  | nil => rfl
  | cons act acts ih =>
    unfold Ledger.addedTo entries sunkInto at ih ⊢
    rw [List.map_cons, List.map_cons, List.sum_cons, ih, List.filterMap_cons]
    cases act with
    | sinks sinker sunk =>
      show (if sinker = writer then measure.of sunk else 0) + _ = _
      by_cases h : sinker = writer <;> simp [h]
    | opens => exact zero_add _
    | combines => exact zero_add _

theorem addedIn_entries : Ledger.addedIn (entries measure acts) = ((allSunk acts).map measure.of).sum := by
  induction acts with
  | nil => rfl
  | cons act acts ih =>
    unfold Ledger.addedIn entries allSunk at ih ⊢
    rw [List.map_cons, List.map_cons, List.sum_cons, ih, List.filterMap_cons]
    cases act with
    | sinks sinker sunk => exact (List.sum_cons).symm
    | opens => exact zero_add _
    | combines => exact zero_add _

end Entries

/-! ## The ledger of a run -/

/-- A local state and its account. -/
def KeptBy (measure : Measure M) (account : Account M) (lstate : UInt64 × Bool) : Prop :=
  lstate.1 = UInt64.ofNat (measure.count account.amount) ∧ lstate.2 = account.isOpen

/-- The states of an INSERT and its ledger. Counts are kept up to their overflow. -/
structure KeepsBooks (measure : Measure M) (l : Ledger M α) (t : Tally α) : Prop where
  accounts : List.Forall₂ (KeptBy measure) l.accounts t.locals
  items : t.items = l.items
  total : t.count = UInt64.ofNat (measure.count l.total)

/-- One entry in each of two lists is replaced. -/
theorem forall₂_set {α β : Type} {R : α → β → Prop} {xs : List α} {ys : List β} (h : List.Forall₂ R xs ys) (i : Nat)
    {x : α} {y : β} (hxy : R x y) : List.Forall₂ R (xs.set i x) (ys.set i y) := by
  induction h generalizing i with
  | nil => exact .nil
  | cons hhead htail ih =>
    cases i with
    | zero => exact .cons hxy htail
    | succ i => exact .cons hhead (ih i)

section Ledger

variable {measure : Measure M} {l : Ledger M α} {t t' : Tally α} {act : Act α} {acts : List (Act α)}

/-- The account of a local state. -/
theorem KeepsBooks.account (h : KeepsBooks measure l t) {writer : Nat} {lstate : UInt64 × Bool}
    (found : t.locals[writer]? = some lstate) :
    ∃ account, l.accounts[writer]? = some account ∧ KeptBy measure account lstate := by
  obtain ⟨hbound, rfl⟩ := List.getElem?_eq_some_iff.1 found
  have hbound' : writer < l.accounts.length := h.accounts.length_eq.symm ▸ hbound
  exact ⟨l.accounts[writer], List.getElem?_eq_getElem hbound', h.accounts.get hbound' hbound⟩

/-- Every call makes its entry. -/
theorem KeepsBooks.step (h : KeepsBooks measure l t) (hacts : Acts t act t') :
    ∃ l', Ledger.Books l (act.entry measure) l' ∧ KeepsBooks measure l' t' := by
  cases hacts with
  | opens =>
    refine ⟨_, .opened, List.rel_append h.accounts (.cons ⟨?_, rfl⟩ .nil), h.items, h.total⟩
    show (0 : UInt64) = UInt64.ofNat (measure.count 0)
    rw [map_zero]
    rfl
  | @sinks writer count live sunk found rows open_ =>
    obtain ⟨account, haccount, hcount, hopen⟩ := h.account found
    have hsize := measure.counts sunk rows
    refine ⟨_, .added haccount ?_, forall₂_set h.accounts writer ⟨?_, hopen⟩, h.items, h.total⟩
    · rcases open_ with hlive | hzero
      · exact .inl (hopen.symm.trans hlive)
      · exact .inr (measure.zero _ (hsize.trans hzero))
    · show count + sunk.chunk.size = UInt64.ofNat (measure.count (account.amount + measure.of sunk))
      have hcount : count = UInt64.ofNat (measure.count account.amount) := hcount
      rw [map_add, hsize, UInt64.ofNat_add, UInt64.ofNat_toNat, hcount]
  | @combines writer count prepared found called =>
    obtain ⟨account, haccount, hcount, hopen⟩ := h.account found
    refine ⟨_, .closed haccount hopen.symm, forall₂_set h.accounts writer ⟨hcount, rfl⟩,
      congrArg (· ++ prepared.getD []) h.items, ?_⟩
    show t.count + count = UInt64.ofNat (measure.count (l.total + account.amount))
    have hcount : count = UInt64.ofNat (measure.count account.amount) := hcount
    rw [map_add, UInt64.ofNat_add, h.total, hcount]

theorem keepsBooks_start : KeepsBooks measure ({} : Ledger M α) {} := by
  refine ⟨.nil, rfl, ?_⟩
  show (0 : UInt64) = UInt64.ofNat (measure.count 0)
  rw [map_zero]
  rfl

/-- A run keeps a ledger. -/
theorem keepsBooks_run (measure : Measure M) (run : Run Acts {} acts t) :
    ∃ l, Run Ledger.Books {} (entries measure acts) l ∧ KeepsBooks measure l t := by
  have hsimulate := run.simulate (fun act => some (act.entry measure)) (R := KeepsBooks measure)
    keepsBooks_start fun h hstep => by
      obtain ⟨l', hbooks, hkeeps⟩ := h.step hstep
      exact ⟨l', fun entry hentry => Option.some.inj hentry ▸ hbooks, nofun, hkeeps⟩
  rwa [List.filterMap_eq_map'] at hsimulate

/-- In every measure as many rows were sunk as the chunks have. -/
theorem count_allSunk (measure : Measure M) (run : Run Acts {} acts t) :
    measure.count ((allSunk acts).map measure.of).sum = ((allSunk acts).map Measure.size.of).sum := by
  refine run.invariant (I := fun acts _ => measure.count ((allSunk acts).map measure.of).sum =
    ((allSunk acts).map Measure.size.of).sum) (map_zero _) fun {acts t act t'} ih hstep => ?_
  have hsnoc : allSunk (acts ++ [act]) = allSunk acts ++ allSunk [act] := List.filterMap_append
  rw [hsnoc, List.map_append, List.map_append, List.sum_append, List.sum_append, map_add, ih]
  refine congrArg _ ?_
  cases hstep with
  | opens => exact map_zero _
  | @sinks writer count live sunk found rows open_ =>
    show measure.count (measure.of sunk + 0) = sunk.chunk.size.toNat + 0
    rw [add_zero, measure.counts sunk rows, Nat.add_zero]
  | combines => exact map_zero _

/-- Once every local state is combined, every account is closed. -/
theorem KeepsBooks.closed (h : KeepsBooks measure l t) (hcombined : ∀ lstate ∈ t.locals, lstate.2 = false) :
    ∀ account ∈ l.accounts, account.isOpen = false := by
  intro account hmem
  obtain ⟨writer, hbound, rfl⟩ := List.mem_iff_getElem.1 hmem
  have hbound' : writer < t.locals.length := h.accounts.length_eq ▸ hbound
  have hkept : KeptBy measure l.accounts[writer] t.locals[writer] := h.accounts.get hbound hbound'
  exact hkept.2.symm.trans (hcombined _ (List.getElem_mem hbound'))

/-! ## What the messages stand for -/

/-- What `PrepareCommit` returned stands for what was sunk into its local state till then. -/
def StandsFor (measure : Measure M) (contents : α → M) (acts : List (Act α)) : Prop :=
  ∀ before writer messages after, acts = before ++ .combines writer (some messages) :: after →
    (messages.map contents).sum = ((sunkInto before writer).map measure.of).sum

/-- A Combine hands in items that stand for the account it closes: without a call of `PrepareCommit` nothing was
added to it, if its count has not overflown. -/
theorem KeepsBooks.stands {contents : α → M} (h : KeepsBooks measure l t)
    (hbalanced : Ledger.Balanced (entries measure acts) l) (hacts : Acts t act t')
    (hfits : measure.count (Ledger.addedIn (entries measure acts)) < idxLimit)
    (stands : StandsFor measure contents (acts ++ [act])) :
    ∀ i items account, act.entry measure = .closed i items → l.accounts[i]? = some account →
      (items.map contents).sum = account.amount := by
  intro i items account hentry haccount
  cases hacts with
  | opens => cases hentry
  | sinks => cases hentry
  | @combines writer count prepared found called =>
    cases hentry
    obtain ⟨other, hother, hcount, -⟩ := h.account found
    cases hother.symm.trans haccount
    obtain ⟨hamount, -⟩ := hbalanced.accounts _ _ haccount
    cases prepared with
    | some messages =>
      rw [hamount, addedTo_entries]
      exact stands acts i messages [] rfl
    | none =>
      have hzero : UInt64.ofNat (measure.count account.amount) = 0 := hcount.symm.trans (called.1 rfl)
      have hle := Ledger.addedTo_le_addedIn measure.count (entries measure acts) i
      rw [← hamount] at hle
      have hnat := congrArg UInt64.toNat hzero
      rw [UInt64.toNat_ofNat_of_lt' (lt_of_le_of_lt hle hfits)] at hnat
      exact (measure.zero _ hnat).symm

/-- Once every local state is combined, the messages of the global state stand for all that was sunk. -/
theorem contents_of_acts {contents : α → M} (run : Run Acts {} acts t) (stands : StandsFor measure contents acts)
    (hfits : ((allSunk acts).map Measure.size.of).sum < idxLimit)
    (hcombined : ∀ lstate ∈ t.locals, lstate.2 = false) :
    (t.items.map contents).sum = ((allSunk acts).map measure.of).sum := by
  have hledger : ∃ l, Run Ledger.Books {} (entries measure acts) l ∧ KeepsBooks measure l t ∧
      l.Represents contents := by
    rw [← count_allSunk measure run, ← addedIn_entries] at hfits
    refine run.invariant (I := fun acts t => StandsFor measure contents acts →
      measure.count (Ledger.addedIn (entries measure acts)) < idxLimit →
        ∃ l, Run Ledger.Books {} (entries measure acts) l ∧ KeepsBooks measure l t ∧ l.Represents contents)
      (fun _ _ => ⟨{}, .nil, keepsBooks_start, Ledger.represents_start contents⟩) (fun ih hstep hstands hfits => ?_)
      stands hfits
    -- what is said of the whole run is said of it up to here
    rename_i acts t act t'
    rw [entries_snoc, Ledger.addedIn_snoc, map_add] at hfits
    have hbefore : StandsFor measure contents acts := fun before writer messages after heq =>
      hstands before writer messages (after ++ [act]) (by rw [heq, List.append_assoc, List.cons_append])
    have hfits' := lt_of_le_of_lt (Nat.le_add_right _ _) hfits
    obtain ⟨l, hrun, hkeeps, hrep⟩ := ih hbefore hfits'
    obtain ⟨l', hbooks, hkeeps'⟩ := hkeeps.step hstep
    refine ⟨l', ?_, hkeeps', hrep.step hbooks (hkeeps.stands (.run hrun) hstep hfits' hstands)⟩
    rw [entries_snoc]
    exact hrun.snoc hbooks
  obtain ⟨l, hrun, hkeeps, hrep⟩ := hledger
  rw [hkeeps.items, hrep, (Ledger.Balanced.run hrun).settled (hkeeps.closed hcombined), addedIn_entries]

end Ledger

end DuckPaimon.Write
