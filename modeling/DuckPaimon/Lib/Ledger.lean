/-
Ledgers: accounts that are opened, added to and closed, in amounts that can be added in any order. Closing an
account books its amount and hands in items, once; when every account is closed the books hold all that was ever
added. If the items handed in for an account stand for its amount, all items together stand for all amounts.
-/
import DuckPaimon.Lib.Run
import Mathlib.Algebra.BigOperators.Group.List.Basic
import Mathlib.Algebra.Order.Group.Nat
import Mathlib.Data.List.Nodup
import Mathlib.Tactic.Abel

/-- An account: what was added to it so far, and whether it is open. -/
structure Account (M : Type) [Zero M] where
  amount : M := 0
  isOpen : Bool := true

/-- Accounts in the order they were opened, and what closing them has booked. -/
structure Ledger (M α : Type) [Zero M] where
  accounts : List (Account M) := []
  items : List α := []
  total : M := 0

namespace Ledger

/-- What happens to a ledger. -/
inductive Entry (M α : Type)
  | opened
  | added (account : Nat) (amount : M)
  | closed (account : Nat) (items : List α)

variable {M α : Type} [AddCommMonoid M]

namespace Entry

/-- The amount an entry adds. -/
def amount : Entry M α → M
  | added _ amount => amount
  | _ => 0

/-- The amount an entry adds to one account. -/
def amountOf (account : Nat) : Entry M α → M
  | added i amount => if i = account then amount else 0
  | _ => 0

/-- The account an entry closes. -/
def closes : Entry M α → Option Nat
  | closed account _ => some account
  | _ => none

/-- The items an entry hands in. -/
def items : Entry M α → List α
  | closed _ items => items
  | _ => []

end Entry

/-- What was added to an account. -/
def addedTo (history : List (Entry M α)) (account : Nat) : M := (history.map (Entry.amountOf account)).sum

/-- What was added to all accounts. -/
def addedIn (history : List (Entry M α)) : M := (history.map Entry.amount).sum

/-- The accounts that were closed, in order. -/
def closedIn (history : List (Entry M α)) : List Nat := history.filterMap Entry.closes

/-- One entry. Nothing is added to a closed account, and it is not closed again. -/
inductive Books (l : Ledger M α) : Entry M α → Ledger M α → Prop
  | opened : Books l .opened { l with accounts := l.accounts ++ [{}] }
  | added {i : Nat} {amount : M} {account : Account M} (found : l.accounts[i]? = some account)
      (open_ : account.isOpen = true ∨ amount = 0) :
      Books l (.added i amount)
        { l with accounts := l.accounts.set i { account with amount := account.amount + amount } }
  | closed {i : Nat} {items : List α} {account : Account M} (found : l.accounts[i]? = some account)
      (open_ : account.isOpen = true) :
      Books l (.closed i items)
        { accounts := l.accounts.set i { account with isOpen := false }
          items := l.items ++ items
          total := l.total + account.amount }

/-! ## The balance -/

/-- What was added to an account that is open. -/
def Account.pending (account : Account M) : M := if account.isOpen then account.amount else 0

/-- What was added to the accounts that are open. -/
def pending (accounts : List (Account M)) : M := (accounts.map Account.pending).sum

/-- The books of a history: each account holds what was added to it, the closed ones are booked once, and
what was added is booked or pending. -/
structure Balanced (history : List (Entry M α)) (l : Ledger M α) : Prop where
  items : l.items = history.flatMap Entry.items
  total : l.total = ((closedIn history).map (addedTo history)).sum
  once : (closedIn history).Nodup
  accounts : ∀ i account, l.accounts[i]? = some account →
    account.amount = addedTo history i ∧ (account.isOpen = false ↔ i ∈ closedIn history)
  within : ∀ i, l.accounts.length ≤ i → addedTo history i = 0 ∧ i ∉ closedIn history
  balance : l.total + pending l.accounts = addedIn history

variable {history : List (Entry M α)} {entry : Entry M α} {l l' : Ledger M α}

theorem addedTo_snoc (account : Nat) : addedTo (history ++ [entry]) account =
    addedTo history account + entry.amountOf account := by
  simp [addedTo]

theorem addedIn_snoc : addedIn (history ++ [entry]) = addedIn history + entry.amount := by
  simp [addedIn]

omit [AddCommMonoid M] in
theorem closedIn_snoc : closedIn (history ++ [entry]) = closedIn history ++ entry.closes.toList := by
  unfold closedIn
  rw [List.filterMap_append]
  cases h : entry.closes <;> simp [h]

/-- One account has no more than all of them. -/
theorem addedTo_le_addedIn (f : M →+ ℕ) (history : List (Entry M α)) (account : Nat) :
    f (addedTo history account) ≤ f (addedIn history) := by
  induction history with
  | nil => exact Nat.le_refl _
  | cons entry history ih =>
    simp only [addedTo, addedIn, List.map_cons, List.sum_cons, map_add] at ih ⊢
    refine Nat.add_le_add ?_ ih
    cases entry with
    | added i amount =>
      show f (if i = account then amount else 0) ≤ f amount
      split
      · exact Nat.le_refl _
      · rw [map_zero]
        exact Nat.zero_le _
    | opened => exact Nat.le_refl _
    | closed => exact Nat.le_refl _

/-- The parts of a list around an entry that is replaced. -/
theorem set_parts {β : Type} {xs : List β} {i : Nat} {x : β} (h : xs[i]? = some x) (y : β) :
    ∃ before after, xs = before ++ x :: after ∧ xs.set i y = before ++ y :: after := by
  obtain ⟨hi, rfl⟩ := List.getElem?_eq_some_iff.1 h
  refine ⟨xs.take i, xs.drop (i + 1), ?_, List.set_eq_take_append_cons_drop.trans (if_pos hi)⟩
  rw [List.getElem_cons_drop, List.take_append_drop]

/-- What is pending, around an account that is replaced. -/
theorem pending_set {accounts : List (Account M)} {i : Nat} {account : Account M} (h : accounts[i]? = some account)
    (replaced : Account M) : ∃ rest, pending accounts = rest + Account.pending account ∧
      pending (accounts.set i replaced) = rest + Account.pending replaced := by
  obtain ⟨before, after, hbefore, hafter⟩ := set_parts h replaced
  refine ⟨pending before + pending after, ?_, ?_⟩
  · rw [hbefore]
    simp only [pending, List.map_append, List.map_cons, List.sum_append, List.sum_cons]
    abel
  · rw [hafter]
    simp only [pending, List.map_append, List.map_cons, List.sum_append, List.sum_cons]
    abel

theorem balanced_start : Balanced ([] : List (Entry M α)) {} := by
  refine ⟨rfl, rfl, List.nodup_nil, nofun, fun i _ => ⟨rfl, List.not_mem_nil⟩, ?_⟩
  exact zero_add 0

/-- What closes no account books nothing, if the closed accounts stay as they are. -/
theorem Balanced.unbooked (h : Balanced history l) (entry : Entry M α) (hitems : entry.items = [])
    (hcloses : entry.closes = none) (hadded : ∀ i ∈ closedIn history, entry.amountOf i = 0) :
    l.items = (history ++ [entry]).flatMap Entry.items ∧ closedIn (history ++ [entry]) = closedIn history ∧
      l.total = ((closedIn history).map (addedTo (history ++ [entry]))).sum := by
  refine ⟨?_, ?_, ?_⟩
  · rw [List.flatMap_append, List.flatMap_singleton, hitems, List.append_nil, h.items]
  · rw [closedIn_snoc, hcloses]
    exact List.append_nil _
  · rw [h.total]
    refine congrArg List.sum (List.map_congr_left fun i hi => ?_)
    rw [addedTo_snoc, hadded i hi, add_zero]

theorem Balanced.opened (h : Balanced history l) :
    Balanced (history ++ [.opened]) { l with accounts := l.accounts ++ [{}] } := by
  have hadded (i : Nat) : addedTo (history ++ [.opened]) i = addedTo history i := (addedTo_snoc i).trans (add_zero _)
  obtain ⟨hitems, hclosed, htotal⟩ := h.unbooked .opened rfl rfl fun _ _ => rfl
  refine ⟨hitems, hclosed ▸ htotal, hclosed ▸ h.once, fun i account hfound => ?_, fun i hle => ?_, ?_⟩
  · rw [hadded, hclosed]
    by_cases hold : i < l.accounts.length
    · exact h.accounts i account ((List.getElem?_append_left hold).symm.trans hfound)
    · -- the account is the new one
      have hmem := List.mem_of_getElem? ((List.getElem?_append_right (Nat.le_of_not_lt hold)).symm.trans hfound)
      obtain ⟨hzero, hnot⟩ := h.within i (Nat.le_of_not_lt hold)
      rw [List.mem_singleton.1 hmem, hzero]
      exact ⟨rfl, nofun, fun hmem => absurd hmem hnot⟩
  · rw [List.length_append] at hle
    rw [hadded, hclosed]
    exact h.within i (by omega)
  · rw [addedIn_snoc, ← h.balance]
    simp [pending, Account.pending, Entry.amount]

theorem Balanced.added (h : Balanced history l) {i : Nat} {amount : M} {account : Account M}
    (found : l.accounts[i]? = some account) (open_ : account.isOpen = true ∨ amount = 0) :
    Balanced (history ++ [.added i amount])
      { l with accounts := l.accounts.set i { account with amount := account.amount + amount } } := by
  have hadded (j : Nat) : addedTo (history ++ [.added i amount]) j =
    addedTo history j + if i = j then amount else 0 := addedTo_snoc j
  obtain ⟨hself, hopen⟩ := h.accounts i account found
  have hbound : i < l.accounts.length := (List.getElem?_eq_some_iff.1 found).1
  -- nothing is added to an account that was closed
  obtain ⟨hitems, hclosed, htotal⟩ := h.unbooked (.added i amount) rfl rfl fun j hj => by
    refine ite_eq_right_iff.2 fun heq => ?_
    rcases open_ with hopen' | hzero
    · rw [hopen.2 (heq ▸ hj)] at hopen'
      cases hopen'
    · exact hzero
  refine ⟨hitems, hclosed ▸ htotal, hclosed ▸ h.once, fun j other hfound => ?_, fun j hle => ?_, ?_⟩
  · have hfound : (l.accounts.set i { account with amount := account.amount + amount })[j]? = some other := hfound
    rw [hadded, hclosed]
    by_cases hij : i = j
    · subst hij
      rw [List.getElem?_set_self hbound] at hfound
      rw [← Option.some.inj hfound, if_pos rfl, ← hself]
      exact ⟨rfl, hopen⟩
    · rw [List.getElem?_set_ne hij] at hfound
      rw [if_neg hij, add_zero]
      exact h.accounts j other hfound
  · have hle : (l.accounts.set i { account with amount := account.amount + amount }).length ≤ j := hle
    rw [List.length_set] at hle
    rw [hadded, hclosed, if_neg (by omega), add_zero]
    exact h.within j hle
  · obtain ⟨rest, hbefore, hafter⟩ := pending_set found { account with amount := account.amount + amount }
    have hbalance := h.balance
    show l.total + pending (l.accounts.set i _) = _
    have hamount : (Entry.added i amount : Entry M α).amount = amount := rfl
    rw [addedIn_snoc, ← hbalance, hbefore, hafter, hamount]
    unfold Account.pending
    rcases open_ with hopen' | rfl
    · rw [if_pos hopen', if_pos hopen']
      dsimp only
      abel
    · rw [add_zero, add_zero]

theorem Balanced.closed (h : Balanced history l) {i : Nat} {items : List α} {account : Account M}
    (found : l.accounts[i]? = some account) (open_ : account.isOpen = true) :
    Balanced (history ++ [.closed i items])
      { accounts := l.accounts.set i { account with isOpen := false }
        items := l.items ++ items
        total := l.total + account.amount } := by
  have hadded (j : Nat) : addedTo (history ++ [.closed i items]) j = addedTo history j :=
    (addedTo_snoc j).trans (add_zero _)
  have hclosed : closedIn (history ++ [.closed i items]) = closedIn history ++ [i] := closedIn_snoc
  obtain ⟨hself, hopen⟩ := h.accounts i account found
  have hbound : i < l.accounts.length := (List.getElem?_eq_some_iff.1 found).1
  -- it was open, so it was not closed before
  have hnew : i ∉ closedIn history := by
    intro hmem
    rw [hopen.2 hmem] at open_
    cases open_
  refine ⟨?_, ?_, ?_, fun j other hfound => ?_, fun j hle => ?_, ?_⟩
  · rw [List.flatMap_append, h.items, List.flatMap_singleton]
    rfl
  · rw [hclosed, List.map_append, List.sum_append, List.map_singleton, List.sum_singleton, hadded, ← hself]
    show l.total + account.amount = _
    rw [h.total]
    exact congrArg (· + account.amount) (congrArg List.sum (List.map_congr_left fun j _ => (hadded j).symm))
  · rw [hclosed, List.nodup_append]
    refine ⟨h.once, List.nodup_singleton _, ?_⟩
    rintro a ha b hb rfl
    rw [List.mem_singleton.1 hb] at ha
    exact hnew ha
  · have hfound : (l.accounts.set i { account with isOpen := false })[j]? = some other := hfound
    rw [hadded, hclosed, List.mem_append, List.mem_singleton]
    by_cases hij : i = j
    · subst hij
      rw [List.getElem?_set_self hbound] at hfound
      rw [← Option.some.inj hfound]
      exact ⟨hself, fun _ => .inr rfl, fun _ => rfl⟩
    · rw [List.getElem?_set_ne hij] at hfound
      obtain ⟨hamount, hopen⟩ := h.accounts j other hfound
      exact ⟨hamount, hopen.trans (by simp [Ne.symm hij])⟩
  · have hle : (l.accounts.set i { account with isOpen := false }).length ≤ j := hle
    rw [List.length_set] at hle
    obtain ⟨hzero, hnot⟩ := h.within j hle
    rw [hadded, hclosed, List.mem_append, List.mem_singleton]
    exact ⟨hzero, fun hmem => hmem.elim hnot (by omega)⟩
  · obtain ⟨rest, hbefore, hafter⟩ := pending_set found { account with isOpen := false }
    show l.total + account.amount + pending (l.accounts.set i _) = _
    rw [addedIn_snoc, ← h.balance, hbefore, hafter]
    simp only [Account.pending, open_, if_true, Bool.false_eq_true, if_false, Entry.amount]
    rw [add_zero, add_zero, add_assoc, add_comm account.amount]

/-- Every entry keeps the balance. -/
theorem Balanced.step (h : Balanced history l) (hbooks : Books l entry l') : Balanced (history ++ [entry]) l' := by
  cases hbooks with
  | opened => exact h.opened
  | added found open_ => exact h.added found open_
  | closed found open_ => exact h.closed found open_

theorem Balanced.run (run : Run Books {} history l) : Balanced history l :=
  run.invariant balanced_start Balanced.step

/-- Once every account is closed, all that was added is booked. -/
theorem Balanced.settled (h : Balanced history l) (hclosed : ∀ account ∈ l.accounts, account.isOpen = false) :
    l.total = addedIn history := by
  have hpending : pending l.accounts = 0 := by
    unfold pending
    refine List.sum_eq_zero ?_
    rw [List.forall_mem_map]
    intro account hmem
    rw [Account.pending, hclosed account hmem]
    rfl
  rw [← h.balance, hpending, add_zero]

/-! ## What the items stand for -/

/-- The items that were handed in stand for what is booked. -/
def Represents (contents : α → M) (l : Ledger M α) : Prop := (l.items.map contents).sum = l.total

theorem represents_start (contents : α → M) : Represents contents {} := rfl

/-- An account that is closed hands in items that stand for its amount. -/
theorem Represents.step {contents : α → M} (h : Represents contents l) (hbooks : Books l entry l')
    (hstands : ∀ i items account, entry = .closed i items → l.accounts[i]? = some account →
      (items.map contents).sum = account.amount) : Represents contents l' := by
  cases hbooks with
  | opened => exact h
  | added => exact h
  | @closed i items account found =>
    show ((l.items ++ items).map contents).sum = l.total + account.amount
    rw [List.map_append, List.sum_append, h, hstands i items account rfl found]

end Ledger
