import Mathlib.Algebra.BigOperators.Group.List.Basic
import Mathlib.Algebra.Order.BigOperators.Group.List
import Mathlib.Algebra.Order.Ring.Int
import Mathlib.Tactic.Abel
import MpcKit.Backend.Basics

/-! The credit ledger as a whole: balances next to the append-only rows that explain them.
A transaction adds one posting, its balance increments together with its rows. Everything
the ledger promises is about postings; how the service assembles one is not visible here. -/

namespace MpcKit.Billing
open MpcKit.Backend

/-- `billing_accounts`, one row per user and network. -/
structure BillingAccount where
  id : Uuid
  userId : Uuid
  network : String
  creditsMicro : Int
  depositAddress : Option String
  deriving DecidableEq, Repr

inductive ChargeKind where
  | charge
  | refund
  deriving DecidableEq, Repr

/-- What the unique index of `billing_charges` covers, apart from the kind. -/
structure OpKey where
  network : String
  opType : String
  opId : Uuid
  deriving DecidableEq, Repr

/-- `billing_charges`: a signed delta, negative for a charge. -/
structure BillingCharge where
  id : Uuid
  userId : Uuid
  network : String
  opType : String
  opId : Uuid
  kind : ChargeKind
  creditsMicro : Int
  reason : Option String
  deriving DecidableEq, Repr

def BillingCharge.op (row : BillingCharge) : OpKey := ⟨row.network, row.opType, row.opId⟩

inductive SweepStatus where
  | pending
  | swept
  | failed
  deriving DecidableEq, Repr

/-- `billing_deposits`, one row per credited coin type of a transaction. -/
structure BillingDeposit where
  id : Uuid
  userId : Uuid
  network : String
  txDigest : String
  senderAddress : String
  coinType : String
  amountAtomic : Int
  creditsCredited : Int
  rateMicroPerAtomic : Int
  sweepStatus : SweepStatus
  deriving DecidableEq, Repr

structure Ledger where
  accounts : List BillingAccount
  charges : List BillingCharge
  deposits : List BillingDeposit

/-- A balance increment of one account. -/
structure Credit where
  userId : Uuid
  network : String
  delta : Int
  deriving DecidableEq, Repr

/-- What one transaction writes, in the order it writes it. -/
structure Posting where
  credits : List Credit
  charges : List BillingCharge
  deposits : List BillingDeposit

namespace Posting

def empty : Posting := ⟨[], [], []⟩

def addCredit (posting : Posting) (credit : Credit) : Posting :=
  { posting with credits := posting.credits ++ [credit] }

def addCharge (posting : Posting) (row : BillingCharge) : Posting :=
  { posting with charges := posting.charges ++ [row] }

def addDeposit (posting : Posting) (row : BillingDeposit) : Posting :=
  { posting with deposits := posting.deposits ++ [row] }

end Posting

/-! ### Sums over one account's rows -/

/-- A row that moves credits of one account. -/
class Movement (ρ : Type) where
  userId : ρ → Uuid
  network : ρ → String
  delta : ρ → Int

instance : Movement Credit := ⟨Credit.userId, Credit.network, Credit.delta⟩
instance : Movement BillingCharge := ⟨BillingCharge.userId, BillingCharge.network, BillingCharge.creditsMicro⟩
instance : Movement BillingDeposit := ⟨BillingDeposit.userId, BillingDeposit.network, BillingDeposit.creditsCredited⟩

section Total

variable {ρ : Type} [Movement ρ]

def Of (userId : Uuid) (network : String) (row : ρ) : Prop :=
  Movement.userId row = userId ∧ Movement.network row = network

instance (userId : Uuid) (network : String) (row : ρ) : Decidable (Of userId network row) :=
  inferInstanceAs (Decidable (_ ∧ _))

/-- The sum of the deltas of the rows that belong to one account. -/
def total (rows : List ρ) (userId : Uuid) (network : String) : Int :=
  ((rows.filter (fun row => Of userId network row)).map Movement.delta).sum

@[simp] theorem total_nil (userId : Uuid) (network : String) : total ([] : List ρ) userId network = 0 := rfl

@[simp] theorem total_append (first second : List ρ) (userId : Uuid) (network : String) :
    total (first ++ second) userId network = total first userId network + total second userId network := by
  simp [total]

theorem total_singleton (row : ρ) (userId : Uuid) (network : String) :
    total [row] userId network = if Of userId network row then Movement.delta row else 0 := by
  by_cases same : Of userId network row <;> simp [total, same]

theorem total_nonneg {rows : List ρ} {userId : Uuid} {network : String}
    (nonnegative : ∀ row ∈ rows, 0 ≤ Movement.delta row) : 0 ≤ total rows userId network := by
  apply List.sum_nonneg
  intro delta member
  obtain ⟨row, kept, rfl⟩ := List.mem_map.mp member
  exact nonnegative row (List.mem_of_mem_filter kept)

theorem total_eq_zero {rows : List ρ} {userId : Uuid} {network : String}
    (absent : ∀ row ∈ rows, ¬Of userId network row) : total rows userId network = 0 := by
  have none : rows.filter (fun row => Of userId network row) = [] := by
    rw [List.filter_eq_nil_iff]
    simpa using absent
  simp [total, none]

end Total

/-- A posting whose increments are exactly the sums of its rows, for every account. -/
def Posting.Balanced (posting : Posting) : Prop :=
  ∀ userId network, total posting.credits userId network =
    total posting.deposits userId network + total posting.charges userId network

namespace Ledger

def findAccount (ledger : Ledger) (userId : Uuid) (network : String) : Option BillingAccount :=
  ledger.accounts.find? (fun account => account.userId = userId ∧ account.network = network)

/-- Credits a user has on a network; an account that was never created holds none. -/
def balance (ledger : Ledger) (userId : Uuid) (network : String) : Int :=
  ((ledger.findAccount userId network).map BillingAccount.creditsMicro).getD 0

def post (ledger : Ledger) (posting : Posting) : Ledger where
  accounts := ledger.accounts.map (fun account => { account with
    creditsMicro := account.creditsMicro + total posting.credits account.userId account.network })
  charges := ledger.charges ++ posting.charges
  deposits := ledger.deposits ++ posting.deposits

/-- Every balance is explained by the rows of its account. -/
def Conserved (ledger : Ledger) : Prop :=
  ∀ userId network, ledger.balance userId network =
    total ledger.deposits userId network + total ledger.charges userId network

/-- Every row of a posting belongs to an account the ledger has. -/
def Covers (ledger : Ledger) (posting : Posting) : Prop :=
  (∀ row ∈ posting.charges, (ledger.findAccount row.userId row.network).isSome) ∧
    ∀ row ∈ posting.deposits, (ledger.findAccount row.userId row.network).isSome

theorem findAccount_post (ledger : Ledger) (posting : Posting) (userId : Uuid) (network : String) :
    (ledger.post posting).findAccount userId network =
      (ledger.findAccount userId network).map (fun account => { account with
        creditsMicro := account.creditsMicro + total posting.credits account.userId account.network }) := by
  simp only [findAccount, post, List.find?_map, Function.comp_def]

theorem findAccount_owner {ledger : Ledger} {userId : Uuid} {network : String} {account : BillingAccount}
    (found : ledger.findAccount userId network = some account) :
    account.userId = userId ∧ account.network = network := by
  simpa using List.find?_some found

theorem balance_post (ledger : Ledger) (posting : Posting) (userId : Uuid) (network : String)
    (known : (ledger.findAccount userId network).isSome) :
    (ledger.post posting).balance userId network =
      ledger.balance userId network + total posting.credits userId network := by
  obtain ⟨account, found⟩ := Option.isSome_iff_exists.mp known
  obtain ⟨user, net⟩ := findAccount_owner found
  simp [balance, findAccount_post, found, user, net]

/-- The same balances and rows; an account without credits may have been opened. -/
structure SameBooks (before after : Ledger) : Prop where
  balance : ∀ userId network, after.balance userId network = before.balance userId network
  charges : after.charges = before.charges
  deposits : after.deposits = before.deposits

theorem SameBooks.refl (ledger : Ledger) : SameBooks ledger ledger := ⟨fun _ _ => rfl, rfl, rfl⟩

theorem SameBooks.conserved {before after : Ledger} (same : SameBooks before after) (conserved : before.Conserved) :
    after.Conserved := by
  intro userId network
  rw [same.balance, same.charges, same.deposits]
  exact conserved userId network

theorem post_empty (ledger : Ledger) : ledger.post .empty = ledger := by
  simp [post, Posting.empty]

/-- A balanced posting keeps the books balanced. -/
theorem Conserved.post {ledger : Ledger} {posting : Posting} (conserved : ledger.Conserved)
    (balanced : posting.Balanced) (covers : ledger.Covers posting) : (ledger.post posting).Conserved := by
  intro userId network
  have before := conserved userId network
  have sums := balanced userId network
  simp only [Ledger.post, total_append]
  change (ledger.post posting).balance userId network = _
  by_cases known : (ledger.findAccount userId network).isSome
  · rw [balance_post ledger posting userId network known, before, sums]
    abel
  · have charges : total posting.charges userId network = 0 := by
      apply total_eq_zero
      rintro row member ⟨rfl, rfl⟩
      exact known (covers.1 row member)
    have deposits : total posting.deposits userId network = 0 := by
      apply total_eq_zero
      rintro row member ⟨rfl, rfl⟩
      exact known (covers.2 row member)
    have absent : ledger.findAccount userId network = none := by simpa using known
    have unchanged : (ledger.post posting).balance userId network = ledger.balance userId network := by
      simp [balance, findAccount_post, absent]
    rw [unchanged, before, charges, deposits]
    abel

end Ledger
end MpcKit.Billing
