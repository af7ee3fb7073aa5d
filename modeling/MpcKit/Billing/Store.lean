import MpcKit.Async.Machine
import MpcKit.Billing.Ledger

/-! The billing tables as Postgres keeps them at READ COMMITTED, one SQL statement at a
time. A row written inside a transaction carries its writer until commit; a locked account
carries the lock holder together with the balance that holder has written so far. -/

namespace MpcKit.Billing
open MpcKit.Backend MpcKit.Async

/-- A table row, and the transaction that inserted it while that one is still open. -/
structure Versioned (ρ : Type) where
  row : ρ
  writer : Option Nat

/-- The committed account row, and the lock on it with the holder's own balance. -/
structure AccountSlot where
  row : BillingAccount
  lock : Option (Nat × Int)

structure Store where
  accounts : List AccountSlot
  charges : List (Versioned BillingCharge)
  deposits : List (Versioned BillingDeposit)
  nextId : Uuid

/-- Row values of an `INSERT INTO billing_charges`; the id is drawn by the database. -/
structure NewCharge where
  userId : Uuid
  network : String
  opType : String
  opId : Uuid
  kind : ChargeKind
  creditsMicro : Int
  reason : Option String

structure NewDeposit where
  userId : Uuid
  network : String
  txDigest : String
  senderAddress : String
  coinType : String
  amountAtomic : Int
  creditsCredited : Int
  rateMicroPerAtomic : Int

def NewCharge.row (new : NewCharge) (id : Uuid) : BillingCharge :=
  ⟨id, new.userId, new.network, new.opType, new.opId, new.kind, new.creditsMicro, new.reason⟩

def NewDeposit.row (new : NewDeposit) (id : Uuid) : BillingDeposit :=
  ⟨id, new.userId, new.network, new.txDigest, new.senderAddress, new.coinType, new.amountAtomic,
    new.creditsCredited, new.rateMicroPerAtomic, .pending⟩

structure BalanceChange where
  address : String
  coinType : String
  amount : Int

/-- `core.getTransaction` as `verifyDeposit` reads it. -/
inductive TransactionResult where
  | failed
  | transaction (error : Option String) (sender : Option String) (balanceChanges : List BalanceChange)

/-- Every await of the billing service. -/
inductive Op where
  | randomUUID
  | selectAccount (userId : Uuid) (network : String)
  | insertAccount (userId : Uuid) (network : String)
  | setDepositAddress (id : Uuid) (address : String)
  | begin
  | commit
  | rollback
  | selectCharge (op : OpKey) (kind : ChargeKind)
  | selectCredits (op : OpKey) (kind : ChargeKind)
  | lockAccount (userId : Uuid) (network : String)
  | addCredits (credit : Credit)
  | insertCharge (new : NewCharge)
  | selectDeposit (txDigest : String)
  | insertDeposit (new : NewDeposit)
  | getTransaction (network digest : String)
  | creditsFor (coinType : String) (amountAtomic : Int)
  | enqueueSweep (userId : Uuid) (network : String) (depositId : Uuid)
  | body

/-- The answer an await gets. Statements of a transaction may fail, which aborts it. -/
@[reducible] def Res : Op → Type
  | .randomUUID => Uuid
  | .selectAccount _ _ => Option BillingAccount
  | .insertAccount _ _ => Option BillingAccount
  | .setDepositAddress _ _ => Unit
  | .begin => Except Thrown Unit
  | .commit => Except Thrown Unit
  | .rollback => Unit
  | .selectCharge _ _ => Except Thrown (Option BillingCharge)
  | .selectCredits _ _ => Except Thrown (List Int)
  | .lockAccount _ _ => Except Thrown (Option Int)
  | .addCredits _ => Except Thrown (Option Int)
  | .insertCharge _ => Except Thrown BillingCharge
  | .selectDeposit _ => Option BillingDeposit
  | .insertDeposit _ => Except Thrown BillingDeposit
  | .getTransaction _ _ => Except Thrown TransactionResult
  | .creditsFor _ _ => Except Thrown (Int × Int)
  | .enqueueSweep _ _ _ => Except Thrown Unit
  | .body => Except Thrown Uuid

/-- What the outside decides at one statement. -/
structure Env where
  /-- The statement fails and Postgres aborts the transaction, as it does when a number is out of range. -/
  fails : Bool
  /-- Price in micro-dollars of one coin and its decimals, when the feed is fresh and knows the coin. -/
  price : Except Thrown (Nat × Nat)
  transaction : Except Thrown TransactionResult
  body : Except Thrown Uuid
  enqueued : Except Thrown Unit

def driverError : Thrown := .other "PostgresError" "current transaction is aborted"
def uniqueViolation : Thrown := .other "PostgresError" "duplicate key value violates unique constraint"

/-- `INSERT` under a unique index: wait for an open transaction that holds the key, fail on a
committed or own row with it, append otherwise. -/
def insertUnique {ρ κ : Type} [DecidableEq κ] (key : ρ → κ) (index : Nat) (row : ρ)
    (rows : List (Versioned ρ)) : Option (Except Thrown (List (Versioned ρ))) :=
  match rows.find? (fun other => key other.row = key row) with
  | none => some (.ok (rows ++ [⟨row, some index⟩]))
  | some other => match other.writer with
      | none => some (.error uniqueViolation)
      | some writer => if writer = index then some (.error uniqueViolation) else none

namespace Versioned

variable {ρ : Type}

/-- Visible to a statement of transaction `index`: committed, or written by itself. -/
def Visible (index : Nat) (entry : Versioned ρ) : Prop :=
  entry.writer = none ∨ entry.writer = some index

instance (index : Nat) (entry : Versioned ρ) : Decidable (entry.Visible index) :=
  inferInstanceAs (Decidable (_ ∨ _))

def visible (index : Nat) (rows : List (Versioned ρ)) : List ρ :=
  (rows.filter (fun entry => entry.Visible index)).map row

def committed (rows : List (Versioned ρ)) : List ρ :=
  (rows.filter (fun entry => entry.writer = none)).map row

def pending (index : Nat) (rows : List (Versioned ρ)) : List ρ :=
  (rows.filter (fun entry => entry.writer = some index)).map row

/-- Rows of an ending transaction are dropped or become committed rows. -/
def discard (index : Nat) (rows : List (Versioned ρ)) : List (Versioned ρ) :=
  rows.filter (fun entry => entry.writer ≠ some index)

def settle (index : Nat) (rows : List (Versioned ρ)) : List (Versioned ρ) :=
  discard index rows ++ (pending index rows).map (fun row => ⟨row, none⟩)

end Versioned

namespace AccountSlot

def Is (userId : Uuid) (network : String) (slot : AccountSlot) : Prop :=
  slot.row.userId = userId ∧ slot.row.network = network

instance (userId : Uuid) (network : String) (slot : AccountSlot) : Decidable (slot.Is userId network) :=
  inferInstanceAs (Decidable (_ ∧ _))

/-- Free for `index`: nobody else holds the row lock. -/
def Free (index : Nat) (slot : AccountSlot) : Prop := ∀ holder ∈ slot.lock, holder.1 = index

instance (index : Nat) (slot : AccountSlot) : Decidable (slot.Free index) :=
  inferInstanceAs (Decidable (∀ holder ∈ slot.lock, holder.1 = index))

/-- The balance the lock holder sees, or the committed one. -/
def current (slot : AccountSlot) : Int := (slot.lock.map Prod.snd).getD slot.row.creditsMicro

def take (index : Nat) (delta : Int) (slot : AccountSlot) : AccountSlot :=
  { slot with lock := some (index, slot.current + delta) }

def settle (index : Nat) (slot : AccountSlot) : AccountSlot := match slot.lock with
  | some (holder, credits) => if holder = index
      then ⟨{ slot.row with creditsMicro := credits }, none⟩ else slot
  | none => slot

def discard (index : Nat) (slot : AccountSlot) : AccountSlot := match slot.lock with
  | some (holder, _) => if holder = index then { slot with lock := none } else slot
  | none => slot

end AccountSlot

namespace Store

/-- What other transactions see: the committed rows. -/
def view (store : Store) : Ledger :=
  ⟨store.accounts.map AccountSlot.row, Versioned.committed store.charges, Versioned.committed store.deposits⟩

def findSlot (store : Store) (userId : Uuid) (network : String) : Option AccountSlot :=
  store.accounts.find? (fun slot => slot.Is userId network)

/-- Lock an account row for `index` and change the holder's balance, or wait for the lock. -/
def lockSlot (store : Store) (index : Nat) (userId : Uuid) (network : String) (delta : Int) :
    Option (Option Int × Store) :=
  match store.findSlot userId network with
  | none => some (none, store)
  | some slot => if slot.Free index then
      some (some (slot.current + delta), { store with accounts := store.accounts.map (fun other =>
        if other.Is userId network then other.take index delta else other) })
    else none

def commit (store : Store) (index : Nat) : Store :=
  { store with
    accounts := store.accounts.map (AccountSlot.settle index)
    charges := Versioned.settle index store.charges
    deposits := Versioned.settle index store.deposits }

def rollback (store : Store) (index : Nat) : Store :=
  { store with
    accounts := store.accounts.map (AccountSlot.discard index)
    charges := Versioned.discard index store.charges
    deposits := Versioned.discard index store.deposits }

end Store

/-- What an int8 column holds. -/
def FitsInt8 (value : Int) : Prop := -2 ^ 63 ≤ value ∧ value < 2 ^ 63

instance (value : Int) : Decidable (FitsInt8 value) := inferInstanceAs (Decidable (_ ∧ _))

/-- The statement writes a number that its int8 column does not hold, and Postgres refuses it. -/
def Store.Overflows (store : Store) : Op → Prop
  | .insertDeposit new => ¬FitsInt8 new.creditsCredited
  | .insertCharge new => ¬FitsInt8 new.creditsMicro
  | .addCredits credit => ¬FitsInt8 credit.delta ∨
      ∃ slot ∈ store.findSlot credit.userId credit.network, ¬FitsInt8 (slot.current + credit.delta)
  | _ => False

instance (store : Store) (op : Op) : Decidable (store.Overflows op) := by
  unfold Store.Overflows
  induction op using Op.casesOn <;> infer_instance

/-- `atomic * microUsdPerCoin / 10^decimals`, with the rate it used. -/
def microUsdFromAtomic (amountAtomic : Int) (priceMicroUsd decimals : Nat) : Int × Int :=
  (amountAtomic * priceMicroUsd / (10 ^ decimals : Nat), priceMicroUsd)

/-- One statement of call number `index`. Whether it fails is up to the environment, which has to let it fail
where it `Overflows`. -/
def exec (index : Nat) (op : Op) (env : Env) (store : Store) : Option (Res op × Store) :=
  match op with
  | .randomUUID => some (store.nextId, { store with nextId := store.nextId + 1 })
  | .selectAccount userId network => some ((store.findSlot userId network).map AccountSlot.row, store)
  | .insertAccount userId network => match store.findSlot userId network with
      | some _ => some (none, store)
      | none =>
          let row : BillingAccount := ⟨store.nextId, userId, network, 0, none⟩
          some (some row, { store with accounts := store.accounts ++ [⟨row, none⟩], nextId := store.nextId + 1 })
  | .setDepositAddress id address =>
      -- The UPDATE waits for the row lock but writes another column than the balance.
      if ∀ slot ∈ store.accounts, slot.row.id = id → slot.Free index then
        some ((), { store with accounts := store.accounts.map (fun slot =>
          if slot.row.id = id then { slot with row := { slot.row with depositAddress := some address } } else slot) })
      else none
  | .begin => if env.fails then some (.error driverError, store) else some (.ok (), store)
  | .commit => if env.fails then some (.error driverError, store.rollback index)
      else some (.ok (), store.commit index)
  | .rollback => some ((), store.rollback index)
  | .selectCharge op kind => if env.fails then some (.error driverError, store)
      else some (.ok ((Versioned.visible index store.charges).find? (fun row => row.op = op ∧ row.kind = kind)), store)
  | .selectCredits op kind => if env.fails then some (.error driverError, store)
      else some (.ok (((Versioned.visible index store.charges).filter
        (fun row => row.op = op ∧ row.kind = kind)).map BillingCharge.creditsMicro), store)
  | .lockAccount userId network => if env.fails then some (.error driverError, store)
      else (store.lockSlot index userId network 0).map (fun (found, store) => (.ok found, store))
  | .addCredits credit => if env.fails then some (.error driverError, store)
      else (store.lockSlot index credit.userId credit.network credit.delta).map
        (fun (found, store) => (.ok found, store))
  | .insertCharge new => if env.fails then some (.error driverError, store)
      else (insertUnique (fun row : BillingCharge => (row.op, row.kind)) index (new.row store.nextId)
        store.charges).map (fun inserted => match inserted with
          | .ok charges => (.ok (new.row store.nextId),
              { store with charges := charges, nextId := store.nextId + 1 })
          | .error error => (.error error, store))
  | .selectDeposit txDigest =>
      some ((Versioned.visible index store.deposits).find? (fun row => row.txDigest = txDigest), store)
  | .insertDeposit new => if env.fails then some (.error driverError, store)
      else (insertUnique BillingDeposit.txDigest index (new.row store.nextId) store.deposits).map
        (fun inserted => match inserted with
          | .ok deposits => (.ok (new.row store.nextId),
              { store with deposits := deposits, nextId := store.nextId + 1 })
          | .error error => (.error error, store))
  | .getTransaction _ _ => some (env.transaction, store)
  | .creditsFor _ amountAtomic => some (env.price.map (fun price =>
      microUsdFromAtomic amountAtomic price.1 price.2), store)
  | .enqueueSweep _ _ _ => some (env.enqueued, store)
  | .body => some (env.body, store)

end MpcKit.Billing
