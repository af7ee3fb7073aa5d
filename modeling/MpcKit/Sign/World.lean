import Mathlib
import MpcKit.Async.Machine
import MpcKit.Async.Table
import MpcKit.Billing.Atomic

/-! What the sign and presign services share: the Postgres tables, the credit ledger, the job
queue and the chain, each with the single statements and requests made against it. -/

namespace MpcKit.Sign
open MpcKit.Backend MpcKit.Async
open MpcKit.Billing (Ledger ChargeArgs RefundArgs BillingCharge uniqueViolation)

/-! ### Hex text -/

def hexDigits : List Char := "0123456789abcdef".toList

def toHex (bytes : Bytes) : String :=
  String.ofList (bytes.flatMap (fun byte => [hexDigits.getD (byte.toNat / 16) '0', hexDigits.getD (byte.toNat % 16) '0']))

def hexValue (digit : Char) : Option Nat := hexDigits.findIdx? (fun other => other = digit.toLower)

def parseHex : List Char → Option Bytes
  | [] => some []
  | [_] => none
  | high :: low :: rest => do
      let high ← hexValue high
      let low ← hexValue low
      let bytes ← parseHex rest
      return UInt8.ofNat (high * 16 + low) :: bytes

def fromHex (text : String) : Except Thrown Bytes :=
  let stripped := if text.startsWith "0x" then text.toList.drop 2 else text.toList
  match parseHex stripped with
  | some bytes => .ok bytes
  | none => .error (.app (errors.validation "expected hex" "BAD_HEX"))

/-! ### Rows -/

inductive SignStatus where
  | prepared
  | queued
  | submitted
  | completed
  | failed
  deriving DecidableEq, Repr

def SignStatus.text : SignStatus → String
  | .prepared => "prepared"
  | .queued => "queued"
  | .submitted => "submitted"
  | .completed => "completed"
  | .failed => "failed"

/-- `sign_requests`. -/
structure SignRequest where
  id : Uuid
  userId : Uuid
  network : String
  idempotencyKey : String
  suiDwalletId : ObjectId
  presignId : Option Uuid
  curve : Nat
  signatureAlgorithm : Nat
  hashScheme : Nat
  messageHex : String
  messageCentralizedSignatureHex : Option String
  sessionIdentifierHex : Option String
  status : SignStatus
  txDigest : Option String
  signSessionId : Option String
  signatureHex : Option String
  errorCode : Option String
  errorMessage : Option String
  updatedAt : Time
  completedAt : Option Time
  deriving DecidableEq, Repr

/-- The values of an `INSERT INTO sign_requests`. -/
structure NewSignRequest where
  id : Uuid
  userId : Uuid
  network : String
  idempotencyKey : String
  suiDwalletId : ObjectId
  curve : Nat
  signatureAlgorithm : Nat
  hashScheme : Nat
  messageHex : String
  status : SignStatus

def NewSignRequest.row (new : NewSignRequest) (now : Time) : SignRequest where
  id := new.id
  userId := new.userId
  network := new.network
  idempotencyKey := new.idempotencyKey
  suiDwalletId := new.suiDwalletId
  presignId := none
  curve := new.curve
  signatureAlgorithm := new.signatureAlgorithm
  hashScheme := new.hashScheme
  messageHex := new.messageHex
  messageCentralizedSignatureHex := none
  sessionIdentifierHex := none
  status := new.status
  txDigest := none
  signSessionId := none
  signatureHex := none
  errorCode := none
  errorMessage := none
  updatedAt := now
  completedAt := none

inductive PresignStatus where
  | pending
  | ready
  | allocated
  | consumedPending
  | used
  | failed
  deriving DecidableEq, Repr

/-- `presigns`: the mirror of one `UnverifiedPresignCap`. -/
structure Presign where
  id : Uuid
  network : String
  suiObjectId : ObjectId
  curve : Nat
  signatureAlgorithm : Nat
  networkEncryptionKeyId : ObjectId
  status : PresignStatus
  requestTxDigest : Option String
  signRequestId : Option Uuid
  allocatedAt : Option Time
  usedAt : Option Time
  createdAt : Time
  updatedAt : Time
  deriving DecidableEq, Repr

/-- The values of an `INSERT INTO presigns`; the status is always `pending`. -/
structure NewPresign where
  suiObjectId : ObjectId
  network : String
  curve : Nat
  signatureAlgorithm : Nat
  networkEncryptionKeyId : ObjectId
  requestTxDigest : Option String

def NewPresign.row (new : NewPresign) (id : Uuid) (now : Time) : Presign :=
  ⟨id, new.network, new.suiObjectId, new.curve, new.signatureAlgorithm, new.networkEncryptionKeyId, .pending,
    new.requestTxDigest, none, none, none, now, now⟩

inductive DWalletStatus where
  | awaitingUserShare
  | active
  | failed
  deriving DecidableEq, Repr

def DWalletStatus.text : DWalletStatus → String
  | .awaitingUserShare => "awaiting_user_share"
  | .active => "active"
  | .failed => "failed"

/-- `dwallets`. -/
structure DWallet where
  id : Uuid
  userId : Uuid
  accountId : Option Uuid
  network : String
  suiDwalletId : ObjectId
  curve : Nat
  /-- The key the caller named for the DKG. -/
  encryptionKeyId : ObjectId
  /-- The key the chain bound the dwallet to. -/
  networkEncryptionKeyId : Option ObjectId
  kind : String
  status : DWalletStatus
  dkgTxDigest : String
  acceptTxDigest : Option String
  deriving DecidableEq, Repr

/-- `accounts`. -/
structure Account where
  id : Uuid
  userId : Uuid
  network : String
  suiObjectId : ObjectId
  suiTxDigest : String
  deriving DecidableEq, Repr

/-! ### What is asked of the outside -/

/-- The arguments `buildSignZeroTrust` puts into a PTB. -/
structure SignZeroTrust where
  network : String
  accountId : ObjectId
  coordinatorId : ObjectId
  dwalletId : ObjectId
  presignCapId : ObjectId
  signatureAlgorithm : Nat
  hashScheme : Nat
  message : Bytes
  messageCentralizedSignature : Bytes
  sessionIdentifierBytes : Bytes
  deriving DecidableEq, Repr

structure TxEvent where
  eventType : String
  signId : Option String
  deriving DecidableEq, Repr

structure ExecutedTx where
  digest : String
  events : List TxEvent
  deriving DecidableEq, Repr

/-- How a submission ends. `unknown` and `thrown` lose the answer after the bytes were handed
over, whether or not the transaction landed; `thrown` is any other error than the executor's own. -/
inductive Outcome where
  | success
  | preflight (message : String)
  | reverted (message : String) (digest : String)
  | unknown (message : String) (landed : Bool)
  | thrown (name message : String) (landed : Bool)

/-- The transaction reaches the chain and is executed there. -/
def Outcome.lands : Outcome → Bool
  | .success => true
  | .preflight _ => false
  | .reverted _ _ => false
  | .unknown _ landed => landed
  | .thrown _ _ landed => landed

structure OwnedObject where
  objectId : ObjectId
  type : String
  deriving DecidableEq, Repr

structure Page where
  objects : List OwnedObject
  hasNextPage : Bool
  cursor : Option String
  deriving DecidableEq

structure SessionJson where
  curve : Option Nat
  signatureAlgorithm : Option Nat

structure RefillArgs where
  network : String
  curve : Nat
  signatureAlgorithm : Nat
  count : Option Nat
  deriving DecidableEq, Repr

/-- The bucket and the request of an allocation. -/
structure AllocateArgs where
  network : String
  curve : Nat
  signatureAlgorithm : Nat
  networkEncryptionKeyId : ObjectId
  signRequestId : Uuid
  deriving DecidableEq, Repr

inductive SignOp where
  | selectByKey (userId : Uuid) (network idempotencyKey : String)
  | selectOwned (id userId : Uuid) (network : String)
  | select (id : Uuid)
  | selectStuck (cutoff : Int)
  | insert (new : NewSignRequest)
  | delete (id : Uuid)
  | setPresign (id presignId : Uuid)
  | setQueued (id : Uuid) (messageCentralizedSignatureHex sessionIdentifierHex : String)
  | setSubmitted (id : Uuid) (txDigest : String)
  | setSession (id : Uuid) (signSessionId : String)
  | setCompleted (id : Uuid) (signatureHex : String)
  | setFailed (id : Uuid) (errorCode errorMessage : String)

inductive PresignOp where
  | select (id : Uuid)
  | selectPending
  | selectTracked (network : String)
  | claim (args : AllocateArgs)
  | markConsumedPending (id : Uuid)
  | markUsed (id : Uuid)
  | rollbackToReady (id : Uuid)
  | promote (id : Uuid)
  | quarantine (suiObjectId : ObjectId)
  | touch (id : Uuid)
  | rescueExpired (cutoff : Int)
  | parkExpired (cutoff : Int)
  | insertMinted (news : List NewPresign)
  | insertDiscovered (new : NewPresign)

inductive LedgerOp where
  | openAccount (userId : Uuid) (network : String)
  | charge (args : ChargeArgs)
  | refund (args : RefundArgs)

/-- The credit account a transaction is about. -/
def LedgerOp.On (userId : Uuid) (network : String) : LedgerOp → Prop
  | .openAccount user net => user = userId ∧ net = network
  | .charge args => args.userId = userId ∧ args.network = network
  | .refund args => args.userId = userId ∧ args.network = network

inductive WalletOp where
  | selectOwned (id userId : Uuid) (network : String)
  | select (id : Uuid)
  | selectBySui (suiDwalletId : ObjectId)
  | setNek (id : Uuid) (networkEncryptionKeyId : ObjectId)
  | selectAccount (id : Uuid)

inductive QueueOp where
  | signProcess (signRequestId : Uuid)
  | presignRefill (args : RefillArgs)

inductive ChainOp where
  | getIkaClient (network : String)
  | getObject (network : String) (capObjectId : ObjectId)
  | getPresign (network sessionId : String)
  | getDWallet (network : String) (suiDwalletId : ObjectId)
  | buildSignZeroTrust (tx : SignZeroTrust)
  | execute (tx : SignZeroTrust)
  | getSign (network signSessionId : String)
  | getLatestNetworkEncryptionKey (network : String)
  | executeMint (args : RefillArgs) (networkEncryptionKeyId : ObjectId) (count : Nat)
  | listOwnedObjects (network : String) (cursor : Option String)
  | getCaps (network : String) (objectIds : List ObjectId)
  | getSessions (network : String) (objectIds : List ObjectId)
  | getDynamicField (network parentId : String) (name : Bytes)

inductive Op where
  | sign (op : SignOp)
  | presign (op : PresignOp)
  | ledger (op : LedgerOp)
  | wallet (op : WalletOp)
  | queue (op : QueueOp)
  | chain (op : ChainOp)
  | randomUUID
  | now

@[reducible] def SignOp.Res : SignOp → Type
  | .selectByKey _ _ _ => Option SignRequest
  | .selectOwned _ _ _ => Option SignRequest
  | .select _ => Option SignRequest
  | .selectStuck _ => List SignRequest
  | .insert _ => Except Thrown SignRequest
  | .delete _ => Unit
  | .setPresign _ _ => Option SignRequest
  | .setQueued _ _ _ => Option SignRequest
  | .setSubmitted _ _ => Unit
  | .setSession _ _ => Unit
  | .setCompleted _ _ => Unit
  | .setFailed _ _ _ => Option SignRequest

@[reducible] def PresignOp.Res : PresignOp → Type
  | .select _ => Option Presign
  | .selectPending => List Presign
  | .selectTracked _ => List ObjectId
  | .claim _ => Option Uuid
  | .insertMinted _ => Except Thrown Unit
  | .insertDiscovered _ => Bool
  | .rescueExpired _ => Nat
  | .parkExpired _ => Nat
  | _ => Unit

@[reducible] def LedgerOp.Res : LedgerOp → Type
  | .openAccount _ _ => Unit
  | .charge _ => Except Thrown BillingCharge
  | .refund _ => Except Thrown BillingCharge

@[reducible] def WalletOp.Res : WalletOp → Type
  | .selectOwned _ _ _ => Option DWallet
  | .select _ => Option DWallet
  | .selectBySui _ => Option DWallet
  | .setNek _ _ => Unit
  | .selectAccount _ => Option Account

@[reducible] def ChainOp.Res : ChainOp → Type
  | .getIkaClient _ => Except Thrown ObjectId
  | .getObject _ _ => Except Thrown (Option (Option String))
  | .getPresign _ _ => Except Thrown (Option Bytes)
  | .getDWallet _ _ => Except Thrown (Option ObjectId)
  | .buildSignZeroTrust _ => Except Thrown Unit
  | .execute _ => Except Thrown ExecutedTx
  | .getSign _ _ => Except Thrown (Option Bytes)
  | .getLatestNetworkEncryptionKey _ => Except Thrown ObjectId
  | .executeMint _ _ _ => Except Thrown (String × List ObjectId)
  | .listOwnedObjects _ _ => Except Thrown Page
  | .getCaps _ _ => Except Thrown (List (Option (Option String)))
  | .getSessions _ _ => Except Thrown (List (Option SessionJson))
  | .getDynamicField _ _ _ => Except Thrown (Option Bytes)

@[reducible] def Res : Op → Type
  | .sign op => op.Res
  | .presign op => op.Res
  | .ledger op => op.Res
  | .wallet op => op.Res
  | .queue _ => Except Thrown Unit
  | .chain op => op.Res
  | .randomUUID => Uuid
  | .now => Time

/-! ### The shared state -/

/-- What the outside decides at one step. -/
structure Env where
  now : Time
  /-- Presign rows other transactions have locked, skipped by `SKIP LOCKED`. -/
  locked : List Uuid
  /-- Whether the request gets through at all, or the transaction can be built. -/
  rpc : Except Thrown Unit
  coordinatorId : ObjectId
  /-- The object comes back as an error value instead of content. -/
  objectError : Bool
  presignId : Option String
  presignBytes : Option Bytes
  networkEncryptionKeyId : Option ObjectId
  outcome : Outcome
  digest : String
  events : List TxEvent
  signature : Option Bytes
  caps : List ObjectId
  page : Page
  capBatch : List (Option (Option String))
  sessionBatch : List (Option SessionJson)
  fieldValue : Option Bytes

/-- A `sign.process` job, how often it was handed to a worker, and whether it was acknowledged. -/
structure Job where
  signRequestId : Uuid
  delivered : Nat
  done : Bool
  deriving DecidableEq, Repr

structure Chain where
  live : List ObjectId
  consumed : List ObjectId

structure World where
  signRequests : Table SignRequest.id
  presigns : Table Presign.id
  ledger : Ledger
  dwallets : Table DWallet.id
  accounts : Table Account.id
  jobs : List Job
  chain : Chain
  nextId : Uuid

/-! ### Statements on `sign_requests` -/

abbrev SignTable := Table SignRequest.id

def SignRequest.HasKey (row : SignRequest) (userId : Uuid) (network idempotencyKey : String) : Prop :=
  row.userId = userId ∧ row.network = network ∧ row.idempotencyKey = idempotencyKey

instance (row : SignRequest) (userId : Uuid) (network idempotencyKey : String) :
    Decidable (row.HasKey userId network idempotencyKey) := inferInstanceAs (Decidable (_ ∧ _))

def SignRequest.Stuck (cutoff : Int) (row : SignRequest) : Prop := row.status = .prepared ∧ (row.updatedAt : Int) < cutoff

instance (cutoff : Int) (row : SignRequest) : Decidable (row.Stuck cutoff) := inferInstanceAs (Decidable (_ ∧ _))

namespace SignRequest

abbrev Change := Table.Change SignRequest.id

def toPresign (now : Time) (presignId : Uuid) : Change where
  set row := { row with presignId := some presignId, updatedAt := now }
  keeps _ := rfl

def toQueued (now : Time) (signature session : String) : Change where
  set row := { row with
    messageCentralizedSignatureHex := some signature, sessionIdentifierHex := some session,
    status := .queued, updatedAt := now }
  keeps _ := rfl

def toSubmitted (now : Time) (digest : String) : Change where
  set row := { row with status := .submitted, txDigest := some digest, updatedAt := now }
  keeps _ := rfl

def toSession (now : Time) (session : String) : Change where
  set row := { row with signSessionId := some session, updatedAt := now }
  keeps _ := rfl

def toCompleted (now : Time) (signature : String) : Change where
  set row := { row with
    status := .completed, signatureHex := some signature, completedAt := some now, updatedAt := now }
  keeps _ := rfl

def toFailed (now : Time) (code message : String) : Change where
  set row := { row with
    status := .failed, errorCode := some code, errorMessage := some message,
    updatedAt := now, completedAt := some now }
  keeps _ := rfl

end SignRequest

/-- `UPDATE … WHERE id = … RETURNING`. -/
def SignTable.set (table : SignTable) (id : Uuid) (change : SignRequest.Change) : Option SignRequest × SignTable :=
  ((table.modify id change).get id, table.modify id change)

def SignOp.exec (env : Env) (table : SignTable) : (op : SignOp) → op.Res × SignTable
  | .selectByKey userId network idempotencyKey =>
      (table.rows.find? (fun row => row.HasKey userId network idempotencyKey), table)
  | .selectOwned id userId network =>
      (table.rows.find? (fun row => row.id = id ∧ row.userId = userId ∧ row.network = network), table)
  | .select id => (table.get id, table)
  | .selectStuck cutoff => (table.rows.filter (fun row => row.Stuck cutoff), table)
  | .insert new =>
      if table.rows.any (fun row => row.HasKey new.userId new.network new.idempotencyKey) then
        (.error uniqueViolation, table)
      else match table.insert (new.row env.now) with
        | some inserted => (.ok (new.row env.now), inserted)
        | none => (.error uniqueViolation, table)
  | .delete id => ((), table.delete id)
  | .setPresign id presignId => table.set id (SignRequest.toPresign env.now presignId)
  | .setQueued id signature session => table.set id (SignRequest.toQueued env.now signature session)
  | .setSubmitted id digest => ((), (table.set id (SignRequest.toSubmitted env.now digest)).2)
  | .setSession id session => ((), (table.set id (SignRequest.toSession env.now session)).2)
  | .setCompleted id signature => ((), (table.set id (SignRequest.toCompleted env.now signature)).2)
  | .setFailed id code message => table.set id (SignRequest.toFailed env.now code message)

/-! ### Statements on `presigns` -/

abbrev PresignTable := Table Presign.id

def Presign.Matches (args : AllocateArgs) (row : Presign) : Prop :=
  row.network = args.network ∧ row.curve = args.curve ∧ row.signatureAlgorithm = args.signatureAlgorithm ∧
    row.networkEncryptionKeyId = args.networkEncryptionKeyId ∧ row.status = .ready

instance (args : AllocateArgs) (row : Presign) : Decidable (row.Matches args) := inferInstanceAs (Decidable (_ ∧ _))

/-- `ORDER BY created_at LIMIT 1`. -/
def oldest : List Presign → Option Presign
  | [] => none
  | row :: rows => match oldest rows with
      | none => some row
      | some other => if other.createdAt < row.createdAt then some other else some row

/-- `allocated_at < cutoff`, which a null does not meet. -/
def Presign.Expired (status : PresignStatus) (cutoff : Int) (row : Presign) : Prop :=
  row.status = status ∧ ∃ allocatedAt ∈ row.allocatedAt, (allocatedAt : Int) < cutoff

instance (status : PresignStatus) (cutoff : Int) (row : Presign) : Decidable (row.Expired status cutoff) :=
  inferInstanceAs (Decidable (_ ∧ _))

namespace Presign

abbrev Change := Table.Change Presign.id

def toAllocated (now : Time) (signRequestId : Uuid) : Change where
  set row := { row with
    status := .allocated, signRequestId := some signRequestId, allocatedAt := some now, updatedAt := now }
  keeps _ := rfl

def toConsumedPending (now : Time) : Change where
  set row := { row with status := .consumedPending, updatedAt := now }
  keeps _ := rfl

def toUsed (now : Time) : Change where
  set row := { row with status := .used, usedAt := some now, updatedAt := now }
  keeps _ := rfl

def toReady (now : Time) : Change where
  set row := { row with status := .ready, signRequestId := none, allocatedAt := none, updatedAt := now }
  keeps _ := rfl

def toPromoted (now : Time) : Change where
  set row := { row with status := .ready, updatedAt := now }
  keeps _ := rfl

def toFailed (now : Time) : Change where
  set row := { row with status := .failed, updatedAt := now }
  keeps _ := rfl

def toTouched (now : Time) : Change where
  set row := { row with updatedAt := now }
  keeps _ := rfl

end Presign

/-- `INSERT` under the unique index on the cap id. -/
def PresignTable.insertCap (table : PresignTable) (new : NewPresign) (id : Uuid) (now : Time) : Option PresignTable :=
  if table.rows.any (fun row => row.suiObjectId = new.suiObjectId) then none else table.insert (new.row id now)

/-- One `INSERT` of several rows: all or none. -/
def PresignTable.insertCaps (now : Time) : List NewPresign → Uuid → PresignTable → Option (PresignTable × Uuid)
  | [], next, table => some (table, next)
  | new :: news, next, table => match table.insertCap new next now with
      | none => none
      | some inserted => insertCaps now news (next + 1) inserted

def PresignOp.exec (env : Env) (table : PresignTable) (next : Uuid) : (op : PresignOp) → op.Res × PresignTable × Uuid
  | .select id => (table.get id, table, next)
  | .selectPending => (table.rows.filter (fun row => row.status = .pending), table, next)
  | .selectTracked network => ((table.rows.filter (fun row => row.network = network)).map Presign.suiObjectId, table, next)
  | .claim args => match oldest (table.rows.filter (fun row => row.Matches args ∧ row.id ∉ env.locked)) with
      | none => (none, table, next)
      | some row => (some row.id, table.modify row.id (Presign.toAllocated env.now args.signRequestId), next)
  | .markConsumedPending id => ((), table.modify id (Presign.toConsumedPending env.now), next)
  | .markUsed id => ((), table.modify id (Presign.toUsed env.now), next)
  | .rollbackToReady id => ((), table.modify id (Presign.toReady env.now), next)
  | .promote id => ((), table.modify id (Presign.toPromoted env.now), next)
  | .quarantine suiObjectId => ((), table.update ((Presign.toFailed env.now).guard
      (fun row => row.suiObjectId = suiObjectId)), next)
  | .touch id => ((), table.modify id (Presign.toTouched env.now), next)
  | .rescueExpired cutoff => ((table.rows.filter (fun row => row.Expired .allocated cutoff)).length,
      table.update ((Presign.toReady env.now).guard (fun row => row.Expired .allocated cutoff)), next)
  | .parkExpired cutoff => ((table.rows.filter (fun row => row.Expired .consumedPending cutoff)).length,
      table.update ((Presign.toFailed env.now).guard (fun row => row.Expired .consumedPending cutoff)), next)
  | .insertMinted news => match PresignTable.insertCaps env.now news next table with
      | none => (.error uniqueViolation, table, next)
      | some (inserted, next) => (.ok (), inserted, next)
  | .insertDiscovered new => match table.insertCap new next env.now with
      | none => (false, table, next)
      | some inserted => (true, inserted, next + 1)

/-! ### The other parties -/

def LedgerOp.exec (ledger : Ledger) (next : Uuid) : (op : LedgerOp) → op.Res × Ledger × Uuid
  | .openAccount userId network => ((), ledger.openAccount userId network next, next + 1)
  | .charge args => ((ledger.charge args next).1, (ledger.charge args next).2, next + 1)
  | .refund args => ((ledger.refund args next).1, (ledger.refund args next).2, next + 1)

def DWallet.toNek (nek : ObjectId) : Table.Change DWallet.id where
  set row := { row with networkEncryptionKeyId := some nek }
  keeps _ := rfl

def WalletOp.exec (dwallets : Table DWallet.id) (accounts : Table Account.id) :
    (op : WalletOp) → op.Res × Table DWallet.id
  | .selectOwned id userId network =>
      (dwallets.rows.find? (fun row => row.id = id ∧ row.userId = userId ∧ row.network = network), dwallets)
  | .select id => (dwallets.get id, dwallets)
  | .selectBySui suiDwalletId => (dwallets.rows.find? (fun row => row.suiDwalletId = suiDwalletId), dwallets)
  | .setNek id nek => ((), dwallets.modify id (DWallet.toNek nek))
  | .selectAccount id => (accounts.get id, dwallets)

/-- The queues have the standard policy, under which a `singletonKey` drops no job. -/
def QueueOp.exec (env : Env) (jobs : List Job) : QueueOp → Except Thrown Unit × List Job
  | .signProcess signRequestId => match env.rpc with
      | .ok _ => (.ok (), jobs ++ [⟨signRequestId, 0, false⟩])
      | .error error => (.error error, jobs)
  | .presignRefill _ => (env.rpc, jobs)

/-- Substring that identifies an `UnverifiedPresignCap` Move type tag. -/
def unverifiedPresignCapType : String := "::coordinator_inner::UnverifiedPresignCap"

/-- The answer of a submission of `tx`; a PTB whose cap is gone does not even build. -/
def submitAnswer (env : Env) (present : Bool) : Except Thrown ExecutedTx :=
  match env.outcome with
  | .success => if present then .ok ⟨env.digest, env.events⟩
      else .error (.tx ⟨.preflight, "tx build/sign failed: object not found", none⟩)
  | .preflight message => .error (.tx ⟨.preflight, message, none⟩)
  | .reverted message digest => .error (.tx ⟨.reverted, message, some digest⟩)
  | .unknown message _ => .error (.tx ⟨.unknown, message, none⟩)
  | .thrown name message _ => .error (.other name message)

/-- A sign PTB that executes takes its cap off the chain. -/
def Chain.consume (chain : Chain) (cap : ObjectId) : Chain :=
  ⟨chain.live.filter (fun other => other ≠ cap), cap :: chain.consumed⟩

def ChainOp.exec (env : Env) (chain : Chain) : (op : ChainOp) → Option (op.Res × Chain)
  | .getIkaClient _ => some (env.rpc.map (fun _ => env.coordinatorId), chain)
  | .getObject _ cap => some (env.rpc.map (fun _ =>
      if cap ∈ chain.live ∧ ¬env.objectError then some env.presignId else none), chain)
  | .getPresign _ _ => some (env.rpc.map (fun _ => env.presignBytes), chain)
  | .getDWallet _ _ => some (env.rpc.map (fun _ => env.networkEncryptionKeyId), chain)
  | .buildSignZeroTrust _ => some (env.rpc, chain)
  | .execute tx => some (submitAnswer env (tx.presignCapId ∈ chain.live),
      if env.outcome.lands ∧ tx.presignCapId ∈ chain.live then chain.consume tx.presignCapId else chain)
  | .getSign _ _ => some (env.rpc.map (fun _ => env.signature), chain)
  | .getLatestNetworkEncryptionKey _ => some (env.rpc.map (fun _ => env.networkEncryptionKeyId.getD ""), chain)
  | .executeMint _ _ _ =>
      -- New objects get ids no object has had before.
      if env.caps.Nodup ∧ ∀ cap ∈ env.caps, cap ∉ chain.live ∧ cap ∉ chain.consumed then
        some ((submitAnswer env true).map (fun executed => (executed.digest, env.caps)),
          if env.outcome.lands then { chain with live := chain.live ++ env.caps } else chain)
      else none
  | .listOwnedObjects _ _ =>
      if ∀ object ∈ env.page.objects, includes object.type unverifiedPresignCapType → object.objectId ∈ chain.live then
        some (env.rpc.map (fun _ => env.page), chain)
      else none
  | .getCaps _ _ => some (env.rpc.map (fun _ => env.capBatch), chain)
  | .getSessions _ _ => some (env.rpc.map (fun _ => env.sessionBatch), chain)
  | .getDynamicField _ _ _ => some (env.rpc.map (fun _ => env.fieldValue), chain)

/-- One statement or request. -/
def exec (op : Op) (env : Env) (world : World) : Option (Res op × World) :=
  match op with
  | .sign op => some ((op.exec env world.signRequests).1,
      { world with signRequests := (op.exec env world.signRequests).2 })
  | .presign op => some ((op.exec env world.presigns world.nextId).1,
      { world with
        presigns := (op.exec env world.presigns world.nextId).2.1
        nextId := (op.exec env world.presigns world.nextId).2.2 })
  | .ledger op => some ((op.exec world.ledger world.nextId).1,
      { world with
        ledger := (op.exec world.ledger world.nextId).2.1
        nextId := (op.exec world.ledger world.nextId).2.2 })
  | .wallet op => some ((op.exec world.dwallets world.accounts).1,
      { world with dwallets := (op.exec world.dwallets world.accounts).2 })
  | .queue op => some ((op.exec env world.jobs).1, { world with jobs := (op.exec env world.jobs).2 })
  | .chain op => (op.exec env world.chain).map (fun reply => (reply.1, { world with chain := reply.2 }))
  | .randomUUID => some (world.nextId, { world with nextId := world.nextId + 1 })
  | .now => some (env.now, world)

end MpcKit.Sign
