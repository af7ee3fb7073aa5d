import MpcKit.Async.Machine
import MpcKit.Backend.Basics

/-! `shared/redis/lock.ts` and `shared/sui/tx-executor.ts`: one transaction from the lock to
the gas station's answer, with every place at which it can throw. -/

namespace MpcKit.Executor
open MpcKit.Backend MpcKit.Async
open Program (unwrap)

/-- An error of a library or of the runtime, never of the backend's own classes. -/
structure Failure where
  name : String
  message : String
  deriving DecidableEq, Repr

def Failure.thrown (failure : Failure) : Thrown := .other failure.name failure.message

/-! ### What the gas station is asked and answers -/

/-- How an HTTP call with a JSON body ends. -/
inductive Reply (β : Type) where
  /-- `fetch` rejects: no connection, or the abort timer fired. -/
  | failed (failure : Failure)
  | refused (status : Nat) (text : Except Failure String)
  | body (json : Except Failure β)

structure SuiObjectRef where
  objectId : ObjectId
  version : String
  digest : String
  deriving DecidableEq, Repr

structure Reservation where
  sponsorAddress : String
  reservationId : Nat
  gasCoins : List SuiObjectRef
  deriving DecidableEq, Repr

structure ReserveGasResponse where
  result : Option Reservation
  error : Option String
  deriving DecidableEq, Repr

/-- A member of the answer that is read as a list. -/
inductive Listing (β : Type) where
  | absent
  | items (entries : List β)
  /-- Anything that cannot be iterated over. -/
  | malformed
  deriving DecidableEq, Repr

inductive ExecutionStatus where
  | success
  | failure (error : Option String)
  deriving DecidableEq, Repr

inductive ObjectChangeType where
  | published
  | transferred
  | mutated
  | deleted
  | wrapped
  | created
  deriving DecidableEq, Repr

structure JsonRpcObjectChange where
  type : ObjectChangeType
  objectId : Option ObjectId
  objectType : Option String
  owner : Option String
  deriving DecidableEq, Repr

structure JsonRpcEvent where
  type : String
  /-- The `sign_id` of the parsed payload. -/
  signId : Option String
  deriving DecidableEq, Repr

structure TxBlockResponse where
  digest : String
  status : Option ExecutionStatus
  events : Listing JsonRpcEvent
  objectChanges : Listing JsonRpcObjectChange
  deriving DecidableEq, Repr

structure ExecuteTxResponse where
  txBlockResponse : Option TxBlockResponse
  error : Option String
  deriving DecidableEq, Repr

/-- What becomes of an `execute_tx` request: the answer that is read, whether any byte of it left the
backend, and whether the transaction consumed its input objects on chain. -/
structure Submission where
  reply : Reply ExecuteTxResponse
  left : Bool
  consumed : Bool

/-! ### What callers get -/

inductive IdOperation where
  | created
  | mutated
  deriving DecidableEq, Repr

structure ChangedObject where
  objectId : ObjectId
  idOperation : IdOperation
  outputOwner : Option String
  deriving DecidableEq, Repr

structure ExecutedTx where
  digest : String
  changedObjects : List ChangedObject
  events : List JsonRpcEvent
  objectTypes : List (ObjectId × String)
  deriving DecidableEq, Repr

def mapIdOperation : ObjectChangeType → Option IdOperation
  | .created => some .created
  | .mutated => some .mutated
  | .transferred => some .mutated
  | _ => none

/-- `!text`: an absent or empty string. -/
def truthy (text : Option String) : Option String := text.filter (fun text => text ≠ "")

def Listing.iterate {β : Type} (failure : Failure) : Listing β → Except Failure (List β)
  | .absent => .ok []
  | .items entries => .ok entries
  | .malformed => .error failure

def translateChange (change : JsonRpcObjectChange) : Option ChangedObject := do
  let objectId ← truthy change.objectId
  let idOperation ← mapIdOperation change.type
  return ⟨objectId, idOperation, change.owner⟩

def translateType (change : JsonRpcObjectChange) : Option (ObjectId × String) := do
  let objectId ← truthy change.objectId
  let objectType ← truthy change.objectType
  return (objectId, objectType)

def translateBlock (block : TxBlockResponse) : Except Failure ExecutedTx := do
  let changes ← block.objectChanges.iterate ⟨"TypeError", "block.objectChanges is not iterable"⟩
  let events ← block.events.iterate ⟨"TypeError", "block.events.map is not a function"⟩
  return ⟨block.digest, changes.filterMap translateChange, events, changes.filterMap translateType⟩

/-! ### Operations -/

/-- A PTB, as far as the executor looks into it. -/
structure Transaction where
  sender : Option String
  deriving DecidableEq, Repr

inductive Op where
  | randomUUID
  | now
  /-- `SET key token PX ttlMs NX`. -/
  | set (key : String) (token : Uuid) (ttlMs : Nat)
  | sleep (ms : Nat)
  /-- The script that deletes the key while it still holds the token. -/
  | release (key : String) (token : Uuid)
  /-- `inProcessQueue.acquire`: `false` puts the caller into the queue. -/
  | queueJoin (key : String)
  | queueWait (key : String)
  | queueRelease (key : String)
  | setSender (address : String)
  | reserveGas (gasBudget reserveDurationSecs : Nat)
  | setGasOwner (address : String)
  | setGasPayment (coins : List SuiObjectRef)
  | setGasBudget (mist : Nat)
  | build (network : String)
  | signTransaction (bytes : Bytes)
  | executeTx (reservationId : Nat) (txBytes : Bytes) (userSig : String)
  deriving DecidableEq, Repr

@[reducible] def Res : Op → Type
  | .randomUUID => Uuid
  | .now => Time
  | .set _ _ _ => Except Failure Bool
  | .sleep _ => Unit
  | .release _ _ => Except Failure Unit
  | .queueJoin _ => Bool
  | .queueWait _ => Unit
  | .queueRelease _ => Unit
  | .setSender _ => Except Failure Unit
  | .reserveGas _ _ => Reply ReserveGasResponse
  | .setGasOwner _ => Except Failure Unit
  | .setGasPayment _ => Except Failure Unit
  | .setGasBudget _ => Except Failure Unit
  | .build _ => Except Failure Bytes
  | .signTransaction _ => Except Failure String
  | .executeTx _ _ _ => Submission

abbrev Prog (α : Type) := Program Op Res Thrown α

def perform (op : Op) : Prog (Res op) := Program.perform op

/-- Throw what a library threw. -/
def pass {α : Type} : Except Failure α → Prog α
  | .ok value => .ret value
  | .error failure => .raise failure.thrown

/-! ### The lock -/

structure LockOptions where
  ttlMs : Nat
  acquireTimeoutMs : Nat
  retryEveryMs : Nat

/-- `DEFAULT_TTL_MS`, `DEFAULT_ACQUIRE_TIMEOUT_MS` and `DEFAULT_RETRY_EVERY_MS`. -/
def LockOptions.default : LockOptions := ⟨30000, 60000, 100⟩

structure Config where
  /-- `REDIS_URL` is set. -/
  redis : Bool
  hotWallet : String
  gasBudgetMist : Nat
  reserveDurationSecs : Nat
  /-- How many turns of the polling loop are followed; it gives up after them as it does at its deadline. -/
  turns : Nat

/-- `while (Date.now() < deadline)`. -/
def poll (options : LockOptions) (key : String) (token : Uuid) (deadline : Time) : Nat → Prog Bool
  | 0 => return false
  | turns + 1 => do
    if (← perform .now) < deadline then
      if ← pass (← perform (.set key token options.ttlMs)) then
        return true
      else
        perform (.sleep options.retryEveryMs)
        poll options key token deadline turns
    else
      return false

def acquire (config : Config) (options : LockOptions) (key : String) (token : Uuid) : Prog Bool := do
  if config.redis then
    let start ← perform .now
    poll options key token (start + options.acquireTimeoutMs) config.turns
  else if ← perform (.queueJoin key) then
    return true
  else
    perform (.queueWait key)
    return true

/-- A release that fails is logged and left to the expiry of the key. -/
def release (config : Config) (key : String) (token : Uuid) : Prog Unit := do
  if config.redis then
    let _ ← perform (.release key token)
    return ()
  else
    perform (.queueRelease key)

def withLock {α : Type} (config : Config) (key : String) (fn : Prog α) : Prog α := do
  let options := LockOptions.default
  let token ← perform .randomUUID
  if ← acquire config options key token then
    fn.ensure (release config key token)
  else
    let waited := options.acquireTimeoutMs
    throw (.other "Error" s!"lock: failed to acquire {key} within {waited}ms")

/-! ### The executor -/

/-- `err instanceof Error ? err.message : String(err)`. -/
def messageOf : Thrown → String
  | .app error => error.message
  | .tx error => error.message
  | .other _ message => message

/-- `text.slice(0, 500)`. -/
def excerpt (text : String) : String := slice text 500

def gasStationPost {β : Type} (path : String) : Reply β → Except Failure β
  | .failed failure => .error failure
  | .refused _ (.error failure) => .error failure
  | .refused status (.ok text) =>
      let excerpt := excerpt text
      .error ⟨"Error", s!"gas-station {path} {status}: {excerpt}"⟩
  | .body json => json

def reserveGas (config : Config) : Prog Reservation := do
  let body ← pass (gasStationPost "/v1/reserve_gas" (← perform (.reserveGas config.gasBudgetMist config.reserveDurationSecs)))
  match truthy body.error, body.result with
  | none, some reserved => return reserved
  | _, _ =>
    let reason := body.error.getD "no result"
    throw (.other "Error" s!"gas-station reserve_gas error: {reason}")

def executeTx (reservationId : Nat) (txBytes : Bytes) (userSig : String) : Prog ExecuteTxResponse := do
  let sent ← perform (.executeTx reservationId txBytes userSig)
  let body ← pass (gasStationPost "/v1/execute_tx" sent.reply)
  match truthy body.error with
  | some error => throw (.other "Error" s!"gas-station execute_tx error: {error}")
  | none => return body

/-- `throw new TxExecutorError(phase, ...)` in a `catch` clause. -/
def tagged (phase : TxFailurePhase) (what : String) (error : Thrown) : Thrown :=
  let message := messageOf error
  .tx ⟨phase, s!"{what} failed: {message}", none⟩

/-- What is made of the answer to `execute_tx`. -/
def readBlock (exec : ExecuteTxResponse) : Except Thrown ExecutedTx :=
  match exec.txBlockResponse.filter (fun block => block.digest ≠ "") with
  | none => .error (.tx ⟨.unknown, "gas-station executed tx but returned no tx_block_response", none⟩)
  | some block => match block.status with
    | some (.failure error) =>
        let digest := block.digest
        let reason := error.getD "unknown"
        .error (.tx ⟨.reverted, s!"gas-station tx {digest} reverted: {reason}", some digest⟩)
    | _ => (translateBlock block).mapError Failure.thrown

/-- `tx.build` and `signTransaction`, under one `catch`. -/
def buildAndSign (network : String) : Prog (Bytes × String) := do
  let txBytes ← pass (← perform (.build network))
  let userSig ← pass (← perform (.signTransaction txBytes))
  return (txBytes, userSig)

/-- `executeUnlocked` once there is a sender. -/
def executeSent (config : Config) (network : String) : Prog ExecutedTx := do
  let reserved ← (reserveGas config).rescue (fun error => throw (tagged .preflight "reserve_gas" error))
  pass (← perform (.setGasOwner reserved.sponsorAddress))
  pass (← perform (.setGasPayment reserved.gasCoins))
  pass (← perform (.setGasBudget config.gasBudgetMist))
  let (txBytes, userSig) ← (buildAndSign network).rescue (fun error => throw (tagged .preflight "tx build/sign" error))
  let exec ← (executeTx reserved.reservationId txBytes userSig).rescue
    (fun error => throw (tagged .unknown "execute_tx" error))
  unwrap (readBlock exec)

def executeUnlocked (config : Config) (network : String) (tx : Transaction) : Prog ExecutedTx := do
  if truthy tx.sender = none then
    pass (← perform (.setSender config.hotWallet))
  executeSent config network

def lockKey (network : String) : String := s!"mpckit:tx-lock:{network}"

def execute (config : Config) (network : String) (tx : Transaction) : Prog ExecutedTx :=
  withLock config (lockKey network) (executeUnlocked config network tx)

/-- `getTxExecutor(network).execute(tx)`: the network or its hot wallet may not be configured. -/
def submission (executor : Except Failure Config) (network : String) (tx : Transaction) : Prog ExecutedTx := do
  let config ← pass executor
  execute config network tx

end MpcKit.Executor
