import MpcKit.Executor.Pipeline
import MpcKit.Sign.World

/-! What registering encryption keys, onboarding and accepting share: the tables, the credit
ledger and the chain, each with the single statements and requests made against it. -/

namespace MpcKit.Wallets
open MpcKit.Backend MpcKit.Async
open MpcKit.Billing (Ledger ChargeArgs RefundArgs BillingCharge uniqueViolation)
open MpcKit.Sign (Account DWallet DWalletStatus LedgerOp Outcome)
open MpcKit.Executor (ChangedObject IdOperation)

/-! ### Rows -/

/-- `encryption_keys`. -/
structure EncryptionKey where
  id : Uuid
  userId : Uuid
  network : String
  curve : Nat
  suiObjectId : ObjectId
  suiAddress : String
  suiTxDigest : String
  deriving DecidableEq, Repr

structure NewEncryptionKey where
  userId : Uuid
  network : String
  curve : Nat
  suiObjectId : ObjectId
  suiAddress : String
  suiTxDigest : String

def NewEncryptionKey.row (new : NewEncryptionKey) (id : Uuid) : EncryptionKey :=
  ⟨id, new.userId, new.network, new.curve, new.suiObjectId, new.suiAddress, new.suiTxDigest⟩

structure NewAccount where
  userId : Uuid
  network : String
  suiObjectId : ObjectId
  suiTxDigest : String

def NewAccount.row (new : NewAccount) (id : Uuid) : Account :=
  ⟨id, new.userId, new.network, new.suiObjectId, new.suiTxDigest⟩

structure NewDWallet where
  userId : Uuid
  network : String
  accountId : Uuid
  suiDwalletId : ObjectId
  curve : Nat
  encryptionKeyId : ObjectId
  kind : String
  status : DWalletStatus
  dkgTxDigest : String

def NewDWallet.row (new : NewDWallet) (id : Uuid) : DWallet where
  id := id
  userId := new.userId
  accountId := some new.accountId
  network := new.network
  suiDwalletId := new.suiDwalletId
  curve := new.curve
  encryptionKeyId := new.encryptionKeyId
  networkEncryptionKeyId := none
  kind := new.kind
  status := new.status
  dkgTxDigest := new.dkgTxDigest
  acceptTxDigest := none

/-! ### Transactions -/

structure RegisterEncryptionKey where
  dwalletPackageId : ObjectId
  coordinatorId : ObjectId
  curve : Nat
  encryptionKey : Bytes
  encryptionKeySignature : Bytes
  signerPublicKey : Bytes
  deriving DecidableEq, Repr

structure OnboardZeroTrust where
  network : String
  coordinatorId : ObjectId
  dwalletNetworkEncryptionKeyId : ObjectId
  curve : Nat
  centralizedPublicKeyShareAndProof : Bytes
  encryptedCentralizedSecretShareAndProof : Bytes
  encryptionKeyAddress : String
  userPublicOutput : Bytes
  signerPublicKey : Bytes
  sessionIdentifierBytes : Bytes
  deriving DecidableEq, Repr

structure AcceptUserShare where
  network : String
  accountId : ObjectId
  coordinatorId : ObjectId
  dwalletId : ObjectId
  encryptedUserSecretKeyShareId : ObjectId
  userOutputSignature : Bytes
  deriving DecidableEq, Repr

/-- The one Move call of a transaction. -/
inductive MoveCall where
  | registerEncryptionKey (input : RegisterEncryptionKey)
  | onboardZeroTrust (input : OnboardZeroTrust)
  | addDwalletZeroTrust (accountId : ObjectId) (input : OnboardZeroTrust)
  | acceptUserShare (input : AcceptUserShare)
  deriving DecidableEq, Repr

/-- The session identifier a call registers with the coordinator. -/
def MoveCall.session : MoveCall → Option Bytes
  | .onboardZeroTrust input => some input.sessionIdentifierBytes
  | .addDwalletZeroTrust _ input => some input.sessionIdentifierBytes
  | _ => none

structure TxEvent where
  eventType : String
  bcs : Option Bytes
  deriving DecidableEq, Repr

structure ExecutedTx where
  digest : String
  changedObjects : List ChangedObject
  events : List TxEvent
  /-- A record: each object once. -/
  objectTypes : List (ObjectId × String)
  deriving DecidableEq, Repr

/-- What `DWalletSessionEvent(DWalletDKGRequestEvent)` decodes to, as far as it is read. -/
structure DKGRequestEvent where
  dwalletId : ObjectId
  /-- `user_secret_key_share.Encrypted?.encrypted_user_secret_key_share_id`. -/
  encryptedUserSecretKeyShareId : Option ObjectId
  deriving DecidableEq, Repr

structure Config where
  dkgPriceMicro : Int
  encryptionKeyPriceMicro : Int
  /-- `new Ed25519PublicKey(pubkey).toSuiAddress()`. -/
  signerPubkeyToAddress : Bytes → Except Thrown String
  /-- The BCS decoder of the coordinator's SDK. -/
  parseDKGEvent : Bytes → Except Thrown DKGRequestEvent

/-! ### `shared/sui/effects.ts` -/

/-- Whether a Move type tag was recorded for an object, and contains the text. -/
def ExecutedTx.hasType (tx : ExecutedTx) (typeContains : String) (objectId : ObjectId) : Bool :=
  (tx.objectTypes.lookup objectId).any (fun tag => includes tag typeContains)

def findCreatedByType (tx : ExecutedTx) (typeContains : String) : List ObjectId :=
  ((tx.changedObjects.filter (fun object => object.idOperation = .created)).map ChangedObject.objectId).filter
    (tx.hasType typeContains)

def findFirstCreatedByType (tx : ExecutedTx) (typeContains : String) : Except Thrown ObjectId :=
  match findCreatedByType tx typeContains with
  | [] => .error (.app (errors.internal s!"no created object matched type containing \"{typeContains}\"" "OBJECT_NOT_IN_EFFECTS"))
  | id :: _ => .ok id

def findEvents (tx : ExecutedTx) (typeContains : String) : List TxEvent :=
  tx.events.filter (fun event => includes event.eventType typeContains)

/-- The first event with a payload decides; a payload that is not one of a DKG event throws. -/
def decodeDKGEvent (config : Config) (tx : ExecutedTx) : Except Thrown (Option DKGRequestEvent) :=
  match (findEvents tx "DWalletDKGRequestEvent").filterMap TxEvent.bcs with
  | [] => .ok none
  | bytes :: _ => (config.parseDKGEvent bytes).map some

def extractDwalletId (config : Config) (tx : ExecutedTx) : Except Thrown ObjectId := do
  match ← decodeDKGEvent config tx with
  | some decoded => return decoded.dwalletId
  | none => throw (.app (errors.internal "could not extract dwallet_id from tx events" "DWALLET_ID_NOT_FOUND"))

def extractEncryptedShareId (config : Config) (tx : ExecutedTx) : Except Thrown ObjectId := do
  match (← decodeDKGEvent config tx).bind DKGRequestEvent.encryptedUserSecretKeyShareId with
  | some enc => if enc ≠ "" then return enc else missing
  | none => missing
where
  missing : Except Thrown ObjectId := throw (.app (errors.internal
    "could not extract encrypted_user_secret_key_share_id from DKG event" "ENCRYPTED_SHARE_ID_NOT_FOUND"))

/-! ### Operations -/

structure IkaConfig where
  dwalletPackageId : ObjectId
  coordinatorId : ObjectId
  deriving DecidableEq, Repr

inductive KeyOp where
  | selectOwn (userId : Uuid) (curve : Nat) (suiAddress network : String)
  | selectOwned (id userId : Uuid) (network : String)
  | insert (new : NewEncryptionKey)

inductive AccountOp where
  | findForUser (userId : Uuid) (network : String)
  | insert (new : NewAccount)

inductive DWalletOp where
  | selectJoined (id userId : Uuid) (network : String)
  | insert (new : NewDWallet)
  | activate (id : Uuid) (acceptTxDigest : String) (networkEncryptionKeyId : Option ObjectId)

inductive ChainOp where
  | getIkaClient (network : String)
  /-- The move-call builder: unset ids and malformed arguments throw. -/
  | build (call : MoveCall)
  | execute (network : String) (call : MoveCall)
  | getDWallet (network : String) (suiDwalletId : ObjectId)

inductive Op where
  | key (op : KeyOp)
  | account (op : AccountOp)
  | dwallet (op : DWalletOp)
  | ledger (op : LedgerOp)
  | chain (op : ChainOp)
  | randomUUID

@[reducible] def KeyOp.Res : KeyOp → Type
  | .selectOwn _ _ _ _ => Option EncryptionKey
  | .selectOwned _ _ _ => Option EncryptionKey
  | .insert _ => Except Thrown (Option EncryptionKey)

@[reducible] def AccountOp.Res : AccountOp → Type
  | .findForUser _ _ => Option Account
  | .insert _ => Except Thrown Account

@[reducible] def DWalletOp.Res : DWalletOp → Type
  | .selectJoined _ _ _ => Option (DWallet × ObjectId)
  | .insert _ => Except Thrown (Option DWallet)
  | .activate _ _ _ => Option DWallet

@[reducible] def ChainOp.Res : ChainOp → Type
  | .getIkaClient _ => Except Thrown IkaConfig
  | .build _ => Except Thrown Unit
  | .execute _ _ => Except Thrown ExecutedTx
  | .getDWallet _ _ => Except Thrown (Option ObjectId)

@[reducible] def Res : Op → Type
  | .key op => op.Res
  | .account op => op.Res
  | .dwallet op => op.Res
  | .ledger op => op.Res
  | .chain op => op.Res
  | .randomUUID => Uuid

/-! ### The shared state -/

/-- What the outside decides at one step. -/
structure Env where
  /-- Whether a write goes through, apart from unique indexes. -/
  db : Except Thrown Unit
  rpc : Except Thrown Unit
  ika : IkaConfig
  outcome : Outcome
  executed : ExecutedTx
  /-- The objects a transaction creates: the key or dwallet, and the account. -/
  object : ObjectId
  account : ObjectId
  networkEncryptionKeyId : Option ObjectId

/-- An object on chain, with the number of the request whose transaction created it. -/
structure Created where
  call : Nat
  object : ObjectId
  deriving DecidableEq, Repr

/-- What the transactions have left on chain. -/
structure Chain where
  created : List Created
  /-- Session identifiers by network, with the dwallet each was registered for. -/
  sessions : List (String × Bytes × ObjectId)
  accounts : List ObjectId
  active : List ObjectId

structure World where
  keys : Table EncryptionKey.id
  accounts : Table Account.id
  dwallets : Table DWallet.id
  ledger : Ledger
  chain : Chain
  nextId : Uuid

/-! ### Statements -/

def KeyOp.exec (env : Env) (table : Table EncryptionKey.id) (next : Uuid) :
    (op : KeyOp) → op.Res × Table EncryptionKey.id
  | .selectOwn userId curve suiAddress network => (table.rows.find? (fun row =>
      row.userId = userId ∧ row.curve = curve ∧ row.suiAddress = suiAddress ∧ row.network = network), table)
  | .selectOwned id userId network =>
      (table.rows.find? (fun row => row.id = id ∧ row.userId = userId ∧ row.network = network), table)
  | .insert new => match env.db with
      | .error error => (.error error, table)
      | .ok _ => if table.rows.any (fun row => row.suiObjectId = new.suiObjectId ∨ row.userId = new.userId ∧
            row.curve = new.curve ∧ row.suiAddress = new.suiAddress ∧ row.network = new.network) then
          (.error uniqueViolation, table)
        else match table.insert (new.row next) with
          | some inserted => (.ok (some (new.row next)), inserted)
          | none => (.error uniqueViolation, table)

def AccountOp.exec (env : Env) (table : Table Account.id) (next : Uuid) : (op : AccountOp) → op.Res × Table Account.id
  | .findForUser userId network => (table.rows.find? (fun row => row.userId = userId ∧ row.network = network), table)
  | .insert new => match env.db with
      | .error error => (.error error, table)
      | .ok _ => if table.rows.any (fun row => row.suiObjectId = new.suiObjectId) then (.error uniqueViolation, table)
        else match table.insert (new.row next) with
          | some inserted => (.ok (new.row next), inserted)
          | none => (.error uniqueViolation, table)

/-- The last statement of accepting. A network encryption key that could not be read is left alone. -/
def DWallet.toActive (acceptTxDigest : String) (networkEncryptionKeyId : Option ObjectId) : Table.Change DWallet.id where
  set row := { row with
    status := .active, acceptTxDigest := some acceptTxDigest,
    networkEncryptionKeyId := networkEncryptionKeyId.orElse (fun _ => row.networkEncryptionKeyId) }
  keeps _ := rfl

/-- The Sui object of the account a dwallet belongs to. -/
def accountSuiId (accounts : Table Account.id) (dwallet : DWallet) : Option ObjectId :=
  (dwallet.accountId.bind accounts.get).map Account.suiObjectId

/-- A user's dwallet by its id, joined with the Sui object of its account. -/
def joined (dwallets : Table DWallet.id) (accounts : Table Account.id) (id userId : Uuid) (network : String) :
    Option (DWallet × ObjectId) :=
  (dwallets.rows.find? (fun row => row.id = id ∧ row.userId = userId ∧ row.network = network)).bind
    (fun row => (accountSuiId accounts row).map (fun account => (row, account)))

def DWalletOp.exec (env : Env) (table : Table DWallet.id) (accounts : Table Account.id) (next : Uuid) :
    (op : DWalletOp) → op.Res × Table DWallet.id
  | .selectJoined id userId network => (joined table accounts id userId network, table)
  | .insert new => match env.db with
      | .error error => (.error error, table)
      | .ok _ => if table.rows.any (fun row => row.suiDwalletId = new.suiDwalletId) then (.error uniqueViolation, table)
        else match table.insert (new.row next) with
          | some inserted => (.ok (some (new.row next)), inserted)
          | none => (.error uniqueViolation, table)
  | .activate id acceptTxDigest nek => ((table.modify id (DWallet.toActive acceptTxDigest nek)).get id,
      table.modify id (DWallet.toActive acceptTxDigest nek))

/-! ### Transactions on chain -/

/-- Whether a call can execute: new objects get new ids, a session identifier is registered once,
an active dwallet is not accepted again. -/
def Chain.Admits (chain : Chain) (env : Env) : MoveCall → Prop
  | .registerEncryptionKey _ => env.object ∉ chain.created.map Created.object
  | .onboardZeroTrust input => env.object ∉ chain.created.map Created.object ∧ env.object ∉ chain.active ∧
      env.account ∉ chain.accounts ∧
      ∀ entry ∈ chain.sessions, ¬(entry.1 = input.network ∧ entry.2.1 = input.sessionIdentifierBytes)
  | .addDwalletZeroTrust _ input => env.object ∉ chain.created.map Created.object ∧ env.object ∉ chain.active ∧
      ∀ entry ∈ chain.sessions, ¬(entry.1 = input.network ∧ entry.2.1 = input.sessionIdentifierBytes)
  | .acceptUserShare input => input.dwalletId ∉ chain.active

instance (chain : Chain) (env : Env) (call : MoveCall) : Decidable (chain.Admits env call) := by
  unfold Chain.Admits
  induction call using MoveCall.casesOn <;> infer_instance

def Chain.land (chain : Chain) (index : Nat) (env : Env) : MoveCall → Chain
  | .registerEncryptionKey _ => { chain with created := chain.created ++ [⟨index, env.object⟩] }
  | .onboardZeroTrust input => { chain with
      created := chain.created ++ [⟨index, env.object⟩]
      sessions := chain.sessions ++ [(input.network, input.sessionIdentifierBytes, env.object)]
      accounts := chain.accounts ++ [env.account] }
  | .addDwalletZeroTrust _ input => { chain with
      created := chain.created ++ [⟨index, env.object⟩]
      sessions := chain.sessions ++ [(input.network, input.sessionIdentifierBytes, env.object)] }
  | .acceptUserShare input => { chain with active := chain.active ++ [input.dwalletId] }

/-- The effects and events that come back name no object as new but the ones created. -/
def Reported (config : Config) (env : Env) : MoveCall → Prop
  | .registerEncryptionKey _ => ∀ id, findFirstCreatedByType env.executed "::EncryptionKey" = .ok id → id = env.object
  | .onboardZeroTrust _ => (∀ id, findFirstCreatedByType env.executed "::account::Account" = .ok id → id = env.account) ∧
      ∀ id, extractDwalletId config env.executed = .ok id → id = env.object
  | .addDwalletZeroTrust _ _ => ∀ id, extractDwalletId config env.executed = .ok id → id = env.object
  | .acceptUserShare _ => True

instance (result : Except Thrown ObjectId) (object : ObjectId) : Decidable (∀ id, result = .ok id → id = object) :=
  match result with
  | .error _ => isTrue (fun _ same => nomatch same)
  | .ok id => decidable_of_iff (id = object) ⟨fun same _ got => by cases got; exact same, fun all => all id rfl⟩

instance (config : Config) (env : Env) (call : MoveCall) : Decidable (Reported config env call) := by
  unfold Reported
  induction call using MoveCall.casesOn <;> infer_instance

/-- The caller gets the answer of a submission that executed. -/
def Env.reported (env : Env) : Bool :=
  match env.outcome with
  | .success => true
  | _ => false

/-- What `execute` returns or throws. -/
def submitAnswer (env : Env) : Except Thrown ExecutedTx :=
  match env.outcome with
  | .success => .ok env.executed
  | .preflight message => .error (.tx ⟨.preflight, message, none⟩)
  | .reverted message digest => .error (.tx ⟨.reverted, message, some digest⟩)
  | .unknown message _ => .error (.tx ⟨.unknown, message, none⟩)
  | .thrown name message _ => .error (.other name message)

theorem submitAnswer_of_reported {env : Env} (reported : env.reported = true) : submitAnswer env = .ok env.executed := by
  unfold Env.reported at reported
  unfold submitAnswer
  split at reported
  next success => rw [success]
  · cases reported

theorem submitAnswer_of_unreported {env : Env} (unreported : env.reported = false) :
    ∃ error, submitAnswer env = .error error := by
  unfold Env.reported at unreported
  unfold submitAnswer
  cases same : env.outcome with
  | success =>
    rw [same] at unreported
    cases unreported
  | _ => exact ⟨_, rfl⟩

theorem lands_of_reported {env : Env} (reported : env.reported = true) : env.outcome.lands = true := by
  unfold Env.reported at reported
  split at reported
  next success => rw [success]; rfl
  · cases reported

def ChainOp.exec (config : Config) (index : Nat) (env : Env) (chain : Chain) : (op : ChainOp) → Option (op.Res × Chain)
  | .getIkaClient _ => some (env.rpc.map (fun _ => env.ika), chain)
  | .build _ => some (env.rpc, chain)
  | .execute _ call =>
      if env.outcome.lands then
        if chain.Admits env call ∧ Reported config env call then some (submitAnswer env, chain.land index env call) else none
      else some (submitAnswer env, chain)
  | .getDWallet _ _ => some (env.rpc.map (fun _ => env.networkEncryptionKeyId), chain)

/-- A ledger transaction; one that cannot commit leaves nothing behind. -/
def ledgerExec (env : Env) (ledger : Ledger) (next : Uuid) : (op : LedgerOp) → op.Res × Ledger
  | .openAccount userId network => ((), ledger.openAccount userId network next)
  | .charge args => match env.db with
      | .ok _ => ledger.charge args next
      | .error error => (.error error, ledger)
  | .refund args => match env.db with
      | .ok _ => ledger.refund args next
      | .error error => (.error error, ledger)

/-- One statement or request. Every statement draws the id its row would get. -/
def exec (config : Config) (index : Nat) (op : Op) (env : Env) (world : World) : Option (Res op × World) :=
  match op with
  | .key op => some ((op.exec env world.keys world.nextId).1,
      { world with keys := (op.exec env world.keys world.nextId).2, nextId := world.nextId + 1 })
  | .account op => some ((op.exec env world.accounts world.nextId).1,
      { world with accounts := (op.exec env world.accounts world.nextId).2, nextId := world.nextId + 1 })
  | .dwallet op => some ((op.exec env world.dwallets world.accounts world.nextId).1,
      { world with dwallets := (op.exec env world.dwallets world.accounts world.nextId).2, nextId := world.nextId + 1 })
  | .ledger op => some ((ledgerExec env world.ledger world.nextId op).1,
      { world with ledger := (ledgerExec env world.ledger world.nextId op).2, nextId := world.nextId + 1 })
  | .chain op => (op.exec config index env world.chain).map (fun reply => (reply.1, { world with chain := reply.2 }))
  | .randomUUID => some (world.nextId, { world with nextId := world.nextId + 1 })

end MpcKit.Wallets
