import MpcKit.Wallets.World

/-! `features/encryption-keys/service.ts`, `features/accounts/service.ts` and
`features/dwallets/service.ts`, await by await, with the parts of the billing service they call. -/

namespace MpcKit.Wallets
open MpcKit.Backend MpcKit.Async
open MpcKit.Billing (ChargeArgs RefundArgs BillingCharge)
open MpcKit.Sign (Account DWallet)
open Program (rescue unwrap)

abbrev Prog := Program Op Res Thrown

abbrev perform (op : Op) : Prog (Res op) := Program.perform op

/-! ### `features/billing/service.ts` -/

def charge (args : ChargeArgs) : Prog BillingCharge := do
  if args.amountMicro ≤ 0 then
    throw (.app (errors.validation "charge amount must be > 0" "BAD_CHARGE_AMOUNT"))
  else
    perform (.ledger (.openAccount args.userId args.network))
    unwrap (← perform (.ledger (.charge args)))

def refund (args : RefundArgs) : Prog BillingCharge := do
  if args.amountMicro ≤ 0 then
    throw (.app (errors.validation "refund amount must be > 0" "BAD_REFUND_AMOUNT"))
  else
    perform (.ledger (.openAccount args.userId args.network))
    unwrap (← perform (.ledger (.refund args)))

structure ChargeWithRefundArgs where
  userId : Uuid
  network : String
  opType : String
  amountMicro : Int
  chargeReason : String
  refundReason : Thrown → String

def ChargeWithRefundArgs.charge (args : ChargeWithRefundArgs) (opId : Uuid) : ChargeArgs :=
  ⟨args.userId, args.network, args.opType, opId, args.amountMicro, some args.chargeReason⟩

def ChargeWithRefundArgs.refund (args : ChargeWithRefundArgs) (opId : Uuid) (error : Thrown) : RefundArgs :=
  ⟨args.userId, args.network, args.opType, opId, args.amountMicro,
    slice (args.refundReason error) 200⟩

/-- What happens to a charge when the charged function threw. A refund that fails is logged. -/
def giveBack {α : Type} (args : ChargeWithRefundArgs) (opId : Uuid) (error : Thrown) : Prog α := do
  rescue (do let _ ← refund (args.refund opId error)) (fun _ => pure ())
  throw error

def chargeWithRefund {α : Type} (args : ChargeWithRefundArgs) (fn : Prog α) : Prog α := do
  let opId ← perform .randomUUID
  let _ ← charge (args.charge opId)
  rescue fn (giveBack args opId)

/-! ### `shared/ika/client.ts`, `shared/sui/tx-executor.ts` -/

def getIkaClient (network : String) : Prog IkaConfig := do unwrap (← perform (.chain (.getIkaClient network)))

def execute (network : String) (call : MoveCall) : Prog ExecutedTx := do
  unwrap (← perform (.chain (.execute network call)))

/-! ### `features/encryption-keys/service.ts` -/

structure RegisterEncryptionKeyArgs where
  userId : Uuid
  network : String
  curve : Nat
  encryptionKey : Bytes
  encryptionKeySignature : Bytes
  signerPublicKey : Bytes
  deriving DecidableEq, Repr

def RegisterEncryptionKeyArgs.billed (config : Config) (args : RegisterEncryptionKeyArgs) : ChargeWithRefundArgs where
  userId := args.userId
  network := args.network
  opType := "encryption-key"
  amountMicro := config.encryptionKeyPriceMicro
  chargeReason := "register encryption key"
  refundReason error :=
    let text := error.text
    s!"register encryption key submit failed: {text}"

/-- The rest of `registerEncryptionKey` once its transaction has executed. -/
def storeKey (args : RegisterEncryptionKeyArgs) (suiAddress : String) (executed : ExecutedTx) : Prog EncryptionKey := do
  let suiObjectId ← unwrap (findFirstCreatedByType executed "::EncryptionKey")
  match ← unwrap (← perform (.key (.insert
      ⟨args.userId, args.network, args.curve, suiObjectId, suiAddress, executed.digest⟩))) with
  | some inserted => return inserted
  | none => throw (.app (errors.internal "encryption-key insert returned empty" "INTERNAL_ERROR"))

def registerEncryptionKey (config : Config) (args : RegisterEncryptionKeyArgs) : Prog EncryptionKey := do
  let suiAddress ← unwrap (config.signerPubkeyToAddress args.signerPublicKey)
  match ← perform (.key (.selectOwn args.userId args.curve suiAddress args.network)) with
  | some existing => return existing
  | none =>
    let ika ← getIkaClient args.network
    let call : MoveCall := .registerEncryptionKey ⟨ika.dwalletPackageId, ika.coordinatorId, args.curve,
      args.encryptionKey, args.encryptionKeySignature, args.signerPublicKey⟩
    unwrap (← perform (.chain (.build call)))
    let executed ← chargeWithRefund (args.billed config) (execute args.network call)
    storeKey args suiAddress executed

/-! ### `features/accounts/service.ts` -/

def recordAccount (userId : Uuid) (network : String) (suiObjectId : ObjectId) (suiTxDigest : String) : Prog Account := do
  unwrap (← perform (.account (.insert ⟨userId, network, suiObjectId, suiTxDigest⟩)))

/-! ### `features/dwallets/service.ts` -/

structure OnboardZeroTrustArgs where
  userId : Uuid
  network : String
  encryptionKeyId : Uuid
  dwalletNetworkEncryptionKeyId : ObjectId
  centralizedPublicKeyShareAndProof : Bytes
  encryptedCentralizedSecretShareAndProof : Bytes
  userPublicOutput : Bytes
  signerPublicKey : Bytes
  sessionIdentifierBytes : Bytes
  deriving DecidableEq, Repr

structure OnboardResult where
  accountId : Uuid
  accountSuiObjectId : ObjectId
  createdInThisTx : Bool
  dwallet : DWallet
  txDigest : String
  encryptedUserSecretKeyShareId : ObjectId
  deriving DecidableEq, Repr

def OnboardZeroTrustArgs.input (args : OnboardZeroTrustArgs) (ek : EncryptionKey) (ika : IkaConfig) : OnboardZeroTrust where
  network := args.network
  coordinatorId := ika.coordinatorId
  dwalletNetworkEncryptionKeyId := args.dwalletNetworkEncryptionKeyId
  curve := ek.curve
  centralizedPublicKeyShareAndProof := args.centralizedPublicKeyShareAndProof
  encryptedCentralizedSecretShareAndProof := args.encryptedCentralizedSecretShareAndProof
  encryptionKeyAddress := ek.suiAddress
  userPublicOutput := args.userPublicOutput
  signerPublicKey := args.signerPublicKey
  sessionIdentifierBytes := args.sessionIdentifierBytes

/-- The first dwallet of a user registers the account in the same transaction. -/
def OnboardZeroTrustArgs.call (args : OnboardZeroTrustArgs) (ek : EncryptionKey) (ika : IkaConfig) : Option Account → MoveCall
  | some existing => .addDwalletZeroTrust existing.suiObjectId (args.input ek ika)
  | none => .onboardZeroTrust (args.input ek ika)

def OnboardZeroTrustArgs.billed (config : Config) (args : OnboardZeroTrustArgs) : ChargeWithRefundArgs where
  userId := args.userId
  network := args.network
  opType := "dwallet.dkg"
  amountMicro := config.dkgPriceMicro
  chargeReason := "zero-trust DKG"
  refundReason error :=
    let text := error.text
    s!"DKG submit failed: {text}"

/-- The account a new dwallet belongs to. -/
def accountFor (args : OnboardZeroTrustArgs) (executed : ExecutedTx) : Option Account → Prog Account
  | some existing => return existing
  | none => do
    let suiObjectId ← unwrap (findFirstCreatedByType executed "::account::Account")
    recordAccount args.userId args.network suiObjectId executed.digest

/-- The rest of `onboardZeroTrust` once its transaction has executed. -/
def storeDwallet (config : Config) (args : OnboardZeroTrustArgs) (ek : EncryptionKey) (existing : Option Account)
    (executed : ExecutedTx) : Prog OnboardResult := do
  let accountRow ← accountFor args executed existing
  let dwalletId ← unwrap (extractDwalletId config executed)
  let encryptedUserSecretKeyShareId ← unwrap (extractEncryptedShareId config executed)
  match ← unwrap (← perform (.dwallet (.insert ⟨args.userId, args.network, accountRow.id, dwalletId, ek.curve,
      args.dwalletNetworkEncryptionKeyId, "zero_trust", .awaitingUserShare, executed.digest⟩))) with
  | some dwallet => return ⟨accountRow.id, accountRow.suiObjectId, existing.isNone, dwallet, executed.digest,
      encryptedUserSecretKeyShareId⟩
  | none => throw (.app (errors.internal "dwallet insert returned empty" "INTERNAL_ERROR"))

def onboardZeroTrust (config : Config) (args : OnboardZeroTrustArgs) : Prog OnboardResult := do
  match ← perform (.key (.selectOwned args.encryptionKeyId args.userId args.network)) with
  | none => throw (.app (errors.notFound "encryption key not found" "ENCRYPTION_KEY_NOT_FOUND"))
  | some ek =>
    let ika ← getIkaClient args.network
    let existing ← perform (.account (.findForUser args.userId args.network))
    unwrap (← perform (.chain (.build (args.call ek ika existing))))
    let executed ← chargeWithRefund (args.billed config) (execute args.network (args.call ek ika existing))
    storeDwallet config args ek existing executed

structure AcceptUserShareArgs where
  userId : Uuid
  network : String
  dwalletId : Uuid
  encryptedUserSecretKeyShareId : ObjectId
  userOutputSignature : Bytes
  deriving DecidableEq, Repr

def AcceptUserShareArgs.input (args : AcceptUserShareArgs) (dw : DWallet) (accountId : ObjectId) (ika : IkaConfig) :
    AcceptUserShare where
  network := args.network
  accountId := accountId
  coordinatorId := ika.coordinatorId
  dwalletId := dw.suiDwalletId
  encryptedUserSecretKeyShareId := args.encryptedUserSecretKeyShareId
  userOutputSignature := args.userOutputSignature

/-- The network encryption key the chain bound the dwallet to; one that cannot be read is left to
the first sign. -/
def boundNek (network : String) (suiDwalletId : ObjectId) : Prog (Option ObjectId) :=
  rescue (do unwrap (← perform (.chain (.getDWallet network suiDwalletId)))) (fun _ => pure none)

/-- `updated[0]` is undefined when the row is gone. -/
def acceptUserShare (args : AcceptUserShareArgs) : Prog (Option DWallet) := do
  match ← perform (.dwallet (.selectJoined args.dwalletId args.userId args.network)) with
  | none => throw (.app (errors.notFound "dwallet not found" "DWALLET_NOT_FOUND"))
  | some (dw, accountSuiId) =>
    if dw.status = .active then return some dw
    else if dw.status ≠ .awaitingUserShare then
      let status := dw.status.text
      throw (.app (errors.unprocessable s!"dwallet status {status} cannot be accepted" "DWALLET_BAD_STATE"))
    else
      let ika ← getIkaClient args.network
      let call : MoveCall := .acceptUserShare (args.input dw accountSuiId ika)
      unwrap (← perform (.chain (.build call)))
      let executed ← execute args.network call
      let nekId ← boundNek args.network dw.suiDwalletId
      perform (.dwallet (.activate dw.id executed.digest (nekId.filter (fun nek => nek ≠ ""))))

/-! ### The calls -/

inductive Call where
  | register (args : RegisterEncryptionKeyArgs)
  | onboard (args : OnboardZeroTrustArgs)
  | accept (args : AcceptUserShareArgs)
  deriving DecidableEq, Repr

inductive Reply where
  | key (row : EncryptionKey)
  | onboarded (result : OnboardResult)
  | accepted (row : Option DWallet)
  deriving DecidableEq, Repr

def program (config : Config) : Call → Prog Reply
  | .register args => do return .key (← registerEncryptionKey config args)
  | .onboard args => do return .onboarded (← onboardZeroTrust config args)
  | .accept args => do return .accepted (← acceptUserShare args)

def machine (config : Config) : Machine Op Res Env World Call Thrown Reply where
  exec := exec config
  program := program config
  enter _ world := some world
  leave _ _ _ world := world

abbrev WalletSystem := System Op Res World Call Thrown Reply
abbrev WalletThread := Thread Op Res Call Thrown Reply

end MpcKit.Wallets
