import MpcKit.Sign.Presigns

/-! `features/sign/service.ts`, await by await, with the parts of the billing and dwallet
services it calls. -/

namespace MpcKit.Sign
open MpcKit.Backend MpcKit.Async
open MpcKit.Billing (ChargeArgs RefundArgs BillingCharge)
open Program (fold rescue unwrap)

/-! ### Billing and dwallets -/

def chargeCredits (args : ChargeArgs) : Prog BillingCharge := do
  if args.amountMicro ≤ 0 then
    throw (.app (errors.validation "charge amount must be > 0" "BAD_CHARGE_AMOUNT"))
  else
    perform (.ledger (.openAccount args.userId args.network))
    unwrap (← perform (.ledger (.charge args)))

def refundCredits (args : RefundArgs) : Prog BillingCharge := do
  if args.amountMicro ≤ 0 then
    throw (.app (errors.validation "refund amount must be > 0" "BAD_REFUND_AMOUNT"))
  else
    perform (.ledger (.openAccount args.userId args.network))
    unwrap (← perform (.ledger (.refund args)))

def ensureDwalletNek (dwalletId : Uuid) (network : String) : Prog ObjectId := do
  match ← perform (.wallet (.select dwalletId)) with
  | none => throw (.app (errors.notFound "dwallet not found" "DWALLET_NOT_FOUND"))
  | some dw =>
    match dw.networkEncryptionKeyId with
    | some nekId => return nekId
    | none =>
      let _ ← getIkaClient network
      match ← unwrap (← perform (.chain (.getDWallet network dw.suiDwalletId))) with
      | none => throw (.app (errors.internal "dwallet on chain has no network_encryption_key_id" "DWALLET_NEK_MISSING"))
      | some nekId =>
        perform (.wallet (.setNek dw.id nekId))
        return nekId

/-! ### Helpers -/

def fetchPresignBytes (network : String) (capObjectId : ObjectId) : Prog Bytes := do
  let _ ← getIkaClient network
  match ← unwrap (← perform (.chain (.getObject network capObjectId))) with
  | none =>
    -- Quarantine the row so the next allocation skips it.
    perform (.presign (.quarantine capObjectId))
    throw (.app (errors.internal s!"could not fetch cap {capObjectId}" "PRESIGN_CAP_GONE"))
  | some none => throw (.app (errors.internal s!"cap {capObjectId} has no presign_id" "PRESIGN_BAD_CAP"))
  | some (some sessionId) =>
    match ← unwrap (← perform (.chain (.getPresign network sessionId))) with
    | some bytes => return bytes
    | none => throw (.app (errors.internal "completed presign has no bytes" "PRESIGN_BAD_SHAPE"))

def accountSuiObjectIdFor : Option Uuid → Prog ObjectId
  | none => throw (.app (errors.internal "dwallet missing account link" "ACCOUNT_LINK_MISSING"))
  | some accountId => do
    match ← perform (.wallet (.selectAccount accountId)) with
    | none => throw (.app (errors.internal "account row missing" "ACCOUNT_GONE"))
    | some account => return account.suiObjectId

def findEvents (tx : ExecutedTx) (typeContains : String) : List TxEvent :=
  tx.events.filter (fun event => includes event.eventType typeContains)

/-- The first nonempty `sign_id`. -/
def extractSignId (executed : ExecutedTx) : Option String :=
  ((findEvents executed "::sign::SignRequested").filterMap TxEvent.signId).find? (fun id => id ≠ "")

/-- `message.slice(0, 1024)`. -/
def clip (message : String) : String := slice message 1024

def markFailed (config : Config) (signRequestId : Uuid) (presignId : Option Uuid) (code message : String) : Prog Unit := do
  match ← perform (.sign (.setFailed signRequestId code (clip message))) with
  | some failed =>
    let _ ← refundCredits ⟨failed.userId, failed.network, "sign", signRequestId, config.signPriceMicro,
      s!"sign failed: {code}"⟩
    pure ()
  | none => pure ()
  match presignId with
  | some presignId => perform (.presign (.touch presignId))
  | none => return ()

/-! ### Phase 1: prepare -/

structure PrepareSignArgs where
  userId : Uuid
  network : String
  idempotencyKey : String
  dwalletId : Uuid
  signatureAlgorithm : Nat
  hashScheme : Nat
  message : Bytes
  deriving DecidableEq, Repr

structure PrepareSignResult where
  /-- `updated[0]`, undefined when the row is gone. -/
  signRequest : Option SignRequest
  duplicate : Bool
  presignBytesHex : String
  presignSuiObjectId : ObjectId
  deriving DecidableEq, Repr

/-- The rest of `prepareSignRequest` once the key has no usable record. -/
def prepareFresh (config : Config) (args : PrepareSignArgs) : Prog PrepareSignResult := do
  match ← perform (.wallet (.selectOwned args.dwalletId args.userId args.network)) with
  | none => throw (.app (errors.notFound "dwallet not found" "DWALLET_NOT_FOUND"))
  | some dw =>
    if dw.status ≠ .active then
      let status := dw.status.text
      throw (.app (errors.unprocessable s!"dwallet status {status} cannot sign yet" "DWALLET_NOT_ACTIVE"))
    else
      let signRequestId ← perform .randomUUID
      let _ ← chargeCredits ⟨args.userId, args.network, "sign", signRequestId, config.signPriceMicro,
        some "sign request prepared"⟩
      let row ← unwrap (← perform (.sign (.insert {
        id := signRequestId, userId := args.userId, network := args.network, idempotencyKey := args.idempotencyKey,
        suiDwalletId := dw.suiDwalletId, curve := dw.curve, signatureAlgorithm := args.signatureAlgorithm,
        hashScheme := args.hashScheme, messageHex := toHex args.message, status := .prepared })))
      let dwalletNek ← ensureDwalletNek dw.id args.network
      match ← allocate ⟨args.network, dw.curve, args.signatureAlgorithm, dwalletNek, row.id⟩ with
      | none =>
        perform (.sign (.delete row.id))
        let _ ← refundCredits ⟨args.userId, args.network, "sign", signRequestId, config.signPriceMicro,
          "presign pool empty for dwallet NEK at prepare"⟩
        unwrap (← perform (.queue (.presignRefill ⟨args.network, dw.curve, args.signatureAlgorithm,
          some config.presignBatchSize⟩)))
        throw (.app (errors.unprocessable s!"no ready presign available for NEK {dwalletNek}; retry shortly"
          "PRESIGN_POOL_EMPTY_FOR_NEK"))
      | some presignAlloc =>
        let updated ← perform (.sign (.setPresign row.id presignAlloc.id))
        let presignBytes ← fetchPresignBytes args.network presignAlloc.suiObjectId
        return ⟨updated, false, toHex presignBytes, presignAlloc.suiObjectId⟩

def prepareSignRequest (config : Config) (args : PrepareSignArgs) : Prog PrepareSignResult := do
  let existing ← perform (.sign (.selectByKey args.userId args.network args.idempotencyKey))
  match existing.bind (fun row => row.presignId.map (fun presignId => (row, presignId))) with
  | some (row, presignId) =>
    match ← perform (.presign (.select presignId)) with
    | some presignRow =>
      let bytes ← fetchPresignBytes args.network presignRow.suiObjectId
      return ⟨some row, true, toHex bytes, presignRow.suiObjectId⟩
    | none => prepareFresh config args
  | none => prepareFresh config args

/-! ### Phase 2: submit -/

structure SubmitPreparedSignArgs where
  userId : Uuid
  network : String
  signRequestId : Uuid
  messageCentralizedSignature : Bytes
  sessionIdentifierBytes : Bytes

def submitPreparedSign (args : SubmitPreparedSignArgs) : Prog (Option SignRequest) := do
  match ← perform (.sign (.selectOwned args.signRequestId args.userId args.network)) with
  | none => throw (.app (errors.notFound "sign request not found" "SIGN_NOT_FOUND"))
  | some sr =>
    if sr.status = .queued ∨ sr.status = .submitted ∨ sr.status = .completed then return some sr
    else if sr.status ≠ .prepared then
      let status := sr.status.text
      throw (.app (errors.unprocessable s!"sign request status {status} cannot be finalized" "SIGN_BAD_STATE"))
    else if sr.presignId = none then
      throw (.app (errors.internal "prepared row has no presign id" "SIGN_NO_PRESIGN"))
    else
      let updated ← perform (.sign (.setQueued sr.id (toHex args.messageCentralizedSignature)
        (toHex args.sessionIdentifierBytes)))
      unwrap (← perform (.queue (.signProcess sr.id)))
      return updated

/-! ### Worker -/

/-- `CURVE_BY_NUMBER` and `SIG_ALGO_BY_CURVE_NUMBER`: the pairs the SDK knows. -/
def curveFromNumber (n : Nat) : Except Thrown Nat :=
  if n < 4 then .ok n else .error (.other "Error" s!"unknown curve number {n}")

def signatureAlgorithmFromNumber (curve n : Nat) : Except Thrown Nat :=
  if n = 0 ∨ curve = 0 ∧ n = 1 then .ok n
  else .error (.other "Error" s!"unknown signature algorithm {n} for curve {curve}")

/-- After the PTB was executed: follow the session to its signature. -/
def finishSign (config : Config) (sr : SignRequest) (presignId : Uuid) (executed : ExecutedTx) : Prog Unit := do
  markConsumedPending presignId
  perform (.sign (.setSubmitted sr.id executed.digest))
  match extractSignId executed with
  | none =>
    markUsed presignId
    markFailed config sr.id none "NO_SIGN_ID" "no SignRequested event in tx"
  | some signSessionId =>
    perform (.sign (.setSession sr.id signSessionId))
    let signature ← rescue (do
        let curve ← unwrap (curveFromNumber sr.curve)
        let _ ← unwrap (signatureAlgorithmFromNumber curve sr.signatureAlgorithm)
        match ← unwrap (← perform (.chain (.getSign sr.network signSessionId))) with
        | some signature => return signature
        | none => throw (.app (errors.internal "completed sign has no signature bytes" "SIGN_BAD_SHAPE")))
      (fun error => do
        markUsed presignId
        markFailed config sr.id none "COORDINATOR_TIMEOUT" error.text
        throw error)
    markUsed presignId
    perform (.sign (.setCompleted sr.id (toHex signature)))
    unwrap (← perform (.queue (.presignRefill ⟨sr.network, sr.curve, sr.signatureAlgorithm, some 1⟩)))

/-- What the worker does when the submission throws. -/
def abandonSubmit (config : Config) (sr : SignRequest) (presignId : Uuid) (error : Thrown) : Prog Unit := do
  match error.phase with
  | .unknown =>
    -- The transaction may have landed: assume the cap is consumed.
    markUsed presignId
    markFailed config sr.id (some presignId) "SUBMIT_UNKNOWN" error.text
  | _ =>
    rollbackToReady presignId
    markFailed config sr.id (some presignId) "SUBMIT_FAILED" error.text
  throw error

/-- The transaction is built before the `try` around its submission. -/
def submitSign (config : Config) (sr : SignRequest) (presignId : Uuid) (tx : SignZeroTrust) : Prog Unit := do
  unwrap (← perform (.chain (.buildSignZeroTrust tx)))
  match ← perform (.chain (.execute tx)) with
  | .ok executed => finishSign config sr presignId executed
  | .error error => abandonSubmit config sr presignId error

/-- The worker's run on a queued row that has its presign and the user's inputs. -/
def signQueued (config : Config) (sr : SignRequest) (presignId : Uuid) (signatureHex sessionHex : String) : Prog Unit := do
  match ← perform (.presign (.select presignId)) with
  | none => markFailed config sr.id none "PRESIGN_GONE" "presign row missing"
  | some presignRow =>
    let messageCentralizedSignature ← unwrap (fromHex signatureHex)
    let sessionIdentifierBytes ← unwrap (fromHex sessionHex)
    let coordinatorId ← getIkaClient sr.network
    match ← perform (.wallet (.selectBySui sr.suiDwalletId)) with
    | none => markFailed config sr.id (some presignId) "DWALLET_GONE" "dwallet row vanished"
    | some dw =>
      let accountSuiId ← accountSuiObjectIdFor dw.accountId
      let message ← unwrap (fromHex sr.messageHex)
      submitSign config sr presignId {
        network := sr.network, accountId := accountSuiId, coordinatorId := coordinatorId,
        dwalletId := sr.suiDwalletId, presignCapId := presignRow.suiObjectId,
        signatureAlgorithm := sr.signatureAlgorithm, hashScheme := sr.hashScheme, message := message,
        messageCentralizedSignature := messageCentralizedSignature,
        sessionIdentifierBytes := sessionIdentifierBytes }

/-- `!text`: an absent or empty string. -/
def present (text : Option String) : Option String := text.filter (fun text => text ≠ "")

def processSignJob (config : Config) (signRequestId : Uuid) : Prog Unit := do
  match ← perform (.sign (.select signRequestId)) with
  | none => return ()
  | some sr =>
    if sr.status ≠ .queued then return ()
    else match sr.presignId with
      | none => markFailed config sr.id none "NO_PRESIGN" "row has no presign id"
      | some presignId =>
        match present sr.messageCentralizedSignatureHex, present sr.sessionIdentifierHex with
        | some signatureHex, some sessionHex => signQueued config sr presignId signatureHex sessionHex
        | _, _ => markFailed config sr.id (some presignId) "MISSING_INPUTS" "centralized sig / session id absent on row"

/-! ### Sweep stuck `prepared` rows -/

def rescueOne (config : Config) (_ : Unit) (sr : SignRequest) : Prog Unit := do
  match sr.presignId with
  | some presignId => rollbackToReady presignId
  | none => pure ()
  markFailed config sr.id none "PREPARE_EXPIRED" "phase 2 not submitted in time"

def sweepStuckPrepared (config : Config) (olderThanSec : Nat) : Prog Nat := do
  let cutoff := cutoffAt (← perform .now) olderThanSec
  let stuck ← perform (.sign (.selectStuck cutoff))
  fold (rescueOne config) () stuck
  return stuck.length

/-! ### The services as a system of calls -/

inductive Call where
  | prepare (args : PrepareSignArgs)
  | submit (args : SubmitPreparedSignArgs)
  /-- One delivery of a `sign.process` job. -/
  | process (signRequestId : Uuid) (job : Nat)
  | sweepStuckPrepared (olderThanSec : Nat)
  | sweepExpired (olderThanSec : Nat)
  | promotePending
  | discover (network : String) (pages : Nat)
  | refill (args : RefillArgs)

inductive Reply where
  | prepared (result : PrepareSignResult)
  | submitted (signRequest : Option SignRequest)
  | discovered (result : DiscoverResult)
  | done

def program (config : Config) : Call → Prog Reply
  | .prepare args => do return .prepared (← prepareSignRequest config args)
  | .submit args => do return .submitted (← submitPreparedSign args)
  | .process signRequestId _ => do processSignJob config signRequestId; return .done
  | .sweepStuckPrepared olderThanSec => do let _ ← sweepStuckPrepared config olderThanSec; return .done
  | .sweepExpired olderThanSec => do let _ ← sweepExpired olderThanSec; return .done
  | .promotePending => do let _ ← promotePending; return .done
  | .discover network pages => do return .discovered (← discover network pages)
  | .refill args => do let _ ← refill config args; return .done

/-- `retryLimit: 5`: a job is handed out at most six times, and never again once acknowledged. -/
def Job.Deliverable (job : Job) : Prop := job.done = false ∧ job.delivered < 6

instance (job : Job) : Decidable job.Deliverable := inferInstanceAs (Decidable (_ ∧ _))

def enter : Call → World → Option World
  | .process signRequestId index, world => match world.jobs[index]? with
      | none => none
      | some job => if job.signRequestId = signRequestId ∧ job.Deliverable then
          some { world with jobs := world.jobs.set index { job with delivered := job.delivered + 1 } } else none
  | _, world => some world

/-- A worker that returns acknowledges its job; one that throws or dies leaves it to be retried. -/
def leave : Call → Option (Except Thrown Reply) → World → World
  | .process _ index, some (.ok _), world =>
      { world with jobs := world.jobs.modify index (fun job => { job with done := true }) }
  | _, _, world => world

def machine (config : Config) : Machine Op Res Env World Call Thrown Reply where
  exec := fun _ => exec
  program := program config
  enter := enter
  leave := fun _ => leave

abbrev SignSystem := System Op Res World Call Thrown Reply
abbrev SignThread := Thread Op Res Call Thrown Reply

end MpcKit.Sign
