import MpcKit.Billing.Store

/-! `features/billing/service.ts` and `features/billing/verifier.ts`, await by await. -/

namespace MpcKit.Billing
open MpcKit.Backend MpcKit.Async
open Program (fold rescue unwrap)

abbrev Prog := Program Op Res Thrown

abbrev perform (op : Op) : Prog (Res op) := Program.perform op

structure Config where
  /-- `BILLING_ACCEPTED_COIN_TYPES`. -/
  acceptedCoinTypes : List String
  /-- `BILLING_MIN_DEPOSIT_MICRO`. -/
  minDepositMicro : Nat
  /-- `normalizeStructTag` of the Sui SDK. -/
  normalizeStructTag : String → String
  /-- `deriveDepositAddress`; throws while the master seed is not configured. -/
  deriveDepositAddress : Uuid → String → Except Thrown String

def getOrCreateAccount (userId : Uuid) (network : String) : Prog BillingAccount := do
  match ← perform (.selectAccount userId network) with
  | some account => return account
  | none =>
    match ← perform (.insertAccount userId network) with
    | some account => return account
    | none =>
      -- Lost the race; fetch the row the other writer landed.
      match ← perform (.selectAccount userId network) with
      | some account => return account
      | none => throw (.app (errors.internal "billing account upsert lost" "INTERNAL_ERROR"))

def getOrCreateDepositAddress (config : Config) (userId : Uuid) (network : String) : Prog String := do
  let account ← getOrCreateAccount userId network
  match account.depositAddress with
  | some address => return address
  | none =>
    let address ← unwrap (config.deriveDepositAddress userId network)
    perform (.setDepositAddress account.id address)
    return address

def getBalance (userId : Uuid) (network : String) : Prog Int := do
  let account ← getOrCreateAccount userId network
  return account.creditsMicro

/-- `db.transaction`: commit what the body wrote, or roll back and rethrow. -/
def transaction {α : Type} (body : Prog α) : Prog α := do
  unwrap (← perform .begin)
  rescue (do
      let result ← body
      unwrap (← perform .commit)
      return result)
    (fun error => do
      perform .rollback
      throw error)

/-! ### Deposits -/

structure VerifiedDeposit where
  digest : String
  sender : String
  /-- Per coin type, in the order the coin types were first seen. -/
  amountsAtomic : List (String × Int)

/-- `sums.set(ct, (sums.get(ct) ?? 0n) + amount)`. -/
def addAmount (sums : List (String × Int)) (coinType : String) (amount : Int) : List (String × Int) :=
  if sums.any (fun entry => entry.1 = coinType) then
    sums.map (fun entry => if entry.1 = coinType then (entry.1, entry.2 + amount) else entry)
  else sums ++ [(coinType, amount)]

def creditedSums (config : Config) (recipient : String) : List BalanceChange → List (String × Int) :=
  List.foldl (fun sums change =>
    let coinType := config.normalizeStructTag change.coinType
    if change.address = recipient ∧ coinType ∈ config.acceptedCoinTypes.map config.normalizeStructTag ∧
        0 < change.amount
    then addAmount sums coinType change.amount else sums) []

def verifyDeposit (config : Config) (network digest recipient : String) : Prog VerifiedDeposit := do
  match ← unwrap (← perform (.getTransaction network digest)) with
  | .failed => throw (.app (errors.unprocessable "deposit tx failed on chain" "DEPOSIT_TX_FAILED"))
  | .transaction (some error) _ _ =>
    throw (.app (errors.unprocessable s!"deposit tx failed: {error}" "DEPOSIT_TX_FAILED"))
  | .transaction none none _ =>
    throw (.app (errors.unprocessable "deposit tx has no sender" "DEPOSIT_BAD_SHAPE"))
  | .transaction none (some sender) balanceChanges =>
    let sums := creditedSums config recipient balanceChanges
    if sums = [] then
      throw (.app (errors.unprocessable "no accepted coin transferred to deposit address" "DEPOSIT_NO_CREDIT"))
    else return ⟨digest, sender, sums⟩

def creditsFor (coinType : String) (amountAtomic : Int) : Prog (Int × Int) := do
  unwrap (← perform (.creditsFor coinType amountAtomic))

/-- One coin keeps the bare digest; several get the last eight characters of the coin type. -/
def suffixForCoinType (verified : VerifiedDeposit) (coinType : String) : String :=
  if verified.amountsAtomic.length = 1 then verified.digest
  else verified.digest ++ ":" ++ String.ofList (coinType.toList.drop (coinType.toList.length - 8))

structure RecordDepositResult where
  deposit : BillingDeposit
  duplicate : Bool
  newBalanceMicro : Int

/-- The loop of the deposit transaction: the running total and the last inserted row. -/
def insertCoin (userId : Uuid) (network : String) (verified : VerifiedDeposit)
    (state : Int × Option BillingDeposit) (coin : String × Int) : Prog (Int × Option BillingDeposit) := do
  let (credits, rate) ← creditsFor coin.1 coin.2
  let inserted ← unwrap (← perform (.insertDeposit {
    userId := userId, network := network, txDigest := suffixForCoinType verified coin.1,
    senderAddress := verified.sender, coinType := coin.1, amountAtomic := coin.2,
    creditsCredited := credits, rateMicroPerAtomic := rate }))
  return (state.1 + credits, some inserted)

def depositTransaction (userId : Uuid) (network : String) (verified : VerifiedDeposit) :
    Prog (BillingDeposit × Int) := transaction do
  let (totalCredits, lastInserted) ← fold (insertCoin userId network verified) (0, none) verified.amountsAtomic
  let updated ← unwrap (← perform (.addCredits ⟨userId, network, totalCredits⟩))
  match lastInserted, updated with
  | some deposit, some newBalanceMicro => return (deposit, newBalanceMicro)
  | _, _ => throw (.other "TypeError" "undefined is not an object")

def recordDeposit (config : Config) (userId : Uuid) (network txDigest : String) : Prog RecordDepositResult := do
  match ← perform (.selectDeposit txDigest) with
  | some prior =>
    if prior.userId ≠ userId then
      throw (.app (errors.conflict "deposit already credited to another user" "DEPOSIT_TAKEN"))
    else if prior.network ≠ network then
      throw (.app (errors.conflict "deposit already credited on another network" "DEPOSIT_TAKEN"))
    else
      let balance ← getBalance userId network
      return ⟨prior, true, balance⟩
  | none =>
    let recipient ← getOrCreateDepositAddress config userId network
    let verified ← verifyDeposit config network txDigest recipient
    let preTotal ← fold (fun sum coin => do
      let (credits, _) ← creditsFor coin.1 coin.2
      return sum + credits) (0 : Int) verified.amountsAtomic
    let minMicro : Int := config.minDepositMicro
    if preTotal < minMicro then
      throw (.app (errors.unprocessable
        s!"deposit below minimum: {preTotal} micro-credits < {minMicro} required" "DEPOSIT_BELOW_MINIMUM"))
    else
      let _ ← getOrCreateAccount userId network
      let (deposit, newBalanceMicro) ← depositTransaction userId network verified
      unwrap (← perform (.enqueueSweep userId network deposit.id))
      return ⟨deposit, false, newBalanceMicro⟩

/-! ### Charges and refunds -/

structure ChargeArgs where
  userId : Uuid
  network : String
  opType : String
  opId : Uuid
  amountMicro : Int
  reason : Option String

def ChargeArgs.op (args : ChargeArgs) : OpKey := ⟨args.network, args.opType, args.opId⟩

def ChargeArgs.newCharge (args : ChargeArgs) : NewCharge :=
  ⟨args.userId, args.network, args.opType, args.opId, .charge, -args.amountMicro, args.reason⟩

def chargeTransaction (args : ChargeArgs) : Prog BillingCharge := transaction do
  match ← unwrap (← perform (.selectCharge args.op .charge)) with
  | some existing => return existing
  | none =>
    match ← unwrap (← perform (.lockAccount args.userId args.network)) with
    | none => throw (.app (errors.notFound "billing account not found" "BILLING_ACCOUNT_NOT_FOUND"))
    | some creditsMicro =>
      if creditsMicro < args.amountMicro then
        throw (.app (errors.paymentRequired
          s!"insufficient credits: have {creditsMicro}, need {args.amountMicro}" "INSUFFICIENT_CREDITS"))
      else
        let _ ← unwrap (← perform (.addCredits ⟨args.userId, args.network, -args.amountMicro⟩))
        unwrap (← perform (.insertCharge args.newCharge))

def charge (args : ChargeArgs) : Prog BillingCharge := do
  if args.amountMicro ≤ 0 then
    throw (.app (errors.validation "charge amount must be > 0" "BAD_CHARGE_AMOUNT"))
  else
    let _ ← getOrCreateAccount args.userId args.network
    chargeTransaction args

structure RefundArgs where
  userId : Uuid
  network : String
  opType : String
  opId : Uuid
  amountMicro : Int
  reason : String

def RefundArgs.op (args : RefundArgs) : OpKey := ⟨args.network, args.opType, args.opId⟩

def RefundArgs.newRefund (args : RefundArgs) : NewCharge :=
  ⟨args.userId, args.network, args.opType, args.opId, .refund, args.amountMicro, some args.reason⟩

def refundTransaction (args : RefundArgs) : Prog BillingCharge := transaction do
  match ← unwrap (← perform (.selectCharge args.op .refund)) with
  | some existing => return existing
  | none =>
    let chargeRows ← unwrap (← perform (.selectCredits args.op .charge))
    let chargedTotal := (chargeRows.map (fun creditsMicro => -creditsMicro)).sum
    if chargedTotal = 0 then
      throw (.app (errors.unprocessable
        s!"refund has no matching charge for op {args.opType}/{args.opId} on {args.network}"
        "REFUND_NO_MATCHING_CHARGE"))
    else
      let priorRefundRows ← unwrap (← perform (.selectCredits args.op .refund))
      let priorRefunded := priorRefundRows.sum
      let maxRefundable := chargedTotal - priorRefunded
      if args.amountMicro > maxRefundable then
        throw (.app (errors.unprocessable
          s!"refund {args.amountMicro} exceeds max refundable {maxRefundable} (charged {chargedTotal}, prior refunded {priorRefunded})"
          "REFUND_EXCEEDS_CHARGE"))
      else
        let _ ← unwrap (← perform (.addCredits ⟨args.userId, args.network, args.amountMicro⟩))
        unwrap (← perform (.insertCharge args.newRefund))

def refund (args : RefundArgs) : Prog BillingCharge := do
  if args.amountMicro ≤ 0 then
    throw (.app (errors.validation "refund amount must be > 0" "BAD_REFUND_AMOUNT"))
  else
    let _ ← getOrCreateAccount args.userId args.network
    refundTransaction args

structure ChargeWithRefundArgs where
  userId : Uuid
  network : String
  opType : String
  amountMicro : Int
  chargeReason : String
  refundReason : Thrown → String

/-- Charge upfront, run `fn`, refund on throw. A failing refund is logged, and the error of
`fn` is what the caller sees. -/
def chargeWithRefund {α : Type} (args : ChargeWithRefundArgs) (fn : Prog α) : Prog α := do
  let opId ← perform .randomUUID
  let _ ← charge ⟨args.userId, args.network, args.opType, opId, args.amountMicro, some args.chargeReason⟩
  rescue fn (fun error => do
    rescue (do
        let _ ← refund ⟨args.userId, args.network, args.opType, opId, args.amountMicro,
          slice (args.refundReason error) 200⟩
        return ())
      (fun _ => return ())
    throw error)

/-! ### The service as a system of calls -/

inductive Call where
  | recordDeposit (userId : Uuid) (network txDigest : String)
  | charge (args : ChargeArgs)
  | refund (args : RefundArgs)
  | chargeWithRefund (args : ChargeWithRefundArgs)

inductive Reply where
  | deposit (result : RecordDepositResult)
  | row (row : BillingCharge)
  | value (result : Uuid)

def program (config : Config) : Call → Prog Reply
  | .recordDeposit userId network txDigest => do return .deposit (← recordDeposit config userId network txDigest)
  | .charge args => do return .row (← charge args)
  | .refund args => do return .row (← refund args)
  | .chargeWithRefund args => do
      return .value (← chargeWithRefund args (do unwrap (← perform .body)))

/-- A call that is cut off loses its connection, and Postgres rolls its transaction back. -/
def machine (config : Config) : Machine Op Res Env Store Call Thrown Reply where
  exec := exec
  program := program config
  enter := fun _ store => some store
  leave := fun index _ result store => match result with
    | some _ => store
    | none => store.rollback index

abbrev BillingSystem := System Op Res Store Call Thrown Reply

end MpcKit.Billing
