import MpcKit.Async.Program
import MpcKit.Pricing.PriceFeed

/-! `features/billing/sweep.ts`: a user's deposit address is drained into the treasury. -/

namespace MpcKit.Sweep
open MpcKit.Backend MpcKit.Async
open Program (fold unwrap)

structure Balance where
  coinType : String
  balance : Nat
  deriving DecidableEq, Repr

inductive Command where
  | mergeCoins (destination : ObjectId) (sources : List ObjectId)
  | transferObjects (objects : List ObjectId) (address : String)
  deriving DecidableEq, Repr

structure Transaction where
  sender : String
  gasOwner : String
  commands : List Command
  deriving DecidableEq, Repr

structure BalanceChange where
  coinType : String
  address : String
  amount : Int
  deriving DecidableEq, Repr

inductive Execution where
  | transaction (digest : String) (balanceChanges : List BalanceChange)
  | failedTransaction (status : String)

/-- Every await of the sweep. Its loop over the prices awaits nothing, so the feed is read at once. -/
inductive Op where
  | listBalances (network owner : String)
  | priceFeed
  | listCoins (network owner coinType : String)
  | build (network : String) (tx : Transaction)
  | signTransaction (signer : String) (tx : Transaction)
  | executeTransaction (network : String) (tx : Transaction) (signatures : List String)

@[reducible] def Res : Op → Type
  | .listBalances _ _ => Except Thrown (List Balance)
  | .priceFeed => Pricing.Registry × Pricing.PriceFeedSnapshot
  | .listCoins _ _ _ => Except Thrown (List ObjectId)
  | .build _ _ => Except Thrown Unit
  | .signTransaction _ _ => Except Thrown String
  | .executeTransaction _ _ _ => Except Thrown Execution

/-- An operation that hands a transaction to the chain. -/
def IsSubmission : Op → Prop
  | .executeTransaction _ _ _ => True
  | _ => False

abbrev Prog := Program Op Res Thrown

abbrev perform (op : Op) : Prog (Res op) := Program.perform op

structure Config where
  feed : Pricing.Config
  /-- `BILLING_SWEEP_DESTINATION_ADDRESS`. -/
  destination : Option String
  /-- `BILLING_SWEEP_MIN_MICRO`. -/
  minMicro : Nat
  /-- `BILLING_ACCEPTED_COIN_TYPES`. -/
  acceptedCoinTypes : List String
  /-- Throws for a network that is not enabled. -/
  getSuiClient : String → Except Thrown Unit
  /-- The address of `deriveDepositKeypair`; throws while the master seed is not configured. -/
  deriveDepositAddress : Uuid → String → Except Thrown String
  /-- The address of `getHotWallet`; throws while the wallet is not warmed. -/
  hotWallet : Except Thrown String

inductive SweepStatus where
  | swept
  | belowThreshold
  | empty
  deriving DecidableEq, Repr

structure SweepResult where
  status : SweepStatus
  digest : Option String
  amountsAtomic : Option (List (String × Int))
  deriving DecidableEq, Repr

section Code

variable (config : Config)

/-- An accepted coin type, and some of it. -/
def Eligible (balance : Balance) : Prop :=
  config.feed.normalizeStructTag balance.coinType ∈ config.acceptedCoinTypes.map config.feed.normalizeStructTag ∧
    0 < balance.balance

instance : DecidablePred (Eligible config) := fun _ => inferInstanceAs (Decidable (_ ∧ _))

/-- The loop over the prices: a coin without one ends it, with the sum that forces the sweep. -/
def totalMicroUsd (registry : Pricing.Registry) (snapshot : Pricing.PriceFeedSnapshot) : Int → List Balance → Int
  | total, [] => total
  | total, balance :: rest =>
      match Pricing.microUsdFromAtomic config.feed registry snapshot balance.coinType balance.balance with
      | .ok (microUsd, _) => totalMicroUsd registry snapshot (total + microUsd) rest
      | .error _ => -1

/-- One coin type of the transaction: its listed coins are merged into the first, which is transferred. -/
def transferCoins (network sender dest : String) (commands : List Command) (balance : Balance) : Prog (List Command) := do
  match ← unwrap (← perform (.listCoins network sender balance.coinType)) with
  | [] => return commands
  | [head] => return commands ++ [.transferObjects [head] dest]
  | head :: rest => return commands ++ [.mergeCoins head rest, .transferObjects [head] dest]

/-- `credited[c.coinType] = (credited[c.coinType] ?? 0n) + BigInt(c.amount)`. -/
def credit (credited : List (String × Int)) (change : BalanceChange) : List (String × Int) :=
  if credited.any (fun entry => entry.1 = change.coinType) then
    credited.map (fun entry => if entry.1 = change.coinType then (entry.1, entry.2 + change.amount) else entry)
  else credited ++ [(change.coinType, change.amount)]

def creditedTo (dest : String) (balanceChanges : List BalanceChange) : List (String × Int) :=
  (balanceChanges.filter (fun change => change.address = dest)).foldl credit []

/-- What a sweep makes of the execution. -/
def reply (dest : String) : Execution → Except Thrown SweepResult
  | .failedTransaction status => .error (.other "Error" ("sweep tx failed: " ++ status))
  | .transaction digest balanceChanges => .ok ⟨.swept, some digest, some (creditedTo dest balanceChanges)⟩

/-- Build the transaction, sign it twice and execute it. -/
def submit (network sender sponsor dest : String) (commands : List Command) : Prog SweepResult := do
  let tx : Transaction := ⟨sender, sponsor, commands⟩
  unwrap (← perform (.build network tx))
  let userSig ← unwrap (← perform (.signTransaction sender tx))
  let sponsorSig ← unwrap (← perform (.signTransaction sponsor tx))
  let execution ← unwrap (← perform (.executeTransaction network tx [userSig, sponsorSig]))
  unwrap (reply dest execution)

/-- The second half, once there is enough to sweep. -/
def drain (network sender sponsor dest : String) (eligible : List Balance) : Prog SweepResult := do
  let commands ← fold (transferCoins network sender dest) [] eligible
  submit network sender sponsor dest commands

def sweepUserAddress (userId : Uuid) (network : String) : Prog SweepResult :=
  match config.destination.filter (fun dest => dest ≠ "") with
  | none => throw (.app (errors.notConfigured "billing sweep destination"))
  | some dest => do
    unwrap (config.getSuiClient network)
    let sender ← unwrap (config.deriveDepositAddress userId network)
    let sponsor ← unwrap config.hotWallet
    let balances ← unwrap (← perform (.listBalances network sender))
    let eligible := balances.filter (fun balance => Eligible config balance)
    if eligible = [] then return ⟨.empty, none, none⟩
    else
      let (registry, snapshot) ← perform .priceFeed
      let total := totalMicroUsd config registry snapshot 0 eligible
      if 0 ≤ total ∧ total < config.minMicro then return ⟨.belowThreshold, none, none⟩
      else drain network sender sponsor dest eligible

end Code

end MpcKit.Sweep
