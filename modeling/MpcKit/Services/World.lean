import MpcKit.Async.Beside
import MpcKit.Sign.Service
import MpcKit.Wallets.Service

/-! The sign, presign and dwallet services of one backend: their calls interleaved over the same
tables, ledger and chain. -/

namespace MpcKit.Services
open MpcKit.Backend MpcKit.Async
open MpcKit.Sign (Account DWallet)

structure Config where
  sign : Sign.Config
  wallets : Wallets.Config
  /-- The network encryption key the coordinator bound a dwallet to, for good. -/
  boundNek : ObjectId → Option ObjectId

abbrev Op := Sign.Op ⊕ Wallets.Op

abbrev Res : Op → Type := Beside Sign.Res Wallets.Res

structure Env where
  sign : Sign.Env
  wallets : Wallets.Env

/-- `account.store_dwallet_cap(dwallet_id, cap)`: the cap is a dynamic object field of the account. -/
structure StoredCap where
  dwalletId : ObjectId
  accountId : ObjectId
  deriving DecidableEq, Repr

structure World where
  sign : Sign.World
  keys : Table Wallets.EncryptionKey.id
  chain : Wallets.Chain
  stored : List StoredCap

/-- What the dwallet service sees of it. -/
def World.wallets (world : World) : Wallets.World :=
  ⟨world.keys, world.sign.accounts, world.sign.dwallets, world.sign.ledger, world.chain, world.sign.nextId⟩

/-- What it leaves behind. -/
def World.withWallets (world : World) (wallets : Wallets.World) (stored : List StoredCap) : World where
  sign := { world.sign with
    accounts := wallets.accounts, dwallets := wallets.dwallets, ledger := wallets.ledger, nextId := wallets.nextId }
  keys := wallets.keys
  chain := wallets.chain
  stored := stored

/-- The cap a transaction stores, and the account that is given it. -/
def storedBy (env : Wallets.Env) : Wallets.MoveCall → List StoredCap
  | .onboardZeroTrust _ => [⟨env.object, env.account⟩]
  | .addDwalletZeroTrust accountId _ => [⟨env.object, accountId⟩]
  | _ => []

/-- The caps one operation stores. -/
def stores (env : Wallets.Env) : Wallets.Op → List StoredCap
  | .chain (.execute _ call) => if env.outcome.lands then storedBy env call else []
  | _ => []

/-- What the coordinator tells of a dwallet is the key it is bound to. -/
def Tells (config : Config) (env : Env) : Op → Prop
  | .inl (.chain (.getDWallet _ suiDwalletId)) => env.sign.networkEncryptionKeyId = config.boundNek suiDwalletId
  | .inr (.chain (.getDWallet _ suiDwalletId)) => env.wallets.networkEncryptionKeyId = config.boundNek suiDwalletId
  | _ => True

instance (config : Config) (env : Env) (op : Op) : Decidable (Tells config env op) := by
  unfold Tells
  split <;> infer_instance

/-- One statement or request of either service. -/
def perform (config : Config) (index : Nat) (env : Env) (world : World) : (op : Op) → Option (Res op × World)
  | .inl op => (Sign.exec op env.sign world.sign).map (fun reply => (reply.1, { world with sign := reply.2 }))
  | .inr op => (Wallets.exec config.wallets index op env.wallets world.wallets).map
      (fun reply => (reply.1, world.withWallets reply.2 (world.stored ++ stores env.wallets op)))

def exec (config : Config) (index : Nat) (op : Op) (env : Env) (world : World) : Option (Res op × World) :=
  if Tells config env op then perform config index env world op else none

/-! ### The calls -/

abbrev Call := Sign.Call ⊕ Wallets.Call

abbrev Reply := Sign.Reply ⊕ Wallets.Reply

abbrev signing : Embedding Sign.Res Res := .first Sign.Res Wallets.Res

abbrev dwallets : Embedding Wallets.Res Res := .second Sign.Res Wallets.Res

def program (config : Config) : Call → Program Op Res Thrown Reply
  | .inl call => (Sign.program config.sign call).within signing .inl
  | .inr call => (Wallets.program config.wallets call).within dwallets .inr

def enter : Call → World → Option World
  | .inl call, world => (Sign.enter call world.sign).map (fun sign => { world with sign := sign })
  | .inr _, world => some world

/-- The reply of a call of the sign services. -/
def Reply.sign : Except Thrown Reply → Option (Except Thrown Sign.Reply)
  | .ok (.inl reply) => some (.ok reply)
  | .ok (.inr _) => none
  | .error error => some (.error error)

def leave : Call → Option (Except Thrown Reply) → World → World
  | .inl call, result, world => { world with sign := Sign.leave call (result.bind Reply.sign) world.sign }
  | .inr _, _, world => world

def machine (config : Config) : Machine Op Res Env World Call Thrown Reply where
  exec := exec config
  program := program config
  enter := enter
  leave := fun _ => leave

abbrev ServiceSystem := System Op Res World Call Thrown Reply
abbrev ServiceThread := Thread Op Res Call Thrown Reply

variable {config : Config}

/-- Everything an operation of the sign services can do. -/
theorem exec_sign {index : Nat} {op : Sign.Op} {env : Env} {world after : World} {answer : Sign.Res op}
    (executed : exec config index (.inl op) env world = some (answer, after)) :
    Tells config env (.inl op) ∧ ∃ sign, Sign.exec op env.sign world.sign = some (answer, sign) ∧
      after = { world with sign := sign } := by
  unfold exec at executed
  split at executed
  next tells =>
    obtain ⟨⟨reply, sign⟩, done, same⟩ := Option.map_eq_some_iff.mp executed
    cases same
    exact ⟨tells, sign, done, rfl⟩
  · cases executed

/-- Everything an operation of the dwallet service can do. -/
theorem exec_wallets {index : Nat} {op : Wallets.Op} {env : Env} {world after : World} {answer : Wallets.Res op}
    (executed : exec config index (.inr op) env world = some (answer, after)) :
    Tells config env (.inr op) ∧ ∃ wallets,
      Wallets.exec config.wallets index op env.wallets world.wallets = some (answer, wallets) ∧
      after = world.withWallets wallets (world.stored ++ stores env.wallets op) := by
  unfold exec at executed
  split at executed
  next tells =>
    obtain ⟨⟨reply, wallets⟩, done, same⟩ := Option.map_eq_some_iff.mp executed
    cases same
    exact ⟨tells, wallets, done, rfl⟩
  · cases executed

end MpcKit.Services
