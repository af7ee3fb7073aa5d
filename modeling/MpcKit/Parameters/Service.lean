import MpcKit.Async.Lru
import MpcKit.Async.Machine
import MpcKit.Backend.Basics

/-! `features/protocol-parameters/service.ts`: the public parameters of a curve under the latest network
encryption key, kept in a cache under the key's id. -/

namespace MpcKit.Parameters
open MpcKit.Backend MpcKit.Async
open Program (unwrap)

inductive IkaNetwork where
  | testnet
  | mainnet
  deriving DecidableEq, Repr

def IkaNetwork.text : IkaNetwork → String
  | .testnet => "testnet"
  | .mainnet => "mainnet"

inductive Curve where
  | secp256k1
  | secp256r1
  | ed25519
  | ristretto
  deriving DecidableEq, Repr

def Curve.text : Curve → String
  | .secp256k1 => "SECP256K1"
  | .secp256r1 => "SECP256R1"
  | .ed25519 => "ED25519"
  | .ristretto => "RISTRETTO"

structure NetworkEncryptionKey where
  id : ObjectId
  epoch : Nat
  deriving DecidableEq, Repr

structure ProtocolParamsEntry where
  bytes : Bytes
  curve : Curve
  encryptionKeyId : ObjectId
  epoch : Nat
  loadedAt : Time
  deriving DecidableEq, Repr

inductive Op where
  | getIkaClient (network : IkaNetwork)
  | getLatestNetworkEncryptionKey (network : IkaNetwork)
  | cacheGet (key : String)
  /-- `ika.getProtocolPublicParameters(undefined, curve)`. -/
  | getProtocolPublicParameters (network : IkaNetwork) (curve : Curve)
  | now
  | cacheSet (key : String) (entry : ProtocolParamsEntry)

@[reducible] def Op.Res : Op → Type
  | .getIkaClient _ => Except Thrown Unit
  | .getLatestNetworkEncryptionKey _ => Except Thrown NetworkEncryptionKey
  | .cacheGet _ => Option ProtocolParamsEntry
  | .getProtocolPublicParameters _ _ => Except Thrown Bytes
  | .now => Time
  | .cacheSet _ _ => Unit

abbrev Prog := Program Op Op.Res Thrown
abbrev perform (op : Op) : Prog op.Res := Program.perform op

def curveFromNumber : Int → Except Thrown Curve
  | 0 => .ok .secp256k1
  | 1 => .ok .secp256r1
  | 2 => .ok .ed25519
  | 3 => .ok .ristretto
  | n => .error (.other "Error" s!"unsupported curve number: {n}")

def cacheKey (network : IkaNetwork) (curve : Curve) (encryptionKeyId : ObjectId) : String :=
  network.text ++ ":" ++ curve.text ++ ":" ++ encryptionKeyId

def getProtocolParameters (network : IkaNetwork) (curveNum : Int) : Prog ProtocolParamsEntry := do
  let curve ← unwrap (curveFromNumber curveNum)
  unwrap (← perform (.getIkaClient network))
  let netKey ← unwrap (← perform (.getLatestNetworkEncryptionKey network))
  let key := cacheKey network curve netKey.id
  match ← perform (.cacheGet key) with
  | some cached => return cached
  | none =>
    let bytes ← unwrap (← perform (.getProtocolPublicParameters network curve))
    let loadedAt ← perform .now
    let entry := ⟨bytes, curve, netKey.id, netKey.epoch, loadedAt⟩
    perform (.cacheSet key entry)
    return entry

/-! ### The process and the networks -/

structure World where
  latest : IkaNetwork → NetworkEncryptionKey
  cache : Lru String ProtocolParamsEntry 64

/-- How an operation ends that can fail, and what the clock says. -/
structure Env where
  failure : Option Thrown
  clock : Time

def Env.answer {α : Type} (env : Env) (value : α) : Except Thrown α :=
  match env.failure with
  | some thrown => .error thrown
  | none => .ok value

/-- `parameters` are the public parameters of a curve under a key of a network. -/
def exec (parameters : IkaNetwork → Curve → ObjectId → Bytes) (env : Env) (world : World) : (op : Op) → op.Res × World
  | .getIkaClient _ => (env.answer (), world)
  | .getLatestNetworkEncryptionKey network => (env.answer (world.latest network), world)
  | .cacheGet key =>
    let (found, cache) := world.cache.get key
    (found, { world with cache := cache })
  | .getProtocolPublicParameters network curve =>
    (env.answer (parameters network curve (world.latest network).id), world)
  | .now => (env.clock, world)
  | .cacheSet key entry => ((), { world with cache := world.cache.set key entry })

/-- A call of the service, or a network that makes another encryption key its latest. -/
inductive Task where
  | getProtocolParameters (network : IkaNetwork) (curveNum : Int)
  | reconfigure (network : IkaNetwork) (key : NetworkEncryptionKey)
  deriving DecidableEq, Repr

def Task.program : Task → Prog (Option ProtocolParamsEntry)
  | .getProtocolParameters network curveNum => do return some (← Parameters.getProtocolParameters network curveNum)
  | .reconfigure _ _ => return none

def Task.enter (world : World) : Task → World
  | .getProtocolParameters _ _ => world
  | .reconfigure network key => { world with latest := Function.update world.latest network key }

def machine (parameters : IkaNetwork → Curve → ObjectId → Bytes) :
    Machine Op Op.Res Env World Task Thrown (Option ProtocolParamsEntry) where
  exec _ op env world := some (exec parameters env world op)
  program := Task.program
  enter task world := some (task.enter world)
  leave _ _ _ world := world

abbrev ParamsSystem := System Op Op.Res World Task Thrown (Option ProtocolParamsEntry)
abbrev ParamsThread := Thread Op Op.Res Task Thrown (Option ProtocolParamsEntry)

/-- A process has just started. -/
def initial (latest : IkaNetwork → NetworkEncryptionKey) : ParamsSystem := ⟨⟨latest, Lru.empty⟩, []⟩

end MpcKit.Parameters
