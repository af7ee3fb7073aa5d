import MpcKit.Async.Machine
import MpcKit.Sdk.Engine

/-! `WebWorkerCryptoEngine` of `sdk-ts/src/crypto/web-worker.ts` against the `onmessage` of
`worker-impl.ts`: calls, replies, error events and `terminate` share one map of pending calls. -/

namespace MpcKit.Sdk
open MpcKit.Async

structure MPCKitError where
  message : String
  status : Nat
  code : String
  deriving DecidableEq, Repr

inductive Rejection where
  | mpckit (error : MPCKitError)
  /-- What the executor of the promise threw. -/
  | raised (error : Raised)
  deriving DecidableEq, Repr

/-- A promise that was handed out: the id and the request of its call, and how it was settled. -/
structure ClientCall where
  id : Nat
  request : Request
  settlement : Option (Except Rejection Result)

structure RpcRequest where
  id : Nat
  request : Request
  deriving DecidableEq, Repr

inductive RpcResponse where
  | ok (id : Nat) (result : Result)
  | failed (id : Nat) (name message : String)
  deriving DecidableEq, Repr

/-- `e.data` of a message event. -/
inductive Data where
  /-- Nothing, or without a numeric `id`. -/
  | foreign
  /-- `ok` as a truth value; `error` is `none` where there is no such object. -/
  | response (id : Nat) (ok : Bool) (result : Result) (error : Option (String × String))

def RpcResponse.data : RpcResponse → Data
  | .ok id result => .response id true result none
  | .failed id name message => .response id false .undefined (some (name, message))

/-- Both sides. `replies` are all messages the worker has posted: they arrive in any order and any number of
times. -/
structure Ipc where
  nextId : Nat
  /-- The `Map` from ids to the promise that `resolve` and `reject` belong to. -/
  pending : List (Nat × Nat)
  calls : List ClientCall
  terminated : Bool
  /-- Posted to the worker and not yet taken. -/
  inbox : List RpcRequest
  replies : List RpcResponse
  cache : List (String × UserShareEncryptionKeys)

/-- A settled promise stays as it is. -/
def ClientCall.settle (call : ClientCall) (outcome : Except Rejection Result) : ClientCall :=
  { call with settlement := call.settlement.or (some outcome) }

namespace Ipc

def constructed : Ipc := ⟨1, [], [], false, [], [], []⟩

def settle (ipc : Ipc) (promise : Nat) (outcome : Except Rejection Result) : Ipc :=
  { ipc with calls := ipc.calls.modify promise (fun call => call.settle outcome) }

/-- `new Promise` runs its executor at once: the entry is made, then `postMessage` is tried. -/
def call (ipc : Ipc) (request : Request) (posted : Except Raised Unit) : Ipc :=
  let id := ipc.nextId
  let promise := ipc.calls.length
  let registered : Ipc := { ipc with
    nextId := id + 1, calls := ipc.calls ++ [⟨id, request, none⟩], pending := ipc.pending ++ [(id, promise)] }
  match posted with
  | .ok _ => { registered with inbox := ipc.inbox ++ [⟨id, request⟩] }
  | .error error => registered.settle promise (.error (.raised error))

def onMessage (ipc : Ipc) : Data → Ipc
  | .foreign => ipc
  | .response id ok result error => match ipc.pending.find? (fun entry => entry.1 = id) with
      | none => ipc
      | some (_, promise) =>
          let deleted := { ipc with pending := ipc.pending.filter (fun entry => entry.1 ≠ id) }
          if ok then deleted.settle promise (.ok result)
          else match error with
            | some (name, message) => deleted.settle promise (.error (.mpckit ⟨message, 500, name⟩))
            -- `data.error.message` throws out of the listener.
            | none => deleted

/-- `for (const [, p] of this.pending) p.reject(err)`, then `this.pending.clear()`. -/
def rejectAll (ipc : Ipc) (error : MPCKitError) : Ipc :=
  { ipc.pending.foldl (fun ipc entry => ipc.settle entry.2 (.error (.mpckit error))) ipc with pending := [] }

def onError (ipc : Ipc) (message : String) : Ipc := ipc.rejectAll ⟨s!"worker error: {message}", 500, "WORKER_ERROR"⟩

/-- A worker without a `terminate` goes on, and so may one with it until it is stopped. -/
def terminate (ipc : Ipc) : Ipc :=
  { ipc.rejectAll ⟨"worker terminated", 0, "WORKER_TERMINATED"⟩ with terminated := true }

end Ipc

/-! ### The system -/

/-- What the library computes at one step. -/
structure EngineEnv where
  digest : Except Raised Backend.Bytes
  keys : Except Raised UserShareEncryptionKeys
  signature : Except Raised Backend.Bytes
  dkg : Except Raised PreparedDKG

def execEngine (op : EngineOp) (env : EngineEnv) (ipc : Ipc) : EngineOp.Res op × Ipc :=
  match op with
  | .digest _ => (env.digest, ipc)
  | .cacheGet id => ((ipc.cache.find? (fun entry => entry.1 = id)).map Prod.snd, ipc)
  | .cacheSet id keys => ((), { ipc with cache := (id, keys) :: ipc.cache.filter (fun entry => entry.1 ≠ id) })
  | .cacheDelete id => ((), { ipc with cache := ipc.cache.filter (fun entry => entry.1 ≠ id) })
  | .fromRootSeedKey _ _ => (env.keys, ipc)
  | .getEncryptionKeySignature _ => (env.signature, ipc)
  | .getUserOutputSignature _ _ _ _ => (env.signature, ipc)
  | .prepareDKGAsync _ _ => (env.dkg, ipc)
  | .createUserSignMessage _ _ => (env.signature, ipc)

/-- What starts: something on the main thread, which runs to its end at once, or the worker's handler of a
request. -/
inductive Task where
  | call (request : Request) (posted : Except Raised Unit)
  /-- One of the worker's replies arrives. -/
  | deliver (reply : Nat)
  /-- Any other message arrives. -/
  | message (data : Data)
  | error (message : String)
  | terminate
  | handle (request : RpcRequest)

def Task.program : Task → EngineProg Result
  | .handle request => InlineCryptoEngine.dispatch request.request
  | _ => .ret .undefined

def Task.enter : Task → Ipc → Option Ipc
  | .call request posted, ipc => some (ipc.call request posted)
  | .deliver reply, ipc => (ipc.replies[reply]?).map (fun response => ipc.onMessage response.data)
  | .message data, ipc => some (ipc.onMessage data)
  | .error text, ipc => some (ipc.onError text)
  | .terminate, ipc => some ipc.terminate
  | .handle request, ipc => match ipc.inbox with
      | [] => none
      | first :: rest => if first = request then some { ipc with inbox := rest } else none

/-- `{ id, ok: true, result }`, or the name and message of what was thrown. -/
def RpcRequest.respond (request : RpcRequest) : Except Raised Result → RpcResponse
  | .ok result => .ok request.id result
  | .error (.error name message) => .failed request.id name message
  | .error (.value text) => .failed request.id "Error" text

def Task.leave : Task → Option (Except Raised Result) → Ipc → Ipc
  | .handle request, some result, ipc => { ipc with replies := ipc.replies ++ [request.respond result] }
  | _, _, ipc => ipc

def rpc : Machine EngineOp EngineOp.Res EngineEnv Ipc Task Raised Result where
  exec := fun _ op env ipc => some (execEngine op env ipc)
  program := Task.program
  enter := Task.enter
  leave := fun _ => Task.leave

abbrev RpcSystem := System EngineOp EngineOp.Res Ipc Task Raised Result
abbrev RpcThread := Thread EngineOp EngineOp.Res Task Raised Result

/-- The engine as its constructor leaves it. -/
def opened : RpcSystem := ⟨.constructed, []⟩

end MpcKit.Sdk
