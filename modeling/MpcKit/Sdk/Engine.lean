import MpcKit.Async.Program
import MpcKit.Backend.Basics

/-! `InlineCryptoEngine` of `sdk-ts/src/crypto/inline.ts`, await by await. What `@ika.xyz/sdk` and
`crypto.subtle` compute is an answer of the environment; a look at the session cache is an operation of its
own, so that the methods interleave at least as finely as they do in the worker. -/

namespace MpcKit.Sdk
open MpcKit.Async
open MpcKit.Backend (Bytes)

/-- What a promise is rejected with: an `Error`, or another value with its `String(err)`. -/
inductive Raised where
  | error (name message : String)
  | value (text : String)
  deriving DecidableEq, Repr

inductive Curve where
  | secp256k1
  | secp256r1
  | ed25519
  | ristretto
  deriving DecidableEq, Repr

def Curve.text : Curve → String
  | .secp256k1 => "SECP256K1"
  | .secp256r1 => "SECP256R1"
  | .ed25519 => "ED25519"
  | .ristretto => "RISTRETTO"

inductive SignatureAlgorithm where
  | ecdsaSecp256k1
  | taproot
  | ecdsaSecp256r1
  | edDSA
  | schnorrkelSubstrate
  deriving DecidableEq, Repr

inductive Hash where
  | keccak256
  | sha256
  | doubleSHA256
  | sha512
  | merlin
  deriving DecidableEq, Repr

/-- `UserShareEncryptionKeys`, as far as the engine reads it. -/
structure UserShareEncryptionKeys where
  curve : Curve
  suiAddress : String
  signingPublicKeyBytes : Bytes
  encryptionKey : Bytes
  deriving DecidableEq, Repr

structure KeySession where
  id : String
  suiAddress : String
  signingPublicKeyHex : String
  encryptionKeyHex : String
  deriving DecidableEq, Repr

structure DKGOutput where
  userDKGMessageHex : String
  userPublicOutputHex : String
  encryptedCentralizedSecretShareAndProofHex : String
  userSecretKeyShareHex : String
  deriving DecidableEq, Repr

structure PreparedDKG where
  userDKGMessage : Bytes
  userPublicOutput : Bytes
  encryptedUserShareAndProof : Bytes
  userSecretKeyShare : Bytes

structure PrepareDKGArgs where
  sessionIdentifierHex : String
  protocolPublicParametersHex : String
  networkEncryptionKeyId : String
  senderAddress : String
  deriving DecidableEq, Repr

structure SignCentralizedArgs where
  signatureAlgorithm : SignatureAlgorithm
  hash : Hash
  protocolPublicParametersHex : String
  userPublicOutputHex : String
  userSecretKeyShareHex : String
  presignBytesHex : String
  messageHex : String
  deriving DecidableEq, Repr

/-- A method with its arguments. -/
inductive Request where
  | openSession (seed : Bytes) (curve : Curve)
  | closeSession (sessionId : String)
  | signEncryptionKey (sessionId : String)
  | signUserOutput (sessionId dwalletPublicOutputHex userPublicOutputHex : String)
  | prepareDKG (sessionId : String) (args : PrepareDKGArgs)
  | signCentralizedMessage (sessionId : String) (args : SignCentralizedArgs)
  deriving DecidableEq, Repr

/-- What a method returns; `closeSession` returns nothing. -/
inductive Result where
  | undefined
  | session (session : KeySession)
  | signature (signatureHex : String)
  | dkg (output : DKGOutput)
  deriving DecidableEq, Repr

/-- An operation of the engine. The hex arguments of the library calls are decoded in them, and a text that
is no hex fails the call. -/
inductive EngineOp where
  | digest (seed : Bytes)
  | cacheGet (id : String)
  | cacheSet (id : String) (keys : UserShareEncryptionKeys)
  | cacheDelete (id : String)
  | fromRootSeedKey (seed : Bytes) (curve : Curve)
  | getEncryptionKeySignature (keys : UserShareEncryptionKeys)
  | getUserOutputSignature (keys : UserShareEncryptionKeys) (curve : Nat) (publicOutputHex userPublicOutputHex : String)
  | prepareDKGAsync (keys : UserShareEncryptionKeys) (args : PrepareDKGArgs)
  | createUserSignMessage (args : SignCentralizedArgs) (curve : Curve)

@[reducible] def EngineOp.Res : EngineOp → Type
  | .digest _ => Except Raised Bytes
  | .cacheGet _ => Option UserShareEncryptionKeys
  | .cacheSet _ _ => Unit
  | .cacheDelete _ => Unit
  | .fromRootSeedKey _ _ => Except Raised UserShareEncryptionKeys
  | .getEncryptionKeySignature _ => Except Raised Bytes
  | .getUserOutputSignature _ _ _ _ => Except Raised Bytes
  | .prepareDKGAsync _ _ => Except Raised PreparedDKG
  | .createUserSignMessage _ _ => Except Raised Bytes

abbrev EngineProg := Program EngineOp EngineOp.Res Raised

/-- `bytes[i].toString(16).padStart(2, "0")` of each byte. -/
def toHex (bytes : Bytes) : String :=
  String.ofList (bytes.flatMap (fun byte => [Nat.digitChar (byte.toNat / 16), Nat.digitChar (byte.toNat % 16)]))

def curveNumberFromKeys (keys : UserShareEncryptionKeys) : Nat :=
  match keys.curve with
  | .secp256k1 => 0
  | .secp256r1 => 1
  | .ed25519 => 2
  | .ristretto => 3

namespace InlineCryptoEngine
open Program (unwrap)

abbrev perform (op : EngineOp) : EngineProg op.Res := Program.perform op

def sessionId (seed : Bytes) (curve : Curve) : EngineProg String := do
  let digest ← unwrap (← perform (.digest seed))
  return s!"{curve.text}:{toHex digest}"

def keySession (id : String) (keys : UserShareEncryptionKeys) : KeySession :=
  ⟨id, keys.suiAddress, toHex keys.signingPublicKeyBytes, toHex keys.encryptionKey⟩

def requireKeys (sessionId : String) : EngineProg UserShareEncryptionKeys := do
  match ← perform (.cacheGet sessionId) with
  | none => throw (.error "Error" s!"unknown session {sessionId}; call openSession first")
  | some keys => return keys

def openSession (seed : Bytes) (curve : Curve) : EngineProg Result := do
  let id ← sessionId seed curve
  match ← perform (.cacheGet id) with
  | some keys => return .session (keySession id keys)
  | none =>
    let keys ← unwrap (← perform (.fromRootSeedKey seed curve))
    perform (.cacheSet id keys)
    return .session (keySession id keys)

def closeSession (sessionId : String) : EngineProg Result := do
  perform (.cacheDelete sessionId)
  return .undefined

def signEncryptionKey (sessionId : String) : EngineProg Result := do
  let keys ← requireKeys sessionId
  return .signature (toHex (← unwrap (← perform (.getEncryptionKeySignature keys))))

def signUserOutput (sessionId dwalletPublicOutputHex userPublicOutputHex : String) : EngineProg Result := do
  let keys ← requireKeys sessionId
  return .signature (toHex (← unwrap (← perform
    (.getUserOutputSignature keys (curveNumberFromKeys keys) dwalletPublicOutputHex userPublicOutputHex))))

def prepareDKG (sessionId : String) (args : PrepareDKGArgs) : EngineProg Result := do
  let keys ← requireKeys sessionId
  let dkg ← unwrap (← perform (.prepareDKGAsync keys args))
  return .dkg ⟨toHex dkg.userDKGMessage, toHex dkg.userPublicOutput, toHex dkg.encryptedUserShareAndProof,
    toHex dkg.userSecretKeyShare⟩

def signCentralizedMessage (sessionId : String) (args : SignCentralizedArgs) : EngineProg Result := do
  let keys ← requireKeys sessionId
  return .signature (toHex (← unwrap (← perform (.createUserSignMessage args keys.curve))))

/-- `dispatch` of `worker-impl.ts`. -/
def dispatch : Request → EngineProg Result
  | .openSession seed curve => openSession seed curve
  | .closeSession sessionId => closeSession sessionId
  | .signEncryptionKey sessionId => signEncryptionKey sessionId
  | .signUserOutput sessionId dwalletPublicOutputHex userPublicOutputHex =>
      signUserOutput sessionId dwalletPublicOutputHex userPublicOutputHex
  | .prepareDKG sessionId args => prepareDKG sessionId args
  | .signCentralizedMessage sessionId args => signCentralizedMessage sessionId args

end InlineCryptoEngine
end MpcKit.Sdk
