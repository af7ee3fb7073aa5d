import MpcKit.Core.Chain
import MpcKit.Encoding.Codec
import MpcKit.Transact.Ptb

/-! The package as transaction blocks reach it. A public function is found by its target, its
arguments are read at the types of its parameters in `treasury.move` and `dkg.move`, and presign caps
are objects that somebody owns. -/

namespace MpcKit.Core
open MpcKit.Transact MpcKit.Encoding

variable (c : Coordinator)

structure OwnedCap where
  id : ID
  owner : Address
  cap : c.UnverifiedPresignCap

/-- A network: the package with its objects, and the caps that were minted and not used. -/
structure Network where
  chain : Chain c
  caps : List (OwnedCap c)

/-- The arguments of `pay_sign_zero_trust` that are values. -/
structure SignOrder where
  dwalletId : ID
  signatureAlgorithm : UInt32
  hashScheme : UInt32
  message : Bytes
  messageCentralizedSignature : Bytes
  sessionIdentifierBytes : Bytes
  deriving DecidableEq

deriving instance DecidableEq for DkgArgs

/-- The functions the backend calls, with the objects as ids. -/
inductive Entry where
  | payRegisterAndDkgZeroTrust (operator : ID) (args : DkgArgs)
  | payDkgZeroTrust (operator account : ID) (args : DkgArgs)
  | acceptUserShare (account dwalletId encryptedUserSecretKeyShareId : ID) (userOutputSignature : Bytes)
  | payPresign (operator networkEncryptionKeyId : ID) (curve signatureAlgorithm : UInt32)
      (sessionIdentifierBytes : Bytes) (recipient : Address)
  | paySignZeroTrust (operator account presignCap : ID) (order : SignOrder)
  deriving DecidableEq

variable {c}

def SignOrder.args (order : SignOrder) (presignCap : c.UnverifiedPresignCap) : SignArgs c where
  dwalletId := order.dwalletId
  presignCap := presignCap
  signatureAlgorithm := order.signatureAlgorithm
  hashScheme := order.hashScheme
  message := order.message
  messageCentralizedSignature := order.messageCentralizedSignature
  sessionIdentifierBytes := order.sessionIdentifierBytes

namespace Network

/-- An object handed over by value has to belong to the sender. -/
def own (network : Network c) (sender : Address) (id : ID) : Except Abort (OwnedCap c) :=
  match network.caps.find? (fun owned => owned.id = id ∧ owned.owner = sender) with
  | some owned => .ok owned
  | none => .error .noSuchTransaction

def exec (natives : Natives) (network : Network c) (input : Tx × Entry) : Except Abort (Receipt c × Network c) :=
  match input.2 with
  | .payRegisterAndDkgZeroTrust operator args => do
    let (receipt, chain) ← network.chain.exec natives (input.1, .payRegisterAndDkgZeroTrust operator args)
    pure (receipt, { network with chain })
  | .payDkgZeroTrust operator account args => do
    let (receipt, chain) ← network.chain.exec natives (input.1, .payDkgZeroTrust operator account args)
    pure (receipt, { network with chain })
  | .acceptUserShare account dwalletId shareId signature => do
    let (receipt, chain) ← network.chain.exec natives (input.1, .acceptUserShare account dwalletId shareId signature)
    pure (receipt, { network with chain })
  | .payPresign operator networkEncryptionKeyId curve signatureAlgorithm session recipient => do
    let (receipt, chain) ← network.chain.exec natives
      (input.1, .payPresign operator networkEncryptionKeyId curve signatureAlgorithm session)
    -- The call that just went through, for the cap that it transfers to the recipient.
    let minted ← network.chain.treasury.payPresign network.chain.state input.1.ctx networkEncryptionKeyId curve
      signatureAlgorithm session
    pure (receipt, ⟨chain, ⟨input.1.wrapperId, recipient, minted.value.1⟩ :: network.caps⟩)
  | .paySignZeroTrust operator account presignCap order => do
    let owned ← network.own input.1.ctx.sender presignCap
    let (receipt, chain) ← network.chain.exec natives (input.1, .paySignZeroTrust operator account (order.args owned.cap))
    pure (receipt, ⟨chain, network.caps.filter (fun other => other.id ≠ presignCap)⟩)

end Network

/-! ### Reading a block -/

/-- An id and an address are the same 32 bytes. -/
def addressCodec : Codec Address :=
  (Codec.fixed 32).via (fun address => ⟨address.bytes, address.length_bytes⟩) (fun bytes => ⟨bytes.val, bytes.property⟩)
    (fun _ => rfl)

/-- Where the package was published. -/
structure Deployment where
  package : String
  treasury : ID
  coordinator : ID

namespace Deployment

abbrev Argument := Operand (Option ID)

def object : Argument → Option ID
  | .object id => id
  | .pure _ => none

def value {α : Type} (codec : Codec α) : Argument → Option α
  | .object _ => none
  | .pure bytes => codec.parseAll bytes

def shared (id : ID) (argument : Argument) : Option Unit := if object argument = some id then some () else none

section
variable (deployment : Deployment)

def dkgArgs (networkEncryptionKeyId curve share secretShare address output signer session : Argument) :
    Option DkgArgs := do
  let networkEncryptionKeyId ← value addressCodec networkEncryptionKeyId
  let curve ← value Codec.u32 curve
  let centralizedPublicKeyShareAndProof ← value Codec.bytes share
  let encryptedCentralizedSecretShareAndProof ← value Codec.bytes secretShare
  let encryptionKeyAddress ← value addressCodec address
  let userPublicOutput ← value Codec.bytes output
  let signerPublicKey ← value Codec.bytes signer
  let sessionIdentifierBytes ← value Codec.bytes session
  return { networkEncryptionKeyId, curve, centralizedPublicKeyShareAndProof, encryptedCentralizedSecretShareAndProof,
           encryptionKeyAddress, userPublicOutput, signerPublicKey, sessionIdentifierBytes }

def payRegisterAndDkgZeroTrust : List Argument → Option Entry
  | [t, operator, coordinator, key, curve, share, secretShare, address, output, signer, session] => do
    shared deployment.treasury t
    shared deployment.coordinator coordinator
    return .payRegisterAndDkgZeroTrust (← object operator)
      (← dkgArgs key curve share secretShare address output signer session)
  | _ => none

def payDkgZeroTrust : List Argument → Option Entry
  | [t, operator, account, coordinator, key, curve, share, secretShare, address, output, signer, session] => do
    shared deployment.treasury t
    shared deployment.coordinator coordinator
    return .payDkgZeroTrust (← object operator) (← object account)
      (← dkgArgs key curve share secretShare address output signer session)
  | _ => none

def acceptUserShare : List Argument → Option Entry
  | [account, coordinator, dwalletId, shareId, signature] => do
    shared deployment.coordinator coordinator
    return .acceptUserShare (← object account) (← value addressCodec dwalletId) (← value addressCodec shareId)
      (← value Codec.bytes signature)
  | _ => none

def payPresign : List Argument → Option Entry
  | [t, operator, coordinator, key, curve, algorithm, session, recipient] => do
    shared deployment.treasury t
    shared deployment.coordinator coordinator
    return .payPresign (← object operator) (← value addressCodec key) (← value Codec.u32 curve)
      (← value Codec.u32 algorithm) (← value Codec.bytes session) (← value addressCodec recipient)
  | _ => none

def paySignZeroTrust : List Argument → Option Entry
  | [t, operator, account, coordinator, dwalletId, cap, algorithm, scheme, message, signature, session] => do
    shared deployment.treasury t
    shared deployment.coordinator coordinator
    return .paySignZeroTrust (← object operator) (← object account) (← object cap) {
      dwalletId := ← value addressCodec dwalletId
      signatureAlgorithm := ← value Codec.u32 algorithm
      hashScheme := ← value Codec.u32 scheme
      message := ← value Codec.bytes message
      messageCentralizedSignature := ← value Codec.bytes signature
      sessionIdentifierBytes := ← value Codec.bytes session }
  | _ => none

/-- What a Move call stands for, unless it cannot be made. -/
def entry (call : MoveCall (Option ID)) : Option Entry :=
  if call.1 = deployment.package ++ "::treasury::pay_register_and_dkg_zero_trust" then
    deployment.payRegisterAndDkgZeroTrust call.2
  else if call.1 = deployment.package ++ "::treasury::pay_dkg_zero_trust" then deployment.payDkgZeroTrust call.2
  else if call.1 = deployment.package ++ "::dkg::accept_user_share" then deployment.acceptUserShare call.2
  else if call.1 = deployment.package ++ "::treasury::pay_presign" then deployment.payPresign call.2
  else if call.1 = deployment.package ++ "::treasury::pay_sign_zero_trust" then deployment.paySignZeroTrust call.2
  else none

def entries : List (MoveCall (Option ID)) → Option (List Entry)
  | [] => some []
  | call :: calls => do return (← deployment.entry call) :: (← entries calls)

end

end Deployment

/-- A block on the network: all of its calls, or an abort. Each call has its own new ids. -/
def Network.run (natives : Natives) (deployment : Deployment) (network : Network c) (txs : List Tx)
    (block : Option (List (MoveCall (Option ID)))) : Except Abort (List (Receipt c) × Network c) :=
  match block.bind deployment.entries with
  | none => .error .noSuchTransaction
  | some entries =>
    if txs.length = entries.length then all (exec natives) network (txs.zip entries) else .error .noSuchTransaction

end MpcKit.Core
