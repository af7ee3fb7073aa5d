import MpcKit.Core.Auth

/-! The coordinator is another package. The modules below are proved for every coordinator: its
state, caps and approvals are arbitrary types and its functions arbitrary, except that a payment
coin handed to it comes back with at most the value it had. -/

namespace MpcKit.Core

/-- The values of the two coins an entry pays with. -/
structure Payment where
  ika : UInt64
  sui : UInt64
  deriving DecidableEq

/-- The result of a call that was handed `given`, with what is left in the coins. -/
structure Paid (given : Payment) (α : Type) where
  value : α
  left : Payment
  ika_le : left.ika.toNat ≤ given.ika.toNat
  sui_le : left.sui.toNat ≤ given.sui.toNat

namespace Paid

variable {given : Payment} {α : Type}

def ikaFee (paid : Paid given α) : Nat := given.ika.toNat - paid.left.ika.toNat
def suiFee (paid : Paid given α) : Nat := given.sui.toNat - paid.left.sui.toNat

def map {β : Type} (f : α → β) (paid : Paid given α) : Paid given β := { paid with value := f paid.value }

@[simp] theorem value_map {β : Type} (f : α → β) (paid : Paid given α) : (paid.map f).value = f paid.value := rfl

@[simp] theorem left_map {β : Type} (f : α → β) (paid : Paid given α) : (paid.map f).left = paid.left := rfl

end Paid

/-- `ika_dwallet_2pc_mpc::coordinator`, with the state first and the new state last. The optional
sign request of the DKG functions is always `none` here and left out. -/
structure Coordinator where
  State : Type
  DWalletCap : Type
  ImportedKeyDWalletCap : Type
  SessionIdentifier : Type
  UnverifiedPresignCap : Type
  VerifiedPresignCap : Type
  MessageApproval : Type
  ImportedKeyMessageApproval : Type
  UnverifiedPartialUserSignatureCap : Type
  VerifiedPartialUserSignatureCap : Type
  /-- `cap.dwallet_id()` -/
  dwalletId : DWalletCap → ID
  /-- `cap.imported_key_dwallet_id()` -/
  importedKeyDwalletId : ImportedKeyDWalletCap → ID
  registerSessionIdentifier : State → Bytes → TxContext → Except Abort (SessionIdentifier × State)
  verifyPresignCap : State → UnverifiedPresignCap → TxContext → Except Abort (VerifiedPresignCap × State)
  approveMessage : State → DWalletCap → (signatureAlgorithm hashScheme : UInt32) → (message : Bytes) →
    Except Abort (MessageApproval × State)
  approveImportedKeyMessage : State → ImportedKeyDWalletCap → (signatureAlgorithm hashScheme : UInt32) →
    (message : Bytes) → Except Abort (ImportedKeyMessageApproval × State)
  requestSignAndReturnId : State → VerifiedPresignCap → MessageApproval → (centralizedSignature : Bytes) →
    SessionIdentifier → (payment : Payment) → TxContext → Except Abort (Paid payment (ID × State))
  requestImportedKeySignAndReturnId : State → VerifiedPresignCap → ImportedKeyMessageApproval →
    (centralizedSignature : Bytes) → SessionIdentifier → (payment : Payment) → TxContext →
    Except Abort (Paid payment (ID × State))
  requestFutureSign : State → (dwalletId : ID) → VerifiedPresignCap → (message : Bytes) → (hashScheme : UInt32) →
    (centralizedSignature : Bytes) → SessionIdentifier → (payment : Payment) → TxContext →
    Except Abort (Paid payment (UnverifiedPartialUserSignatureCap × State))
  verifyPartialUserSignatureCap : State → UnverifiedPartialUserSignatureCap → TxContext →
    Except Abort (VerifiedPartialUserSignatureCap × State)
  requestSignWithPartialUserSignatureAndReturnId : State → VerifiedPartialUserSignatureCap → MessageApproval →
    SessionIdentifier → (payment : Payment) → TxContext → Except Abort (Paid payment (ID × State))
  requestDwalletDkg : State → (networkEncryptionKeyId : ID) → (curve : UInt32) →
    (centralizedPublicKeyShareAndProof encryptedCentralizedSecretShareAndProof : Bytes) →
    (encryptionKeyAddress : Address) → (userPublicOutput signerPublicKey : Bytes) → SessionIdentifier →
    (payment : Payment) → TxContext → Except Abort (Paid payment (DWalletCap × State))
  requestDwalletDkgWithPublicUserSecretKeyShare : State → (networkEncryptionKeyId : ID) → (curve : UInt32) →
    (centralizedPublicKeyShareAndProof userPublicOutput publicUserSecretKeyShare : Bytes) → SessionIdentifier →
    (payment : Payment) → TxContext → Except Abort (Paid payment (DWalletCap × State))
  requestImportedKeyDwalletVerification : State → (networkEncryptionKeyId : ID) → (curve : UInt32) →
    (centralizedPartyMessage encryptedCentralizedSecretShareAndProof : Bytes) → (encryptionKeyAddress : Address) →
    (userPublicOutput signerPublicKey : Bytes) → SessionIdentifier → (payment : Payment) → TxContext →
    Except Abort (Paid payment (ImportedKeyDWalletCap × State))
  acceptEncryptedUserShare : State → (dwalletId encryptedUserSecretKeyShareId : ID) →
    (userOutputSignature : Bytes) → Except Abort State
  requestGlobalPresign : State → (networkEncryptionKeyId : ID) → (curve signatureAlgorithm : UInt32) →
    SessionIdentifier → (payment : Payment) → TxContext → Except Abort (Paid payment (UnverifiedPresignCap × State))

end MpcKit.Core
