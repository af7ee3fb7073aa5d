import MpcKit.Core.Account

/-! The entries that go through the coordinator: key generation, imported keys and signing. Next to
its result each one records what it verified, which approvals it obtained and which caps it got. -/

namespace MpcKit.Core

variable (c : Coordinator)

inductive Event where
  | verified (passed : Verified)
  /-- A `MessageApproval` was produced for the cap. -/
  | approved (cap : c.DWalletCap) (signatureAlgorithm hashScheme : UInt32) (message : Bytes)
  | approvedImportedKey (cap : c.ImportedKeyDWalletCap) (signatureAlgorithm hashScheme : UInt32) (message : Bytes)
  /-- The coordinator returned the cap. -/
  | received (cap : c.DWalletCap)
  | receivedImportedKey (cap : c.ImportedKeyDWalletCap)
  /-- `SignRequested` -/
  | signRequested (signId dwalletId : ID) (signatureAlgorithm hashScheme : UInt32)

/-- What an entry leaves behind. -/
structure Entered (α : Type) where
  value : α
  account : Account c
  state : c.State
  events : List (Event c)

/-- The arguments the three ways to sign have in common. -/
structure SignArgs where
  dwalletId : ID
  presignCap : c.UnverifiedPresignCap
  signatureAlgorithm : UInt32
  hashScheme : UInt32
  message : Bytes
  messageCentralizedSignature : Bytes
  sessionIdentifierBytes : Bytes

structure FutureSignArgs where
  dwalletId : ID
  presignCap : c.UnverifiedPresignCap
  hashScheme : UInt32
  message : Bytes
  messageCentralizedSignature : Bytes
  sessionIdentifierBytes : Bytes

structure CompleteSignArgs where
  dwalletId : ID
  partialCap : c.VerifiedPartialUserSignatureCap
  signatureAlgorithm : UInt32
  hashScheme : UInt32
  message : Bytes
  sessionIdentifierBytes : Bytes

structure DkgArgs where
  networkEncryptionKeyId : ID
  curve : UInt32
  centralizedPublicKeyShareAndProof : Bytes
  encryptedCentralizedSecretShareAndProof : Bytes
  encryptionKeyAddress : Address
  userPublicOutput : Bytes
  signerPublicKey : Bytes
  sessionIdentifierBytes : Bytes

structure SharedDkgArgs where
  networkEncryptionKeyId : ID
  curve : UInt32
  centralizedPublicKeyShareAndProof : Bytes
  userPublicOutput : Bytes
  publicUserSecretKeyShare : Bytes
  initialCredentials : List NewCredential
  threshold : UInt64
  sessionIdentifierBytes : Bytes

structure ImportArgs where
  networkEncryptionKeyId : ID
  curve : UInt32
  centralizedPartyMessage : Bytes
  encryptedCentralizedSecretShareAndProof : Bytes
  encryptionKeyAddress : Address
  userPublicOutput : Bytes
  signerPublicKey : Bytes
  sessionIdentifierBytes : Bytes

variable {c}

/-! ### `dkg` -/

namespace dkg

def eDWalletNotInAccount : Abort := .failed .dkg 1

def requestDkgZeroTrust (account : Account c) (state : c.State) (args : DkgArgs) (newId : ID) (payment : Payment)
    (ctx : TxContext) : Except Abort (Paid payment (Entered c Unit)) := do
  let (session, state) ← c.registerSessionIdentifier state args.sessionIdentifierBytes ctx
  let paid ← c.requestDwalletDkg state args.networkEncryptionKeyId args.curve
    args.centralizedPublicKeyShareAndProof args.encryptedCentralizedSecretShareAndProof args.encryptionKeyAddress
    args.userPublicOutput args.signerPublicKey session payment ctx
  let cap := paid.value.1
  let account ← account.storeDwalletCap (c.dwalletId cap) cap newId
  pure (paid.map fun result => ⟨(), account, result.2, [.received cap]⟩)

def acceptUserShare (account : Account c) (state : c.State) (dwalletId encryptedUserSecretKeyShareId : ID)
    (userOutputSignature : Bytes) : Except Abort c.State := do
  assert (account.hasDwallet dwalletId) eDWalletNotInAccount
  c.acceptEncryptedUserShare state dwalletId encryptedUserSecretKeyShareId userOutputSignature

def requestDkgShared (account : Account c) (state : c.State) (args : SharedDkgArgs) (newId : ID) (payment : Payment)
    (ctx : TxContext) : Except Abort (Paid payment (Entered c Unit)) := do
  let (session, state) ← c.registerSessionIdentifier state args.sessionIdentifierBytes ctx
  let paid ← c.requestDwalletDkgWithPublicUserSecretKeyShare state args.networkEncryptionKeyId args.curve
    args.centralizedPublicKeyShareAndProof args.userPublicOutput args.publicUserSecretKeyShare session payment ctx
  let cap := paid.value.1
  let account ← account.storeSharedDwalletCap (c.dwalletId cap) cap args.initialCredentials args.threshold newId
  pure (paid.map fun result => ⟨(), account, result.2, [.received cap]⟩)

end dkg

/-! ### `imported_key` -/

namespace importedKey

def eDWalletNotInAccount : Abort := .failed .importedKey 1

def requestImportedKeyDwalletVerification (account : Account c) (state : c.State) (args : ImportArgs) (newId : ID)
    (payment : Payment) (ctx : TxContext) : Except Abort (Paid payment (Entered c Unit)) := do
  let (session, state) ← c.registerSessionIdentifier state args.sessionIdentifierBytes ctx
  let paid ← c.requestImportedKeyDwalletVerification state args.networkEncryptionKeyId args.curve
    args.centralizedPartyMessage args.encryptedCentralizedSecretShareAndProof args.encryptionKeyAddress
    args.userPublicOutput args.signerPublicKey session payment ctx
  let cap := paid.value.1
  let account ← account.storeImportedKeyCap (c.importedKeyDwalletId cap) cap newId
  pure (paid.map fun result => ⟨(), account, result.2, [.receivedImportedKey cap]⟩)

def requestImportedKeySign (account : Account c) (state : c.State) (args : SignArgs c) (payment : Payment)
    (ctx : TxContext) : Except Abort (Paid payment (Entered c ID)) := do
  assert (account.hasImportedKeyDwallet args.dwalletId) eDWalletNotInAccount
  let (verified, state) ← c.verifyPresignCap state args.presignCap ctx
  let cap ← account.importedKeyCap args.dwalletId
  let (approval, state) ←
    c.approveImportedKeyMessage state cap args.signatureAlgorithm args.hashScheme args.message
  let (session, state) ← c.registerSessionIdentifier state args.sessionIdentifierBytes ctx
  let paid ← c.requestImportedKeySignAndReturnId state verified approval args.messageCentralizedSignature session
    payment ctx
  pure (paid.map fun result =>
    ⟨result.1, account, result.2, [.approvedImportedKey cap args.signatureAlgorithm args.hashScheme args.message]⟩)

end importedKey

/-! ### `sign` -/

namespace sign

def eDWalletNotInAccount : Abort := .failed .sign 1

def requestSignZeroTrust (account : Account c) (state : c.State) (args : SignArgs c) (payment : Payment)
    (ctx : TxContext) : Except Abort (Paid payment (Entered c ID)) := do
  assert (account.hasDwallet args.dwalletId) eDWalletNotInAccount
  let (verified, state) ← c.verifyPresignCap state args.presignCap ctx
  let cap ← account.dwalletCap args.dwalletId
  let (approval, state) ← c.approveMessage state cap args.signatureAlgorithm args.hashScheme args.message
  let (session, state) ← c.registerSessionIdentifier state args.sessionIdentifierBytes ctx
  let paid ← c.requestSignAndReturnId state verified approval args.messageCentralizedSignature session payment ctx
  pure (paid.map fun result =>
    ⟨result.1, account, result.2, [.approved cap args.signatureAlgorithm args.hashScheme args.message,
      .signRequested result.1 args.dwalletId args.signatureAlgorithm args.hashScheme]⟩)

section
variable (natives : Natives) (account : Account c) (signingCredentials : List Credential) (state : c.State)

def requestSignShared (args : SignArgs c) (payment : Payment) (ctx : TxContext) :
    Except Abort (Paid payment (Entered c ID)) := do
  assert (account.hasSharedDwallet args.dwalletId) eDWalletNotInAccount
  let payload := signPayloadDigest natives args.signatureAlgorithm args.hashScheme args.message
  let storedUid ← account.storedSharedUidBytes args.dwalletId
  let nonce ← account.storedSharedNonce args.dwalletId
  let challenge := challenges.requestSign natives storedUid nonce payload
  let (account, passed) ←
    account.authorizeSharedAndBumpNonce natives args.dwalletId signingCredentials challenge ctx
  let (verified, state) ← c.verifyPresignCap state args.presignCap ctx
  let cap ← account.sharedDwalletCap args.dwalletId
  let (approval, state) ← c.approveMessage state cap args.signatureAlgorithm args.hashScheme args.message
  let (session, state) ← c.registerSessionIdentifier state args.sessionIdentifierBytes ctx
  let paid ← c.requestSignAndReturnId state verified approval args.messageCentralizedSignature session payment ctx
  pure (paid.map fun result =>
    ⟨result.1, account, result.2,
      [.verified passed, .approved cap args.signatureAlgorithm args.hashScheme args.message]⟩)

def requestFutureSign (args : FutureSignArgs c) (payment : Payment) (ctx : TxContext) :
    Except Abort (Paid payment (Entered c c.UnverifiedPartialUserSignatureCap)) := do
  assert (account.hasSharedDwallet args.dwalletId) eDWalletNotInAccount
  let payload := futureSignPayloadDigest natives args.hashScheme args.message
  let storedUid ← account.storedSharedUidBytes args.dwalletId
  let nonce ← account.storedSharedNonce args.dwalletId
  let challenge := challenges.requestFutureSign natives storedUid nonce payload
  let (account, passed) ←
    account.authorizeSharedAndBumpNonce natives args.dwalletId signingCredentials challenge ctx
  let (verified, state) ← c.verifyPresignCap state args.presignCap ctx
  let (session, state) ← c.registerSessionIdentifier state args.sessionIdentifierBytes ctx
  let paid ← c.requestFutureSign state args.dwalletId verified args.message args.hashScheme
    args.messageCentralizedSignature session payment ctx
  pure (paid.map fun result => ⟨result.1, account, result.2, [.verified passed]⟩)

def completeFutureSign (args : CompleteSignArgs c) (payment : Payment) (ctx : TxContext) :
    Except Abort (Paid payment (Entered c ID)) := do
  assert (account.hasSharedDwallet args.dwalletId) eDWalletNotInAccount
  let payload := signPayloadDigest natives args.signatureAlgorithm args.hashScheme args.message
  let storedUid ← account.storedSharedUidBytes args.dwalletId
  let nonce ← account.storedSharedNonce args.dwalletId
  let challenge := challenges.completeFutureSign natives storedUid nonce payload
  let (account, passed) ←
    account.authorizeSharedAndBumpNonce natives args.dwalletId signingCredentials challenge ctx
  let cap ← account.sharedDwalletCap args.dwalletId
  let (approval, state) ← c.approveMessage state cap args.signatureAlgorithm args.hashScheme args.message
  let (session, state) ← c.registerSessionIdentifier state args.sessionIdentifierBytes ctx
  let paid ← c.requestSignWithPartialUserSignatureAndReturnId state args.partialCap approval session payment ctx
  pure (paid.map fun result =>
    ⟨result.1, account, result.2,
      [.verified passed, .approved cap args.signatureAlgorithm args.hashScheme args.message]⟩)

end

end sign

end MpcKit.Core
