import MpcKit.Core.Coordinator

/-! Accounts: the caps of one user, and for each shared wallet its roster, threshold and nonce. -/

namespace MpcKit.Core

variable (c : Coordinator)

structure StoredDWallet where
  id : ID
  cap : c.DWalletCap

structure StoredSharedDWallet where
  id : ID
  cap : c.DWalletCap
  /-- Each entry is `[scheme, ...pubkey_or_address]`. -/
  credentials : VecSet Bytes
  threshold : UInt64
  nonce : UInt64

structure StoredImportedKeyDWallet where
  id : ID
  cap : c.ImportedKeyDWalletCap

/-- The dynamic object fields of an account. The three key types `DWalletKey`, `SharedDWalletKey` and
`ImportedKeyDWalletKey` wrap one dwallet id each and never name the same field. -/
structure Account where
  dwallets : ID → Option (StoredDWallet c)
  shared : ID → Option (StoredSharedDWallet c)
  importedKeys : ID → Option (StoredImportedKeyDWallet c)

variable {c}

/-- What a `verify_threshold` that went through was called with, and on which wrapper. -/
structure Verified where
  uid : ID
  nonce : UInt64
  roster : VecSet Bytes
  threshold : UInt64
  challenge : Bytes

namespace Account

def putDwallet (account : Account c) (dwalletId : ID) (stored : StoredDWallet c) : Account c :=
  { account with dwallets := fun id => if id = dwalletId then some stored else account.dwallets id }

def putShared (account : Account c) (dwalletId : ID) (stored : StoredSharedDWallet c) : Account c :=
  { account with shared := fun id => if id = dwalletId then some stored else account.shared id }

def putImportedKey (account : Account c) (dwalletId : ID) (stored : StoredImportedKeyDWallet c) : Account c :=
  { account with importedKeys := fun id => if id = dwalletId then some stored else account.importedKeys id }

def hasDwallet (account : Account c) (dwalletId : ID) : Bool := (account.dwallets dwalletId).isSome
def hasSharedDwallet (account : Account c) (dwalletId : ID) : Bool := (account.shared dwalletId).isSome
def hasImportedKeyDwallet (account : Account c) (dwalletId : ID) : Bool := (account.importedKeys dwalletId).isSome

/-! ### Reading -/

def maxCredentials : Nat := 16

def eCredentialAlreadyExists : Abort := .failed .account 1
def eTooManyCredentials : Abort := .failed .account 2
def eCredentialNotFound : Abort := .failed .account 3
def eThresholdInvalid : Abort := .failed .account 4
def eRemovalUnderflowsThreshold : Abort := .failed .account 5
def eThresholdAboveRoster : Abort := .failed .account 6
def eDWalletAlreadyStored : Abort := .failed .account 7
def eDWalletNotStored : Abort := .failed .account 8
def eEmptyInitialCredentials : Abort := .failed .account 9

/-- `dof::exists_with_type` and then `dof::borrow`. -/
def borrow {α : Type} : Option α → Except Abort α
  | some stored => pure stored
  | none => throw eDWalletNotStored

def borrowShared (account : Account c) (dwalletId : ID) : Except Abort (StoredSharedDWallet c) :=
  borrow (account.shared dwalletId)

def dwalletCap (account : Account c) (dwalletId : ID) : Except Abort c.DWalletCap := do
  let stored ← borrow (account.dwallets dwalletId)
  pure stored.cap

def sharedDwalletCap (account : Account c) (dwalletId : ID) : Except Abort c.DWalletCap := do
  let stored ← account.borrowShared dwalletId
  pure stored.cap

def importedKeyCap (account : Account c) (dwalletId : ID) : Except Abort c.ImportedKeyDWalletCap := do
  let stored ← borrow (account.importedKeys dwalletId)
  pure stored.cap

def wrapperUidBytes (stored : StoredSharedDWallet c) : Bytes := stored.id.bytes

def storedSharedUidBytes (account : Account c) (dwalletId : ID) : Except Abort Bytes := do
  let stored ← account.borrowShared dwalletId
  pure (wrapperUidBytes stored)

def storedSharedNonce (account : Account c) (dwalletId : ID) : Except Abort UInt64 := do
  let stored ← account.borrowShared dwalletId
  pure stored.nonce

/-! ### Roster operations -/

section
variable (natives : Natives) (account : Account c) (dwalletId : ID)

def addCredential (newCredential : NewCredential) (signingCredentials : List Credential) (ctx : TxContext) :
    Except Abort (Account c × Verified) := do
  auth.assertPubkeyLength newCredential
  let stored ← account.borrowShared dwalletId
  assert (stored.credentials.length < maxCredentials) eTooManyCredentials
  assert (¬auth.isAlreadyRegistered newCredential stored.credentials) eCredentialAlreadyExists
  let newId := auth.newCredentialIdBytes newCredential
  let challenge := challenges.addCredential natives (wrapperUidBytes stored) stored.nonce newId
  auth.verifyThreshold natives stored.credentials challenge ctx signingCredentials stored.threshold
  let credentials ← auth.insertCredential newCredential stored.credentials
  let nonce ← checkedAdd stored.nonce 1
  pure (account.putShared dwalletId { stored with credentials, nonce },
    ⟨stored.id, stored.nonce, stored.credentials, stored.threshold, challenge⟩)

def removeCredential (targetCredentialId : Bytes) (signingCredentials : List Credential) (ctx : TxContext) :
    Except Abort (Account c × Verified) := do
  let stored ← account.borrowShared dwalletId
  assert (stored.credentials.contains targetCredentialId) eCredentialNotFound
  assert (stored.threshold.toNat < stored.credentials.length) eRemovalUnderflowsThreshold
  let challenge := challenges.removeCredential natives (wrapperUidBytes stored) stored.nonce targetCredentialId
  auth.verifyThreshold natives stored.credentials challenge ctx signingCredentials stored.threshold
  let credentials ← auth.removeCredential targetCredentialId stored.credentials
  let nonce ← checkedAdd stored.nonce 1
  pure (account.putShared dwalletId { stored with credentials, nonce },
    ⟨stored.id, stored.nonce, stored.credentials, stored.threshold, challenge⟩)

def setThreshold (newThreshold : UInt64) (signingCredentials : List Credential) (ctx : TxContext) :
    Except Abort (Account c × Verified) := do
  let stored ← account.borrowShared dwalletId
  assert (1 ≤ newThreshold.toNat) eThresholdInvalid
  assert (newThreshold.toNat ≤ stored.credentials.length) eThresholdAboveRoster
  let challenge := challenges.setThreshold natives (wrapperUidBytes stored) stored.nonce newThreshold
  auth.verifyThreshold natives stored.credentials challenge ctx signingCredentials stored.threshold
  let nonce ← checkedAdd stored.nonce 1
  pure (account.putShared dwalletId { stored with threshold := newThreshold, nonce },
    ⟨stored.id, stored.nonce, stored.credentials, stored.threshold, challenge⟩)

/-- The challenge comes from the caller, which read the uid and the nonce before. -/
def authorizeSharedAndBumpNonce (signingCredentials : List Credential) (challenge : Bytes) (ctx : TxContext) :
    Except Abort (Account c × Verified) := do
  let stored ← account.borrowShared dwalletId
  auth.verifyThreshold natives stored.credentials challenge ctx signingCredentials stored.threshold
  let nonce ← checkedAdd stored.nonce 1
  pure (account.putShared dwalletId { stored with nonce },
    ⟨stored.id, stored.nonce, stored.credentials, stored.threshold, challenge⟩)

end

/-! ### Storing caps -/

/-- The popping loop of `build_initial_roster`. -/
def insertEach : List NewCredential → VecSet Bytes → Except Abort (VecSet Bytes)
  | [], set => pure set
  | credential :: rest, set => do
    auth.assertPubkeyLength credential
    assert (¬auth.isAlreadyRegistered credential set) eCredentialAlreadyExists
    let set ← auth.insertCredential credential set
    insertEach rest set

def buildInitialRoster (creds : List NewCredential) (threshold : UInt64) : Except Abort (VecSet Bytes) := do
  assert (0 < creds.length) eEmptyInitialCredentials
  assert (creds.length ≤ maxCredentials) eTooManyCredentials
  assert (1 ≤ threshold.toNat) eThresholdInvalid
  assert (threshold.toNat ≤ creds.length) eThresholdAboveRoster
  insertEach creds.reverse VecSet.empty

section
variable (account : Account c) (dwalletId : ID)

def storeDwalletCap (cap : c.DWalletCap) (newId : ID) : Except Abort (Account c) := do
  assert (¬account.hasDwallet dwalletId) eDWalletAlreadyStored
  pure (account.putDwallet dwalletId ⟨newId, cap⟩)

def storeSharedDwalletCap (cap : c.DWalletCap) (initialCredentials : List NewCredential) (threshold : UInt64)
    (newId : ID) : Except Abort (Account c) := do
  assert (¬account.hasSharedDwallet dwalletId) eDWalletAlreadyStored
  let credentials ← buildInitialRoster initialCredentials threshold
  pure (account.putShared dwalletId ⟨newId, cap, credentials, threshold, 0⟩)

def storeImportedKeyCap (cap : c.ImportedKeyDWalletCap) (newId : ID) : Except Abort (Account c) := do
  assert (¬account.hasImportedKeyDwallet dwalletId) eDWalletAlreadyStored
  pure (account.putImportedKey dwalletId ⟨newId, cap⟩)

end

/-- `register_account`: no fields yet. -/
def registerAccount : Account c := ⟨fun _ => none, fun _ => none, fun _ => none⟩

end Account

end MpcKit.Core
