import MpcKit.Core.Entries

/-! What a successful operation on a shared wallet did: which wrapper it read, what it had verified
and how it changed the roster. -/

namespace MpcKit.Core

variable {c : Coordinator}

/-- A scheme byte and a key or address of the scheme's length. -/
def IdShape : Bytes → Prop
  | [] => False
  | scheme :: key => (scheme ∈ [0, 4] ∧ key.length = 32) ∨ (scheme ∈ [1, 2, 3] ∧ key.length = 33)

theorem idShape_of_assertPubkeyLength {credential : NewCredential} {result : Unit}
    (checked : auth.assertPubkeyLength credential = .ok result) :
    IdShape (auth.newCredentialIdBytes credential) := by
  cases credential with
  | ed25519 key => exact .inl ⟨by decide, assert_eq_ok.mp checked⟩
  | secp256k1 key => exact .inr ⟨by decide, assert_eq_ok.mp checked⟩
  | secp256r1 key => exact .inr ⟨by decide, assert_eq_ok.mp checked⟩
  | webAuthn key => exact .inr ⟨by decide, assert_eq_ok.mp checked⟩
  | senderAddress address => exact .inl ⟨by decide, address.length_bytes⟩

/-- What an operation has checked and changed of the roster. -/
def RosterChange (before after : StoredSharedDWallet c) : SharedOp → Prop
  | .addCredential id =>
    IdShape id ∧ before.credentials.length < Account.maxCredentials ∧ id ∉ before.credentials.contents ∧
      after.credentials.contents = before.credentials.contents ++ [id] ∧ after.threshold = before.threshold
  | .removeCredential id =>
    id ∈ before.credentials.contents ∧ before.threshold.toNat < before.credentials.length ∧
      before.credentials.remove id = .ok after.credentials ∧ after.threshold = before.threshold
  | .setThreshold threshold =>
    1 ≤ threshold.toNat ∧ threshold.toNat ≤ before.credentials.length ∧
      after.credentials = before.credentials ∧ after.threshold = threshold
  | .requestSign .. => after.credentials = before.credentials ∧ after.threshold = before.threshold
  | .requestFutureSign .. => after.credentials = before.credentials ∧ after.threshold = before.threshold
  | .completeFutureSign .. => after.credentials = before.credentials ∧ after.threshold = before.threshold

/-- What verifying `op` on the wrapper as it stands looks at. -/
def StoredSharedDWallet.verifying (natives : Natives) (op : SharedOp) (stored : StoredSharedDWallet c) : Verified :=
  ⟨stored.id, stored.nonce, stored.credentials, stored.threshold, op.challenge natives stored.id stored.nonce⟩

/-- An operation went through on the wrapper `before` and left `after` in its place. -/
structure Operates (natives : Natives) (op : SharedOp) (signers : List Credential) (ctx : TxContext)
    (before after : StoredSharedDWallet c) : Prop where
  id_eq : after.id = before.id
  cap_eq : after.cap = before.cap
  nonce_eq : after.nonce.toNat = before.nonce.toNat + 1
  roster : RosterChange before after op
  verified : auth.verifyThreshold natives before.credentials (op.challenge natives before.id before.nonce) ctx
    signers before.threshold = .ok ()

/-- The account after the operation, together with what it verified. -/
def Operated (natives : Natives) (op : SharedOp) (signers : List Credential) (ctx : TxContext) (dwalletId : ID)
    (account account' : Account c) (passed : Verified) : Prop :=
  ∃ before after, account.shared dwalletId = some before ∧ Operates natives op signers ctx before after ∧
    account' = account.putShared dwalletId after ∧ passed = before.verifying natives op

section
variable {natives : Natives} {account account' : Account c} {dwalletId : ID} {signers : List Credential}
  {ctx : TxContext} {passed : Verified}

@[simp] theorem Account.borrow_eq_ok {α : Type} {field : Option α} {stored : α} :
    Account.borrow field = .ok stored ↔ field = some stored := by
  cases field with
  | none => simp [Account.borrow, throw, throwThe, MonadExceptOf.throw]
  | some value => simp [Account.borrow]

theorem nonce_of_bumped {before after : UInt64} (bumped : checkedAdd before 1 = .ok after) :
    after.toNat = before.toNat + 1 :=
  toNat_of_checkedAdd bumped

theorem addCredential_operated {newCredential : NewCredential}
    (done : account.addCredential natives dwalletId newCredential signers ctx = .ok (account', passed)) :
    Operated natives (.addCredential (auth.newCredentialIdBytes newCredential)) signers ctx dwalletId account account'
      passed := by
  simp only [Account.addCredential, Account.borrowShared, bind_eq_ok, Account.borrow_eq_ok, assert_eq_ok,
    exists_const, auth.isAlreadyRegistered, VecSet.contains_iff, auth.insertCredential, VecSet.insert_eq_ok,
    pure_eq_ok, Prod.mk.injEq] at done
  obtain ⟨_, checked, before, found, room, _, _, verified, credentials, ⟨fresh, grown⟩, nonce, bumped, rfl, rfl⟩ := done
  refine ⟨before, { before with credentials, nonce }, found, ⟨rfl, rfl, nonce_of_bumped bumped, ?_, verified⟩, rfl, rfl⟩
  exact ⟨idShape_of_assertPubkeyLength checked, room, fresh, grown, rfl⟩

theorem removeCredential_operated {target : Bytes}
    (done : account.removeCredential natives dwalletId target signers ctx = .ok (account', passed)) :
    Operated natives (.removeCredential target) signers ctx dwalletId account account' passed := by
  simp only [Account.removeCredential, Account.borrowShared, bind_eq_ok, Account.borrow_eq_ok, assert_eq_ok,
    exists_const, VecSet.contains_iff, auth.removeCredential, pure_eq_ok, Prod.mk.injEq] at done
  obtain ⟨before, found, member, above, _, verified, credentials, shrunk, nonce, bumped, rfl, rfl⟩ := done
  refine ⟨before, { before with credentials, nonce }, found, ⟨rfl, rfl, nonce_of_bumped bumped, ?_, verified⟩, rfl, rfl⟩
  exact ⟨member, above, shrunk, rfl⟩

theorem setThreshold_operated {threshold : UInt64}
    (done : account.setThreshold natives dwalletId threshold signers ctx = .ok (account', passed)) :
    Operated natives (.setThreshold threshold) signers ctx dwalletId account account' passed := by
  simp only [Account.setThreshold, Account.borrowShared, bind_eq_ok, Account.borrow_eq_ok, assert_eq_ok,
    exists_const, pure_eq_ok, Prod.mk.injEq] at done
  obtain ⟨before, found, positive, within, _, verified, nonce, bumped, rfl, rfl⟩ := done
  refine ⟨before, { before with threshold, nonce }, found, ⟨rfl, rfl, nonce_of_bumped bumped, ?_, verified⟩, rfl, rfl⟩
  exact ⟨positive, within, rfl, rfl⟩

/-- `authorize_shared_and_bump_nonce` when it is given the challenge of `op` on the wrapper it finds. -/
theorem authorize_operates (op : SharedOp) {before : StoredSharedDWallet c}
    (found : account.shared dwalletId = some before)
    (plain : ∀ after : StoredSharedDWallet c, after.credentials = before.credentials →
      after.threshold = before.threshold → RosterChange before after op)
    (done : account.authorizeSharedAndBumpNonce natives dwalletId signers (op.challenge natives before.id before.nonce)
      ctx = .ok (account', passed)) :
    ∃ after, Operates natives op signers ctx before after ∧ account' = account.putShared dwalletId after ∧
      passed = before.verifying natives op := by
  simp only [Account.authorizeSharedAndBumpNonce, Account.borrowShared, bind_eq_ok, Account.borrow_eq_ok,
    pure_eq_ok, Prod.mk.injEq] at done
  obtain ⟨other, found', _, verified, nonce, bumped, rfl, rfl⟩ := done
  obtain rfl : before = other := Option.some.inj (found.symm.trans found')
  exact ⟨{ before with nonce }, ⟨rfl, rfl, nonce_of_bumped bumped, plain _ rfl rfl, verified⟩, rfl, rfl⟩

end

/-! ### Entries -/

/-- The approvals an operation obtains for the wrapper's cap. -/
def SharedOp.approvals (cap : c.DWalletCap) : SharedOp → List (Event c)
  | .requestSign algorithm hash message => [.approved cap algorithm hash message]
  | .completeFutureSign algorithm hash message => [.approved cap algorithm hash message]
  | _ => []

/-- Everything a successful entry called with these signers can do to an account, with what it records.
`newId` is the id that `object::new` hands out for a new wrapper; the label is the authorised operation,
if it is one. -/
inductive Effect (natives : Natives) (ctx : TxContext) (signers : List Credential) (newId : ID) (account : Account c) :
    Option (ID × SharedOp) → Account c → List (Event c) → Prop where
  | operated {op : SharedOp} {dwalletId : ID} {before after : StoredSharedDWallet c}
      (found : account.shared dwalletId = some before) (operates : Operates natives op signers ctx before after) :
      Effect natives ctx signers newId account (some (dwalletId, op)) (account.putShared dwalletId after)
        (.verified (before.verifying natives op) :: op.approvals before.cap)
  | signedZeroTrust {args : SignArgs c} {stored : StoredDWallet c} {signId : ID}
      (found : account.dwallets args.dwalletId = some stored) :
      Effect natives ctx signers newId account none account
        [.approved stored.cap args.signatureAlgorithm args.hashScheme args.message,
          .signRequested signId args.dwalletId args.signatureAlgorithm args.hashScheme]
  | signedImportedKey {args : SignArgs c} {stored : StoredImportedKeyDWallet c}
      (found : account.importedKeys args.dwalletId = some stored) :
      Effect natives ctx signers newId account none account
        [.approvedImportedKey stored.cap args.signatureAlgorithm args.hashScheme args.message]
  | storedZeroTrust {cap : c.DWalletCap} (free : account.dwallets (c.dwalletId cap) = none) :
      Effect natives ctx signers newId account none (account.putDwallet (c.dwalletId cap) ⟨newId, cap⟩) [.received cap]
  | storedShared {cap : c.DWalletCap} {creds : List NewCredential} {threshold : UInt64}
      {roster : VecSet Bytes} (free : account.shared (c.dwalletId cap) = none)
      (built : Account.buildInitialRoster creds threshold = .ok roster) :
      Effect natives ctx signers newId account none
        (account.putShared (c.dwalletId cap) ⟨newId, cap, roster, threshold, 0⟩)
        [.received cap]
  | storedImportedKey {cap : c.ImportedKeyDWalletCap}
      (free : account.importedKeys (c.importedKeyDwalletId cap) = none) :
      Effect natives ctx signers newId account none (account.putImportedKey (c.importedKeyDwalletId cap) ⟨newId, cap⟩)
        [.receivedImportedKey cap]

@[simp] theorem Account.shared_putShared (account : Account c) (dwalletId id : ID) (stored : StoredSharedDWallet c) :
    (account.putShared dwalletId stored).shared id = if id = dwalletId then some stored else account.shared id := rfl

section
variable {natives : Natives} {account account' : Account c} {state : c.State} {signers : List Credential}
  {payment : Payment} {ctx : TxContext} {newId : ID}

theorem Operated.effect {op : SharedOp} {dwalletId : ID} {passed : Verified}
    (operated : Operated natives op signers ctx dwalletId account account' passed)
    (silent : ∀ cap : c.DWalletCap, op.approvals cap = []) :
    Effect natives ctx signers newId account (some (dwalletId, op)) account' [.verified passed] := by
  obtain ⟨before, after, found, operates, rfl, rfl⟩ := operated
  rw [← silent before.cap]
  exact .operated found operates

theorem requestSignShared_effect {args : SignArgs c} {paid : Paid payment (Entered c ID)}
    (done : sign.requestSignShared natives account signers state args payment ctx = .ok paid) :
    Effect natives ctx signers newId account (some (args.dwalletId,
      .requestSign args.signatureAlgorithm args.hashScheme args.message)) paid.value.account paid.value.events := by
  simp only [sign.requestSignShared, Account.storedSharedUidBytes, Account.storedSharedNonce, Account.sharedDwalletCap,
    Account.borrowShared, bind_eq_ok, bind_assoc, pure_bind, Account.borrow_eq_ok, assert_eq_ok, exists_const,
    pure_eq_ok, Prod.exists] at done
  obtain ⟨_, before, found, other, found', account', passed, authorised, _, _, _, stored, later, _, _, _, _, _, _, _, _,
    rfl⟩ := done
  obtain rfl : before = other := Option.some.inj (found.symm.trans found')
  obtain ⟨after, operates, rfl, rfl⟩ := authorize_operates
    (.requestSign args.signatureAlgorithm args.hashScheme args.message) found
    (fun _ credentials threshold => ⟨credentials, threshold⟩) authorised
  obtain rfl : after = stored := by simpa using later
  rw [Paid.value_map, operates.cap_eq]
  exact .operated found operates

theorem requestFutureSign_effect {args : FutureSignArgs c}
    {paid : Paid payment (Entered c c.UnverifiedPartialUserSignatureCap)}
    (done : sign.requestFutureSign natives account signers state args payment ctx = .ok paid) :
    Effect natives ctx signers newId account (some (args.dwalletId, .requestFutureSign args.hashScheme args.message))
      paid.value.account paid.value.events := by
  simp only [sign.requestFutureSign, Account.storedSharedUidBytes, Account.storedSharedNonce,
    Account.borrowShared, bind_eq_ok, bind_assoc, pure_bind, Account.borrow_eq_ok, assert_eq_ok, exists_const,
    pure_eq_ok, Prod.exists] at done
  obtain ⟨_, before, found, other, found', account', passed, authorised, _, _, _, _, _, _, _, _, rfl⟩ := done
  obtain rfl : before = other := Option.some.inj (found.symm.trans found')
  obtain ⟨after, operates, rfl, rfl⟩ := authorize_operates (.requestFutureSign args.hashScheme args.message) found
    (fun _ credentials threshold => ⟨credentials, threshold⟩) authorised
  exact .operated found operates

theorem completeFutureSign_effect {args : CompleteSignArgs c} {paid : Paid payment (Entered c ID)}
    (done : sign.completeFutureSign natives account signers state args payment ctx = .ok paid) :
    Effect natives ctx signers newId account (some (args.dwalletId,
      .completeFutureSign args.signatureAlgorithm args.hashScheme args.message)) paid.value.account paid.value.events := by
  simp only [sign.completeFutureSign, Account.storedSharedUidBytes, Account.storedSharedNonce,
    Account.sharedDwalletCap, Account.borrowShared, bind_eq_ok, bind_assoc, pure_bind, Account.borrow_eq_ok,
    assert_eq_ok, exists_const, pure_eq_ok, Prod.exists] at done
  obtain ⟨_, before, found, other, found', account', passed, authorised, stored, later, _, _, _, _, _, _, _, _,
    rfl⟩ := done
  obtain rfl : before = other := Option.some.inj (found.symm.trans found')
  obtain ⟨after, operates, rfl, rfl⟩ := authorize_operates
    (.completeFutureSign args.signatureAlgorithm args.hashScheme args.message) found
    (fun _ credentials threshold => ⟨credentials, threshold⟩) authorised
  obtain rfl : after = stored := by simpa using later
  rw [Paid.value_map, operates.cap_eq]
  exact .operated found operates

theorem requestSignZeroTrust_effect {args : SignArgs c} {paid : Paid payment (Entered c ID)}
    (done : sign.requestSignZeroTrust account state args payment ctx = .ok paid) :
    Effect natives ctx signers newId account none paid.value.account paid.value.events := by
  simp only [sign.requestSignZeroTrust, Account.dwalletCap, bind_eq_ok, bind_assoc, pure_bind, Account.borrow_eq_ok,
    assert_eq_ok, exists_const, pure_eq_ok, Prod.exists] at done
  obtain ⟨_, _, _, _, stored, found, _, _, _, _, _, _, _, _, rfl⟩ := done
  exact .signedZeroTrust found

theorem requestImportedKeySign_effect {args : SignArgs c} {paid : Paid payment (Entered c ID)}
    (done : importedKey.requestImportedKeySign account state args payment ctx = .ok paid) :
    Effect natives ctx signers newId account none paid.value.account paid.value.events := by
  simp only [importedKey.requestImportedKeySign, Account.importedKeyCap, bind_eq_ok, bind_assoc, pure_bind,
    Account.borrow_eq_ok, assert_eq_ok, exists_const, pure_eq_ok, Prod.exists] at done
  obtain ⟨_, _, _, _, stored, found, _, _, _, _, _, _, _, _, rfl⟩ := done
  exact .signedImportedKey found

theorem requestDkgZeroTrust_effect {args : DkgArgs} {paid : Paid payment (Entered c Unit)}
    (done : dkg.requestDkgZeroTrust account state args newId payment ctx = .ok paid) :
    Effect natives ctx signers newId account none paid.value.account paid.value.events := by
  simp only [dkg.requestDkgZeroTrust, Account.storeDwalletCap, bind_eq_ok, bind_assoc, pure_bind, assert_eq_ok,
    exists_const, pure_eq_ok, Prod.exists] at done
  obtain ⟨_, _, _, paid', _, free, rfl⟩ := done
  exact .storedZeroTrust (by simpa [Account.hasDwallet] using free)

theorem requestDkgShared_effect {args : SharedDkgArgs} {paid : Paid payment (Entered c Unit)}
    (done : dkg.requestDkgShared account state args newId payment ctx = .ok paid) :
    Effect natives ctx signers newId account none paid.value.account paid.value.events := by
  simp only [dkg.requestDkgShared, Account.storeSharedDwalletCap, bind_eq_ok, bind_assoc, pure_bind, assert_eq_ok,
    exists_const, pure_eq_ok, Prod.exists] at done
  obtain ⟨_, _, _, paid', _, free, roster, built, rfl⟩ := done
  exact .storedShared (by simpa [Account.hasSharedDwallet] using free) built

theorem requestImportedKeyDwalletVerification_effect {args : ImportArgs} {paid : Paid payment (Entered c Unit)}
    (done : importedKey.requestImportedKeyDwalletVerification account state args newId payment ctx = .ok paid) :
    Effect natives ctx signers newId account none paid.value.account paid.value.events := by
  simp only [importedKey.requestImportedKeyDwalletVerification, Account.storeImportedKeyCap, bind_eq_ok, bind_assoc,
    pure_bind, assert_eq_ok, exists_const, pure_eq_ok, Prod.exists] at done
  obtain ⟨_, _, _, paid', _, free, rfl⟩ := done
  exact .storedImportedKey (by simpa [Account.hasImportedKeyDwallet] using free)

end

end MpcKit.Core
