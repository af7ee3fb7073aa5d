import MpcKit.Core.Operations
import MpcKit.Core.Treasury
import MpcKit.Transact.Runs

/-! The package on chain: all accounts, the treasury and the coordinator, and the public entries as
transactions on them. -/

namespace MpcKit.Core
open MpcKit.Transact

variable (c : Coordinator)

structure Chain where
  accounts : ID → Option (Account c)
  treasury : Treasury
  state : c.State
  adminCaps : List ID
  operatorCaps : List ID
  /-- The ids `object::new` has handed out. -/
  created : List ID

/-- The transaction around a call. `object::new` gives the id `accountId` to an account and
`wrapperId` to a wrapper that the call creates. -/
structure Tx where
  ctx : TxContext
  accountId : ID
  wrapperId : ID

/-- A public entry with its arguments. Object arguments are ids; an entry that needs a capability
names the one it presents. -/
inductive Call where
  | mintOperator (admin : ID)
  | burnOperator (admin operator : ID)
  | registerAccount (operator : ID)
  | addCredential (account dwalletId : ID) (newCredential : NewCredential) (signers : List Credential)
  | removeCredential (account dwalletId : ID) (targetCredentialId : Bytes) (signers : List Credential)
  | setThreshold (account dwalletId : ID) (newThreshold : UInt64) (signers : List Credential)
  | requestDkgZeroTrust (operator account : ID) (args : DkgArgs) (payment : Payment)
  | acceptUserShare (account dwalletId encryptedUserSecretKeyShareId : ID) (userOutputSignature : Bytes)
  | requestDkgShared (operator account : ID) (args : SharedDkgArgs) (payment : Payment)
  | requestImportedKeyDwalletVerification (operator account : ID) (args : ImportArgs) (payment : Payment)
  | requestImportedKeySign (account : ID) (args : SignArgs c) (payment : Payment)
  | requestSignZeroTrust (account : ID) (args : SignArgs c) (payment : Payment)
  | requestSignShared (account : ID) (signers : List Credential) (args : SignArgs c) (payment : Payment)
  | requestFutureSign (account : ID) (signers : List Credential) (args : FutureSignArgs c) (payment : Payment)
  | verifyPartialUserSignatureCap (cap : c.UnverifiedPartialUserSignatureCap)
  | completeFutureSign (account : ID) (signers : List Credential) (args : CompleteSignArgs c) (payment : Payment)
  | depositIka (coin : UInt64)
  | depositSui (coin : UInt64)
  | payRegisterAndDkgZeroTrust (operator : ID) (args : DkgArgs)
  | payDkgZeroTrust (operator account : ID) (args : DkgArgs)
  | payPresign (operator networkEncryptionKeyId : ID) (curve signatureAlgorithm : UInt32)
      (sessionIdentifierBytes : Bytes)
  | paySignZeroTrust (operator account : ID) (args : SignArgs c)
  | drain (admin : ID)
  /-- Anything the coordinator does without this package. -/
  | coordinatorMoves (state : c.State)

/-- What a call reports: its events, and the coins that went into the treasury, to the coordinator
and to the caller. -/
structure Receipt where
  events : List (Event c)
  deposited : Amounts
  fee : Amounts
  drained : Amounts

variable {c}

namespace Chain

/-- The package just published, with the caps of `acl::init`. -/
def genesis (state : c.State) (admin operator : ID) : Chain c :=
  ⟨fun _ => none, Treasury.init, state, [admin], [operator], [admin, operator]⟩

def putAccount (chain : Chain c) (accountId : ID) (account : Account c) : Chain c :=
  { chain with accounts := fun id => if id = accountId then some account else chain.accounts id }

def account (chain : Chain c) (accountId : ID) : Except Abort (Account c) :=
  match chain.accounts accountId with
  | some account => pure account
  | none => throw .noSuchTransaction

/-- The ids a transaction brings are new and different. -/
def Offers (chain : Chain c) (tx : Tx) : Prop :=
  tx.accountId ∉ chain.created ∧ tx.wrapperId ∉ chain.created ∧ tx.accountId ≠ tx.wrapperId

instance (chain : Chain c) (tx : Tx) : Decidable (chain.Offers tx) := inferInstanceAs (Decidable (_ ∧ _ ∧ _))

def handOut (chain : Chain c) (tx : Tx) : Chain c :=
  { chain with created := tx.accountId :: tx.wrapperId :: chain.created }

/-- An entry that only has to do with the account leaves its result there. -/
def entered {α : Type} (chain : Chain c) (accountId : ID) (result : Entered c α) : Receipt c × Chain c :=
  (⟨result.events, .zero, .zero, .zero⟩, { chain.putAccount accountId result.account with state := result.state })

def verified (chain : Chain c) (accountId : ID) (result : Account c × Verified) : Receipt c × Chain c :=
  (⟨[.verified result.2], .zero, .zero, .zero⟩, chain.putAccount accountId result.1)

/-- A `pay_*` entry on an account. -/
def spent {α : Type} (chain : Chain c) (accountId : ID) (result : Treasury.Spent (Entered c α)) :
    Receipt c × Chain c :=
  (⟨result.value.events, .zero, result.fee, .zero⟩,
    { chain.putAccount accountId result.value.account with state := result.value.state, treasury := result.treasury })

/-- A call that does nothing to any account. -/
def aside (chain : Chain c) : Receipt c × Chain c := (⟨[], .zero, .zero, .zero⟩, chain)

def needs (caps : List ID) (cap : ID) : Except Abort Unit := assert (cap ∈ caps) .noSuchTransaction

/-- The entries. -/
def call (natives : Natives) (chain : Chain c) (tx : Tx) : Call c → Except Abort (Receipt c × Chain c)
  | .mintOperator admin => do
    needs chain.adminCaps admin
    pure { chain with operatorCaps := tx.wrapperId :: chain.operatorCaps }.aside
  | .burnOperator admin operator => do
    needs chain.adminCaps admin
    needs chain.operatorCaps operator
    pure { chain with operatorCaps := chain.operatorCaps.filter (· ≠ operator) }.aside
  | .registerAccount operator => do
    needs chain.operatorCaps operator
    pure (chain.putAccount tx.accountId Account.registerAccount).aside
  | .addCredential accountId dwalletId newCredential signers => do
    let account ← chain.account accountId
    let result ← account.addCredential natives dwalletId newCredential signers tx.ctx
    pure (chain.verified accountId result)
  | .removeCredential accountId dwalletId target signers => do
    let account ← chain.account accountId
    let result ← account.removeCredential natives dwalletId target signers tx.ctx
    pure (chain.verified accountId result)
  | .setThreshold accountId dwalletId threshold signers => do
    let account ← chain.account accountId
    let result ← account.setThreshold natives dwalletId threshold signers tx.ctx
    pure (chain.verified accountId result)
  | .requestDkgZeroTrust operator accountId args payment => do
    needs chain.operatorCaps operator
    let account ← chain.account accountId
    let paid ← dkg.requestDkgZeroTrust account chain.state args tx.wrapperId payment tx.ctx
    pure (chain.entered accountId paid.value)
  | .acceptUserShare accountId dwalletId shareId signature => do
    let account ← chain.account accountId
    let state ← dkg.acceptUserShare account chain.state dwalletId shareId signature
    pure { chain with state }.aside
  | .requestDkgShared operator accountId args payment => do
    needs chain.operatorCaps operator
    let account ← chain.account accountId
    let paid ← dkg.requestDkgShared account chain.state args tx.wrapperId payment tx.ctx
    pure (chain.entered accountId paid.value)
  | .requestImportedKeyDwalletVerification operator accountId args payment => do
    needs chain.operatorCaps operator
    let account ← chain.account accountId
    let paid ← importedKey.requestImportedKeyDwalletVerification account chain.state args tx.wrapperId payment tx.ctx
    pure (chain.entered accountId paid.value)
  | .requestImportedKeySign accountId args payment => do
    let account ← chain.account accountId
    let paid ← importedKey.requestImportedKeySign account chain.state args payment tx.ctx
    pure (chain.entered accountId paid.value)
  | .requestSignZeroTrust accountId args payment => do
    let account ← chain.account accountId
    let paid ← sign.requestSignZeroTrust account chain.state args payment tx.ctx
    pure (chain.entered accountId paid.value)
  | .requestSignShared accountId signers args payment => do
    let account ← chain.account accountId
    let paid ← sign.requestSignShared natives account signers chain.state args payment tx.ctx
    pure (chain.entered accountId paid.value)
  | .requestFutureSign accountId signers args payment => do
    let account ← chain.account accountId
    let paid ← sign.requestFutureSign natives account signers chain.state args payment tx.ctx
    pure (chain.entered accountId paid.value)
  | .verifyPartialUserSignatureCap cap => do
    let (_, state) ← c.verifyPartialUserSignatureCap chain.state cap tx.ctx
    pure { chain with state }.aside
  | .completeFutureSign accountId signers args payment => do
    let account ← chain.account accountId
    let paid ← sign.completeFutureSign natives account signers chain.state args payment tx.ctx
    pure (chain.entered accountId paid.value)
  | .depositIka coin => do
    let treasury ← chain.treasury.depositIka coin
    pure (⟨[], ⟨coin.toNat, 0⟩, .zero, .zero⟩, { chain with treasury })
  | .depositSui coin => do
    let treasury ← chain.treasury.depositSui coin
    pure (⟨[], ⟨0, coin.toNat⟩, .zero, .zero⟩, { chain with treasury })
  | .payRegisterAndDkgZeroTrust operator args => do
    needs chain.operatorCaps operator
    let result ← chain.treasury.payRegisterAndDkgZeroTrust chain.state tx.ctx args tx.wrapperId
    pure (chain.spent tx.accountId result)
  | .payDkgZeroTrust operator accountId args => do
    needs chain.operatorCaps operator
    let account ← chain.account accountId
    let result ← chain.treasury.payDkgZeroTrust chain.state tx.ctx account args tx.wrapperId
    pure (chain.spent accountId result)
  | .payPresign operator networkEncryptionKeyId curve signatureAlgorithm sessionIdentifierBytes => do
    needs chain.operatorCaps operator
    let result ← chain.treasury.payPresign chain.state tx.ctx networkEncryptionKeyId curve signatureAlgorithm
      sessionIdentifierBytes
    pure (⟨[], .zero, result.fee, .zero⟩, { chain with state := result.value.2, treasury := result.treasury })
  | .paySignZeroTrust operator accountId args => do
    needs chain.operatorCaps operator
    let account ← chain.account accountId
    let result ← chain.treasury.paySignZeroTrust chain.state tx.ctx account args
    pure (chain.spent accountId result)
  | .drain admin => do
    needs chain.adminCaps admin
    let (coins, treasury) := chain.treasury.drain
    pure (⟨[], .zero, .zero, ⟨coins.ika.toNat, coins.sui.toNat⟩⟩, { chain with treasury })
  | .coordinatorMoves state => pure { chain with state }.aside

/-- A transaction: nothing changes unless the call goes through. -/
def exec (natives : Natives) (chain : Chain c) (input : Tx × Call c) : Except Abort (Receipt c × Chain c) := do
  assert (chain.Offers input.1) .noSuchTransaction
  let (receipt, after) ← chain.call natives input.1 input.2
  pure (receipt, after.handOut input.1)

end Chain

/-! ### What a transaction can do to the accounts -/

/-- The operation on a shared wallet that a call asks for: account, wallet and what is to be authorised. -/
def Call.operation : Call c → Option (ID × ID × SharedOp)
  | .addCredential account dwalletId newCredential _ =>
    some (account, dwalletId, .addCredential (auth.newCredentialIdBytes newCredential))
  | .removeCredential account dwalletId target _ => some (account, dwalletId, .removeCredential target)
  | .setThreshold account dwalletId threshold _ => some (account, dwalletId, .setThreshold threshold)
  | .requestSignShared account _ args _ =>
    some (account, args.dwalletId, .requestSign args.signatureAlgorithm args.hashScheme args.message)
  | .requestFutureSign account _ args _ =>
    some (account, args.dwalletId, .requestFutureSign args.hashScheme args.message)
  | .completeFutureSign account _ args _ =>
    some (account, args.dwalletId, .completeFutureSign args.signatureAlgorithm args.hashScheme args.message)
  | _ => none

/-- The credentials a call brings. -/
def Call.signers : Call c → List Credential
  | .addCredential _ _ _ signers => signers
  | .removeCredential _ _ _ signers => signers
  | .setThreshold _ _ _ signers => signers
  | .requestSignShared _ signers _ _ => signers
  | .requestFutureSign _ signers _ _ => signers
  | .completeFutureSign _ signers _ _ => signers
  | _ => []

/-- The account an entry works on: one that exists, or the one it has just registered. -/
def Chain.At (chain : Chain c) (tx : Tx) (accountId : ID) (account : Account c) : Prop :=
  chain.accounts accountId = some account ∨ (accountId = tx.accountId ∧ account = Account.registerAccount)

inductive Moved (natives : Natives) (chain : Chain c) (tx : Tx) (signers : List Credential) :
    Option (ID × ID × SharedOp) → (ID → Option (Account c)) → List (Event c) → Prop where
  | still : Moved natives chain tx signers none chain.accounts []
  | registered :
      Moved natives chain tx signers none (chain.putAccount tx.accountId Account.registerAccount).accounts []
  | entered {accountId : ID} {account account' : Account c} {label : Option (ID × SharedOp)} {events : List (Event c)}
      (stands : chain.At tx accountId account)
      (effect : Effect natives tx.ctx signers tx.wrapperId account label account' events) :
      Moved natives chain tx signers (label.map (fun op => (accountId, op)))
        (chain.putAccount accountId account').accounts
        events

section
variable {natives : Natives} {chain after : Chain c} {tx : Tx} {receipt : Receipt c}

@[simp] theorem Chain.account_eq_ok {accountId : ID} {account : Account c} :
    chain.account accountId = .ok account ↔ chain.accounts accountId = some account := by
  unfold Chain.account
  cases chain.accounts accountId with
  | none => simp [throw, throwThe, MonadExceptOf.throw]
  | some value => simp

theorem call_moved {call : Call c} (done : chain.call natives tx call = .ok (receipt, after)) :
    Moved natives chain tx call.signers call.operation after.accounts receipt.events ∧
      after.created = chain.created := by
  cases call with
  | mintOperator admin =>
    simp only [Chain.call, bind_eq_ok, pure_eq_ok, Chain.aside, Prod.mk.injEq] at done
    obtain ⟨_, _, rfl, rfl⟩ := done
    exact ⟨.still, rfl⟩
  | burnOperator admin operator =>
    simp only [Chain.call, bind_eq_ok, pure_eq_ok, Chain.aside, Prod.mk.injEq] at done
    obtain ⟨_, _, _, _, rfl, rfl⟩ := done
    exact ⟨.still, rfl⟩
  | registerAccount operator =>
    simp only [Chain.call, bind_eq_ok, pure_eq_ok, Chain.aside, Prod.mk.injEq] at done
    obtain ⟨_, _, rfl, rfl⟩ := done
    exact ⟨.registered, rfl⟩
  | addCredential accountId dwalletId newCredential signers =>
    simp only [Chain.call, bind_eq_ok, pure_eq_ok, Chain.verified, Chain.account_eq_ok, Prod.mk.injEq] at done
    obtain ⟨account, found, ⟨_, _⟩, added, rfl, rfl⟩ := done
    exact ⟨.entered (.inl found) ((addCredential_operated added).effect fun _ => rfl), rfl⟩
  | removeCredential accountId dwalletId target signers =>
    simp only [Chain.call, bind_eq_ok, pure_eq_ok, Chain.verified, Chain.account_eq_ok, Prod.mk.injEq] at done
    obtain ⟨account, found, ⟨_, _⟩, removed, rfl, rfl⟩ := done
    exact ⟨.entered (.inl found) ((removeCredential_operated removed).effect fun _ => rfl), rfl⟩
  | setThreshold accountId dwalletId threshold signers =>
    simp only [Chain.call, bind_eq_ok, pure_eq_ok, Chain.verified, Chain.account_eq_ok, Prod.mk.injEq] at done
    obtain ⟨account, found, ⟨_, _⟩, set, rfl, rfl⟩ := done
    exact ⟨.entered (.inl found) ((setThreshold_operated set).effect fun _ => rfl), rfl⟩
  | requestDkgZeroTrust operator accountId args payment =>
    simp only [Chain.call, bind_eq_ok, pure_eq_ok, Chain.entered, Chain.account_eq_ok, Prod.mk.injEq] at done
    obtain ⟨_, _, account, found, paid, entered, rfl, rfl⟩ := done
    exact ⟨.entered (.inl found) (requestDkgZeroTrust_effect entered), rfl⟩
  | acceptUserShare accountId dwalletId shareId signature =>
    simp only [Chain.call, bind_eq_ok, pure_eq_ok, Chain.aside, Chain.account_eq_ok, Prod.mk.injEq] at done
    obtain ⟨_, _, _, _, rfl, rfl⟩ := done
    exact ⟨.still, rfl⟩
  | requestDkgShared operator accountId args payment =>
    simp only [Chain.call, bind_eq_ok, pure_eq_ok, Chain.entered, Chain.account_eq_ok, Prod.mk.injEq] at done
    obtain ⟨_, _, account, found, paid, entered, rfl, rfl⟩ := done
    exact ⟨.entered (.inl found) (requestDkgShared_effect entered), rfl⟩
  | requestImportedKeyDwalletVerification operator accountId args payment =>
    simp only [Chain.call, bind_eq_ok, pure_eq_ok, Chain.entered, Chain.account_eq_ok, Prod.mk.injEq] at done
    obtain ⟨_, _, account, found, paid, entered, rfl, rfl⟩ := done
    exact ⟨.entered (.inl found) (requestImportedKeyDwalletVerification_effect entered), rfl⟩
  | requestImportedKeySign accountId args payment =>
    simp only [Chain.call, bind_eq_ok, pure_eq_ok, Chain.entered, Chain.account_eq_ok, Prod.mk.injEq] at done
    obtain ⟨account, found, paid, entered, rfl, rfl⟩ := done
    exact ⟨.entered (.inl found) (requestImportedKeySign_effect entered), rfl⟩
  | requestSignZeroTrust accountId args payment =>
    simp only [Chain.call, bind_eq_ok, pure_eq_ok, Chain.entered, Chain.account_eq_ok, Prod.mk.injEq] at done
    obtain ⟨account, found, paid, entered, rfl, rfl⟩ := done
    exact ⟨.entered (.inl found) (requestSignZeroTrust_effect entered), rfl⟩
  | requestSignShared accountId signers args payment =>
    simp only [Chain.call, bind_eq_ok, pure_eq_ok, Chain.entered, Chain.account_eq_ok, Prod.mk.injEq] at done
    obtain ⟨account, found, paid, entered, rfl, rfl⟩ := done
    exact ⟨.entered (.inl found) (requestSignShared_effect entered), rfl⟩
  | requestFutureSign accountId signers args payment =>
    simp only [Chain.call, bind_eq_ok, pure_eq_ok, Chain.entered, Chain.account_eq_ok, Prod.mk.injEq] at done
    obtain ⟨account, found, paid, entered, rfl, rfl⟩ := done
    exact ⟨.entered (.inl found) (requestFutureSign_effect entered), rfl⟩
  | verifyPartialUserSignatureCap cap =>
    simp only [Chain.call, bind_eq_ok, pure_eq_ok, Chain.aside, Prod.mk.injEq, Prod.exists] at done
    obtain ⟨_, _, _, rfl, rfl⟩ := done
    exact ⟨.still, rfl⟩
  | completeFutureSign accountId signers args payment =>
    simp only [Chain.call, bind_eq_ok, pure_eq_ok, Chain.entered, Chain.account_eq_ok, Prod.mk.injEq] at done
    obtain ⟨account, found, paid, entered, rfl, rfl⟩ := done
    exact ⟨.entered (.inl found) (completeFutureSign_effect entered), rfl⟩
  | depositIka coin =>
    simp only [Chain.call, bind_eq_ok, pure_eq_ok, Prod.mk.injEq] at done
    obtain ⟨_, _, rfl, rfl⟩ := done
    exact ⟨.still, rfl⟩
  | depositSui coin =>
    simp only [Chain.call, bind_eq_ok, pure_eq_ok, Prod.mk.injEq] at done
    obtain ⟨_, _, rfl, rfl⟩ := done
    exact ⟨.still, rfl⟩
  | payRegisterAndDkgZeroTrust operator args =>
    simp only [Chain.call, bind_eq_ok, pure_eq_ok, Chain.spent, Prod.mk.injEq] at done
    obtain ⟨_, _, result, spent, rfl, rfl⟩ := done
    obtain ⟨paid, entered, same, _⟩ := Treasury.exists_paid_of_spend spent
    rw [same]
    exact ⟨.entered (.inr ⟨rfl, rfl⟩) (requestDkgZeroTrust_effect entered), rfl⟩
  | payDkgZeroTrust operator accountId args =>
    simp only [Chain.call, bind_eq_ok, pure_eq_ok, Chain.spent, Chain.account_eq_ok, Prod.mk.injEq] at done
    obtain ⟨_, _, account, found, result, spent, rfl, rfl⟩ := done
    obtain ⟨paid, entered, same, _⟩ := Treasury.exists_paid_of_spend spent
    rw [same]
    exact ⟨.entered (.inl found) (requestDkgZeroTrust_effect entered), rfl⟩
  | payPresign operator networkEncryptionKeyId curve signatureAlgorithm sessionIdentifierBytes =>
    simp only [Chain.call, bind_eq_ok, pure_eq_ok, Prod.mk.injEq] at done
    obtain ⟨_, _, _, _, rfl, rfl⟩ := done
    exact ⟨.still, rfl⟩
  | paySignZeroTrust operator accountId args =>
    simp only [Chain.call, bind_eq_ok, pure_eq_ok, Chain.spent, Chain.account_eq_ok, Prod.mk.injEq] at done
    obtain ⟨_, _, account, found, result, spent, rfl, rfl⟩ := done
    obtain ⟨paid, entered, same, _⟩ := Treasury.exists_paid_of_spend spent
    rw [same]
    exact ⟨.entered (.inl found) (requestSignZeroTrust_effect entered), rfl⟩
  | drain admin =>
    simp only [Chain.call, bind_eq_ok, pure_eq_ok, Prod.mk.injEq] at done
    obtain ⟨_, _, rfl, rfl⟩ := done
    exact ⟨.still, rfl⟩
  | coordinatorMoves state =>
    simp only [Chain.call, pure_eq_ok, Chain.aside, Prod.mk.injEq] at done
    obtain ⟨rfl, rfl⟩ := done
    exact ⟨.still, rfl⟩

/-- A transaction that goes through brought new ids and made one of the possible moves. -/
theorem exec_moved {input : Tx × Call c} (done : chain.exec natives input = .ok (receipt, after)) :
    chain.Offers input.1 ∧ Moved natives chain input.1 input.2.signers input.2.operation after.accounts receipt.events ∧
      after.created = input.1.accountId :: input.1.wrapperId :: chain.created := by
  simp only [Chain.exec, bind_eq_ok, assert_eq_ok, exists_const, pure_eq_ok, Prod.mk.injEq, Prod.exists] at done
  obtain ⟨offers, _, left, called, rfl, rfl⟩ := done
  obtain ⟨moved, same⟩ := call_moved called
  exact ⟨offers, moved, by rw [Chain.handOut, same]⟩

end

end MpcKit.Core
