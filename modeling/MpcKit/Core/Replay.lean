import MpcKit.Core.Chain

/-! No authorisation counts twice. Every authorised operation moves the nonce of its wrapper on, and
the challenge carries the wrapper's uid and nonce. -/

namespace MpcKit.Core
open MpcKit.Transact

variable {c : Coordinator}

/-- The wrapper of a shared wallet. -/
def Chain.wrapper (chain : Chain c) (accountId dwalletId : ID) : Option (StoredSharedDWallet c) :=
  (chain.accounts accountId).bind (fun account => account.shared dwalletId)

/-- The ids of accounts and wrappers have been handed out, each to one of them. -/
structure Chain.Distinct (chain : Chain c) : Prop where
  account_created : ∀ {accountId : ID} {account : Account c},
    chain.accounts accountId = some account → accountId ∈ chain.created
  wrapper_created : ∀ {accountId dwalletId : ID} {stored : StoredSharedDWallet c},
    chain.wrapper accountId dwalletId = some stored → stored.id ∈ chain.created
  wrapper_unique : ∀ {accountId dwalletId accountId' dwalletId' : ID} {stored stored' : StoredSharedDWallet c},
    chain.wrapper accountId dwalletId = some stored → chain.wrapper accountId' dwalletId' = some stored' →
      stored.id = stored'.id → accountId = accountId' ∧ dwalletId = dwalletId'

/-- What a transaction can do to one wrapper. -/
inductive WrapperChange (natives : Natives) (tx : Tx) (signers : List Credential) (accountId dwalletId : ID) :
    Option (ID × ID × SharedOp) → List (Event c) → Option (StoredSharedDWallet c) →
      Option (StoredSharedDWallet c) → Prop where
  | same {label : Option (ID × ID × SharedOp)} {events : List (Event c)} {stored : Option (StoredSharedDWallet c)}
      (elsewhere : ∀ op, label ≠ some (accountId, dwalletId, op)) :
      WrapperChange natives tx signers accountId dwalletId label events stored stored
  | operated {op : SharedOp} {before after : StoredSharedDWallet c}
      (operates : Operates natives op signers tx.ctx before after) :
      WrapperChange natives tx signers accountId dwalletId (some (accountId, dwalletId, op))
        (.verified (before.verifying natives op) :: op.approvals before.cap) (some before) (some after)
  | created {cap : c.DWalletCap} {creds : List NewCredential} {threshold : UInt64} {roster : VecSet Bytes}
      (own : dwalletId = c.dwalletId cap) (built : Account.buildInitialRoster creds threshold = .ok roster) :
      WrapperChange natives tx signers accountId dwalletId none [.received cap] none
        (some ⟨tx.wrapperId, cap, roster, threshold, 0⟩)

section
variable {natives : Natives} {chain after : Chain c} {receipt : Receipt c} {input : Tx × Call c}
  {signers : List Credential}

theorem Chain.wrapper_putAccount (chain : Chain c) (accountId id dwalletId : ID) (account : Account c) :
    (chain.putAccount accountId account).wrapper id dwalletId =
      if id = accountId then account.shared dwalletId else chain.wrapper id dwalletId := by
  unfold Chain.wrapper Chain.putAccount
  split <;> simp_all

/-- A new account takes the place of none. -/
theorem Chain.Distinct.free (distinct : chain.Distinct) {tx : Tx} (offers : chain.Offers tx) :
    chain.accounts tx.accountId = none := by
  cases found : chain.accounts tx.accountId with
  | none => rfl
  | some account => exact absurd (distinct.account_created found) offers.1

/-- The account an entry works on has the wrappers the chain has for it. -/
theorem Chain.Distinct.wrapper_at (distinct : chain.Distinct) {tx : Tx} (offers : chain.Offers tx) {accountId : ID}
    {account : Account c} (stands : chain.At tx accountId account) (dwalletId : ID) :
    chain.wrapper accountId dwalletId = account.shared dwalletId := by
  rcases stands with found | ⟨rfl, rfl⟩
  · simp [Chain.wrapper, found]
  · simp [Chain.wrapper, distinct.free offers, Account.registerAccount]

theorem effect_wrapper {tx : Tx} {accountId dwalletId : ID} {account account' : Account c}
    {label : Option (ID × SharedOp)} {events : List (Event c)}
    (effect : Effect natives tx.ctx signers tx.wrapperId account label account' events) :
    WrapperChange natives tx signers accountId dwalletId (label.map (fun op => (accountId, op))) events
      (account.shared dwalletId) (account'.shared dwalletId) := by
  cases effect with
  | @operated op target before changed found operates =>
    rw [Account.shared_putShared]
    split
    next same =>
      subst same
      rw [found]
      exact .operated operates
    next different =>
      refine .same fun other equal => different ?_
      simp only [Option.map_some, Option.some.injEq, Prod.mk.injEq] at equal
      exact equal.2.1.symm
  | signedZeroTrust => exact .same (by simp)
  | signedImportedKey => exact .same (by simp)
  | storedZeroTrust => exact .same (by simp)
  | @storedShared cap creds threshold roster free built =>
    rw [Account.shared_putShared]
    split
    next same =>
      rw [same, free]
      exact .created rfl built
    next => exact .same (by simp)
  | storedImportedKey => exact .same (by simp)

theorem moved_wrapper (distinct : chain.Distinct) {tx : Tx} (offers : chain.Offers tx)
    {label : Option (ID × ID × SharedOp)} {accounts : ID → Option (Account c)} {events : List (Event c)}
    (moved : Moved natives chain tx signers label accounts events) (accountId dwalletId : ID) :
    WrapperChange natives tx signers accountId dwalletId label events (chain.wrapper accountId dwalletId)
      ((accounts accountId).bind (fun account => account.shared dwalletId)) := by
  cases moved with
  | still => exact .same (by simp)
  | registered =>
    have change := Chain.wrapper_putAccount chain tx.accountId accountId dwalletId Account.registerAccount
    rw [Chain.wrapper] at change
    rw [change]
    split
    next same =>
      subst same
      rw [distinct.wrapper_at offers (.inr ⟨rfl, rfl⟩)]
      exact .same (by simp)
    next => exact .same (by simp)
  | @entered target account account' label events stands effect =>
    have change := Chain.wrapper_putAccount chain target accountId dwalletId account'
    rw [Chain.wrapper] at change
    rw [change]
    split
    next same =>
      subst same
      rw [distinct.wrapper_at offers stands]
      exact effect_wrapper effect
    next different =>
      refine .same fun op equal => different ?_
      cases label with
      | none => cases equal
      | some label =>
        simp only [Option.map_some, Option.some.injEq, Prod.mk.injEq] at equal
        exact equal.1.symm

theorem wrapper_change (distinct : chain.Distinct) (done : chain.exec natives input = .ok (receipt, after))
    (accountId dwalletId : ID) :
    WrapperChange natives input.1 input.2.signers accountId dwalletId input.2.operation receipt.events
      (chain.wrapper accountId dwalletId) (after.wrapper accountId dwalletId) := by
  obtain ⟨offers, moved, _⟩ := exec_moved done
  exact moved_wrapper distinct offers moved accountId dwalletId

/-! ### Ids stay distinct -/

/-- Where the id of a wrapper comes from. -/
theorem WrapperChange.id_eq {tx : Tx} {accountId dwalletId : ID} {label : Option (ID × ID × SharedOp)}
    {events : List (Event c)} {before : Option (StoredSharedDWallet c)} {stored : StoredSharedDWallet c}
    (change : WrapperChange natives tx signers accountId dwalletId label events before (some stored)) :
    (∃ old, before = some old ∧ old.id = stored.id) ∨ (before = none ∧ stored.id = tx.wrapperId ∧
      dwalletId = c.dwalletId stored.cap ∧ events = [.received stored.cap]) := by
  generalize later : some stored = final at change
  cases change with
  | same => exact .inl ⟨stored, later.symm, rfl⟩
  | operated operates =>
    cases later
    exact .inl ⟨_, rfl, operates.id_eq.symm⟩
  | created own =>
    cases later
    exact .inr ⟨rfl, rfl, own, rfl⟩

/-- A transaction touches one account, which exists or is new. -/
theorem moved_account {tx : Tx} {label : Option (ID × ID × SharedOp)} {accounts : ID → Option (Account c)}
    {events : List (Event c)} (moved : Moved natives chain tx signers label accounts events) :
    ∃ target, (∀ accountId, accountId ≠ target → accounts accountId = chain.accounts accountId) ∧
      (accounts = chain.accounts ∨ target = tx.accountId ∨ ∃ account, chain.accounts target = some account) := by
  cases moved with
  | still => exact ⟨tx.accountId, fun _ _ => rfl, .inl rfl⟩
  | registered => exact ⟨tx.accountId, fun _ different => if_neg different, .inr (.inl rfl)⟩
  | @entered target account account' label events stands effect =>
    refine ⟨target, fun _ different => if_neg different, .inr ?_⟩
    rcases stands with found | ⟨rfl, _⟩
    · exact .inr ⟨account, found⟩
    · exact .inl rfl

theorem Chain.Distinct.exec (distinct : chain.Distinct) (done : chain.exec natives input = .ok (receipt, after)) :
    after.Distinct := by
  obtain ⟨offers, moved, created⟩ := exec_moved done
  obtain ⟨target, others, touched⟩ := moved_account moved
  have grows : ∀ {id : ID}, id ∈ chain.created → id ∈ after.created := by
    intro id inside
    rw [created]
    exact List.mem_cons_of_mem _ (List.mem_cons_of_mem _ inside)
  have change := wrapper_change distinct done
  constructor
  case account_created =>
    intro accountId account found
    by_cases here : accountId = target
    · subst here
      rcases touched with same | rfl | ⟨_, stood⟩
      · rw [same] at found
        exact grows (distinct.account_created found)
      · rw [created]
        exact List.mem_cons_self
      · exact grows (distinct.account_created stood)
    · rw [others accountId here] at found
      exact grows (distinct.account_created found)
  case wrapper_created =>
    intro accountId dwalletId stored found
    have changed := change accountId dwalletId
    rw [found] at changed
    rcases changed.id_eq with ⟨old, stood, same⟩ | ⟨_, new, _⟩
    · exact grows (same ▸ distinct.wrapper_created stood)
    · rw [new, created]
      exact List.mem_cons_of_mem _ List.mem_cons_self
  case wrapper_unique =>
    intro accountId dwalletId accountId' dwalletId' stored stored' found found' same
    have changed := change accountId dwalletId
    have changed' := change accountId' dwalletId'
    rw [found] at changed
    rw [found'] at changed'
    -- A wrapper keeps the id it had; a new one has an id no other wrapper can have.
    rcases changed.id_eq with ⟨old, stood, kept⟩ | ⟨absent, new, own, received⟩
    · rcases changed'.id_eq with ⟨old', stood', kept'⟩ | ⟨_, new', _⟩
      · exact distinct.wrapper_unique stood stood' (kept.trans (same.trans kept'.symm))
      · refine absurd (distinct.wrapper_created stood) ?_
        rw [kept, same, new']
        exact offers.2.1
    · rcases changed'.id_eq with ⟨old', stood', kept'⟩ | ⟨absent', _, own', received'⟩
      · refine absurd (distinct.wrapper_created stood') ?_
        rw [kept', ← same, new]
        exact offers.2.1
      · have caps : stored.cap = stored'.cap := by
          rw [received] at received'
          injection received' with head
          injection head
        have place : ∀ {id dwallet : ID} {wrapper : StoredSharedDWallet c}, chain.wrapper id dwallet = none →
            after.wrapper id dwallet = some wrapper → id = target := by
          intro id dwallet wrapper before later
          by_contra different
          rw [Chain.wrapper, others id different, ← Chain.wrapper, before] at later
          cases later
        exact ⟨(place absent found).trans (place absent' found').symm, by rw [own, own', caps]⟩

theorem Chain.genesis_distinct (state : c.State) (admin operator : ID) :
    (Chain.genesis state admin operator).Distinct := by
  constructor
  case account_created =>
    intro _ _ found
    cases found
  case wrapper_created =>
    intro _ _ _ found
    cases found
  case wrapper_unique =>
    intro _ _ _ _ _ _ found
    cases found

/-! ### Nonces -/

/-- The verifications a call went through. -/
def Receipt.verifications (receipt : Receipt c) : List Verified :=
  receipt.events.filterMap fun
    | .verified passed => some passed
    | _ => none

/-- The operation moved the nonce of its wrapper on by one, and no other wrapper's nonce. The call's own
credentials passed the verification of the challenge for the wrapper as it stood, which is the only one
the call went through. -/
def BumpsNonce (natives : Natives) (record : Record (Chain c) (Tx × Call c) (Receipt c)) : Prop :=
  ∀ accountId dwalletId op, record.input.2.operation = some (accountId, dwalletId, op) →
    ∃ before after, record.before.wrapper accountId dwalletId = some before ∧
      record.after.wrapper accountId dwalletId = some after ∧
      after.nonce.toNat = before.nonce.toNat + 1 ∧
      auth.verifyThreshold natives before.credentials (op.challenge natives before.id before.nonce) record.input.1.ctx
        record.input.2.signers before.threshold = .ok () ∧
      record.output.verifications = [before.verifying natives op] ∧
      ∀ accountId' dwalletId' stored, (accountId', dwalletId') ≠ (accountId, dwalletId) →
        record.before.wrapper accountId' dwalletId' = some stored →
        ∃ stored', record.after.wrapper accountId' dwalletId' = some stored' ∧ stored'.nonce = stored.nonce

/-- One challenge in both calls means a collision among what they hashed. -/
def NoReplay (natives : Natives) (first second : Record (Chain c) (Tx × Call c) (Receipt c)) : Prop :=
  ∀ passed ∈ first.output.verifications, ∀ passed' ∈ second.output.verifications,
    passed.challenge = passed'.challenge →
      ∃ accountId dwalletId op accountId' dwalletId' op',
        first.input.2.operation = some (accountId, dwalletId, op) ∧
        second.input.2.operation = some (accountId', dwalletId', op') ∧
        SharedOp.Clash natives passed.uid passed.nonce op passed'.uid passed'.nonce op'

theorem filterMap_approvals (op : SharedOp) (cap : c.DWalletCap) :
    (op.approvals cap).filterMap (fun event => match event with
      | .verified passed => some passed
      | _ => none) = [] := by
  cases op <;> rfl

/-- A successful operation on a shared wallet, seen from its wrapper. -/
theorem operation_operates (distinct : chain.Distinct) (done : chain.exec natives input = .ok (receipt, after))
    {accountId dwalletId : ID} {op : SharedOp} (asked : input.2.operation = some (accountId, dwalletId, op)) :
    ∃ before later, chain.wrapper accountId dwalletId = some before ∧
      after.wrapper accountId dwalletId = some later ∧ Operates natives op input.2.signers input.1.ctx before later ∧
      receipt.events = .verified (before.verifying natives op) :: op.approvals before.cap := by
  have change := wrapper_change distinct done accountId dwalletId
  rw [asked] at change
  generalize chain.wrapper accountId dwalletId = first at change ⊢
  generalize after.wrapper accountId dwalletId = last at change ⊢
  generalize receipt.events = events at change ⊢
  cases change with
  | same elsewhere => exact absurd rfl (elsewhere op)
  | @operated _ before later operates => exact ⟨before, later, rfl, rfl, operates, rfl⟩

/-- A call that is no operation on a shared wallet verifies nothing. -/
theorem verifications_of_none (done : chain.exec natives input = .ok (receipt, after))
    (other : input.2.operation = none) : receipt.verifications = [] := by
  obtain ⟨_, moved, _⟩ := exec_moved done
  rw [other] at moved
  unfold Receipt.verifications
  generalize receipt.events = events at moved ⊢
  generalize after.accounts = accounts at moved
  generalize label : (none : Option (ID × ID × SharedOp)) = none' at moved
  cases moved with
  | still => rfl
  | registered => rfl
  | entered stands effect =>
    cases effect with
    | operated => cases label
    | signedZeroTrust => rfl
    | signedImportedKey => rfl
    | storedZeroTrust => rfl
    | storedShared => rfl
    | storedImportedKey => rfl

/-- What was verified belongs to the operation and to the wrapper as it stood. -/
theorem mem_verifications (distinct : chain.Distinct) (done : chain.exec natives input = .ok (receipt, after))
    {passed : Verified} (inside : passed ∈ receipt.verifications) :
    ∃ accountId dwalletId op before later, input.2.operation = some (accountId, dwalletId, op) ∧
      chain.wrapper accountId dwalletId = some before ∧ after.wrapper accountId dwalletId = some later ∧
      Operates natives op input.2.signers input.1.ctx before later ∧ passed = before.verifying natives op := by
  cases asked : input.2.operation with
  | none =>
    rw [verifications_of_none done asked] at inside
    cases inside
  | some operation =>
    obtain ⟨accountId, dwalletId, op⟩ := operation
    obtain ⟨before, later, found, left, operates, events⟩ := operation_operates distinct done asked
    refine ⟨accountId, dwalletId, op, before, later, rfl, found, left, operates, ?_⟩
    rw [Receipt.verifications, events, List.filterMap_cons, filterMap_approvals] at inside
    simpa using inside

theorem WrapperChange.keeps {tx : Tx} {accountId dwalletId : ID} {label : Option (ID × ID × SharedOp)}
    {events : List (Event c)} {stored : StoredSharedDWallet c} {final : Option (StoredSharedDWallet c)}
    (change : WrapperChange natives tx signers accountId dwalletId label events (some stored) final) :
    ∃ later, final = some later ∧ later.id = stored.id ∧ later.cap = stored.cap ∧
      stored.nonce.toNat ≤ later.nonce.toNat ∧
      ((∀ op, label ≠ some (accountId, dwalletId, op)) → later = stored) := by
  generalize start : some stored = first at change
  cases change with
  | same => exact ⟨stored, start.symm, rfl, rfl, le_rfl, fun _ => rfl⟩
  | @operated op before later operates =>
    cases start
    refine ⟨later, rfl, operates.id_eq, operates.cap_eq, ?_, fun elsewhere => absurd rfl (elsewhere op)⟩
    rw [operates.nonce_eq]
    omega
  | created => cases start

theorem bumpsNonce_of_exec (distinct : chain.Distinct) (done : chain.exec natives input = .ok (receipt, after)) :
    BumpsNonce natives ⟨chain, input, receipt, after⟩ := by
  intro accountId dwalletId op asked
  obtain ⟨before, later, found, left, operates, events⟩ := operation_operates distinct done asked
  refine ⟨before, later, found, left, operates.nonce_eq, operates.verified, ?_, ?_⟩
  · rw [Receipt.verifications, events, List.filterMap_cons, filterMap_approvals]
  · intro accountId' dwalletId' stored different stands
    have change := wrapper_change distinct done accountId' dwalletId'
    rw [stands] at change
    obtain ⟨stored', left', _, _, _, same⟩ := change.keeps
    refine ⟨stored', left', ?_⟩
    rw [same]
    intro other equal
    rw [show input.2.operation = some (accountId, dwalletId, op) from asked] at equal
    simp only [Option.some.injEq, Prod.mk.injEq] at equal
    exact different (by rw [equal.1, equal.2.1])

/-- What a call has verified lies behind the nonce of its wrapper from then on. -/
def Spent (natives : Natives) (record : Record (Chain c) (Tx × Call c) (Receipt c)) (chain : Chain c) : Prop :=
  ∀ passed ∈ record.output.verifications,
    (∃ accountId dwalletId op, record.input.2.operation = some (accountId, dwalletId, op) ∧
      passed.challenge = op.challenge natives passed.uid passed.nonce) ∧
    ∃ accountId dwalletId stored, chain.wrapper accountId dwalletId = some stored ∧ stored.id = passed.uid ∧
      passed.nonce.toNat < stored.nonce.toNat

theorem spent_of_exec (distinct : chain.Distinct) (done : chain.exec natives input = .ok (receipt, after)) :
    Spent natives ⟨chain, input, receipt, after⟩ after := by
  intro passed inside
  obtain ⟨accountId, dwalletId, op, before, later, asked, _, left, operates, rfl⟩ :=
    mem_verifications distinct done inside
  refine ⟨⟨accountId, dwalletId, op, asked, rfl⟩, accountId, dwalletId, later, left, operates.id_eq, ?_⟩
  rw [operates.nonce_eq]
  exact Nat.lt_succ_self _

theorem Spent.exec {record : Record (Chain c) (Tx × Call c) (Receipt c)} (distinct : chain.Distinct)
    (spent : Spent natives record chain) (done : chain.exec natives input = .ok (receipt, after)) :
    Spent natives record after := by
  intro passed inside
  obtain ⟨asked, accountId, dwalletId, stored, found, same, behind⟩ := spent passed inside
  have change := wrapper_change distinct done accountId dwalletId
  rw [found] at change
  obtain ⟨later, left, ids, _, nonces, _⟩ := change.keeps
  exact ⟨asked, accountId, dwalletId, later, left, ids.trans same, behind.trans_le nonces⟩

theorem Spent.noReplay {record : Record (Chain c) (Tx × Call c) (Receipt c)} (distinct : chain.Distinct)
    (spent : Spent natives record chain) (done : chain.exec natives input = .ok (receipt, after)) :
    NoReplay natives record ⟨chain, input, receipt, after⟩ := by
  intro passed inside passed' inside' equal
  obtain ⟨⟨accountId, dwalletId, op, asked, challenge⟩, target, wallet, stored, found, same, behind⟩ :=
    spent passed inside
  obtain ⟨accountId', dwalletId', op', before, _, asked', found', _, _, rfl⟩ :=
    mem_verifications distinct done inside'
  rw [challenge] at equal
  rcases SharedOp.eq_or_clash equal with ⟨_, uids, nonces⟩ | clash
  · -- The same wrapper cannot stand at the old nonce any more.
    obtain ⟨rfl, rfl⟩ := distinct.wrapper_unique found found' (same.trans uids)
    obtain rfl : stored = before := Option.some.inj (found.symm.trans found')
    rw [nonces] at behind
    exact absurd behind (lt_irrefl _)
  · exact ⟨_, _, op, _, _, op', asked, asked', clash⟩

end

/-- In every sequence of transactions each authorised operation moves exactly its own wrapper's nonce,
nothing else verifies any credentials, and no challenge is accepted twice, short of an explicit collision
of `sha2_256`. -/
theorem no_replay (natives : Natives) (chain : Chain c) (inputs : List (Tx × Call c)) (distinct : chain.Distinct) :
    (∀ record ∈ records (Chain.exec natives) chain inputs, BumpsNonce natives record) ∧
      (∀ record ∈ records (Chain.exec natives) chain inputs,
        record.input.2.operation = none → record.output.verifications = []) ∧
      (records (Chain.exec natives) chain inputs).Pairwise (NoReplay natives) := by
  refine ⟨?_, ?_, ?_⟩
  · intro record recorded
    obtain ⟨kept, done⟩ := records_invariant Chain.Distinct.exec distinct recorded
    exact bumpsNonce_of_exec kept done
  · intro record recorded other
    exact verifications_of_none (records_invariant Chain.Distinct.exec distinct recorded).2 other
  · exact records_pairwise Chain.Distinct.exec spent_of_exec (fun kept spent done => spent.exec kept done)
      (fun kept spent done => spent.noReplay kept done) distinct inputs

/-! ### Two operations in a row -/

namespace sample

def address (byte : UInt8) : Address := ⟨List.replicate 32 byte, List.length_replicate⟩

/-- A coordinator that hands out numbered caps and keeps half of the coins for a presign. -/
def coordinator : Coordinator where
  State := UInt8
  DWalletCap := ID
  ImportedKeyDWalletCap := ID
  SessionIdentifier := Bytes
  UnverifiedPresignCap := ID
  VerifiedPresignCap := ID
  MessageApproval := ID × UInt32 × UInt32 × Bytes
  ImportedKeyMessageApproval := ID × UInt32 × UInt32 × Bytes
  UnverifiedPartialUserSignatureCap := ID
  VerifiedPartialUserSignatureCap := ID
  dwalletId := id
  importedKeyDwalletId := id
  registerSessionIdentifier state bytes _ := .ok (bytes, state)
  verifyPresignCap state cap _ := .ok (cap, state)
  approveMessage state cap algorithm hash message := .ok ((cap, algorithm, hash, message), state)
  approveImportedKeyMessage state cap algorithm hash message := .ok ((cap, algorithm, hash, message), state)
  requestSignAndReturnId state _ _ _ _ payment _ := .ok ⟨(address state, state + 1), payment, le_rfl, le_rfl⟩
  requestImportedKeySignAndReturnId state _ _ _ _ payment _ :=
    .ok ⟨(address state, state + 1), payment, le_rfl, le_rfl⟩
  requestFutureSign state _ _ _ _ _ _ payment _ := .ok ⟨(address state, state + 1), payment, le_rfl, le_rfl⟩
  verifyPartialUserSignatureCap state cap _ := .ok (cap, state)
  requestSignWithPartialUserSignatureAndReturnId state _ _ _ payment _ :=
    .ok ⟨(address state, state + 1), payment, le_rfl, le_rfl⟩
  requestDwalletDkg state _ _ _ _ _ _ _ _ payment _ := .ok ⟨(address state, state + 1), payment, le_rfl, le_rfl⟩
  requestDwalletDkgWithPublicUserSecretKeyShare state _ _ _ _ _ _ payment _ :=
    .ok ⟨(address state, state + 1), payment, le_rfl, le_rfl⟩
  requestImportedKeyDwalletVerification state _ _ _ _ _ _ _ _ payment _ :=
    .ok ⟨(address state, state + 1), payment, le_rfl, le_rfl⟩
  acceptEncryptedUserShare state _ _ _ := .ok state
  requestGlobalPresign state _ _ _ _ payment _ :=
    .ok ⟨(address state, state + 1), ⟨payment.ika / 2, payment.sui / 2⟩, Nat.div_le_self _ _, Nat.div_le_self _ _⟩

def sender : Address := address 7

def start : coordinator.State := (100 : UInt8)

def genesis : Chain coordinator := Chain.genesis start (address 8) (address 9)

/-- One account with one shared wallet, whose only member is the sender. -/
def wallet : Account coordinator :=
  Account.registerAccount.putShared (address 2)
    ⟨address 3, address 2, ⟨[(Credential.senderAddress sender).id], List.nodup_singleton _⟩, 1, 0⟩

def chain : Chain coordinator :=
  { genesis with created := [address 1, address 3, address 8, address 9] }.putAccount (address 1) wallet

theorem chain_distinct : chain.Distinct := by
  have only : ∀ {accountId : ID} {account : Account coordinator}, chain.accounts accountId = some account →
      accountId = address 1 ∧ account = wallet := by
    intro accountId account found
    simp only [chain, genesis, Chain.putAccount, Chain.genesis] at found
    split at found
    next same => exact ⟨same, (Option.some.inj found).symm⟩
    next => cases found
  have wrapped : ∀ {accountId dwalletId : ID} {stored : StoredSharedDWallet coordinator},
      chain.wrapper accountId dwalletId = some stored → accountId = address 1 ∧ dwalletId = address 2 ∧
        stored.id = address 3 := by
    intro accountId dwalletId stored found
    simp only [Chain.wrapper, Option.bind_eq_some_iff] at found
    obtain ⟨account, here, inside⟩ := found
    obtain ⟨rfl, rfl⟩ := only here
    simp only [wallet, Account.shared_putShared, Account.registerAccount] at inside
    split at inside
    next same =>
      cases inside
      exact ⟨rfl, same, rfl⟩
    next => cases inside
  constructor
  case account_created =>
    intro accountId account found
    rw [(only found).1]
    exact List.mem_cons_self
  case wrapper_created =>
    intro accountId dwalletId stored found
    rw [(wrapped found).2.2]
    exact List.mem_cons_of_mem _ List.mem_cons_self
  case wrapper_unique =>
    intro accountId dwalletId accountId' dwalletId' stored stored' found found' _
    obtain ⟨rfl, rfl, _⟩ := wrapped found
    obtain ⟨rfl, rfl, _⟩ := wrapped found'
    exact ⟨rfl, rfl⟩

/-- The real digests of the two challenges below. -/
def natives : Natives where
  sha2_256 bytes :=
    if bytes = challenges.preimage challenges.tagSetThreshold (address 3).bytes 0 (challenges.u64ToLeBytes 1) then
      auth.sample.bigEndian 32 0x39a3101aae695c60e40daf892038756fe5160d77a3b07ce69ed640117b3b2933
    else if bytes = challenges.preimage challenges.tagSetThreshold (address 3).bytes 1 (challenges.u64ToLeBytes 1) then
      auth.sample.bigEndian 32 0xf40da7c6eb816623efef66bfe4d4c8e20138579a80a260419f3e8a9d07060d53
    else []
  blake2b256 _ := []
  ed25519Verify _ _ _ := false
  secp256k1Verify _ _ _ _ := false
  secp256r1Verify _ _ _ _ := false

def again (accountId wrapperId : UInt8) : Tx × Call coordinator :=
  (⟨⟨sender⟩, address accountId, address wrapperId⟩, .setThreshold (address 1) (address 2) 1 [.senderAddress sender])

end sample

/-- The same request goes through twice, the second time under a new challenge. -/
theorem no_replay_sample :
    (records (Chain.exec sample.natives) sample.chain [sample.again 20 21, sample.again 22 23]).length = 2 ∧
      (∀ record ∈ records (Chain.exec sample.natives) sample.chain [sample.again 20 21, sample.again 22 23],
        BumpsNonce sample.natives record) ∧
      (records (Chain.exec sample.natives) sample.chain [sample.again 20 21, sample.again 22 23]).Pairwise
        (NoReplay sample.natives) :=
  let whole := no_replay sample.natives sample.chain [sample.again 20 21, sample.again 22 23] sample.chain_distinct
  ⟨by decide +kernel, whole.1, whole.2.2⟩

end MpcKit.Core
