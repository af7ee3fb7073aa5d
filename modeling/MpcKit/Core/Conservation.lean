import MpcKit.Core.Replay

/-! The treasury loses nothing: what was deposited is still there, was kept by the coordinator as a
fee, or was drained by the holder of an admin cap. -/

namespace MpcKit.Core
open MpcKit.Transact

variable {c : Coordinator}

/-- The amounts a receipt names account for the change of the treasury. -/
structure Balanced (chain : Chain c) (call : Call c) (result : Receipt c × Chain c) : Prop where
  ika : result.2.treasury.ika.toNat + result.1.fee.ika + result.1.drained.ika =
    chain.treasury.ika.toNat + result.1.deposited.ika
  sui : result.2.treasury.sui.toNat + result.1.fee.sui + result.1.drained.sui =
    chain.treasury.sui.toNat + result.1.deposited.sui
  drained : result.1.drained ≠ .zero → ∃ admin, call = .drain admin ∧ admin ∈ chain.adminCaps

/-- A call that leaves the treasury alone and reports no coins. -/
theorem balanced_of_same {chain : Chain c} {call : Call c} {result : Receipt c × Chain c}
    (treasury : result.2.treasury = chain.treasury) (deposited : result.1.deposited = .zero)
    (fee : result.1.fee = .zero) (drained : result.1.drained = .zero) : Balanced chain call result := by
  refine ⟨?_, ?_, fun some => absurd drained some⟩
  · rw [treasury, deposited, fee, drained]
    rfl
  · rw [treasury, deposited, fee, drained]
    rfl

theorem balanced_of_spent {chain : Chain c} {call : Call c} {result : Receipt c × Chain c} {α : Type}
    {pay : (payment : Payment) → Except Abort (Paid payment α)} {spent : Treasury.Spent α}
    (done : chain.treasury.spend pay = .ok spent) (treasury : result.2.treasury = spent.treasury)
    (deposited : result.1.deposited = .zero) (fee : result.1.fee = spent.fee) (drained : result.1.drained = .zero) :
    Balanced chain call result := by
  obtain ⟨ika, sui⟩ := Treasury.spend_conserves done
  refine ⟨?_, ?_, fun some => absurd drained some⟩
  · rw [treasury, deposited, fee, drained]
    exact ika
  · rw [treasury, deposited, fee, drained]
    exact sui

theorem call_balanced (natives : Natives) (chain : Chain c) (tx : Tx) (call : Call c) :
    Ends (Balanced chain call) (chain.call natives tx call) := by
  cases call with
  | depositIka coin =>
    refine Ends.bind fun treasury added => Ends.pure ?_
    simp only [Treasury.depositIka, bind_eq_ok, pure_eq_ok] at added
    obtain ⟨ika, sum, rfl⟩ := added
    exact ⟨toNat_of_checkedAdd sum, rfl, fun some => absurd rfl some⟩
  | depositSui coin =>
    refine Ends.bind fun treasury added => Ends.pure ?_
    simp only [Treasury.depositSui, bind_eq_ok, pure_eq_ok] at added
    obtain ⟨sui, sum, rfl⟩ := added
    exact ⟨rfl, toNat_of_checkedAdd sum, fun some => absurd rfl some⟩
  | payRegisterAndDkgZeroTrust =>
    exact Ends.bind fun _ _ => Ends.bind fun _ spent => Ends.pure (balanced_of_spent spent rfl rfl rfl rfl)
  | payDkgZeroTrust =>
    exact Ends.bind fun _ _ => Ends.bind fun _ _ => Ends.bind fun _ spent =>
      Ends.pure (balanced_of_spent spent rfl rfl rfl rfl)
  | payPresign =>
    exact Ends.bind fun _ _ => Ends.bind fun _ spent => Ends.pure (balanced_of_spent spent rfl rfl rfl rfl)
  | paySignZeroTrust =>
    exact Ends.bind fun _ _ => Ends.bind fun _ _ => Ends.bind fun _ spent =>
      Ends.pure (balanced_of_spent spent rfl rfl rfl rfl)
  | drain admin =>
    refine Ends.bind fun _ held => Ends.pure ?_
    exact ⟨by simp [Amounts.zero], by simp [Amounts.zero],
      fun _ => ⟨admin, rfl, assert_eq_ok.mp held⟩⟩
  | mintOperator => exact Ends.bind fun _ _ => Ends.pure (balanced_of_same rfl rfl rfl rfl)
  | burnOperator =>
    exact Ends.bind fun _ _ => Ends.bind fun _ _ => Ends.pure (balanced_of_same rfl rfl rfl rfl)
  | registerAccount => exact Ends.bind fun _ _ => Ends.pure (balanced_of_same rfl rfl rfl rfl)
  | addCredential =>
    exact Ends.bind fun _ _ => Ends.bind fun _ _ => Ends.pure (balanced_of_same rfl rfl rfl rfl)
  | removeCredential =>
    exact Ends.bind fun _ _ => Ends.bind fun _ _ => Ends.pure (balanced_of_same rfl rfl rfl rfl)
  | setThreshold =>
    exact Ends.bind fun _ _ => Ends.bind fun _ _ => Ends.pure (balanced_of_same rfl rfl rfl rfl)
  | requestDkgZeroTrust =>
    exact Ends.bind fun _ _ => Ends.bind fun _ _ => Ends.bind fun _ _ => Ends.pure (balanced_of_same rfl rfl rfl rfl)
  | acceptUserShare =>
    exact Ends.bind fun _ _ => Ends.bind fun _ _ => Ends.pure (balanced_of_same rfl rfl rfl rfl)
  | requestDkgShared =>
    exact Ends.bind fun _ _ => Ends.bind fun _ _ => Ends.bind fun _ _ => Ends.pure (balanced_of_same rfl rfl rfl rfl)
  | requestImportedKeyDwalletVerification =>
    exact Ends.bind fun _ _ => Ends.bind fun _ _ => Ends.bind fun _ _ => Ends.pure (balanced_of_same rfl rfl rfl rfl)
  | requestImportedKeySign =>
    exact Ends.bind fun _ _ => Ends.bind fun _ _ => Ends.pure (balanced_of_same rfl rfl rfl rfl)
  | requestSignZeroTrust =>
    exact Ends.bind fun _ _ => Ends.bind fun _ _ => Ends.pure (balanced_of_same rfl rfl rfl rfl)
  | requestSignShared =>
    exact Ends.bind fun _ _ => Ends.bind fun _ _ => Ends.pure (balanced_of_same rfl rfl rfl rfl)
  | requestFutureSign =>
    exact Ends.bind fun _ _ => Ends.bind fun _ _ => Ends.pure (balanced_of_same rfl rfl rfl rfl)
  | verifyPartialUserSignatureCap => exact Ends.bind fun _ _ => Ends.pure (balanced_of_same rfl rfl rfl rfl)
  | completeFutureSign =>
    exact Ends.bind fun _ _ => Ends.bind fun _ _ => Ends.pure (balanced_of_same rfl rfl rfl rfl)
  | coordinatorMoves => exact Ends.pure (balanced_of_same rfl rfl rfl rfl)

theorem exec_balanced {natives : Natives} {chain after : Chain c} {input : Tx × Call c} {receipt : Receipt c}
    (done : chain.exec natives input = .ok (receipt, after)) : Balanced chain input.2 (receipt, after) := by
  simp only [Chain.exec, bind_eq_ok, assert_eq_ok, exists_const, pure_eq_ok, Prod.mk.injEq, Prod.exists] at done
  obtain ⟨_, _, left, called, rfl, rfl⟩ := done
  have balanced := call_balanced natives chain input.1 input.2 _ called
  exact ⟨balanced.ika, balanced.sui, balanced.drained⟩

/-- The entries that pay out of the treasury. -/
def Call.IsPay : Call c → Prop
  | .payRegisterAndDkgZeroTrust .. => True
  | .payDkgZeroTrust .. => True
  | .payPresign .. => True
  | .paySignZeroTrust .. => True
  | _ => False

theorem deposited_of_isPay {natives : Natives} {chain after : Chain c} {input : Tx × Call c} {receipt : Receipt c}
    (done : chain.exec natives input = .ok (receipt, after)) (pays : input.2.IsPay) :
    receipt.deposited = .zero ∧ receipt.drained = .zero := by
  obtain ⟨tx, call⟩ := input
  simp only [Chain.exec, bind_eq_ok, assert_eq_ok, exists_const, pure_eq_ok, Prod.mk.injEq, Prod.exists] at done
  obtain ⟨_, _, left, called, rfl, rfl⟩ := done
  have ends : Ends (fun result : Receipt c × Chain c => result.1.deposited = .zero ∧ result.1.drained = .zero)
      (chain.call natives tx call) := by
    cases call with
    | payRegisterAndDkgZeroTrust => exact Ends.bind fun _ _ => Ends.bind fun _ _ => Ends.pure ⟨rfl, rfl⟩
    | payDkgZeroTrust =>
      exact Ends.bind fun _ _ => Ends.bind fun _ _ => Ends.bind fun _ _ => Ends.pure ⟨rfl, rfl⟩
    | payPresign => exact Ends.bind fun _ _ => Ends.bind fun _ _ => Ends.pure ⟨rfl, rfl⟩
    | paySignZeroTrust =>
      exact Ends.bind fun _ _ => Ends.bind fun _ _ => Ends.bind fun _ _ => Ends.pure ⟨rfl, rfl⟩
    | _ => exact pays.elim
  exact ends _ called

/-- What the coordinator kept of the treasury's coins for a zero-trust key, by its own result. -/
def DkgCharged (chain : Chain c) (tx : Tx) (fee : Amounts) (args : DkgArgs) : Prop :=
  ∃ session state paid,
    c.registerSessionIdentifier chain.state args.sessionIdentifierBytes tx.ctx = .ok (session, state) ∧
    c.requestDwalletDkg state args.networkEncryptionKeyId args.curve args.centralizedPublicKeyShareAndProof
      args.encryptedCentralizedSecretShareAndProof args.encryptionKeyAddress args.userPublicOutput args.signerPublicKey
      session ⟨chain.treasury.ika, chain.treasury.sui⟩ tx.ctx = .ok paid ∧
    fee = ⟨paid.ikaFee, paid.suiFee⟩

/-- What the coordinator kept of the treasury's coins for a zero-trust signature, by its own result. -/
def SignCharged (chain : Chain c) (tx : Tx) (fee : Amounts) (accountId : ID) (args : SignArgs c) : Prop :=
  ∃ account stored verified presigned approval approved session registered paid,
    chain.accounts accountId = some account ∧ account.dwallets args.dwalletId = some stored ∧
    c.verifyPresignCap chain.state args.presignCap tx.ctx = .ok (verified, presigned) ∧
    c.approveMessage presigned stored.cap args.signatureAlgorithm args.hashScheme args.message =
      .ok (approval, approved) ∧
    c.registerSessionIdentifier approved args.sessionIdentifierBytes tx.ctx = .ok (session, registered) ∧
    c.requestSignAndReturnId registered verified approval args.messageCentralizedSignature session
      ⟨chain.treasury.ika, chain.treasury.sui⟩ tx.ctx = .ok paid ∧
    fee = ⟨paid.ikaFee, paid.suiFee⟩

theorem dkgCharged_of_spend {chain : Chain c} {tx : Tx} {account : Account c} {args : DkgArgs} {newId : ID}
    {spent : Treasury.Spent (Entered c Unit)}
    (done : chain.treasury.payDkgZeroTrust chain.state tx.ctx account args newId = .ok spent) :
    DkgCharged chain tx spent.fee args := by
  obtain ⟨paid, passed, _, fee⟩ := Treasury.exists_paid_of_spend done
  simp only [dkg.requestDkgZeroTrust, bind_eq_ok, pure_eq_ok, Prod.exists] at passed
  obtain ⟨session, state, registered, returned, requested, _, _, rfl⟩ := passed
  exact ⟨session, state, returned, registered, requested, fee⟩

theorem signCharged_of_spend {chain : Chain c} {tx : Tx} {accountId : ID} {account : Account c}
    (found : chain.accounts accountId = some account) {args : SignArgs c} {spent : Treasury.Spent (Entered c ID)}
    (done : chain.treasury.paySignZeroTrust chain.state tx.ctx account args = .ok spent) :
    SignCharged chain tx spent.fee accountId args := by
  obtain ⟨paid, passed, _, fee⟩ := Treasury.exists_paid_of_spend done
  simp only [sign.requestSignZeroTrust, Account.dwalletCap, bind_eq_ok, bind_assoc, pure_bind, Account.borrow_eq_ok,
    pure_eq_ok, Prod.exists] at passed
  obtain ⟨_, _, verified, presigned, checked, stored, held, approval, approved, allowed, session, registered, known,
    returned, requested, rfl⟩ := passed
  exact ⟨account, stored, verified, presigned, approval, approved, session, registered, returned, found, held, checked,
    allowed, known, requested, fee⟩

/-- What the coordinator kept of the coins in the treasury, by the result of its own paid function. -/
def Charged (chain : Chain c) (tx : Tx) (fee : Amounts) : Call c → Prop
  | .payRegisterAndDkgZeroTrust _ args => DkgCharged chain tx fee args
  | .payDkgZeroTrust _ _ args => DkgCharged chain tx fee args
  | .payPresign _ networkEncryptionKeyId curve signatureAlgorithm sessionIdentifierBytes =>
      ∃ session state paid,
        c.registerSessionIdentifier chain.state sessionIdentifierBytes tx.ctx = .ok (session, state) ∧
        c.requestGlobalPresign state networkEncryptionKeyId curve signatureAlgorithm session
          ⟨chain.treasury.ika, chain.treasury.sui⟩ tx.ctx = .ok paid ∧
        fee = ⟨paid.ikaFee, paid.suiFee⟩
  | .paySignZeroTrust _ accountId args => SignCharged chain tx fee accountId args
  | _ => fee = .zero

/-- Only the entries that pay out of the treasury report a fee. -/
theorem call_free (natives : Natives) (chain : Chain c) (tx : Tx) {call : Call c} (free : ¬call.IsPay) :
    Ends (fun result : Receipt c × Chain c => result.1.fee = .zero) (chain.call natives tx call) := by
  cases call with
  | payRegisterAndDkgZeroTrust | payDkgZeroTrust | payPresign | paySignZeroTrust => exact absurd trivial free
  | coordinatorMoves => exact Ends.pure rfl
  | mintOperator | registerAccount | depositIka | depositSui | verifyPartialUserSignatureCap =>
    exact Ends.bind fun _ _ => Ends.pure rfl
  | drain => exact Ends.bind fun _ _ => Ends.pure rfl
  | burnOperator | addCredential | removeCredential | setThreshold | acceptUserShare | requestImportedKeySign
    | requestSignZeroTrust | requestSignShared | requestFutureSign | completeFutureSign =>
    exact Ends.bind fun _ _ => Ends.bind fun _ _ => Ends.pure rfl
  | requestDkgZeroTrust | requestDkgShared | requestImportedKeyDwalletVerification =>
    exact Ends.bind fun _ _ => Ends.bind fun _ _ => Ends.bind fun _ _ => Ends.pure rfl

theorem call_charged {natives : Natives} {chain : Chain c} {tx : Tx} {call : Call c} {result : Receipt c × Chain c}
    (done : chain.call natives tx call = .ok result) : Charged chain tx result.1.fee call := by
  cases call with
  | payRegisterAndDkgZeroTrust operator args =>
    simp only [Chain.call, bind_eq_ok, pure_eq_ok] at done
    obtain ⟨_, _, _, spent, rfl⟩ := done
    exact dkgCharged_of_spend spent
  | payDkgZeroTrust operator accountId args =>
    simp only [Chain.call, bind_eq_ok, pure_eq_ok] at done
    obtain ⟨_, _, _, _, _, spent, rfl⟩ := done
    exact dkgCharged_of_spend spent
  | paySignZeroTrust operator accountId args =>
    simp only [Chain.call, bind_eq_ok, pure_eq_ok, Chain.account_eq_ok] at done
    obtain ⟨_, _, account, found, _, spent, rfl⟩ := done
    exact signCharged_of_spend found spent
  | payPresign operator networkEncryptionKeyId curve signatureAlgorithm sessionIdentifierBytes =>
    simp only [Chain.call, bind_eq_ok, pure_eq_ok] at done
    obtain ⟨_, _, _, spent, rfl⟩ := done
    obtain ⟨paid, passed, _, fee⟩ := Treasury.exists_paid_of_spend spent
    simp only [bind_eq_ok, Prod.exists] at passed
    obtain ⟨session, state, registered, returned⟩ := passed
    exact ⟨session, state, paid, registered, returned, fee⟩
  | _ =>
    refine call_free natives chain tx ?_ _ done
    exact not_false

theorem exec_charged {natives : Natives} {chain after : Chain c} {input : Tx × Call c} {receipt : Receipt c}
    (done : chain.exec natives input = .ok (receipt, after)) : Charged chain input.1 receipt.fee input.2 := by
  simp only [Chain.exec, bind_eq_ok, assert_eq_ok, exists_const, pure_eq_ok, Prod.mk.injEq, Prod.exists] at done
  obtain ⟨_, _, _, called, rfl, rfl⟩ := done
  exact call_charged called

/-- Over any sequence of calls the deposits are what the treasury holds, what the coordinator took
and what was drained. A paying call takes out only what the coordinator did not hand back, an aborted call
nothing, and anything else leaves only with an admin cap. -/
theorem treasury_conserved (natives : Natives) (state : c.State) (admin operator : ID) (inputs : List (Tx × Call c)) :
    let history := records (Chain.exec natives) (Chain.genesis state admin operator) inputs
    let treasury := (final (Chain.exec natives) (Chain.genesis state admin operator) inputs).treasury
    (treasury.ika.toNat + (history.map fun record => record.output.fee.ika + record.output.drained.ika).sum =
        (history.map fun record => record.output.deposited.ika).sum ∧
      treasury.sui.toNat + (history.map fun record => record.output.fee.sui + record.output.drained.sui).sum =
        (history.map fun record => record.output.deposited.sui).sum) ∧
    (∀ record ∈ history, Charged record.before record.input.1 record.output.fee record.input.2) ∧
    (∀ record ∈ history, record.input.2.IsPay →
      record.after.treasury.ika.toNat + record.output.fee.ika = record.before.treasury.ika.toNat ∧
      record.after.treasury.sui.toNat + record.output.fee.sui = record.before.treasury.sui.toNat) ∧
    (∀ (chain : Chain c) (input : Tx × Call c) (abort : Abort), chain.exec natives input = .error abort →
      (step (Chain.exec natives) chain input).treasury = chain.treasury) ∧
    ∀ record ∈ history,
      (record.after.treasury.ika.toNat + record.output.fee.ika < record.before.treasury.ika.toNat ∨
        record.after.treasury.sui.toNat + record.output.fee.sui < record.before.treasury.sui.toNat) →
      ∃ cap, record.input.2 = .drain cap ∧ cap ∈ record.before.adminCaps := by
  intro history treasury
  have recorded : ∀ record ∈ history, Chain.exec natives record.before record.input = .ok (record.output, record.after) := by
    intro record inside
    exact (records_invariant (fun _ _ => trivial) trivial inside).2
  refine ⟨⟨?_, ?_⟩, fun record inside => exec_charged (recorded record inside), ?_, ?_, ?_⟩
  · refine (final_balance (fun chain : Chain c => chain.treasury.ika.toNat)
      (fun receipt : Receipt c => receipt.deposited.ika)
      (fun receipt : Receipt c => receipt.fee.ika + receipt.drained.ika) ?_ _ inputs).trans (Nat.zero_add _)
    intro chain after input receipt done
    rw [← Nat.add_assoc]
    exact (exec_balanced done).ika
  · refine (final_balance (fun chain : Chain c => chain.treasury.sui.toNat)
      (fun receipt : Receipt c => receipt.deposited.sui)
      (fun receipt : Receipt c => receipt.fee.sui + receipt.drained.sui) ?_ _ inputs).trans (Nat.zero_add _)
    intro chain after input receipt done
    rw [← Nat.add_assoc]
    exact (exec_balanced done).sui
  · intro record inside pays
    have balanced := exec_balanced (recorded record inside)
    obtain ⟨deposited, drained⟩ := deposited_of_isPay (recorded record inside) pays
    have ika := balanced.ika
    have sui := balanced.sui
    simp only [deposited, drained, Amounts.zero, Nat.add_zero] at ika sui
    exact ⟨ika, sui⟩
  · intro chain input abort aborted
    rw [step_of_error aborted]
  · intro record inside less
    have balanced := exec_balanced (recorded record inside)
    apply balanced.drained
    intro (nothing : record.output.drained = .zero)
    have ika := balanced.ika
    have sui := balanced.sui
    simp only [nothing, Amounts.zero, Nat.add_zero] at ika sui
    -- Without coins handed out, a balance and its fee are at least what was there before.
    omega

/-- Ten IKA go in, five are the fee of a presign, five are drained. -/
theorem treasury_conserved_sample :
    let inputs : List (Tx × Call sample.coordinator) :=
      [(⟨⟨sample.sender⟩, sample.address 20, sample.address 21⟩, .depositIka 10),
        (⟨⟨sample.sender⟩, sample.address 22, sample.address 23⟩,
          .payPresign (sample.address 9) (sample.address 40) 0 0 [1]),
        (⟨⟨sample.sender⟩, sample.address 24, sample.address 25⟩, .drain (sample.address 8))]
    let history := records (Chain.exec sample.natives) sample.genesis inputs
    (history.map fun record => record.output.fee.ika) = [0, 5, 0] ∧
      (history.map fun record => record.output.fee.ika + record.output.drained.ika).sum = 10 := by
  intro inputs history
  refine ⟨by decide +kernel, ?_⟩
  have total := (treasury_conserved sample.natives sample.start (sample.address 8) (sample.address 9) inputs).1.1
  have empty : (final (Chain.exec sample.natives) sample.genesis inputs).treasury.ika.toNat = 0 := by
    decide +kernel
  have deposits : (history.map fun record => record.output.deposited.ika).sum = 10 := by
    decide +kernel
  exact ((congrArg (· + _) empty).trans (Nat.zero_add _)).symm.trans (total.trans deposits)

end MpcKit.Core
