import MpcKit.Core.Chain

/-! What a call gets from the coordinator, as the coordinator itself keeps it: a history of the caps and
the approvals that its functions have returned. -/

namespace MpcKit.Core
open MpcKit.Transact

/-- A cap or an approval that a function of the coordinator has returned. -/
inductive Answer (c : Coordinator) where
  | dwalletCap (cap : c.DWalletCap)
  | importedKeyCap (cap : c.ImportedKeyDWalletCap)
  | approval (cap : c.DWalletCap) (signatureAlgorithm hashScheme : UInt32) (message : Bytes)

/-- The state of a coordinator next to its history. -/
structure Logged (c : Coordinator) where
  state : c.State
  answers : List (Answer c)

/-- What a function returned, with the answers it gave added to the history. -/
def Logged.tell {c : Coordinator} {α : Type} (before : Logged c) (answers : α → List (Answer c))
    (result : α × c.State) :
    α × Logged c :=
  (result.1, ⟨result.2, before.answers ++ answers result.1⟩)

/-- The coordinator `c` with its history. Every function does what that of `c` does. -/
def Coordinator.logged (c : Coordinator) : Coordinator where
  State := Logged c
  DWalletCap := c.DWalletCap
  ImportedKeyDWalletCap := c.ImportedKeyDWalletCap
  SessionIdentifier := c.SessionIdentifier
  UnverifiedPresignCap := c.UnverifiedPresignCap
  VerifiedPresignCap := c.VerifiedPresignCap
  MessageApproval := c.MessageApproval
  ImportedKeyMessageApproval := c.ImportedKeyMessageApproval
  UnverifiedPartialUserSignatureCap := c.UnverifiedPartialUserSignatureCap
  VerifiedPartialUserSignatureCap := c.VerifiedPartialUserSignatureCap
  dwalletId := c.dwalletId
  importedKeyDwalletId := c.importedKeyDwalletId
  registerSessionIdentifier before bytes ctx :=
    before.tell (fun _ => []) <$> c.registerSessionIdentifier before.state bytes ctx
  verifyPresignCap before cap ctx := before.tell (fun _ => []) <$> c.verifyPresignCap before.state cap ctx
  approveMessage before cap algorithm hash message :=
    before.tell (fun _ => [.approval cap algorithm hash message]) <$>
      c.approveMessage before.state cap algorithm hash message
  approveImportedKeyMessage before cap algorithm hash message :=
    before.tell (fun _ => []) <$> c.approveImportedKeyMessage before.state cap algorithm hash message
  requestSignAndReturnId before presign approval signature session payment ctx :=
    Paid.map (before.tell (fun _ => [])) <$>
      c.requestSignAndReturnId before.state presign approval signature session payment ctx
  requestImportedKeySignAndReturnId before presign approval signature session payment ctx :=
    Paid.map (before.tell (fun _ => [])) <$>
      c.requestImportedKeySignAndReturnId before.state presign approval signature session payment ctx
  requestFutureSign before dwalletId presign message hash signature session payment ctx :=
    Paid.map (before.tell (fun _ => [])) <$>
      c.requestFutureSign before.state dwalletId presign message hash signature session payment ctx
  verifyPartialUserSignatureCap before cap ctx :=
    before.tell (fun _ => []) <$> c.verifyPartialUserSignatureCap before.state cap ctx
  requestSignWithPartialUserSignatureAndReturnId before cap approval session payment ctx :=
    Paid.map (before.tell (fun _ => [])) <$>
      c.requestSignWithPartialUserSignatureAndReturnId before.state cap approval session payment ctx
  requestDwalletDkg before network curve share secret encryption output signer session payment ctx :=
    Paid.map (before.tell (fun cap => [.dwalletCap cap])) <$>
      c.requestDwalletDkg before.state network curve share secret encryption output signer session payment ctx
  requestDwalletDkgWithPublicUserSecretKeyShare before network curve share output secret session payment ctx :=
    Paid.map (before.tell (fun cap => [.dwalletCap cap])) <$>
      c.requestDwalletDkgWithPublicUserSecretKeyShare before.state network curve share output secret session payment ctx
  requestImportedKeyDwalletVerification before network curve party secret encryption output signer
      session payment ctx :=
    Paid.map (before.tell (fun cap => [.importedKeyCap cap])) <$>
      c.requestImportedKeyDwalletVerification before.state network curve party secret encryption output signer session
        payment ctx
  acceptEncryptedUserShare before dwalletId shareId signature :=
    (fun state => ⟨state, before.answers⟩) <$> c.acceptEncryptedUserShare before.state dwalletId shareId signature
  requestGlobalPresign before network curve algorithm session payment ctx :=
    Paid.map (before.tell (fun _ => [])) <$>
      c.requestGlobalPresign before.state network curve algorithm session payment ctx

variable {c : Coordinator}

/-- Everything the coordinator has returned so far. -/
def Chain.history (chain : Chain c.logged) : List (Answer c) := Logged.answers chain.state

/-- What the coordinator has returned to a call; what it does on its own returns nothing. -/
def answers (record : Record (Chain c.logged) (Tx × Call c.logged) (Receipt c.logged)) : List (Answer c) :=
  match record.input.2 with
  | .coordinatorMoves _ => []
  | _ => record.after.history.drop record.before.history.length

/-! ### An entry records what it was answered -/

/-- The answer behind an event. -/
def Event.answer : Event c.logged → Option (Answer c)
  | .received cap => some (.dwalletCap cap)
  | .receivedImportedKey cap => some (.importedKeyCap cap)
  | .approved cap algorithm hash message => some (.approval cap algorithm hash message)
  | _ => none

/-- The history has grown by the answers behind the events. -/
def Told (before after : Logged c) (events : List (Event c.logged)) : Prop :=
  after.answers = before.answers ++ events.filterMap Event.answer

theorem Told.quiet {before after : Logged c} (same : after.answers = before.answers) : Told before after [] :=
  same.trans (List.append_nil _).symm

section Functions

variable {α : Type} {before after : Logged c} {returned : α → List (Answer c)} {value : α}

theorem answers_of_tell {result : Except Abort (α × c.State)}
    (done : before.tell returned <$> result = .ok (value, after)) :
    after.answers = before.answers ++ returned value := by
  obtain ⟨_, _, same⟩ := map_eq_ok.mp done
  cases same
  rfl

theorem answers_of_quiet {result : Except Abort (α × c.State)}
    (done : before.tell (fun _ => []) <$> result = .ok (value, after)) : after.answers = before.answers :=
  (answers_of_tell done).trans (List.append_nil _)

theorem answers_of_approval {cap : c.DWalletCap} {algorithm hash : UInt32} {message : Bytes}
    {result : Except Abort (α × c.State)}
    (done : before.tell (fun _ => [.approval cap algorithm hash message]) <$> result = .ok (value, after)) :
    after.answers = before.answers ++ [.approval cap algorithm hash message] := by
  have told := answers_of_tell done
  exact told

theorem answers_of_paid {payment : Payment} {result : Except Abort (Paid payment (α × c.State))}
    {paid : Paid payment (α × Logged c)} (done : Paid.map (before.tell returned) <$> result = .ok paid) :
    paid.value.2.answers = before.answers ++ returned paid.value.1 := by
  obtain ⟨_, _, same⟩ := map_eq_ok.mp done
  cases same
  rfl

theorem answers_of_quietly_paid {payment : Payment} {result : Except Abort (Paid payment (α × c.State))}
    {paid : Paid payment (α × Logged c)} (done : Paid.map (before.tell (fun _ => [])) <$> result = .ok paid) :
    paid.value.2.answers = before.answers :=
  (answers_of_paid done).trans (List.append_nil _)

/-- The one answer of an entry that registers a session before it asks. -/
theorem answers_of_returned {start middle last : Logged c} {answer : Answer c} (before : middle.answers = start.answers)
    (returned : last.answers = middle.answers ++ [answer]) : last.answers = start.answers ++ [answer] := by
  rw [returned, before]

end Functions

section Entries

variable {natives : Natives} {account : Account c.logged} {state : c.logged.State} {signers : List Credential}
  {payment : Payment} {ctx : TxContext} {newId : ID}

theorem requestDkgZeroTrust_told {args : DkgArgs} {paid : Paid payment (Entered c.logged Unit)}
    (done : dkg.requestDkgZeroTrust account state args newId payment ctx = .ok paid) :
    Told state paid.value.state paid.value.events := by
  simp only [dkg.requestDkgZeroTrust, bind_eq_ok, pure_eq_ok, Prod.exists] at done
  obtain ⟨_, _, registered, _, returned, _, _, rfl⟩ := done
  exact answers_of_returned (answers_of_quiet registered) (answers_of_paid returned)

theorem requestDkgShared_told {args : SharedDkgArgs} {paid : Paid payment (Entered c.logged Unit)}
    (done : dkg.requestDkgShared account state args newId payment ctx = .ok paid) :
    Told state paid.value.state paid.value.events := by
  simp only [dkg.requestDkgShared, bind_eq_ok, pure_eq_ok, Prod.exists] at done
  obtain ⟨_, _, registered, _, returned, _, _, rfl⟩ := done
  exact answers_of_returned (answers_of_quiet registered) (answers_of_paid returned)

theorem requestImportedKeyDwalletVerification_told {args : ImportArgs} {paid : Paid payment (Entered c.logged Unit)}
    (done : importedKey.requestImportedKeyDwalletVerification account state args newId payment ctx = .ok paid) :
    Told state paid.value.state paid.value.events := by
  simp only [importedKey.requestImportedKeyDwalletVerification, bind_eq_ok, pure_eq_ok, Prod.exists] at done
  obtain ⟨_, _, registered, _, returned, _, _, rfl⟩ := done
  exact answers_of_returned (answers_of_quiet registered) (answers_of_paid returned)

theorem requestImportedKeySign_told {args : SignArgs c.logged} {paid : Paid payment (Entered c.logged ID)}
    (done : importedKey.requestImportedKeySign account state args payment ctx = .ok paid) :
    Told state paid.value.state paid.value.events := by
  simp only [importedKey.requestImportedKeySign, bind_eq_ok, pure_eq_ok, Prod.exists] at done
  obtain ⟨_, _, _, _, presigned, _, _, _, _, approved, _, _, registered, _, returned, rfl⟩ := done
  have first := answers_of_quiet presigned
  have second := answers_of_quiet approved
  have third := answers_of_quiet registered
  exact Told.quiet ((answers_of_quietly_paid returned).trans (third.trans (second.trans first)))

/-- What the two ways to sign with an approval have in common: between the presign and the session, the
coordinator approves the message. -/
theorem answers_of_signed {start first second third last : Logged c} {cap : c.DWalletCap} {algorithm hash : UInt32}
    {message : Bytes} (before : first.answers = start.answers)
    (approved : second.answers = first.answers ++ [.approval cap algorithm hash message])
    (registered : third.answers = second.answers) (returned : last.answers = third.answers) :
    last.answers = start.answers ++ [.approval cap algorithm hash message] := by
  have asked := answers_of_returned before approved
  rw [returned, registered, asked]

theorem requestSignZeroTrust_told {args : SignArgs c.logged} {paid : Paid payment (Entered c.logged ID)}
    (done : sign.requestSignZeroTrust account state args payment ctx = .ok paid) :
    Told state paid.value.state paid.value.events := by
  simp only [sign.requestSignZeroTrust, bind_eq_ok, pure_eq_ok, Prod.exists] at done
  obtain ⟨_, _, _, _, presigned, _, _, _, _, approved, _, _, registered, _, returned, rfl⟩ := done
  exact answers_of_signed (answers_of_quiet presigned) (answers_of_approval approved) (answers_of_quiet registered)
    (answers_of_quietly_paid returned)

theorem requestSignShared_told {args : SignArgs c.logged} {paid : Paid payment (Entered c.logged ID)}
    (done : sign.requestSignShared natives account signers state args payment ctx = .ok paid) :
    Told state paid.value.state paid.value.events := by
  simp only [sign.requestSignShared, bind_eq_ok, pure_eq_ok, Prod.exists] at done
  obtain ⟨_, _, _, _, _, _, _, _, _, _, _, presigned, _, _, _, _, approved, _, _, registered, _, returned, rfl⟩ := done
  exact answers_of_signed (answers_of_quiet presigned) (answers_of_approval approved) (answers_of_quiet registered)
    (answers_of_quietly_paid returned)

theorem requestFutureSign_told {args : FutureSignArgs c.logged}
    {paid : Paid payment (Entered c.logged c.logged.UnverifiedPartialUserSignatureCap)}
    (done : sign.requestFutureSign natives account signers state args payment ctx = .ok paid) :
    Told state paid.value.state paid.value.events := by
  simp only [sign.requestFutureSign, bind_eq_ok, pure_eq_ok, Prod.exists] at done
  obtain ⟨_, _, _, _, _, _, _, _, _, _, _, presigned, _, _, registered, _, returned, rfl⟩ := done
  have first := answers_of_quiet presigned
  have second := answers_of_quiet registered
  exact Told.quiet ((answers_of_quietly_paid returned).trans (second.trans first))

theorem completeFutureSign_told {args : CompleteSignArgs c.logged} {paid : Paid payment (Entered c.logged ID)}
    (done : sign.completeFutureSign natives account signers state args payment ctx = .ok paid) :
    Told state paid.value.state paid.value.events := by
  simp only [sign.completeFutureSign, bind_eq_ok, pure_eq_ok, Prod.exists] at done
  obtain ⟨_, _, _, _, _, _, _, _, _, _, _, _, _, approved, _, _, registered, _, returned, rfl⟩ := done
  exact answers_of_signed rfl (answers_of_approval approved) (answers_of_quiet registered)
    (answers_of_quietly_paid returned)

theorem acceptUserShare_told {dwalletId shareId : ID} {signature : Bytes} {after : c.logged.State}
    (done : dkg.acceptUserShare account state dwalletId shareId signature = .ok after) : Told state after [] := by
  simp only [dkg.acceptUserShare, bind_eq_ok] at done
  obtain ⟨_, _, accepted⟩ := done
  obtain ⟨_, _, same⟩ := map_eq_ok.mp accepted
  cases same
  exact Told.quiet rfl

theorem payPresign_told {treasury : Treasury} {networkEncryptionKeyId : ID} {curve signatureAlgorithm : UInt32}
    {sessionIdentifierBytes : Bytes} {result : Treasury.Spent (c.logged.UnverifiedPresignCap × c.logged.State)}
    (done : treasury.payPresign state ctx networkEncryptionKeyId curve signatureAlgorithm sessionIdentifierBytes =
      .ok result) : Told state result.value.2 [] := by
  obtain ⟨paid, passed, same, _⟩ := Treasury.exists_paid_of_spend done
  simp only [bind_eq_ok, Prod.exists] at passed
  obtain ⟨_, _, registered, returned⟩ := passed
  rw [same]
  exact Told.quiet ((answers_of_quietly_paid returned).trans (answers_of_quiet registered))

end Entries

/-! ### Every call -/

section Calls

variable {natives : Natives} {chain after : Chain c.logged} {tx : Tx} {receipt : Receipt c.logged}

theorem call_told {call : Call c.logged} (done : chain.call natives tx call = .ok (receipt, after))
    (asked : ∀ state, call ≠ .coordinatorMoves state) : Told chain.state after.state receipt.events := by
  cases call with
  | coordinatorMoves state => exact absurd rfl (asked state)
  | mintOperator | registerAccount | drain | depositIka | depositSui =>
    simp only [Chain.call, bind_eq_ok, pure_eq_ok, Chain.aside, Prod.mk.injEq] at done
    obtain ⟨_, _, rfl, rfl⟩ := done
    exact Told.quiet rfl
  | burnOperator =>
    simp only [Chain.call, bind_eq_ok, pure_eq_ok, Chain.aside, Prod.mk.injEq] at done
    obtain ⟨_, _, _, _, rfl, rfl⟩ := done
    exact Told.quiet rfl
  | addCredential | removeCredential | setThreshold =>
    simp only [Chain.call, bind_eq_ok, pure_eq_ok, Chain.verified, Prod.mk.injEq] at done
    obtain ⟨_, _, _, _, rfl, rfl⟩ := done
    exact Told.quiet rfl
  | requestDkgZeroTrust =>
    simp only [Chain.call, bind_eq_ok, pure_eq_ok, Chain.entered, Prod.mk.injEq] at done
    obtain ⟨_, _, _, _, _, entered, rfl, rfl⟩ := done
    exact requestDkgZeroTrust_told entered
  | requestDkgShared =>
    simp only [Chain.call, bind_eq_ok, pure_eq_ok, Chain.entered, Prod.mk.injEq] at done
    obtain ⟨_, _, _, _, _, entered, rfl, rfl⟩ := done
    exact requestDkgShared_told entered
  | requestImportedKeyDwalletVerification =>
    simp only [Chain.call, bind_eq_ok, pure_eq_ok, Chain.entered, Prod.mk.injEq] at done
    obtain ⟨_, _, _, _, _, entered, rfl, rfl⟩ := done
    exact requestImportedKeyDwalletVerification_told entered
  | requestImportedKeySign =>
    simp only [Chain.call, bind_eq_ok, pure_eq_ok, Chain.entered, Prod.mk.injEq] at done
    obtain ⟨_, _, _, entered, rfl, rfl⟩ := done
    exact requestImportedKeySign_told entered
  | requestSignZeroTrust =>
    simp only [Chain.call, bind_eq_ok, pure_eq_ok, Chain.entered, Prod.mk.injEq] at done
    obtain ⟨_, _, _, entered, rfl, rfl⟩ := done
    exact requestSignZeroTrust_told entered
  | requestSignShared =>
    simp only [Chain.call, bind_eq_ok, pure_eq_ok, Chain.entered, Prod.mk.injEq] at done
    obtain ⟨_, _, _, entered, rfl, rfl⟩ := done
    exact requestSignShared_told entered
  | requestFutureSign =>
    simp only [Chain.call, bind_eq_ok, pure_eq_ok, Chain.entered, Prod.mk.injEq] at done
    obtain ⟨_, _, _, entered, rfl, rfl⟩ := done
    exact requestFutureSign_told entered
  | completeFutureSign =>
    simp only [Chain.call, bind_eq_ok, pure_eq_ok, Chain.entered, Prod.mk.injEq] at done
    obtain ⟨_, _, _, entered, rfl, rfl⟩ := done
    exact completeFutureSign_told entered
  | acceptUserShare =>
    simp only [Chain.call, bind_eq_ok, pure_eq_ok, Chain.aside, Prod.mk.injEq] at done
    obtain ⟨_, _, _, accepted, rfl, rfl⟩ := done
    exact acceptUserShare_told accepted
  | verifyPartialUserSignatureCap =>
    simp only [Chain.call, bind_eq_ok, pure_eq_ok, Chain.aside, Prod.mk.injEq, Prod.exists] at done
    obtain ⟨_, _, verified, rfl, rfl⟩ := done
    exact Told.quiet (answers_of_quiet verified)
  | payRegisterAndDkgZeroTrust =>
    simp only [Chain.call, bind_eq_ok, pure_eq_ok, Chain.spent, Prod.mk.injEq] at done
    obtain ⟨_, _, _, spent, rfl, rfl⟩ := done
    obtain ⟨_, entered, same, _⟩ := Treasury.exists_paid_of_spend spent
    rw [same]
    exact requestDkgZeroTrust_told entered
  | payDkgZeroTrust =>
    simp only [Chain.call, bind_eq_ok, pure_eq_ok, Chain.spent, Prod.mk.injEq] at done
    obtain ⟨_, _, _, _, _, spent, rfl, rfl⟩ := done
    obtain ⟨_, entered, same, _⟩ := Treasury.exists_paid_of_spend spent
    rw [same]
    exact requestDkgZeroTrust_told entered
  | paySignZeroTrust =>
    simp only [Chain.call, bind_eq_ok, pure_eq_ok, Chain.spent, Prod.mk.injEq] at done
    obtain ⟨_, _, _, _, _, spent, rfl, rfl⟩ := done
    obtain ⟨_, entered, same, _⟩ := Treasury.exists_paid_of_spend spent
    rw [same]
    exact requestSignZeroTrust_told entered
  | payPresign =>
    simp only [Chain.call, bind_eq_ok, pure_eq_ok, Prod.mk.injEq] at done
    obtain ⟨_, _, _, spent, rfl, rfl⟩ := done
    exact payPresign_told spent

/-- The events of a call are behind all that the coordinator has returned to it, and behind nothing else. -/
theorem answers_of_exec {input : Tx × Call c.logged} (done : chain.exec natives input = .ok (receipt, after)) :
    answers ⟨chain, input, receipt, after⟩ = receipt.events.filterMap Event.answer := by
  obtain ⟨tx, call⟩ := input
  simp only [Chain.exec, bind_eq_ok, assert_eq_ok, exists_const, pure_eq_ok, Prod.mk.injEq, Prod.exists] at done
  obtain ⟨_, _, left, called, rfl, rfl⟩ := done
  have told := call_told called
  cases call with
  | coordinatorMoves state =>
    simp only [Chain.call, pure_eq_ok, Chain.aside, Prod.mk.injEq] at called
    obtain ⟨rfl, _⟩ := called
    rfl
  | _ =>
    have grown : left.state.answers = _ := told (by
      intro state other
      cases other)
    change (Logged.answers left.state).drop (Logged.answers chain.state).length = _
    rw [grown]
    exact List.drop_left

end Calls

end MpcKit.Core
