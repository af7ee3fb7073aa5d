import MpcKit.Async.Evidence
import MpcKit.Wallets.Service

/-! What a call of the dwallet service has read before it writes: whose row it is, which account
the cap went to, which key the chain told. -/

namespace MpcKit.Wallets
open MpcKit.Backend MpcKit.Async
open MpcKit.Billing (ChargeArgs RefundArgs BillingCharge)
open MpcKit.Sign (Account DWallet LedgerOp)
open Program (rescue unwrap Shows shows_unwrap)

def Call.user : Call → Uuid
  | .register args => args.userId
  | .onboard args => args.userId
  | .accept args => args.userId

def Call.network : Call → String
  | .register args => args.network
  | .onboard args => args.network
  | .accept args => args.network

/-- The dwallet to accept, with the Sui object of its account. -/
def Joined (history : History Op Res) (args : AcceptUserShareArgs) (dw : DWallet) (accountSuiId : ObjectId) : Prop :=
  Heard history (.dwallet (.selectJoined args.dwalletId args.userId args.network)) (some (dw, accountSuiId))

/-- The transaction put the cap of a dwallet into an account the user already had. -/
def Added (config : Config) (history : History Op Res) (account : Account) (suiDwalletId : ObjectId) : Prop :=
  ∃ userId accountNetwork network input tx, Heard history (.account (.findForUser userId accountNetwork)) (some account) ∧
    Heard history (.chain (.execute network (.addDwalletZeroTrust account.suiObjectId input))) (.ok tx) ∧
    extractDwalletId config tx = .ok suiDwalletId

/-- The transaction created an account. -/
def Opened (history : History Op Res) (tx : ExecutedTx) (suiObjectId : ObjectId) : Prop :=
  ∃ network input, Heard history (.chain (.execute network (.onboardZeroTrust input))) (.ok tx) ∧
    findFirstCreatedByType tx "::account::Account" = .ok suiObjectId

/-- It put the cap into the account it created. -/
def Began (config : Config) (history : History Op Res) (account : Account) (suiDwalletId : ObjectId) : Prop :=
  ∃ new tx, Heard history (.account (.insert new)) (.ok account) ∧ Opened history tx new.suiObjectId ∧
    extractDwalletId config tx = .ok suiDwalletId

/-- An accept PTB names the account its dwallet row led to. -/
def Names (history : History Op Res) (input : AcceptUserShare) : Prop :=
  ∃ args dw, Joined history args dw input.accountId ∧ input.dwalletId = dw.suiDwalletId

def DWalletOp.Sourced (config : Config) (call : Call) (history : History Op Wallets.Res) : DWalletOp → Prop
  | .insert new => (∃ args, call = .onboard args ∧ new.userId = args.userId ∧ new.network = args.network) ∧
      ∃ account, new.accountId = account.id ∧
        (Added config history account new.suiDwalletId ∨ Began config history account new.suiDwalletId)
  | .activate id _ nek => ∃ args dw account, call = .accept args ∧ Joined history args dw account ∧ id = dw.id ∧
      ∀ key ∈ nek, ∃ network, Heard history (.chain (.getDWallet network dw.suiDwalletId)) (.ok (some key))
  | _ => True

def Sourced (config : Config) (call : Call) (history : History Op Res) : Op → Prop
  | .key (.insert new) => ∃ args, call = .register args ∧ new.userId = args.userId ∧ new.network = args.network
  | .account (.insert new) => (∃ args, call = .onboard args ∧ new.userId = args.userId ∧ new.network = args.network) ∧
      ∃ tx, Opened history tx new.suiObjectId
  | .dwallet op => op.Sourced config call history
  | .ledger op => op.On call.user call.network
  | .chain (.build (.acceptUserShare input)) => Names history input
  | .chain (.execute _ (.acceptUserShare input)) => Names history input
  | _ => True

def sourced (config : Config) (call : Call) : Contract Op Res Thrown Reply where
  answers _ _ := True
  before := Sourced config call
  after _ _ := True

theorem Opened.later {history later : History Op Res} {tx : ExecutedTx} {object : ObjectId} (opened : Opened history tx object)
    (grown : history <:+ later) : Opened later tx object := by
  obtain ⟨network, input, executed, found⟩ := opened
  exact ⟨network, input, executed.later grown, found⟩

section Walks

variable {config : Config} {call : Call} {history : History Op Res}

theorem shows_getIkaClient (network : String) :
    (getIkaClient network).Shows (sourced config call) history (fun _ _ => True) :=
  .perform trivial (fun _ _ => shows_unwrap trivial)

/-! ### Charging and giving back -/

theorem shows_charge {args : ChargeArgs} (own : args.userId = call.user ∧ args.network = call.network) :
    (charge args).Shows (sourced config call) history (fun _ _ => True) := by
  unfold charge
  split
  · exact .raise trivial
  · exact .perform own (fun _ _ => .perform own (fun _ _ => shows_unwrap trivial))

theorem shows_refund {args : RefundArgs} (own : args.userId = call.user ∧ args.network = call.network) :
    (refund args).Shows (sourced config call) history (fun _ _ => True) := by
  unfold refund
  split
  · exact .raise trivial
  · exact .perform own (fun _ _ => .perform own (fun _ _ => shows_unwrap trivial))

/-- What a submission that was answered leaves behind. -/
def Replied (network : String) (move : MoveCall) (later : History Op Res) (result : Except Thrown ExecutedTx) : Prop :=
  ∀ tx, result = .ok tx → Heard later (.chain (.execute network move)) (.ok tx)

theorem shows_execute {network : String} {move : MoveCall} (allowed : Sourced config call history (.chain (.execute network move))) :
    (execute network move).Shows (sourced config call) history (Replied network move) := by
  refine .perform allowed (fun result _ => shows_unwrap ?_)
  rintro tx rfl
  exact .last

theorem shows_chargeWithRefund {args : ChargeWithRefundArgs} {network : String} {move : MoveCall}
    (own : args.userId = call.user ∧ args.network = call.network)
    (allowed : ∀ later, Sourced config call later (.chain (.execute network move))) :
    (chargeWithRefund args (execute network move)).Shows (sourced config call) history (Replied network move) := by
  refine .perform trivial (fun opId _ => ?_)
  refine (shows_charge own).bind (fun later _ _ _ => ?_) (fun _ _ _ _ _ absurd_ => nomatch absurd_)
  refine .rescue _ (shows_execute (allowed later)) (fun _ _ _ submitted => submitted) (fun later error _ _ => ?_)
  have logged : (rescue (do let _ ← refund (args.refund opId error)) (fun _ => pure ()) : Prog Unit).Shows
      (sourced config call) later (fun _ _ => True) := by
    refine .rescue (fun _ _ => True) ?_ (fun _ _ _ _ => trivial) (fun _ _ _ _ => .ret trivial)
    exact (shows_refund own).followed (fun _ _ => .ret trivial)
  exact logged.bind (fun _ _ _ _ => .raise (fun _ absurd_ => nomatch absurd_)) (fun _ _ _ _ _ absurd_ => nomatch absurd_)

/-! ### The three calls -/

theorem shows_registerEncryptionKey (args : RegisterEncryptionKeyArgs) :
    (registerEncryptionKey config args).Shows (sourced config (.register args)) history (fun _ _ => True) := by
  refine .unwrap (fun suiAddress _ => .perform trivial (fun found _ => ?_)) (fun _ _ => trivial)
  cases found with
  | some existing => exact .ret trivial
  | none =>
    refine (shows_getIkaClient args.network).followed (fun _ ika => ?_)
    refine .perform trivial (fun _ _ => .unwrap (fun _ _ => ?_) (fun _ _ => trivial))
    have free : ∀ later, Sourced config (.register args) later (.chain (.execute args.network (.registerEncryptionKey ⟨ika.dwalletPackageId,
        ika.coordinatorId, args.curve, args.encryptionKey, args.encryptionKeySignature, args.signerPublicKey⟩))) := fun _ => trivial
    refine (shows_chargeWithRefund ⟨rfl, rfl⟩ free).bind (fun later executed _ _ => ?_) (fun _ _ _ _ => trivial)
    refine .unwrap (fun object _ => .perform ⟨args, rfl, rfl, rfl⟩ (fun result _ => ?_)) (fun _ _ => trivial)
    refine .unwrap (fun inserted _ => ?_) (fun _ _ => trivial)
    cases inserted with
    | none => exact .raise trivial
    | some row => exact .ret trivial

/-- The account of a dwallet whose cap was put there. -/
def Located (config : Config) (tx : ExecutedTx) (later : History Op Res) (result : Except Thrown Account) : Prop :=
  ∀ account, result = .ok account → ∀ suiDwalletId, extractDwalletId config tx = .ok suiDwalletId →
    Added config later account suiDwalletId ∨ Began config later account suiDwalletId

theorem shows_accountFor {args : OnboardZeroTrustArgs} {ek : EncryptionKey} {ika : IkaConfig} {existing : Option Account}
    {tx : ExecutedTx} (found : ∀ account ∈ existing, Heard history (.account (.findForUser args.userId args.network)) (some account))
    (executed : Heard history (.chain (.execute args.network (args.call ek ika existing))) (.ok tx)) :
    (accountFor args tx existing).Shows (sourced config (.onboard args)) history (Located config tx) := by
  cases existing with
  | some account =>
    refine .ret ?_
    intro other returned suiDwalletId extracted
    cases returned
    exact .inl ⟨args.userId, args.network, args.network, args.input ek ika, tx, found account rfl, executed, extracted⟩
  | none =>
    refine .unwrap (fun object named => ?_) (fun _ _ _ absurd_ => nomatch absurd_)
    have opened : Opened history tx object := ⟨args.network, args.input ek ika, executed, named⟩
    refine .perform ⟨⟨args, rfl, rfl, rfl⟩, tx, opened⟩ (fun result _ => shows_unwrap ?_)
    rintro account rfl suiDwalletId extracted
    exact .inr ⟨_, tx, .last, opened.later (List.suffix_cons _ _), extracted⟩

theorem shows_onboardZeroTrust (args : OnboardZeroTrustArgs) :
    (onboardZeroTrust config args).Shows (sourced config (.onboard args)) history (fun _ _ => True) := by
  refine .perform trivial (fun found _ => ?_)
  cases found with
  | none => exact .raise trivial
  | some ek =>
    refine (shows_getIkaClient args.network).followed (fun before ika => .perform trivial (fun existing _ => ?_))
    have free : ∀ later, Sourced config (.onboard args) later (.chain (.execute args.network (args.call ek ika existing))) := by
      intro later
      cases existing <;> trivial
    have built : Sourced config (.onboard args)
        (⟨.account (.findForUser args.userId args.network), existing⟩ :: before) (.chain (.build (args.call ek ika existing))) := by
      cases existing <;> trivial
    have asked : ∀ account ∈ existing, Heard (⟨.account (.findForUser args.userId args.network), existing⟩ :: before)
        (.account (.findForUser args.userId args.network)) (some account) := by
      rintro account same
      rw [Option.mem_def.mp same]
      exact .last
    refine .perform built (fun _ _ => .unwrap (fun _ _ => ?_) (fun _ _ => trivial))
    refine (shows_chargeWithRefund ⟨rfl, rfl⟩ free).bind (fun later tx grown submitted => ?_) (fun _ _ _ _ => trivial)
    refine (shows_accountFor (fun account there => ((asked account there).cons _).later grown) (submitted tx rfl)).bind
      (fun placed account _ linked => ?_) (fun _ _ _ _ => trivial)
    refine .unwrap (fun dwalletId extracted => .unwrap (fun _ _ => ?_) (fun _ _ => trivial)) (fun _ _ => trivial)
    refine .perform ⟨⟨args, rfl, rfl, rfl⟩, account, rfl, linked account rfl dwalletId extracted⟩ (fun result _ => ?_)
    refine .unwrap (fun inserted _ => ?_) (fun _ _ => trivial)
    cases inserted with
    | none => exact .raise trivial
    | some row => exact .ret trivial

theorem shows_boundNek {network : String} {suiDwalletId : ObjectId} :
    (boundNek network suiDwalletId).Shows (sourced config call) history (fun later result =>
      ∀ key, result = .ok (some key) → Heard later (.chain (.getDWallet network suiDwalletId)) (.ok (some key))) := by
  refine .rescue (fun later result => ∀ key, result = .ok (some key) →
    Heard later (.chain (.getDWallet network suiDwalletId)) (.ok (some key))) ?_ (fun _ _ _ told => told)
    (fun _ _ _ _ => .ret (fun _ absurd_ => nomatch absurd_))
  refine .perform trivial (fun answer _ => shows_unwrap ?_)
  rintro key rfl
  exact .last

theorem shows_acceptUserShare (args : AcceptUserShareArgs) :
    (acceptUserShare args).Shows (sourced config (.accept args)) history (fun _ _ => True) := by
  refine .perform trivial (fun found _ => ?_)
  cases found with
  | none => exact .raise trivial
  | some pair =>
    obtain ⟨dw, accountSuiId⟩ := pair
    have joined : Joined (⟨.dwallet (.selectJoined args.dwalletId args.userId args.network), some (dw, accountSuiId)⟩ :: history)
        args dw accountSuiId := Heard.last
    dsimp only
    split
    · exact .ret trivial
    · split
      · exact .raise trivial
      · refine (shows_getIkaClient args.network).bind (fun later ika grown _ => ?_) (fun _ _ _ _ => trivial)
        have still : Joined later args dw accountSuiId := Heard.later joined grown
        refine .perform ⟨args, dw, still, rfl⟩ (fun built _ => .unwrap (fun _ _ => ?_) (fun _ _ => trivial))
        have named : Sourced config (.accept args)
            (⟨.chain (.build (.acceptUserShare (args.input dw accountSuiId ika))), built⟩ :: later)
            (.chain (.execute args.network (.acceptUserShare (args.input dw accountSuiId ika)))) :=
          ⟨args, dw, Heard.cons still _, rfl⟩
        refine (shows_execute named).bind (fun later executed grown _ => ?_) (fun _ _ _ _ => trivial)
        have still : Joined later args dw accountSuiId := (Heard.cons still _).later grown
        refine shows_boundNek.bind (fun later nekId grown told => ?_) (fun _ _ _ _ => trivial)
        refine .await ⟨args, dw, accountSuiId, rfl, Heard.later still grown, rfl, ?_⟩ (fun _ _ => .ret trivial)
        intro key kept
        obtain ⟨same, _⟩ := Option.mem_filter_iff.mp kept
        exact ⟨args.network, told key (congrArg _ same)⟩

theorem shows_program (config : Config) (call : Call) :
    (program config call).Shows (sourced config call) [] (fun _ _ => True) := by
  cases call with
  | register args => exact (shows_registerEncryptionKey args).followed (fun _ _ => .ret trivial)
  | onboard args => exact (shows_onboardZeroTrust args).followed (fun _ _ => .ret trivial)
  | accept args => exact (shows_acceptUserShare args).followed (fun _ _ => .ret trivial)

end Walks
end MpcKit.Wallets
