import MpcKit.Async.Protocol
import MpcKit.Wallets.Service

/-! The order in which registering, onboarding and accepting make their statements and requests. -/

namespace MpcKit.Wallets
open MpcKit.Backend MpcKit.Async
open MpcKit.Billing (ChargeArgs RefundArgs BillingCharge)
open MpcKit.Sign (Account DWallet)

/-- How far a call has come. -/
inductive Stage where
  | idle
  | joined (dw : DWallet)
  | drawn (opId : Uuid)
  | charged (opId : Uuid)
  | failed (opId : Uuid)
  | repaid (opId : Uuid)
  | executed (opId : Uuid) (move : MoveCall) (tx : ExecutedTx)
  /-- An insert was refused after the transaction executed. -/
  | broken (opId : Uuid) (move : MoveCall) (tx : ExecutedTx)
  | stored (opId : Uuid) (move : MoveCall) (tx : ExecutedTx)
  | accepted (dw : DWallet) (tx : ExecutedTx)
  | activated (dw : DWallet)
  | over
  deriving DecidableEq, Repr

namespace Stage

def join : Option (DWallet × ObjectId) → Stage
  | some (dw, _) => .joined dw
  | none => .over

def charge : Stage → Except Thrown BillingCharge → Stage
  | .drawn opId, .ok _ => .charged opId
  | _, _ => .over

def execute (move : MoveCall) : Stage → Except Thrown ExecutedTx → Stage
  | .charged opId, .ok tx => .executed opId move tx
  | .charged opId, .error _ => .failed opId
  | .joined dw, .ok tx => .accepted dw tx
  | _, _ => .over

def refund : Stage → Stage
  | .failed opId => .repaid opId
  | stage => stage

def account : Stage → Except Thrown Account → Stage
  | .executed opId move tx, .error _ => .broken opId move tx
  | stage, _ => stage

def store {ρ : Type} : Stage → Except Thrown (Option ρ) → Stage
  | .executed opId move tx, .ok (some _) => .stored opId move tx
  | .executed opId move tx, _ => .broken opId move tx
  | stage, _ => stage

def activate : Stage → Stage
  | .accepted dw _ => .activated dw
  | stage => stage

def next (stage : Stage) : (op : Op) → Res op → Stage
  | .randomUUID, opId => .drawn opId
  | .ledger (.charge _), result => stage.charge result
  | .ledger (.refund _), _ => stage.refund
  | .chain (.execute _ move), result => stage.execute move result
  | .account (.insert _), result => stage.account result
  | .key (.insert _), result => stage.store result
  | .dwallet (.insert _), result => stage.store result
  | .dwallet (.selectJoined _ _ _), found => join found
  | .dwallet (.activate _ _ _), _ => stage.activate
  | _, _ => stage

/-- The operation id a call has charged or will charge under. -/
def opId : Stage → Option Uuid
  | .drawn opId => some opId
  | .charged opId => some opId
  | .failed opId => some opId
  | .repaid opId => some opId
  | .executed opId _ _ => some opId
  | .broken opId _ _ => some opId
  | .stored opId _ _ => some opId
  | _ => none

end Stage

/-- What a call is charged for; accepting is free. -/
def billed (config : Config) : Call → Option ChargeWithRefundArgs
  | .register args => some (args.billed config)
  | .onboard args => some (args.billed config)
  | .accept _ => none

/-- Operations that write nothing but the opening of a credit account. -/
def Op.Reads (call : Call) : Op → Prop
  | .key (.selectOwn userId _ _ network) => ∃ args, call = .register args ∧ userId = args.userId ∧ network = args.network
  | .key (.selectOwned _ _ _) => True
  | .account (.findForUser _ _) => True
  | .chain (.getIkaClient _) => True
  | .chain (.build _) => True
  | .chain (.getDWallet _ _) => True
  | .ledger (.openAccount userId network) => (∃ args, call = .register args ∧ userId = args.userId ∧ network = args.network) ∨
      ∃ args, call = .onboard args ∧ userId = args.userId ∧ network = args.network
  | _ => False

/-- The transactions a call may submit. -/
def Submits : Call → MoveCall → Prop
  | .register _, .registerEncryptionKey _ => True
  | .onboard args, .onboardZeroTrust input =>
      input.network = args.network ∧ input.sessionIdentifierBytes = args.sessionIdentifierBytes
  | .onboard args, .addDwalletZeroTrust _ input =>
      input.network = args.network ∧ input.sessionIdentifierBytes = args.sessionIdentifierBytes
  | _, _ => False

/-- The operations a call may perform in each stage. -/
inductive Allowed (config : Config) : Call → Stage → Op → Prop where
  | read (call : Call) (stage : Stage) (op : Op) (reads : op.Reads call) : Allowed config call stage op
  | draw (call : Call) (args : ChargeWithRefundArgs) (paid : billed config call = some args) :
      Allowed config call .idle .randomUUID
  | charge (call : Call) (args : ChargeWithRefundArgs) (opId : Uuid) (paid : billed config call = some args)
      (positive : 0 < args.amountMicro) : Allowed config call (.drawn opId) (.ledger (.charge (args.charge opId)))
  | execute (call : Call) (network : String) (move : MoveCall) (opId : Uuid) (submits : Submits call move) :
      Allowed config call (.charged opId) (.chain (.execute network move))
  | refund (call : Call) (args : ChargeWithRefundArgs) (opId : Uuid) (error : Thrown)
      (paid : billed config call = some args) (positive : 0 < args.amountMicro) :
      Allowed config call (.failed opId) (.ledger (.refund (args.refund opId error)))
  | insertAccount (args : OnboardZeroTrustArgs) (opId : Uuid) (input : OnboardZeroTrust) (tx : ExecutedTx) (object : ObjectId)
      (found : findFirstCreatedByType tx "::account::Account" = .ok object) :
      Allowed config (.onboard args) (.executed opId (.onboardZeroTrust input) tx)
        (.account (.insert ⟨args.userId, args.network, object, tx.digest⟩))
  | insertKey (args : RegisterEncryptionKeyArgs) (opId : Uuid) (move : MoveCall) (tx : ExecutedTx) (object : ObjectId)
      (suiAddress : String) (found : findFirstCreatedByType tx "::EncryptionKey" = .ok object)
      (submits : Submits (.register args) move) :
      Allowed config (.register args) (.executed opId move tx)
        (.key (.insert ⟨args.userId, args.network, args.curve, object, suiAddress, tx.digest⟩))
  | insertDwallet (args : OnboardZeroTrustArgs) (opId : Uuid) (move : MoveCall) (tx : ExecutedTx) (new : NewDWallet)
      (found : extractDwalletId config tx = .ok new.suiDwalletId) (submits : Submits (.onboard args) move)
      (own : new.userId = args.userId ∧ new.network = args.network) (waiting : new.status = .awaitingUserShare) :
      Allowed config (.onboard args) (.executed opId move tx) (.dwallet (.insert new))
  | join (args : AcceptUserShareArgs) :
      Allowed config (.accept args) .idle (.dwallet (.selectJoined args.dwalletId args.userId args.network))
  | accept (args : AcceptUserShareArgs) (dw : DWallet) (network : String) (input : AcceptUserShare)
      (own : input.dwalletId = dw.suiDwalletId) :
      Allowed config (.accept args) (.joined dw) (.chain (.execute network (.acceptUserShare input)))
  | activate (args : AcceptUserShareArgs) (dw : DWallet) (tx : ExecutedTx) (nek : Option ObjectId) :
      Allowed config (.accept args) (.accepted dw tx) (.dwallet (.activate dw.id tx.digest nek))

/-- What the service reads from the effects and events of its transaction is there. -/
def Legible (config : Config) (tx : ExecutedTx) : MoveCall → Prop
  | .registerEncryptionKey _ => ∃ object, findFirstCreatedByType tx "::EncryptionKey" = .ok object
  | .onboardZeroTrust _ => (∃ object, findFirstCreatedByType tx "::account::Account" = .ok object) ∧
      ∃ share, extractEncryptedShareId config tx = .ok share
  | .addDwalletZeroTrust _ _ => ∃ share, extractEncryptedShareId config tx = .ok share
  | .acceptUserShare _ => True

/-- How a call can end in each stage. -/
def Ended (config : Config) : Stage → Except Thrown Reply → Prop
  | .charged _, _ => False
  | .failed _, _ => False
  | .accepted _ _, _ => False
  | .idle, .ok reply => ∃ row, reply = .key row
  | .joined _, _ => True
  | .activated _, _ => True
  | .stored _ _ _, .ok _ => True
  | .stored _ _ _, .error _ => False
  | _, .ok _ => False
  | .executed _ move tx, .error _ => ¬Legible config tx move
  | _, .error _ => True

def order (config : Config) (call : Call) : Protocol Op Res Stage where
  initial := .idle
  next := Stage.next
  Allowed := Allowed config call
  answers _ _ := True

variable {config : Config}

section Reads

variable {call : Call} {stage : Stage}

theorem getIkaClient_follows (network : String) :
    (order config call).Follows stage (getIkaClient network) (fun after _ => after = stage) :=
  .perform (.read call stage _ trivial) (fun _ _ => Protocol.follows_unwrap rfl)

end Reads

/-! ### Charging and giving back -/

/-- A submission: executed, or failed and to be refunded. -/
def Submitted (opId : Uuid) (move : MoveCall) (stage : Stage) : Except Thrown ExecutedTx → Prop
  | .ok tx => stage = .executed opId move tx
  | .error _ => stage = .failed opId

theorem execute_follows {call : Call} {move : MoveCall} (opId : Uuid) (network : String) (submits : Submits call move) :
    (order config call).Follows (.charged opId) (execute network move) (Submitted opId move) :=
  .perform (.execute call network move opId submits) (fun result _ => Protocol.follows_unwrap (by cases result <;> rfl))

/-- After a charged submission: executed, or without a charge, or refunded. -/
def Charged (move : MoveCall) (stage : Stage) : Except Thrown ExecutedTx → Prop
  | .ok tx => ∃ opId, stage = .executed opId move tx
  | .error _ => (∃ opId, stage = .drawn opId ∨ stage = .repaid opId) ∨ stage = .over

/-- The outcome of a charge. -/
def Debited (args : ChargeWithRefundArgs) (opId : Uuid) (stage : Stage) : Except Thrown BillingCharge → Prop
  | .ok _ => stage = .charged opId ∧ 0 < args.amountMicro
  | .error _ => stage = .drawn opId ∨ stage = .over

theorem charge_follows {call : Call} {args : ChargeWithRefundArgs} (opId : Uuid) (paid : billed config call = some args)
    (own : Op.Reads call (.ledger (.openAccount args.userId args.network))) :
    (order config call).Follows (.drawn opId) (charge (args.charge opId)) (Debited args opId) := by
  unfold charge
  split
  · exact .raise (.inl rfl)
  next positive =>
    refine .perform (.read call _ _ own) (fun _ _ => ?_)
    have above : 0 < args.amountMicro := by simpa [ChargeWithRefundArgs.charge] using positive
    refine .perform (.charge call args opId paid above) (fun result _ => Protocol.follows_unwrap ?_)
    cases result with
    | ok row => exact ⟨rfl, above⟩
    | error error => exact .inr rfl

theorem refund_follows {call : Call} {args : ChargeWithRefundArgs} (opId : Uuid) (error : Thrown)
    (paid : billed config call = some args) (own : Op.Reads call (.ledger (.openAccount args.userId args.network)))
    (positive : 0 < args.amountMicro) :
    (order config call).Follows (.failed opId) (refund (args.refund opId error)) (fun stage _ => stage = .repaid opId) := by
  unfold refund
  split
  next low => exact absurd positive (by simpa [ChargeWithRefundArgs.refund] using low)
  · refine .perform (.read call _ _ own) (fun _ _ => ?_)
    exact .perform (.refund call args opId error paid positive) (fun result _ => Protocol.follows_unwrap rfl)

theorem giveBack_follows {call : Call} {args : ChargeWithRefundArgs} (move : MoveCall) (opId : Uuid) (error : Thrown)
    (paid : billed config call = some args) (own : Op.Reads call (.ledger (.openAccount args.userId args.network)))
    (positive : 0 < args.amountMicro) :
    (order config call).Follows (.failed opId) (giveBack args opId error) (Charged move) := by
  have repaid : (order config call).Follows (.failed opId) (Program.rescue (do let _ ← refund (args.refund opId error))
      (fun _ => pure ())) (fun stage _ => stage = .repaid opId) := by
    refine .rescue (fun stage _ => stage = .repaid opId) ?_ (fun _ _ same => same) ?_
    · exact .bind (refund_follows opId error paid own positive) (fun _ _ same => .ret same) (fun _ _ same => same)
    · rintro _ _ rfl
      exact .ret rfl
  refine .bind repaid ?_ ?_
  · rintro _ _ rfl
    exact .raise (.inl ⟨opId, .inr rfl⟩)
  · rintro _ _ rfl
    exact .inl ⟨opId, .inr rfl⟩

theorem chargeWithRefund_follows {call : Call} {args : ChargeWithRefundArgs} {move : MoveCall} (network : String)
    (paid : billed config call = some args) (own : Op.Reads call (.ledger (.openAccount args.userId args.network)))
    (submits : Submits call move) :
    (order config call).Follows .idle (chargeWithRefund args (execute network move)) (Charged move) := by
  refine .perform (.draw call args paid) (fun opId _ => ?_)
  refine .bind (charge_follows opId paid own) ?_ ?_
  · rintro _ row ⟨rfl, positive⟩
    refine .rescue (Submitted opId move) (execute_follows opId network submits) ?_ ?_
    · rintro _ tx rfl
      exact ⟨opId, rfl⟩
    · rintro _ error rfl
      exact giveBack_follows move opId error paid own positive
  · rintro _ error (rfl | rfl)
    · exact .inl ⟨opId, .inl rfl⟩
    · exact .inr rfl

/-! ### The three calls -/

/-- How a function of a call ends, whatever the call makes of its result. -/
def Closed (config : Config) {α : Type} (stage : Stage) : Except Thrown α → Prop
  | .ok _ => ∃ opId move tx, stage = .stored opId move tx
  | .error error => Ended config stage (.error error)

theorem Charged.closed {move : MoveCall} {stage : Stage} {error : Thrown} {α : Type} (ends : Charged move stage (.error error)) :
    Closed config stage (.error error : Except Thrown α) := by
  rcases ends with ⟨opId, rfl | rfl⟩ | rfl <;> trivial

theorem storeKey_follows (args : RegisterEncryptionKeyArgs) (suiAddress : String) (opId : Uuid) (input : RegisterEncryptionKey)
    (tx : ExecutedTx) :
    (order config (.register args)).Follows (.executed opId (.registerEncryptionKey input) tx)
      (storeKey args suiAddress tx) (Closed config) := by
  refine .unwrap (fun object found => ?_) ?_
  · refine .perform (.insertKey args opId _ tx object suiAddress found trivial) (fun result _ => ?_)
    refine .unwrap ?_ ?_
    · rintro inserted rfl
      cases inserted with
      | none => exact .raise trivial
      | some row => exact .ret ⟨opId, _, tx, rfl⟩
    · rintro error rfl
      trivial
  · rintro error missing ⟨object, found⟩
    rw [missing] at found
    cases found

theorem register_follows (args : RegisterEncryptionKeyArgs) :
    (order config (.register args)).Follows .idle (program config (.register args)) (Ended config) := by
  have own : Op.Reads (.register args) (.ledger (.openAccount args.userId args.network)) := .inl ⟨args, rfl, rfl, rfl⟩
  have inner : (order config (.register args)).Follows .idle (registerEncryptionKey config args)
      (fun stage result => Closed config stage result ∨ ∃ row, stage = .idle ∧ result = .ok row) := by
    refine .unwrap (fun suiAddress _ => ?_) (fun _ _ => .inl trivial)
    refine .perform (.read _ _ _ ⟨args, rfl, rfl, rfl⟩) (fun found _ => ?_)
    cases found with
    | some existing => exact .ret (.inr ⟨existing, rfl, rfl⟩)
    | none =>
      refine .bind (getIkaClient_follows args.network) ?_ (fun _ _ same => .inl (by subst same; trivial))
      rintro _ ika rfl
      refine .perform (.read _ _ _ trivial) (fun _ _ => .unwrap (fun _ _ => ?_) (fun _ _ => .inl trivial))
      refine .bind (chargeWithRefund_follows args.network rfl own trivial) ?_ (fun _ _ ends => .inl ends.closed)
      rintro _ tx ⟨opId, rfl⟩
      exact (storeKey_follows args suiAddress opId _ tx).mono (fun _ _ => .inl)
  refine inner.bind ?_ ?_
  · rintro stage row (⟨opId, move, tx, rfl⟩ | ⟨_, rfl, _⟩)
    · exact .ret trivial
    · exact .ret ⟨row, rfl⟩
  · rintro stage error (ends | ⟨_, _, other⟩)
    · exact ends
    · cases other

/-- Once there is a row for the account. -/
def Placed (config : Config) (opId : Uuid) (move : MoveCall) (tx : ExecutedTx) (stage : Stage) : Except Thrown Account → Prop
  | .ok _ => stage = .executed opId move tx
  | .error _ => stage = .executed opId move tx ∧ ¬Legible config tx move ∨ stage = .broken opId move tx

theorem accountFor_follows (args : OnboardZeroTrustArgs) (opId : Uuid) (ek : EncryptionKey) (ika : IkaConfig)
    (existing : Option Account) (tx : ExecutedTx) :
    (order config (.onboard args)).Follows (.executed opId (args.call ek ika existing) tx) (accountFor args tx existing)
      (Placed config opId (args.call ek ika existing) tx) := by
  cases existing with
  | some account => exact .ret rfl
  | none =>
    refine .unwrap (fun object found => ?_) ?_
    · refine .perform (.insertAccount args opId _ tx object found) (fun result _ => Protocol.follows_unwrap ?_)
      cases result with
      | ok row => rfl
      | error error => exact .inr rfl
    · rintro error missing
      refine .inl ⟨rfl, fun legible => ?_⟩
      obtain ⟨⟨object, found⟩, _⟩ := legible
      rw [missing] at found
      cases found

/-- Without a share there is nothing to return, whichever of the two was submitted. -/
theorem not_legible {args : OnboardZeroTrustArgs} {ek : EncryptionKey} {ika : IkaConfig} {existing : Option Account}
    {tx : ExecutedTx} {error : Thrown} (missing : extractEncryptedShareId config tx = .error error) :
    ¬Legible config tx (args.call ek ika existing) := by
  intro legible
  have found : ∃ share, extractEncryptedShareId config tx = .ok share := by
    cases existing with
    | some account => exact legible
    | none => exact legible.2
  obtain ⟨share, found⟩ := found
  rw [missing] at found
  cases found

/-- A share is read from the event that names the dwallet. -/
theorem extractDwalletId_of_share {tx : ExecutedTx} {error : Thrown} (missing : extractDwalletId config tx = .error error) :
    ∃ error, extractEncryptedShareId config tx = .error error := by
  unfold extractDwalletId at missing
  unfold extractEncryptedShareId
  cases decoded : decodeDKGEvent config tx with
  | error error => exact ⟨error, rfl⟩
  | ok event =>
    cases event with
    | none => exact ⟨_, rfl⟩
    | some event =>
      rw [decoded] at missing
      cases missing

theorem submits_call (args : OnboardZeroTrustArgs) (ek : EncryptionKey) (ika : IkaConfig) (existing : Option Account) :
    Submits (.onboard args) (args.call ek ika existing) := by
  cases existing <;> exact ⟨rfl, rfl⟩

theorem storeDwallet_follows (args : OnboardZeroTrustArgs) (opId : Uuid) (ek : EncryptionKey) (ika : IkaConfig)
    (existing : Option Account) (tx : ExecutedTx) :
    (order config (.onboard args)).Follows (.executed opId (args.call ek ika existing) tx)
      (storeDwallet config args ek existing tx) (Closed config) := by
  refine .bind (accountFor_follows args opId ek ika existing tx) ?_ ?_
  · rintro _ account rfl
    refine .unwrap (fun object found => ?_) ?_
    · refine .unwrap (fun share _ => ?_) (fun error missing => not_legible missing)
      refine .perform (.insertDwallet args opId _ tx _ found (submits_call args ek ika existing) ⟨rfl, rfl⟩ rfl)
        (fun result _ => ?_)
      refine .unwrap ?_ ?_
      · rintro inserted rfl
        cases inserted with
        | none => exact .raise trivial
        | some row => exact .ret ⟨opId, _, tx, rfl⟩
      · rintro error rfl
        trivial
    · intro error missing
      obtain ⟨other, share⟩ := extractDwalletId_of_share missing
      exact not_legible share
  · rintro _ error (⟨rfl, illegible⟩ | rfl)
    · exact illegible
    · trivial

theorem onboard_follows (args : OnboardZeroTrustArgs) :
    (order config (.onboard args)).Follows .idle (program config (.onboard args)) (Ended config) := by
  have own : Op.Reads (.onboard args) (.ledger (.openAccount args.userId args.network)) := .inr ⟨args, rfl, rfl, rfl⟩
  have inner : (order config (.onboard args)).Follows .idle (onboardZeroTrust config args) (Closed config) := by
    refine .perform (.read _ _ _ trivial) (fun found _ => ?_)
    cases found with
    | none => exact .raise trivial
    | some ek =>
      refine .bind (getIkaClient_follows args.network) ?_ ?_
      · rintro _ ika rfl
        refine .perform (.read _ _ _ trivial) (fun existing _ => ?_)
        refine .perform (.read _ _ _ trivial) (fun _ _ => .unwrap (fun _ _ => ?_) (fun _ _ => trivial))
        refine .bind (chargeWithRefund_follows args.network rfl own (submits_call args ek ika existing)) ?_
          (fun _ _ ends => ends.closed)
        rintro _ tx ⟨opId, rfl⟩
        exact storeDwallet_follows args opId ek ika existing tx
      · rintro _ error rfl
        trivial
  refine inner.bind ?_ (fun _ _ ends => ends)
  rintro _ result ⟨opId, move, tx, rfl⟩
  exact .ret trivial

theorem boundNek_follows {call : Call} (stage : Stage) (network : String) (suiDwalletId : ObjectId) :
    (order config call).Follows stage (boundNek network suiDwalletId) (fun after result => after = stage ∧ ∃ nek, result = .ok nek) := by
  refine .rescue (fun after _ => after = stage) ?_ (fun _ nek same => ⟨same, nek, rfl⟩) ?_
  · exact .perform (.read call stage _ trivial) (fun _ _ => Protocol.follows_unwrap rfl)
  · rintro _ error rfl
    exact .ret ⟨rfl, none, rfl⟩

theorem accept_follows (args : AcceptUserShareArgs) :
    (order config (.accept args)).Follows .idle (program config (.accept args)) (Ended config) := by
  suffices inner : (order config (.accept args)).Follows .idle (acceptUserShare args)
      (fun stage result => Ended config stage (result.map Reply.accepted)) from
    inner.bind (fun _ _ ends => .ret ends) (fun _ _ ends => ends)
  refine .perform (.join args) (fun found _ => ?_)
  cases found with
  | none => exact .raise trivial
  | some pair =>
    obtain ⟨dw, account⟩ := pair
    dsimp only
    split
    · exact .ret trivial
    · split
      · exact .raise trivial
      · refine .bind (getIkaClient_follows args.network) ?_ ?_
        · rintro _ ika rfl
          refine .perform (.read _ _ _ trivial) (fun _ _ => .unwrap (fun _ _ => ?_) (fun _ _ => trivial))
          refine .perform (.accept args dw args.network _ rfl) (fun result _ => .unwrap ?_ ?_)
          · rintro tx rfl
            refine .bind (boundNek_follows _ args.network dw.suiDwalletId) ?_ ?_
            · rintro _ nek ⟨rfl, _⟩
              exact .perform (.activate args dw tx _) (fun updated _ => .ret trivial)
            · rintro _ error ⟨_, nek, other⟩
              cases other
          · rintro error rfl
            trivial
        · rintro _ error rfl
          trivial

/-! ### Calls in a run -/

def ordered (config : Config) (call : Call) : Contract Op Res Thrown Reply := (order config call).contract (Ended config)

/-- The stage of a call, from what it has done. -/
def stage (config : Config) (thread : WalletThread) : Stage := (order config thread.tag).state thread.history

theorem honours : (machine config).Honours (ordered config) where
  programs call := by
    cases call with
    | register args => exact (register_follows args).obeys
    | onboard args => exact (onboard_follows args).obeys
    | accept args => exact (accept_follows args).obeys
  answers _ _ := trivial

abbrev WalletAct (config : Config) := (machine config).Act (ordered config)

theorem stage_resume (thread : WalletThread) (op : Op) (answer : Res op) (rest : Prog Reply) :
    stage config (thread.resume ⟨op, answer⟩ rest) = (stage config thread).next op answer := rfl

theorem close_eq (index : Nat) (call : Call) (rest : Prog Reply) (world : World) :
    (machine config).close index call rest world = world := by
  unfold Machine.close
  split <;> rfl

/-- A call that has just performed an operation and cannot have ended goes on. -/
theorem running_of_open {system : WalletSystem} {index : Nat} {env : Env} {thread : WalletThread} {op : Op} {answer : Res op}
    {rest : Prog Reply} {after : World} (done : WalletAct config system index env thread op answer rest after)
    (open' : ∀ result, ¬Ended config ((stage config thread).next op answer) result) :
    (thread.resume ⟨op, answer⟩ rest).Running := by
  refine ⟨done.alive, ?_⟩
  cases ended : rest.outcome with
  | none => exact ended
  | some result => exact absurd (done.path.of_outcome ended) (open' result)

/-! ### What one operation leaves alone -/

/-- Only credit accounts and identifiers may be new. -/
structure Calm (world after : World) : Prop where
  keys : after.keys = world.keys
  accounts : after.accounts = world.accounts
  dwallets : after.dwallets = world.dwallets
  charges : after.ledger.charges = world.ledger.charges
  chain : after.chain = world.chain
  nextId : world.nextId ≤ after.nextId

theorem calm_of_reads {index : Nat} {call : Call} {op : Op} {env : Env} {world after : World} {answer : Res op}
    (reads : op.Reads call) (executed : exec config index op env world = some (answer, after)) : Calm world after := by
  cases op with
  | key op =>
    cases op with
    | selectOwn | selectOwned =>
      cases executed
      exact ⟨rfl, rfl, rfl, rfl, rfl, Nat.le_succ _⟩
    | insert => cases reads
  | account op =>
    cases op with
    | findForUser =>
      cases executed
      exact ⟨rfl, rfl, rfl, rfl, rfl, Nat.le_succ _⟩
    | insert => cases reads
  | dwallet op => cases op <;> cases reads
  | ledger op =>
    cases op with
    | openAccount userId network =>
      cases executed
      exact ⟨rfl, rfl, rfl, Billing.Ledger.openAccount_charges _ _ _ _, rfl, Nat.le_succ _⟩
    | charge | refund => cases reads
  | chain op =>
    cases op with
    | getIkaClient | build | getDWallet =>
      cases executed
      exact ⟨rfl, rfl, rfl, rfl, rfl, Nat.le_refl _⟩
    | execute => cases reads
  | randomUUID => cases reads

/-- Reading moves no call on. -/
theorem next_of_reads {call : Call} {op : Op} (reads : op.Reads call) (stage : Stage) (answer : Res op) :
    stage.next op answer = stage := by
  cases op with
  | key op => cases op <;> first | rfl | cases reads
  | account op => cases op <;> first | rfl | cases reads
  | dwallet op => cases op <;> cases reads
  | ledger op => cases op <;> first | rfl | cases reads
  | chain op => cases op <;> first | rfl | cases reads
  | randomUUID => cases reads

/-! ### What an insert does -/

theorem exec_insertKey {index : Nat} {new : NewEncryptionKey} {env : Env} {world after : World}
    {answer : Except Thrown (Option EncryptionKey)}
    (executed : exec config index (.key (.insert new)) env world = some (answer, after)) :
    ((∃ error, answer = .error error) ∧ after = { world with nextId := world.nextId + 1 }) ∨
      answer = .ok (some (new.row world.nextId)) ∧ (∀ row ∈ world.keys.rows, row.suiObjectId ≠ new.suiObjectId) ∧
        ∃ table, world.keys.insert (new.row world.nextId) = some table ∧
          after = { world with keys := table, nextId := world.nextId + 1 } := by
  simp only [exec, KeyOp.exec] at executed
  split at executed
  next error refused =>
    cases executed
    exact .inl ⟨⟨error, rfl⟩, rfl⟩
  · split at executed
    · cases executed
      exact .inl ⟨⟨_, rfl⟩, rfl⟩
    next fresh =>
      split at executed
      next table inserted =>
        cases executed
        refine .inr ⟨rfl, fun row there same => fresh ?_, table, inserted, rfl⟩
        exact List.any_eq_true.mpr ⟨row, there, by simp [same]⟩
      · cases executed
        exact .inl ⟨⟨_, rfl⟩, rfl⟩

theorem exec_insertDwallet {index : Nat} {new : NewDWallet} {env : Env} {world after : World}
    {answer : Except Thrown (Option DWallet)}
    (executed : exec config index (.dwallet (.insert new)) env world = some (answer, after)) :
    ((∃ error, answer = .error error) ∧ after = { world with nextId := world.nextId + 1 }) ∨
      answer = .ok (some (new.row world.nextId)) ∧ (∀ row ∈ world.dwallets.rows, row.suiDwalletId ≠ new.suiDwalletId) ∧
        ∃ table, world.dwallets.insert (new.row world.nextId) = some table ∧
          after = { world with dwallets := table, nextId := world.nextId + 1 } := by
  simp only [exec, DWalletOp.exec] at executed
  split at executed
  next error refused =>
    cases executed
    exact .inl ⟨⟨error, rfl⟩, rfl⟩
  · split at executed
    · cases executed
      exact .inl ⟨⟨_, rfl⟩, rfl⟩
    next fresh =>
      split at executed
      next table inserted =>
        cases executed
        refine .inr ⟨rfl, fun row there same => fresh ?_, table, inserted, rfl⟩
        exact List.any_eq_true.mpr ⟨row, there, by simp [same]⟩
      · cases executed
        exact .inl ⟨⟨_, rfl⟩, rfl⟩

theorem exec_insertAccount {index : Nat} {new : NewAccount} {env : Env} {world after : World} {answer : Except Thrown Account}
    (executed : exec config index (.account (.insert new)) env world = some (answer, after)) :
    ((∃ error, answer = .error error) ∧ after = { world with nextId := world.nextId + 1 }) ∨
      answer = .ok (new.row world.nextId) ∧ ∃ table, world.accounts.insert (new.row world.nextId) = some table ∧
        after = { world with accounts := table, nextId := world.nextId + 1 } := by
  simp only [exec, AccountOp.exec] at executed
  split at executed
  next error refused =>
    cases executed
    exact .inl ⟨⟨error, rfl⟩, rfl⟩
  · split at executed
    · cases executed
      exact .inl ⟨⟨_, rfl⟩, rfl⟩
    · split at executed
      next table inserted =>
        cases executed
        exact .inr ⟨rfl, table, inserted, rfl⟩
      · cases executed
        exact .inl ⟨⟨_, rfl⟩, rfl⟩

/-- A submission that lands was admitted and reported truly; any other changes nothing. -/
theorem exec_execute {index : Nat} {network : String} {move : MoveCall} {env : Env} {world after : World}
    {answer : Except Thrown ExecutedTx}
    (executed : exec config index (.chain (.execute network move)) env world = some (answer, after)) :
    answer = submitAnswer env ∧ (env.outcome.lands = false ∧ after = world ∨
      env.outcome.lands = true ∧ world.chain.Admits env move ∧ Reported config env move ∧
        after = { world with chain := world.chain.land index env move }) := by
  simp only [exec, ChainOp.exec] at executed
  split at executed
  next lands =>
    split at executed
    next admitted =>
      cases executed
      exact ⟨rfl, .inr ⟨lands, admitted.1, admitted.2, rfl⟩⟩
    · cases executed
  next fails =>
    cases executed
    exact ⟨rfl, .inl ⟨by simpa using fails, rfl⟩⟩

end MpcKit.Wallets
