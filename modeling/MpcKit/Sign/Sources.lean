import MpcKit.Async.Evidence
import MpcKit.Sign.Walks

/-! What a call of the sign services has read before it writes: whose row it is, which keys and
accounts the values came from. -/

namespace MpcKit.Sign
open MpcKit.Backend MpcKit.Async
open MpcKit.Billing (ChargeArgs RefundArgs BillingCharge)
open Program (fold rescue unwrap Shows shows_unwrap)

/-- The key of a dwallet, stored with its row or told by the chain. -/
def KnowsNek (history : History Op Res) (dwalletId : Uuid) (nek : ObjectId) : Prop :=
  ∃ dw, Heard history (.wallet (.select dwalletId)) (some dw) ∧ (dw.networkEncryptionKeyId = some nek ∨
    ∃ network, Heard history (.chain (.getDWallet network dw.suiDwalletId)) (.ok (some nek)))

theorem KnowsNek.later {history later : History Op Res} {dwalletId : Uuid} {nek : ObjectId}
    (knows : KnowsNek history dwalletId nek) (grown : history <:+ later) : KnowsNek later dwalletId nek := by
  obtain ⟨dw, read, stored | ⟨network, told⟩⟩ := knows
  · exact ⟨dw, read.later grown, .inl stored⟩
  · exact ⟨dw, read.later grown, .inr ⟨network, told.later grown⟩⟩

/-- The dwallet a prepare was asked to sign with. -/
def Chosen (history : History Op Res) (args : PrepareSignArgs) (dw : DWallet) : Prop :=
  Heard history (.wallet (.selectOwned args.dwalletId args.userId args.network)) (some dw)

/-- The account a sign PTB names was found by way of the row of its dwallet. -/
def Names (history : History Op Res) (tx : SignZeroTrust) : Prop :=
  ∃ dw account accountId, Heard history (.wallet (.selectBySui tx.dwalletId)) (some dw) ∧ dw.accountId = some accountId ∧
    Heard history (.wallet (.selectAccount accountId)) (some account) ∧ tx.accountId = account.suiObjectId

/-- Calls that may mark a request failed. -/
def Call.Fails : Call → Uuid → Prop
  | .process signRequestId _, id => id = signRequestId
  | .sweepStuckPrepared _, _ => True
  | _, _ => False

/-- Whose credits a call moves. -/
def Bills (call : Call) (history : History Op Res) (userId : Uuid) (network : String) : Prop :=
  (∃ args, call = .prepare args ∧ userId = args.userId ∧ network = args.network) ∨
    ∃ id code message row, call.Fails id ∧ Heard history (.sign (.setFailed id code message)) (some row) ∧
      userId = row.userId ∧ network = row.network

def SignOp.Sourced (call : Call) (history : History Op Sign.Res) : SignOp → Prop
  | .insert new => ∃ args dw, call = .prepare args ∧ Chosen history args dw ∧ Heard history .randomUUID new.id ∧
      new = args.newRequest dw new.id
  | .setPresign id presignId => ∃ args dw bucket, call = .prepare args ∧ Chosen history args dw ∧
      Heard history .randomUUID id ∧ Heard history (.presign (.claim bucket)) (some presignId) ∧
      bucket.network = args.network ∧ bucket.curve = dw.curve ∧ bucket.signatureAlgorithm = args.signatureAlgorithm ∧
      KnowsNek history dw.id bucket.networkEncryptionKeyId
  | .delete id => ∃ args, call = .prepare args ∧ Heard history .randomUUID id
  | .setQueued id _ _ => ∃ args row, call = .submit args ∧
      Heard history (.sign (.selectOwned id args.userId args.network)) (some row)
  | .setSubmitted id _ => ∃ job, call = .process id job
  | .setSession id _ => ∃ job, call = .process id job
  | .setCompleted id _ => ∃ job, call = .process id job
  | .setFailed id _ _ => call.Fails id
  | _ => True

def Sourced (call : Call) (history : History Op Res) : Op → Prop
  | .sign op => op.Sourced call history
  | .ledger op => ∃ userId network, op.On userId network ∧ Bills call history userId network
  | .wallet (.setNek id nek) => (∃ args dw, call = .prepare args ∧ Chosen history args dw ∧ id = dw.id) ∧
      ∃ dw network, Heard history (.wallet (.select id)) (some dw) ∧
        Heard history (.chain (.getDWallet network dw.suiDwalletId)) (.ok (some nek))
  | .chain (.execute tx) => Names history tx
  | _ => True

/-- A dwallet selected by its id has it. -/
def Selects : (op : Op) → Res op → Prop
  | .wallet (.select id), found => ∀ dw ∈ found, dw.id = id
  | _, _ => True

theorem selects_exec {op : Op} {env : Env} {world after : World} {answer : Res op}
    (executed : exec op env world = some (answer, after)) : Selects op answer := by
  cases op with
  | wallet op =>
    cases executed
    cases op with
    | select id => exact fun dw found => Table.key_of_get found
    | _ => trivial
  | _ => trivial

def sourced (call : Call) : Contract Op Res Thrown Reply where
  answers op answer := Answers op answer ∧ Selects op answer
  before := Sourced call
  after _ _ := True

theorem Op.Plain.sourced {op : Op} (plain : op.Plain) (call : Call) (history : History Op Res) : Sourced call history op := by
  cases op with
  | sign op => cases op <;> trivial
  | ledger op => exact False.elim plain
  | wallet op => cases op <;> trivial
  | chain op => cases op <;> trivial
  | _ => trivial

section Walks

variable {config : Config} {call : Call} {history : History Op Res}

theorem shows_plain {α : Type} {program : Prog α} (plain : program.Only Op.Plain) :
    program.Shows (sourced call) history (fun _ _ => True) :=
  plain.shows (fun later _ there => there.sourced call later)

/-! ### Paying -/

theorem shows_chargeCredits {args : ChargeArgs} (pays : ∀ later, history <:+ later → Bills call later args.userId args.network) :
    (chargeCredits args).Shows (sourced call) history (fun _ _ => True) := by
  unfold chargeCredits
  split
  · exact .raise trivial
  · refine .perform ⟨_, _, ⟨rfl, rfl⟩, pays _ List.suffix_rfl⟩ (fun _ _ => ?_)
    exact .perform ⟨_, _, ⟨rfl, rfl⟩, pays _ (List.suffix_cons _ _)⟩ (fun result _ => shows_unwrap trivial)

theorem shows_refundCredits {args : RefundArgs} (pays : ∀ later, history <:+ later → Bills call later args.userId args.network) :
    (refundCredits args).Shows (sourced call) history (fun _ _ => True) := by
  unfold refundCredits
  split
  · exact .raise trivial
  · refine .perform ⟨_, _, ⟨rfl, rfl⟩, pays _ List.suffix_rfl⟩ (fun _ _ => ?_)
    exact .perform ⟨_, _, ⟨rfl, rfl⟩, pays _ (List.suffix_cons _ _)⟩ (fun result _ => shows_unwrap trivial)

/-- The last statement of `markFailed`. -/
def touchPresign : Option Uuid → Prog Unit
  | some presignId => perform (.presign (.touch presignId))
  | none => return ()

theorem shows_touchPresign (presignId : Option Uuid) :
    (touchPresign presignId).Shows (sourced call) history (fun _ _ => True) := by
  cases presignId with
  | none => exact .ret trivial
  | some presignId => exact .await trivial (fun _ _ => .ret trivial)

theorem shows_markFailed {id : Uuid} {presignId : Option Uuid} {code message : String} (fails : call.Fails id) :
    (markFailed config id presignId code message).Shows (sourced call) history (fun _ _ => True) := by
  have allowed : Sourced call history (.sign (.setFailed id code (clip message))) := fails
  refine .perform allowed (fun failed _ => ?_)
  cases failed with
  | none => exact shows_touchPresign presignId
  | some row =>
    have pays : ∀ later, ⟨.sign (.setFailed id code (clip message)), some row⟩ :: history <:+ later →
        Bills call later row.userId row.network :=
      fun later grown => .inr ⟨id, code, clip message, row, fails, Heard.last.later grown, rfl, rfl⟩
    exact (shows_refundCredits pays).followed (fun _ _ => shows_touchPresign presignId)

/-! ### Prepare -/

theorem shows_ensureDwalletNek {args : PrepareSignArgs} {dw : DWallet} (network : String) (asked : Chosen history args dw) :
    (ensureDwalletNek dw.id network).Shows (sourced (.prepare args)) history (fun later result =>
      ∀ nek, result = .ok nek → KnowsNek later dw.id nek) := by
  refine .perform trivial (fun found known => ?_)
  cases found with
  | none => exact .raise (fun _ absurd_ => nomatch absurd_)
  | some fresh =>
    have same : fresh.id = dw.id := known.2 fresh rfl
    dsimp only
    split
    next nek stored =>
      refine .ret ?_
      intro other returned
      cases returned
      exact ⟨fresh, .last, .inl stored⟩
    · refine (shows_plain (only_getIkaClient network)).bind (fun later _ grown _ => ?_)
        (fun _ _ _ _ _ absurd_ => nomatch absurd_)
      refine .perform trivial (fun told _ => .unwrap (fun bound returned => ?_) (fun _ _ _ absurd_ => nomatch absurd_))
      subst returned
      have read : Heard (⟨.chain (.getDWallet network fresh.suiDwalletId), .ok bound⟩ :: later) (.wallet (.select dw.id)) (some fresh) :=
        (Heard.last.later grown).cons _
      cases bound with
      | none => exact .raise (fun _ absurd_ => nomatch absurd_)
      | some nek =>
        have early : history <:+ ⟨.chain (.getDWallet network fresh.suiDwalletId), .ok (some nek)⟩ :: later :=
          ((List.suffix_cons _ _).trans grown).trans (List.suffix_cons _ _)
        refine .perform ⟨⟨args, dw, rfl, asked.later early, same⟩, fresh, network, same ▸ read, .last⟩ (fun _ _ => .ret ?_)
        intro other returned
        cases returned
        exact ⟨fresh, read.cons _, .inr ⟨network, Heard.last.cons _⟩⟩

/-- A claimed presign is the one the claim answered with. -/
theorem shows_allocate {bucket : AllocateArgs} :
    (allocate bucket).Shows (sourced call) history (fun later result =>
      ∀ presign, result = .ok (some presign) → Heard later (.presign (.claim bucket)) (some presign.id)) := by
  refine .perform trivial (fun claimed _ => ?_)
  cases claimed with
  | none => exact .ret (fun _ absurd_ => nomatch absurd_)
  | some id =>
    refine .await trivial (fun found known => .ret ?_)
    intro presign returned
    cases returned
    have same : presign.id = id := known.1 presign rfl
    rw [same]
    exact Heard.last.cons _

theorem shows_prepareFresh (args : PrepareSignArgs) :
    (prepareFresh config args).Shows (sourced (.prepare args)) history (fun _ _ => True) := by
  refine .perform trivial (fun found _ => ?_)
  cases found with
  | none => exact .raise trivial
  | some dw =>
    dsimp only
    split
    · exact .raise trivial
    · have asked : Chosen (⟨.wallet (.selectOwned args.dwalletId args.userId args.network), some dw⟩ :: history) args dw := .last
      refine .perform trivial (fun id _ => ?_)
      have pays : ∀ later, Bills (.prepare args) later args.userId args.network := fun _ => .inl ⟨args, rfl, rfl, rfl⟩
      refine (shows_chargeCredits (fun later _ => pays later)).bind (fun later _ grown _ => ?_) (fun _ _ _ _ => trivial)
      have drawn : Heard later .randomUUID id := Heard.last.later grown
      have still : Chosen later args dw := (asked.cons _).later grown
      refine .perform ⟨args, dw, rfl, still, drawn, rfl⟩ (fun result known => .unwrap (fun row inserted => ?_) (fun _ _ => trivial))
      subst inserted
      obtain ⟨now, rfl⟩ := known.1 row rfl
      refine (shows_ensureDwalletNek args.network (still.cons _)).bind (fun keyed nek grown knows => ?_) (fun _ _ _ _ => trivial)
      have drawn : Heard keyed .randomUUID id := (drawn.cons _).later grown
      have still : Chosen keyed args dw := (still.cons _).later grown
      have known : KnowsNek keyed dw.id nek := knows nek rfl
      refine shows_allocate.bind (fun allotted presign grown claimed => ?_) (fun _ _ _ _ => trivial)
      have drawn : Heard allotted .randomUUID id := drawn.later grown
      cases presign with
      | none =>
        refine .perform ⟨args, rfl, drawn⟩ (fun _ _ => ?_)
        refine (shows_refundCredits (fun later _ => pays later)).followed (fun _ _ => ?_)
        exact .perform trivial (fun _ _ => .unwrap (fun _ _ => .raise trivial) (fun _ _ => trivial))
      | some presign =>
        refine .perform ⟨args, dw, _, rfl, still.later grown, drawn, claimed presign rfl, rfl, rfl, rfl, known.later grown⟩
          (fun updated _ => ?_)
        exact (shows_plain (only_fetchPresignBytes _ _)).followed (fun _ _ => .ret trivial)

theorem shows_prepareSignRequest (args : PrepareSignArgs) :
    (prepareSignRequest config args).Shows (sourced (.prepare args)) history (fun _ _ => True) := by
  refine .perform trivial (fun existing _ => ?_)
  split
  · refine .perform trivial (fun presign _ => ?_)
    cases presign with
    | none => exact shows_prepareFresh args
    | some presign => exact (shows_plain (only_fetchPresignBytes _ _)).followed (fun _ _ => .ret trivial)
  · exact shows_prepareFresh args

/-! ### Submit -/

theorem shows_submitPreparedSign (args : SubmitPreparedSignArgs) :
    (submitPreparedSign args).Shows (sourced (.submit args)) history (fun _ _ => True) := by
  refine .perform trivial (fun found known => ?_)
  cases found with
  | none => exact .raise trivial
  | some row =>
    have same : row.id = args.signRequestId := known.1 row rfl
    have owned : Heard (⟨.sign (.selectOwned args.signRequestId args.userId args.network), some row⟩ :: history)
        (.sign (.selectOwned row.id args.userId args.network)) (some row) := by
      rw [same]
      exact .last
    dsimp only
    split
    · exact .ret trivial
    · split
      · exact .raise trivial
      · split
        · exact .raise trivial
        · refine .perform ⟨args, row, rfl, owned⟩ (fun _ _ => ?_)
          exact .perform trivial (fun _ _ => .unwrap (fun _ _ => .ret trivial) (fun _ _ => trivial))

/-! ### Worker -/

theorem shows_finishSign {id : Uuid} {job : Nat} {row : SignRequest} {presignId : Uuid} {executed : ExecutedTx}
    (same : row.id = id) :
    (finishSign config row presignId executed).Shows (sourced (.process id job)) history (fun _ _ => True) := by
  have fails : Call.Fails (.process id job) row.id := same
  have own : ∃ job', Call.process id job = .process row.id job' := ⟨job, by rw [same]⟩
  refine .perform trivial (fun _ _ => .perform own (fun _ _ => ?_))
  split
  · exact .perform trivial (fun _ _ => shows_markFailed fails)
  next session _ =>
    refine .perform own (fun _ _ => ?_)
    refine .followed ?_ (fun _ _ => ?_)
    · refine .rescue (fun _ _ => True) ?_ (fun _ _ _ _ => trivial) (fun _ error _ _ => ?_)
      · refine .unwrap (fun curve _ => .unwrap (fun _ _ => ?_) (fun _ _ => trivial)) (fun _ _ => trivial)
        refine .perform trivial (fun _ _ => .unwrap (fun signature _ => ?_) (fun _ _ => trivial))
        cases signature with
        | none => exact .raise trivial
        | some signature => exact .ret trivial
      · refine .perform trivial (fun _ _ => ?_)
        exact (shows_markFailed fails).followed (fun _ _ => .raise trivial)
    · refine .perform trivial (fun _ _ => .perform own (fun _ _ => ?_))
      exact .perform trivial (fun _ _ => shows_unwrap trivial)

theorem shows_abandonSubmit {id : Uuid} {job : Nat} {row : SignRequest} {presignId : Uuid} {error : Thrown}
    (same : row.id = id) :
    (abandonSubmit config row presignId error).Shows (sourced (.process id job)) history (fun _ _ => True) := by
  have fails : Call.Fails (.process id job) row.id := same
  unfold abandonSubmit
  split
  all_goals
    refine .perform trivial (fun _ _ => ?_)
    exact (shows_markFailed fails).followed (fun _ _ => .raise trivial)

/-- The Sui object of the account an id leads to. -/
theorem shows_accountSuiObjectIdFor {accountId : Option Uuid} :
    (accountSuiObjectIdFor accountId).Shows (sourced call) history (fun later result => ∀ object, result = .ok object →
      ∃ id account, accountId = some id ∧ Heard later (.wallet (.selectAccount id)) (some account) ∧
        object = account.suiObjectId) := by
  cases accountId with
  | none => exact .raise (fun _ absurd_ => nomatch absurd_)
  | some id =>
    refine .perform trivial (fun found _ => ?_)
    cases found with
    | none => exact .raise (fun _ absurd_ => nomatch absurd_)
    | some account =>
      refine .ret ?_
      intro object returned
      cases returned
      exact ⟨id, account, rfl, .last, rfl⟩

theorem shows_signQueued {id : Uuid} {job : Nat} {row : SignRequest} {presignId : Uuid} {signature session : String}
    (same : row.id = id) :
    (signQueued config row presignId signature session).Shows (sourced (.process id job)) history (fun _ _ => True) := by
  have fails : Call.Fails (.process id job) row.id := same
  refine .perform trivial (fun found _ => ?_)
  cases found with
  | none => exact shows_markFailed fails
  | some presign =>
    refine .unwrap (fun _ _ => .unwrap (fun _ _ => ?_) (fun _ _ => trivial)) (fun _ _ => trivial)
    refine (shows_plain (only_getIkaClient _)).followed (fun _ _ => ?_)
    refine .perform trivial (fun found _ => ?_)
    cases found with
    | none => exact shows_markFailed fails
    | some dw =>
      refine shows_accountSuiObjectIdFor.bind (fun later object grown located => ?_) (fun _ _ _ _ => trivial)
      obtain ⟨accountId, account, linked, read, rfl⟩ := located object rfl
      refine .unwrap (fun _ _ => .perform trivial (fun built _ => .unwrap (fun _ _ => ?_) (fun _ _ => trivial)))
        (fun _ _ => trivial)
      refine .perform ⟨dw, account, accountId, (Heard.last.later grown).cons _, linked, read.cons _, rfl⟩
        (fun result _ => ?_)
      cases result with
      | ok executed => exact shows_finishSign same
      | error error => exact shows_abandonSubmit same

theorem shows_processSignJob (id : Uuid) (job : Nat) :
    (processSignJob config id).Shows (sourced (.process id job)) history (fun _ _ => True) := by
  refine .perform trivial (fun found known => ?_)
  cases found with
  | none => exact .ret trivial
  | some row =>
    have same : row.id = id := known.1 row rfl
    have fails : Call.Fails (.process id job) row.id := same
    dsimp only
    split
    · exact .ret trivial
    · split
      · exact shows_markFailed fails
      · split
        · exact shows_signQueued same
        · exact shows_markFailed fails

/-! ### Every call -/

theorem shows_sweepStuckPrepared (olderThanSec : Nat) :
    (sweepStuckPrepared config olderThanSec).Shows (sourced (.sweepStuckPrepared olderThanSec)) history (fun _ _ => True) := by
  refine .perform trivial (fun _ _ => .perform trivial (fun stuck _ => ?_))
  have swept : ∀ {later : History Op Res}, (fold (rescueOne config) () stuck).Shows (sourced (.sweepStuckPrepared olderThanSec))
      later (fun _ _ => True) := by
    refine .fold (fun later _ row => ?_)
    unfold rescueOne
    dsimp only
    split
    · exact .perform trivial (fun _ _ => shows_markFailed trivial)
    · exact shows_markFailed trivial
  exact swept.followed (fun _ _ => .ret trivial)

theorem shows_program (config : Config) (call : Call) : (program config call).Shows (sourced call) [] (fun _ _ => True) := by
  cases call with
  | prepare args => exact (shows_prepareSignRequest args).followed (fun _ _ => .ret trivial)
  | submit args => exact (shows_submitPreparedSign args).followed (fun _ _ => .ret trivial)
  | process id job => exact (shows_processSignJob id job).followed (fun _ _ => .ret trivial)
  | sweepStuckPrepared olderThanSec =>
    exact (shows_sweepStuckPrepared olderThanSec).followed (fun _ _ => .ret trivial)
  | sweepExpired olderThanSec =>
    exact (shows_plain (only_sweepExpired olderThanSec)).followed (fun _ _ => .ret trivial)
  | promotePending => exact (shows_plain only_promotePending).followed (fun _ _ => .ret trivial)
  | discover network pages =>
    exact (shows_plain (only_discover network pages)).followed (fun _ _ => .ret trivial)
  | refill args => exact (shows_plain (only_refill config args)).followed (fun _ _ => .ret trivial)

end Walks
end MpcKit.Sign
