import MpcKit.Sign.Effects

/-! Where a call stands. The stage of a call follows from what it has done, and it says which
operations may come next. This is the protocol the functions of the two services follow, with
everything left out that no other call can notice. -/

namespace MpcKit.Sign
open MpcKit.Backend MpcKit.Async
open MpcKit.Billing (ChargeArgs RefundArgs BillingCharge)

inductive Stage where
  | idle
  -- Prepare: the replay branch, then charge, row, presign.
  | found (row : SignRequest) (presignId : Uuid)
  | replaying (row : SignRequest) (presign : Presign)
  | wallet (dw : DWallet)
  | drawn (dw : DWallet) (id : Uuid)
  | charged (dw : DWallet) (id : Uuid)
  | refused (id : Uuid)
  | inserted (row : SignRequest)
  | claimed (row : SignRequest) (presignId : Uuid)
  | allocated (row : SignRequest) (presign : Presign)
  | named (row : Option SignRequest) (presign : Presign)
  | dry (row : SignRequest)
  -- Submit: the row was read, the row is queued but its job is not.
  | owned (row : SignRequest)
  | marked (id : Uuid)
  -- Worker: `status` is the row's status as the run last read or wrote it.
  | working (row : SignRequest) (status : SignStatus)
  | holding (row : SignRequest) (presign : Presign)
  | landing (row : SignRequest) (presign : Presign)
  -- A row was failed or dropped and its refund is due.
  | owing (row : SignRequest)
  | finished

/-- Operations after which a call stands where it stood. -/
def Op.Quiet : Op → Prop
  | .sign (.selectStuck _) => True
  | .sign (.setSession _ _) => True
  | .sign _ => False
  | .presign (.select _) => False
  | .presign (.claim _) => False
  | .presign (.markConsumedPending _) => False
  | .presign _ => True
  | .ledger (.openAccount _ _) => True
  | .ledger _ => False
  | .wallet (.selectOwned _ _ _) => False
  | .wallet _ => True
  | .queue (.signProcess _) => False
  | .queue (.presignRefill _) => True
  | .chain (.execute _) => False
  | .chain _ => True
  | .randomUUID => False
  | .now => True

/-- The row and the presign it names, which decide whether a prepare is a replay. -/
def replay (existing : Option SignRequest) : Option (SignRequest × Uuid) :=
  existing.bind (fun row => row.presignId.map (fun presignId => (row, presignId)))

namespace Stage

/-- The mark of a presign after a submission: its landing is accounted for. -/
def marks : Stage → Stage
  | .landing row _ => .working row .queued
  | stage => stage

/-- What an answered submission leaves the worker with; only `preflight` and `reverted` prove
that the cap was not touched. -/
def submits : Stage → Except Thrown ExecutedTx → Stage
  | .holding row presign, .ok _ => .landing row presign
  | .holding row presign, .error error => if error.phase = .unknown then .landing row presign else .working row .queued
  | stage, _ => stage

def reads : Stage → Option Presign → Stage
  | .found row _, some presign => .replaying row presign
  | .found _ _, none => .idle
  | .claimed row _, some presign => .allocated row presign
  | .claimed row _, none => .dry row
  | .working row _, some presign => .holding row presign
  | stage, _ => stage

def claims : Stage → Option Uuid → Stage
  | .inserted row, some presignId => .claimed row presignId
  | .inserted row, none => .dry row
  | stage, _ => stage

def charges : Stage → Except Thrown BillingCharge → Stage
  | .drawn dw id, .ok _ => .charged dw id
  | _, _ => .finished

def inserts : Stage → Except Thrown SignRequest → Stage
  | _, .ok row => .inserted row
  | .charged _ id, .error _ => .refused id
  | _, .error _ => .finished

/-- The stage after one more answered operation. -/
def next (stage : Stage) : (op : Op) → Res op → Stage
  | .sign (.selectByKey _ _ _), existing => match replay existing with
      | some (row, presignId) => .found row presignId
      | none => .idle
  | .sign (.selectOwned _ _ _), some row => .owned row
  | .sign (.selectOwned _ _ _), none => .finished
  | .sign (.select _), some row => if row.status = .queued then .working row .queued else .finished
  | .sign (.select _), none => .finished
  | .sign (.insert _), result => stage.inserts result
  | .sign (.delete _), _ => match stage with
      | .dry row => .owing row
      | stage => stage
  | .sign (.setPresign _ _), updated => match stage with
      | .allocated _ presign => .named updated presign
      | stage => stage
  | .sign (.setQueued id _ _), _ => .marked id
  | .sign (.setSubmitted _ _), _ => match stage with
      | .working row _ => .working row .submitted
      | stage => stage
  | .sign (.setCompleted _ _), _ => .finished
  | .sign (.setFailed _ _ _), some row => .owing row
  | .sign (.setFailed _ _ _), none => .finished
  | .sign _, _ => stage
  | .presign (.select _), presign => stage.reads presign
  | .presign (.claim _), presignId => stage.claims presignId
  | .presign (.markConsumedPending _), _ => stage.marks
  | .presign (.markUsed _), _ => stage.marks
  | .presign _, _ => stage
  | .ledger (.charge _), result => stage.charges result
  | .ledger (.refund _), _ => .finished
  | .ledger _, _ => stage
  | .wallet (.selectOwned _ _ _), some dw => .wallet dw
  | .wallet (.selectOwned _ _ _), none => .finished
  | .wallet _, _ => stage
  | .queue (.signProcess _), _ => .finished
  | .queue _, _ => stage
  | .chain (.execute _), result => stage.submits result
  | .chain _, _ => stage
  | .randomUUID, id => match stage with
      | .wallet dw => .drawn dw id
      | stage => stage
  | .now, _ => stage

/-- Stages that owe the shared state nothing at once. -/
def Free : Stage → Prop
  | .landing _ _ => False
  | .marked _ => False
  | .owing _ => False
  | _ => True

end Stage

/-- The stage of a call, from everything it has done. -/
def stage : History Op Res → Stage
  | [] => .idle
  | entry :: history => (stage history).next entry.1 entry.2

theorem marks_free {stage : Stage} (free : stage.Free) : stage.marks = stage := by
  cases stage <;> first | rfl | exact free.elim

theorem next_quiet {stage : Stage} {op : Op} (quiet : op.Quiet) (free : stage.Free) (answer : Res op) :
    stage.next op answer = stage := by
  cases op with
  | sign op => cases op <;> first | exact quiet.elim | rfl
  | presign op => cases op <;> first | exact quiet.elim | exact marks_free free | rfl
  | ledger op => cases op <;> first | exact quiet.elim | rfl
  | wallet op => cases op <;> first | exact quiet.elim | rfl
  | queue op => cases op <;> first | exact quiet.elim | rfl
  | chain op => cases op <;> first | exact quiet.elim | rfl
  | randomUUID => exact quiet.elim
  | now => rfl

/-! ### The protocol -/

/-- What a prepare inserts. -/
def PrepareSignArgs.newRequest (args : PrepareSignArgs) (dw : DWallet) (id : Uuid) : NewSignRequest where
  id := id
  userId := args.userId
  network := args.network
  idempotencyKey := args.idempotencyKey
  suiDwalletId := dw.suiDwalletId
  curve := dw.curve
  signatureAlgorithm := args.signatureAlgorithm
  hashScheme := args.hashScheme
  messageHex := toHex args.message
  status := .prepared

/-- The operations a call may perform where it stands. -/
inductive Allowed (config : Config) : Call → Stage → Op → Prop where
  | selectByKey (args : PrepareSignArgs) :
      Allowed config (.prepare args) .idle (.sign (.selectByKey args.userId args.network args.idempotencyKey))
  | replay (args : PrepareSignArgs) (row : SignRequest) (presignId : Uuid) :
      Allowed config (.prepare args) (.found row presignId) (.presign (.select presignId))
  | selectWallet (args : PrepareSignArgs) :
      Allowed config (.prepare args) .idle (.wallet (.selectOwned args.dwalletId args.userId args.network))
  | draw (args : PrepareSignArgs) (dw : DWallet) : Allowed config (.prepare args) (.wallet dw) .randomUUID
  | charge (args : PrepareSignArgs) (dw : DWallet) (id : Uuid) (reason : Option String)
      (positive : 0 < config.signPriceMicro) :
      Allowed config (.prepare args) (.drawn dw id)
        (.ledger (.charge ⟨args.userId, args.network, "sign", id, config.signPriceMicro, reason⟩))
  | insert (args : PrepareSignArgs) (dw : DWallet) (id : Uuid) :
      Allowed config (.prepare args) (.charged dw id) (.sign (.insert (args.newRequest dw id)))
  | claim (args : PrepareSignArgs) (row : SignRequest) (bucket : AllocateArgs) (own : bucket.signRequestId = row.id) :
      Allowed config (.prepare args) (.inserted row) (.presign (.claim bucket))
  | allocate (args : PrepareSignArgs) (row : SignRequest) (presignId : Uuid) :
      Allowed config (.prepare args) (.claimed row presignId) (.presign (.select presignId))
  | name (args : PrepareSignArgs) (row : SignRequest) (presign : Presign) :
      Allowed config (.prepare args) (.allocated row presign) (.sign (.setPresign row.id presign.id))
  | drop (args : PrepareSignArgs) (row : SignRequest) :
      Allowed config (.prepare args) (.dry row) (.sign (.delete row.id))
  | selectOwned (args : SubmitPreparedSignArgs) :
      Allowed config (.submit args) .idle (.sign (.selectOwned args.signRequestId args.userId args.network))
  | queue (args : SubmitPreparedSignArgs) (row : SignRequest) (prepared : row.status = .prepared)
      (signature session : String) :
      Allowed config (.submit args) (.owned row) (.sign (.setQueued row.id signature session))
  | enqueue (args : SubmitPreparedSignArgs) (id : Uuid) :
      Allowed config (.submit args) (.marked id) (.queue (.signProcess id))
  | select (id : Uuid) (job : Nat) : Allowed config (.process id job) .idle (.sign (.select id))
  | hold (id : Uuid) (job : Nat) (row : SignRequest) (presignId : Uuid) :
      Allowed config (.process id job) (.working row .queued) (.presign (.select presignId))
  | execute (id : Uuid) (job : Nat) (row : SignRequest) (presign : Presign) (tx : SignZeroTrust)
      (cap : tx.presignCapId = presign.suiObjectId) :
      Allowed config (.process id job) (.holding row presign) (.chain (.execute tx))
  | consume (id : Uuid) (job : Nat) (row : SignRequest) (presign : Presign) :
      Allowed config (.process id job) (.landing row presign) (.presign (.markConsumedPending presign.id))
  | spend (id : Uuid) (job : Nat) (row : SignRequest) (presign : Presign) :
      Allowed config (.process id job) (.landing row presign) (.presign (.markUsed presign.id))
  | submit (id : Uuid) (job : Nat) (row : SignRequest) (digest : String) :
      Allowed config (.process id job) (.working row .queued) (.sign (.setSubmitted row.id digest))
  | complete (id : Uuid) (job : Nat) (row : SignRequest) (signature : String) :
      Allowed config (.process id job) (.working row .submitted) (.sign (.setCompleted row.id signature))
  | fail (id : Uuid) (job : Nat) (row : SignRequest) (status : SignStatus) (code message : String) :
      Allowed config (.process id job) (.working row status) (.sign (.setFailed row.id code message))
  | failHeld (id : Uuid) (job : Nat) (row : SignRequest) (presign : Presign) (code message : String) :
      Allowed config (.process id job) (.holding row presign) (.sign (.setFailed row.id code message))
  | expire (olderThanSec : Nat) (stage : Stage) (between : stage = .idle ∨ stage = .finished) (id : Uuid)
      (code message : String) :
      Allowed config (.sweepStuckPrepared olderThanSec) stage (.sign (.setFailed id code message))
  | openAccount (call : Call) (row : SignRequest) :
      Allowed config call (.owing row) (.ledger (.openAccount row.userId row.network))
  | refund (call : Call) (row : SignRequest) (reason : String) :
      Allowed config call (.owing row)
        (.ledger (.refund ⟨row.userId, row.network, "sign", row.id, config.signPriceMicro, reason⟩))
  | quiet (call : Call) (stage : Stage) (op : Op) (free : stage.Free) (quiet : op.Quiet) :
      Allowed config call stage op

/-- Everything an allowed and answered operation can do to the stage of its call. -/
inductive Moved (config : Config) : Call → Stage → (op : Op) → Res op → Stage → Prop where
  | found (args : PrepareSignArgs) (existing : Option SignRequest) (row : SignRequest) (presignId : Uuid)
      (usable : replay existing = some (row, presignId)) :
      Moved config (.prepare args) .idle (.sign (.selectByKey args.userId args.network args.idempotencyKey)) existing
        (.found row presignId)
  | unfound (args : PrepareSignArgs) (existing : Option SignRequest) (unusable : replay existing = none) :
      Moved config (.prepare args) .idle (.sign (.selectByKey args.userId args.network args.idempotencyKey)) existing .idle
  | replaying (args : PrepareSignArgs) (row : SignRequest) (presignId : Uuid) (presign : Presign) :
      Moved config (.prepare args) (.found row presignId) (.presign (.select presignId)) (some presign)
        (.replaying row presign)
  | unreplayed (args : PrepareSignArgs) (row : SignRequest) (presignId : Uuid) :
      Moved config (.prepare args) (.found row presignId) (.presign (.select presignId)) none .idle
  | wallet (args : PrepareSignArgs) (dw : DWallet) :
      Moved config (.prepare args) .idle (.wallet (.selectOwned args.dwalletId args.userId args.network)) (some dw)
        (.wallet dw)
  | walletless (args : PrepareSignArgs) :
      Moved config (.prepare args) .idle (.wallet (.selectOwned args.dwalletId args.userId args.network)) none .finished
  | drawn (args : PrepareSignArgs) (dw : DWallet) (id : Uuid) :
      Moved config (.prepare args) (.wallet dw) .randomUUID id (.drawn dw id)
  | charged (args : PrepareSignArgs) (dw : DWallet) (id : Uuid) (reason : Option String) (charge : BillingCharge)
      (positive : 0 < config.signPriceMicro) :
      Moved config (.prepare args) (.drawn dw id)
        (.ledger (.charge ⟨args.userId, args.network, "sign", id, config.signPriceMicro, reason⟩)) (.ok charge)
        (.charged dw id)
  | uncharged (args : PrepareSignArgs) (dw : DWallet) (id : Uuid) (reason : Option String) (error : Thrown)
      (positive : 0 < config.signPriceMicro) :
      Moved config (.prepare args) (.drawn dw id)
        (.ledger (.charge ⟨args.userId, args.network, "sign", id, config.signPriceMicro, reason⟩)) (.error error) .finished
  | inserted (args : PrepareSignArgs) (dw : DWallet) (id : Uuid) (row : SignRequest) :
      Moved config (.prepare args) (.charged dw id) (.sign (.insert (args.newRequest dw id))) (.ok row) (.inserted row)
  | refused (args : PrepareSignArgs) (dw : DWallet) (id : Uuid) (error : Thrown) :
      Moved config (.prepare args) (.charged dw id) (.sign (.insert (args.newRequest dw id))) (.error error) (.refused id)
  | claimed (args : PrepareSignArgs) (row : SignRequest) (bucket : AllocateArgs) (own : bucket.signRequestId = row.id)
      (presignId : Uuid) :
      Moved config (.prepare args) (.inserted row) (.presign (.claim bucket)) (some presignId) (.claimed row presignId)
  | unclaimed (args : PrepareSignArgs) (row : SignRequest) (bucket : AllocateArgs) (own : bucket.signRequestId = row.id) :
      Moved config (.prepare args) (.inserted row) (.presign (.claim bucket)) none (.dry row)
  | allocated (args : PrepareSignArgs) (row : SignRequest) (presignId : Uuid) (presign : Presign) :
      Moved config (.prepare args) (.claimed row presignId) (.presign (.select presignId)) (some presign)
        (.allocated row presign)
  | vanished (args : PrepareSignArgs) (row : SignRequest) (presignId : Uuid) :
      Moved config (.prepare args) (.claimed row presignId) (.presign (.select presignId)) none (.dry row)
  | named (args : PrepareSignArgs) (row : SignRequest) (presign : Presign) (updated : Option SignRequest) :
      Moved config (.prepare args) (.allocated row presign) (.sign (.setPresign row.id presign.id)) updated
        (.named updated presign)
  | dropped (args : PrepareSignArgs) (row : SignRequest) :
      Moved config (.prepare args) (.dry row) (.sign (.delete row.id)) () (.owing row)
  | owned (args : SubmitPreparedSignArgs) (row : SignRequest) :
      Moved config (.submit args) .idle (.sign (.selectOwned args.signRequestId args.userId args.network)) (some row)
        (.owned row)
  | unowned (args : SubmitPreparedSignArgs) :
      Moved config (.submit args) .idle (.sign (.selectOwned args.signRequestId args.userId args.network)) none .finished
  | marked (args : SubmitPreparedSignArgs) (row : SignRequest) (prepared : row.status = .prepared)
      (signature session : String) (updated : Option SignRequest) :
      Moved config (.submit args) (.owned row) (.sign (.setQueued row.id signature session)) updated (.marked row.id)
  | enqueued (args : SubmitPreparedSignArgs) (id : Uuid) (result : Except Thrown Unit) :
      Moved config (.submit args) (.marked id) (.queue (.signProcess id)) result .finished
  | working (id : Uuid) (job : Nat) (row : SignRequest) (queued : row.status = .queued) :
      Moved config (.process id job) .idle (.sign (.select id)) (some row) (.working row .queued)
  | unqueued (id : Uuid) (job : Nat) (row : SignRequest) (unqueued : row.status ≠ .queued) :
      Moved config (.process id job) .idle (.sign (.select id)) (some row) .finished
  | missing (id : Uuid) (job : Nat) : Moved config (.process id job) .idle (.sign (.select id)) none .finished
  | holding (id : Uuid) (job : Nat) (row : SignRequest) (presignId : Uuid) (presign : Presign) :
      Moved config (.process id job) (.working row .queued) (.presign (.select presignId)) (some presign)
        (.holding row presign)
  | unheld (id : Uuid) (job : Nat) (row : SignRequest) (presignId : Uuid) :
      Moved config (.process id job) (.working row .queued) (.presign (.select presignId)) none (.working row .queued)
  | landing (id : Uuid) (job : Nat) (row : SignRequest) (presign : Presign) (tx : SignZeroTrust)
      (cap : tx.presignCapId = presign.suiObjectId) (result : Except Thrown ExecutedTx) :
      Moved config (.process id job) (.holding row presign) (.chain (.execute tx)) result (.landing row presign)
  | rejected (id : Uuid) (job : Nat) (row : SignRequest) (presign : Presign) (tx : SignZeroTrust)
      (cap : tx.presignCapId = presign.suiObjectId) (error : Thrown) (safe : error.phase ≠ .unknown) :
      Moved config (.process id job) (.holding row presign) (.chain (.execute tx)) (.error error) (.working row .queued)
  | consumed (id : Uuid) (job : Nat) (row : SignRequest) (presign : Presign) :
      Moved config (.process id job) (.landing row presign) (.presign (.markConsumedPending presign.id)) ()
        (.working row .queued)
  | spent (id : Uuid) (job : Nat) (row : SignRequest) (presign : Presign) :
      Moved config (.process id job) (.landing row presign) (.presign (.markUsed presign.id)) () (.working row .queued)
  | submitted (id : Uuid) (job : Nat) (row : SignRequest) (digest : String) :
      Moved config (.process id job) (.working row .queued) (.sign (.setSubmitted row.id digest)) ()
        (.working row .submitted)
  | completed (id : Uuid) (job : Nat) (row : SignRequest) (signature : String) :
      Moved config (.process id job) (.working row .submitted) (.sign (.setCompleted row.id signature)) () .finished
  | failed (call : Call) (stage : Stage) (id : Uuid) (code message : String) (row : SignRequest)
      (fails : Allowed config call stage (.sign (.setFailed id code message))) :
      Moved config call stage (.sign (.setFailed id code message)) (some row) (.owing row)
  | unfailed (call : Call) (stage : Stage) (id : Uuid) (code message : String)
      (fails : Allowed config call stage (.sign (.setFailed id code message))) :
      Moved config call stage (.sign (.setFailed id code message)) none .finished
  | openAccount (call : Call) (row : SignRequest) :
      Moved config call (.owing row) (.ledger (.openAccount row.userId row.network)) () (.owing row)
  | refunded (call : Call) (row : SignRequest) (reason : String) (result : Except Thrown BillingCharge) :
      Moved config call (.owing row)
        (.ledger (.refund ⟨row.userId, row.network, "sign", row.id, config.signPriceMicro, reason⟩)) result .finished
  | quiet (call : Call) (stage : Stage) (op : Op) (answer : Res op) (free : stage.Free) (quiet : op.Quiet) :
      Moved config call stage op answer stage

theorem Allowed.moved {config : Config} {call : Call} {stage : Stage} {op : Op}
    (allowed : Allowed config call stage op) (answer : Res op) :
    Moved config call stage op answer (stage.next op answer) := by
  cases allowed with
  | selectByKey args =>
    simp only [Stage.next]
    split
    next row presignId usable => exact .found args answer row presignId usable
    next unusable => exact .unfound args answer unusable
  | replay args row presignId =>
    cases answer with
    | none => exact .unreplayed args row presignId
    | some presign => exact .replaying args row presignId presign
  | selectWallet args =>
    cases answer with
    | none => exact .walletless args
    | some dw => exact .wallet args dw
  | draw args dw => exact .drawn args dw answer
  | charge args dw id reason positive =>
    cases answer with
    | ok row => exact .charged args dw id reason row positive
    | error error => exact .uncharged args dw id reason error positive
  | insert args dw id =>
    cases answer with
    | ok row => exact .inserted args dw id row
    | error error => exact .refused args dw id error
  | claim args row bucket own =>
    cases answer with
    | none => exact .unclaimed args row bucket own
    | some presignId => exact .claimed args row bucket own presignId
  | allocate args row presignId =>
    cases answer with
    | none => exact .vanished args row presignId
    | some presign => exact .allocated args row presignId presign
  | name args row presign => exact .named args row presign answer
  | drop args row => exact .dropped args row
  | selectOwned args =>
    cases answer with
    | none => exact .unowned args
    | some row => exact .owned args row
  | queue args row prepared signature session => exact .marked args row prepared signature session answer
  | enqueue args id => exact .enqueued args id answer
  | select id job =>
    cases answer with
    | none => exact .missing id job
    | some row =>
      simp only [Stage.next]
      split
      next queued => exact .working id job row queued
      next unqueued => exact .unqueued id job row unqueued
  | hold id job row presignId =>
    cases answer with
    | none => exact .unheld id job row presignId
    | some presign => exact .holding id job row presignId presign
  | execute id job row presign tx cap =>
    cases answer with
    | ok executed => exact .landing id job row presign tx cap (.ok executed)
    | error error =>
      simp only [Stage.next, Stage.submits]
      split
      · exact .landing id job row presign tx cap (.error error)
      next safe => exact .rejected id job row presign tx cap error safe
  | consume id job row presign => exact .consumed id job row presign
  | spend id job row presign => exact .spent id job row presign
  | submit id job row digest => exact .submitted id job row digest
  | complete id job row signature => exact .completed id job row signature
  | fail id job row status code message =>
    cases answer with
    | none => exact .unfailed _ _ _ _ _ (.fail id job row status code message)
    | some failed => exact .failed _ _ _ _ _ failed (.fail id job row status code message)
  | failHeld id job row presign code message =>
    cases answer with
    | none => exact .unfailed _ _ _ _ _ (.failHeld id job row presign code message)
    | some failed => exact .failed _ _ _ _ _ failed (.failHeld id job row presign code message)
  | expire olderThanSec stage between id code message =>
    cases answer with
    | none => exact .unfailed _ _ _ _ _ (.expire olderThanSec stage between id code message)
    | some failed => exact .failed _ _ _ _ _ failed (.expire olderThanSec stage between id code message)
  | openAccount call row => exact .openAccount call row
  | refund call row reason => exact .refunded call row reason answer
  | quiet call stage op free quiet =>
    rw [next_quiet quiet free]
    exact .quiet call stage op answer free quiet

/-! What the protocol says of one kind of operation, or of one stage. -/

section Inversion

variable {config : Config} {call : Call} {stage : Stage} {id : Uuid}

theorem Allowed.of_setQueued {signature session : String}
    (allowed : Allowed config call stage (.sign (.setQueued id signature session))) :
    ∃ row, stage = .owned row ∧ row.id = id ∧ row.status = .prepared := by
  cases allowed with
  | queue args row prepared => exact ⟨row, rfl, rfl, prepared⟩
  | quiet _ _ _ _ quiet => exact quiet.elim

theorem Allowed.of_setSubmitted {digest : String}
    (allowed : Allowed config call stage (.sign (.setSubmitted id digest))) :
    ∃ row, stage = .working row .queued ∧ row.id = id := by
  cases allowed with
  | submit _ _ row => exact ⟨row, rfl, rfl⟩
  | quiet _ _ _ _ quiet => exact quiet.elim

theorem Allowed.of_setCompleted {signature : String}
    (allowed : Allowed config call stage (.sign (.setCompleted id signature))) :
    ∃ row, stage = .working row .submitted ∧ row.id = id := by
  cases allowed with
  | complete _ _ row => exact ⟨row, rfl, rfl⟩
  | quiet _ _ _ _ quiet => exact quiet.elim

theorem Allowed.of_execute {tx : SignZeroTrust} (allowed : Allowed config call stage (.chain (.execute tx))) :
    ∃ row presign, stage = .holding row presign ∧ tx.presignCapId = presign.suiObjectId := by
  cases allowed with
  | execute _ _ row presign _ cap => exact ⟨row, presign, rfl, cap⟩
  | quiet _ _ _ _ quiet => exact quiet.elim

theorem Allowed.of_landing {row : SignRequest} {presign : Presign} {op : Op}
    (allowed : Allowed config call (.landing row presign) op) :
    op = .presign (.markConsumedPending presign.id) ∨ op = .presign (.markUsed presign.id) := by
  cases allowed with
  | consume => exact .inl rfl
  | spend => exact .inr rfl
  | expire _ _ between => rcases between with same | same <;> cases same
  | quiet _ _ _ free => exact free.elim

theorem Allowed.of_randomUUID (allowed : Allowed config call stage .randomUUID) :
    ∃ args dw, call = .prepare args ∧ stage = .wallet dw := by
  cases allowed with
  | draw args dw => exact ⟨args, dw, rfl, rfl⟩
  | quiet _ _ _ _ quiet => exact quiet.elim

theorem Allowed.of_charge {charge : ChargeArgs} (allowed : Allowed config call stage (.ledger (.charge charge))) :
    ∃ args dw id reason, call = .prepare args ∧ stage = .drawn dw id ∧ 0 < config.signPriceMicro ∧
      charge = ⟨args.userId, args.network, "sign", id, config.signPriceMicro, reason⟩ := by
  cases allowed with
  | charge args dw id reason positive => exact ⟨args, dw, id, reason, rfl, rfl, positive, rfl⟩
  | quiet _ _ _ _ quiet => exact quiet.elim

theorem Allowed.of_refund {refund : RefundArgs} (allowed : Allowed config call stage (.ledger (.refund refund))) :
    ∃ row reason, stage = .owing row ∧
      refund = ⟨row.userId, row.network, "sign", row.id, config.signPriceMicro, reason⟩ := by
  cases allowed with
  | refund _ row reason => exact ⟨row, reason, rfl, rfl⟩
  | quiet _ _ _ _ quiet => exact quiet.elim

theorem Allowed.of_insert {new : NewSignRequest} (allowed : Allowed config call stage (.sign (.insert new))) :
    ∃ args dw id, call = .prepare args ∧ stage = .charged dw id ∧ new = args.newRequest dw id := by
  cases allowed with
  | insert args dw id => exact ⟨args, dw, id, rfl, rfl, rfl⟩
  | quiet _ _ _ _ quiet => exact quiet.elim

theorem Allowed.of_owing {row : SignRequest} {op : Op} (allowed : Allowed config call (.owing row) op) :
    op = .ledger (.openAccount row.userId row.network) ∨ ∃ refund, op = .ledger (.refund refund) := by
  cases allowed with
  | openAccount => exact .inl rfl
  | refund _ _ reason => exact .inr ⟨_, rfl⟩
  | expire _ _ between => rcases between with same | same <;> cases same
  | quiet _ _ _ free => exact free.elim

theorem Allowed.of_delete (allowed : Allowed config call stage (.sign (.delete id))) :
    ∃ args row, call = .prepare args ∧ stage = .dry row ∧ row.id = id := by
  cases allowed with
  | drop args row => exact ⟨args, row, rfl, rfl, rfl⟩
  | quiet _ _ _ _ quiet => exact quiet.elim

theorem Allowed.of_setPresign {presignId : Uuid} (allowed : Allowed config call stage (.sign (.setPresign id presignId))) :
    ∃ args row presign, call = .prepare args ∧ stage = .allocated row presign ∧ row.id = id ∧ presign.id = presignId := by
  cases allowed with
  | name args row presign => exact ⟨args, row, presign, rfl, rfl, rfl, rfl⟩
  | quiet _ _ _ _ quiet => exact quiet.elim

theorem Allowed.of_claim {bucket : AllocateArgs} (allowed : Allowed config call stage (.presign (.claim bucket))) :
    ∃ args row, call = .prepare args ∧ stage = .inserted row ∧ bucket.signRequestId = row.id := by
  cases allowed with
  | claim args row _ own => exact ⟨args, row, rfl, rfl, own⟩
  | quiet _ _ _ _ quiet => exact quiet.elim

theorem Allowed.of_charged {dw : DWallet} {op : Op} (allowed : Allowed config call (.charged dw id) op) :
    op.Quiet ∨ ∃ new, op = .sign (.insert new) := by
  cases allowed with
  | insert => exact .inr ⟨_, rfl⟩
  | expire _ _ between => rcases between with same | same <;> cases same
  | quiet _ _ _ _ quiet => exact .inl quiet

theorem Allowed.of_refused {op : Op} (allowed : Allowed config call (.refused id) op) : op.Quiet := by
  cases allowed with
  | expire _ _ between => rcases between with same | same <;> cases same
  | quiet _ _ _ _ quiet => exact quiet

theorem Allowed.of_marked {op : Op} (allowed : Allowed config call (.marked id) op) : op = .queue (.signProcess id) := by
  cases allowed with
  | enqueue => rfl
  | expire _ _ between => rcases between with same | same <;> cases same
  | quiet _ _ _ free => exact free.elim

/-- How a call comes to owe a refund. -/
theorem Moved.owing {before : Stage} {op : Op} {answer : Res op} {row : SignRequest}
    (moved : Moved config call before op answer (.owing row)) :
    (before = .owing row ∧ op = .ledger (.openAccount row.userId row.network)) ∨
    (before = .dry row ∧ op = .sign (.delete row.id)) ∨
    ∃ id code message, (⟨op, answer⟩ : Entry Op Res) = ⟨.sign (.setFailed id code message), some row⟩ := by
  cases moved with
  | dropped args => exact .inr (.inl ⟨rfl, rfl⟩)
  | failed _ _ id code message _ => exact .inr (.inr ⟨id, code, message, rfl⟩)
  | openAccount => exact .inl ⟨rfl, rfl⟩
  | quiet _ _ _ _ free => exact free.elim

end Inversion

/-- Where a call may stop. A free price stops every refund, but then nothing was ever charged. -/
def Stage.Rests (config : Config) : Stage → Prop
  | .charged _ _ => False
  | .claimed _ _ => False
  | .allocated _ _ => False
  | .dry _ => False
  | .marked _ => False
  | .working _ _ => False
  | .landing _ _ => False
  | .owing _ => config.signPriceMicro = 0
  | _ => True

/-- What a prepare answers with, by the branch it took. -/
inductive Answered : Stage → PrepareSignResult → Prop where
  | replayed (row : SignRequest) (presign : Presign) (bytes : String) :
      Answered (.replaying row presign) ⟨some row, true, bytes, presign.suiObjectId⟩
  | fresh (row : Option SignRequest) (presign : Presign) (bytes : String) :
      Answered (.named row presign) ⟨row, false, bytes, presign.suiObjectId⟩

def Ended (config : Config) (stage : Stage) : Call → Except Thrown Reply → Prop
  | .prepare _, .ok reply => ∃ result, reply = .prepared result ∧ Answered stage result
  | .process _ _, .ok _ => stage = .finished
  | _, _ => stage.Rests config

theorem Ended.rests {config : Config} {stage : Stage} {call : Call} {result : Except Thrown Reply}
    (ended : Ended config stage call result) : stage.Rests config := by
  unfold Ended at ended
  split at ended
  · obtain ⟨_, _, answered⟩ := ended
    cases answered <;> trivial
  · rw [ended]
    trivial
  · exact ended

/-- What an answer says whatever the state it came from. -/
def Answers : (op : Op) → Res op → Prop
  | .sign (.selectByKey userId network key), existing => ∀ row ∈ existing, row.HasKey userId network key
  | .sign (.selectOwned id _ _), found => ∀ row ∈ found, row.id = id
  | .sign (.select id), found => ∀ row ∈ found, row.id = id
  | .sign (.insert new), result => ∀ row, result = .ok row → ∃ now, row = new.row now
  | .sign (.setPresign id _), updated => ∀ row ∈ updated, row.id = id
  | .sign (.setFailed id _ _), failed => ∀ row ∈ failed, row.id = id
  | .presign (.select id), found => ∀ presign ∈ found, presign.id = id
  | .wallet (.selectOwned id _ _), found => ∀ dw ∈ found, dw.id = id
  | _, _ => True

def contract (config : Config) (call : Call) : Contract Op Res Thrown Reply where
  answers := Answers
  before history op := Allowed config call (stage history) op
  after history result := Ended config (stage history) call result

theorem answers_exec {op : Op} {env : Env} {world after : World} {answer : Res op}
    (executed : exec op env world = some (answer, after)) : Answers op answer := by
  cases op with
  | sign op =>
    cases executed
    cases op with
    | selectByKey userId network key =>
      intro row found
      simpa using List.find?_some found
    | selectOwned id userId network =>
      intro row found
      have meets := List.find?_some found
      simp only [decide_eq_true_eq] at meets
      exact meets.1
    | select id =>
      intro row found
      exact Table.key_of_get found
    | insert new =>
      intro row inserted
      simp only [SignOp.exec] at inserted
      split at inserted
      · cases inserted
      · split at inserted
        · cases inserted
          exact ⟨env.now, rfl⟩
        · cases inserted
    | setPresign id presignId =>
      intro row updated
      exact Table.key_of_get updated
    | setFailed id code message =>
      intro row updated
      exact Table.key_of_get updated
    | _ => trivial
  | presign op =>
    cases executed
    cases op with
    | select id =>
      intro presign found
      exact Table.key_of_get found
    | _ => trivial
  | wallet op =>
    cases executed
    cases op with
    | selectOwned id userId network =>
      intro dw found
      have meets := List.find?_some found
      simp only [decide_eq_true_eq] at meets
      exact meets.1
    | _ => trivial
  | _ => trivial

/-! ### Who does what -/

/-- The call an event steps, with the operation it performs. -/
def acting (system : SignSystem) : Event Env Call → Option (SignThread × Op)
  | .step index _ => match system.calls index with
      | some thread => match thread.program with
          | .await op _ => some (thread, op)
          | _ => none
      | none => none
  | _ => none

theorem acting_of_act {config : Config} {system : SignSystem} {index : Nat} {env : Env} {thread : SignThread} {op : Op}
    {answer : Res op} {rest : Prog Reply} {world : World}
    (act : (machine config).Act (contract config) system index env thread op answer rest world) :
    acting system (.step index env) = some (thread, op) := by
  obtain ⟨next, awaits, _⟩ := act.awaits
  simp [acting, act.found, awaits]

/-! ### The beginning -/

/-- Nothing has been asked for yet: no call, no request, no job, no charge for signing, and a
pool of presigns that nobody has used. -/
structure Initial (system : SignSystem) : Prop where
  threads : system.threads = []
  requests : system.world.signRequests.rows = []
  jobs : system.world.jobs = []
  keys : (system.world.ledger.charges.map BillingCharge.key).Nodup
  charges : ∀ charge ∈ system.world.ledger.charges, charge.opType ≠ "sign"
  caps : (system.world.presigns.rows.map Presign.suiObjectId).Nodup
  presigns : ∀ presign ∈ system.world.presigns.rows, presign.signRequestId = none
  consumed : system.world.chain.consumed = []

theorem Initial.calls {system : SignSystem} (initial : Initial system) (index : Nat) : system.calls index = none := by
  simp [System.calls, initial.threads]

theorem Initial.request {system : SignSystem} (initial : Initial system) (id : Uuid) :
    system.world.signRequests.get id = none := by
  rw [Table.get, initial.requests]
  rfl

end MpcKit.Sign
