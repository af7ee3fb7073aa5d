import MpcKit.Sign.Caps
import MpcKit.Sign.Books

/-! The outcome of a sign request and its rows in the ledger agree, as long as nobody reopens or
signs a request that has failed and nobody fails one that is completed. -/

namespace MpcKit.Sign
open MpcKit.Backend MpcKit.Async
open MpcKit.Billing (Ledger OpKey BillingCharge RefundArgs)

/-- A `markFailed` has written the status of this request and has not refunded it yet. -/
def Settling (system : SignSystem) (id : Uuid) : Prop :=
  ∃ thread ∈ system.threads, thread.Running ∧ ∃ row, stage thread.history = .owing row ∧ row.id = id

/-- What the ledger holds for a request that has ended. -/
structure Agreement (system : SignSystem) : Prop where
  refunded : ∀ row ∈ system.world.signRequests.rows, Refunded system.world.ledger row.network row.id →
    row.status ≠ .completed ∧ row.signatureHex = none
  failed : ∀ row ∈ system.world.signRequests.rows, row.status = .failed → ¬Settling system row.id →
    ∃ amount, system.world.ledger.creditsOf (signKey row.network row.id) .charge = [-amount] ∧
      system.world.ledger.creditsOf (signKey row.network row.id) .refund = [amount]
  completed : ∀ row ∈ system.world.signRequests.rows, row.status = .completed →
    ∃ amount, system.world.ledger.creditsOf (signKey row.network row.id) .charge = [-amount] ∧
      system.world.ledger.creditsOf (signKey row.network row.id) .refund = []

/-- No refunded request goes to the chain in this event. -/
def Withheld (system : SignSystem) : Event Env Call → Prop
  | .step index env => ∀ thread tx row presign, acting system (.step index env) = some (thread, .chain (.execute tx)) →
      stage thread.history = .holding row presign → env.outcome.lands = true →
      ¬Refunded system.world.ledger row.network row.id
  | _ => True

/-- The request whose submission a worker is preparing. -/
def Stage.holds : Stage → Option SignRequest
  | .holding row _ => some row
  | _ => none

/-- The request a call has failed or dropped and not refunded yet. -/
def Stage.owes : Stage → Option SignRequest
  | .owing row => some row
  | _ => none

/-- The row is open when it is queued or submitted, not failed when it is completed, not
completed when it is failed; a submission lands for a request that is there and has not failed. -/
def Unended (table : SignTable) (stage : Stage) (env : Env) : Op → Prop
  | .sign (.setQueued id _ _) => ∀ row ∈ table.get id, row.status.Live
  | .sign (.setSubmitted id _) => ∀ row ∈ table.get id, row.status.Live
  | .sign (.setCompleted id _) => ∀ row ∈ table.get id, row.status ≠ .failed
  | .sign (.setFailed id _ _) => ∀ row ∈ table.get id, row.status ≠ .completed
  | .chain (.execute _) => env.outcome.lands = true → ∀ row ∈ stage.holds,
      ∃ current ∈ table.get row.id, current.status ≠ .failed
  | _ => True

instance (table : SignTable) (stage : Stage) (env : Env) (op : Op) : Decidable (Unended table stage env op) := by
  unfold Unended
  induction op using Op.casesOn with
  | sign op => induction op using SignOp.casesOn <;> infer_instance
  | chain op => induction op using ChainOp.casesOn <;> infer_instance
  | _ => infer_instance

/-- Besides, no call is cut off between failing a request that exists and refunding it. -/
def Consistent (system : SignSystem) : Event Env Call → Prop
  | .cut index => ∀ thread ∈ system.calls index, ∀ row ∈ (stage thread.history).owes,
      system.world.signRequests.get row.id = none
  | .step index env => ∀ pair ∈ acting system (.step index env),
      Unended system.world.signRequests (stage pair.1.history) env pair.2
  | .start _ => True

instance (system : SignSystem) (event : Event Env Call) : Decidable (Consistent system event) := by
  unfold Consistent
  induction event using Event.casesOn <;> infer_instance

/-! ### The link between rows, ledger and calls -/

/-- Some call that was not cut off owes the refund of this request. -/
def Owed (calls : Nat → Option SignThread) (id : Uuid) : Prop :=
  Machine.Someone calls (fun thread => thread.cut = false ∧ ∃ row, stage thread.history = .owing row ∧ row.id = id)

structure Agrees (world : World) (calls : Nat → Option SignThread) : Prop where
  signed : ∀ {id row}, world.signRequests.get id = some row → row.signatureHex ≠ none → row.status = .completed
  refunded : ∀ {refund row}, refund ∈ world.ledger.charges → refund.opType = "sign" → refund.kind = .refund →
    world.signRequests.get refund.opId = some row → row.status = .failed
  owed : ∀ {index thread owner row}, calls index = some thread → stage thread.history = .owing owner →
    thread.cut = false → world.signRequests.get owner.id = some row → row.status = .failed ∧ row.network = owner.network
  failed : ∀ {id row}, world.signRequests.get id = some row → row.status = .failed →
    Refunded world.ledger row.network id ∨ Owed calls id

/-- Only the calls change, and nobody starts or stops owing a refund for a row that exists. -/
theorem Agrees.recalls {world : World} {calls : Nat → Option SignThread} (agrees : Agrees world calls) (index : Nat)
    (replaced : SignThread)
    (owes : ∀ owner, replaced.cut = false → stage replaced.history = .owing owner →
      ∃ thread, calls index = some thread ∧ thread.cut = false ∧ stage thread.history = .owing owner)
    (still : ∀ {row current thread}, world.signRequests.get row.id = some current → calls index = some thread →
      thread.cut = false → stage thread.history = .owing row →
      replaced.cut = false ∧ stage replaced.history = .owing row) :
    Agrees world (Function.update calls index (some replaced)) where
  signed := agrees.signed
  refunded := agrees.refunded
  owed := by
    intro other thread owner row found owing alive there
    rcases Machine.calls_update found with ⟨rfl, rfl⟩ | ⟨_, found⟩
    · obtain ⟨before, was, living, owed⟩ := owes owner alive owing
      exact agrees.owed was owed living there
    · exact agrees.owed found owing alive there
  failed := by
    intro id row found failed
    rcases agrees.failed found failed with refunded | owed
    · exact .inl refunded
    · refine .inr (owed.update ?_)
      rintro thread there ⟨alive, owner, owing, rfl⟩
      obtain ⟨living, owes⟩ := still found there alive owing
      exact ⟨living, owner, owes, rfl⟩

section Step

variable {config : Config} {system : SignSystem} {index : Nat} {env : Env} {thread : SignThread} {op : Op}
  {answer : Res op} {rest : Prog Reply} {world : World}

/-- What has failed stays failed, and only failing makes a row fail. -/
theorem failed_of_change {old row : SignRequest} {statement : SignOp} {table : SignTable} {stage : Stage}
    (change : SignChange env statement old row) (before : table.get old.id = some old)
    (unended : Unended table stage env (.sign statement)) : old.status = .failed → row.status = .failed := by
  intro failed
  cases change with
  | presign _ presignId => exact failed
  | session _ session => exact failed
  | failed _ code message => rfl
  | queued _ signature session => exact absurd failed (unended old before).2
  | submitted _ digest => exact absurd failed (unended old before).2
  | completed _ signature => exact absurd failed (unended old before)

/-- A row under an identifier that is refunded or owed was there before, and failed stays failed. -/
theorem still_failed (executed : exec op env system.world = some (answer, world))
    (unended : Unended system.world.signRequests (stage thread.history) env op) {id : Uuid} {row : SignRequest}
    (found : world.signRequests.get id = some row) (kept : ∀ new, op = .sign (.insert new) → new.id ≠ id)
    (failed : ∀ old, system.world.signRequests.get id = some old → old.status = .failed) :
    row.status = .failed ∧ ∃ old, system.world.signRequests.get id = some old ∧ row.network = old.network := by
  rcases row_of_exec executed found with before | ⟨new, same, own, _⟩ | ⟨old, statement, rfl, before, change⟩
  · exact ⟨failed row before, row, before, rfl⟩
  · exact absurd own.symm (kept new same)
  · have there : system.world.signRequests.get old.id = some old := (Table.key_of_get before).symm ▸ before
    exact ⟨failed_of_change change there unended (failed old before), old, before, change.kept.2.2.1⟩

theorem Agrees.act (agrees : Agrees system.world system.calls) (books : Books config system.world system.calls)
    (act : (machine config).Act (contract config) system index env thread op answer rest world)
    (unended : Unended system.world.signRequests (stage thread.history) env op) :
    Agrees world (Function.update system.calls index (some (thread.resume ⟨op, answer⟩ rest))) where
  signed := by
    intro id row found signature
    have executed : exec op env system.world = some (answer, world) := act.executed
    rcases row_of_exec executed found with before | ⟨new, _, _, rfl, _⟩ | ⟨old, statement, rfl, before, change⟩
    · exact agrees.signed before signature
    · exact absurd rfl signature
    · have there : system.world.signRequests.get old.id = some old := (Table.key_of_get before).symm ▸ before
      have completed : old.signatureHex ≠ none → old.status = .completed := agrees.signed before
      cases change with
      | presign _ presignId => exact completed signature
      | session _ session => exact completed signature
      | completed _ signature => rfl
      | queued _ text session => exact absurd (completed signature) (unended old there).1
      | submitted _ digest => exact absurd (completed signature) (unended old there).1
      | failed _ code message => exact absurd (completed signature) (unended old there)
  refunded := by
    intro refund row member sign refunds found
    have executed : exec op env system.world = some (answer, world) := act.executed
    have allowed : Allowed config thread.tag (stage thread.history) op := act.before
    rcases charge_of_exec executed member with old | ⟨args, _, rfl⟩ | ⟨args, rfl, rfl⟩
    · refine (still_failed executed unended found ?_ (fun _ before => agrees.refunded old sign refunds before)).1
      rintro new rfl
      obtain ⟨args, dw, id, _, at_, rfl⟩ := allowed.of_insert
      exact fun same => (books.billed act.found at_).2 refund old sign refunds same.symm
    · cases refunds
    · obtain ⟨owner, reason, at_, rfl⟩ := allowed.of_refund
      rw [(exec_refund executed).2.2.1] at found
      exact (agrees.owed act.found at_ act.alive found).1
  owed := by
    intro other rival owner row found owing alive there
    have executed : exec op env system.world = some (answer, world) := act.executed
    have allowed : Allowed config thread.tag (stage thread.history) op := act.before
    rcases Machine.calls_update found with ⟨rfl, rfl⟩ | ⟨apart, found⟩
    · have moved : Moved config thread.tag (stage thread.history) op answer (.owing owner) := owing ▸ allowed.moved answer
      rcases moved.owing with ⟨before, rfl⟩ | ⟨_, rfl⟩ | ⟨id, code, message, same⟩
      · cases executed
        exact agrees.owed act.found before act.alive there
      · cases executed
        change (system.world.signRequests.delete owner.id).get owner.id = some row at there
        rw [Table.get_delete, if_pos rfl] at there
        cases there
      · cases same
        obtain ⟨rfl, failed, stored, _⟩ := failed_row executed
        rw [stored] at there
        cases there
        exact ⟨failed, rfl⟩
    · obtain ⟨_, _, free⟩ := books.paid found (by rw [owing]; rfl)
      obtain ⟨failed, old, before, network⟩ := still_failed executed unended there (by
        rintro new rfl
        obtain ⟨args, dw, id, _, at_, rfl⟩ := allowed.of_insert
        exact fun same => free act.found (by rw [at_, ← same]; rfl))
        (fun _ before => (agrees.owed found owing alive before).1)
      exact ⟨failed, network.trans (agrees.owed found owing alive before).2⟩
  failed := by
    intro id row found failed
    have executed : exec op env system.world = some (answer, world) := act.executed
    have allowed : Allowed config thread.tag (stage thread.history) op := act.before
    have prior : ∀ old, system.world.signRequests.get id = some old → old.status = .failed →
        Refunded world.ledger old.network id ∨
          Owed (Function.update system.calls index (some (thread.resume ⟨op, answer⟩ rest))) id := by
      intro old before failed
      rcases agrees.failed before failed with refunded | owed
      · exact .inl (refunded.mono (exec_charges_mono executed))
      by_cases mine : ∃ owner, stage thread.history = .owing owner ∧ owner.id = id
      · obtain ⟨owner, owing, rfl⟩ := mine
        have network := (agrees.owed act.found owing act.alive before).2
        rcases (owing ▸ allowed : Allowed config thread.tag (.owing owner) op).of_owing with rfl | ⟨refund, rfl⟩
        · exact .inr (owed.update (fun _ _ _ => ⟨act.alive, owner, owing, rfl⟩))
        · rw [network]
          exact .inl (books.refunded act owing)
      · refine .inr (owed.update (fun other there owes => ?_))
        rw [act.found] at there
        cases there
        exact absurd owes.2 mine
    rcases row_of_exec executed found with before | ⟨new, rfl, _, rfl, _⟩ | ⟨old, statement, rfl, before, change⟩
    · exact prior row before failed
    · obtain ⟨args, dw, drawn, _, _, rfl⟩ := allowed.of_insert
      cases failed
    · have own := Table.key_of_get before
      cases change with
      | presign _ presignId => exact prior old before failed
      | session _ session => exact prior old before failed
      | queued _ signature session => cases failed
      | submitted _ digest => cases failed
      | completed _ signature => cases failed
      | failed _ code message =>
        -- The acting call has just failed the row, so it owes the refund now.
        subst own
        obtain rfl := (exec_setFailed executed).trans found
        exact .inr (.here index ⟨act.alive, _, rfl, rfl⟩)

end Step

theorem Agrees.jobs {world : World} {calls : Nat → Option SignThread} (jobs : List Job)
    (agrees : Agrees world calls) : Agrees { world with jobs := jobs } calls :=
  ⟨agrees.signed, agrees.refunded, agrees.owed, agrees.failed⟩

theorem Agrees.move {config : Config} {system : SignSystem} {event : Event Env Call} {world : World}
    {calls : Nat → Option SignThread} (agrees : Agrees system.world system.calls)
    (books : Books config system.world system.calls) (consistent : Consistent system event)
    (move : (machine config).Move (contract config) system event world calls) : Agrees world calls := by
  cases move with
  | start tag opened free entered path =>
    rw [close_jobs, enter_jobs entered]
    refine Agrees.jobs _ (Agrees.jobs _ (agrees.recalls _ _ ?_ ?_))
    · intro owner _ owing
      cases owing
    · intro row current thread _ found
      rw [free] at found
      cases found
  | step index env thread op answer rest opened act =>
    rw [close_jobs]
    exact (agrees.act books act (consistent _ (acting_of_act act))).jobs _
  | cut index thread found running =>
    change Agrees (leave thread.tag none system.world) _
    rw [leave_jobs]
    refine Agrees.jobs _ (agrees.recalls _ _ ?_ ?_)
    · intro owner alive
      cases alive
    · intro row current acting there same _ owing
      rw [found] at same
      cases same
      have absent := consistent thread found row (by rw [owing]; rfl)
      rw [there] at absent
      cases absent

theorem agrees_of_run {config : Config} {initial system : SignSystem} (start : Initial initial)
    (run : (machine config).Run Consistent initial system) : Agrees system.world system.calls := by
  have kept : Machine.Kept (contract config) initial := kept_of_reaches start.threads .refl
  have agrees : Agrees initial.world initial.calls := by
    refine ⟨?_, ?_, ?_, ?_⟩
    · intro id row found
      rw [start.request] at found
      cases found
    · intro refund row member sign
      exact absurd sign (start.charges refund member)
    · intro index thread owner row found
      rw [start.calls] at found
      cases found
    · intro id row found
      rw [start.request] at found
      cases found
  exact (run.tracked (honours config) Agrees kept agrees
    (fun reached agrees consistent move => agrees.move (books_of_reaches start reached) consistent move)).2

/-! ### The statement -/

/-- What the ledger has for a row, read off the books. -/
theorem Books.charge_credits {config : Config} {world : World} {calls : Nat → Option SignThread}
    (books : Books config world calls) {row : SignRequest} (member : row ∈ world.signRequests.rows) :
    world.ledger.creditsOf (signKey row.network row.id) .charge = [-(config.signPriceMicro : Int)] := by
  obtain ⟨_, _, charge, there, op, kind⟩ := books.rows (Table.get_of_mem member)
  have amount := (books.amounts charge there (congrArg OpKey.opType op)).2
  have single := MpcKit.Billing.creditsOf_of_mem books.keys there
  rw [op, kind, amount, kind] at single
  exact single

theorem Books.refund_credits {config : Config} {world : World} {calls : Nat → Option SignThread}
    (books : Books config world calls) {network : String} {id : Uuid} (refunded : Refunded world.ledger network id) :
    world.ledger.creditsOf (signKey network id) .refund = [(config.signPriceMicro : Int)] := by
  obtain ⟨refund, there, op, kind⟩ := refunded
  have amount := (books.amounts refund there (congrArg OpKey.opType op)).2
  have single := MpcKit.Billing.creditsOf_of_mem books.keys there
  rw [op, kind, amount, kind] at single
  exact single

theorem credits_of_not_refunded {ledger : Ledger} {network : String} {id : Uuid} (absent : ¬Refunded ledger network id) :
    ledger.creditsOf (signKey network id) .refund = [] := by
  apply MpcKit.Billing.creditsOf_eq_nil
  apply Ledger.findCharge_eq_none
  intro refund member same
  simp only [BillingCharge.key, Prod.mk.injEq] at same
  exact absent ⟨refund, member, same⟩

/-- In every run that neither reopens a failed request nor fails a completed one, outcome and
ledger agree in every state, and no refunded request goes to the chain. -/
theorem outcome_ledger_agree (config : Config) {initial system : SignSystem} (start : Initial initial)
    (run : (machine config).Run Consistent initial system) :
    Agreement system ∧ ∀ event, Consistent system event → Withheld system event := by
  have agrees := agrees_of_run start run
  have books := books_of_reaches start run.reaches
  have kept := kept_of_reaches start.threads run.reaches
  have status : ∀ {row : SignRequest}, system.world.signRequests.get row.id = some row →
      Refunded system.world.ledger row.network row.id → row.status = .failed := by
    rintro row found ⟨refund, there, op, kind⟩
    have own : refund.opId = row.id := congrArg OpKey.opId op
    exact agrees.refunded there (congrArg OpKey.opType op) kind (own ▸ found)
  refine ⟨⟨?_, ?_, ?_⟩, ?_⟩
  · intro row member refunded
    have failed := status (Table.get_of_mem member) refunded
    constructor
    · rw [failed]
      decide
    · by_contra signature
      rw [agrees.signed (Table.get_of_mem member) signature] at failed
      cases failed
  · intro row member failed idle
    refine ⟨config.signPriceMicro, books.charge_credits member, ?_⟩
    rcases agrees.failed (Table.get_of_mem member) failed with refunded | ⟨index, thread, found, alive, owner, owing, own⟩
    · exact books.refund_credits refunded
    · have running := running_of_owing kept books found alive owing
      exact absurd ⟨thread, List.mem_of_getElem? found, running, owner, owing, own⟩ idle
  · intro row member completed
    refine ⟨config.signPriceMicro, books.charge_credits member, credits_of_not_refunded ?_⟩
    intro refunded
    rw [status (Table.get_of_mem member) refunded] at completed
    cases completed
  · intro event consistent
    cases event with
    | start tag => trivial
    | cut index => trivial
    | step index env =>
      rintro thread tx row presign acts holding landed ⟨refund, there, op, kind⟩
      obtain ⟨current, found, open_⟩ := consistent _ acts landed row (by rw [holding]; rfl)
      have own : refund.opId = row.id := congrArg OpKey.opId op
      exact open_ (agrees.refunded there (congrArg OpKey.opType op) kind (own ▸ found))

/-! ### A request that is refunded and signed -/

/-- The sweep reads the request as stuck and takes it for expired after its job has read it; the
job still goes to the chain and stores the signature. -/
def refundedEvents : List (Event Env Call) :=
  .start (samplePrepare "first" [7]) :: steps 0 13 calm ++
  .start (.sweepStuckPrepared 300) :: steps 1 2 later ++
  .start (sampleSubmit 10) :: steps 2 3 later ++
  .start (.process 10 0) :: steps 3 5 later ++ steps 1 4 later ++ steps 3 8 later

theorem refunded_signed : ∃ system, (machine sampleConfig).Reaches sampleStart system ∧ ¬Agreement system := by
  obtain ⟨system, reached, row, member, ⟨refund, there, network, kind⟩, completed⟩ :
      ∃ system, (machine sampleConfig).Reaches sampleStart system ∧
        ∃ row ∈ system.world.signRequests.rows, (∃ refund ∈ system.world.ledger.charges,
          refund.op = signKey row.network row.id ∧ refund.kind = .refund) ∧ row.status = .completed :=
    Machine.exists_reaches refundedEvents (by decide +kernel)
  exact ⟨system, reached, fun agreement =>
    (agreement.refunded row member ⟨refund, there, network, kind⟩).1 completed⟩

/-- A request that is prepared and never submitted, and expires. -/
def expiredEvents : List (Event Env Call) :=
  .start (samplePrepare "first" [7]) :: steps 0 13 calm ++
  .start (.sweepStuckPrepared 300) :: steps 1 6 later

theorem outcome_ledger_agree_sample : ∃ system, (machine sampleConfig).Run Consistent sampleStart system ∧
    (∃ row ∈ system.world.signRequests.rows, row.status = .failed) ∧ Agreement system := by
  obtain ⟨system, run, failed⟩ : ∃ system, (machine sampleConfig).Run Consistent sampleStart system ∧
      ∃ row ∈ system.world.signRequests.rows, row.status = .failed :=
    Machine.exists_run expiredEvents (by decide +kernel)
  exact ⟨system, run, failed, (outcome_ledger_agree sampleConfig sampleStart_initial run).1⟩

end MpcKit.Sign
