import MpcKit.Sign.Caps
import MpcKit.Sign.Books

/-! No charge is left behind. Until a request has ended, somebody is still going to settle it: the
call that has paid for it, a sweep, a delivery of its job, or the run that follows it on the chain.
Nothing in the code picks a request up again once the last of these has stopped. -/

namespace MpcKit.Sign
open MpcKit.Backend MpcKit.Async
open MpcKit.Billing (Ledger OpKey BillingCharge RefundArgs)

/-! ### Settled states -/

/-- Upkeep of the presign pool, which never touches a sign request. -/
def Call.Pool : Call → Prop
  | .sweepExpired _ => True
  | .promotePending => True
  | .discover _ _ => True
  | .refill _ => True
  | _ => False

/-- Nothing that signs is running, no job will be delivered again, and no sweep finds anything,
whatever the time. -/
structure Settled (system : SignSystem) : Prop where
  calls : ∀ thread ∈ system.threads, thread.Running → thread.tag.Pool
  jobs : ∀ job ∈ system.world.jobs, ¬job.Deliverable
  stuck : ∀ cutoff, ∀ row ∈ system.world.signRequests.rows, ¬row.Stuck cutoff
  expired : ∀ cutoff, ∀ presign ∈ system.world.presigns.rows,
    ¬presign.Expired .allocated cutoff ∧ ¬presign.Expired .consumedPending cutoff

/-- Every charge for signing was refunded or belongs to a completed request. -/
def NoOrphan (world : World) : Prop :=
  ∀ charge ∈ world.ledger.charges, charge.opType = "sign" → charge.kind = .charge →
    ¬Refunded world.ledger charge.network charge.opId →
    ∃ row ∈ world.signRequests.rows, row.id = charge.opId ∧ row.status = .completed

/-! ### Who settles a request -/

def Call.request : Call → Option Uuid
  | .process id _ => some id
  | _ => none

def Call.job : Call → Option Nat
  | .process _ job => some job
  | _ => none

theorem Call.of_request {call : Call} {id : Uuid} (own : call.request = some id) : ∃ job, call = .process id job := by
  cases call with
  | process request job =>
    cases own
    exact ⟨job, rfl⟩
  | _ => cases own

theorem Call.of_job {call : Call} {job : Nat} (own : call.job = some job) : ∃ id, call = .process id job := by
  cases call with
  | process request other =>
    cases own
    exact ⟨request, rfl⟩
  | _ => cases own

/-- A worker that has not decided its request yet. -/
def Stage.busy : Stage → Bool
  | .idle => true
  | .working _ _ => true
  | .holding _ _ => true
  | .landing _ _ => true
  | _ => false

/-- A worker that has decided and goes on to acknowledge its job. -/
def Stage.settled : Stage → Bool
  | .owing _ => true
  | .finished => true
  | _ => false

/-- The request a worker follows on the chain. -/
def Stage.follows : Stage → Option Uuid
  | .working row .submitted => some row.id
  | _ => none

def Acknowledging (job : Nat) (thread : SignThread) : Prop :=
  thread.Running ∧ thread.tag.job = some job ∧ (stage thread.history).settled = true

instance (job : Nat) : DecidablePred (Acknowledging job) := fun thread =>
  inferInstanceAs (Decidable (thread.Running ∧ thread.tag.job = some job ∧ (stage thread.history).settled = true))

/-- A job of the request will be delivered again, and no run of it is about to acknowledge it. -/
def Retries (jobs : List Job) (calls : Nat → Option SignThread) (id : Uuid) : Prop :=
  ∃ pair ∈ jobs.zipIdx, pair.1.signRequestId = id ∧ pair.1.Deliverable ∧
    ¬Machine.Someone calls (Acknowledging pair.2)

instance (jobs : List Job) (system : SignSystem) (id : Uuid) : Decidable (Retries jobs system.calls id) :=
  inferInstanceAs (Decidable (∃ pair ∈ jobs.zipIdx, pair.1.signRequestId = id ∧ pair.1.Deliverable ∧
    ¬Machine.Someone system.calls (Acknowledging pair.2)))

/-- A worker's run on the request that has not decided it. -/
def Works (id : Uuid) (thread : SignThread) : Prop :=
  thread.Running ∧ thread.tag.request = some id ∧ (stage thread.history).busy = true

def Enqueues (id : Uuid) (thread : SignThread) : Prop := thread.Running ∧ stage thread.history = .marked id

def Follows (id : Uuid) (thread : SignThread) : Prop :=
  thread.Running ∧ (stage thread.history).follows = some id

def Owes (id : Uuid) (thread : SignThread) : Prop :=
  thread.Running ∧ ∃ row, stage thread.history = .owing row ∧ row.id = id

def Pays (id : Uuid) (thread : SignThread) : Prop := thread.Running ∧ ∃ dw, stage thread.history = .charged dw id

/-- Who sees to a request that was charged for, by the status of its row. -/
def Tended (jobs : List Job) (calls : Nat → Option SignThread) (id : Uuid) : Option SignStatus → Prop
  | none => Machine.Someone calls (Pays id) ∨ Machine.Someone calls (Owes id)
  | some .prepared => True
  | some .queued => Retries jobs calls id ∨ Machine.Someone calls (Works id) ∨ Machine.Someone calls (Enqueues id)
  | some .submitted => Machine.Someone calls (Follows id)
  | some .completed => True
  | some .failed => Machine.Someone calls (Owes id)

/-! ### When a call may stop -/

/-- If the request is queued, a job of it is still to come. -/
def Attended (system : SignSystem) (id : Uuid) : Prop :=
  ∀ row ∈ system.world.signRequests.get id, row.status = .queued → Retries system.world.jobs system.calls id

instance (system : SignSystem) (id : Uuid) : Decidable (Attended system id) :=
  inferInstanceAs (Decidable (∀ row ∈ system.world.signRequests.get id, row.status = .queued →
    Retries system.world.jobs system.calls id))

/-- A worker that stops before it has decided leaves the request to another delivery, which
only looks at queued requests. -/
def Relieved (system : SignSystem) (thread : SignThread) : Prop :=
  (∀ id ∈ thread.tag.request, (stage thread.history).busy = true → Attended system id) ∧
    ∀ id ∈ (stage thread.history).follows, ∀ row ∈ system.world.signRequests.get id, row.status ≠ .submitted

instance (system : SignSystem) (thread : SignThread) : Decidable (Relieved system thread) :=
  inferInstanceAs (Decidable ((∀ id ∈ thread.tag.request, (stage thread.history).busy = true → Attended system id) ∧
    ∀ id ∈ (stage thread.history).follows, ∀ row ∈ system.world.signRequests.get id, row.status ≠ .submitted))

/-- Where any call may be cut off: not between the charge and the row, not before a refund that
is due, and not between the row's status and the job. -/
def Leaves (system : SignSystem) : Stage → Prop
  | .charged _ _ => False
  | .owing row => Refunded system.world.ledger row.network row.id ∨
      ∃ current ∈ system.world.signRequests.get row.id, current.status ≠ .failed
  | .marked id => Attended system id
  | _ => True

instance (system : SignSystem) (stage : Stage) : Decidable (Leaves system stage) := by
  unfold Leaves
  induction stage using Stage.casesOn <;> infer_instance

/-- The step makes its call throw. -/
def throws (system : SignSystem) : Event Env Call → Bool
  | .step index env => match system.calls index with
      | some thread => match thread.program with
          | .await op next => match exec op env system.world with
              | some (answer, _) => match next answer with
                  | .raise _ => true
                  | _ => false
              | none => false
          | _ => false
      | none => false
  | _ => false

/-- The row of a charge goes in, and the job of a queued request is enqueued. -/
def Goes (system : SignSystem) (env : Env) : Op → Prop
  | .sign (.insert new) => ∀ row ∈ system.world.signRequests.rows,
      ¬row.HasKey new.userId new.network new.idempotencyKey
  | .queue (.signProcess id) => env.rpc.isOk = true ∨ Attended system id
  | _ => True

instance (system : SignSystem) (env : Env) (op : Op) : Decidable (Goes system env op) := by
  unfold Goes
  induction op using Op.casesOn with
  | sign op => induction op using SignOp.casesOn <;> infer_instance
  | queue op => induction op using QueueOp.casesOn <;> infer_instance
  | _ => infer_instance

/-- No call stops where only it would have settled its request. -/
def Accounted (system : SignSystem) : Event Env Call → Prop
  | .start _ => True
  | .step index env => (∀ op ∈ system.performs (.step index env : Event Env Call), Goes system env op) ∧
      (throws system (.step index env) = true → ∀ thread ∈ system.calls index, Relieved system thread)
  | .cut index => ∀ thread ∈ system.calls index, Relieved system thread ∧ Leaves system (stage thread.history)

instance (system : SignSystem) (event : Event Env Call) : Decidable (Accounted system event) := by
  unfold Accounted
  induction event using Event.casesOn <;> infer_instance

/-! ### The runs of a worker -/

/-- Where a worker's run on a request can stand. -/
def Stage.Serves (id : Uuid) : Stage → Prop
  | .idle => True
  | .working row _ => row.id = id
  | .holding row _ => row.id = id
  | .landing row _ => row.id = id
  | .owing _ => True
  | .finished => True
  | _ => False

theorem Stage.Serves.busy_or_settled {id : Uuid} {stage : Stage} (serves : stage.Serves id) :
    stage.busy = true ∨ stage.settled = true := by
  cases stage <;> first | exact .inl rfl | exact .inr rfl | exact serves.elim

theorem Stage.not_settled_of_busy {stage : Stage} (busy : stage.busy = true) : stage.settled = false := by
  cases stage <;> first | rfl | cases busy

section Moved

variable {config : Config} {id : Uuid} {job : Nat} {before next : Stage} {op : Op} {answer : Res op}

theorem Moved.serves (moved : Moved config (.process id job) before op answer next) (known : Answers op answer)
    (serves : before.Serves id) : next.Serves id := by
  cases moved with
  | working _ _ row queued => exact known row rfl
  | unqueued => trivial
  | missing => trivial
  | holding => exact serves
  | unheld => exact serves
  | landing => exact serves
  | rejected => exact serves
  | consumed => exact serves
  | spent => exact serves
  | submitted => exact serves
  | completed => trivial
  | failed => trivial
  | unfailed => trivial
  | openAccount => trivial
  | refunded => trivial
  | quiet => exact serves

/-- A worker fails its own request. -/
theorem Allowed.fails_own {target : Uuid} {code message : String} (serves : before.Serves id)
    (allowed : Allowed config (.process id job) before (.sign (.setFailed target code message))) : target = id := by
  cases allowed with
  | fail => exact serves
  | failHeld => exact serves
  | quiet _ _ _ _ quiet => exact quiet.elim

theorem Allowed.fails_working {call : Call} {row : SignRequest} {status : SignStatus} {target : Uuid}
    {code message : String} (allowed : Allowed config call (.working row status) (.sign (.setFailed target code message))) :
    target = row.id := by
  cases allowed with
  | fail => rfl
  | expire _ _ between => rcases between with same | same <;> cases same
  | quiet _ _ _ _ quiet => exact quiet.elim

/-- The status after a write of it. -/
theorem exec_setCompleted {env : Env} {world after : World} {signature : String} {result : Unit} {row : SignRequest}
    (executed : exec (.sign (.setCompleted id signature)) env world = some (result, after))
    (found : after.signRequests.get id = some row) : row.status = .completed := by
  cases executed
  change (world.signRequests.modify id (SignRequest.toCompleted env.now signature)).get id = some row at found
  rw [Table.get_modify, if_pos rfl] at found
  obtain ⟨old, _, rfl⟩ := Option.map_eq_some_iff.mp found
  rfl

/-- A worker decides only what is not queued, or what it completes or fails itself. -/
theorem Moved.busy {env : Env} {world after : World} {row : SignRequest}
    (moved : Moved config (.process id job) before op answer next)
    (executed : exec op env world = some (answer, after)) (serves : before.Serves id) (busy : before.busy = true)
    (found : after.signRequests.get id = some row) (queued : row.status = .queued) : next.busy = true := by
  cases moved with
  | working => rfl
  | unqueued _ _ read unqueued =>
    obtain ⟨there, rfl⟩ := exec_select executed
    rw [there] at found
    cases found
    exact absurd queued unqueued
  | missing =>
    obtain ⟨there, rfl⟩ := exec_select executed
    rw [there] at found
    cases found
  | holding => rfl
  | unheld => rfl
  | landing => rfl
  | rejected => rfl
  | consumed => rfl
  | spent => rfl
  | submitted => rfl
  | completed _ _ own signature =>
    obtain rfl : own.id = id := serves
    rw [exec_setCompleted executed found] at queued
    cases queued
  | failed _ _ target code message failed fails =>
    obtain rfl := fails.fails_own serves
    obtain ⟨_, status, there, _⟩ := failed_row executed
    rw [there] at found
    cases found
    rw [status] at queued
    cases queued
  | unfailed _ _ target code message fails =>
    obtain rfl := fails.fails_own serves
    rw [← exec_setFailed executed] at found
    cases found
  | openAccount => cases busy
  | refunded => cases busy
  | quiet => exact busy

/-- A worker stops following a submitted request only when it completes or fails it. -/
theorem Moved.follows {call : Call} {env : Env} {world after : World} {row : SignRequest}
    (moved : Moved config call before op answer next) (executed : exec op env world = some (answer, after))
    (follows : before.follows = some id) (found : after.signRequests.get id = some row)
    (submitted : row.status = .submitted) : next = before := by
  unfold Stage.follows at follows
  split at follows
  next own =>
    cases follows
    cases moved with
    | completed =>
      rw [exec_setCompleted executed found] at submitted
      cases submitted
    | failed _ _ target code message failed fails =>
      obtain rfl := fails.fails_working
      obtain ⟨_, status, there, _⟩ := failed_row executed
      rw [found] at there
      cases there
      rw [status] at submitted
      cases submitted
    | unfailed _ _ target code message fails =>
      obtain rfl := fails.fails_working
      have gone := exec_setFailed executed
      rw [found] at gone
      cases gone
    | quiet => rfl
  · cases follows

/-- Upkeep of the pool stands still. -/
theorem Moved.pool {call : Call} (pool : call.Pool) (moved : Moved config call before op answer next)
    (idle : before = .idle) : next = .idle := by
  subst idle
  cases moved with
  | failed _ _ target code message failed fails =>
    cases fails with
    | expire => exact pool.elim
    | quiet _ _ _ _ quiet => exact quiet.elim
  | unfailed _ _ target code message fails =>
    cases fails with
    | expire => exact pool.elim
    | quiet _ _ _ _ quiet => exact quiet.elim
  | quiet => rfl
  | _ => exact pool.elim

end Moved

/-! ### The link between charges, rows, jobs and calls -/

structure Covered (world : World) (calls : Nat → Option SignThread) : Prop where
  charges : ∀ charge ∈ world.ledger.charges, charge.opType = "sign" → charge.kind = .charge →
    Refunded world.ledger charge.network charge.opId ∨
      Tended world.jobs calls charge.opId ((world.signRequests.get charge.opId).map SignRequest.status)
  jobs : ∀ {index thread id job}, calls index = some thread → thread.tag = .process id job →
    ∃ entry, world.jobs[job]? = some entry ∧ entry.signRequestId = id
  runs : ∀ {index thread id job}, calls index = some thread → thread.tag = .process id job →
    (stage thread.history).Serves id
  pool : ∀ {index thread}, calls index = some thread → thread.tag.Pool → stage thread.history = .idle

section Step

variable {config : Config} {system : SignSystem} {index : Nat} {env : Env} {thread : SignThread} {op : Op}
  {answer : Res op} {rest : Prog Reply} {world : World}

theorem running_or_ended (act : (machine config).Act (contract config) system index env thread op answer rest world) :
    (thread.resume ⟨op, answer⟩ rest).Running ∨ ∃ result, rest.outcome = some result ∧
      Ended config ((stage thread.history).next op answer) thread.tag result := by
  have path := act.path
  cases rest with
  | await op next => exact .inl ⟨act.alive, rfl⟩
  | ret value => exact .inr ⟨.ok value, rfl, path⟩
  | raise error => exact .inr ⟨.error error, rfl, path⟩

theorem running_of_not_rests (act : (machine config).Act (contract config) system index env thread op answer rest world)
    (restless : ¬((stage thread.history).next op answer).Rests config) :
    (thread.resume ⟨op, answer⟩ rest).Running := by
  rcases running_or_ended act with running | ⟨result, _, ended⟩
  · exact running
  · exact absurd ended.rests restless

/-- A refund is only due where the price is not zero. -/
theorem running_of_owes (books : Books config system.world system.calls)
    (act : (machine config).Act (contract config) system index env thread op answer rest world) {row : SignRequest}
    (owing : (stage thread.history).next op answer = .owing row) : (thread.resume ⟨op, answer⟩ rest).Running := by
  apply running_of_not_rests act
  rw [owing]
  obtain ⟨_, ⟨positive, _⟩, _⟩ := (books.act act).paid (Function.update_self _ _ _)
    (show (stage (thread.resume ⟨op, answer⟩ rest).history).paid = some row from by
      change ((stage thread.history).next op answer).paid = some row
      rw [owing]
      rfl)
  exact Nat.ne_of_gt positive

theorem throws_of_act {error : Thrown}
    (act : (machine config).Act (contract config) system index env thread op answer (.raise error) world) :
    throws system (.step index env) = true := by
  obtain ⟨next, awaits, raised⟩ := act.awaits
  have executed : exec op env system.world = some (answer, world) := act.executed
  simp [throws, act.found, awaits, executed, raised]

theorem running_of_act (act : (machine config).Act (contract config) system index env thread op answer rest world) :
    thread.Running := by
  obtain ⟨next, awaits, _⟩ := act.awaits
  exact ⟨act.alive, by rw [awaits]; rfl⟩

/-- The worker on a queued request has not decided it after the step either. -/
theorem busy_act (covered : Covered system.world system.calls)
    (act : (machine config).Act (contract config) system index env thread op answer rest world) {id : Uuid}
    {row : SignRequest} (found : world.signRequests.get id = some row) (queued : row.status = .queued)
    (own : thread.tag.request = some id) (busy : (stage thread.history).busy = true) :
    ((stage thread.history).next op answer).busy = true := by
  obtain ⟨job, tag⟩ := Call.of_request own
  have moved := (act.before : Allowed config thread.tag (stage thread.history) op).moved answer
  rw [tag] at moved
  exact moved.busy act.executed (covered.runs act.found tag) busy found queued

/-- A delivery that is to come is still to come while the request is queued. -/
theorem retries_act (covered : Covered system.world system.calls)
    (act : (machine config).Act (contract config) system index env thread op answer rest world) {id : Uuid}
    {row : SignRequest} (found : world.signRequests.get id = some row) (queued : row.status = .queued)
    (retries : Retries system.world.jobs system.calls id) :
    Retries ((machine config).close index thread.tag rest world).jobs
      (Function.update system.calls index (some (thread.resume ⟨op, answer⟩ rest))) id := by
  obtain ⟨⟨entry, job⟩, member, own, deliverable, nobody⟩ := retries
  have there : system.world.jobs[job]? = some entry := List.mem_zipIdx_iff_getElem?.mp member
  -- The acting call may be a run of this very job; then it has not decided the request.
  have busy : thread.tag.job = some job → ((stage thread.history).next op answer).busy = true := by
    intro mine
    obtain ⟨request, tag⟩ := Call.of_job mine
    obtain ⟨same, here, asked⟩ := covered.jobs act.found tag
    rw [there] at here
    cases here
    rcases (covered.runs act.found tag).busy_or_settled with busy | settled
    · refine busy_act covered act found queued ?_ busy
      rw [tag, ← own, asked]
      rfl
    · exact absurd ⟨index, thread, act.found, running_of_act act, mine, settled⟩ nobody
  have kept : world.jobs[job]? = some entry := exec_job act.executed there
  refine ⟨(entry, job), List.mem_zipIdx_iff_getElem?.mpr (close_job kept ?_), own, deliverable, ?_⟩
  · rintro request value mine rfl
    have ended : Ended config ((stage thread.history).next op answer) thread.tag (.ok value) := act.path
    rw [mine] at ended
    have finished : (stage thread.history).next op answer = .finished := ended
    have still := busy (by rw [mine]; rfl)
    rw [finished] at still
    cases still
  · apply Machine.not_someone_update nobody
    rintro ⟨_, mine, settled⟩
    exact absurd settled (by simp [Stage.not_settled_of_busy (busy mine), Thread.resume, stage])

/-- The job a submit enqueues is to come: nobody has run it. -/
theorem retries_new (covered : Covered system.world system.calls)
    (act : (machine config).Act (contract config) system index env thread op answer rest world) {id : Uuid}
    (enqueued : world.jobs = system.world.jobs ++ [⟨id, 0, false⟩]) :
    Retries ((machine config).close index thread.tag rest world).jobs
      (Function.update system.calls index (some (thread.resume ⟨op, answer⟩ rest))) id := by
  have new : world.jobs[system.world.jobs.length]? = some ⟨id, 0, false⟩ := by
    rw [enqueued, List.getElem?_concat_length]
  have unknown : ∀ {other rival request}, system.calls other = some rival →
      rival.tag ≠ .process request system.world.jobs.length := by
    intro other rival request there tag
    obtain ⟨entry, found, _⟩ := covered.jobs there tag
    exact absurd (List.getElem?_eq_some_iff.mp found).1 (Nat.lt_irrefl _)
  refine ⟨(_, system.world.jobs.length), List.mem_zipIdx_iff_getElem?.mpr (close_job new ?_), rfl, ⟨rfl, Nat.zero_lt_succ 5⟩, ?_⟩
  · intro request value mine
    exact absurd mine (unknown act.found)
  · rintro ⟨other, rival, there, _, mine, _⟩
    obtain ⟨request, tag⟩ := Call.of_job mine
    rcases Machine.calls_update there with ⟨rfl, rfl⟩ | ⟨_, there⟩
    · exact unknown act.found tag
    · exact unknown there tag

theorem queued_act (covered : Covered system.world system.calls) (accounted : Accounted system (.step index env))
    (act : (machine config).Act (contract config) system index env thread op answer rest world) {id : Uuid}
    {old row : SignRequest} (before : system.world.signRequests.get id = some old) (was : old.status = .queued)
    (found : world.signRequests.get id = some row) (queued : row.status = .queued)
    (tended : Tended system.world.jobs system.calls id (some .queued)) :
    Tended ((machine config).close index thread.tag rest world).jobs
      (Function.update system.calls index (some (thread.resume ⟨op, answer⟩ rest))) id (some .queued) := by
  have retried : Attended system id → Retries ((machine config).close index thread.tag rest world).jobs
      (Function.update system.calls index (some (thread.resume ⟨op, answer⟩ rest))) id :=
    fun attended => retries_act covered act found queued (attended old before was)
  rcases tended with retries | works | enqueues
  · exact .inl (retries_act covered act found queued retries)
  · rcases works.split act.found (thread.resume ⟨op, answer⟩ rest) with ⟨_, own, busy⟩ | works
    · have still := busy_act covered act found queued own busy
      rcases running_or_ended act with running | ⟨result, stopped, ended⟩
      · exact .inr (.inl (.here index ⟨running, own, still⟩))
      · -- It stops without a decision, so it throws.
        obtain ⟨job, tag⟩ := Call.of_request own
        cases rest with
        | await op next => cases stopped
        | ret value =>
          cases stopped
          rw [tag] at ended
          rw [show (stage thread.history).next op answer = .finished from ended] at still
          cases still
        | raise error => exact .inl (retried ((accounted.2 (throws_of_act act) thread act.found).1 id own busy))
    · exact .inr (.inl works)
  · rcases enqueues.split act.found (thread.resume ⟨op, answer⟩ rest) with ⟨_, marked⟩ | enqueues
    · have allowed : Allowed config thread.tag (stage thread.history) op := act.before
      rw [marked] at allowed
      obtain rfl := allowed.of_marked
      left
      rcases accounted.1 _ act.performs with sent | attended
      · have executed : exec (.queue (.signProcess id)) env system.world = some (answer, world) := act.executed
        apply retries_new covered act
        cases rpc : env.rpc with
        | ok _ =>
          simp only [exec, QueueOp.exec, rpc, Option.some.injEq, Prod.mk.injEq] at executed
          rw [← executed.2]
        | error error =>
          rw [rpc] at sent
          cases sent
      · exact retried attended
    · exact .inr (.inr enqueues)

/-- A refund that is due is still due, or was just made. -/
theorem owes_act (books : Books config system.world system.calls)
    (act : (machine config).Act (contract config) system index env thread op answer rest world) {charge : BillingCharge}
    (member : charge ∈ system.world.ledger.charges) (sign : charge.opType = "sign")
    (owes : Machine.Someone system.calls (Owes charge.opId)) :
    Refunded world.ledger charge.network charge.opId ∨
      Machine.Someone (Function.update system.calls index (some (thread.resume ⟨op, answer⟩ rest))) (Owes charge.opId) := by
  rcases owes.split act.found (thread.resume ⟨op, answer⟩ rest) with ⟨_, row, owing, own⟩ | owes
  · have allowed : Allowed config thread.tag (stage thread.history) op := act.before
    rw [owing] at allowed
    rcases allowed.of_owing with rfl | ⟨refund, rfl⟩
    · exact .inr (.here index ⟨running_of_owes books act owing, row, owing, own⟩)
    · left
      obtain ⟨_, charged, _⟩ := books.paid act.found (by rw [owing]; rfl)
      rw [books.network member sign charged own.symm, ← own]
      exact books.refunded act owing
  · exact .inr owes

/-- A charge without a row is still in the hands of the call that made it. -/
theorem pays_act (books : Books config system.world system.calls) (accounted : Accounted system (.step index env))
    (act : (machine config).Act (contract config) system index env thread op answer rest world) {id : Uuid}
    (absent : world.signRequests.get id = none) (pays : Machine.Someone system.calls (Pays id)) :
    Machine.Someone (Function.update system.calls index (some (thread.resume ⟨op, answer⟩ rest))) (Pays id) := by
  rcases pays.split act.found (thread.resume ⟨op, answer⟩ rest) with ⟨_, dw, charged⟩ | pays
  · have allowed : Allowed config thread.tag (stage thread.history) op := act.before
    have executed : exec op env system.world = some (answer, world) := act.executed
    rcases (charged ▸ allowed : Allowed config thread.tag (.charged dw id) op).of_charged with quiet | ⟨new, rfl⟩
    · have still : (stage thread.history).next op answer = .charged dw id := by
        rw [charged]
        exact next_quiet quiet (show (Stage.charged dw id).Free from trivial) answer
      exact .here index ⟨running_of_not_rests act (by rw [still]; exact not_false), dw, still⟩
    · obtain ⟨args, wallet, drawn, _, at_, rfl⟩ := allowed.of_insert
      rw [charged] at at_
      cases at_
      have free := (books.drawn act.found (by rw [charged]; rfl)).2
      rcases exec_insert executed with ⟨_, _, _, ⟨other, there, taken⟩ | ⟨other, there⟩⟩ | ⟨_, _, table, done, rfl⟩
      · exact absurd taken (accounted.1 _ act.performs other there)
      · rw [show system.world.signRequests.get id = some other from there] at free
        cases free
      · have present : table.get id = some ((args.newRequest dw id).row env.now) := by
          rw [Table.get_insert done id]
          exact if_pos rfl
        rw [present] at absent
        cases absent
  · exact pays

/-- A request whose status the step leaves alone is still tended, or was just refunded. -/
theorem status_act (covered : Covered system.world system.calls) (books : Books config system.world system.calls)
    (accounted : Accounted system (.step index env))
    (act : (machine config).Act (contract config) system index env thread op answer rest world) {charge : BillingCharge}
    (member : charge ∈ system.world.ledger.charges) (sign : charge.opType = "sign") {old row : SignRequest}
    (before : system.world.signRequests.get charge.opId = some old)
    (found : world.signRequests.get charge.opId = some row) (same : row.status = old.status)
    (tended : Tended system.world.jobs system.calls charge.opId (some old.status)) :
    Refunded world.ledger charge.network charge.opId ∨
      Tended ((machine config).close index thread.tag rest world).jobs
        (Function.update system.calls index (some (thread.resume ⟨op, answer⟩ rest))) charge.opId (some row.status) := by
  rw [same]
  cases was : old.status with
  | prepared => exact .inr trivial
  | completed => exact .inr trivial
  | queued =>
    rw [was] at tended
    exact .inr (queued_act covered accounted act before was found (same.trans was) tended)
  | submitted =>
    rw [was] at tended
    rcases Machine.Someone.split tended act.found (thread.resume ⟨op, answer⟩ rest) with ⟨_, follows⟩ | follows
    · have moved := (act.before : Allowed config thread.tag (stage thread.history) op).moved answer
      have still := moved.follows act.executed follows found (same.trans was)
      refine .inr (.here index ⟨running_of_not_rests act ?_, ?_⟩)
      · rw [still]
        unfold Stage.follows at follows
        split at follows
        next at_ =>
          rw [at_]
          exact not_false
        · cases follows
      · change ((stage thread.history).next op answer).follows = _
        rw [still]
        exact follows
    · exact .inr follows
  | failed =>
    rw [was] at tended
    exact owes_act books act member sign tended

/-- One step leaves every charge refunded or tended. -/
theorem tended_act (covered : Covered system.world system.calls) (books : Books config system.world system.calls)
    (accounted : Accounted system (.step index env))
    (act : (machine config).Act (contract config) system index env thread op answer rest world) {charge : BillingCharge}
    (member : charge ∈ system.world.ledger.charges) (sign : charge.opType = "sign")
    (tended : Tended system.world.jobs system.calls charge.opId
      ((system.world.signRequests.get charge.opId).map SignRequest.status)) :
    Refunded world.ledger charge.network charge.opId ∨
      Tended ((machine config).close index thread.tag rest world).jobs
        (Function.update system.calls index (some (thread.resume ⟨op, answer⟩ rest))) charge.opId
        ((world.signRequests.get charge.opId).map SignRequest.status) := by
  have executed : exec op env system.world = some (answer, world) := act.executed
  have allowed : Allowed config thread.tag (stage thread.history) op := act.before
  cases before : system.world.signRequests.get charge.opId with
  | none =>
    rw [before] at tended
    cases found : world.signRequests.get charge.opId with
    | none =>
      rcases tended with pays | owes
      · exact .inr (.inl (pays_act books accounted act found pays))
      · rcases owes_act books act member sign owes with refunded | owes
        · exact .inl refunded
        · exact .inr (.inr owes)
    | some row =>
      rcases row_of_exec executed found with there | ⟨new, rfl, _, rfl, _⟩ | ⟨old, _, _, there, _⟩
      · rw [before] at there
        cases there
      · obtain ⟨args, dw, id, _, _, rfl⟩ := allowed.of_insert
        exact .inr trivial
      · rw [before] at there
        cases there
  | some old =>
    rw [before] at tended
    rcases exec_row executed before with rfl | ⟨row, found, rfl | ⟨statement, rfl, change⟩⟩
    · -- The row is dropped, so its refund is due.
      obtain ⟨args, row, _, dry, own⟩ := allowed.of_delete
      have owing : (stage thread.history).next (.sign (.delete charge.opId)) answer = .owing row := by
        rw [dry]
        rfl
      cases executed
      change _ ∨ Tended _ _ _ (((system.world.signRequests.delete charge.opId).get charge.opId).map _)
      rw [Table.get_delete, if_pos rfl]
      exact .inr (.inr (.here index ⟨running_of_owes books act owing, row, owing, own⟩))
    · rw [found]
      exact status_act covered books accounted act member sign before found rfl tended
    · rw [found]
      have own := Table.key_of_get before
      cases change with
      | presign _ presignId => exact status_act covered books accounted act member sign before found rfl tended
      | session _ session => exact status_act covered books accounted act member sign before found rfl tended
      | completed _ signature => exact .inr trivial
      | queued _ signature session =>
        have marked : (stage thread.history).next (.sign (.setQueued old.id signature session)) answer = .marked old.id := rfl
        refine .inr (.inr (.inr (.here index ⟨running_of_not_rests act ?_, ?_⟩)))
        · rw [marked]
          exact not_false
        · exact own ▸ marked
      | submitted _ digest =>
        obtain ⟨read, at_, same⟩ := allowed.of_setSubmitted
        have following : (stage thread.history).next (.sign (.setSubmitted old.id digest)) answer =
            .working read .submitted := by
          rw [at_]
          rfl
        refine .inr (.here index ⟨running_of_not_rests act ?_, ?_⟩)
        · rw [following]
          exact not_false
        · change ((stage thread.history).next _ _).follows = _
          rw [following]
          exact congrArg some (same.trans own)
      | failed _ code message =>
        rw [← own] at found
        obtain rfl := (exec_setFailed executed).trans found
        exact .inr (.here index ⟨running_of_owes books act rfl, _, rfl, own⟩)

theorem Covered.act (covered : Covered system.world system.calls) (books : Books config system.world system.calls)
    (accounted : Accounted system (.step index env))
    (act : (machine config).Act (contract config) system index env thread op answer rest world) :
    Covered ((machine config).close index thread.tag rest world)
      (Function.update system.calls index (some (thread.resume ⟨op, answer⟩ rest))) where
  charges := by
    have executed : exec op env system.world = some (answer, world) := act.executed
    have allowed : Allowed config thread.tag (stage thread.history) op := act.before
    have signRequests : ((machine config).close index thread.tag rest world).signRequests = world.signRequests := by
      rw [close_jobs]
    have ledger : ((machine config).close index thread.tag rest world).ledger = world.ledger := by
      rw [close_jobs]
    rw [signRequests, ledger]
    intro charge member sign kind
    rcases charge_of_exec executed member with old | ⟨args, rfl, new⟩ | ⟨args, _, rfl⟩
    · rcases covered.charges charge old sign kind with refunded | tended
      · exact .inl (refunded.mono (exec_charges_mono executed))
      · exact tended_act covered books accounted act old sign tended
    · obtain ⟨args, dw, id, reason, _, drawn, _, rfl⟩ := allowed.of_charge
      subst new
      obtain ⟨answered, after, requests, _⟩ := exec_charge executed
      have absent := (books.drawn act.found (by rw [drawn]; rfl)).2
      change _ ∨ Tended _ _ id ((world.signRequests.get id).map SignRequest.status)
      rw [requests, absent]
      have charged : (stage thread.history).next _ answer = .charged dw id := by
        cases answer with
        | ok charge =>
          rw [drawn]
          rfl
        | error error =>
          rw [after, Ledger.charge_error answered.symm] at member
          exact absurd rfl (books.unbilled act.found drawn _ member sign)
      exact .inr (.inl (.here index ⟨running_of_not_rests act (by rw [charged]; exact not_false), dw, charged⟩))
    · cases kind
  jobs := by
    intro other rival id job there tag
    have known : ∃ entry, system.world.jobs[job]? = some entry ∧ entry.signRequestId = id := by
      rcases Machine.calls_update there with ⟨rfl, rfl⟩ | ⟨_, there⟩
      · exact covered.jobs act.found tag
      · exact covered.jobs there tag
    obtain ⟨entry, found, own⟩ := known
    obtain ⟨later, still, same⟩ := close_request config (exec_job act.executed found)
    exact ⟨later, still, same.trans own⟩
  runs := by
    intro other rival id job there tag
    rcases Machine.calls_update there with ⟨rfl, rfl⟩ | ⟨_, there⟩
    · have moved := (act.before : Allowed config thread.tag (stage thread.history) op).moved answer
      have tag : thread.tag = .process id job := tag
      rw [tag] at moved
      exact moved.serves act.known (covered.runs act.found tag)
    · exact covered.runs there tag
  pool := by
    intro other rival there pool
    rcases Machine.calls_update there with ⟨rfl, rfl⟩ | ⟨_, there⟩
    · have moved := (act.before : Allowed config thread.tag (stage thread.history) op).moved answer
      exact moved.pool pool (covered.pool act.found pool)
    · exact covered.pool there pool

end Step

theorem Covered.cut {config : Config} {system : SignSystem} {index : Nat} {thread : SignThread}
    (covered : Covered system.world system.calls) (books : Books config system.world system.calls)
    (accounted : Accounted system (.cut index)) (found : system.calls index = some thread) :
    Covered system.world (Function.update system.calls index (some { thread with cut := true })) where
  charges := by
    intro charge member sign kind
    obtain ⟨relieved, leaves⟩ := accounted thread found
    have retries : Retries system.world.jobs system.calls charge.opId → Retries system.world.jobs
        (Function.update system.calls index (some { thread with cut := true })) charge.opId := by
      rintro ⟨pair, there, own, deliverable, nobody⟩
      exact ⟨pair, there, own, deliverable, Machine.not_someone_update nobody (fun running => nomatch running.1.1)⟩
    -- Only the one who owes the refund of this charge has to have made it.
    have owed : Machine.Someone system.calls (Owes charge.opId) →
        (Refunded system.world.ledger charge.network charge.opId ∨
          ∃ current ∈ system.world.signRequests.get charge.opId, current.status ≠ .failed) ∨
        Machine.Someone (Function.update system.calls index (some { thread with cut := true })) (Owes charge.opId) := by
      intro owes
      rcases owes.split found { thread with cut := true } with ⟨_, row, owing, own⟩ | owes
      · obtain ⟨_, charged, _⟩ := books.paid found (by rw [owing]; rfl)
        rw [owing] at leaves
        rw [books.network member sign charged own.symm, ← own]
        exact .inl leaves
      · exact .inr owes
    rcases covered.charges charge member sign kind with refunded | tended
    · exact .inl refunded
    cases there : system.world.signRequests.get charge.opId with
    | none =>
      rw [there] at tended
      rcases tended with pays | owes
      · rcases pays.split found { thread with cut := true } with ⟨_, dw, charged⟩ | pays
        · rw [charged] at leaves
          exact leaves.elim
        · exact .inr (.inl pays)
      · rcases owed owes with (refunded | ⟨current, here, _⟩) | owes
        · exact .inl refunded
        · rw [there] at here
          cases here
        · exact .inr (.inr owes)
    | some row =>
      rw [there] at tended
      simp only [Option.map_some] at tended ⊢
      cases status : row.status with
      | prepared => exact .inr trivial
      | completed => exact .inr trivial
      | queued =>
        rw [status] at tended
        rcases tended with again | works | enqueues
        · exact .inr (.inl (retries again))
        · rcases works.split found { thread with cut := true } with ⟨_, own, busy⟩ | works
          · exact .inr (.inl (retries (relieved.1 _ own busy row there status)))
          · exact .inr (.inr (.inl works))
        · rcases enqueues.split found { thread with cut := true } with ⟨_, marked⟩ | enqueues
          · rw [marked] at leaves
            exact .inr (.inl (retries (leaves row there status)))
          · exact .inr (.inr (.inr enqueues))
      | submitted =>
        rw [status] at tended
        rcases Machine.Someone.split tended found { thread with cut := true } with ⟨_, follows⟩ | follows
        · exact absurd status (relieved.2 _ follows row there)
        · exact .inr follows
      | failed =>
        rw [status] at tended
        rcases owed tended with (refunded | ⟨current, here, unfailed⟩) | owes
        · exact .inl refunded
        · rw [there] at here
          cases here
          exact absurd status unfailed
        · exact .inr owes
  jobs := by
    intro other rival id job there tag
    rcases Machine.calls_update there with ⟨rfl, rfl⟩ | ⟨_, there⟩
    · exact covered.jobs found tag
    · exact covered.jobs there tag
  runs := by
    intro other rival id job there tag
    rcases Machine.calls_update there with ⟨rfl, rfl⟩ | ⟨_, there⟩
    · have serves : (stage thread.history).Serves id := covered.runs found tag
      exact serves
    · exact covered.runs there tag
  pool := by
    intro other rival there pool
    rcases Machine.calls_update there with ⟨rfl, rfl⟩ | ⟨_, there⟩
    · have idle : stage thread.history = .idle := covered.pool found pool
      exact idle
    · exact covered.pool there pool

/-- What starting a call does to the queue. -/
theorem start_jobs (config : Config) (index : Nat) {tag : Call} {world opened : World} (entered : enter tag world = some opened) :
    (tag.job = none ∧ ((machine config).close index tag ((machine config).program tag) opened).jobs = world.jobs) ∨
    ∃ id job entry, tag = .process id job ∧ world.jobs[job]? = some entry ∧ entry.signRequestId = id ∧
      ((machine config).close index tag ((machine config).program tag) opened).jobs =
        world.jobs.set job { entry with delivered := entry.delivered + 1 } := by
  cases tag with
  | process id job =>
    simp only [enter] at entered
    split at entered
    · cases entered
    next entry found =>
      split at entered
      next meets =>
        cases entered
        exact .inr ⟨id, job, entry, rfl, found, meets.1, rfl⟩
      · cases entered
  | _ =>
    cases entered
    refine .inl ⟨rfl, ?_⟩
    unfold Machine.close
    split <;> rfl

theorem Covered.start {config : Config} {system : SignSystem} {call : Call} {opened : World}
    (covered : Covered system.world system.calls) (free : system.calls system.threads.length = none)
    (entered : enter call system.world = some opened) :
    Covered ((machine config).close system.threads.length call ((machine config).program call) opened)
      (Function.update system.calls system.threads.length (some ((machine config).fresh call))) where
  charges := by
    have signRequests : ((machine config).close system.threads.length call ((machine config).program call) opened).signRequests =
        system.world.signRequests := by
      rw [close_jobs, enter_jobs entered]
    have ledger : ((machine config).close system.threads.length call ((machine config).program call) opened).ledger =
        system.world.ledger := by
      rw [close_jobs, enter_jobs entered]
    rw [signRequests, ledger]
    intro charge member sign kind
    have someone : ∀ {is : SignThread → Prop}, Machine.Someone system.calls is →
        Machine.Someone (Function.update system.calls system.threads.length (some ((machine config).fresh call))) is := by
      intro is someone
      refine someone.update (fun thread there => ?_)
      rw [free] at there
      cases there
    rcases covered.charges charge member sign kind with refunded | tended
    · exact .inl refunded
    right
    cases there : system.world.signRequests.get charge.opId with
    | none =>
      rw [there] at tended
      exact tended.imp someone someone
    | some row =>
      rw [there] at tended
      simp only [Option.map_some] at tended ⊢
      cases status : row.status with
      | prepared => trivial
      | completed => trivial
      | submitted =>
        rw [status] at tended
        exact someone tended
      | failed =>
        rw [status] at tended
        exact someone tended
      | queued =>
        rw [status] at tended
        rcases tended with ⟨⟨entry, job⟩, listed, own, deliverable, nobody⟩ | works | enqueues
        · have idle : ¬Machine.Someone (Function.update system.calls system.threads.length
              (some ((machine config).fresh call))) (Acknowledging job) :=
            Machine.not_someone_update nobody (fun settled => nomatch settled.2.2)
          have found : system.world.jobs[job]? = some entry := List.mem_zipIdx_iff_getElem?.mp listed
          rcases start_jobs config system.threads.length entered with
            ⟨_, same⟩ | ⟨id, other, taken, rfl, delivered, asked, set⟩
          · exact .inl ⟨(entry, job), by rw [same]; exact listed, own, deliverable, idle⟩
          · by_cases mine : other = job
            · -- The delivery that was to come has come.
              subst mine
              rw [delivered] at found
              cases found
              exact .inr (.inl (.here _ ⟨⟨rfl, rfl⟩, congrArg some (asked.symm.trans own), rfl⟩))
            · refine .inl ⟨(entry, job), List.mem_zipIdx_iff_getElem?.mpr ?_, own, deliverable, idle⟩
              rw [set, List.getElem?_set_ne mine]
              exact found
        · exact .inr (.inl (someone works))
        · exact .inr (.inr (someone enqueues))
  jobs := by
    intro other rival id job there tag
    rcases start_jobs config system.threads.length entered with ⟨none, same⟩ | ⟨request, own, taken, rfl, delivered, asked, set⟩
    · rw [same]
      rcases Machine.calls_update there with ⟨rfl, rfl⟩ | ⟨_, there⟩
      · have mine : call = .process id job := tag
        rw [mine] at none
        cases none
      · exact covered.jobs there tag
    · rw [set, List.getElem?_set]
      have inside := (List.getElem?_eq_some_iff.mp delivered).1
      rcases Machine.calls_update there with ⟨rfl, rfl⟩ | ⟨_, there⟩
      · cases tag
        exact ⟨{ taken with delivered := taken.delivered + 1 }, by rw [if_pos rfl, if_pos inside], asked⟩
      · obtain ⟨entry, found, wanted⟩ := covered.jobs there tag
        by_cases same : own = job
        · subst same
          rw [delivered] at found
          cases found
          exact ⟨{ taken with delivered := taken.delivered + 1 }, by rw [if_pos rfl, if_pos inside], wanted⟩
        · exact ⟨entry, by rw [if_neg same]; exact found, wanted⟩
  runs := by
    intro other rival id job there tag
    rcases Machine.calls_update there with ⟨rfl, rfl⟩ | ⟨_, there⟩
    · trivial
    · exact covered.runs there tag
  pool := by
    intro other rival there pool
    rcases Machine.calls_update there with ⟨rfl, rfl⟩ | ⟨_, there⟩
    · rfl
    · exact covered.pool there pool

theorem Covered.move {config : Config} {system : SignSystem} {event : Event Env Call} {world : World}
    {calls : Nat → Option SignThread} (covered : Covered system.world system.calls)
    (books : Books config system.world system.calls) (accounted : Accounted system event)
    (move : (machine config).Move (contract config) system event world calls) : Covered world calls := by
  cases move with
  | start tag opened free entered path => exact covered.start free entered
  | step index env thread op answer rest opened act => exact covered.act books accounted act
  | cut index thread found running =>
    have same : (machine config).leave index thread.tag none system.world = system.world := by
      change leave thread.tag none system.world = system.world
      cases thread.tag <;> rfl
    rw [same]
    exact covered.cut books accounted found

theorem covered_of_run {config : Config} {initial system : SignSystem} (start : Initial initial)
    (run : (machine config).Run Accounted initial system) : Covered system.world system.calls := by
  have kept : Machine.Kept (contract config) initial := kept_of_reaches start.threads .refl
  have covered : Covered initial.world initial.calls := by
    refine ⟨?_, ?_, ?_, ?_⟩
    · intro charge member sign
      exact absurd sign (start.charges charge member)
    all_goals
      intros
      simp_all [start.calls]
  exact (run.tracked (honours config) Covered kept covered
    (fun reached covered accounted move => covered.move (books_of_reaches start reached) accounted move)).2

/-- In every run in which no call stops where only it would have settled its request, every
settled state has each charge refunded or completed. -/
theorem no_orphan_when_settled (config : Config) {initial system : SignSystem} (start : Initial initial)
    (run : (machine config).Run Accounted initial system) (settled : Settled system) : NoOrphan system.world := by
  have covered := covered_of_run start run
  have quiet : ∀ {is : SignThread → Prop}, (∀ thread, is thread → thread.Running) →
      (∀ thread, is thread → thread.tag.Pool → stage thread.history ≠ .idle) → ¬Machine.Someone system.calls is := by
    rintro is runs active ⟨index, thread, found, now⟩
    have pool := settled.calls thread (List.mem_of_getElem? found) (runs thread now)
    exact active thread now pool (covered.pool found pool)
  have owes : ∀ id, ¬Machine.Someone system.calls (Owes id) := by
    intro id
    apply quiet (fun _ owes => owes.1)
    rintro thread ⟨_, row, owing, _⟩ _ idle
    rw [owing] at idle
    cases idle
  intro charge member sign kind unrefunded
  have tended := (covered.charges charge member sign kind).resolve_left unrefunded
  cases found : system.world.signRequests.get charge.opId with
  | none =>
    rw [found] at tended
    rcases tended with pays | owing
    · refine absurd pays (quiet (fun _ pays => pays.1) ?_)
      rintro thread ⟨_, dw, charged⟩ _ idle
      rw [charged] at idle
      cases idle
    · exact absurd owing (owes _)
  | some row =>
    rw [found, Option.map_some] at tended
    cases status : row.status with
    | completed => exact ⟨row, Table.mem_of_get found, Table.key_of_get found, status⟩
    | prepared =>
      exact absurd ⟨status, Int.lt_succ _⟩ (settled.stuck (row.updatedAt + 1) row (Table.mem_of_get found))
    | queued =>
      rw [status] at tended
      rcases tended with ⟨⟨entry, job⟩, listed, _, deliverable, _⟩ | works | enqueues
      · have there : system.world.jobs[job]? = some entry := List.mem_zipIdx_iff_getElem?.mp listed
        exact absurd deliverable (settled.jobs entry (List.mem_of_getElem? there))
      · refine absurd works (quiet (fun _ works => works.1) ?_)
        rintro thread ⟨_, own, _⟩ pool
        obtain ⟨job, tag⟩ := Call.of_request own
        rw [tag] at pool
        exact pool.elim
      · refine absurd enqueues (quiet (fun _ enqueues => enqueues.1) ?_)
        rintro thread ⟨_, marked⟩ _ idle
        rw [marked] at idle
        cases idle
    | submitted =>
      rw [status] at tended
      refine absurd tended (quiet (fun _ follows => follows.1) ?_)
      rintro thread ⟨_, follows⟩ _ idle
      rw [idle] at follows
      cases follows
    | failed =>
      rw [status] at tended
      exact absurd tended (owes _)

/-! ### A charge that nobody settles -/

/-- The process dies between the charge and the row. -/
def orphanedEvents : List (Event Env Call) :=
  .start (samplePrepare "first" [7]) :: steps 0 5 calm ++ [.cut 0]

theorem charge_orphaned : ∃ system, (machine sampleConfig).Reaches sampleStart system ∧ Settled system ∧
    ¬NoOrphan system.world := by
  obtain ⟨system, reached, stopped, jobs, requests, ready, charge, member, sign, kind, unrefunded⟩ :
      ∃ system, (machine sampleConfig).Reaches sampleStart system ∧ (∀ thread ∈ system.threads, ¬thread.Running) ∧
        system.world.jobs = [] ∧ system.world.signRequests.rows = [] ∧
        (∀ presign ∈ system.world.presigns.rows, presign.status = .ready) ∧
        ∃ charge ∈ system.world.ledger.charges, charge.opType = "sign" ∧ charge.kind = .charge ∧
          ¬Refunded system.world.ledger charge.network charge.opId :=
    Machine.exists_reaches orphanedEvents (by decide +kernel)
  refine ⟨system, reached, ⟨?_, ?_, ?_, ?_⟩, ?_⟩
  · intro thread there running
    exact absurd running (stopped thread there)
  · simp [jobs]
  · simp [requests]
  · intro cutoff presign there
    constructor
    · rintro ⟨status, _⟩
      rw [ready presign there] at status
      cases status
    · rintro ⟨status, _⟩
      rw [ready presign there] at status
      cases status
  · intro orphanless
    obtain ⟨row, there, _⟩ := orphanless charge member sign kind unrefunded
    rw [requests] at there
    cases there

/-- A request that is prepared, submitted and signed, down to the refill at its end. -/
def settledEvents : List (Event Env Call) := signedEvents ++ steps 2 1 calm

theorem no_orphan_when_settled_sample : ∃ system, (machine sampleConfig).Run Accounted sampleStart system ∧
    Settled system ∧ (∃ charge ∈ system.world.ledger.charges, charge.opType = "sign" ∧ charge.kind = .charge) ∧
    NoOrphan system.world := by
  obtain ⟨system, run, stopped, jobs, completed, used, charged⟩ :
      ∃ system, (machine sampleConfig).Run Accounted sampleStart system ∧ (∀ thread ∈ system.threads, ¬thread.Running) ∧
        (∀ job ∈ system.world.jobs, job.done = true) ∧
        (∀ row ∈ system.world.signRequests.rows, row.status = .completed) ∧
        (∀ presign ∈ system.world.presigns.rows, presign.status = .used) ∧
        ∃ charge ∈ system.world.ledger.charges, charge.opType = "sign" ∧ charge.kind = .charge :=
    Machine.exists_run settledEvents (by decide +kernel)
  have settled : Settled system := by
    refine ⟨?_, ?_, ?_, ?_⟩
    · intro thread there running
      exact absurd running (stopped thread there)
    · rintro job there ⟨undone, _⟩
      rw [jobs job there] at undone
      cases undone
    · rintro cutoff row there ⟨status, _⟩
      rw [completed row there] at status
      cases status
    · intro cutoff presign there
      constructor
      · rintro ⟨status, _⟩
        rw [used presign there] at status
        cases status
      · rintro ⟨status, _⟩
        rw [used presign there] at status
        cases status
  exact ⟨system, run, settled, charged, no_orphan_when_settled sampleConfig sampleStart_initial run settled⟩

end MpcKit.Sign
