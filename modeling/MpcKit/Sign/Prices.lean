import MpcKit.Sign.Fleet

/-! A failed request is repaid in full exactly when the process that fails it has the price the
request was charged. -/

namespace MpcKit.Sign
open MpcKit.Backend MpcKit.Async
open MpcKit.Billing (Ledger OpKey BillingCharge ChargeKind ChargeArgs RefundArgs)

/-- The ledger has the charge of this amount for a request. -/
def Cost (ledger : Ledger) (network : String) (id : Uuid) (amount : Int) : Prop :=
  ∃ charge ∈ ledger.charges, charge.op = signKey network id ∧ charge.kind = .charge ∧ charge.creditsMicro = -amount

instance (ledger : Ledger) (network : String) (id : Uuid) (amount : Int) : Decidable (Cost ledger network id amount) :=
  inferInstanceAs (Decidable (∃ charge ∈ ledger.charges, _))

/-- The user of a request was charged for it once, and has been credited once with the same amount. -/
def Repaid (ledger : Ledger) (row : SignRequest) : Prop :=
  (∃ amount > 0, ledger.creditsOf (signKey row.network row.id) .charge = [-amount] ∧
    ledger.creditsOf (signKey row.network row.id) .refund = [amount]) ∧
  ∀ entry ∈ ledger.charges, entry.op = signKey row.network row.id → entry.userId = row.userId

/-- A process fails only requests that were charged its own price. -/
def PricedAs (world : World) (price : Nat) : Op → Prop
  | .sign (.setFailed id _ _) => ∀ row ∈ world.signRequests.get id, Cost world.ledger row.network id price
  | _ => True

instance (world : World) (price : Nat) (op : Op) : Decidable (PricedAs world price op) := by
  unfold PricedAs
  induction op using Op.casesOn with
  | sign op => induction op using SignOp.casesOn <;> infer_instance
  | _ => infer_instance

/-- Besides, no process is cut off between failing a request that exists and refunding it. -/
def Fair (system : FleetSystem) : Event Env Served → Prop
  | .start _ => True
  | .step index env => ∀ thread ∈ system.calls index, ∀ op ∈ system.performs (.step index env : Event Env Served),
      PricedAs system.world thread.tag.config.signPriceMicro op
  | .cut index => ∀ thread ∈ system.calls index, ∀ row ∈ (stage thread.history).owes,
      system.world.signRequests.get row.id = none

instance (system : FleetSystem) (event : Event Env Served) : Decidable (Fair system event) := by
  unfold Fair
  induction event using Event.casesOn <;> infer_instance

theorem Cost.mono {ledger later : Ledger} {network : String} {id : Uuid} {amount : Int}
    (cost : Cost ledger network id amount) (grows : ∀ charge ∈ ledger.charges, charge ∈ later.charges) :
    Cost later network id amount := by
  obtain ⟨charge, member, charged⟩ := cost
  exact ⟨charge, grows charge member, charged⟩

/-! ### Who pays and who is repaid -/

/-- The amounts and users of the rows in the ledger, whatever the prices. -/
structure Sold (world : World) (calls : Nat → Option FleetThread) : Prop where
  debits : ∀ {charge}, charge ∈ world.ledger.charges → charge.opType = "sign" → charge.kind = .charge →
    charge.creditsMicro < 0
  payer : ∀ {index thread dw id args}, calls index = some thread → stage thread.history = .charged dw id →
    thread.tag.call = .prepare args → ∀ charge ∈ world.ledger.charges, charge.opType = "sign" → charge.opId = id →
    charge.userId = args.userId
  users : ∀ {charge row}, charge ∈ world.ledger.charges → charge.opType = "sign" →
    world.signRequests.get charge.opId = some row → charge.userId = row.userId
  owner : ∀ {index thread owner row}, calls index = some thread → stage thread.history = .owing owner →
    world.signRequests.get owner.id = some row → row.network = owner.network ∧ row.userId = owner.userId

/-- Only the calls change, by one that stands where a call stood or has done nothing. -/
theorem Sold.recalls {world : World} {calls : Nat → Option FleetThread} (sold : Sold world calls) (index : Nat)
    (replaced : FleetThread) (stood : replaced.history = [] ∨ ∃ thread, calls index = some thread ∧
      thread.tag = replaced.tag ∧ thread.history = replaced.history) :
    Sold world (Function.update calls index (some replaced)) where
  debits := sold.debits
  payer := by
    intro other thread dw id args found at_ tag
    rcases Machine.calls_update found with ⟨rfl, rfl⟩ | ⟨_, found⟩
    · rcases stood with none | ⟨before, there, same, history⟩
      · rw [none] at at_
        cases at_
      · exact sold.payer there (history ▸ at_) (same ▸ tag)
    · exact sold.payer found at_ tag
  users := sold.users
  owner := by
    intro other thread owner row found owing there
    rcases Machine.calls_update found with ⟨rfl, rfl⟩ | ⟨_, found⟩
    · rcases stood with none | ⟨before, was, _, history⟩
      · rw [none] at owing
        cases owing
      · exact sold.owner was (history ▸ owing) there
    · exact sold.owner found owing there

section Step

variable {system : FleetSystem} {index : Nat} {env : Env} {thread : FleetThread} {op : Op} {answer : Res op}
  {rest : Prog Reply} {world : World}

/-- Where the row a call owes a refund for comes from. -/
theorem owed_row (filed : Filed system.world system.calls)
    (act : fleet.Act served system index env thread op answer rest world) {other : Nat} {rival : FleetThread}
    {owner row : SignRequest}
    (found : Function.update system.calls index (some (thread.resume ⟨op, answer⟩ rest)) other = some rival)
    (owing : stage rival.history = .owing owner) (there : world.signRequests.get owner.id = some row) :
    (system.calls other = some rival ∨ other = index ∧ rival.tag = thread.tag ∧ stage thread.history = .owing owner) ∧
      (∃ old, system.world.signRequests.get owner.id = some old ∧ row.network = old.network ∧ row.userId = old.userId) ∨
    rival.tag = thread.tag ∧ row = owner ∧ ∃ code message old, op = .sign (.setFailed owner.id code message) ∧
      system.world.signRequests.get owner.id = some old ∧ row.network = old.network := by
  have executed : exec op env system.world = some (answer, world) := act.executed
  have allowed : Allowed thread.tag.config thread.tag.call (stage thread.history) op := act.before
  rcases Machine.calls_update found with ⟨rfl, rfl⟩ | ⟨apart, stood⟩
  · have moved : Moved thread.tag.config thread.tag.call (stage thread.history) op answer (.owing owner) :=
      owing ▸ allowed.moved answer
    rcases moved.owing with ⟨before, rfl⟩ | ⟨_, rfl⟩ | ⟨id, code, message, same⟩
    · cases executed
      exact .inl ⟨.inr ⟨rfl, rfl, before⟩, row, there, rfl, rfl⟩
    · cases executed
      change (system.world.signRequests.delete owner.id).get owner.id = some row at there
      rw [Table.get_delete, if_pos rfl] at there
      cases there
    · cases same
      obtain ⟨rfl, _, stored, old, before, rfl⟩ := failed_row executed
      rw [stored] at there
      cases there
      exact .inr ⟨rfl, rfl, code, message, old, rfl, before, rfl⟩
  · refine .inl ⟨.inl stood, ?_⟩
    rcases row_of_exec executed there with before | ⟨new, rfl, own, _⟩ | ⟨old, statement, rfl, before, change⟩
    · exact ⟨row, before, rfl, rfl⟩
    · -- An insert under the identifier of a request somebody has paid for.
      obtain ⟨args, dw, id, _, at_, rfl⟩ := allowed.of_insert
      have paid : (stage rival.history).paid = some owner := by
        rw [owing]
        rfl
      have fresh : (stage thread.history).fresh = some owner.id := by
        rw [at_, own]
        rfl
      exact absurd fresh (filed.apart stood paid act.found)
    · exact ⟨old, before, change.kept.2.2.1, change.kept.2.1⟩

theorem Sold.act_payer (sold : Sold system.world system.calls) (filed : Filed system.world system.calls)
    (act : fleet.Act served system index env thread op answer rest world) {other : Nat} {rival : FleetThread} {dw : DWallet}
    {id : Uuid} {args : PrepareSignArgs}
    (found : Function.update system.calls index (some (thread.resume ⟨op, answer⟩ rest)) other = some rival)
    (at_ : stage rival.history = .charged dw id) (tag : rival.tag.call = .prepare args) {charge : BillingCharge}
    (member : charge ∈ world.ledger.charges) (sign : charge.opType = "sign") (own : charge.opId = id) :
    charge.userId = args.userId := by
  have executed : exec op env system.world = some (answer, world) := act.executed
  have allowed : Allowed thread.tag.config thread.tag.call (stage thread.history) op := act.before
  have fresh : (stage rival.history).fresh = some id := by
    rw [at_]
    rfl
  -- What the acting call adds to the ledger is for another request, unless it is this charge.
  rcases Machine.calls_update found with ⟨rfl, rfl⟩ | ⟨apart, stood⟩
  · rcases (allowed.moved answer).fresh fresh with same | rfl | ⟨new, rfl⟩
    · have before : stage thread.history = .charged dw id := same.trans at_
      rcases charge_of_exec executed member with old | ⟨new, rfl, rfl⟩ | ⟨new, rfl, rfl⟩
      · exact sold.payer act.found before tag charge old sign own
      · obtain ⟨_, _, _, _, _, drawn, _⟩ := allowed.of_charge
        rw [before] at drawn
        cases drawn
      · obtain ⟨_, _, owing, _⟩ := allowed.of_refund
        rw [before] at owing
        cases owing
    · obtain ⟨_, wallet, _, was⟩ := allowed.of_randomUUID
      have drawn : (Stage.wallet wallet).next .randomUUID answer = .charged dw id := by
        rw [← was]
        exact at_
      cases drawn
    · obtain ⟨asked, wallet, drawn, reason, call, was, _, rfl⟩ := allowed.of_charge
      have moved : (Stage.drawn wallet drawn).charges answer = .charged dw id := by
        rw [← was]
        exact at_
      cases answer with
      | error error => cases moved
      | ok row =>
        cases moved
        rcases charge_of_exec executed member with old | ⟨new, same, rfl⟩ | ⟨new, same, _⟩
        · exact absurd own (filed.unbilled act.found was old sign)
        · cases same
          have same : Call.prepare asked = .prepare args := call.symm.trans tag
          cases same
          rfl
        · cases same
  · rcases charge_of_exec executed member with old | ⟨new, rfl, rfl⟩ | ⟨new, rfl, rfl⟩
    · exact sold.payer stood at_ tag charge old sign own
    · obtain ⟨asked, wallet, drawn, reason, _, was, _, rfl⟩ := allowed.of_charge
      have mine : (stage thread.history).fresh = some id := by
        rw [was, ← own]
        rfl
      exact absurd (filed.single stood act.found fresh mine) apart
    · obtain ⟨owner, reason, owing, rfl⟩ := allowed.of_refund
      have paid : (stage thread.history).paid = some owner := by
        rw [owing]
        rfl
      have mine : owner.id = id := own
      exact absurd (mine ▸ fresh) (filed.apart act.found paid stood)

theorem Sold.act_users (sold : Sold system.world system.calls) (filed : Filed system.world system.calls)
    (act : fleet.Act served system index env thread op answer rest world) {charge : BillingCharge} {row : SignRequest}
    (member : charge ∈ world.ledger.charges) (sign : charge.opType = "sign")
    (found : world.signRequests.get charge.opId = some row) : charge.userId = row.userId := by
  have executed : exec op env system.world = some (answer, world) := act.executed
  have allowed : Allowed thread.tag.config thread.tag.call (stage thread.history) op := act.before
  rcases charge_of_exec executed member with old | ⟨new, rfl, rfl⟩ | ⟨new, rfl, rfl⟩
  · rcases row_of_exec executed found with before | ⟨new, rfl, own, rfl, _⟩ | ⟨was, statement, rfl, before, change⟩
    · exact sold.users old sign before
    · obtain ⟨args, dw, id, call, at_, rfl⟩ := allowed.of_insert
      exact sold.payer act.found at_ call charge old sign own
    · rw [change.kept.2.1]
      exact sold.users old sign before
  · -- A charge is for an identifier that has no row yet.
    obtain ⟨args, dw, id, reason, _, at_, _, rfl⟩ := allowed.of_charge
    have absent := filed.drawn act.found (by rw [at_]; rfl : (stage thread.history).fresh = some id)
    rw [(exec_charge executed).2.2.1] at found
    change system.world.signRequests.get id = some row at found
    rw [absent] at found
    cases found
  · obtain ⟨owner, reason, owing, rfl⟩ := allowed.of_refund
    rw [(exec_refund executed).2.2.1] at found
    exact (sold.owner act.found owing found).2.symm

theorem Sold.act (sold : Sold system.world system.calls) (filed : Filed system.world system.calls)
    (act : fleet.Act served system index env thread op answer rest world) :
    Sold world (Function.update system.calls index (some (thread.resume ⟨op, answer⟩ rest))) where
  debits := by
    intro charge member sign kind
    have executed : exec op env system.world = some (answer, world) := act.executed
    have allowed : Allowed thread.tag.config thread.tag.call (stage thread.history) op := act.before
    rcases charge_of_exec executed member with old | ⟨new, rfl, rfl⟩ | ⟨new, _, rfl⟩
    · exact sold.debits old sign kind
    · obtain ⟨args, dw, id, reason, _, _, positive, rfl⟩ := allowed.of_charge
      change -(thread.tag.config.signPriceMicro : Int) < 0
      omega
    · cases kind
  payer := by
    intro other rival dw id args found at_ tag charge member sign own
    exact sold.act_payer filed act found at_ tag member sign own
  users := sold.act_users filed act
  owner := by
    intro other rival owner row found owing there
    rcases owed_row filed act found owing there with ⟨stood, old, before, network, user⟩ | ⟨_, rfl, _⟩
    · rw [network, user]
      rcases stood with stood | ⟨_, _, owed⟩
      · exact sold.owner stood owing before
      · exact sold.owner act.found owed before
    · exact ⟨rfl, rfl⟩

end Step

theorem Sold.jobs {world : World} {calls : Nat → Option FleetThread} (jobs : List Job) (sold : Sold world calls) :
    Sold { world with jobs := jobs } calls := ⟨sold.debits, sold.payer, sold.users, sold.owner⟩

theorem Sold.move {system : FleetSystem} {event : Event Env Served} {world : World}
    {calls : Nat → Option FleetThread} (sold : Sold system.world system.calls) (filed : Filed system.world system.calls)
    (move : fleet.Move served system event world calls) : Sold world calls := by
  cases move with
  | start tag opened free entered path =>
    rw [fleet_close_jobs, enter_jobs entered]
    exact Sold.jobs _ (Sold.jobs _ (sold.recalls _ _ (.inl rfl)))
  | step index env thread op answer rest opened act =>
    rw [fleet_close_jobs]
    exact (sold.act filed act).jobs _
  | cut index thread found running =>
    change Sold (leave thread.tag.call none system.world) _
    rw [leave_jobs]
    exact Sold.jobs _ (sold.recalls _ _ (.inr ⟨thread, found, rfl, rfl⟩))

theorem sold_of_reaches {initial system : FleetSystem} (start : Initial (initial.retag Served.call))
    (reached : fleet.Reaches initial system) : Sold system.world system.calls := by
  have idle : initial.threads = [] := List.map_eq_nil_iff.mp start.threads
  have nobody : ∀ index, initial.calls index = none := by
    intro index
    simp [System.calls, idle]
  have sold : Sold initial.world initial.calls := by
    refine ⟨?_, ?_, ?_, ?_⟩
    · intro charge member sign
      exact absurd sign (start.charges charge member)
    · intro index thread dw id args found
      rw [nobody] at found
      cases found
    · intro charge row member sign
      exact absurd sign (start.charges charge member)
    · intro index thread owner row found
      rw [nobody] at found
      cases found
  exact (reached.tracked fleet_honours Sold (kept_start idle) sold
    (fun earlier sold _ move => sold.move (filed_of_reaches start earlier) move)).2

/-! ### What is repaid -/

/-- Every refund of a request that exists is of its cost, and so is every refund that is due. -/
structure Repays (world : World) (calls : Nat → Option FleetThread) : Prop where
  refunds : ∀ {refund row}, refund ∈ world.ledger.charges → refund.opType = "sign" → refund.kind = .refund →
    world.signRequests.get refund.opId = some row → Cost world.ledger row.network refund.opId refund.creditsMicro
  owed : ∀ {index thread owner row}, calls index = some thread → thread.cut = false →
    stage thread.history = .owing owner → world.signRequests.get owner.id = some row →
    Cost world.ledger row.network owner.id thread.tag.config.signPriceMicro
  failed : ∀ {id row}, world.signRequests.get id = some row → row.status = .failed →
    Refunded world.ledger row.network id ∨ Owed (unserved calls) id

/-- Only the calls change, and nobody starts or stops owing a refund for a row that exists. -/
theorem Repays.recalls {world : World} {calls : Nat → Option FleetThread} (repays : Repays world calls) (index : Nat)
    (replaced : FleetThread)
    (owes : ∀ owner, replaced.cut = false → stage replaced.history = .owing owner →
      ∃ thread, calls index = some thread ∧ thread.cut = false ∧ thread.tag = replaced.tag ∧
        stage thread.history = .owing owner)
    (still : ∀ {row current thread}, world.signRequests.get row.id = some current → calls index = some thread →
      thread.cut = false → stage thread.history = .owing row →
      replaced.cut = false ∧ stage replaced.history = .owing row) :
    Repays world (Function.update calls index (some replaced)) where
  refunds := repays.refunds
  owed := by
    intro other thread owner row found alive owing there
    rcases Machine.calls_update found with ⟨rfl, rfl⟩ | ⟨_, found⟩
    · obtain ⟨before, was, living, tag, owed⟩ := owes owner alive owing
      exact tag ▸ repays.owed was living owed there
    · exact repays.owed found alive owing there
  failed := by
    intro id row found failed
    rcases repays.failed found failed with refunded | owed
    · exact .inl refunded
    · rw [unserved_update]
      refine .inr (owed.update ?_)
      rintro before there ⟨alive, owner, owing, rfl⟩
      obtain ⟨thread, was, rfl⟩ := Option.map_eq_some_iff.mp there
      obtain ⟨living, owes⟩ := still found was alive owing
      exact ⟨living, owner, owes, rfl⟩

section Step

variable {system : FleetSystem} {index : Nat} {env : Env} {thread : FleetThread} {op : Op} {answer : Res op}
  {rest : Prog Reply} {world : World}

/-- A refund of what the request cost succeeds. -/
theorem refunded_of_cost (filed : Filed system.world system.calls) (sold : Sold system.world system.calls)
    {refund : RefundArgs} {result : Except Thrown BillingCharge}
    (act : fleet.Act served system index env thread (.ledger (.refund refund)) result rest world) {owner : SignRequest}
    (owing : stage thread.history = .owing owner)
    (cost : Cost system.world.ledger owner.network owner.id thread.tag.config.signPriceMicro) :
    Refunded world.ledger owner.network owner.id := by
  have executed : exec (.ledger (.refund refund)) env system.world = some (result, world) := act.executed
  have allowed : Allowed thread.tag.config thread.tag.call (stage thread.history) (.ledger (.refund refund)) := act.before
  obtain ⟨other, reason, at_, rfl⟩ := allowed.of_refund
  rw [owing] at at_
  cases at_
  obtain ⟨charge, member, op, kind, amount⟩ := cost
  have positive : 0 < (thread.tag.config.signPriceMicro : Int) := by
    have debit := sold.debits member (congrArg OpKey.opType op) kind
    omega
  rcases Ledger.refund_charged ⟨owner.userId, owner.network, "sign", owner.id, thread.tag.config.signPriceMicro, reason⟩
    system.world.nextId filed.keys member op kind amount positive with ⟨existing, found, _⟩ | ⟨_, more⟩
  · obtain ⟨there, same, refunds⟩ := Ledger.mem_of_findCharge found
    exact ⟨existing, exec_charges_mono executed existing there, same, refunds⟩
  · rw [← (exec_refund executed).2.1] at more
    have added := List.mem_append_right system.world.ledger.charges (List.mem_singleton_self
      ((RefundArgs.newRefund ⟨owner.userId, owner.network, "sign", owner.id, thread.tag.config.signPriceMicro,
        reason⟩).row system.world.nextId))
    rw [← more] at added
    exact ⟨_, added, rfl, rfl⟩

theorem Repays.act_failed (repays : Repays system.world system.calls) (filed : Filed system.world system.calls)
    (sold : Sold system.world system.calls) (act : fleet.Act served system index env thread op answer rest world)
    {id : Uuid} {row : SignRequest} (found : world.signRequests.get id = some row) (failed : row.status = .failed) :
    Refunded world.ledger row.network id ∨
      Owed (unserved (Function.update system.calls index (some (thread.resume ⟨op, answer⟩ rest)))) id := by
  have executed : exec op env system.world = some (answer, world) := act.executed
  have allowed : Allowed thread.tag.config thread.tag.call (stage thread.history) op := act.before
  rw [unserved_update]
  have prior : ∀ old, system.world.signRequests.get id = some old → old.status = .failed →
      Refunded world.ledger old.network id ∨ Owed (Function.update (unserved system.calls) index
        (some ((thread.resume ⟨op, answer⟩ rest).retag Served.call))) id := by
    intro old before failed
    rcases repays.failed before failed with refunded | owed
    · exact .inl (refunded.mono (exec_charges_mono executed))
    by_cases mine : ∃ owner, stage thread.history = .owing owner ∧ owner.id = id
    · obtain ⟨owner, owing, rfl⟩ := mine
      have network := (sold.owner act.found owing before).1
      have cost := repays.owed act.found act.alive owing before
      rcases (owing ▸ allowed : Allowed thread.tag.config thread.tag.call (.owing owner) op).of_owing with
        rfl | ⟨refund, rfl⟩
      · exact .inr (owed.update (fun _ _ _ => ⟨act.alive, owner, owing, rfl⟩))
      · rw [network]
        exact .inl (refunded_of_cost filed sold act owing (network ▸ cost))
    · refine .inr (owed.update (fun other there owes => ?_))
      rw [unserved_of_found act.found] at there
      cases there
      exact absurd owes.2 mine
  rcases row_of_exec executed found with before | ⟨new, rfl, _, rfl, _⟩ | ⟨old, statement, rfl, before, change⟩
  · exact prior row before failed
  · obtain ⟨args, dw, drawn, _, _, rfl⟩ := allowed.of_insert
    cases failed
  · have own := Table.key_of_get before
    cases change with
    | presign _ presignId => exact prior old before failed
    | session _ session => exact prior old before failed
    | queued _ signature session => cases failed
    | submitted _ digest => cases failed
    | completed _ signature => cases failed
    | failed _ code message =>
      -- The acting call has just failed the row, so it owes the refund now.
      subst own
      obtain rfl := (exec_setFailed executed).trans found
      exact .inr (.here index ⟨act.alive, _, rfl, rfl⟩)

theorem Repays.act (repays : Repays system.world system.calls) (filed : Filed system.world system.calls)
    (sold : Sold system.world system.calls) (act : fleet.Act served system index env thread op answer rest world)
    (priced : PricedAs system.world thread.tag.config.signPriceMicro op) :
    Repays world (Function.update system.calls index (some (thread.resume ⟨op, answer⟩ rest))) where
  refunds := by
    intro refund row member sign kind found
    have executed : exec op env system.world = some (answer, world) := act.executed
    have allowed : Allowed thread.tag.config thread.tag.call (stage thread.history) op := act.before
    have grows := exec_charges_mono executed
    rcases charge_of_exec executed member with old | ⟨args, _, rfl⟩ | ⟨args, rfl, rfl⟩
    · rcases row_of_exec executed found with before | ⟨new, rfl, own, _⟩ | ⟨was, statement, rfl, before, change⟩
      · exact (repays.refunds old sign kind before).mono grows
      · obtain ⟨args, dw, id, _, at_, rfl⟩ := allowed.of_insert
        exact absurd own (filed.unrefunded act.found at_ old sign kind)
      · rw [change.kept.2.2.1]
        exact (repays.refunds old sign kind before).mono grows
    · cases kind
    · obtain ⟨owner, reason, owing, rfl⟩ := allowed.of_refund
      rw [(exec_refund executed).2.2.1] at found
      exact (repays.owed act.found act.alive owing found).mono grows
  owed := by
    intro other rival owner row found alive owing there
    have executed : exec op env system.world = some (answer, world) := act.executed
    have grows := exec_charges_mono executed
    rcases owed_row filed act found owing there with
      ⟨stood, old, before, network, _⟩ | ⟨tag, _, code, message, old, rfl, before, network⟩
    · rw [network]
      rcases stood with stood | ⟨_, tag, owed⟩
      · exact (repays.owed stood alive owing before).mono grows
      · rw [tag]
        exact (repays.owed act.found act.alive owed before).mono grows
    · rw [network, tag]
      exact (priced old before).mono grows
  failed := repays.act_failed filed sold act

end Step

theorem Repays.jobs {world : World} {calls : Nat → Option FleetThread} (jobs : List Job) (repays : Repays world calls) :
    Repays { world with jobs := jobs } calls := ⟨repays.refunds, repays.owed, repays.failed⟩

theorem Repays.move {system : FleetSystem} {event : Event Env Served} {world : World}
    {calls : Nat → Option FleetThread} (repays : Repays system.world system.calls)
    (filed : Filed system.world system.calls) (sold : Sold system.world system.calls) (fair : Fair system event)
    (move : fleet.Move served system event world calls) : Repays world calls := by
  cases move with
  | start tag opened free entered path =>
    rw [fleet_close_jobs, enter_jobs entered]
    refine Repays.jobs _ (Repays.jobs _ (repays.recalls _ _ ?_ ?_))
    · intro owner _ owing
      cases owing
    · intro row current thread _ found
      rw [free] at found
      cases found
  | step index env thread op answer rest opened act =>
    rw [fleet_close_jobs]
    exact (repays.act filed sold act (fair thread act.found op act.performs)).jobs _
  | cut index thread found running =>
    change Repays (leave thread.tag.call none system.world) _
    rw [leave_jobs]
    refine Repays.jobs _ (repays.recalls _ _ ?_ ?_)
    · intro owner alive
      cases alive
    · intro row current acting there same _ owing
      rw [found] at same
      cases same
      have absent := fair thread found row (by rw [owing]; rfl)
      rw [there] at absent
      cases absent

theorem repays_of_run {initial system : FleetSystem} (start : Initial (initial.retag Served.call))
    (run : fleet.Run Fair initial system) : Repays system.world system.calls := by
  have idle : initial.threads = [] := List.map_eq_nil_iff.mp start.threads
  have repays : Repays initial.world initial.calls := by
    refine ⟨?_, ?_, ?_⟩
    · intro refund row member sign
      exact absurd sign (start.charges refund member)
    · intro index thread owner row found
      simp [System.calls, idle] at found
    · intro id row found
      have absent : initial.world.signRequests.get id = none := start.request id
      rw [absent] at found
      cases found
  exact (run.tracked fleet_honours Repays (kept_start idle) repays (fun earlier repays fair move =>
    repays.move (filed_of_reaches start earlier) (sold_of_reaches start earlier) fair move)).2

/-! ### The statement -/

section Statement

variable {world : World} {calls : Nat → Option FleetThread} {row : SignRequest} {refund : BillingCharge}

/-- A refund of the cost repays its request. -/
theorem repaid_of_cost (filed : Filed world calls) (sold : Sold world calls)
    (there : world.signRequests.get row.id = some row) (member : refund ∈ world.ledger.charges)
    (op : refund.op = signKey row.network row.id) (kind : refund.kind = .refund)
    (cost : Cost world.ledger row.network row.id refund.creditsMicro) : Repaid world.ledger row := by
  obtain ⟨charge, charged, same, charges, amount⟩ := cost
  have debit := sold.debits charged (congrArg OpKey.opType same) charges
  have paid := MpcKit.Billing.creditsOf_of_mem filed.keys charged
  have back := MpcKit.Billing.creditsOf_of_mem filed.keys member
  rw [same, charges, amount] at paid
  rw [op, kind] at back
  refine ⟨⟨refund.creditsMicro, by omega, paid, back⟩, ?_⟩
  intro entry posted own
  have id : entry.opId = row.id := congrArg OpKey.opId own
  exact sold.users posted (congrArg OpKey.opType own) (id ▸ there)

/-- What repaid a request was its cost. -/
theorem cost_of_repaid (filed : Filed world calls) (there : world.signRequests.get row.id = some row)
    (member : refund ∈ world.ledger.charges) (op : refund.op = signKey row.network row.id)
    (kind : refund.kind = .refund) (repaid : Repaid world.ledger row) :
    ∃ charge ∈ world.ledger.charges, charge.op = signKey row.network row.id ∧ charge.kind = .charge ∧
      charge.creditsMicro = -refund.creditsMicro := by
  obtain ⟨⟨amount, _, paid, back⟩, _⟩ := repaid
  obtain ⟨charge, charged, same, charges⟩ := filed.charged there
  have once := MpcKit.Billing.creditsOf_of_mem filed.keys charged
  have again := MpcKit.Billing.creditsOf_of_mem filed.keys member
  rw [same, charges, paid, List.singleton_inj] at once
  rw [op, kind, back, List.singleton_inj] at again
  exact ⟨charge, charged, same, charges, by rw [← once, again]⟩

end Statement

/-- A call that owes the refund of a request that exists is still running. -/
theorem running_of_owed {system : FleetSystem} {index : Nat} {thread : FleetThread} {owner row : SignRequest}
    (kept : Machine.Kept served system) (sold : Sold system.world system.calls)
    (repays : Repays system.world system.calls) (found : system.calls index = some thread) (alive : thread.cut = false)
    (owing : stage thread.history = .owing owner) (there : system.world.signRequests.get owner.id = some row) :
    thread.Running := by
  refine ⟨alive, ?_⟩
  obtain ⟨charge, member, op, kind, amount⟩ := repays.owed found alive owing there
  have debit := sold.debits member (congrArg OpKey.opType op) kind
  have unended : ∀ result, ¬Ended thread.tag.config (.owing owner) thread.tag.call result := by
    intro result ended
    have free : thread.tag.config.signPriceMicro = 0 := ended.rests
    omega
  have path := kept index thread found
  cases program : thread.program with
  | await op next => rfl
  | ret value =>
    rw [program] at path
    exact absurd (owing ▸ path : Ended thread.tag.config (.owing owner) thread.tag.call (.ok value)) (unended _)
  | raise error =>
    rw [program] at path
    exact absurd (owing ▸ path : Ended thread.tag.config (.owing owner) thread.tag.call (.error error)) (unended _)

/-- The first refund of a request repays it when the price is its cost, and only then. -/
theorem repaid_iff_cost {system : FleetSystem} {index : Nat} {env : Env} {thread : FleetThread} {refund : RefundArgs}
    {result : Except Thrown BillingCharge} {rest : Prog Reply} {world : World} {row : SignRequest}
    (filed : Filed system.world system.calls) (sold : Sold system.world system.calls)
    (act : fleet.Act served system index env thread (.ledger (.refund refund)) result rest world)
    (there : system.world.signRequests.get refund.opId = some row)
    (unrefunded : ¬Refunded system.world.ledger row.network row.id) :
    Repaid world.ledger row ↔ Cost system.world.ledger row.network row.id thread.tag.config.signPriceMicro := by
  have executed : exec (.ledger (.refund refund)) env system.world = some (result, world) := act.executed
  have allowed : Allowed thread.tag.config thread.tag.call (stage thread.history) (.ledger (.refund refund)) := act.before
  obtain ⟨owner, reason, owing, rfl⟩ := allowed.of_refund
  obtain ⟨_, ledger, requests, _⟩ := exec_refund executed
  have own : row.id = owner.id := Table.key_of_get there
  have network := (sold.owner act.found owing there).1
  have after : world.signRequests.get row.id = some row := by
    rw [requests, own]
    exact there
  have filedAfter := filed.act act
  have soldAfter := sold.act filed act
  rcases system.world.ledger.refund_first ⟨owner.userId, owner.network, "sign", owner.id,
    thread.tag.config.signPriceMicro, reason⟩ system.world.nextId with same | ⟨_, more⟩
  · -- Nothing was posted, so there is no refund, and the price is not the cost.
    rw [← ledger] at same
    constructor
    · rintro ⟨⟨amount, _, _, back⟩, _⟩
      rw [same, credits_of_not_refunded unrefunded] at back
      cases back
    · intro cost
      have refunded := refunded_of_cost filed sold act owing (by rw [← network, ← own]; exact cost)
      rw [same, ← network, ← own] at refunded
      exact absurd refunded unrefunded
  · rw [← ledger] at more
    have posted : (RefundArgs.newRefund ⟨owner.userId, owner.network, "sign", owner.id,
        thread.tag.config.signPriceMicro, reason⟩).row system.world.nextId ∈ world.ledger.charges := by
      rw [more]
      exact List.mem_append_right _ (List.mem_singleton_self _)
    have key : signKey owner.network owner.id = signKey row.network row.id := by rw [network, own]
    constructor
    · intro repaid
      obtain ⟨charge, member, op, kind, amount⟩ := cost_of_repaid filedAfter after posted key rfl repaid
      rw [more] at member
      rcases List.mem_append.mp member with old | new
      · exact ⟨charge, old, op, kind, amount⟩
      · rw [List.mem_singleton.mp new] at kind
        cases kind
    · intro cost
      exact repaid_of_cost filedAfter soldAfter after posted key rfl (cost.mono (exec_charges_mono executed))

def sampleFleet : FleetSystem := ⟨sampleStart.world, []⟩

/-- One process prepares a request that is never submitted; the sweep of another lets it expire. -/
def repricedEvents (charged failing : Nat) : List (Event Env Served) :=
  .start ⟨⟨charged, 5⟩, samplePrepare "first" [7]⟩ :: List.replicate 13 (.step 0 calm) ++
  .start ⟨⟨failing, 5⟩, .sweepStuckPrepared 300⟩ :: List.replicate 6 (.step 1 later)

end MpcKit.Sign
