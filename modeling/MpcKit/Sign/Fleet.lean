import MpcKit.Sign.Agreement

/-! The same services on several processes, each with its own configuration. The price a request
is charged is the one of the process that prepares it; the refund of a failed request is computed
by the process that fails it. -/

namespace MpcKit.Sign
open MpcKit.Backend MpcKit.Async
open MpcKit.Billing (Ledger OpKey BillingCharge ChargeKind ChargeArgs RefundArgs)

/-- A call and the configuration of the process that serves it. -/
structure Served where
  config : Config
  call : Call

def fleet : Machine Op Res Env World Served Thrown Reply where
  exec := fun _ => exec
  program served := program served.config served.call
  enter served := enter served.call
  leave := fun _ served => leave served.call

abbrev FleetSystem := System Op Res World Served Thrown Reply
abbrev FleetThread := Thread Op Res Served Thrown Reply

/-- Each call keeps the contract of its own process. -/
def served (call : Served) : Contract Op Res Thrown Reply := contract call.config call.call

theorem fleet_honours : fleet.Honours served where
  programs call := (honours call.config).programs call.call
  answers := by
    intro index op env world answer after executed call
    exact answers_exec executed

theorem kept_start {initial : FleetSystem} (idle : initial.threads = []) : Machine.Kept served initial := by
  intro index thread found
  rw [idle] at found
  cases found

/-! ### The books without the amounts

Which rows the ledger has does not depend on the prices, so at a price of one credit the books
of a fleet are those of a single process. -/

def unitPrice : Config := ⟨1, 0⟩

/-- A row for signing as it would be at the unit price. -/
def level (charge : BillingCharge) : BillingCharge :=
  if charge.opType = "sign" then { charge with creditsMicro := signAmount unitPrice charge.kind } else charge

def World.level (world : World) : World :=
  { world with ledger := { world.ledger with charges := world.ledger.charges.map Sign.level } }

/-- The calls, whoever serves them. -/
def unserved (calls : Nat → Option FleetThread) (index : Nat) : Option SignThread :=
  (calls index).map (Thread.retag Served.call)

/-- The ledger rows, the requests and the calls of a fleet fit together. -/
def Filed (world : World) (calls : Nat → Option FleetThread) : Prop :=
  Books unitPrice world.level (unserved calls)

@[simp] theorem level_opType (charge : BillingCharge) : (level charge).opType = charge.opType := by
  unfold level
  split <;> rfl

@[simp] theorem level_opId (charge : BillingCharge) : (level charge).opId = charge.opId := by
  unfold level
  split <;> rfl

@[simp] theorem level_network (charge : BillingCharge) : (level charge).network = charge.network := by
  unfold level
  split <;> rfl

@[simp] theorem level_kind (charge : BillingCharge) : (level charge).kind = charge.kind := by
  unfold level
  split <;> rfl

@[simp] theorem level_op (charge : BillingCharge) : (level charge).op = charge.op := by
  simp [BillingCharge.op]

@[simp] theorem level_key (charge : BillingCharge) : (level charge).key = charge.key := by
  simp [BillingCharge.key]

theorem level_amount {charge : BillingCharge} (sign : charge.opType = "sign") :
    (level charge).creditsMicro = signAmount unitPrice charge.kind := by
  simp [level, sign]

theorem mem_level {world : World} {charge : BillingCharge} (member : charge ∈ world.ledger.charges) :
    level charge ∈ world.level.ledger.charges := List.mem_map_of_mem member

theorem unserved_update (calls : Nat → Option FleetThread) (index : Nat) (replaced : FleetThread) :
    unserved (Function.update calls index (some replaced)) =
      Function.update (unserved calls) index (some (replaced.retag Served.call)) :=
  Machine.map_update_calls Served.call calls index replaced

theorem unserved_of_found {calls : Nat → Option FleetThread} {index : Nat} {thread : FleetThread}
    (found : calls index = some thread) : unserved calls index = some (thread.retag Served.call) := by
  simp [unserved, found]

/-! ### What the books of a fleet say -/

namespace Filed

variable {world : World} {calls : Nat → Option FleetThread} {index : Nat} {thread : FleetThread}

theorem keys (filed : Filed world calls) : (world.ledger.charges.map BillingCharge.key).Nodup := by
  have nodup : ((world.ledger.charges.map level).map BillingCharge.key).Nodup := Books.keys filed
  rw [List.map_map] at nodup
  have same : BillingCharge.key ∘ level = BillingCharge.key := funext level_key
  rwa [same] at nodup

theorem charged (filed : Filed world calls) {id : Uuid} {row : SignRequest}
    (found : world.signRequests.get id = some row) :
    ∃ charge ∈ world.ledger.charges, charge.op = signKey row.network id ∧ charge.kind = .charge := by
  obtain ⟨_, _, levelled, member, op, kind⟩ := Books.rows filed found
  obtain ⟨charge, there, rfl⟩ := List.mem_map.mp member
  exact ⟨charge, there, by simpa using op, by simpa using kind⟩

/-- Nobody has a row under an identifier that was just drawn. -/
theorem drawn (filed : Filed world calls) (found : calls index = some thread) {id : Uuid}
    (fresh : (stage thread.history).fresh = some id) : world.signRequests.get id = none :=
  (Books.drawn filed (unserved_of_found found) fresh).2

theorem single (filed : Filed world calls) {other : Nat} {rival : FleetThread} {id : Uuid}
    (found : calls index = some thread) (there : calls other = some rival)
    (fresh : (stage thread.history).fresh = some id) (again : (stage rival.history).fresh = some id) : index = other :=
  Books.single filed (unserved_of_found found) (unserved_of_found there) fresh again

theorem unbilled (filed : Filed world calls) (found : calls index = some thread) {dw : DWallet} {id : Uuid}
    (at_ : stage thread.history = .drawn dw id) {charge : BillingCharge} (member : charge ∈ world.ledger.charges)
    (sign : charge.opType = "sign") : charge.opId ≠ id := by
  have apart := Books.unbilled filed (unserved_of_found found) at_ _ (mem_level member) (by simpa using sign)
  simpa using apart

theorem unrefunded (filed : Filed world calls) (found : calls index = some thread) {dw : DWallet} {id : Uuid}
    (at_ : stage thread.history = .charged dw id) {refund : BillingCharge} (member : refund ∈ world.ledger.charges)
    (sign : refund.opType = "sign") (kind : refund.kind = .refund) : refund.opId ≠ id := by
  have apart := (Books.billed filed (unserved_of_found found) at_).2 _ (mem_level member) (by simpa using sign)
    (by simpa using kind)
  simpa using apart

/-- What a call has paid for is nobody's fresh identifier. -/
theorem apart (filed : Filed world calls) (found : calls index = some thread) {row : SignRequest}
    (paid : (stage thread.history).paid = some row) {other : Nat} {rival : FleetThread}
    (there : calls other = some rival) : (stage rival.history).fresh ≠ some row.id :=
  (Books.paid filed (unserved_of_found found) paid).2.2 (unserved_of_found there)

end Filed

/-! ### Every step keeps them -/

section Step

variable {world after : World} {calls : Nat → Option FleetThread} {index : Nat}

theorem Filed.recalls (filed : Filed world calls) (charges : after.ledger.charges = world.ledger.charges)
    (nextId : world.nextId ≤ after.nextId)
    (old : ∀ {id row}, after.signRequests.get id = some row →
      ∃ before, world.signRequests.get id = some before ∧ before.network = row.network)
    (index : Nat) (replaced : FleetThread)
    (fresh : ∀ id, (stage replaced.history).fresh = some id → ∃ thread, calls index = some thread ∧
      thread.tag.call = replaced.tag.call ∧ stage thread.history = stage replaced.history)
    (paid : ∀ row, (stage replaced.history).paid = some row →
      (∃ thread, calls index = some thread ∧ (stage thread.history).paid = some row) ∨
        ∃ current, world.signRequests.get row.id = some current ∧ current.network = row.network) :
    Filed after (Function.update calls index (some replaced)) := by
  unfold Filed
  rw [unserved_update]
  have levelled : after.level.ledger.charges = world.level.ledger.charges := by simp only [World.level, charges]
  refine Books.recalls filed levelled nextId old index _ ?_ ?_
  · intro id drawn
    obtain ⟨thread, found, tag, same⟩ := fresh id drawn
    exact ⟨_, unserved_of_found found, tag, same⟩
  · intro row owed
    rcases paid row owed with ⟨thread, found, before⟩ | there
    · exact .inl ⟨_, unserved_of_found found, before⟩
    · exact .inr there

theorem Filed.append (filed : Filed world calls) {row : BillingCharge} {replaced : FleetThread}
    (charges : after.ledger.charges = world.ledger.charges ++ [row]) (requests : after.signRequests = world.signRequests)
    (nextId : world.nextId ≤ after.nextId) (absent : world.ledger.findCharge row.op row.kind = none)
    (sign : row.opType = "sign") (known : row.opId < world.nextId)
    (network : ∀ charge ∈ world.ledger.charges, charge.opType = "sign" → charge.opId = row.opId →
      charge.network = row.network)
    (others : ∀ {other rival}, other ≠ index → calls other = some rival → (stage rival.history).fresh ≠ some row.opId)
    (fresh : ∀ id, (stage replaced.history).fresh = some id → ∃ args dw, replaced.tag.call = .prepare args ∧
      row.op = signKey args.network id ∧ row.kind = .charge ∧ stage replaced.history = .charged dw id ∧
      ∃ thread, calls index = some thread ∧ stage thread.history = .drawn dw id)
    (paid : (stage replaced.history).paid = none) :
    Filed after (Function.update calls index (some replaced)) := by
  unfold Filed
  rw [unserved_update]
  have levelled : after.level.ledger.charges = world.level.ledger.charges ++ [level row] := by
    simp only [World.level, charges, List.map_append, List.map_cons, List.map_nil]
  have bound : (level row).opId < world.nextId := by simpa using known
  refine Books.append filed levelled requests nextId ?_ bound ?_ ?_ ?_ ?_ paid
  · apply Ledger.findCharge_eq_none
    intro levelled member same
    obtain ⟨charge, there, rfl⟩ := List.mem_map.mp member
    exact Ledger.key_of_findCharge_eq_none absent charge there (by simpa using same)
  · rw [level_amount sign, level_kind]
  · intro levelled member also same
    obtain ⟨charge, there, rfl⟩ := List.mem_map.mp member
    simpa using network charge there (by simpa using also) (by simpa using same)
  · intro other rival apart there
    obtain ⟨thread, found, rfl⟩ := Option.map_eq_some_iff.mp there
    rw [level_opId]
    exact others apart found
  · intro id drawn
    obtain ⟨args, dw, tag, op, kind, charged, thread, found, was⟩ := fresh id drawn
    exact ⟨args, dw, tag, by decide, by simpa using op, by simpa using kind, charged, _, unserved_of_found found, was⟩

variable {system : FleetSystem} {env : Env} {thread : FleetThread} {rest : Prog Reply}

theorem Filed.charge {charge : ChargeArgs} {result : Except Thrown BillingCharge}
    (filed : Filed system.world system.calls)
    (act : fleet.Act served system index env thread (.ledger (.charge charge)) result rest after) :
    Filed after (Function.update system.calls index (some (thread.resume ⟨.ledger (.charge charge), result⟩ rest))) := by
  have executed : exec (.ledger (.charge charge)) env system.world = some (result, after) := act.executed
  have allowed : Allowed thread.tag.config thread.tag.call (stage thread.history) (.ledger (.charge charge)) := act.before
  obtain ⟨args, dw, id, reason, tag, at_, positive, rfl⟩ := allowed.of_charge
  obtain ⟨answered, ledger, requests, nextId⟩ := exec_charge executed
  have moved : stage (thread.resume ⟨.ledger (.charge ⟨args.userId, args.network, "sign", id,
      thread.tag.config.signPriceMicro, reason⟩), result⟩ rest).history = (Stage.drawn dw id).charges result := by
    rw [← at_]
    rfl
  have fresh : (stage thread.history).fresh = some id := by
    rw [at_]
    rfl
  cases result with
  | error error =>
    refine filed.recalls ?_ nextId (fun there => ⟨_, requests ▸ there, rfl⟩) index _ ?_ ?_
    · rw [ledger, Ledger.charge_error answered.symm]
    · intro id fresh
      rw [moved] at fresh
      cases fresh
    · intro row paid
      rw [moved] at paid
      cases paid
  | ok row =>
    have absent : system.world.ledger.findCharge (signKey args.network id) .charge = none :=
      findCharge_sign (fun charge member sign _ => filed.unbilled act.found at_ member sign)
    have charges := Ledger.charge_ok absent answered.symm
    rw [← ledger] at charges
    have bound : id < system.world.nextId := (Books.drawn filed (unserved_of_found act.found) fresh).1
    refine filed.append charges requests nextId absent rfl bound ?_ ?_ ?_ ?_
    · intro charge member sign same
      exact absurd same (filed.unbilled act.found at_ member sign)
    · intro other rival apart there drawn
      exact apart (filed.single there act.found drawn fresh)
    · intro drawn has
      rw [moved] at has
      cases has
      exact ⟨args, dw, tag, rfl, rfl, moved, thread, act.found, at_⟩
    · rw [moved]
      rfl

theorem Filed.refund {refund : RefundArgs} {result : Except Thrown BillingCharge}
    (filed : Filed system.world system.calls)
    (act : fleet.Act served system index env thread (.ledger (.refund refund)) result rest after) :
    Filed after (Function.update system.calls index (some (thread.resume ⟨.ledger (.refund refund), result⟩ rest))) := by
  have executed : exec (.ledger (.refund refund)) env system.world = some (result, after) := act.executed
  have allowed : Allowed thread.tag.config thread.tag.call (stage thread.history) (.ledger (.refund refund)) := act.before
  obtain ⟨row, reason, at_, rfl⟩ := allowed.of_refund
  obtain ⟨_, ledger, requests, nextId⟩ := exec_refund executed
  have paid : (stage (thread.retag Served.call).history).paid = some row := by
    change (stage thread.history).paid = some row
    rw [at_]
    rfl
  obtain ⟨bound, charged, _⟩ := Books.paid filed (unserved_of_found act.found) paid
  rcases system.world.ledger.refund_first ⟨row.userId, row.network, "sign", row.id,
    thread.tag.config.signPriceMicro, reason⟩ system.world.nextId with same | ⟨absent, more⟩
  · refine filed.recalls ?_ nextId (fun there => ⟨_, requests ▸ there, rfl⟩) index _ ?_ ?_
    · rw [ledger, same]
    · intro id fresh
      cases fresh
    · intro row paid
      cases paid
  · rw [← ledger] at more
    refine filed.append more requests nextId absent rfl bound ?_ (fun _ there => filed.apart act.found paid there) ?_ rfl
    · intro other there also same
      have own : other.opId = row.id := same
      have network := Books.network filed (mem_level there) (by simpa using also) charged (by simpa using own)
      rw [level_network] at network
      exact network
    · intro id fresh
      cases fresh

theorem Filed.insert {new : NewSignRequest} {result : Except Thrown SignRequest}
    (filed : Filed system.world system.calls)
    (act : fleet.Act served system index env thread (.sign (.insert new)) result rest after) :
    Filed after (Function.update system.calls index (some (thread.resume ⟨.sign (.insert new), result⟩ rest))) := by
  have executed : exec (.sign (.insert new)) env system.world = some (result, after) := act.executed
  have allowed : Allowed thread.tag.config thread.tag.call (stage thread.history) (.sign (.insert new)) := act.before
  obtain ⟨args, dw, id, tag, at_, rfl⟩ := allowed.of_insert
  have moved : stage (thread.resume ⟨.sign (.insert (args.newRequest dw id)), result⟩ rest).history =
      (Stage.charged dw id).inserts result := by
    rw [← at_]
    rfl
  rcases exec_insert executed with ⟨error, rfl, rfl, _⟩ | ⟨rfl, _, table, done, rfl⟩
  · refine filed.recalls rfl (Nat.le_refl _) (fun there => ⟨_, there, rfl⟩) index _ ?_ ?_
    · intro id fresh
      rw [moved] at fresh
      cases fresh
    · intro row paid
      rw [moved] at paid
      cases paid
  · unfold Filed
    rw [unserved_update]
    refine Books.insert filed (unserved_of_found act.found) tag at_ moved rfl rfl rfl rfl ?_
    intro other request there
    change table.get other = some request at there
    rw [Table.get_insert done] at there
    split at there
    next same =>
      cases there
      exact .inr ⟨same, rfl⟩
    · exact .inl there

theorem Filed.act {op : Op} {answer : Res op} (filed : Filed system.world system.calls)
    (act : fleet.Act served system index env thread op answer rest after) :
    Filed after (Function.update system.calls index (some (thread.resume ⟨op, answer⟩ rest))) := by
  have executed : exec op env system.world = some (answer, after) := act.executed
  have allowed : Allowed thread.tag.config thread.tag.call (stage thread.history) op := act.before
  have found := act.found
  by_cases charging : ∃ args, op = .ledger (.charge args)
  · obtain ⟨charge, rfl⟩ := charging
    exact filed.charge act
  by_cases refunding : ∃ args, op = .ledger (.refund args)
  · obtain ⟨refund, rfl⟩ := refunding
    exact filed.refund act
  by_cases inserting : ∃ new, op = .sign (.insert new)
  · obtain ⟨new, rfl⟩ := inserting
    exact filed.insert act
  by_cases drawing : op = .randomUUID
  · subst drawing
    obtain ⟨args, dw, _, at_⟩ := allowed.of_randomUUID
    cases executed
    unfold Filed
    rw [unserved_update]
    refine Books.draw filed dw ?_
    change (stage thread.history).next .randomUUID _ = _
    rw [at_]
    rfl
  have charges : after.ledger.charges = system.world.ledger.charges :=
    (exec_charges executed).resolve_right (by rintro (there | there); exacts [charging there, refunding there])
  refine filed.recalls charges (exec_nextId executed) ?_ index _ ?_ ?_
  · intro id row there
    obtain ⟨old, before, rfl | ⟨statement, _, change⟩⟩ :=
      old_row_of_exec executed (fun new same => inserting ⟨new, same⟩) there
    · exact ⟨row, before, rfl⟩
    · exact ⟨old, before, change.kept.2.2.1.symm⟩
  · intro id fresh
    rcases (allowed.moved answer).fresh fresh with same | same | same
    · exact ⟨thread, found, rfl, same⟩
    · exact absurd same drawing
    · exact absurd same charging
  · intro row paid
    rcases (allowed.moved answer).paid paid with same | same | ⟨id, code, message, same⟩
    · exact .inl ⟨thread, found, same⟩
    · exact absurd same inserting
    · cases same
      obtain ⟨own, _, _, old, before, rfl⟩ := failed_row executed
      exact .inr ⟨old, own ▸ before, rfl⟩

end Step

theorem fleet_close_jobs (index : Nat) (tag : Served) (program : Prog Reply) (world : World) :
    fleet.close index tag program world = { world with jobs := (fleet.close index tag program world).jobs } :=
  close_jobs tag.config index tag.call program world

theorem Filed.jobs {world : World} {calls : Nat → Option FleetThread} (jobs : List Job) (filed : Filed world calls) :
    Filed { world with jobs := jobs } calls := Books.jobs jobs filed

theorem Filed.move {system : FleetSystem} {event : Event Env Served} {world : World}
    {calls : Nat → Option FleetThread} (filed : Filed system.world system.calls)
    (move : fleet.Move served system event world calls) : Filed world calls := by
  cases move with
  | start tag opened free entered path =>
    rw [fleet_close_jobs, enter_jobs entered]
    refine Filed.jobs _ (Filed.jobs _ (filed.recalls rfl (Nat.le_refl _) (fun there => ⟨_, there, rfl⟩) _ _ ?_ ?_))
    · intro id fresh
      cases fresh
    · intro row paid
      cases paid
  | step index env thread op answer rest opened act =>
    rw [fleet_close_jobs]
    exact (filed.act act).jobs _
  | cut index thread found running =>
    change Filed (leave thread.tag.call none system.world) _
    rw [leave_jobs]
    refine Filed.jobs _ (filed.recalls rfl (Nat.le_refl _) (fun there => ⟨_, there, rfl⟩) _ _ ?_ ?_)
    · intro id fresh
      exact ⟨thread, found, rfl, rfl⟩
    · intro row paid
      exact .inl ⟨thread, found, paid⟩

theorem filed_of_reaches {initial system : FleetSystem} (start : Initial (initial.retag Served.call))
    (reached : fleet.Reaches initial system) : Filed system.world system.calls := by
  have idle : initial.threads = [] := List.map_eq_nil_iff.mp start.threads
  -- The levelled start is the start of a single process.
  have levelled : Initial (⟨initial.world.level, []⟩ : SignSystem) := by
    refine ⟨rfl, start.requests, start.jobs, ?_, ?_, start.caps, start.presigns, start.consumed⟩
    · change ((initial.world.ledger.charges.map level).map BillingCharge.key).Nodup
      rw [List.map_map, show BillingCharge.key ∘ level = BillingCharge.key from funext level_key]
      exact start.keys
    · intro charge member
      obtain ⟨before, there, rfl⟩ := List.mem_map.mp member
      rw [level_opType]
      exact start.charges before there
  have filed : Filed initial.world initial.calls := by
    have books : Books unitPrice initial.world.level (System.calls (⟨initial.world.level, []⟩ : SignSystem)) :=
      books_of_reaches levelled .refl
    have nobody : unserved initial.calls = System.calls (⟨initial.world.level, []⟩ : SignSystem) := by
      funext index
      simp [unserved, System.calls, idle]
    unfold Filed
    rw [nobody]
    exact books
  exact (reached.tracked fleet_honours Filed (kept_start idle) filed (fun _ filed _ move => filed.move move)).2

end MpcKit.Sign
