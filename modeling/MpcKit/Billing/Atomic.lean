import MpcKit.Billing.Properties

/-! Charges and refunds as single steps of the ledger. Every commit of a charge or refund
call is such a step at the moment it commits, so the rest of the backend may treat each of
the two transactions as atomic. -/

namespace MpcKit.Billing
open MpcKit.Backend MpcKit.Async

namespace Ledger

/-- `getOrCreateAccount`: an account that was never opened is opened with no credits. -/
def openAccount (ledger : Ledger) (userId : Uuid) (network : String) (id : Uuid) : Ledger :=
  match ledger.findAccount userId network with
  | some _ => ledger
  | none => { ledger with accounts := ledger.accounts ++ [⟨id, userId, network, 0, none⟩] }

def findCharge (ledger : Ledger) (op : OpKey) (kind : ChargeKind) : Option BillingCharge :=
  ledger.charges.find? (fun row => row.op = op ∧ row.kind = kind)

/-- The sum of an operation's rows of one kind. -/
def creditsOf (ledger : Ledger) (op : OpKey) (kind : ChargeKind) : List Int :=
  (ledger.charges.filter (fun row => row.op = op ∧ row.kind = kind)).map BillingCharge.creditsMicro

/-- The transaction of `charge`. -/
def charge (ledger : Ledger) (args : ChargeArgs) (id : Uuid) : Except Thrown BillingCharge × Ledger :=
  match ledger.findCharge args.op .charge with
  | some existing => (.ok existing, ledger)
  | none => match ledger.findAccount args.userId args.network with
      | none => (.error (.app (errors.notFound "billing account not found" "BILLING_ACCOUNT_NOT_FOUND")), ledger)
      | some account =>
          let creditsMicro := account.creditsMicro
          if creditsMicro < args.amountMicro then
            (.error (.app (errors.paymentRequired
              s!"insufficient credits: have {creditsMicro}, need {args.amountMicro}" "INSUFFICIENT_CREDITS")), ledger)
          else (.ok (args.newCharge.row id),
            ledger.post ⟨[⟨args.userId, args.network, -args.amountMicro⟩], [args.newCharge.row id], []⟩)

/-- The transaction of `refund`. -/
def refund (ledger : Ledger) (args : RefundArgs) (id : Uuid) : Except Thrown BillingCharge × Ledger :=
  match ledger.findCharge args.op .refund with
  | some existing => (.ok existing, ledger)
  | none =>
      let chargedTotal := ((ledger.creditsOf args.op .charge).map (fun creditsMicro => -creditsMicro)).sum
      if chargedTotal = 0 then
        (.error (.app (errors.unprocessable
          s!"refund has no matching charge for op {args.opType}/{args.opId} on {args.network}"
          "REFUND_NO_MATCHING_CHARGE")), ledger)
      else
        let priorRefunded := (ledger.creditsOf args.op .refund).sum
        let maxRefundable := chargedTotal - priorRefunded
        if args.amountMicro > maxRefundable then
          (.error (.app (errors.unprocessable
            s!"refund {args.amountMicro} exceeds max refundable {maxRefundable} (charged {chargedTotal}, prior refunded {priorRefunded})"
            "REFUND_EXCEEDS_CHARGE")), ledger)
        else (.ok (args.newRefund.row id),
          ledger.post ⟨[⟨args.userId, args.network, args.amountMicro⟩], [args.newRefund.row id], []⟩)

theorem findCharge_eq_none {ledger : Ledger} {op : OpKey} {kind : ChargeKind}
    (fresh : ∀ row ∈ ledger.charges, row.key ≠ (op, kind)) : ledger.findCharge op kind = none := by
  rw [findCharge, List.find?_eq_none]
  intro row member
  have apart := fresh row member
  simpa [BillingCharge.key] using apart

end Ledger

theorem Linked.findAccount {store : Store} {past : Nat → Past} (linked : Linked store past) {slot : AccountSlot}
    {userId : Uuid} {network : String} (member : slot ∈ store.accounts) (own : slot.Is userId network) :
    store.view.findAccount userId network = some slot.row := by
  cases found : store.view.findAccount userId network with
  | none =>
    have absent := List.find?_eq_none.mp found slot.row (List.mem_map_of_mem member)
    simp [own.1, own.2] at absent
  | some other =>
    obtain ⟨otherSlot, there, rfl⟩ := List.mem_map.mp (List.mem_of_find?_eq_some found)
    rw [linked.unique there member (Ledger.findAccount_owner found) own]

/-- The row a commit posts was checked when it was written and is still open. -/
theorem Linked.written {store : Store} {past : Nat → Past} (linked : Linked store past) {index : Nat}
    {row : BillingCharge} (written : row ∈ (posting (past index)).charges) :
    Sound store row ∧ store.view.findCharge row.op row.kind = none := by
  refine ⟨?_, Ledger.findCharge_eq_none (linked.fresh written)⟩
  rw [← linked.charges] at written
  obtain ⟨entry, member, rfl⟩ := List.mem_map.mp written
  exact linked.sound entry (List.mem_of_mem_filter member)

/-- The commit of a charge call is one atomic charge of the ledger it commits into. -/
theorem charge_commit_atomic {config : Config} {before after : BillingSystem} {index : Nat} {env : Env}
    {args : ChargeArgs} {thread : Thread Op Res Call Thrown Reply}
    (reached : (machine config).Reaches start before)
    (stepped : (machine config).next before (.step index env) = some after)
    (found : before.threads[index]? = some thread) (call : thread.tag = .charge args)
    (moved : ¬before.world.view.SameBooks after.world.view) :
    ∃ id, before.world.view.charge args id = (.ok (args.newCharge.row id), after.world.view) := by
  obtain ⟨kept, sane⟩ := reached_sane reached
  obtain ⟨acting, later, here, _, _, _, committable, touched, history, posted⟩ := moved_by_commit sane kept stepped moved
  rw [found] at here
  cases here
  have writes := committable.writes
  rw [call] at writes
  rcases writes with none | ⟨id, written⟩
  · exact absurd none touched
  refine ⟨id, ?_⟩
  have row : args.newCharge.row id ∈ (posting (before.past index)).charges := by
    rw [history, written]
    exact List.mem_singleton_self _
  obtain ⟨sound, fresh⟩ := sane.linked.written row
  have positive : -args.amountMicro < 0 := sound.debit rfl
  -- The debit is below zero, so it was made under a lock that showed enough credits.
  have funded := committable.funded args.userId args.network
  rw [written, total_singleton, if_pos ⟨rfl, rfl⟩] at funded
  rcases funded with raised | ⟨creditsMicro, seen, enough⟩
  · exact absurd raised (by simpa [Movement.delta] using positive)
  · rw [← history] at seen
    obtain ⟨slot, member, own, _, shown⟩ := sane.linked.shown index _ seen
    have account := sane.linked.findAccount member own
    have sufficient : ¬slot.row.creditsMicro < args.amountMicro := by
      rw [show slot.row.creditsMicro = creditsMicro from shown]
      simp only [Movement.delta] at enough
      omega
    have missing : before.world.view.findCharge args.op .charge = none := fresh
    simp only [Ledger.charge, missing, account, if_neg sufficient, posted, written]

theorem creditsOf_of_mem {ledger : Ledger} {row : BillingCharge} (keys : (ledger.charges.map BillingCharge.key).Nodup)
    (member : row ∈ ledger.charges) : ledger.creditsOf row.op row.kind = [row.creditsMicro] := by
  have inside : row ∈ ledger.charges.filter (fun other => other.op = row.op ∧ other.kind = row.kind) := by
    simp [member]
  have single := length_filter_le_one keys (row.op, row.kind)
    (fun other => decide (other.op = row.op ∧ other.kind = row.kind)) (by simp [BillingCharge.key])
  rw [Ledger.creditsOf]
  cases found : ledger.charges.filter (fun other => other.op = row.op ∧ other.kind = row.kind) with
  | nil =>
    rw [found] at inside
    cases inside
  | cons first others =>
    rw [found] at single inside
    have alone : others = [] := by
      apply List.eq_nil_of_length_eq_zero
      rw [List.length_cons] at single
      omega
    rw [alone, List.mem_singleton] at inside
    rw [alone, inside]
    rfl

theorem creditsOf_eq_nil {ledger : Ledger} {op : OpKey} {kind : ChargeKind} (absent : ledger.findCharge op kind = none) :
    ledger.creditsOf op kind = [] := by
  rw [Ledger.findCharge, List.find?_eq_none] at absent
  rw [Ledger.creditsOf, List.map_eq_nil_iff, List.filter_eq_nil_iff]
  exact absent

/-- The commit of a refund call is one atomic refund of the ledger it commits into. -/
theorem refund_commit_atomic {config : Config} {before after : BillingSystem} {index : Nat} {env : Env}
    {args : RefundArgs} {thread : Thread Op Res Call Thrown Reply}
    (reached : (machine config).Reaches start before)
    (stepped : (machine config).next before (.step index env) = some after)
    (found : before.threads[index]? = some thread) (call : thread.tag = .refund args)
    (moved : ¬before.world.view.SameBooks after.world.view) :
    ∃ id, before.world.view.refund args id = (.ok (args.newRefund.row id), after.world.view) := by
  obtain ⟨kept, sane⟩ := reached_sane reached
  obtain ⟨acting, later, here, _, _, _, committable, touched, history, posted⟩ := moved_by_commit sane kept stepped moved
  rw [found] at here
  cases here
  have writes := committable.writes
  rw [call] at writes
  rcases writes with none | ⟨id, written⟩
  · exact absurd none touched
  refine ⟨id, ?_⟩
  have row : args.newRefund.row id ∈ (posting (before.past index)).charges := by
    rw [history, written]
    exact List.mem_singleton_self _
  obtain ⟨sound, fresh⟩ := sane.linked.written row
  have missing : before.world.view.findCharge args.op .refund = none := fresh
  obtain ⟨positive, charged, member, op, kind, bound⟩ := sound.credit rfl
  have charge : before.world.view.creditsOf args.op .charge = [charged.creditsMicro] := by
    rw [← show charged.op = args.op from op, ← kind]
    exact creditsOf_of_mem sane.linked.committed_keys member
  have within : args.amountMicro ≤ -charged.creditsMicro := bound
  have amount : 0 < args.amountMicro := positive
  have nonzero : ¬-charged.creditsMicro = 0 := by omega
  simp only [Ledger.refund, missing, charge, creditsOf_eq_nil missing, List.map_cons, List.map_nil, List.sum_cons,
    List.sum_nil, Int.add_zero, Int.sub_zero, if_neg nonzero, if_neg (Int.not_lt.mpr within), posted, written,
    gt_iff_lt]

/-! ### What the atomic steps do to the rows -/

namespace Ledger

theorem openAccount_charges (ledger : Ledger) (userId : Uuid) (network : String) (id : Uuid) :
    (ledger.openAccount userId network id).charges = ledger.charges := by
  unfold openAccount
  split <;> rfl

theorem mem_of_findCharge {ledger : Ledger} {op : OpKey} {kind : ChargeKind} {row : BillingCharge}
    (found : ledger.findCharge op kind = some row) : row ∈ ledger.charges ∧ row.op = op ∧ row.kind = kind := by
  have meets := List.find?_some found
  simp only [decide_eq_true_eq] at meets
  exact ⟨List.mem_of_find?_eq_some found, meets⟩

theorem key_of_findCharge_eq_none {ledger : Ledger} {op : OpKey} {kind : ChargeKind}
    (absent : ledger.findCharge op kind = none) : ∀ row ∈ ledger.charges, row.key ≠ (op, kind) := by
  intro row member same
  have missing := List.find?_eq_none.mp absent row member
  simp only [BillingCharge.key, Prod.mk.injEq] at same
  simp [same] at missing

theorem charge_charges (ledger : Ledger) (args : ChargeArgs) (id : Uuid) :
    (ledger.charge args id).2.charges = ledger.charges ∨
      (ledger.charge args id).2.charges = ledger.charges ++ [args.newCharge.row id] := by
  unfold charge
  split
  · exact .inl rfl
  · split
    · exact .inl rfl
    · dsimp only
      split
      · exact .inl rfl
      · exact .inr rfl

theorem refund_charges (ledger : Ledger) (args : RefundArgs) (id : Uuid) :
    (ledger.refund args id).2.charges = ledger.charges ∨
      (ledger.refund args id).2.charges = ledger.charges ++ [args.newRefund.row id] := by
  unfold refund
  split
  · exact .inl rfl
  · dsimp only
    split
    · exact .inl rfl
    · split
      · exact .inl rfl
      · exact .inr rfl

/-- A refund is the first for its operation, or it leaves the ledger alone. -/
theorem refund_first (ledger : Ledger) (args : RefundArgs) (id : Uuid) :
    (ledger.refund args id).2 = ledger ∨ ledger.findCharge args.op .refund = none ∧
      (ledger.refund args id).2.charges = ledger.charges ++ [args.newRefund.row id] := by
  unfold refund
  split
  · exact .inl rfl
  next absent =>
    dsimp only
    split
    · exact .inl rfl
    · split
      · exact .inl rfl
      · exact .inr ⟨absent, rfl⟩

/-- A charge that answers with an error leaves the ledger alone. -/
theorem charge_error {ledger : Ledger} {args : ChargeArgs} {id : Uuid} {error : Thrown}
    (refused : (ledger.charge args id).1 = .error error) : (ledger.charge args id).2 = ledger := by
  unfold charge at refused ⊢
  split
  · rfl
  next absent =>
    simp only [absent] at refused
    split
    · rfl
    next account found =>
      simp only [found] at refused
      dsimp only at refused ⊢
      split
      · rfl
      next enough =>
        rw [if_neg enough] at refused
        cases refused

/-- A first charge that succeeds adds its row. -/
theorem charge_ok {ledger : Ledger} {args : ChargeArgs} {id : Uuid} {row : BillingCharge}
    (absent : ledger.findCharge args.op .charge = none) (answered : (ledger.charge args id).1 = .ok row) :
    (ledger.charge args id).2.charges = ledger.charges ++ [args.newCharge.row id] := by
  unfold charge at answered ⊢
  simp only [absent] at answered ⊢
  split
  next missing =>
    simp only [missing] at answered
    cases answered
  next account found =>
    simp only [found] at answered
    split
    next short =>
      rw [if_pos short] at answered
      cases answered
    · rfl

/-- A refund of the full charge is there already, or is made now. -/
theorem refund_charged {ledger : Ledger} {charged : BillingCharge} (args : RefundArgs) (id : Uuid)
    (keys : (ledger.charges.map BillingCharge.key).Nodup) (member : charged ∈ ledger.charges)
    (op : charged.op = args.op) (kind : charged.kind = .charge) (amount : charged.creditsMicro = -args.amountMicro)
    (positive : 0 < args.amountMicro) :
    (∃ existing, ledger.findCharge args.op .refund = some existing ∧ (ledger.refund args id).2 = ledger) ∨
      ledger.findCharge args.op .refund = none ∧
        (ledger.refund args id).2.charges = ledger.charges ++ [args.newRefund.row id] := by
  cases found : ledger.findCharge args.op .refund with
  | some existing => exact .inl ⟨existing, rfl, by simp only [refund, found]⟩
  | none =>
    have total : ledger.creditsOf args.op .charge = [-args.amountMicro] := by
      rw [← op, ← kind, ← amount]
      exact creditsOf_of_mem keys member
    have nonzero : ¬args.amountMicro = 0 := by omega
    refine .inr ⟨rfl, ?_⟩
    simp [refund, found, total, creditsOf_eq_nil found, nonzero, post]

end Ledger
end MpcKit.Billing
