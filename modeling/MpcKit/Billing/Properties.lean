import MpcKit.Billing.Refinement

/-! What the billing service guarantees over every interleaving of its calls, with any
statement failing and any call cut off. -/

namespace MpcKit.Billing
open MpcKit.Backend MpcKit.Async

/-- No account, no row and no call yet. -/
def start : BillingSystem := ⟨⟨[], [], [], 0⟩, []⟩

theorem answers_exec {index : Nat} {op : Op} {env : Env} {store after : Store} {answer : Res op}
    (executed : exec index op env store = some (answer, after)) : answers op answer := by
  cases op with
  | insertCharge new =>
    simp only [exec] at executed
    split at executed
    · cases executed
      trivial
    · obtain ⟨inserted, _, same⟩ := Option.map_eq_some_iff.mp executed
      cases inserted with
      | error error =>
        cases same
        trivial
      | ok charges =>
        cases same
        exact ⟨_, rfl⟩
  | insertDeposit new =>
    simp only [exec] at executed
    split at executed
    · cases executed
      trivial
    · obtain ⟨inserted, _, same⟩ := Option.map_eq_some_iff.mp executed
      cases inserted with
      | error error =>
        cases same
        trivial
      | ok deposits =>
        cases same
        exact ⟨_, rfl⟩
  | creditsFor coinType amountAtomic =>
    cases executed
    cases env.price with
    | error error => trivial
    | ok price =>
      intro nonnegative
      exact Int.ediv_nonneg (Int.mul_nonneg nonnegative (Int.natCast_nonneg _)) (Int.natCast_nonneg _)
  | _ => trivial

theorem honours (config : Config) : (machine config).Honours contract :=
  ⟨program_obeys config, fun executed _ => answers_exec executed⟩

/-- The posting of a commit belongs to accounts the ledger has. -/
theorem Linked.covers {store : Store} {past : Nat → Past} (linked : Linked store past) (index : Nat) :
    store.view.Covers (posting (past index)) := by
  have known : ∀ userId network, store.Has userId network → (store.view.findAccount userId network).isSome := by
    rintro userId network ⟨slot, member, own⟩
    simp only [Ledger.findAccount, List.find?_isSome]
    exact ⟨slot.row, List.mem_map_of_mem member, by simpa [AccountSlot.Is] using own⟩
  refine ⟨fun row written => ?_, fun row written => ?_⟩
  · rw [← linked.charges] at written
    obtain ⟨entry, member, rfl⟩ := List.mem_map.mp written
    exact known _ _ (linked.sound entry (List.mem_of_mem_filter member)).owned
  · rw [← linked.deposits] at written
    obtain ⟨entry, member, rfl⟩ := List.mem_map.mp written
    exact known _ _ (linked.owned entry (List.mem_of_mem_filter member))

/-- The store is explained by the calls, and its committed part balances. -/
structure Sane (store : Store) (past : Nat → Past) : Prop where
  linked : Linked store past
  conserved : store.view.Conserved

theorem Sane.exec {store after : Store} {past : Nat → Past} {index : Nat} {call : Call} {op : Op} {env : Env}
    {answer : Res op} (sane : Sane store past) (prepared : ready call (past index) op)
    (executed : exec index op env store = some (answer, after)) :
    Sane after (Function.update past index (⟨op, answer⟩ :: past index)) := by
  refine ⟨sane.linked.exec prepared executed, ?_⟩
  rcases sane.linked.view_exec executed with same | ⟨committed, posted⟩
  · exact same.conserved sane.conserved
  · cases committed
    rw [posted]
    exact sane.conserved.post prepared.balanced (sane.linked.covers index)

theorem sane_start : Sane start.world start.past := by
  refine ⟨⟨?_, ?_, ?_, ?_, ?_, ?_, ?_, ?_, ?_, ?_, ?_⟩, ?_⟩
  all_goals simp [start, System.past, Versioned.pending, Versioned.committed, posting, Posting.empty, locked,
    Ledger.Conserved, Ledger.balance, Ledger.findAccount, Store.view]

theorem reached_sane {config : Config} {system : BillingSystem} (reached : (machine config).Reaches start system) :
    Machine.Kept contract system ∧ Sane system.world system.past := by
  refine reached.linked (honours config) (by intro index thread found; simp [start] at found) sane_start ?_ ?_ ?_
  · intro tag store opened past index sane entered
    cases entered
    simp only [Machine.close, machine]
    split <;> exact sane
  · intro index op env store answer after past tag program sane prepared executed
    have kept := sane.exec prepared.1 executed
    simp only [Machine.close, machine]
    split <;> exact kept
  · intro index tag store past sane
    exact ⟨sane.linked.rollback ⟨rfl, rfl⟩ (by simp), (view_rollback store index).symm ▸ sane.conserved⟩

/-! ### Conservation -/

theorem Linked.balance_of_account {store : Store} {past : Nat → Past} (linked : Linked store past)
    {account : BillingAccount} (member : account ∈ store.view.accounts) :
    store.view.balance account.userId account.network = account.creditsMicro := by
  obtain ⟨slot, inside, rfl⟩ := List.mem_map.mp member
  cases found : store.view.findAccount slot.row.userId slot.row.network with
  | none =>
    have absent := List.find?_eq_none.mp found slot.row member
    simp at absent
  | some other =>
    obtain ⟨otherSlot, there, rfl⟩ := List.mem_map.mp (List.mem_of_find?_eq_some found)
    have same := linked.unique there inside (Ledger.findAccount_owner found) ⟨rfl, rfl⟩
    simp [Ledger.balance, found, same]

theorem Linked.balance_nonneg {store : Store} {past : Nat → Past} (linked : Linked store past)
    (userId : Uuid) (network : String) : 0 ≤ store.view.balance userId network := by
  cases found : store.view.findAccount userId network with
  | none => simp [Ledger.balance, found]
  | some account =>
    obtain ⟨slot, inside, rfl⟩ := List.mem_map.mp (List.mem_of_find?_eq_some found)
    simpa [Ledger.balance, found] using linked.solvent slot inside

/-- Every balance is the sum of the account's deposit and charge rows, and is never negative. -/
theorem balance_conserved_nonneg (config : Config) {system : BillingSystem}
    (reached : (machine config).Reaches start system) (userId : Uuid) (network : String) :
    (∀ account ∈ system.world.view.accounts, account.userId = userId → account.network = network →
      account.creditsMicro = system.world.view.balance userId network) ∧
    system.world.view.balance userId network =
      total system.world.view.deposits userId network + total system.world.view.charges userId network ∧
    0 ≤ system.world.view.balance userId network := by
  obtain ⟨_, sane⟩ := reached_sane reached
  refine ⟨?_, sane.conserved userId network, sane.linked.balance_nonneg userId network⟩
  rintro account member rfl rfl
  exact (sane.linked.balance_of_account member).symm

/-- One accepted coin at two micro-dollars, and every statement succeeding. -/
def sampleConfig : Config := ⟨["0x2::sui::SUI"], 0, fullTag, fun _ _ => .ok "0xdeposit"⟩

def calm : Env where
  fails := false
  price := .ok (2, 0)
  transaction := .ok (.transaction none (some "0xsender") [⟨"0xdeposit", "0x2::sui::SUI", 50⟩])
  body := .ok 0
  enqueued := .ok ()

/-- Deposit 100, charge 30, refund 20, then try to charge 200. -/
def sampleEvents : List (Event Env Call) :=
  .start (.recordDeposit 1 "testnet" "digest") :: List.replicate 13 (.step 0 calm) ++
  .start (.charge ⟨1, "testnet", "sign", 7, 30, none⟩) :: List.replicate 7 (.step 1 calm) ++
  .start (.refund ⟨1, "testnet", "sign", 7, 20, "failed"⟩) :: List.replicate 8 (.step 2 calm) ++
  .start (.charge ⟨1, "testnet", "sign", 8, 200, none⟩) :: List.replicate 5 (.step 3 calm)

theorem balance_conserved_nonneg_sample : ∃ system, (machine sampleConfig).Reaches start system ∧
    system.world.view.balance 1 "testnet" = 90 ∧
    system.world.view.balance 1 "testnet" =
      total system.world.view.deposits 1 "testnet" + total system.world.view.charges 1 "testnet" := by
  obtain ⟨system, reached, balance⟩ : ∃ system, (machine sampleConfig).Reaches start system ∧
      system.world.view.balance 1 "testnet" = 90 := Machine.exists_reaches sampleEvents (by decide +kernel)
  exact ⟨system, reached, balance, (balance_conserved_nonneg sampleConfig reached 1 "testnet").2.1⟩

/-! ### Idempotence -/

/-- The row a charge or refund call is about. -/
def Call.key : Call → Option (OpKey × ChargeKind)
  | .charge args => some (args.op, .charge)
  | .refund args => some (args.op, .refund)
  | _ => none

theorem Call.single_of_key {call : Call} {key : OpKey × ChargeKind} (same : call.key = some key) : call.Single := by
  cases call <;> trivial

/-- A charge or refund call that wrote something wrote the row with its key. -/
theorem Call.row_of_writes {call : Call} {key : OpKey × ChargeKind} {written : Posting} (same : call.key = some key)
    (writes : call.Writes written) (touched : written ≠ .empty) : ∃ row ∈ written.charges, row.key = key := by
  cases call with
  | charge args =>
    cases same
    rcases writes with none | ⟨id, rfl⟩
    · exact absurd none touched
    · exact ⟨args.newCharge.row id, List.mem_singleton_self _, rfl⟩
  | refund args =>
    cases same
    rcases writes with none | ⟨id, rfl⟩
    · exact absurd none touched
    · exact ⟨args.newRefund.row id, List.mem_singleton_self _, rfl⟩
  | recordDeposit userId network txDigest => cases same
  | chargeWithRefund args => cases same

theorem Posted.later {past later : Past} (posted : Posted past) (grown : past <:+ later) : Posted later := by
  obtain ⟨front, rfl⟩ := grown
  induction front with
  | nil => exact posted
  | cons entry front ih =>
    rw [List.cons_append]
    unfold Posted
    split
    next earlier => cases earlier
    next same =>
      cases same
      exact .inr ih
    next same =>
      cases same
      exact ih

/-- A step of a call that moves the books is the commit of a nonempty posting. -/
theorem moved_by_commit {config : Config} {before after : BillingSystem} {index : Nat} {env : Env}
    (sane : Sane before.world before.past) (kept : Machine.Kept contract before)
    (stepped : (machine config).next before (.step index env) = some after)
    (moved : ¬before.world.view.SameBooks after.world.view) :
    ∃ thread later, before.threads[index]? = some thread ∧ after.threads[index]? = some later ∧
      later.tag = thread.tag ∧ later.history = ⟨.commit, .ok ()⟩ :: thread.history ∧
      Committable thread.tag thread.history ∧ posting thread.history ≠ .empty ∧
      before.past index = thread.history ∧
      after.world.view = before.world.view.post (posting thread.history) := by
  cases Machine.effect_of_next _ stepped with
  | step _ _ thread op rest answer world found alive awaits executed =>
    have same : (machine config).close index thread.tag (rest answer) world = world := by
      simp only [Machine.close, machine]
      split <;> rfl
    simp only [same] at moved ⊢
    rcases sane.linked.view_exec executed with unmoved | ⟨committed, posted⟩
    · exact absurd unmoved moved
    · cases committed
      have path := kept index thread found
      rw [awaits] at path
      have history := Machine.past_of_found found alive
      rw [history] at posted
      refine ⟨thread, thread.resume ⟨.commit, .ok ()⟩ (rest (.ok ())), found, ?_, rfl, rfl, path.1.1, ?_, history, posted⟩
      · simp [(List.getElem?_eq_some_iff.mp found).1]
      · intro empty
        rw [empty, Ledger.post_empty] at posted
        exact moved (posted ▸ .refl _)

theorem Linked.committed_keys {store : Store} {past : Nat → Past} (linked : Linked store past) :
    (store.view.charges.map BillingCharge.key).Nodup := by
  have all := linked.keys
  rw [← Function.comp_def BillingCharge.key, ← List.map_map] at all
  exact all.sublist ((List.filter_sublist.map _).map _)

/-- An open row never has the key of a committed one. -/
theorem Linked.fresh {store : Store} {past : Nat → Past} (linked : Linked store past) {index : Nat}
    {row : BillingCharge} (written : row ∈ (posting (past index)).charges) :
    ∀ committed ∈ store.view.charges, committed.key ≠ row.key := by
  intro committed shown same
  rw [← linked.charges] at written
  obtain ⟨own, inside, rfl⟩ := List.mem_map.mp written
  obtain ⟨other, there, rfl⟩ := List.mem_map.mp shown
  have one := List.inj_on_of_nodup_map linked.keys (List.mem_of_mem_filter there) (List.mem_of_mem_filter inside) same
  have committed : other.writer = none := by simpa using (List.mem_filter.mp there).2
  have pending : own.writer = some index := by simpa using (List.mem_filter.mp inside).2
  rw [one, pending] at committed
  cases committed

theorem length_filter_le_one {ρ κ : Type} {key : ρ → κ} {rows : List ρ} (distinct : (rows.map key).Nodup)
    (same : κ) (test : ρ → Bool) (tested : ∀ row, test row = true → key row = same) : (rows.filter test).length ≤ 1 := by
  match found : rows.filter test with
  | [] => simp
  | [row] => simp
  | first :: second :: others =>
    have one : test first = true := (List.mem_filter.mp (found ▸ List.mem_cons_self)).2
    have two : test second = true := (List.mem_filter.mp (found ▸ List.mem_cons_of_mem _ List.mem_cons_self)).2
    have apart := distinct.sublist ((List.filter_sublist (p := test)).map key)
    rw [found] at apart
    simp [tested first one, tested second two] at apart

/-- Starting a call and cutting one off never move the books. -/
theorem sameBooks_of_not_step {config : Config} {before after : BillingSystem} {event : Event Env Call}
    (happened : (machine config).next before event = some after) (still : ∀ index env, event ≠ .step index env) :
    before.world.view.SameBooks after.world.view := by
  cases Machine.effect_of_next _ happened with
  | start tag world entered =>
    cases entered
    simp only [Machine.close, machine]
    split <;> exact .refl _
  | step index env thread op rest answer world found alive awaits executed => exact absurd rfl (still index env)
  | cut index thread found running =>
    change before.world.view.SameBooks (before.world.rollback index).view
    rw [view_rollback]
    exact .refl _

/-- In every reachable state an operation has at most one charge and at most one refund, the
refund within the charge. Once the row of a charge or refund call exists no step of that call
moves the books, and neither does any step of a call that ends up throwing. -/
theorem charge_refund_idempotent (config : Config) {system : BillingSystem}
    (reached : (machine config).Reaches start system) :
    (∀ op kind, (system.world.view.charges.filter (fun row => row.op = op ∧ row.kind = kind)).length ≤ 1) ∧
    (∀ row ∈ system.world.view.charges, row.kind = .refund → ∃ charged ∈ system.world.view.charges,
      charged.op = row.op ∧ charged.kind = .charge ∧ row.creditsMicro ≤ -charged.creditsMicro) ∧
    (∀ event after, (machine config).next system event = some after → (∀ index env, event ≠ .step index env) →
      system.world.view.SameBooks after.world.view) ∧
    (∀ index env after thread key, (machine config).next system (.step index env) = some after →
      system.threads[index]? = some thread → thread.tag.key = some key →
      (∃ row ∈ system.world.view.charges, row.key = key) → system.world.view.SameBooks after.world.view) ∧
    (∀ index env after final thread key error, (machine config).next system (.step index env) = some after →
      (machine config).Reaches after final → final.threads[index]? = some thread → thread.tag.key = some key →
      thread.program = .raise error → system.world.view.SameBooks after.world.view) := by
  obtain ⟨kept, sane⟩ := reached_sane reached
  refine ⟨fun op kind => ?_, fun row member refund => ?_, fun event after => sameBooks_of_not_step, ?_, ?_⟩
  · apply length_filter_le_one sane.linked.committed_keys (op, kind)
    intro row same
    simpa [BillingCharge.key] using same
  · obtain ⟨entry, inside, rfl⟩ := List.mem_map.mp member
    exact ((sane.linked.sound entry (List.mem_of_mem_filter inside)).credit refund).2
  · intro index env after thread key stepped found own existing
    by_contra moved
    obtain ⟨acting, later, here, _, _, _, committable, touched, history, _⟩ := moved_by_commit sane kept stepped moved
    rw [found] at here
    cases here
    obtain ⟨row, written, same⟩ := Call.row_of_writes own committable.writes touched
    obtain ⟨committed, shown, equal⟩ := existing
    rw [← history] at written
    exact sane.linked.fresh written committed shown (equal.trans same.symm)
  · intro index env after final thread key error stepped rest found own thrown
    by_contra moved
    obtain ⟨acting, later, _, there, _, history, _, touched, _⟩ := moved_by_commit sane kept stepped moved
    obtain ⟨last, here, tag, grown⟩ := Machine.Run.continues rest there
    rw [found] at here
    cases here
    have posted : Posted later.history := by
      rw [history]
      exact .inl touched
    have path := (reached_sane (.trans (.step reached trivial stepped) rest)).1 index thread found
    rw [thrown] at path
    exact path.2 error rfl (Call.single_of_key own) (posted.later grown)

theorem charge_refund_idempotent_sample : ∃ system, (machine sampleConfig).Reaches start system ∧
    system.world.view.charges.length = 2 ∧
    ∀ op kind, (system.world.view.charges.filter (fun row => row.op = op ∧ row.kind = kind)).length ≤ 1 := by
  obtain ⟨system, reached, rows⟩ : ∃ system, (machine sampleConfig).Reaches start system ∧
      system.world.view.charges.length = 2 := Machine.exists_reaches sampleEvents (by decide +kernel)
  exact ⟨system, reached, rows, (charge_refund_idempotent sampleConfig reached).1⟩

end MpcKit.Billing
