import MpcKit.Billing.Isolation

/-! The billing service refines a ledger that changes by whole postings: a statement either
leaves balances and rows as they are or is a commit, which posts what its call has written. -/

namespace MpcKit.Billing
open MpcKit.Backend MpcKit.Async

variable {store after : Store} {past : Nat → Past} {index : Nat}

theorem Linked.renumber (linked : Linked store past) (next : Uuid) : Linked { store with nextId := next } past :=
  have grows : store.Grows { store with nextId := next } := ⟨fun _ _ => id, fun _ => id⟩
  ⟨linked.charges, linked.deposits, linked.balance, linked.credited, linked.shown, linked.knows, linked.accounts,
    linked.keys, fun entry member => (linked.sound entry member).mono grows, linked.owned, linked.solvent⟩

/-- Every statement keeps the link between the store and the calls. -/
theorem Linked.exec {call : Call} {op : Op} {env : Env} {answer : Res op} (linked : Linked store past)
    (prepared : ready call (past index) op) (executed : exec index op env store = some (answer, after)) :
    Linked after (Function.update past index (⟨op, answer⟩ :: past index)) := by
  cases op with
  | randomUUID =>
    cases executed
    refine (linked.observe rfl (fun _ => id) ?_).renumber _
    trivial
  | selectAccount userId network =>
    cases executed
    refine linked.observe rfl (fun _ => id) ?_
    cases found : store.findSlot userId network with
    | none => trivial
    | some slot => exact ⟨slot, has_of_findSlot found⟩
  | insertAccount userId network =>
    simp only [Billing.exec] at executed
    split at executed
    · cases executed
      exact linked.observe rfl (fun _ => id) (by trivial)
    next missing =>
      cases executed
      exact (linked.insertAccount missing _ _).observe rfl (fun _ => id)
        ⟨_, List.mem_append_right _ (List.mem_singleton_self _), rfl, rfl⟩
  | setDepositAddress id address =>
    simp only [Billing.exec] at executed
    split at executed
    · cases executed
      exact (linked.setDepositAddress id address).observe rfl (fun _ seen => seen) (by trivial)
    · cases executed
  | begin =>
    simp only [Billing.exec] at executed
    split at executed
    · cases executed
      exact linked.observe prepared.symm (by simp [locked]) (by trivial)
    · cases executed
      exact linked.observe prepared.symm (by simp [locked]) (by trivial)
  | commit =>
    simp only [Billing.exec] at executed
    split at executed
    · cases executed
      exact linked.rollback ⟨rfl, rfl⟩ (linked.tells (by trivial))
    · cases executed
      exact linked.commit prepared.funded ⟨rfl, rfl⟩ (linked.tells (by trivial))
  | rollback =>
    cases executed
    exact linked.rollback ⟨rfl, rfl⟩ (linked.tells (by trivial))
  | selectCharge key kind =>
    simp only [Billing.exec] at executed
    split at executed
    · cases executed
      exact linked.observe rfl (fun _ => id) (by trivial)
    · cases executed
      exact linked.observe rfl (fun _ => id) (by trivial)
  | selectCredits key kind =>
    simp only [Billing.exec] at executed
    split at executed
    · cases executed
      refine linked.observe rfl (fun _ => id) ?_
      cases kind <;> trivial
    · cases executed
      exact linked.observe rfl (fun _ => id) (linked.knows_selectCredits prepared)
  | lockAccount userId network =>
    simp only [Billing.exec] at executed
    split at executed
    · cases executed
      exact linked.observe rfl (fun _ => id) (by trivial)
    · simp only [Store.lockSlot] at executed
      split at executed
      · cases executed
        exact linked.observe rfl (fun _ => id) (by trivial)
      next slot found =>
        split at executed
        next free =>
          cases executed
          refine linked.lock found free rfl rfl ?_ (fun _ written => .inl written) ?_ (linked.tells (by trivial))
          · intro user net
            split <;> simp [posting]
          · intro read seen
            rcases List.mem_cons.mp seen with rfl | earlier
            · right
              obtain ⟨member, own⟩ := has_of_findSlot found
              have unwritten : (posting (past index)).credits = [] := prepared
              simp [linked.current member free, unwritten]
            · exact .inl earlier
        · cases executed
  | addCredits credit =>
    simp only [Billing.exec] at executed
    split at executed
    · cases executed
      exact linked.observe rfl (fun _ => id) (by trivial)
    · simp only [Store.lockSlot] at executed
      split at executed
      next missing => exact absurd (linked.has prepared) (not_has_of_findSlot missing)
      next slot found =>
        split at executed
        next free =>
          cases executed
          refine linked.lock found free rfl rfl ?_ ?_ (fun _ seen => .inl seen) (linked.tells (by trivial))
          · intro user net
            rw [show posting (⟨.addCredits credit, .ok _⟩ :: past index) = (posting (past index)).addCredit credit from rfl]
            simp only [Posting.addCredit, total_append, total_singleton]
            rfl
          · intro other written
            rcases List.mem_append.mp written with old | new
            · exact .inl old
            · rw [List.mem_singleton.mp new]
              exact .inr ⟨rfl, rfl⟩
        · cases executed
  | insertCharge new =>
    simp only [Billing.exec] at executed
    split at executed
    · cases executed
      exact linked.observe rfl (fun _ => id) (by trivial)
    · obtain ⟨inserted, done, same⟩ := Option.map_eq_some_iff.mp executed
      cases inserted with
      | error error =>
        cases same
        exact linked.observe rfl (fun _ => id) (by trivial)
      | ok charges =>
        cases same
        obtain ⟨rfl, fresh⟩ := Linked.insertUnique_ok done
        exact linked.insertCharge fresh (linked.sound_of_ready prepared) rfl rfl (linked.tells (by trivial))
  | insertDeposit new =>
    simp only [Billing.exec] at executed
    split at executed
    · cases executed
      exact linked.observe rfl (fun _ => id) (by trivial)
    · obtain ⟨inserted, done, same⟩ := Option.map_eq_some_iff.mp executed
      cases inserted with
      | error error =>
        cases same
        exact linked.observe rfl (fun _ => id) (by trivial)
      | ok deposits =>
        cases same
        obtain ⟨rfl, _⟩ := Linked.insertUnique_ok done
        exact linked.insertDeposit (linked.has prepared.1) rfl rfl (linked.tells (by trivial))
  | selectDeposit txDigest =>
    cases executed
    exact linked.observe rfl (fun _ => id) (by trivial)
  | getTransaction network digest =>
    cases executed
    exact linked.observe rfl (fun _ => id) (by trivial)
  | creditsFor coinType amountAtomic =>
    cases executed
    exact linked.observe rfl (fun _ => id) (by trivial)
  | enqueueSweep userId network depositId =>
    cases executed
    exact linked.observe rfl (fun _ => id) (by trivial)
  | body =>
    cases executed
    exact linked.observe rfl (fun _ => id) (by trivial)

/-! ### The committed view -/

/-- Rewriting account rows without touching owners or balances. -/
theorem sameBooks_map (change : BillingAccount → BillingAccount) (ledger : Ledger)
    (same : ∀ account, (change account).userId = account.userId ∧ (change account).network = account.network ∧
      (change account).creditsMicro = account.creditsMicro) :
    Ledger.SameBooks ledger { ledger with accounts := ledger.accounts.map change } := by
  refine ⟨fun userId network => ?_, rfl, rfl⟩
  simp only [Ledger.balance, Ledger.findAccount, List.find?_map, Option.map_map, Function.comp_def, same]

theorem sameBooks_open (ledger : Ledger) (account : BillingAccount) (none : account.creditsMicro = 0) :
    Ledger.SameBooks ledger { ledger with accounts := ledger.accounts ++ [account] } := by
  refine ⟨fun userId network => ?_, rfl, rfl⟩
  simp only [Ledger.balance, Ledger.findAccount, List.find?_append]
  cases ledger.accounts.find? (fun account => account.userId = userId ∧ account.network = network) with
  | some found => rfl
  | none =>
    by_cases own : account.userId = userId ∧ account.network = network <;> simp [own, none]

theorem view_lockSlot {userId : Uuid} {network : String} {delta : Int} {answer : Option Int}
    (done : store.lockSlot index userId network delta = some (answer, after)) : after.view = store.view := by
  simp only [Store.lockSlot] at done
  split at done
  · cases done
    rfl
  · split at done
    · cases done
      simp only [Store.view, List.map_map]
      congr 1
      apply List.map_congr_left
      intro slot _
      simp only [Function.comp_apply]
      split <;> rfl
    · cases done

theorem view_rollback (store : Store) (index : Nat) : (store.rollback index).view = store.view := by
  have rows : (store.accounts.map (AccountSlot.discard index)).map AccountSlot.row = store.accounts.map AccountSlot.row := by
    rw [List.map_map]
    apply List.map_congr_left
    intro slot _
    simp only [Function.comp_apply, AccountSlot.discard]
    split
    · split <;> rfl
    · rfl
  simp only [Store.view, Store.rollback, Versioned.committed_discard, rows]

/-- A commit posts exactly what its call has written. -/
theorem Linked.view_commit (linked : Linked store past) (index : Nat) :
    (store.commit index).view = store.view.post (posting (past index)) := by
  have accounts : (store.accounts.map (AccountSlot.settle index)).map AccountSlot.row =
      (store.view.post (posting (past index))).accounts := by
    simp only [Ledger.post, Store.view, List.map_map]
    exact List.map_congr_left (fun slot member => linked.settled index member)
  simp only [Store.view, Store.commit, Versioned.committed_settle, linked.charges, linked.deposits, accounts]
  rfl

/-- One statement of a call leaves the books as they are, or commits the call's posting. -/
theorem Linked.view_exec {op : Op} {env : Env} {answer : Res op} (linked : Linked store past)
    (executed : Billing.exec index op env store = some (answer, after)) :
    store.view.SameBooks after.view ∨
      (⟨op, answer⟩ : Entry Op Res) = ⟨.commit, .ok ()⟩ ∧ after.view = store.view.post (posting (past index)) := by
  have unchanged : ∀ {other : Store}, other.view = store.view → store.view.SameBooks other.view :=
    fun same => same ▸ .refl _
  cases op with
  | commit =>
    simp only [Billing.exec] at executed
    split at executed
    · cases executed
      exact .inl (unchanged (view_rollback store index))
    · cases executed
      exact .inr ⟨rfl, linked.view_commit index⟩
  | insertAccount userId network =>
    left
    simp only [Billing.exec] at executed
    split at executed
    · cases executed
      exact .refl _
    · cases executed
      have opened := sameBooks_open store.view ⟨store.nextId, userId, network, 0, none⟩ rfl
      simpa [Store.view] using opened
  | setDepositAddress id address =>
    left
    simp only [Billing.exec] at executed
    split at executed
    · cases executed
      have mapped := sameBooks_map (fun account => if account.id = id
        then { account with depositAddress := some address } else account) store.view (by
          intro account
          split <;> exact ⟨rfl, rfl, rfl⟩)
      convert mapped using 1
      simp only [Store.view, List.map_map]
      congr 1
      apply List.map_congr_left
      intro slot _
      simp only [Function.comp_apply]
      split <;> rfl
    · cases executed
  | rollback =>
    cases executed
    exact .inl (unchanged (view_rollback store index))
  | lockAccount userId network =>
    left
    simp only [Billing.exec] at executed
    split at executed
    · cases executed
      exact .refl _
    · obtain ⟨⟨found, other⟩, locked, same⟩ := Option.map_eq_some_iff.mp executed
      cases same
      exact unchanged (view_lockSlot locked)
  | addCredits credit =>
    left
    simp only [Billing.exec] at executed
    split at executed
    · cases executed
      exact .refl _
    · obtain ⟨⟨found, other⟩, locked, same⟩ := Option.map_eq_some_iff.mp executed
      cases same
      exact unchanged (view_lockSlot locked)
  | insertCharge new =>
    left
    simp only [Billing.exec] at executed
    split at executed
    · cases executed
      exact .refl _
    · obtain ⟨inserted, done, same⟩ := Option.map_eq_some_iff.mp executed
      cases inserted with
      | error error =>
        cases same
        exact .refl _
      | ok charges =>
        cases same
        obtain ⟨rfl, _⟩ := Linked.insertUnique_ok done
        exact unchanged (by simp only [Store.view, Versioned.committed_append])
  | insertDeposit new =>
    left
    simp only [Billing.exec] at executed
    split at executed
    · cases executed
      exact .refl _
    · obtain ⟨inserted, done, same⟩ := Option.map_eq_some_iff.mp executed
      cases inserted with
      | error error =>
        cases same
        exact .refl _
      | ok deposits =>
        cases same
        obtain ⟨rfl, _⟩ := Linked.insertUnique_ok done
        exact unchanged (by simp only [Store.view, Versioned.committed_append])
  | begin =>
    left
    simp only [Billing.exec] at executed
    split at executed <;> (cases executed; exact .refl _)
  | selectCharge key kind =>
    left
    simp only [Billing.exec] at executed
    split at executed <;> (cases executed; exact .refl _)
  | selectCredits key kind =>
    left
    simp only [Billing.exec] at executed
    split at executed <;> (cases executed; exact .refl _)
  | randomUUID =>
    cases executed
    exact .inl (.refl _)
  | selectAccount userId network =>
    cases executed
    exact .inl (.refl _)
  | selectDeposit txDigest =>
    cases executed
    exact .inl (.refl _)
  | getTransaction network digest =>
    cases executed
    exact .inl (.refl _)
  | creditsFor coinType amountAtomic =>
    cases executed
    exact .inl (.refl _)
  | enqueueSweep userId network depositId =>
    cases executed
    exact .inl (.refl _)
  | body =>
    cases executed
    exact .inl (.refl _)

end MpcKit.Billing
