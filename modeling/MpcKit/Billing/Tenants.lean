import MpcKit.Async.Evidence
import MpcKit.Async.Table
import MpcKit.Billing.Atomic
import MpcKit.Billing.Deposits

/-! Ledger rows belong to a user and network. No statement of a billing call changes a committed
row of another user or network, whatever it was called with. -/

namespace MpcKit.Billing
open MpcKit.Backend MpcKit.Async
open Program (fold rescue unwrap Shows shows_unwrap)

structure Tenant where
  userId : Uuid
  network : String
  deriving DecidableEq, Repr

def creditTenant (row : BillingAccount) : Tenant := ⟨row.userId, row.network⟩

def chargeTenant (row : BillingCharge) : Tenant := ⟨row.userId, row.network⟩

def depositTenant (row : BillingDeposit) : Tenant := ⟨row.userId, row.network⟩

/-- The rows of one tenant. -/
def ofTenant {ρ : Type} (owner : ρ → Tenant) (tenant : Tenant) (rows : List ρ) : List ρ :=
  rows.filter (fun row => owner row = tenant)

/-- The rows of a tenant are the same in two ledgers. -/
structure SameLedger (tenant : Tenant) (before after : Ledger) : Prop where
  credits : ofTenant creditTenant tenant after.accounts = ofTenant creditTenant tenant before.accounts
  charges : ofTenant chargeTenant tenant after.charges = ofTenant chargeTenant tenant before.charges
  deposits : ofTenant depositTenant tenant after.deposits = ofTenant depositTenant tenant before.deposits

/-- Everything a posting writes is of one tenant. -/
structure Posting.Of (posting : Posting) (tenant : Tenant) : Prop where
  credits : ∀ credit ∈ posting.credits, (⟨credit.userId, credit.network⟩ : Tenant) = tenant
  charges : ∀ row ∈ posting.charges, chargeTenant row = tenant
  deposits : ∀ row ∈ posting.deposits, depositTenant row = tenant

section Ledger

variable {tenant writer : Tenant} {ledger : Ledger} {id : Uuid}

theorem SameLedger.refl (tenant : Tenant) (ledger : Ledger) : SameLedger tenant ledger ledger := ⟨rfl, rfl, rfl⟩

theorem SameLedger.trans {first second third : Ledger} (early : SameLedger tenant first second)
    (late : SameLedger tenant second third) : SameLedger tenant first third :=
  ⟨late.credits.trans early.credits, late.charges.trans early.charges, late.deposits.trans early.deposits⟩

/-- More rows of other tenants. -/
theorem ofTenant_append {ρ : Type} {owner : ρ → Tenant} (rows : List ρ) {added : List ρ}
    (others : ∀ row ∈ added, owner row ≠ tenant) : ofTenant owner tenant (rows ++ added) = ofTenant owner tenant rows := by
  have none : added.filter (fun row => owner row = tenant) = [] := by
    rw [List.filter_eq_nil_iff]
    simpa using others
  rw [ofTenant, List.filter_append, none, List.append_nil]
  rfl

/-- A posting of another tenant. -/
theorem sameLedger_post {posting : Posting} (own : posting.Of writer) (other : writer ≠ tenant) :
    SameLedger tenant ledger (ledger.post posting) := by
  refine ⟨?_, ofTenant_append _ (fun row member => ?_), ofTenant_append _ (fun row member => ?_)⟩
  · refine filter_map_outside (fun account _ => ?_)
    by_cases same : creditTenant account = writer
    · have apart : creditTenant account ≠ tenant := same ▸ other
      exact .inr ⟨decide_eq_false apart, decide_eq_false apart⟩
    · left
      have none : total posting.credits account.userId account.network = 0 := by
        apply total_eq_zero
        rintro credit member ⟨user, net⟩
        apply same
        rw [← own.credits credit member, creditTenant]
        exact (congrArg₂ Tenant.mk user net).symm
      rw [none, add_zero]
  · rw [own.charges row member]
    exact other
  · rw [own.deposits row member]
    exact other

theorem sameLedger_openAccount {userId : Uuid} {network : String} (other : (⟨userId, network⟩ : Tenant) ≠ tenant) :
    SameLedger tenant ledger (ledger.openAccount userId network id) := by
  unfold Ledger.openAccount
  split
  · exact .refl tenant ledger
  · refine ⟨ofTenant_append _ (fun row member => ?_), rfl, rfl⟩
    rw [List.mem_singleton.mp member]
    exact other

/-- One increment and one row. -/
theorem of_charge {credit : Credit} {row : BillingCharge} (same : chargeTenant row = ⟨credit.userId, credit.network⟩) :
    Posting.Of ⟨[credit], [row], []⟩ ⟨credit.userId, credit.network⟩ where
  credits other member := by rw [List.mem_singleton.mp member]
  charges other member := by
    rw [List.mem_singleton.mp member]
    exact same
  deposits _ member := nomatch member

theorem sameLedger_charge {args : ChargeArgs} (other : (⟨args.userId, args.network⟩ : Tenant) ≠ tenant) :
    SameLedger tenant ledger (ledger.charge args id).2 := by
  unfold Ledger.charge
  split
  · exact .refl tenant ledger
  · split
    · exact .refl tenant ledger
    · dsimp only
      split
      · exact .refl tenant ledger
      · exact sameLedger_post (of_charge rfl) other

theorem sameLedger_refund {args : RefundArgs} (other : (⟨args.userId, args.network⟩ : Tenant) ≠ tenant) :
    SameLedger tenant ledger (ledger.refund args id).2 := by
  unfold Ledger.refund
  split
  · exact .refl tenant ledger
  · dsimp only
    split
    · exact .refl tenant ledger
    · split
      · exact .refl tenant ledger
      · exact sameLedger_post (of_charge rfl) other

end Ledger

/-! ### Whose rows a call writes -/

def Call.tenant : Call → Tenant
  | .recordDeposit userId network _ => ⟨userId, network⟩
  | .charge args => ⟨args.userId, args.network⟩
  | .refund args => ⟨args.userId, args.network⟩
  | .chargeWithRefund args => ⟨args.userId, args.network⟩

/-- The tenant whose row a statement inserts or whose balance it moves. -/
def writes : Op → Option Tenant
  | .insertAccount userId network => some ⟨userId, network⟩
  | .addCredits credit => some ⟨credit.userId, credit.network⟩
  | .insertCharge new => some ⟨new.userId, new.network⟩
  | .insertDeposit new => some ⟨new.userId, new.network⟩
  | _ => none

/-- A deposit address is set on the account the call has seen as its own. -/
def Addresses (config : Config) (tenant : Tenant) (past : Past) : Op → Prop
  | .setDepositAddress id address => config.deriveDepositAddress tenant.userId tenant.network = .ok address ∧
      ∃ account, Saw past tenant.userId tenant.network account ∧ account.id = id
  | _ => True

/-- Every write of a call is about its own tenant. -/
def own (config : Config) (tenant : Tenant) : Contract Op Res Thrown Reply where
  answers := answers
  before past op := (∀ written ∈ writes op, written = tenant) ∧ Addresses config tenant past op
  after _ _ := True

section Walks

variable {config : Config} {tenant : Tenant} {past : Past}

/-- A statement that writes nobody's row. -/
theorem reads_freely {op : Op} (silent : writes op = none) (bare : ∀ id address, op ≠ .setDepositAddress id address) :
    (own config tenant).before past op := by
  refine ⟨fun written member => ?_, ?_⟩
  · rw [silent] at member
    cases member
  · unfold Addresses
    split
    · exact absurd rfl (bare _ _)
    · trivial

theorem shows_getOrCreateAccount : (getOrCreateAccount tenant.userId tenant.network).Shows (own config tenant) past
    (fun later result => ∀ account, result = .ok account → Saw later tenant.userId tenant.network account) := by
  have selects : ∀ {past}, (own config tenant).before past (.selectAccount tenant.userId tenant.network) :=
    reads_freely rfl (fun _ _ absurd_ => nomatch absurd_)
  refine .perform selects (fun found _ => ?_)
  cases found with
  | some account =>
    refine .ret ?_
    rintro other same
    cases same
    exact .inl List.mem_cons_self
  | none =>
    refine .perform ⟨fun written same => (Option.some.inj same).symm, trivial⟩ (fun inserted _ => ?_)
    cases inserted with
    | some account =>
      refine .ret ?_
      rintro other same
      cases same
      exact .inr List.mem_cons_self
    | none =>
      refine .perform selects (fun found _ => ?_)
      cases found with
      | some account =>
        refine .ret ?_
        rintro other same
        cases same
        exact .inl List.mem_cons_self
      | none => exact .raise (fun _ absurd_ => nomatch absurd_)

theorem shows_getOrCreateDepositAddress : (getOrCreateDepositAddress config tenant.userId tenant.network).Shows
    (own config tenant) past (fun _ _ => True) := by
  refine shows_getOrCreateAccount.bind (fun later account _ seen => ?_) (fun _ _ _ _ => trivial)
  split
  · exact .ret trivial
  · refine .unwrap (fun address derived => ?_) (fun _ _ => trivial)
    refine .perform ⟨(fun _ absurd_ => nomatch absurd_), derived, account, seen account rfl, rfl⟩ (fun _ _ => .ret trivial)

theorem shows_getBalance : (getBalance tenant.userId tenant.network).Shows (own config tenant) past (fun _ _ => True) :=
  shows_getOrCreateAccount.bind (fun _ _ _ _ => .ret trivial) (fun _ _ _ _ => trivial)

theorem shows_transaction {α : Type} {body : Prog α}
    (inside : ∀ later, body.Shows (own config tenant) later (fun _ _ => True)) :
    (transaction body).Shows (own config tenant) past (fun _ _ => True) := by
  have begins : ∀ {past}, (own config tenant).before past .begin := reads_freely rfl (fun _ _ absurd_ => nomatch absurd_)
  have commits : ∀ {past}, (own config tenant).before past .commit := reads_freely rfl (fun _ _ absurd_ => nomatch absurd_)
  have rolls : ∀ {past}, (own config tenant).before past .rollback := reads_freely rfl (fun _ _ absurd_ => nomatch absurd_)
  refine .perform begins (fun _ _ => .unwrap (fun _ _ => ?_) (fun _ _ => trivial))
  refine .rescue (fun _ _ => True) ?_ (fun _ _ _ _ => trivial) (fun later error _ _ => ?_)
  · refine (inside _).followed (fun later result => ?_)
    exact .perform commits (fun _ _ => .unwrap (fun _ _ => .ret trivial) (fun _ _ => trivial))
  · exact .perform rolls (fun _ _ => .raise trivial)

/-! ### Charges and refunds -/

theorem shows_charge {args : ChargeArgs} (same : (⟨args.userId, args.network⟩ : Tenant) = tenant) :
    (charge args).Shows (own config tenant) past (fun _ _ => True) := by
  subst same
  unfold charge
  split
  · exact .raise trivial
  · refine shows_getOrCreateAccount.bind (fun later _ _ _ => ?_) (fun _ _ _ _ => trivial)
    refine shows_transaction (fun inside => ?_)
    refine .perform (reads_freely rfl (fun _ _ absurd_ => nomatch absurd_)) (fun existing _ => .unwrap (fun prior _ => ?_) (fun _ _ => trivial))
    cases prior with
    | some existing => exact .ret trivial
    | none =>
      refine .perform (reads_freely rfl (fun _ _ absurd_ => nomatch absurd_)) (fun locked _ => .unwrap (fun balance _ => ?_) (fun _ _ => trivial))
      cases balance with
      | none => exact .raise trivial
      | some creditsMicro =>
        dsimp only
        split
        · exact .raise trivial
        · refine .perform ⟨fun _ same => (Option.some.inj same).symm, trivial⟩ (fun _ _ => .unwrap (fun _ _ => ?_) (fun _ _ => trivial))
          exact .perform ⟨fun _ same => (Option.some.inj same).symm, trivial⟩ (fun _ _ => shows_unwrap trivial)

theorem shows_refund {args : RefundArgs} (same : (⟨args.userId, args.network⟩ : Tenant) = tenant) :
    (refund args).Shows (own config tenant) past (fun _ _ => True) := by
  subst same
  unfold refund
  split
  · exact .raise trivial
  · refine shows_getOrCreateAccount.bind (fun later _ _ _ => ?_) (fun _ _ _ _ => trivial)
    refine shows_transaction (fun inside => ?_)
    refine .perform (reads_freely rfl (fun _ _ absurd_ => nomatch absurd_)) (fun existing _ => .unwrap (fun prior _ => ?_) (fun _ _ => trivial))
    cases prior with
    | some existing => exact .ret trivial
    | none =>
      refine .perform (reads_freely rfl (fun _ _ absurd_ => nomatch absurd_)) (fun rows _ => .unwrap (fun charged _ => ?_) (fun _ _ => trivial))
      dsimp only
      split
      · exact .raise trivial
      · refine .perform (reads_freely rfl (fun _ _ absurd_ => nomatch absurd_)) (fun rows _ => .unwrap (fun prior _ => ?_) (fun _ _ => trivial))
        split
        · exact .raise trivial
        · refine .perform ⟨fun _ same => (Option.some.inj same).symm, trivial⟩ (fun _ _ => .unwrap (fun _ _ => ?_) (fun _ _ => trivial))
          exact .perform ⟨fun _ same => (Option.some.inj same).symm, trivial⟩ (fun _ _ => shows_unwrap trivial)

theorem shows_chargeWithRefund {args : ChargeWithRefundArgs} {fn : Prog Uuid} (same : (⟨args.userId, args.network⟩ : Tenant) = tenant)
    (runs : ∀ later, fn.Shows (own config tenant) later (fun _ _ => True)) :
    (chargeWithRefund args fn).Shows (own config tenant) past (fun _ _ => True) := by
  refine .perform (reads_freely rfl (fun _ _ absurd_ => nomatch absurd_)) (fun opId _ => ?_)
  refine (shows_charge same).followed (fun later _ => ?_)
  refine .rescue (fun _ _ => True) (runs later) (fun _ _ _ _ => trivial) (fun later error _ _ => ?_)
  refine .followed ?_ (fun _ _ => .raise trivial)
  refine .rescue (fun _ _ => True) ?_ (fun _ _ _ _ => trivial) (fun _ _ _ _ => .ret trivial)
  exact (shows_refund same).followed (fun _ _ => .ret trivial)

/-! ### Deposits -/

theorem shows_verifyDeposit {network digest recipient : String} :
    (verifyDeposit config network digest recipient).Shows (own config tenant) past (fun _ _ => True) := by
  refine .perform (reads_freely rfl (fun _ _ absurd_ => nomatch absurd_)) (fun found _ => .unwrap (fun result _ => ?_) (fun _ _ => trivial))
  split
  · exact .raise trivial
  · exact .raise trivial
  · exact .raise trivial
  · dsimp only
    split
    · exact .raise trivial
    · exact .ret trivial

theorem shows_creditsFor {coinType : String} {amountAtomic : Int} :
    (creditsFor coinType amountAtomic).Shows (own config tenant) past (fun _ _ => True) :=
  .perform (reads_freely rfl (fun _ _ absurd_ => nomatch absurd_)) (fun _ _ => shows_unwrap trivial)

theorem shows_depositTransaction {verified : VerifiedDeposit} :
    (depositTransaction tenant.userId tenant.network verified).Shows (own config tenant) past (fun _ _ => True) := by
  refine shows_transaction (fun later => ?_)
  refine .followed (.fold (fun history state coin => ?_)) (fun later sums => ?_)
  · refine shows_creditsFor.followed (fun later converted => ?_)
    refine .perform ⟨fun _ same => (Option.some.inj same).symm, trivial⟩ (fun _ _ => .unwrap (fun _ _ => ?_) (fun _ _ => trivial))
    exact .ret trivial
  · refine .perform ⟨fun _ same => (Option.some.inj same).symm, trivial⟩ (fun _ _ => .unwrap (fun updated _ => ?_) (fun _ _ => trivial))
    split
    · exact .ret trivial
    · exact .raise trivial

theorem shows_recordDeposit {txDigest : String} : (recordDeposit config tenant.userId tenant.network txDigest).Shows
    (own config tenant) past (fun _ _ => True) := by
  refine .perform (reads_freely rfl (fun _ _ absurd_ => nomatch absurd_)) (fun prior _ => ?_)
  cases prior with
  | some prior =>
    dsimp only
    split
    · exact .raise trivial
    · split
      · exact .raise trivial
      · exact shows_getBalance.followed (fun _ _ => .ret trivial)
  | none =>
    refine shows_getOrCreateDepositAddress.followed (fun _ recipient => shows_verifyDeposit.followed (fun _ verified => ?_))
    refine .followed (.fold (fun _ _ _ => shows_creditsFor.followed (fun _ _ => .ret trivial))) (fun _ preTotal => ?_)
    dsimp only
    split
    · exact .raise trivial
    · refine shows_getOrCreateAccount.bind (fun _ _ _ _ => ?_) (fun _ _ _ _ => trivial)
      refine shows_depositTransaction.followed (fun _ recorded => ?_)
      exact .perform (reads_freely rfl (fun _ _ absurd_ => nomatch absurd_))
        (fun _ _ => .unwrap (fun _ _ => .ret trivial) (fun _ _ => trivial))

theorem shows_program (config : Config) (call : Call) :
    (program config call).Shows (own config call.tenant) [] (fun _ _ => True) := by
  cases call with
  | recordDeposit userId network txDigest =>
    have shown : (recordDeposit config userId network txDigest).Shows (own config ⟨userId, network⟩) [] (fun _ _ => True) :=
      shows_recordDeposit
    exact shown.followed (fun _ _ => .ret trivial)
  | charge args => exact (shows_charge rfl).followed (fun _ _ => .ret trivial)
  | refund args => exact (shows_refund rfl).followed (fun _ _ => .ret trivial)
  | chargeWithRefund args =>
    refine (shows_chargeWithRefund rfl (fun later => ?_)).followed (fun _ _ => .ret trivial)
    exact .perform (reads_freely rfl (fun _ _ absurd_ => nomatch absurd_)) (fun _ _ => shows_unwrap trivial)

end Walks

theorem owns (config : Config) : (machine config).Honours (fun call => own config call.tenant) where
  programs call := (shows_program config call).obeys (fun _ _ _ => trivial)
  answers executed _ := answers_exec executed

/-! ### What is written to the ledger -/

/-- The open writes of a call that only wrote its own rows. -/
theorem posting_of {tenant : Tenant} {past : Past} (written : ∀ entry ∈ past, ∀ writer ∈ writes entry.1, writer = tenant)
    (honest : ∀ entry ∈ past, answers entry.1 entry.2) : (posting past).Of tenant := by
  have empty : Posting.empty.Of tenant := ⟨nofun, nofun, nofun⟩
  have own : ∀ {entry : Entry Op Res} {past : Past} {writer : Tenant},
      (∀ other ∈ entry :: past, ∀ writer ∈ writes other.1, writer = tenant) → writes entry.1 = some writer → writer = tenant :=
    fun written same => written _ List.mem_cons_self _ same
  fun_induction posting past with
  | case1 => exact empty
  | case2 => exact empty
  | case3 => exact empty
  | case4 => exact empty
  | case5 credit past answer ih =>
    have rest := ih (fun entry member => written entry (List.mem_cons_of_mem _ member))
      (fun entry member => honest entry (List.mem_cons_of_mem _ member))
    refine ⟨fun other member => ?_, rest.charges, rest.deposits⟩
    rcases List.mem_append.mp member with earlier | new
    · exact rest.credits other earlier
    · rw [List.mem_singleton.mp new]
      exact own written rfl
  | case6 new past row ih =>
    have rest := ih (fun entry member => written entry (List.mem_cons_of_mem _ member))
      (fun entry member => honest entry (List.mem_cons_of_mem _ member))
    refine ⟨rest.credits, fun other member => ?_, rest.deposits⟩
    rcases List.mem_append.mp member with earlier | added
    · exact rest.charges other earlier
    · obtain ⟨id, rfl⟩ := honest _ List.mem_cons_self
      rw [List.mem_singleton.mp added]
      exact own written rfl
  | case7 new past row ih =>
    have rest := ih (fun entry member => written entry (List.mem_cons_of_mem _ member))
      (fun entry member => honest entry (List.mem_cons_of_mem _ member))
    refine ⟨rest.credits, rest.charges, fun other member => ?_⟩
    rcases List.mem_append.mp member with earlier | added
    · exact rest.deposits other earlier
    · obtain ⟨id, rfl⟩ := honest _ List.mem_cons_self
      rw [List.mem_singleton.mp added]
      exact own written rfl
  | case8 entry past _ _ _ _ _ _ ih =>
    exact ih (fun other member => written other (List.mem_cons_of_mem _ member))
      (fun other member => honest other (List.mem_cons_of_mem _ member))

section Step

variable {config : Config} {store after : Store} {index : Nat} {op : Op} {env : Env} {answer : Res op}

/-- Everything one statement can do to the committed rows. -/
inductive ViewChange (store after : Store) (written : Posting) : Op → Prop where
  | none (op : Op) (same : after.view = store.view) : ViewChange store after written op
  | opened (userId : Uuid) (network : String) (same : after.view = { store.view with
      accounts := store.view.accounts ++ [⟨store.nextId, userId, network, 0, none⟩] }) :
      ViewChange store after written (.insertAccount userId network)
  | addressed (id : Uuid) (address : String) (same : after.view = { store.view with
      accounts := store.view.accounts.map (fun account =>
        if account.id = id then { account with depositAddress := some address } else account) }) :
      ViewChange store after written (.setDepositAddress id address)
  | posted (same : after.view = store.view.post written) : ViewChange store after written .commit

theorem viewChange_exec {past : Nat → Past} (linked : Linked store past)
    (executed : exec index op env store = some (answer, after)) : ViewChange store after (posting (past index)) op := by
  cases op with
  | insertAccount userId network =>
    simp only [exec] at executed
    split at executed
    · cases executed
      exact .none _ rfl
    · cases executed
      exact .opened userId network (by simp [Store.view])
  | setDepositAddress id address =>
    simp only [exec] at executed
    split at executed
    · cases executed
      refine .addressed id address ?_
      simp only [Store.view, List.map_map]
      congr 1
      apply List.map_congr_left
      intro slot _
      simp only [Function.comp_apply]
      split <;> rfl
    · cases executed
  | commit =>
    simp only [exec] at executed
    split at executed
    · cases executed
      exact .none _ (view_rollback store index)
    · cases executed
      exact .posted (linked.view_commit index)
  | rollback =>
    cases executed
    exact .none _ (view_rollback store index)
  | lockAccount userId network =>
    simp only [exec] at executed
    split at executed
    · cases executed
      exact .none _ rfl
    · obtain ⟨⟨found, other⟩, locked, same⟩ := Option.map_eq_some_iff.mp executed
      cases same
      exact .none _ (view_lockSlot locked)
  | addCredits credit =>
    simp only [exec] at executed
    split at executed
    · cases executed
      exact .none _ rfl
    · obtain ⟨⟨found, other⟩, locked, same⟩ := Option.map_eq_some_iff.mp executed
      cases same
      exact .none _ (view_lockSlot locked)
  | insertCharge new =>
    simp only [exec] at executed
    split at executed
    · cases executed
      exact .none _ rfl
    · obtain ⟨inserted, done, same⟩ := Option.map_eq_some_iff.mp executed
      cases inserted with
      | error error =>
        cases same
        exact .none _ rfl
      | ok charges =>
        cases same
        obtain ⟨rfl, _⟩ := Linked.insertUnique_ok done
        exact .none _ (by simp only [Store.view, Versioned.committed_append])
  | insertDeposit new =>
    simp only [exec] at executed
    split at executed
    · cases executed
      exact .none _ rfl
    · obtain ⟨inserted, done, same⟩ := Option.map_eq_some_iff.mp executed
      cases inserted with
      | error error =>
        cases same
        exact .none _ rfl
      | ok deposits =>
        cases same
        obtain ⟨rfl, _⟩ := Linked.insertUnique_ok done
        exact .none _ (by simp only [Store.view, Versioned.committed_append])
  | begin =>
    simp only [exec] at executed
    split at executed <;> (cases executed; exact .none _ rfl)
  | selectCharge key kind =>
    simp only [exec] at executed
    split at executed <;> (cases executed; exact .none _ rfl)
  | selectCredits key kind =>
    simp only [exec] at executed
    split at executed <;> (cases executed; exact .none _ rfl)
  | _ =>
    cases executed
    exact .none _ rfl

/-- The account a call has seen is there, under the same id. -/
def AccountFact (store : Store) : (op : Op) → Res op → Prop
  | .selectAccount userId network, found => ∀ account ∈ found, store.Knows account.id userId network
  | .insertAccount userId network, inserted => ∀ account ∈ inserted, store.Knows account.id userId network
  | _, _ => True

theorem AccountFact.later {other : Op} {reply : Res other} (changed : Changed index store after op answer)
    (fact : AccountFact store other reply) : AccountFact after other reply := by
  cases other with
  | selectAccount userId network => exact fun account found => changed.knows (fact account found)
  | insertAccount userId network => exact fun account found => changed.knows (fact account found)
  | _ => trivial

theorem accountFact_of_exec (executed : exec index op env store = some (answer, after)) : AccountFact after op answer := by
  cases op with
  | selectAccount userId network =>
    cases executed
    rintro account seen
    obtain ⟨slot, found, rfl⟩ := Option.map_eq_some_iff.mp seen
    obtain ⟨member, own⟩ := has_of_findSlot found
    exact ⟨slot, member, rfl, own⟩
  | insertAccount userId network =>
    simp only [exec] at executed
    split at executed
    · cases executed
      intro account absent
      cases absent
    · cases executed
      rintro account same
      cases same
      exact ⟨_, List.mem_append_right _ (List.mem_singleton_self _), rfl, rfl, rfl⟩
  | _ => trivial

end Step

abbrev BillingThread := Thread Op Res Call Thrown Reply

/-- What is known of the calls: which accounts they have seen, and whose rows they have written. -/
structure Tended (config : Config) (store : Store) (calls : Nat → Option BillingThread) : Prop where
  registered : Registered config store
  seen : Machine.Backed AccountFact store calls
  written : ∀ index thread, calls index = some thread → ∀ entry ∈ thread.history,
    (∀ writer ∈ writes entry.1, writer = thread.tag.tenant) ∧ answers entry.1 entry.2

namespace Tended

variable {config : Config} {system : BillingSystem} {index : Nat} {env : Env} {thread : BillingThread} {op : Op}
  {answer : Res op} {rest : Prog Reply} {after : Store}

/-- The account a call addresses is its own. -/
theorem knows (tended : Tended config system.world system.calls) (found : system.calls index = some thread) {account : BillingAccount}
    {userId : Uuid} {network : String} (saw : Saw thread.history userId network account) :
    system.world.Knows account.id userId network := by
  rcases saw with selected | inserted
  · exact tended.seen index thread found _ _ selected account rfl
  · exact tended.seen index thread found _ _ inserted account rfl

theorem registered_act (tended : Tended config system.world system.calls)
    (act : (machine config).Act (fun call => own config call.tenant) system index env thread op answer rest after) :
    Registered config after := by
  cases changed_exec act.executed with
  | frame _ _ accounts _ => exact tended.registered.same accounts
  | discarded _ _ accounts _ => exact tended.registered.same accounts
  | settled accounts _ => exact tended.registered.same accounts
  | opened userId network same =>
    rw [same]
    exact tended.registered.opened userId network
  | addressed id address same =>
    obtain ⟨_, derived, account, saw, rfl⟩ := act.before
    rw [same]
    exact tended.registered.addressed (tended.knows act.found saw) derived
  | inserted new free same =>
    rw [same]
    exact tended.registered.same ⟨rfl, Nat.le_succ _⟩

theorem act (tended : Tended config system.world system.calls)
    (act : (machine config).Act (fun call => own config call.tenant) system index env thread op answer rest after) :
    Tended config after (Function.update system.calls index (some (thread.resume ⟨op, answer⟩ rest))) := by
  have changed := changed_exec act.executed
  refine ⟨tended.registered_act act, ?_, ?_⟩
  · refine tended.seen.update (fun _ _ fact => fact.later changed) (fun other reply heard => ?_)
    rcases List.mem_cons.mp heard with same | earlier
    · cases same
      exact accountFact_of_exec act.executed
    · exact (tended.seen index thread act.found other reply earlier).later changed
  · intro other later found entry member
    rcases Machine.calls_update found with ⟨rfl, rfl⟩ | ⟨_, found⟩
    · rcases List.mem_cons.mp member with rfl | earlier
      · exact ⟨act.before.1, act.known⟩
      · exact tended.written other thread act.found entry earlier
    · exact tended.written other later found entry member

/-- A call that starts or stops. -/
theorem replace {store after : Store} {calls : Nat → Option BillingThread} (tended : Tended config store calls)
    (changed : Changed index store after .rollback ()) (same : store.SameAccounts after) {replaced : BillingThread}
    (echoes : Machine.Echoes calls index replaced) : Tended config after (Function.update calls index (some replaced)) := by
  refine ⟨tended.registered.same same, tended.seen.replace echoes (fun _ _ fact => fact.later changed), ?_⟩
  intro other later found entry member
  rcases echoes.earlier found with none | ⟨earlier, early, tag, history⟩
  · rw [none] at member
    cases member
  · rw [history] at member
    rw [tag]
    exact tended.written other earlier early entry member

theorem close_eq (index : Nat) (call : Call) (program : Prog Reply) (store : Store) :
    (machine config).close index call program store = store := by
  simp only [Machine.close, machine]
  split <;> rfl

theorem moved {event : Event Env Call} {store : Store} {calls : Nat → Option BillingThread}
    (tended : Tended config system.world system.calls)
    (move : (machine config).Move (fun call => own config call.tenant) system event store calls) :
    Tended config store calls := by
  cases move with
  | start call world free entered path =>
    cases entered
    rw [close_eq]
    exact tended.replace (.frame _ _ ⟨rfl, le_refl _⟩ rfl) ⟨rfl, le_refl _⟩ (.inl rfl)
  | step index env thread op answer rest world act =>
    rw [close_eq]
    exact tended.act act
  | cut index thread found running =>
    have echoes : Machine.Echoes system.calls index { thread with cut := true } := .inr ⟨thread, found, rfl, rfl⟩
    exact tended.replace (.discarded _ _ sameAccounts_rollback rfl) sameAccounts_rollback echoes

/-- A statement of another tenant's call changes no committed row of this one. -/
theorem view_act (tended : Tended config system.world system.calls) (linked : Linked system.world system.past)
    (act : (machine config).Act (fun call => own config call.tenant) system index env thread op answer rest after)
    {tenant : Tenant} (other : thread.tag.tenant ≠ tenant) : SameLedger tenant system.world.view after.view := by
  cases viewChange_exec linked act.executed with
  | none _ same =>
    rw [same]
    exact .refl tenant _
  | opened userId network same =>
    have mine : (⟨userId, network⟩ : Tenant) = thread.tag.tenant := act.before.1 _ rfl
    rw [same]
    refine ⟨ofTenant_append _ (fun row member => ?_), rfl, rfl⟩
    rw [List.mem_singleton.mp member]
    exact fun equal => other (mine.symm.trans equal)
  | addressed id address same =>
    obtain ⟨_, derived, account, saw, rfl⟩ := act.before
    obtain ⟨slot, there, drawn, own⟩ := tended.knows act.found saw
    rw [same]
    refine ⟨filter_map_outside (fun row member => ?_), rfl, rfl⟩
    by_cases named : row.id = account.id
    · obtain ⟨held, inside, rfl⟩ := List.mem_map.mp member
      obtain rfl : held = slot := List.inj_on_of_nodup_map tended.registered.ids inside there (named.trans drawn.symm)
      have mine : creditTenant held.row = thread.tag.tenant := congrArg₂ Tenant.mk own.1 own.2
      rw [if_pos named]
      exact .inr ⟨decide_eq_false (mine ▸ other), decide_eq_false (mine ▸ other)⟩
    · exact .inl (if_neg named)
  | posted same =>
    rw [same, Machine.past_of_found act.found act.alive]
    refine sameLedger_post (posting_of ?_ ?_) other
    · exact fun entry member => (tended.written index thread act.found entry member).1
    · exact fun entry member => (tended.written index thread act.found entry member).2

end Tended

/-! ### Every run -/

/-- The event is no statement of a call of the tenant. -/
def Elsewhere (tenant : Tenant) (system : BillingSystem) (event : Event Env Call) : Prop :=
  ∀ index env thread, event = .step index env → system.calls index = some thread → thread.tag.tenant ≠ tenant

theorem Tended.view_moved {config : Config} {system : BillingSystem} {event : Event Env Call} {store : Store}
    {calls : Nat → Option BillingThread} {tenant : Tenant} (tended : Tended config system.world system.calls)
    (linked : Linked system.world system.past)
    (move : (machine config).Move (fun call => own config call.tenant) system event store calls)
    (elsewhere : Elsewhere tenant system event) : SameLedger tenant system.world.view store.view := by
  cases move with
  | start call world free entered path =>
    cases entered
    rw [close_eq]
    exact .refl tenant _
  | step index env thread op answer rest world act =>
    rw [close_eq]
    exact tended.view_act linked act (elsewhere index env thread rfl act.found)
  | cut index thread found running =>
    change SameLedger tenant system.world.view (system.world.rollback index).view
    rw [view_rollback]
    exact .refl tenant _

theorem tended_start (config : Config) : Tended config start.world start.calls := by
  refine ⟨⟨?_, ?_, ?_⟩, ?_, ?_⟩
  all_goals simp [start, System.calls, Machine.Backed]

/-- From any reachable state on, as long as only calls of others take steps, with any statement
failing and any call cut off, no account, charge or deposit of a tenant changes. -/
theorem ledger_untouched (config : Config) (system later : BillingSystem) (tenant : Tenant)
    (reached : (machine config).Reaches start system) (run : (machine config).Run (Elsewhere tenant) system later) :
    SameLedger tenant system.world.view later.world.view := by
  induction run with
  | refl => exact .refl tenant _
  | step before elsewhere stepped ih =>
    have onward := reached.trans before.reaches
    have linked := (reached_sane onward).2.linked
    have idle : Machine.Kept (fun call : Call => own config call.tenant) start := by
      intro index thread found
      simp [start] at found
    obtain ⟨kept, tended⟩ := onward.tracked (owns config) (Tended config) idle (tended_start config)
      (fun _ tended _ move => tended.moved move)
    have effect := (machine config).effect_of_next stepped
    exact ih.trans (tended.view_moved linked (kept.move (owns config) effect) elsewhere)

/-! ### Another user's deposit and operation -/

def acting (system : BillingSystem) : Event Env Call → Option BillingThread
  | .step index _ => system.calls index
  | _ => none

theorem elsewhere_of_acting {tenant : Tenant} {system : BillingSystem} {event : Event Env Call}
    (acts : ∀ thread ∈ acting system event, thread.tag.tenant ≠ tenant) : Elsewhere tenant system event := by
  rintro index env thread rfl found
  exact acts thread found

/-- User 2 declares the deposit of user 1 and asks for the refund of an operation of user 1; a call
of user 1 is cut off meanwhile. -/
def foreignEvents : List (Event Env Call) :=
  .start (.recordDeposit 2 "testnet" "digest") :: List.replicate 1 (.step 4 calm) ++
  .start (.refund ⟨2, "testnet", "sign", 7, 10, "failed"⟩) :: List.replicate 5 (.step 5 calm) ++
  .start (.charge ⟨1, "testnet", "sign", 9, 5, none⟩) :: .cut 6 ::
  .start (.charge ⟨2, "testnet", "sign", 9, 5, none⟩) :: List.replicate 5 (.step 7 calm)

theorem ledger_untouched_sample : ∃ system later, (machine sampleConfig).Reaches start system ∧
    system.world.view.balance 1 "testnet" = 90 ∧ (machine sampleConfig).Run (Elsewhere ⟨1, "testnet"⟩) system later ∧
    later.threads.length = 8 ∧ SameLedger ⟨1, "testnet"⟩ system.world.view later.world.view := by
  have played : ∃ system ∈ (machine sampleConfig).play start sampleEvents, system.world.view.balance 1 "testnet" = 90 ∧
      ∃ later ∈ (machine sampleConfig).playWhere
        (fun system event => ∀ thread ∈ acting system event, thread.tag.tenant ≠ ⟨1, "testnet"⟩) system foreignEvents,
        later.threads.length = 8 := by
    decide +kernel
  obtain ⟨system, first, balance, later, second, busy⟩ := played
  have reached := Machine.reaches_of_play first
  have run := (Machine.run_of_playWhere second).mono (fun _ _ => elsewhere_of_acting)
  exact ⟨system, later, reached, balance, run, busy,
    ledger_untouched sampleConfig system later ⟨1, "testnet"⟩ reached run⟩

end MpcKit.Billing
