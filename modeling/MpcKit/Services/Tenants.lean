import MpcKit.Billing.Tenants
import MpcKit.Services.Presigns

/-! What the calls of one user and network can write: rows of that user and network, whatever ids,
keys and bytes the caller sent. -/

namespace MpcKit.Services
open MpcKit.Backend MpcKit.Async
open MpcKit.Billing (Ledger BillingAccount BillingCharge BillingDeposit Tenant ofTenant creditTenant chargeTenant depositTenant
  SameLedger sameLedger_openAccount sameLedger_charge sameLedger_refund)
open MpcKit.Sign (Account DWallet SignRequest LedgerOp)

def requestTenant (row : SignRequest) : Tenant := ⟨row.userId, row.network⟩

def dwalletTenant (row : DWallet) : Tenant := ⟨row.userId, row.network⟩

def accountTenant (row : Account) : Tenant := ⟨row.userId, row.network⟩

def keyTenant (row : Wallets.EncryptionKey) : Tenant := ⟨row.userId, row.network⟩

/-- Everything the tables hold of one tenant. -/
structure Share where
  signRequests : List SignRequest
  dwallets : List DWallet
  accounts : List Account
  keys : List Wallets.EncryptionKey
  credits : List BillingAccount
  charges : List BillingCharge
  deposits : List BillingDeposit
  deriving DecidableEq

def World.share (world : World) (tenant : Tenant) : Share where
  signRequests := ofTenant requestTenant tenant world.sign.signRequests.rows
  dwallets := ofTenant dwalletTenant tenant world.sign.dwallets.rows
  accounts := ofTenant accountTenant tenant world.sign.accounts.rows
  keys := ofTenant keyTenant tenant world.keys.rows
  credits := ofTenant creditTenant tenant world.sign.ledger.accounts
  charges := ofTenant chargeTenant tenant world.sign.ledger.charges
  deposits := ofTenant depositTenant tenant world.sign.ledger.deposits

/-- A call works on behalf of a tenant. A worker works for the tenant of its request, as the
request is there or as the worker has read it; the sweep of stuck requests works for everybody. -/
def Concerns (world : World) (thread : ServiceThread) (tenant : Tenant) : Prop :=
  match thread.tag with
  | .inl (.prepare args) => (⟨args.userId, args.network⟩ : Tenant) = tenant
  | .inl (.submit args) => (⟨args.userId, args.network⟩ : Tenant) = tenant
  | .inl (.process signRequestId _) =>
      (∃ row ∈ world.sign.signRequests.get signRequestId, requestTenant row = tenant) ∨
        Saw thread signRequestId tenant.userId tenant.network
  | .inl (.sweepStuckPrepared _) => True
  | .inl _ => False
  | .inr call => (⟨call.user, call.network⟩ : Tenant) = tenant

/-! ### The ledger -/

section Ledger

variable {tenant : Tenant} {ledger : Ledger} {id : Uuid}

/-- A ledger transaction about another tenant. -/
theorem sameLedger_exec {op : LedgerOp} {userId : Uuid} {network : String} (on : op.On userId network)
    (other : (⟨userId, network⟩ : Tenant) ≠ tenant) : SameLedger tenant ledger (op.exec ledger id).2.1 := by
  cases op with
  | openAccount user net =>
    obtain ⟨rfl, rfl⟩ := on
    exact sameLedger_openAccount other
  | charge args =>
    obtain ⟨rfl, rfl⟩ := on
    exact sameLedger_charge other
  | refund args =>
    obtain ⟨rfl, rfl⟩ := on
    exact sameLedger_refund other

theorem sameLedger_ledgerExec {env : Wallets.Env} {op : LedgerOp} {userId : Uuid} {network : String}
    (on : op.On userId network) (other : (⟨userId, network⟩ : Tenant) ≠ tenant) :
    SameLedger tenant ledger (Wallets.ledgerExec env ledger id op).2 := by
  cases op with
  | openAccount user net =>
    obtain ⟨rfl, rfl⟩ := on
    exact sameLedger_openAccount other
  | charge args =>
    obtain ⟨rfl, rfl⟩ := on
    unfold Wallets.ledgerExec
    dsimp only
    split
    · exact sameLedger_charge other
    · exact .refl tenant ledger
  | refund args =>
    obtain ⟨rfl, rfl⟩ := on
    unfold Wallets.ledgerExec
    dsimp only
    split
    · exact sameLedger_refund other
    · exact .refl tenant ledger

end Ledger

/-! ### The other statements -/

/-- The request a statement writes. -/
def target : Sign.SignOp → Option Uuid
  | .delete id => some id
  | .setPresign id _ => some id
  | .setQueued id _ _ => some id
  | .setSubmitted id _ => some id
  | .setSession id _ => some id
  | .setCompleted id _ => some id
  | .setFailed id _ _ => some id
  | _ => none

def inserts : Sign.SignOp → Option Sign.NewSignRequest
  | .insert new => some new
  | _ => none

/-- A statement on requests of other tenants. -/
theorem requests_of_exec {tenant : Tenant} {op : Sign.SignOp} {env : Sign.Env} {table : Sign.SignTable}
    (written : ∀ id ∈ target op, ∀ row, table.get id = some row → requestTenant row ≠ tenant)
    (inserted : ∀ new ∈ inserts op, (⟨new.userId, new.network⟩ : Tenant) ≠ tenant) :
    ofTenant requestTenant tenant (op.exec env table).2.rows = ofTenant requestTenant tenant table.rows := by
  have set : ∀ {id : Uuid} {change : Sign.SignRequest.Change},
      (∀ row, table.get id = some row → requestTenant row ≠ tenant) →
      (∀ row, requestTenant (change row) = requestTenant row) →
      ofTenant requestTenant tenant (table.modify id change).rows = ofTenant requestTenant tenant table.rows := by
    intro id change others keeps
    refine Table.filter_modify (fun row found => ⟨decide_eq_false (others row found), decide_eq_false ?_⟩)
    rw [keeps]
    exact others row found
  cases op with
  | insert new =>
    simp only [Sign.SignOp.exec]
    split
    · rfl
    · split
      next after done => exact Table.filter_insert done (decide_eq_false (inserted new rfl))
      · rfl
  | delete id => exact Table.filter_delete (fun row found => decide_eq_false (written id rfl row found))
  | setPresign id presignId => exact set (written id rfl) (fun _ => rfl)
  | setQueued id signature session => exact set (written id rfl) (fun _ => rfl)
  | setSubmitted id digest => exact set (written id rfl) (fun _ => rfl)
  | setSession id session => exact set (written id rfl) (fun _ => rfl)
  | setCompleted id signature => exact set (written id rfl) (fun _ => rfl)
  | setFailed id code message => exact set (written id rfl) (fun _ => rfl)
  | _ => rfl

section Step

variable {config : Config} {index : Nat} {env : Env} {world after : World} {thread : ServiceThread}
  {calls : Nat → Option ServiceThread} {tenant : Tenant}

/-- A request a call writes is not another tenant's. -/
theorem written_elsewhere {op : Sign.SignOp} (registry : Registry world calls) (found : calls index = some thread)
    (elsewhere : ¬Concerns world thread tenant) (before : (sources config thread.tag).before thread.history (.inl (.sign op)))
    {id : Uuid} (writes : target op = some id) {row : SignRequest} (held : world.sign.signRequests.get id = some row) :
    requestTenant row ≠ tenant := by
  obtain ⟨own, past, tag, history, sourced⟩ := sourced_sign before
  have drawn : ∀ args, own = .prepare args → Heard past .randomUUID id → requestTenant row ≠ tenant := by
    rintro args rfl heard
    have drew : Drew thread id := by
      rw [Drew, history]
      exact heard.within signing
    have belongs := registry.own index thread args id row found tag drew held
    rw [requestTenant, belongs.userId, belongs.network]
    simpa only [Concerns, tag] using elsewhere
  have served : ∀ job, own = .process id job → requestTenant row ≠ tenant := by
    rintro job rfl same
    simp only [Concerns, tag] at elsewhere
    exact elsewhere (.inl ⟨row, held, same⟩)
  cases op with
  | delete target =>
    cases writes
    obtain ⟨args, same, heard⟩ := sourced
    exact drawn args same heard
  | setPresign target presignId =>
    cases writes
    obtain ⟨args, dw, bucket, same, _, heard, _⟩ := sourced
    exact drawn args same heard
  | setQueued target signature session =>
    cases writes
    obtain ⟨args, seen, rfl, heard⟩ := sourced
    have saw : Saw thread id args.userId args.network := by
      apply Saw.owned id args.userId args.network seen
      rw [history]
      exact heard.within signing
    obtain ⟨user, net⟩ := (registry.seen index thread id _ _ found saw).row row held
    rw [requestTenant, user, net]
    simpa only [Concerns, tag] using elsewhere
  | setSubmitted target digest =>
    cases writes
    obtain ⟨job, same⟩ := sourced
    exact served job same
  | setSession target session =>
    cases writes
    obtain ⟨job, same⟩ := sourced
    exact served job same
  | setCompleted target signature =>
    cases writes
    obtain ⟨job, same⟩ := sourced
    exact served job same
  | setFailed target code message =>
    cases writes
    cases own with
    | process signRequestId job =>
      cases sourced
      exact served job rfl
    | sweepStuckPrepared olderThanSec =>
      simp only [Concerns, tag] at elsewhere
      exact absurd trivial elsewhere
    | _ => exact False.elim sourced
  | _ => cases writes

/-- Nor is a request it inserts. -/
theorem inserted_elsewhere {op : Sign.SignOp} (elsewhere : ¬Concerns world thread tenant)
    (before : (sources config thread.tag).before thread.history (.inl (.sign op))) :
    ∀ new ∈ inserts op, (⟨new.userId, new.network⟩ : Tenant) ≠ tenant := by
  intro new made
  cases op with
  | insert row =>
    cases made
    obtain ⟨own, past, tag, _, args, dw, rfl, _, _, same⟩ := sourced_sign before
    rw [same]
    change (⟨args.userId, args.network⟩ : Tenant) ≠ tenant
    simpa only [Concerns, tag] using elsewhere
  | _ => cases made

/-- Credits a call moves are not another tenant's. -/
theorem billed_elsewhere {past : History Sign.Op Sign.Res} {own : Sign.Call} (elsewhere : ¬Concerns world thread tenant)
    (tag : thread.tag = .inl own) (history : thread.history = past.map signing.entry) {userId : Uuid} {network : String}
    (bills : Sign.Bills own past userId network) : (⟨userId, network⟩ : Tenant) ≠ tenant := by
  rcases bills with ⟨args, rfl, rfl, rfl⟩ | ⟨id, code, message, row, fails, heard, rfl, rfl⟩
  · simpa only [Concerns, tag] using elsewhere
  · cases own with
    | process signRequestId job =>
      cases fails
      rintro rfl
      simp only [Concerns, tag] at elsewhere
      apply elsewhere
      right
      apply Saw.failed id code message row
      rw [history]
      exact heard.within signing
    | sweepStuckPrepared olderThanSec =>
      simp only [Concerns, tag] at elsewhere
      exact absurd trivial elsewhere
    | _ => exact False.elim fails

/-- An operation of the sign services changes no row of a tenant its call does not concern. -/
theorem share_sign {op : Sign.Op} {answer : Sign.Res op} (booked : Booked world calls) (found : calls index = some thread)
    (elsewhere : ¬Concerns world thread tenant) (before : (sources config thread.tag).before thread.history (.inl op))
    (executed : exec config index (.inl op) env world = some (answer, after)) : after.share tenant = world.share tenant := by
  obtain ⟨_, sign, done, rfl⟩ := exec_sign executed
  cases op with
  | sign op =>
    cases done
    have same : ofTenant requestTenant tenant (op.exec env.sign world.sign.signRequests).2.rows =
        ofTenant requestTenant tenant world.sign.signRequests.rows := requests_of_exec
      (fun id writes row held => written_elsewhere booked.registry found elsewhere before writes held)
      (inserted_elsewhere elsewhere before)
    simp only [World.share, same]
  | ledger op =>
    cases done
    obtain ⟨own, past, tag, history, userId, network, on, bills⟩ := sourced_sign before
    have same : SameLedger tenant world.sign.ledger (op.exec world.sign.ledger world.sign.nextId).2.1 :=
      sameLedger_exec on (billed_elsewhere elsewhere tag history bills)
    simp only [World.share, same.credits, same.charges, same.deposits]
  | wallet op =>
    cases done
    cases op with
    | setNek id nek =>
      obtain ⟨own, past, tag, history, ⟨args, dw, rfl, chosen, rfl⟩, _⟩ := sourced_sign before
      have read := booked.backed index thread found
      rw [history] at read
      obtain ⟨⟨named, row, held, alike⟩, user, net⟩ := read _ _ (Heard.within chosen signing) dw rfl
      have same : ofTenant dwalletTenant tenant (world.sign.dwallets.modify dw.id (Sign.DWallet.toNek nek)).rows =
          ofTenant dwalletTenant tenant world.sign.dwallets.rows := by
        refine Table.filter_modify (fun other there => ?_)
        rw [named, held] at there
        cases there
        have apart : dwalletTenant row ≠ tenant := by
          rw [dwalletTenant, alike.userId, alike.network, user, net]
          simpa only [Concerns, tag] using elsewhere
        exact ⟨decide_eq_false apart, decide_eq_false apart⟩
      simp only [World.share, Sign.WalletOp.exec, same]
    | _ => rfl
  | chain op =>
    obtain ⟨reply, _, same⟩ := Option.map_eq_some_iff.mp done
    cases same
    rfl
  | _ =>
    cases done
    rfl

theorem share_wallets {op : Wallets.Op} {answer : Wallets.Res op} (booked : Booked world calls) (found : calls index = some thread)
    (elsewhere : ¬Concerns world thread tenant) (before : (sources config thread.tag).before thread.history (.inr op))
    (executed : exec config index (.inr op) env world = some (answer, after)) : after.share tenant = world.share tenant := by
  obtain ⟨_, wallets, done, rfl⟩ := exec_wallets executed
  obtain ⟨own, past, tag, history, sourced⟩ := sourced_wallets before
  have other : (⟨own.user, own.network⟩ : Tenant) ≠ tenant := by
    simpa only [Concerns, tag] using elsewhere
  cases op with
  | key op =>
    cases op with
    | insert new =>
      obtain ⟨args, rfl, user, net⟩ := sourced
      have apart : (⟨new.userId, new.network⟩ : Tenant) ≠ tenant := by
        rw [user, net]
        exact other
      rcases Wallets.exec_insertKey done with ⟨_, rfl⟩ | ⟨_, _, table, inserted, rfl⟩
      · rfl
      · have same : ofTenant keyTenant tenant table.rows = ofTenant keyTenant tenant world.keys.rows :=
          Table.filter_insert inserted (decide_eq_false apart)
        simp only [World.share, World.withWallets, World.wallets, same]
    | _ =>
      cases done
      rfl
  | account op =>
    cases op with
    | insert new =>
      obtain ⟨⟨args, rfl, user, net⟩, _⟩ := sourced
      have apart : (⟨new.userId, new.network⟩ : Tenant) ≠ tenant := by
        rw [user, net]
        exact other
      rcases Wallets.exec_insertAccount done with ⟨_, rfl⟩ | ⟨_, table, inserted, rfl⟩
      · rfl
      · have same : ofTenant accountTenant tenant table.rows = ofTenant accountTenant tenant world.sign.accounts.rows :=
          Table.filter_insert inserted (decide_eq_false apart)
        simp only [World.share, World.withWallets, World.wallets, same]
    | _ =>
      cases done
      rfl
  | dwallet op =>
    cases op with
    | insert new =>
      obtain ⟨⟨args, rfl, user, net⟩, _⟩ := sourced
      have apart : (⟨new.userId, new.network⟩ : Tenant) ≠ tenant := by
        rw [user, net]
        exact other
      rcases Wallets.exec_insertDwallet done with ⟨_, rfl⟩ | ⟨_, _, table, inserted, rfl⟩
      · rfl
      · have same : ofTenant dwalletTenant tenant table.rows = ofTenant dwalletTenant tenant world.sign.dwallets.rows :=
          Table.filter_insert inserted (decide_eq_false apart)
        simp only [World.share, World.withWallets, World.wallets, same]
    | activate id digest nek =>
      cases done
      obtain ⟨args, dw, account, rfl, joined, rfl, _⟩ := sourced
      have read := booked.backed index thread found
      rw [history] at read
      obtain ⟨⟨named, row, held, alike⟩, user, net⟩ := read _ _ (Heard.within joined dwallets) _ rfl
      dsimp only at named alike user net
      have same : ofTenant dwalletTenant tenant (world.sign.dwallets.modify dw.id (Wallets.DWallet.toActive digest nek)).rows =
          ofTenant dwalletTenant tenant world.sign.dwallets.rows := by
        refine Table.filter_modify (fun other there => ?_)
        rw [named, held] at there
        cases there
        have apart : dwalletTenant row ≠ tenant := by
          rw [dwalletTenant, alike.userId, alike.network, user, net]
          exact other
        exact ⟨decide_eq_false apart, decide_eq_false apart⟩
      change World.share (world.withWallets _ _) tenant = _
      simp only [World.share, World.withWallets, World.wallets, Wallets.DWalletOp.exec, same]
    | _ =>
      cases done
      rfl
  | ledger op =>
    cases done
    have same : SameLedger tenant world.sign.ledger (Wallets.ledgerExec env.wallets world.sign.ledger world.sign.nextId op).2 :=
      sameLedger_ledgerExec sourced other
    change World.share (world.withWallets _ _) tenant = _
    simp only [World.share, World.withWallets, World.wallets, same.credits, same.charges, same.deposits]
  | chain op =>
    obtain ⟨reply, _, same⟩ := Option.map_eq_some_iff.mp done
    cases same
    rfl
  | randomUUID =>
    cases done
    rfl

end Step

/-! ### Every run -/

theorem share_jobs (world : World) (jobs : List Sign.Job) (tenant : Tenant) :
    World.share { world with sign := { world.sign with jobs := jobs } } tenant = world.share tenant := rfl

/-- The event is no operation of a call that works for the tenant. -/
def Elsewhere (tenant : Tenant) (system : ServiceSystem) (event : Event Env Call) : Prop :=
  ∀ index env thread, event = .step index env → system.calls index = some thread → ¬Concerns system.world thread tenant

variable {config : Config}

theorem share_moved {system : ServiceSystem} {event : Event Env Call} {world : World} {calls : Nat → Option ServiceThread}
    {tenant : Tenant} (booked : Booked system.world system.calls)
    (move : (machine config).Move (sources config) system event world calls) (elsewhere : Elsewhere tenant system event) :
    world.share tenant = system.world.share tenant := by
  cases move with
  | start call entered free opened path =>
    obtain ⟨jobs, rfl⟩ := enter_grows opened
    obtain ⟨left, same⟩ := close_grows config system.threads.length call ((machine config).program call)
      { system.world with sign := { system.world.sign with jobs := jobs } }
    rw [same, share_jobs, share_jobs]
  | step index env thread op answer rest after act =>
    obtain ⟨left, same⟩ := close_grows config index thread.tag rest after
    rw [same, share_jobs]
    have apart := elsewhere index env thread rfl act.found
    cases op with
    | inl op => exact share_sign booked act.found apart act.before act.executed
    | inr op => exact share_wallets booked act.found apart act.before act.executed
  | cut index thread found running =>
    obtain ⟨left, same⟩ := leave_grows thread.tag none system.world
    change (leave thread.tag none system.world).share tenant = _
    rw [same, share_jobs]

/-- From any reachable state on, as long as only the calls of others and the maintenance of the
presigns take steps, nothing of what the tables hold of a tenant changes. -/
theorem share_untouched (config : Config) (initial system later : ServiceSystem) (tenant : Tenant)
    (idle : initial.threads = []) (undrawn : ∀ row ∈ initial.world.sign.signRequests.rows, row.id < initial.world.sign.nextId)
    (reached : (machine config).Reaches initial system) (run : (machine config).Run (Elsewhere tenant) system later) :
    later.world.share tenant = system.world.share tenant := by
  induction run with
  | refl => rfl
  | step before elsewhere stepped ih =>
    obtain ⟨kept, booked⟩ := (booked_follows config).reaches idle (booked_of_idle idle undrawn) (reached.trans before.reaches)
    have effect := (machine config).effect_of_next stepped
    exact (share_moved booked (kept.move (honours config) effect) elsewhere).trans ih

/-! ### A stranger who knows the ids of another user -/

/-- Calls of user 2, and the sweep of expired reservations. -/
def stranger : Call → Bool
  | .inl (.prepare args) => args.userId = 2
  | .inl (.submit args) => args.userId = 2
  | .inl (.sweepExpired _) => true
  | .inr call => call.user = 2
  | _ => false

def acting (system : ServiceSystem) : Event Env Call → Option ServiceThread
  | .step index _ => system.calls index
  | _ => none

theorem elsewhere_of_stranger {system : ServiceSystem} {event : Event Env Call}
    (acts : ∀ thread ∈ acting system event, stranger thread.tag = true) : Elsewhere ⟨1, "testnet"⟩ system event := by
  rintro index env thread rfl found concerns
  have strange := acts thread found
  unfold Concerns at concerns
  unfold stranger at strange
  split at concerns
  all_goals simp_all

/-- User 1 has a request with a presign. -/
def ownEvents : List (Event Env Call) := .start (.inl (Sign.samplePrepare "first" [7])) :: steps 0 16 calm

/-- User 2 signs with the dwallet of user 1, submits its request and accepts its share; the sweep
takes the presign back meanwhile. -/
def strangerEvents : List (Event Env Call) :=
  .start (.inl (.prepare ⟨2, "testnet", "first", 1, 0, 0, [7]⟩)) :: steps 1 2 calm ++
    .start (.inl (.submit ⟨2, "testnet", 10, [1], [2]⟩)) :: steps 2 1 calm ++
    .start (.inr (.accept ⟨2, "testnet", 1, "0xshare", [5]⟩)) :: steps 3 1 calm ++
    .start (.inr (.register ⟨2, "testnet", 0, [1], [2], [3]⟩)) :: steps 4 5 calm ++
    .start (.inl (.sweepExpired 300)) :: steps 5 3 ⟨Sign.later, Wallets.calm⟩

theorem share_untouched_sample : ∃ system later, (machine sampleConfig).Reaches signStart system ∧ Holds 2 system ∧
    (machine sampleConfig).Run (Elsewhere ⟨1, "testnet"⟩) system later ∧ later.threads.length = 6 ∧
    later.world.share ⟨1, "testnet"⟩ = system.world.share ⟨1, "testnet"⟩ := by
  obtain ⟨system, later, first, holds, second, busy⟩ : ∃ system later,
      (machine sampleConfig).play signStart ownEvents = some system ∧ Holds 2 system ∧
      (machine sampleConfig).playWhere (fun system event => ∀ thread ∈ acting system event, stranger thread.tag = true)
        system strangerEvents = some later ∧ later.threads.length = 6 := by
    have played : ∃ system ∈ (machine sampleConfig).play signStart ownEvents, Holds 2 system ∧
        ∃ later ∈ (machine sampleConfig).playWhere (fun system event => ∀ thread ∈ acting system event, stranger thread.tag = true)
          system strangerEvents, later.threads.length = 6 := by
      decide +kernel
    obtain ⟨system, first, holds, later, second, busy⟩ := played
    exact ⟨system, later, first, holds, second, busy⟩
  have reached := Machine.reaches_of_play first
  have run := (Machine.run_of_playWhere second).mono (fun _ _ => elsewhere_of_stranger)
  exact ⟨system, later, reached, holds, run, busy,
    share_untouched sampleConfig signStart system later ⟨1, "testnet"⟩ rfl (fun row member => nomatch member) reached run⟩

end MpcKit.Services
