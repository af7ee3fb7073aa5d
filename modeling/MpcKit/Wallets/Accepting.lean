import MpcKit.Wallets.Stages

/-! Whether the row of a dwallet catches up with the chain once its share was accepted there. -/

namespace MpcKit.Wallets
open MpcKit.Backend MpcKit.Async
open MpcKit.Sign (DWallet)

def Op.accepts : Op → Bool
  | .chain (.execute _ (.acceptUserShare _)) => true
  | _ => false

def Stage.isAccepted : Stage → Bool
  | .accepted _ _ => true
  | _ => false

/-- No accept lands without its row update: its answer arrives, and its call lives on to the update. -/
def Lossless (config : Config) (system : WalletSystem) : Event Env Call → Prop
  | .step index env => ∀ thread ∈ system.calls index, ∀ op ∈ thread.program.awaits, op.accepts = true →
      env.outcome.lands = true → env.reported = true
  | .cut index => ∀ thread ∈ system.calls index, (stage config thread).isAccepted = false
  | .start _ => True

instance (config : Config) (system : WalletSystem) (event : Event Env Call) : Decidable (Lossless config system event) := by
  unfold Lossless
  induction event using Event.casesOn <;> infer_instance

/-- The call ended by returning an active row for the dwallet. -/
def ReturnsActive (system : WalletSystem) (index : Nat) (id : Uuid) : Prop :=
  ∃ thread row, system.calls index = some thread ∧ thread.program.outcome = some (.ok (.accepted (some row))) ∧
    row.id = id ∧ row.status = .active

/-- The next call accepts a share, with nobody else running. -/
def alone (system : WalletSystem) (args : AcceptUserShareArgs) (envs : List Env) : List (Event Env Call) :=
  .start (.accept args) :: envs.map (.step system.threads.length)

/-- When a dwallet is active on chain and no call is running, the next accept returns it as active:
it does in its first step, and it never ends otherwise. -/
def Converges (config : Config) (system : WalletSystem) : Prop :=
  ∀ args dw account, joined system.world.dwallets system.world.accounts args.dwalletId args.userId args.network =
      some (dw, account) → dw.suiDwalletId ∈ system.world.chain.active → (∀ thread ∈ system.threads, ¬thread.Running) →
    (∀ env, ∃ after, (machine config).play system (alone system args [env]) = some after ∧
      ReturnsActive after system.threads.length args.dwalletId) ∧
    ∀ envs after thread result, (machine config).play system (alone system args envs) = some after →
      after.calls system.threads.length = some thread → thread.program.outcome = some result →
      ReturnsActive after system.threads.length args.dwalletId

/-! ### What links rows and chain -/

/-- The dwallet a call is accepting. -/
def Stage.dwallet : Stage → Option DWallet
  | .joined dw => some dw
  | .accepted dw _ => some dw
  | _ => none

/-- The call has accepted the dwallet on chain and will update its row. -/
def Finishing (config : Config) (id : Uuid) (thread : WalletThread) : Prop :=
  thread.Running ∧ ∃ dw tx, stage config thread = .accepted dw tx ∧ dw.id = id

def Named (dwallets : Table DWallet.id) (dw : DWallet) : Prop :=
  ∃ row, dwallets.get dw.id = some row ∧ row.suiDwalletId = dw.suiDwalletId

structure Linked (config : Config) (world : World) (calls : Nat → Option WalletThread) : Prop where
  unique : (world.dwallets.rows.map DWallet.suiDwalletId).Nodup
  rooted : ∀ object ∈ world.chain.active, ∃ row ∈ world.dwallets.rows, row.suiDwalletId = object
  named : ∀ index thread, calls index = some thread → ∀ dw ∈ (stage config thread).dwallet, Named world.dwallets dw
  healed : ∀ row ∈ world.dwallets.rows, row.suiDwalletId ∈ world.chain.active →
    row.status = .active ∨ Machine.Someone calls (Finishing config row.id)

variable {config : Config}

/-- A step that leaves dwallets and chain alone, finishes no accept and starts none. -/
theorem Linked.quiet {world after : World} {calls : Nat → Option WalletThread} (linked : Linked config world calls)
    (dwallets : after.dwallets = world.dwallets) (active : after.chain.active = world.chain.active) {index : Nat}
    {replaced : WalletThread}
    (names : ∀ dw ∈ (stage config replaced).dwallet,
      (∃ thread, calls index = some thread ∧ dw ∈ (stage config thread).dwallet) ∨ Named world.dwallets dw)
    (still : ∀ thread id, calls index = some thread → Finishing config id thread → Finishing config id replaced) :
    Linked config after (Function.update calls index (some replaced)) := by
  constructor
  · rw [dwallets]
    exact linked.unique
  · rw [dwallets, active]
    exact linked.rooted
  · rw [dwallets]
    intro other thread found dw accepting
    rcases Machine.calls_update found with ⟨_, rfl⟩ | ⟨_, found⟩
    · rcases names dw accepting with ⟨earlier, there, before⟩ | named
      · exact linked.named index earlier there dw before
      · exact named
    · exact linked.named other thread found dw accepting
  · rw [dwallets, active]
    intro row there landed
    rcases linked.healed row there landed with healed | someone
    · exact .inl healed
    · exact .inr (someone.update (fun thread found finishing => still thread row.id found finishing))

/-! ### The three steps that matter -/

theorem named_of_joined {dwallets : Table DWallet.id} {accounts : Table Sign.Account.id} {id userId : Uuid} {network : String}
    {dw : DWallet} {account : ObjectId} (found : joined dwallets accounts id userId network = some (dw, account)) :
    dwallets.get id = some dw := by
  unfold joined at found
  obtain ⟨row, there, same⟩ := Option.bind_eq_some_iff.mp found
  obtain ⟨_, _, same⟩ := Option.map_eq_some_iff.mp same
  cases same
  have meets := List.find?_some there
  simp only [decide_eq_true_eq] at meets
  have member := Table.get_of_mem (List.mem_of_find?_eq_some there)
  rw [meets.1] at member
  exact member

theorem Named.insert {dwallets after : Table DWallet.id} {row dw : DWallet} (inserted : dwallets.insert row = some after)
    (named : Named dwallets dw) : Named after dw := by
  obtain ⟨old, found, same⟩ := named
  refine ⟨old, ?_, same⟩
  rw [Table.get_insert inserted]
  split
  next taken =>
    have absent := Table.get_of_insert inserted
    rw [← taken, found] at absent
    cases absent
  · exact found

theorem Named.modify {dwallets : Table DWallet.id} {dw : DWallet} (id : Uuid) (digest : String) (nek : Option ObjectId)
    (named : Named dwallets dw) : Named (dwallets.modify id (DWallet.toActive digest nek)) dw := by
  obtain ⟨row, found, same⟩ := named
  refine ⟨_, Table.modify_row found, ?_⟩
  split
  · exact same
  · exact same

theorem Linked.insert {world : World} {calls : Nat → Option WalletThread} (linked : Linked config world calls)
    {row : DWallet} {table : Table DWallet.id} (inserted : world.dwallets.insert row = some table)
    (fresh : ∀ other ∈ world.dwallets.rows, other.suiDwalletId ≠ row.suiDwalletId) (nextId : Uuid) :
    Linked config { world with dwallets := table, nextId := nextId } calls := by
  have rows := Table.rows_insert inserted
  constructor
  · rw [rows, List.map_append, List.nodup_append]
    refine ⟨linked.unique, List.nodup_singleton _, ?_⟩
    rintro object old _ same rfl
    obtain ⟨other, there, rfl⟩ := List.mem_map.mp old
    exact fresh other there (List.mem_singleton.mp same)
  · intro object active
    obtain ⟨other, there, same⟩ := linked.rooted object active
    exact ⟨other, by rw [rows]; exact List.mem_append_left _ there, same⟩
  · intro index thread found dw accepting
    exact (linked.named index thread found dw accepting).insert inserted
  · intro other there active
    rw [rows, List.mem_append, List.mem_singleton] at there
    rcases there with there | rfl
    · exact linked.healed other there active
    · -- A dwallet that is active on chain has its row already.
      obtain ⟨earlier, there, same⟩ := linked.rooted _ active
      exact absurd same (fresh earlier there)

/-- An accept lands, and its call goes on. -/
theorem Linked.land {world : World} {calls : Nat → Option WalletThread} (linked : Linked config world calls)
    {object : ObjectId} (chain : Chain) (active : chain.active = world.chain.active ++ [object]) {index : Nat}
    {replaced : WalletThread} {dw : DWallet} {tx : ExecutedTx} (named : Named world.dwallets dw)
    (same : dw.suiDwalletId = object) (running : replaced.Running) (stands : stage config replaced = .accepted dw tx)
    (before : ∀ thread id, calls index = some thread → ¬Finishing config id thread) :
    Linked config { world with chain := chain } (Function.update calls index (some replaced)) := by
  obtain ⟨row, found, own⟩ := named
  have there := Table.mem_of_get found
  have key : row.id = dw.id := Table.key_of_get found
  constructor
  · exact linked.unique
  · intro other landed
    rw [active, List.mem_append, List.mem_singleton] at landed
    rcases landed with landed | rfl
    · exact linked.rooted other landed
    · exact ⟨row, there, own.trans same⟩
  · intro other thread found dw' accepting
    rcases Machine.calls_update found with ⟨_, rfl⟩ | ⟨_, before⟩
    · rw [stands] at accepting
      cases accepting
      exact ⟨row, by assumption, own⟩
    · exact linked.named other thread before dw' accepting
  · intro other member landed
    rw [active, List.mem_append, List.mem_singleton] at landed
    rcases landed with landed | landed
    · rcases linked.healed other member landed with healed | someone
      · exact .inl healed
      · exact .inr (someone.update (fun thread found finishing => absurd finishing (before thread other.id found)))
    · right
      have equal : other = row :=
        List.inj_on_of_nodup_map linked.unique member there (landed.trans (own.trans same).symm)
      exact .here index ⟨running, dw, tx, stands, by rw [equal, key]⟩

/-- The row update of an accept. -/
theorem Linked.activate {world : World} {calls : Nat → Option WalletThread} (linked : Linked config world calls)
    {index : Nat} {thread replaced : WalletThread} {dw : DWallet} {tx : ExecutedTx} (found : calls index = some thread)
    (stands : stage config thread = .accepted dw tx) (done : stage config replaced = .activated dw) (digest : String)
    (nek : Option ObjectId) (nextId : Uuid) :
    Linked config { world with dwallets := world.dwallets.modify dw.id (DWallet.toActive digest nek), nextId := nextId }
      (Function.update calls index (some replaced)) := by
  -- A row after the update: the same object, active if it is the updated one.
  have moved : ∀ row ∈ (world.dwallets.modify dw.id (DWallet.toActive digest nek)).rows, ∃ old ∈ world.dwallets.rows,
      old.id = row.id ∧ old.suiDwalletId = row.suiDwalletId ∧ (row = old ∨ row.status = .active) ∧
        (old.id = dw.id → row.status = .active) := by
    intro row there
    obtain ⟨old, member, rfl⟩ := List.mem_map.mp there
    refine ⟨old, member, ?_⟩
    simp only [Table.Change.guard]
    split
    · exact ⟨rfl, rfl, .inr rfl, fun _ => rfl⟩
    next other => exact ⟨rfl, rfl, .inl rfl, fun same => absurd same (by simpa using other)⟩
  constructor
  · have same : (world.dwallets.modify dw.id (DWallet.toActive digest nek)).rows.map DWallet.suiDwalletId =
        world.dwallets.rows.map DWallet.suiDwalletId := Table.map_update _ (fun _ => rfl) _
    dsimp only
    rw [same]
    exact linked.unique
  · intro object active
    obtain ⟨row, there, same⟩ := linked.rooted object active
    exact ⟨_, List.mem_map_of_mem there, by simp only [Table.Change.guard]; split <;> exact same⟩
  · intro other rival there dw' accepting
    rcases Machine.calls_update there with ⟨_, rfl⟩ | ⟨_, before⟩
    · rw [done] at accepting
      cases accepting
    · exact (linked.named other rival before dw' accepting).modify dw.id digest nek
  · intro row there active
    obtain ⟨old, member, id, sui, kept, updated⟩ := moved row there
    rcases linked.healed old member (sui ▸ active) with healed | someone
    · rcases kept with rfl | now
      · exact .inl healed
      · exact .inl now
    · rcases someone.split found replaced with ⟨_, dw', tx', standing, own⟩ | someone
      · rw [stands] at standing
        cases standing
        exact .inl (updated own.symm)
      · rw [id] at someone
        exact .inr someone

/-- A call that is not accepting a share finishes no row. -/
theorem not_finishing {thread : WalletThread} {at_ : Stage} (stands : stage config thread = at_) (id : Uuid)
    (free : at_.isAccepted = false) : ¬Finishing config id thread := by
  rintro ⟨_, dw, tx, standing, _⟩
  rw [stands] at standing
  subst standing
  cases free

theorem Linked.step {system : WalletSystem} (linked : Linked config system.world system.calls) {index : Nat} {env : Env}
    {thread : WalletThread} {op : Op} {answer : Res op} {rest : Prog Reply} {after : World}
    (done : WalletAct config system index env thread op answer rest after)
    (lossless : Lossless config system (.step index env)) :
    Linked config after (Function.update system.calls index (some (thread.resume ⟨op, answer⟩ rest))) := by
  have executed : exec config index op env system.world = some (answer, after) := done.executed
  have allowed : Allowed config thread.tag (stage config thread) op := done.before
  obtain ⟨next, awaits, _⟩ := done.awaits
  have moved : stage config (thread.resume ⟨op, answer⟩ rest) = (stage config thread).next op answer :=
    stage_resume thread op answer rest
  generalize tagged : thread.tag = call at allowed
  generalize stands : stage config thread = at_ at allowed moved
  -- A step away from accepting keeps what is known, when the world it leads to does.
  have away : ∀ {world : World}, Linked config world system.calls → after.dwallets = world.dwallets →
      after.chain.active = world.chain.active → at_.isAccepted = false → (at_.next op answer).dwallet = none →
      Linked config after (Function.update system.calls index (some (thread.resume ⟨op, answer⟩ rest))) := by
    intro world known dwallets active free none
    refine known.quiet dwallets active ?_ ?_
    · intro dw accepting
      rw [moved, none] at accepting
      cases accepting
    · intro other id found finishing
      rw [done.found] at found
      cases found
      exact absurd finishing (not_finishing stands id free)
  cases allowed with
  | read _ _ _ reads =>
    have calm := calm_of_reads reads executed
    have same := next_of_reads reads at_ answer
    refine linked.quiet calm.dwallets (by rw [calm.chain]) ?_ ?_
    · intro dw accepting
      rw [moved, same, ← stands] at accepting
      exact .inl ⟨thread, done.found, accepting⟩
    · intro other id found finishing
      rw [done.found] at found
      cases found
      obtain ⟨_, dw, tx, standing, own⟩ := finishing
      rw [stands] at standing
      refine ⟨running_of_open done ?_, dw, tx, ?_, own⟩
      · rw [stands, same, standing]
        exact fun _ ended => ended
      · rw [moved, same, standing]
  | draw _ args paid =>
    cases executed
    exact away linked rfl rfl rfl rfl
  | charge _ args opId paid positive =>
    refine away linked (by cases executed; rfl) (by cases executed; rfl) rfl ?_
    cases answer <;> rfl
  | execute _ network move opId submits =>
    obtain ⟨_, ⟨_, rfl⟩ | ⟨_, _, _, rfl⟩⟩ := exec_execute executed
    · refine away linked rfl rfl rfl ?_
      cases answer <;> rfl
    · refine away linked rfl ?_ rfl ?_
      · cases call <;> cases move <;> first | rfl | cases submits
      · cases answer <;> rfl
  | refund _ args opId error paid positive =>
    cases executed
    exact away linked rfl rfl rfl rfl
  | insertAccount args opId input tx object found =>
    rcases exec_insertAccount executed with ⟨⟨error, rfl⟩, rfl⟩ | ⟨rfl, table, _, rfl⟩
    · exact away linked rfl rfl rfl rfl
    · exact away linked rfl rfl rfl rfl
  | insertKey args opId move tx object suiAddress found submits =>
    rcases exec_insertKey executed with ⟨⟨error, rfl⟩, rfl⟩ | ⟨rfl, _, table, _, rfl⟩
    · exact away linked rfl rfl rfl rfl
    · exact away linked rfl rfl rfl rfl
  | insertDwallet args opId move tx new found submits own waiting =>
    rcases exec_insertDwallet executed with ⟨⟨error, rfl⟩, rfl⟩ | ⟨rfl, fresh, table, inserted, rfl⟩
    · exact away linked rfl rfl rfl rfl
    · exact away (linked.insert inserted fresh _) rfl rfl rfl rfl
  | join args =>
    have found : joined system.world.dwallets system.world.accounts args.dwalletId args.userId args.network = answer := by
      cases executed
      rfl
    refine linked.quiet (by cases executed; rfl) (by cases executed; rfl) ?_ ?_
    · intro dw accepting
      rw [moved] at accepting
      cases answer with
      | none => cases accepting
      | some pair =>
        obtain ⟨row, account⟩ := pair
        cases accepting
        have there := named_of_joined found
        exact .inr ⟨dw, by rw [Table.key_of_get there]; exact there, rfl⟩
    · intro other id found finishing
      rw [done.found] at found
      cases found
      exact absurd finishing (not_finishing stands id rfl)
  | accept args dw network input own =>
    obtain ⟨answered, ⟨fails, rfl⟩ | ⟨lands, _, _, rfl⟩⟩ := exec_execute executed
    · have unreported : env.reported = false := by
        by_contra reported
        rw [lands_of_reported (by simpa using reported)] at fails
        cases fails
      obtain ⟨error, lost⟩ := submitAnswer_of_unreported unreported
      obtain rfl := answered.trans lost
      exact away linked rfl rfl rfl rfl
    · have reported := lossless thread done.found _ (by rw [awaits]; rfl) rfl lands
      obtain rfl := answered.trans (submitAnswer_of_reported reported)
      have named := linked.named index thread done.found dw (by rw [stands]; rfl)
      refine linked.land _ rfl named own.symm (running_of_open done ?_) moved ?_
      · rw [stands]
        exact fun _ ended => ended
      · intro other id found
        rw [done.found] at found
        cases found
        exact not_finishing stands id rfl
  | activate args dw tx nek =>
    cases executed
    exact linked.activate done.found stands moved tx.digest nek _

theorem Linked.moved {system : WalletSystem} (linked : Linked config system.world system.calls) {event : Event Env Call}
    (lossless : Lossless config system event) {world : World} {calls : Nat → Option WalletThread}
    (move : (machine config).Move (ordered config) system event world calls) : Linked config world calls := by
  cases move with
  | step index env thread op answer rest after done =>
    have closed : (machine config).close index thread.tag rest after = after := close_eq index thread.tag rest after
    rw [closed]
    exact linked.step done lossless
  | start call after free entered path =>
    obtain rfl : system.world = after := Option.some.inj entered
    rw [close_eq]
    refine linked.quiet rfl rfl ?_ ?_
    · intro dw accepting
      cases accepting
    · intro thread id found
      rw [free] at found
      cases found
  | cut stopped acting here running =>
    refine linked.quiet rfl rfl ?_ ?_
    · intro dw accepting
      exact .inl ⟨acting, here, accepting⟩
    · rintro thread id found ⟨_, dw, tx, stands, _⟩
      have free := lossless thread found
      rw [stands] at free
      cases free

theorem linked_of_run {initial system : WalletSystem} (idle : initial.threads = [])
    (unique : (initial.world.dwallets.rows.map DWallet.suiDwalletId).Nodup) (inactive : initial.world.chain.active = [])
    (run : (machine config).Run (Lossless config) initial system) : Linked config system.world system.calls := by
  have none : ∀ index, initial.calls index = none := by
    intro index
    simp [System.calls, idle]
  have kept : Machine.Kept (ordered config) initial := by
    intro index thread found
    rw [idle] at found
    cases found
  have start : Linked config initial.world initial.calls := by
    refine ⟨unique, ?_, ?_, ?_⟩
    · intro object active
      rw [inactive] at active
      cases active
    · intro index thread found
      simp [none] at found
    · intro row _ active
      rw [inactive] at active
      cases active
  refine (run.tracked honours (Linked config) kept start ?_).2
  intro system event world calls _ linked lossless move
  exact linked.moved lossless move

/-- An accept of an active row ends with its first statement. -/
theorem accept_of_active (config : Config) (args : AcceptUserShareArgs) :
    ∃ rest, program config (.accept args) =
      .await (.dwallet (.selectJoined args.dwalletId args.userId args.network)) rest ∧
      ∀ dw account, dw.status = .active → rest (some (dw, account)) = .ret (.accepted (some dw)) := by
  refine ⟨_, rfl, fun dw account active => ?_⟩
  simp only [Program.ret_bind, if_pos active]
  rfl

/-- The first step of an accept that finds its row active. -/
theorem first_step {system : WalletSystem} {args : AcceptUserShareArgs} {dw : DWallet} {account : ObjectId}
    (found : joined system.world.dwallets system.world.accounts args.dwalletId args.userId args.network = some (dw, account))
    (active : dw.status = .active) (env : Env) :
    ∃ after thread, (∀ events, (machine config).play system (.start (.accept args) ::
        .step system.threads.length env :: events) = (machine config).play after events) ∧
      after.calls system.threads.length = some thread ∧ thread.program.outcome = some (.ok (.accepted (some dw))) := by
  obtain ⟨rest, awaits, ends⟩ := accept_of_active config args
  have started := Machine.next_start (machine config) (show (machine config).enter (.accept args) system.world =
    some system.world from rfl)
  rw [close_eq] at started
  have here : (system.threads ++ [(machine config).fresh (.accept args)])[system.threads.length]? =
      some ((machine config).fresh (.accept args)) := by simp
  have read : (machine config).exec system.threads.length
      (.dwallet (.selectJoined args.dwalletId args.userId args.network)) env
      (System.world ⟨system.world, system.threads ++ [(machine config).fresh (.accept args)]⟩) =
      some (some (dw, account), { system.world with nextId := system.world.nextId + 1 }) := by
    rw [← found]
    rfl
  have stepped := Machine.next_step (machine config) here rfl awaits read
  rw [ends dw account active] at stepped
  exact ⟨_, _, fun events => (Machine.play_of_next started).trans (Machine.play_of_next stepped),
    List.getElem?_set_self (List.getElem?_eq_some_iff.mp here).1, rfl⟩

theorem Linked.converges {system : WalletSystem} (linked : Linked config system.world system.calls) :
    Converges config system := by
  intro args dw account found active quiet
  have there := named_of_joined found
  have healed : dw.status = .active := by
    rcases linked.healed dw (Table.mem_of_get there) active with healed | ⟨index, thread, here, finishing⟩
    · exact healed
    · exact absurd finishing.1 (quiet thread (List.mem_of_getElem? here))
  have key : dw.id = args.dwalletId := Table.key_of_get there
  constructor
  · intro env
    obtain ⟨after, thread, played, here, ended⟩ := @first_step config _ _ _ _ found healed env
    exact ⟨after, played [], thread, dw, here, ended, key, healed⟩
  · intro envs final last result played beside closed
    cases envs with
    | nil =>
      -- The call was only started.
      obtain ⟨rest, awaits, _⟩ := accept_of_active config args
      rw [alone, Machine.play_of_next (Machine.next_start (machine config) rfl)] at played
      cases played
      simp only [System.calls, List.getElem?_concat_length, Option.some.injEq] at beside
      subst beside
      change (program config (.accept args)).outcome = _ at closed
      rw [awaits] at closed
      cases closed
    | cons env envs =>
      obtain ⟨after, thread, first, here, ended⟩ := @first_step config _ _ _ _ found healed env
      rw [alone, List.map_cons, first] at played
      cases envs with
      | nil =>
        cases played
        exact ⟨thread, dw, here, ended, key, healed⟩
      | cons another envs =>
        rw [List.map_cons, Machine.play, Machine.next_of_ended (machine config) here ended] at played
        cases played

/-- As long as no accept lands without its row update, the next accept of a dwallet that is active
on chain returns the active row. -/
theorem converges_of_lossless (config : Config) (initial system : WalletSystem) (idle : initial.threads = [])
    (unique : (initial.world.dwallets.rows.map DWallet.suiDwalletId).Nodup) (inactive : initial.world.chain.active = [])
    (run : (machine config).Run (Lossless config) initial system) : Converges config system :=
  (linked_of_run idle unique inactive run).converges

/-! ### Accepted on chain, unknown to the database -/

def sampleConfig : Config where
  dkgPriceMicro := 50000
  encryptionKeyPriceMicro := 1000
  signerPubkeyToAddress bytes := .ok (Sign.toHex bytes)
  parseDKGEvent bytes := .ok ⟨Sign.toHex bytes, some "0xshare"⟩

/-- Everything asked for succeeds. -/
def calm : Env where
  db := .ok ()
  rpc := .ok ()
  ika := ⟨"0xika", "0xcoordinator"⟩
  outcome := .success
  executed := ⟨"digest", [], [], []⟩
  object := "0xobject"
  account := "0xaccount"
  networkEncryptionKeyId := some "0xnek"

/-- The gas station's answer is lost after the transaction landed. -/
def lost : Env := { calm with outcome := .unknown "fetch failed" true }

/-- The transaction aborts, as an accept of an active dwallet does. -/
def aborted : Env := { calm with outcome := .reverted "MoveAbort" "digest" }

/-- One dwallet that waits for its user share. -/
def waitingStart : WalletSystem where
  threads := []
  world := {
    keys := .empty _
    accounts := ⟨[⟨1, 7, "testnet", "0xaccount", "dkg"⟩], by simp⟩
    dwallets := ⟨[⟨2, 7, some 1, "testnet", "0xdwallet", 0, "0xnek", none, "zero_trust", .awaitingUserShare, "dkg", none⟩],
      by simp⟩
    ledger := ⟨[], [], []⟩
    chain := ⟨[], [], [], []⟩
    nextId := 10 }

def sampleAccept : AcceptUserShareArgs := ⟨7, "testnet", 2, "0xshare", [1]⟩

def steps (index count : Nat) (env : Env) : List (Event Env Call) := List.replicate count (.step index env)

/-- A first accept goes through. -/
def acceptedOnce : List (Event Env Call) := .start (.accept sampleAccept) :: steps 0 6 calm

/-- The first accept lands and is not heard of. -/
def acceptedUnheard : List (Event Env Call) := .start (.accept sampleAccept) :: steps 0 3 calm ++ steps 0 1 lost

/-- The dwallet is active on chain, and nobody is working on it. -/
def Landed (system : WalletSystem) : Prop :=
  "0xdwallet" ∈ system.world.chain.active ∧ ∀ thread ∈ system.threads, ¬thread.Running

instance (system : WalletSystem) : Decidable (Landed system) := inferInstanceAs (Decidable (_ ∧ _))

theorem converges_sample : ∃ system, (machine sampleConfig).Run (Lossless sampleConfig) waitingStart system ∧
    Landed system ∧ Converges sampleConfig system := by
  obtain ⟨system, run, landed⟩ : ∃ system, (machine sampleConfig).Run (Lossless sampleConfig) waitingStart system ∧
      Landed system := Machine.exists_run acceptedOnce (by decide +kernel)
  exact ⟨system, run, landed, converges_of_lossless sampleConfig waitingStart system rfl (by decide) rfl run⟩

/-- The next accept of the waiting dwallet, active on chain, throws. -/
def Stranded (config : Config) (system : WalletSystem) : Prop := Landed system ∧
  (∃ pair ∈ joined system.world.dwallets system.world.accounts 2 7 "testnet", pair.1.suiDwalletId = "0xdwallet") ∧
  ∃ after ∈ (machine config).play system (alone system sampleAccept [calm, calm, calm, aborted]),
    ∃ thread ∈ after.calls system.threads.length, ∃ result ∈ thread.program.outcome, result.isOk = false

instance (config : Config) (system : WalletSystem) : Decidable (Stranded config system) := inferInstanceAs (Decidable (_ ∧ _))

theorem Stranded.not_converges {system : WalletSystem} (stranded : Stranded config system) : ¬Converges config system := by
  intro converges
  obtain ⟨⟨active, quiet⟩, ⟨⟨dw, account⟩, found, same⟩, after, played, thread, here, result, ended, failed⟩ := stranded
  obtain ⟨_, always⟩ := converges sampleAccept dw account found (by rw [same]; exact active) quiet
  obtain ⟨other, row, there, returned, _⟩ := always _ after thread result played here ended
  rw [Option.mem_def] at here ended
  rw [here] at there
  cases there
  rw [ended] at returned
  cases returned
  cases failed

/-- An accept that landed without its row update is never made up for: the next one throws. -/
theorem not_converges : ∃ system, (machine sampleConfig).Reaches waitingStart system ∧ ¬Converges sampleConfig system := by
  obtain ⟨system, reached, stranded⟩ : ∃ system, (machine sampleConfig).Reaches waitingStart system ∧
      Stranded sampleConfig system := Machine.exists_reaches acceptedUnheard (by decide +kernel)
  exact ⟨system, reached, stranded.not_converges⟩

end MpcKit.Wallets
