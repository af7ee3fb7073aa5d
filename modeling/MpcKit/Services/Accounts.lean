import MpcKit.Services.Facts
import MpcKit.Sign.Exclusivity

/-! Every dwallet row leads to the account its cap was stored in, so every PTB about a dwallet
names the account that holds it. -/

namespace MpcKit.Services
open MpcKit.Backend MpcKit.Async
open MpcKit.Sign (Account DWallet)

/-- The account row a dwallet row leads to is that of the account the cap was stored in. -/
structure Houses (world : World) (dw : DWallet) (account : Account) : Prop where
  leads : dw.accountId = some account.id
  row : world.sign.accounts.get account.id = some account
  stored : ⟨dw.suiDwalletId, account.suiObjectId⟩ ∈ world.stored

structure Housed (world : World) : Prop where
  rows : ∀ id dw, world.sign.dwallets.get id = some dw → ∃ account, Houses world dw account
  made : ∀ cap ∈ world.stored, cap.dwalletId ∈ world.chain.created.map Wallets.Created.object
  once : (world.stored.map StoredCap.dwalletId).Nodup

/-! ### What answers say of accounts -/

def SignFact (world : World) : (op : Sign.Op) → Sign.Res op → Prop
  | .wallet (.selectBySui suiDwalletId), found =>
      ∀ dw ∈ found, dw.suiDwalletId = suiDwalletId ∧ ∃ account, Houses world dw account
  | .wallet (.selectAccount id), found => ∀ account ∈ found, account.id = id ∧ world.sign.accounts.get id = some account
  | _, _ => True

def WalletFact (config : Wallets.Config) (world : World) : (op : Wallets.Op) → Wallets.Res op → Prop
  | .account (.findForUser _ _), found => ∀ account ∈ found, world.sign.accounts.get account.id = some account
  | .account (.insert new), result => ∀ account, result = .ok account →
      world.sign.accounts.get account.id = some account ∧ account.suiObjectId = new.suiObjectId
  | .dwallet (.selectJoined _ _ _), found => ∀ pair ∈ found, ⟨pair.1.suiDwalletId, pair.2⟩ ∈ world.stored
  | .chain (.execute _ (.onboardZeroTrust _)), result => ∀ tx, result = .ok tx →
      ∀ suiDwalletId accountId, Wallets.extractDwalletId config tx = .ok suiDwalletId →
        Wallets.findFirstCreatedByType tx "::account::Account" = .ok accountId → ⟨suiDwalletId, accountId⟩ ∈ world.stored
  | .chain (.execute _ (.addDwalletZeroTrust accountId _)), result => ∀ tx, result = .ok tx →
      ∀ suiDwalletId, Wallets.extractDwalletId config tx = .ok suiDwalletId → ⟨suiDwalletId, accountId⟩ ∈ world.stored
  | _, _ => True

def AccountFact (config : Config) (world : World) : (op : Op) → Res op → Prop
  | .inl op, answer => SignFact world op answer
  | .inr op, answer => WalletFact config.wallets world op answer

theorem Grows.account {before after : World} (grows : Grows before after) {id : Uuid} {account : Account}
    (found : before.sign.accounts.get id = some account) : after.sign.accounts.get id = some account := by
  obtain ⟨_, there, rfl⟩ := grows.accounts id account found
  exact there

theorem Houses.later {before after : World} (grows : Grows before after) {dw : DWallet} {account : Account}
    (houses : Houses before dw account) : Houses after dw account :=
  ⟨houses.leads, grows.account houses.row, grows.stored _ houses.stored⟩

theorem Houses.same {world : World} {dw later : DWallet} {account : Account} (houses : Houses world dw account)
    (same : SameDWallet dw later) : Houses world later account :=
  ⟨same.accountId.trans houses.leads, houses.row, by rw [same.suiDwalletId]; exact houses.stored⟩

theorem AccountFact.later {config : Config} {before after : World} (grows : Grows before after) {op : Op} {answer : Res op}
    (fact : AccountFact config before op answer) : AccountFact config after op answer := by
  cases op with
  | inl op =>
    cases op with
    | wallet op =>
      cases op with
      | selectBySui suiDwalletId =>
        intro dw found
        obtain ⟨same, account, houses⟩ := fact dw found
        exact ⟨same, account, houses.later grows⟩
      | selectAccount id =>
        intro account found
        exact ⟨(fact account found).1, grows.account (fact account found).2⟩
      | _ => trivial
    | _ => trivial
  | inr op =>
    cases op with
    | account op =>
      cases op with
      | findForUser userId network => exact fun account found => grows.account (fact account found)
      | insert new =>
        intro account inserted
        exact ⟨grows.account (fact account inserted).1, (fact account inserted).2⟩
    | dwallet op =>
      cases op with
      | selectJoined id userId network => exact fun pair found => grows.stored _ (fact pair found)
      | _ => trivial
    | chain op =>
      cases op with
      | execute network call =>
        cases call with
        | onboardZeroTrust input =>
          intro tx executed suiDwalletId accountId extracted named
          exact grows.stored _ (fact tx executed suiDwalletId accountId extracted named)
        | addDwalletZeroTrust accountId input =>
          intro tx executed suiDwalletId extracted
          exact grows.stored _ (fact tx executed suiDwalletId extracted)
        | _ => trivial
      | _ => trivial
    | _ => trivial

/-! ### What a new answer says -/

variable {config : Config}

theorem ok_of_submitAnswer {env : Wallets.Env} {tx : Wallets.ExecutedTx} (answered : Wallets.submitAnswer env = .ok tx) :
    env.outcome.lands = true ∧ tx = env.executed := by
  unfold Wallets.submitAnswer at answered
  split at answered
  next success =>
    cases answered
    exact ⟨by rw [success]; rfl, rfl⟩
  all_goals cases answered

/-- What an executed transaction reports as new is what it stored, and where. -/
theorem fact_execute {index : Nat} {env : Env} {world : World} {after : Wallets.World} {network : String}
    {call : Wallets.MoveCall} {answer : Except Thrown Wallets.ExecutedTx}
    (executed : Wallets.exec config.wallets index (.chain (.execute network call)) env.wallets world.wallets = some (answer, after)) :
    WalletFact config.wallets (world.withWallets after (world.stored ++ stores env.wallets (.chain (.execute network call))))
      (.chain (.execute network call)) answer := by
  obtain ⟨answered, landed⟩ := Wallets.exec_execute executed
  have reported : ∀ tx, answer = .ok tx → env.wallets.outcome.lands = true ∧ tx = env.wallets.executed ∧
      Wallets.Reported config.wallets env.wallets call := by
    rintro tx rfl
    obtain ⟨lands, same⟩ := ok_of_submitAnswer answered.symm
    rcases landed with ⟨fails, _⟩ | ⟨_, _, reported, _⟩
    · rw [lands] at fails
      cases fails
    · exact ⟨lands, same, reported⟩
  cases call with
  | onboardZeroTrust input =>
    intro tx returned suiDwalletId accountId extracted named
    obtain ⟨lands, rfl, account, object⟩ := reported tx returned
    rw [account accountId named, object suiDwalletId extracted]
    simp [World.withWallets, stores, lands, storedBy]
  | addDwalletZeroTrust accountId input =>
    intro tx returned suiDwalletId extracted
    obtain ⟨lands, rfl, object⟩ := reported tx returned
    rw [object suiDwalletId extracted]
    simp [World.withWallets, stores, lands, storedBy]
  | _ => trivial

theorem fact_joined {world : World} (housed : Housed world) {id userId : Uuid} {network : String} {pair : DWallet × ObjectId}
    (found : Wallets.joined world.sign.dwallets world.sign.accounts id userId network = some pair) :
    ⟨pair.1.suiDwalletId, pair.2⟩ ∈ world.stored := by
  obtain ⟨dw, accountSuiId⟩ := pair
  have there := Wallets.named_of_joined found
  obtain ⟨account, houses⟩ := housed.rows id dw there
  obtain ⟨row, _, same⟩ := Option.bind_eq_some_iff.mp found
  obtain ⟨object, led, same⟩ := Option.map_eq_some_iff.mp same
  cases same
  have own : Wallets.accountSuiId world.sign.accounts dw = some account.suiObjectId := by
    simp [Wallets.accountSuiId, houses.leads, houses.row]
  rw [own] at led
  cases led
  exact houses.stored

/-- Every new answer is backed. -/
theorem fact_of_exec {index : Nat} {op : Op} {env : Env} {world after : World} {answer : Res op} (housed : Housed world)
    (executed : exec config index op env world = some (answer, after)) : AccountFact config after op answer := by
  cases op with
  | inl op =>
    obtain ⟨_, sign, done, rfl⟩ := exec_sign executed
    cases op with
    | wallet op =>
      cases op with
      | selectBySui suiDwalletId =>
        cases done
        intro dw found
        have meets := List.find?_some found
        obtain ⟨account, houses⟩ := housed.rows dw.id dw (Table.get_of_mem (List.mem_of_find?_eq_some found))
        exact ⟨by simpa using meets, account, houses.leads, houses.row, houses.stored⟩
      | selectAccount id =>
        cases done
        exact fun account found => ⟨Table.key_of_get found, found⟩
      | _ => trivial
    | _ => trivial
  | inr op =>
    obtain ⟨_, wallets, done, rfl⟩ := exec_wallets executed
    cases op with
    | account op =>
      cases op with
      | findForUser userId network =>
        cases done
        exact fun account found => Table.get_of_mem (List.mem_of_find?_eq_some found)
      | insert new =>
        rcases Wallets.exec_insertAccount done with ⟨⟨error, rfl⟩, _⟩ | ⟨rfl, table, inserted, rfl⟩
        · exact fun _ absurd_ => nomatch absurd_
        · intro account returned
          cases returned
          refine ⟨?_, rfl⟩
          have there := Table.get_insert inserted (new.row world.wallets.nextId).id
          rw [if_pos rfl] at there
          exact there
    | dwallet op =>
      cases op with
      | selectJoined id userId network =>
        cases done
        exact fun pair found => List.mem_append_left _ (fact_joined housed found)
      | _ => trivial
    | chain op =>
      cases op with
      | execute network call => exact fact_execute done
      | _ => trivial
    | _ => trivial

/-! ### What an operation does to the rows -/

/-- The account of a new dwallet, from what its call has read. -/
theorem account_of_sources {world : World} {past : History Wallets.Op Wallets.Res} {call : Wallets.Call} {new : Wallets.NewDWallet}
    (backed : ∀ op answer, Heard past op answer → WalletFact config.wallets world op answer)
    (sourced : Wallets.Sourced config.wallets call past (.dwallet (.insert new))) :
    ∃ account, new.accountId = account.id ∧ world.sign.accounts.get account.id = some account ∧
      ⟨new.suiDwalletId, account.suiObjectId⟩ ∈ world.stored := by
  obtain ⟨_, account, linked, added | began⟩ := sourced
  · obtain ⟨userId, network, target, input, tx, found, executed, extracted⟩ := added
    exact ⟨account, linked, backed _ _ found account rfl, backed _ _ executed tx rfl _ extracted⟩
  · obtain ⟨row, tx, inserted, ⟨target, input, executed, named⟩, extracted⟩ := began
    obtain ⟨there, same⟩ := backed _ _ inserted account rfl
    refine ⟨account, linked, there, ?_⟩
    rw [same]
    exact backed _ _ executed tx rfl _ _ extracted named

/-- The rows of dwallets after an operation: those before it, and one whose account is known. -/
theorem rows_of_exec {index : Nat} {op : Op} {env : Env} {world after : World} {answer : Res op} {call : Call}
    {history : History Op Res} (housed : Housed world) (executed : exec config index op env world = some (answer, after))
    (backed : ∀ op answer, Heard history op answer → AccountFact config world op answer)
    (before : (sources config call).before history op) {id : Uuid} {dw : DWallet}
    (found : after.sign.dwallets.get id = some dw) : ∃ account, Houses after dw account := by
  have grows := grows_exec executed
  have kept : ∀ old, world.sign.dwallets.get id = some old → SameDWallet old dw → ∃ account, Houses after dw account := by
    intro old there same
    obtain ⟨account, houses⟩ := housed.rows id old there
    exact ⟨account, (houses.later grows).same same⟩
  cases op with
  | inl op =>
    obtain ⟨_, sign, done, rfl⟩ := exec_sign executed
    rcases (tables_sign done).2 with same | ⟨target, nek, _, same⟩
    · rw [show ({ world with sign := sign } : World).sign.dwallets = _ from same] at found
      exact kept dw found (.refl dw)
    · rw [show ({ world with sign := sign } : World).sign.dwallets = _ from same] at found
      rcases Table.row_of_modify found with there | ⟨old, there, _, rfl⟩
      · exact kept dw there (.refl dw)
      · exact kept old there ⟨rfl, rfl, rfl, rfl, rfl⟩
  | inr op =>
    obtain ⟨own, past, rfl, rfl, sourced⟩ := sourced_wallets before
    obtain ⟨_, wallets, done, rfl⟩ := exec_wallets executed
    change wallets.dwallets.get id = some dw at found
    cases effect_wallets done with
    | none op accounts dwallets =>
      rw [dwallets] at found
      exact kept dw found (.refl dw)
    | account new inserted dwallets =>
      rw [dwallets] at found
      exact kept dw found (.refl dw)
    | dwallet new accounts fresh inserted =>
      rw [Table.get_insert inserted] at found
      split at found
      · cases found
        obtain ⟨account, linked, there, stored⟩ :=
          account_of_sources (fun op answer heard => backed _ _ (heard.within dwallets)) sourced
        refine ⟨account, congrArg some linked, grows.account there, grows.stored _ stored⟩
      · exact kept dw found (.refl dw)
    | activate target digest nek accounts dwallets =>
      rw [dwallets] at found
      rcases Table.row_of_modify found with there | ⟨old, there, _, rfl⟩
      · exact kept dw there (.refl dw)
      · exact kept old there ⟨rfl, rfl, rfl, rfl, rfl⟩

/-- An operation stores no cap, or the cap of the dwallet it creates. -/
theorem stores_of_exec {index : Nat} {op : Wallets.Op} {env : Wallets.Env} {world after : Wallets.World} {answer : Wallets.Res op}
    (executed : Wallets.exec config.wallets index op env world = some (answer, after)) :
    (∀ entry ∈ world.chain.created, entry ∈ after.chain.created) ∧ (stores env op = [] ∨ ∃ cap, stores env op = [cap] ∧
      cap.dwalletId ∉ world.chain.created.map Wallets.Created.object ∧
      ⟨index, cap.dwalletId⟩ ∈ after.chain.created) := by
  have unchanged : after.chain = world.chain → ∀ entry ∈ world.chain.created, entry ∈ after.chain.created := by
    intro same
    rw [same]
    exact fun _ there => there
  cases op with
  | chain op =>
    cases op with
    | execute network call =>
      obtain ⟨_, ⟨fails, rfl⟩ | ⟨lands, admitted, _, rfl⟩⟩ := Wallets.exec_execute executed
      · exact ⟨fun _ there => there, .inl (by simp [stores, fails])⟩
      · simp only [stores, if_pos lands]
        cases call with
        | registerEncryptionKey input => exact ⟨fun _ there => List.mem_append_left _ there, .inl rfl⟩
        | onboardZeroTrust input =>
          exact ⟨fun _ there => List.mem_append_left _ there, .inr ⟨_, rfl, admitted.1, by simp [Wallets.Chain.land]⟩⟩
        | addDwalletZeroTrust accountId input =>
          exact ⟨fun _ there => List.mem_append_left _ there, .inr ⟨_, rfl, admitted.1, by simp [Wallets.Chain.land]⟩⟩
        | acceptUserShare input => exact ⟨fun _ there => there, .inl rfl⟩
    | _ =>
      cases executed
      exact ⟨unchanged rfl, .inl rfl⟩
  | _ =>
    cases executed
    exact ⟨unchanged rfl, .inl rfl⟩

theorem made_of_exec {index : Nat} {op : Op} {env : Env} {world after : World} {answer : Res op} (housed : Housed world)
    (executed : exec config index op env world = some (answer, after)) :
    ∀ cap ∈ after.stored, cap.dwalletId ∈ after.chain.created.map Wallets.Created.object := by
  cases op with
  | inl op =>
    obtain ⟨_, sign, done, rfl⟩ := exec_sign executed
    exact housed.made
  | inr op =>
    obtain ⟨_, wallets, done, rfl⟩ := exec_wallets executed
    obtain ⟨kept, new⟩ := stores_of_exec done
    intro cap there
    rcases List.mem_append.mp there with old | added
    · obtain ⟨entry, member, same⟩ := List.mem_map.mp (housed.made cap old)
      exact List.mem_map.mpr ⟨entry, kept entry member, same⟩
    · rcases new with nothing | ⟨only, one, _, made⟩
      · rw [nothing] at added
        cases added
      · rw [one, List.mem_singleton] at added
        rw [added]
        exact List.mem_map.mpr ⟨_, made, rfl⟩

/-- No two caps are stored for one dwallet. -/
theorem once_of_exec {index : Nat} {op : Op} {env : Env} {world after : World} {answer : Res op} (housed : Housed world)
    (executed : exec config index op env world = some (answer, after)) :
    (after.stored.map StoredCap.dwalletId).Nodup := by
  cases op with
  | inl op =>
    obtain ⟨_, sign, done, rfl⟩ := exec_sign executed
    exact housed.once
  | inr op =>
    obtain ⟨_, wallets, done, rfl⟩ := exec_wallets executed
    change ((world.stored ++ stores env.wallets op).map StoredCap.dwalletId).Nodup
    rcases (stores_of_exec done).2 with nothing | ⟨cap, one, fresh, _⟩
    · rw [nothing, List.append_nil]
      exact housed.once
    · rw [one, List.map_append, List.map_singleton]
      refine nodup_append_new housed.once (fun other there same => fresh ?_)
      rw [← same]
      exact housed.made other there

theorem housed_of_exec {index : Nat} {op : Op} {env : Env} {world after : World} {answer : Res op} {call : Call}
    {history : History Op Res} (housed : Housed world) (executed : exec config index op env world = some (answer, after))
    (backed : ∀ op answer, Heard history op answer → AccountFact config world op answer)
    (before : (sources config call).before history op) : Housed after :=
  ⟨fun _ _ found => rows_of_exec housed executed backed before found, made_of_exec housed executed,
    once_of_exec housed executed⟩

/-! ### Every run -/

/-- The rows are housed, and every answer got so far is backed. -/
structure Kept (config : Config) (world : World) (calls : Nat → Option ServiceThread) : Prop where
  housed : Housed world
  backed : Machine.Backed (AccountFact config) world calls

theorem Housed.jobs {world : World} (housed : Housed world) (jobs : List Sign.Job) :
    Housed { world with sign := { world.sign with jobs := jobs } } where
  rows id dw found := by
    obtain ⟨account, houses⟩ := housed.rows id dw found
    exact ⟨account, houses.leads, houses.row, houses.stored⟩
  made := housed.made
  once := housed.once

theorem Kept.moved {system : ServiceSystem} {event : Event Env Call} {world : World} {calls : Nat → Option ServiceThread}
    (kept : Kept config system.world system.calls)
    (move : (machine config).Move (sources config) system event world calls) : Kept config world calls := by
  refine ⟨?_, kept.backed.move move (fun _ _ => AccountFact.later (grows_move move)) ?_⟩
  · cases move with
    | start call entered free opened path =>
      obtain ⟨jobs, rfl⟩ := enter_grows opened
      obtain ⟨left, same⟩ := close_grows config system.threads.length call ((machine config).program call)
        { system.world with sign := { system.world.sign with jobs := jobs } }
      rw [same]
      exact kept.housed.jobs left
    | step index env thread op answer rest after act =>
      obtain ⟨left, same⟩ := close_grows config index thread.tag rest after
      rw [same]
      exact (housed_of_exec kept.housed act.executed (kept.backed index thread act.found) act.before).jobs left
    | cut index thread found running =>
      obtain ⟨left, same⟩ := leave_grows thread.tag none system.world
      change Housed (leave thread.tag none system.world)
      rw [same]
      exact kept.housed.jobs left
  · intro index env thread op answer rest after act closed
    obtain ⟨left, same⟩ := close_grows config index thread.tag rest after
    rw [closed, same]
    exact AccountFact.later (.jobs after left) (fact_of_exec kept.housed act.executed)

/-- The dwallet a PTB is about, with the account it names. -/
def names : Op → Option StoredCap
  | .inl (.chain (.execute tx)) => some ⟨tx.dwalletId, tx.accountId⟩
  | .inr (.chain (.build (.acceptUserShare input))) => some ⟨input.dwalletId, input.accountId⟩
  | .inr (.chain (.execute _ (.acceptUserShare input))) => some ⟨input.dwalletId, input.accountId⟩
  | _ => none

/-- A PTB names the account its dwallet row leads to, in which its cap is stored. -/
theorem stored_of_names {world : World} {call : Call} {history : History Op Res} {op : Op} {cap : StoredCap}
    (backed : ∀ op answer, Heard history op answer → AccountFact config world op answer)
    (before : (sources config call).before history op) (named : names op = some cap) : cap ∈ world.stored := by
  cases op with
  | inl op =>
    obtain ⟨own, past, rfl, rfl, sourced⟩ := sourced_sign before
    cases op with
    | chain op =>
      cases op with
      | execute tx =>
        cases named
        obtain ⟨dw, account, accountId, found, linked, read, same⟩ := sourced
        obtain ⟨dwallet, housing, houses⟩ := backed _ _ (found.within signing) dw rfl
        obtain ⟨own, there⟩ := backed _ _ (read.within signing) account rfl
        have leads : housing.id = accountId := Option.some.inj (houses.leads.symm.trans linked)
        have one : some housing = some account := by
          rw [← houses.row, ← there, leads]
        cases one
        rw [same, ← dwallet]
        exact houses.stored
      | _ => cases named
    | _ => cases named
  | inr op =>
    obtain ⟨own, past, rfl, rfl, sourced⟩ := sourced_wallets before
    have accepted : ∀ {input : Wallets.AcceptUserShare}, Wallets.Names past input →
        ⟨input.dwalletId, input.accountId⟩ ∈ world.stored := by
      rintro input ⟨args, dw, joined, same⟩
      rw [same]
      exact backed _ _ (Heard.within joined dwallets) _ rfl
    cases op with
    | chain op =>
      cases op with
      | build call =>
        cases call with
        | acceptUserShare input =>
          cases named
          exact accepted sourced
        | _ => cases named
      | execute network call =>
        cases call with
        | acceptUserShare input =>
          cases named
          exact accepted sourced
        | _ => cases named
      | _ => cases named
    | _ => cases named

theorem kept_of_reaches {initial system : ServiceSystem} (idle : initial.threads = []) (housed : Housed initial.world)
    (reached : (machine config).Reaches initial system) :
    Machine.Kept (sources config) system ∧ Kept config system.world system.calls := by
  refine reached.tracked (honours config) (Kept config) ?_ ?_ (fun _ kept _ move => kept.moved move)
  · intro index thread found
    rw [idle] at found
    cases found
  · refine ⟨housed, fun index thread found => ?_⟩
    rw [System.calls, idle] at found
    cases found

/-- However the calls are interleaved, every dwallet row leads to the row of the one account its
cap was stored in, and the next PTB of any call names that account. -/
theorem ptbs_name_account (config : Config) (initial system : ServiceSystem) (idle : initial.threads = [])
    (housed : Housed initial.world) (reached : (machine config).Reaches initial system) :
    (∀ dw ∈ system.world.sign.dwallets.rows, ∃ account ∈ system.world.sign.accounts.rows,
      dw.accountId = some account.id ∧
        ∀ object, ⟨dw.suiDwalletId, object⟩ ∈ system.world.stored ↔ object = account.suiObjectId) ∧
    ∀ thread ∈ system.threads, ∀ op ∈ thread.program.awaits, ∀ cap ∈ names op, cap ∈ system.world.stored := by
  obtain ⟨paths, kept⟩ := kept_of_reaches idle housed reached
  constructor
  · intro dw member
    obtain ⟨account, houses⟩ := kept.housed.rows dw.id dw (Table.get_of_mem member)
    refine ⟨account, Table.mem_of_get houses.row, houses.leads, fun object => ⟨fun there => ?_, ?_⟩⟩
    · have one := List.inj_on_of_nodup_map kept.housed.once there houses.stored rfl
      exact congrArg StoredCap.accountId one
    · rintro rfl
      exact houses.stored
  · intro thread member op awaited cap named
    obtain ⟨index, found⟩ := List.mem_iff_getElem?.mp member
    exact stored_of_names (kept.backed index thread found) ((paths index thread found).of_awaits awaited) named

/-! ### Two first dwallets at once -/

def sampleConfig : Config := ⟨Sign.sampleConfig, Wallets.sampleConfig, fun _ => some "0xnek"⟩

/-- A user with credits and an encryption key, and nothing else. -/
def sampleStart : ServiceSystem where
  threads := []
  world := {
    sign := {
      signRequests := .empty _
      presigns := .empty _
      ledger := ⟨[⟨1, 7, "testnet", 1000000, none⟩], [], []⟩
      dwallets := .empty _
      accounts := .empty _
      jobs := []
      chain := ⟨[], []⟩
      nextId := 10 }
    keys := ⟨[⟨2, 7, "testnet", 0, "0xkey", "0xsigner", "digest"⟩], by simp⟩
    chain := ⟨[], [], [], []⟩
    stored := [] }

def calm : Env := ⟨Sign.calm, Wallets.calm⟩

/-- An onboarding that executes, creates an account and stores the cap of dwallet `byte` in it. -/
def onboarding (byte : UInt8) (account : ObjectId) : Env where
  sign := Sign.calm
  wallets := { Wallets.calm with
    object := Sign.toHex [byte]
    account := account
    executed := ⟨"digest", [⟨account, .created, none⟩], [⟨"0xika::DWalletSessionEvent<DWalletDKGRequestEvent>", some [byte]⟩],
      [(account, "0xmpckit::account::Account")]⟩ }

def sampleOnboard (session : UInt8) : Call := .inr (.onboard ⟨7, "testnet", 2, "0xnek", [1], [2], [3], [4], [session]⟩)

def steps (index count : Nat) (env : Env) : List (Event Env Call) := List.replicate count (.step index env)

/-- Both look for an account before either has recorded one; then the second dwallet is accepted. -/
def onboardedTwice : List (Event Env Call) :=
  .start (sampleOnboard 1) :: .start (sampleOnboard 2) :: steps 0 3 calm ++ steps 1 3 calm ++
    steps 0 7 (onboarding 17 "0xfirst") ++ steps 1 7 (onboarding 34 "0xsecond") ++
    .start (.inr (.accept ⟨7, "testnet", 23, "0xshare", [5]⟩)) :: steps 2 3 calm

/-- The user has two accounts, and the accept is about to name the second. -/
def Accepting (system : ServiceSystem) : Prop :=
  system.world.stored = [⟨"11", "0xfirst"⟩, ⟨"22", "0xsecond"⟩] ∧ system.world.sign.dwallets.rows.length = 2 ∧
    ∃ thread ∈ system.threads, ∃ op ∈ thread.program.awaits, names op = some ⟨"22", "0xsecond"⟩

instance (system : ServiceSystem) : Decidable (Accepting system) := by
  unfold Accepting
  infer_instance

theorem housed_sampleStart : Housed sampleStart.world where
  rows id dw found := by cases found
  made cap there := by cases there
  once := List.nodup_nil

theorem ptbs_name_account_sample : ∃ system, (machine sampleConfig).Reaches sampleStart system ∧ Accepting system ∧
    (∀ dw ∈ system.world.sign.dwallets.rows, ∃ account ∈ system.world.sign.accounts.rows,
      dw.accountId = some account.id ∧
        ∀ object, ⟨dw.suiDwalletId, object⟩ ∈ system.world.stored ↔ object = account.suiObjectId) ∧
    ∀ thread ∈ system.threads, ∀ op ∈ thread.program.awaits, ∀ cap ∈ names op, cap ∈ system.world.stored := by
  obtain ⟨system, reached, accepting⟩ : ∃ system, (machine sampleConfig).Reaches sampleStart system ∧
      Accepting system := Machine.exists_reaches onboardedTwice (by decide +kernel)
  exact ⟨system, reached, accepting, ptbs_name_account sampleConfig sampleStart system rfl housed_sampleStart reached⟩

end MpcKit.Services
