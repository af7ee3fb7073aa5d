import MpcKit.Services.Facts

/-! Whose a sign request is: of the user and network of the prepare that drew its id, and of
nobody else, whoever reads or writes it later. -/

namespace MpcKit.Services
open MpcKit.Backend MpcKit.Async
open MpcKit.Sign (Account DWallet Presign SignRequest PrepareSignArgs)

variable {config : Config}

/-- The columns no `UPDATE` of a sign request sets. -/
structure SameRequest (row later : SignRequest) : Prop where
  userId : later.userId = row.userId
  network : later.network = row.network
  suiDwalletId : later.suiDwalletId = row.suiDwalletId
  curve : later.curve = row.curve
  signatureAlgorithm : later.signatureAlgorithm = row.signatureAlgorithm

theorem SameRequest.refl (row : SignRequest) : SameRequest row row := ⟨rfl, rfl, rfl, rfl, rfl⟩

theorem sameRequest_of_change {env : Sign.Env} {op : Sign.SignOp} {old row : SignRequest}
    (change : Sign.SignChange env op old row) : SameRequest old row := by
  cases change <;> exact ⟨rfl, rfl, rfl, rfl, rfl⟩

/-- Where a sign request comes from. -/
theorem request_of_exec {index : Nat} {op : Op} {env : Env} {world after : World} {answer : Res op} {id : Uuid}
    {row : SignRequest} (executed : exec config index op env world = some (answer, after))
    (found : after.sign.signRequests.get id = some row) :
    world.sign.signRequests.get id = some row ∨
    (∃ new, op = .inl (.sign (.insert new)) ∧ id = new.id ∧ row = new.row env.sign.now) ∨
    ∃ old statement, op = .inl (.sign statement) ∧ world.sign.signRequests.get id = some old ∧
      Sign.SignChange env.sign statement old row := by
  cases op with
  | inl op =>
    obtain ⟨_, sign, done, rfl⟩ := exec_sign executed
    rcases Sign.row_of_exec done found with kept | ⟨new, rfl, same, made, _⟩ | ⟨old, statement, rfl, before, change⟩
    · exact .inl kept
    · exact .inr (.inl ⟨new, rfl, same, made⟩)
    · exact .inr (.inr ⟨old, statement, rfl, before, change⟩)
  | inr op =>
    obtain ⟨_, wallets, done, rfl⟩ := exec_wallets executed
    exact .inl found

/-- The call has drawn this id for a request. -/
def Drew (thread : ServiceThread) (id : Uuid) : Prop := Heard thread.history (.inl .randomUUID) id

/-- What a row says of the prepare that inserted it. -/
structure Belongs (world : World) (args : PrepareSignArgs) (row : SignRequest) : Prop where
  userId : row.userId = args.userId
  network : row.network = args.network
  signatureAlgorithm : row.signatureAlgorithm = args.signatureAlgorithm
  dwallet : ∃ dw, world.sign.dwallets.get args.dwalletId = some dw ∧ row.suiDwalletId = dw.suiDwalletId ∧
    row.curve = dw.curve

/-- The call has seen that a request is of a user and network. -/
inductive Saw (thread : ServiceThread) : Uuid → Uuid → String → Prop where
  | owned (id userId : Uuid) (network : String) (row : SignRequest)
      (heard : Heard thread.history (.inl (.sign (.selectOwned id userId network))) (some row)) : Saw thread id userId network
  | selected (id : Uuid) (row : SignRequest) (heard : Heard thread.history (.inl (.sign (.select id))) (some row)) :
      Saw thread id row.userId row.network
  | failed (id : Uuid) (code message : String) (row : SignRequest)
      (heard : Heard thread.history (.inl (.sign (.setFailed id code message))) (some row)) :
      Saw thread id row.userId row.network

/-- A request is of this user and network, and no prepare of anybody else has drawn its id. -/
structure OwnedBy (world : World) (calls : Nat → Option ServiceThread) (id userId : Uuid) (network : String) : Prop where
  below : id < world.sign.nextId
  row : ∀ row, world.sign.signRequests.get id = some row → row.userId = userId ∧ row.network = network
  drawer : ∀ index thread args, calls index = some thread → thread.tag = .inl (.prepare args) → Drew thread id →
    args.userId = userId ∧ args.network = network

structure Registry (world : World) (calls : Nat → Option ServiceThread) : Prop where
  below : ∀ id row, world.sign.signRequests.get id = some row → id < world.sign.nextId
  bound : ∀ index thread id, calls index = some thread → Drew thread id → id < world.sign.nextId
  apart : ∀ index other first second id, calls index = some first → calls other = some second →
    Drew first id → Drew second id → index = other
  own : ∀ index thread args id row, calls index = some thread → thread.tag = .inl (.prepare args) → Drew thread id →
    world.sign.signRequests.get id = some row → Belongs world args row
  seen : ∀ index thread id userId network, calls index = some thread → Saw thread id userId network →
    OwnedBy world calls id userId network

theorem Belongs.later {before after : World} (grows : Grows before after) {args : PrepareSignArgs} {row later : SignRequest}
    (belongs : Belongs before args row) (same : SameRequest row later) : Belongs after args later where
  userId := same.userId.trans belongs.userId
  network := same.network.trans belongs.network
  signatureAlgorithm := same.signatureAlgorithm.trans belongs.signatureAlgorithm
  dwallet := by
    obtain ⟨dw, found, suiDwalletId, curve⟩ := belongs.dwallet
    obtain ⟨row, there, kept⟩ := grows.dwallets _ dw found
    exact ⟨row, there, by rw [same.suiDwalletId, suiDwalletId, kept.suiDwalletId], by rw [same.curve, curve, kept.curve]⟩

/-! ### What answers say of dwallets -/

/-- The row of a dwallet as it was read. -/
def Read (world : World) (dw : DWallet) (id : Uuid) : Prop :=
  dw.id = id ∧ ∃ row, world.sign.dwallets.get id = some row ∧ SameDWallet dw row

def DWalletFact (world : World) : (op : Op) → Res op → Prop
  | .inl (.wallet (.selectOwned id userId network)), found =>
      ∀ dw ∈ found, Read world dw id ∧ dw.userId = userId ∧ dw.network = network
  | .inl (.wallet (.select id)), found => ∀ dw ∈ found, Read world dw id
  | .inr (.dwallet (.selectJoined id userId network)), found =>
      ∀ pair ∈ found, Read world pair.1 id ∧ pair.1.userId = userId ∧ pair.1.network = network
  | _, _ => True

theorem Read.later {before after : World} (grows : Grows before after) {dw : DWallet} {id : Uuid} (read : Read before dw id) :
    Read after dw id := by
  obtain ⟨own, row, found, same⟩ := read
  obtain ⟨later, there, kept⟩ := grows.dwallets id row found
  exact ⟨own, later, there, same.trans kept⟩

theorem DWalletFact.later {before after : World} (grows : Grows before after) {op : Op} {answer : Res op}
    (fact : DWalletFact before op answer) : DWalletFact after op answer := by
  cases op with
  | inl op =>
    cases op with
    | wallet op =>
      cases op with
      | selectOwned id userId network => exact fun dw found => ⟨(fact dw found).1.later grows, (fact dw found).2⟩
      | select id => exact fun dw found => (fact dw found).later grows
      | _ => trivial
    | _ => trivial
  | inr op =>
    cases op with
    | dwallet op =>
      cases op with
      | selectJoined id userId network => exact fun pair found => ⟨(fact pair found).1.later grows, (fact pair found).2⟩
      | _ => trivial
    | _ => trivial

theorem read_of_get {world : World} {dw : DWallet} {id : Uuid} (found : world.sign.dwallets.get id = some dw) :
    Read world dw id := ⟨Table.key_of_get found, dw, found, .refl dw⟩

theorem dwalletFact_of_exec {index : Nat} {op : Op} {env : Env} {world after : World} {answer : Res op}
    (executed : exec config index op env world = some (answer, after)) : DWalletFact after op answer := by
  cases op with
  | inl op =>
    obtain ⟨_, sign, done, rfl⟩ := exec_sign executed
    cases op with
    | wallet op =>
      cases op with
      | selectOwned id userId network =>
        cases done
        intro dw found
        have meets := List.find?_some found
        simp only [decide_eq_true_eq] at meets
        have there := Table.get_of_mem (List.mem_of_find?_eq_some found)
        rw [meets.1] at there
        exact ⟨read_of_get there, meets.2⟩
      | select id =>
        cases done
        exact fun dw found => read_of_get found
      | _ => trivial
    | _ => trivial
  | inr op =>
    obtain ⟨_, wallets, done, rfl⟩ := exec_wallets executed
    cases op with
    | dwallet op =>
      cases op with
      | selectJoined id userId network =>
        cases done
        rintro ⟨dw, object⟩ found
        obtain ⟨row, there, same⟩ := Option.bind_eq_some_iff.mp found
        obtain ⟨_, _, same⟩ := Option.map_eq_some_iff.mp same
        cases same
        have meets := List.find?_some there
        simp only [decide_eq_true_eq] at meets
        exact ⟨read_of_get (Wallets.named_of_joined found), meets.2⟩
      | _ => trivial
    | _ => trivial

/-! ### Drawing ids -/

section Step

variable {index : Nat} {op : Op} {env : Env} {world after : World} {answer : Res op} {thread : ServiceThread}
  {rest : Program Op Res Thrown Reply} {calls : Nat → Option ServiceThread}

/-- Who has drawn an id after a step: who had before, or the call that draws the next one. -/
theorem drew_of_update (executed : exec config index op env world = some (answer, after)) (found : calls index = some thread)
    {other : Nat} {later : ServiceThread} {id : Uuid}
    (there : Function.update calls index (some (thread.resume ⟨op, answer⟩ rest)) other = some later)
    (drew : Drew later id) :
    (∃ earlier, calls other = some earlier ∧ later.tag = earlier.tag ∧ Drew earlier id) ∨
      other = index ∧ op = .inl .randomUUID ∧ id = world.sign.nextId ∧ after.sign.nextId = world.sign.nextId + 1 ∧
        after.sign.signRequests = world.sign.signRequests := by
  rcases Machine.calls_update there with ⟨rfl, rfl⟩ | ⟨_, before⟩
  · rcases List.mem_cons.mp drew with same | earlier
    · cases same
      obtain ⟨_, sign, done, rfl⟩ := exec_sign executed
      cases done
      exact .inr ⟨rfl, rfl, rfl, rfl, rfl⟩
    · exact .inl ⟨thread, found, rfl, earlier⟩
  · exact .inl ⟨later, before, rfl, drew⟩

/-- The row a prepare inserts. -/
theorem belongs_of_insert {new : Sign.NewSignRequest} {now : Time} (before : (sources config thread.tag).before thread.history (.inl (.sign (.insert new))))
    (backed : ∀ op answer, Heard thread.history op answer → DWalletFact world op answer) :
    ∃ args, thread.tag = .inl (.prepare args) ∧ Drew thread new.id ∧ Belongs world args (new.row now) := by
  obtain ⟨own, past, tag, same, args, dw, rfl, chosen, drawn, made⟩ := sourced_sign before
  rw [same] at backed
  obtain ⟨⟨_, row, found, kept⟩, _⟩ := backed _ _ (Heard.within chosen signing) dw rfl
  refine ⟨args, tag, ?_, ?_⟩
  · rw [Drew, same]
    exact drawn.within signing
  · rw [made]
    exact ⟨rfl, rfl, rfl, row, found, kept.suiDwalletId.symm, kept.curve.symm⟩

/-- Where a row comes from, in terms of the calls. -/
theorem origin_of_act (executed : exec config index op env world = some (answer, after)) (found : calls index = some thread)
    (before : (sources config thread.tag).before thread.history op) (backed : Machine.Backed DWalletFact world calls)
    {id : Uuid} {row : SignRequest} (there : after.sign.signRequests.get id = some row) :
    (∃ old, world.sign.signRequests.get id = some old ∧ SameRequest old row) ∨
      ∃ args, thread.tag = .inl (.prepare args) ∧ Drew thread id ∧ Belongs world args row := by
  rcases request_of_exec executed there with kept | ⟨new, rfl, rfl, rfl⟩ | ⟨old, statement, rfl, early, change⟩
  · exact .inl ⟨row, kept, .refl row⟩
  · exact .inr (belongs_of_insert before (backed index thread found))
  · exact .inl ⟨old, early, sameRequest_of_change change⟩

/-- The rows of drawn ids after a step. -/
theorem Registry.own_act (registry : Registry world calls)
    (executed : exec config index op env world = some (answer, after)) (found : calls index = some thread)
    (before : (sources config thread.tag).before thread.history op) (backed : Machine.Backed DWalletFact world calls)
    {other : Nat} {later : ServiceThread} {args : PrepareSignArgs} {id : Uuid} {row : SignRequest}
    (there : Function.update calls index (some (thread.resume ⟨op, answer⟩ rest)) other = some later)
    (tag : later.tag = .inl (.prepare args)) (drew : Drew later id) (held : after.sign.signRequests.get id = some row) :
    Belongs after args row := by
  have grows := grows_exec executed
  rcases drew_of_update executed found there drew with ⟨earlier, early, same, drawn⟩ | ⟨_, _, rfl, _, unchanged⟩
  · rw [same] at tag
    rcases origin_of_act executed found before backed held with ⟨old, kept, alike⟩ | ⟨mine, own, drawn', made⟩
    · exact (registry.own other earlier args id old early tag drawn kept).later grows alike
    · have one := registry.apart other index earlier thread id early found drawn drawn'
      subst one
      rw [found] at early
      cases early
      rw [own] at tag
      cases tag
      exact made.later grows (.refl row)
  · rw [unchanged] at held
    exact absurd (registry.below _ row held) (Nat.lt_irrefl _)

/-- Whose a request is, is still so after a step. -/
theorem OwnedBy.act {id userId : Uuid} {network : String} (owned : OwnedBy world calls id userId network)
    (executed : exec config index op env world = some (answer, after)) (found : calls index = some thread)
    (before : (sources config thread.tag).before thread.history op) (backed : Machine.Backed DWalletFact world calls) :
    OwnedBy after (Function.update calls index (some (thread.resume ⟨op, answer⟩ rest))) id userId network where
  below := owned.below.trans_le (grows_exec executed).nextId
  row row held := by
    rcases origin_of_act executed found before backed held with ⟨old, kept, alike⟩ | ⟨args, own, drawn, made⟩
    · have same := owned.row old kept
      exact ⟨alike.userId.trans same.1, alike.network.trans same.2⟩
    · have same := owned.drawer index thread args found own drawn
      exact ⟨made.userId.trans same.1, made.network.trans same.2⟩
  drawer other later args there tag drew := by
    rcases drew_of_update executed found there drew with ⟨earlier, early, same, drawn⟩ | ⟨_, _, drawn, _⟩
    · exact owned.drawer other earlier args early (same ▸ tag) drawn
    · exact absurd owned.below (by rw [drawn]; exact Nat.lt_irrefl _)

/-- What a call has seen after a step: what it had before, or a row that is there. -/
theorem saw_of_update (executed : exec config index op env world = some (answer, after)) (found : calls index = some thread)
    {other : Nat} {later : ServiceThread} {id userId : Uuid} {network : String}
    (there : Function.update calls index (some (thread.resume ⟨op, answer⟩ rest)) other = some later)
    (saw : Saw later id userId network) :
    (∃ earlier, calls other = some earlier ∧ Saw earlier id userId network) ∨
      ∃ row, after.sign.signRequests.get id = some row ∧ row.userId = userId ∧ row.network = network := by
  rcases Machine.calls_update there with ⟨rfl, rfl⟩ | ⟨_, early⟩
  · cases saw with
    | owned userId network row heard =>
      rcases List.mem_cons.mp heard with same | earlier
      · cases same
        obtain ⟨_, sign, done, rfl⟩ := exec_sign executed
        simp only [Sign.exec, Sign.SignOp.exec, Option.some.injEq, Prod.mk.injEq] at done
        obtain ⟨selected, rfl⟩ := done
        have meets := List.find?_some selected
        simp only [decide_eq_true_eq] at meets
        refine .inr ⟨row, ?_, meets.2⟩
        have held := Table.get_of_mem (List.mem_of_find?_eq_some selected)
        rw [meets.1] at held
        exact held
      · exact .inl ⟨thread, found, .owned id userId network row earlier⟩
    | selected row heard =>
      rcases List.mem_cons.mp heard with same | earlier
      · cases same
        obtain ⟨_, sign, done, rfl⟩ := exec_sign executed
        simp only [Sign.exec, Sign.SignOp.exec, Option.some.injEq, Prod.mk.injEq] at done
        obtain ⟨selected, rfl⟩ := done
        exact .inr ⟨row, selected, rfl, rfl⟩
      · exact .inl ⟨thread, found, .selected id row earlier⟩
    | failed code message row heard =>
      rcases List.mem_cons.mp heard with same | earlier
      · cases same
        obtain ⟨_, sign, done, rfl⟩ := exec_sign executed
        exact .inr ⟨row, (Sign.exec_setFailed done).symm, rfl, rfl⟩
      · exact .inl ⟨thread, found, .failed id code message row earlier⟩
  · exact .inl ⟨later, early, saw⟩

/-- One operation keeps the registry. -/
theorem Registry.act (registry : Registry world calls)
    (executed : exec config index op env world = some (answer, after)) (found : calls index = some thread)
    (before : (sources config thread.tag).before thread.history op) (backed : Machine.Backed DWalletFact world calls) :
    Registry after (Function.update calls index (some (thread.resume ⟨op, answer⟩ rest))) where
  below id row held := by
    have grows := (grows_exec executed).nextId
    rcases origin_of_act executed found before backed held with ⟨old, kept, _⟩ | ⟨_, _, drawn, _⟩
    · exact (registry.below id old kept).trans_le grows
    · exact (registry.bound index thread id found drawn).trans_le grows
  bound other later id there drew := by
    rcases drew_of_update executed found there drew with ⟨earlier, early, _, drawn⟩ | ⟨_, _, rfl, next, _⟩
    · exact (registry.bound other earlier id early drawn).trans_le (grows_exec executed).nextId
    · rw [next]
      exact Nat.lt_succ_self _
  apart one other first second id here there drew rival := by
    rcases drew_of_update executed found here drew with ⟨earlier, early, _, drawn⟩ | ⟨mine, _, new, _⟩
    · rcases drew_of_update executed found there rival with ⟨older, past, _, claimed⟩ | ⟨_, _, new, _⟩
      · exact registry.apart one other earlier older id early past drawn claimed
      · exact absurd (registry.bound one earlier id early drawn) (by rw [new]; exact Nat.lt_irrefl _)
    · rcases drew_of_update executed found there rival with ⟨older, past, _, claimed⟩ | ⟨yours, _⟩
      · exact absurd (registry.bound other older id past claimed) (by rw [new]; exact Nat.lt_irrefl _)
      · rw [mine, yours]
  own other later args id row there tag drew held := registry.own_act executed found before backed there tag drew held
  seen other later id userId network there saw := by
    rcases saw_of_update executed found there saw with ⟨earlier, early, seen⟩ | ⟨row, held, user, net⟩
    · exact (registry.seen other earlier id userId network early seen).act executed found before backed
    · have grows := (grows_exec executed).nextId
      refine ⟨?_, fun other same => ?_, fun drawer caller args at_ tag drew => ?_⟩
      · rcases origin_of_act executed found before backed held with ⟨old, kept, _⟩ | ⟨_, _, drawn, _⟩
        · exact (registry.below id old kept).trans_le grows
        · exact (registry.bound index thread id found drawn).trans_le grows
      · rw [held] at same
        cases same
        exact ⟨user, net⟩
      · have belongs := registry.own_act executed found before backed at_ tag drew held
        exact ⟨belongs.userId.symm.trans user, belongs.network.symm.trans net⟩

end Step

/-! ### Every run -/

theorem drew_of_echoes {calls : Nat → Option ServiceThread} {index : Nat} {replaced : ServiceThread}
    (echoes : Machine.Echoes calls index replaced) {other : Nat} {later : ServiceThread} {id : Uuid}
    (there : Function.update calls index (some replaced) other = some later) (drew : Drew later id) :
    ∃ earlier, calls other = some earlier ∧ later.tag = earlier.tag ∧ Drew earlier id := by
  rcases echoes.earlier there with none | ⟨earlier, early, tag, same⟩
  · exact absurd drew (Machine.not_heard_of_nil none)
  · rw [Drew, same] at drew
    exact ⟨earlier, early, tag, drew⟩

theorem Saw.of_history {thread other : ServiceThread} {id userId : Uuid} {network : String}
    (saw : Saw thread id userId network) (same : thread.history = other.history) : Saw other id userId network := by
  cases saw with
  | owned userId network row heard => exact .owned id userId network row (same ▸ heard)
  | selected row heard => exact .selected id row (same ▸ heard)
  | failed code message row heard => exact .failed id code message row (same ▸ heard)

theorem not_saw_of_nil {thread : ServiceThread} {id userId : Uuid} {network : String} (none : thread.history = []) :
    ¬Saw thread id userId network := by
  intro saw
  cases saw with
  | owned userId network row heard => exact Machine.not_heard_of_nil none heard
  | selected row heard => exact Machine.not_heard_of_nil none heard
  | failed code message row heard => exact Machine.not_heard_of_nil none heard

theorem Registry.jobs {world : World} {calls : Nat → Option ServiceThread} (registry : Registry world calls)
    (jobs : List Sign.Job) : Registry { world with sign := { world.sign with jobs := jobs } } calls where
  below := registry.below
  bound := registry.bound
  apart := registry.apart
  own index thread args id row found tag drew held := by
    have belongs := registry.own index thread args id row found tag drew held
    exact ⟨belongs.userId, belongs.network, belongs.signatureAlgorithm, belongs.dwallet⟩
  seen index thread id userId network found saw := by
    have owned := registry.seen index thread id userId network found saw
    exact ⟨owned.below, owned.row, owned.drawer⟩

/-- A call that starts or stops. -/
theorem Registry.replace {world : World} {calls : Nat → Option ServiceThread} (registry : Registry world calls)
    {index : Nat} {replaced : ServiceThread} (echoes : Machine.Echoes calls index replaced) :
    Registry world (Function.update calls index (some replaced)) where
  below := registry.below
  bound other later id there drew := by
    obtain ⟨earlier, early, _, drawn⟩ := drew_of_echoes echoes there drew
    exact registry.bound other earlier id early drawn
  apart one other first second id here there drew rival := by
    obtain ⟨earlier, early, _, drawn⟩ := drew_of_echoes echoes here drew
    obtain ⟨older, past, _, claimed⟩ := drew_of_echoes echoes there rival
    exact registry.apart one other earlier older id early past drawn claimed
  own other later args id row there tag drew held := by
    obtain ⟨earlier, early, same, drawn⟩ := drew_of_echoes echoes there drew
    exact registry.own other earlier args id row early (same ▸ tag) drawn held
  seen other later id userId network there saw := by
    rcases echoes.earlier there with none | ⟨earlier, early, _, same⟩
    · exact absurd saw (not_saw_of_nil none)
    · have owned := registry.seen other earlier id userId network early (saw.of_history same)
      refine ⟨owned.below, owned.row, fun drawer caller args at_ tag drew => ?_⟩
      obtain ⟨drawn, past, named, claimed⟩ := drew_of_echoes echoes at_ drew
      exact owned.drawer drawer drawn args past (named ▸ tag) claimed

/-- The registry, and what was read of dwallets. -/
structure Booked (world : World) (calls : Nat → Option ServiceThread) : Prop where
  registry : Registry world calls
  backed : Machine.Backed DWalletFact world calls

/-- Before any call, no id has been drawn but those of the rows. -/
theorem booked_of_idle {initial : ServiceSystem} (idle : initial.threads = [])
    (undrawn : ∀ row ∈ initial.world.sign.signRequests.rows, row.id < initial.world.sign.nextId) :
    Booked initial.world initial.calls := by
  have calls : ∀ index thread, initial.calls index ≠ some thread := by
    intro index thread found
    rw [System.calls, idle] at found
    cases found
  refine ⟨?_, fun index thread found => absurd found (calls index thread)⟩
  exact { below := fun id row found => Table.key_of_get found ▸ undrawn row (Table.mem_of_get found)
          bound := fun index thread _ found => absurd found (calls index thread)
          apart := fun index _ thread _ _ found => absurd found (calls index thread)
          own := fun index thread _ _ _ found => absurd found (calls index thread)
          seen := fun index thread _ _ _ found => absurd found (calls index thread) }

theorem booked_follows (config : Config) : Follows config Booked where
  jobs jobs booked := ⟨booked.registry.jobs jobs, Backed.jobs booked.backed DWalletFact.later jobs⟩
  replace booked echoes := ⟨booked.registry.replace echoes, booked.backed.replace echoes (fun _ _ => id)⟩
  act booked acted := ⟨booked.registry.act acted.executed acted.found acted.before booked.backed,
    booked.backed.resume acted.found (fun _ _ => DWalletFact.later (grows_exec acted.executed)) (dwalletFact_of_exec acted.executed)⟩

end MpcKit.Services
