import MpcKit.Async.Protocol
import MpcKit.Executor.Pipeline

/-! Pods that submit for one network, against a clock. The key of the lock expires a fixed time
after it was set, and nobody renews it. -/

namespace MpcKit.Executor
open MpcKit.Backend MpcKit.Async

/-! ### The shared state -/

/-- A Redis key set with `PX`. -/
structure Lease where
  token : Uuid
  expires : Nat
  deriving DecidableEq, Repr

structure World where
  clock : Nat
  leases : String → Option Lease
  /-- The pod of each call. -/
  pods : List Nat
  /-- `held` and `waiters` of the in-process queues, by pod and key. -/
  held : List (Nat × String)
  waiters : List (Nat × String × Nat)
  /-- Calls whose turn in a queue has come. -/
  turns : List Nat
  /-- When each call began what it is waiting for. -/
  since : Nat → Nat
  nextId : Uuid

/-- What the outside decides at one step. -/
structure Env where
  clock : Nat
  redis : Except Failure Unit
  /-- A command whose answer is lost was carried out. -/
  applied : Bool
  builder : Except Failure Unit
  reserved : Reply ReserveGasResponse
  built : Except Failure Bytes
  signed : Except Failure String
  sent : Submission

def World.Free (world : World) (key : String) : Prop := ∀ lease ∈ world.leases key, lease.expires ≤ world.clock

instance (world : World) (key : String) : Decidable (world.Free key) := by
  unfold World.Free
  infer_instance

def World.mark (world : World) (index : Nat) : World :=
  { world with since := Function.update world.since index world.clock }

/-- `SET key token PX ttlMs NX`. -/
def World.set (world : World) (index : Nat) (key : String) (token : Uuid) (ttlMs : Nat) : World :=
  { world.mark index with leases := Function.update world.leases key (some ⟨token, world.clock + ttlMs⟩) }

/-- `if GET key == token then DEL key`. -/
def World.release (world : World) (key : String) (token : Uuid) : World :=
  match world.leases key with
  | some lease => if lease.token = token then { world with leases := Function.update world.leases key none } else world
  | none => world

def World.set? (world : World) (env : Env) (index : Nat) (key : String) (token : Uuid) (ttlMs : Nat) :
    Except Failure Bool × World :=
  match env.redis with
  | .ok _ => if world.Free key then (.ok true, world.set index key token ttlMs) else (.ok false, world)
  | .error failure => (.error failure,
      if world.Free key ∧ env.applied then world.set index key token ttlMs else world)

def World.release? (world : World) (env : Env) (key : String) (token : Uuid) : Except Failure Unit × World :=
  match env.redis with
  | .ok _ => (.ok (), world.release key token)
  | .error failure => (.error failure, if env.applied then world.release key token else world)

def World.queueJoin (world : World) (index : Nat) (key : String) : Bool × World :=
  let pod := world.pods.getD index 0
  if (pod, key) ∈ world.held then (false, { world with waiters := world.waiters ++ [(pod, key, index)] })
  else (true, { world.mark index with held := (pod, key) :: world.held })

def World.queueRelease (world : World) (index : Nat) (key : String) : World :=
  let pod := world.pods.getD index 0
  match world.waiters.find? (fun waiter => waiter.1 = pod ∧ waiter.2.1 = key) with
  | some waiter => { world with waiters := world.waiters.erase waiter, turns := waiter.2.2 :: world.turns }
  | none => { world with held := world.held.erase (pod, key) }

/-- What an operation does once the clock stands where it ends. -/
def act (index : Nat) (env : Env) (world : World) : (op : Op) → Option (Res op × World)
  | .randomUUID => some (world.nextId, { world with nextId := world.nextId + 1 })
  | .now => some (world.clock, world)
  | .set key token ttlMs => some (world.set? env index key token ttlMs)
  | .sleep _ => some ((), world)
  | .release key token => some (world.release? env key token)
  | .queueJoin key => some (world.queueJoin index key)
  | .queueWait _ => if index ∈ world.turns then
      some ((), { world.mark index with turns := world.turns.erase index }) else none
  | .queueRelease key => some ((), world.queueRelease index key)
  | .setSender _ => some (env.builder, world)
  | .reserveGas _ _ => some (env.reserved, world.mark index)
  | .setGasOwner _ => some (env.builder, world)
  | .setGasPayment _ => some (env.builder, world)
  | .setGasBudget _ => some (env.builder, world)
  | .build _ => some (env.built, world)
  | .signTransaction _ => some (env.signed, world.mark index)
  | .executeTx _ _ _ => some (env.sent, world)

def exec (index : Nat) (op : Op) (env : Env) (world : World) : Option (Res op × World) :=
  act index env { world with clock := env.clock } op

/-- One call of `execute` on some pod. -/
structure Call where
  pod : Nat
  network : String
  tx : Transaction
  deriving DecidableEq, Repr

def machine (config : Config) : Machine Op Res Env World Call Thrown ExecutedTx where
  exec := exec
  program call := execute config call.network call.tx
  enter call world := some { world with pods := world.pods ++ [call.pod] }
  leave _ _ _ world := world

abbrev LockSystem := System Op Res World Call Thrown ExecutedTx
abbrev LockThread := Thread Op Res Call Thrown ExecutedTx

/-! ### Time limits -/

/-- How long the part of the critical section an operation belongs to may take: an HTTP call to
the gas station `timeout`, building and signing together one second. -/
def Op.limit (timeout : Nat) : Op → Option Nat
  | .setSender _ => some timeout
  | .reserveGas _ _ => some timeout
  | .setGasOwner _ => some 1000
  | .setGasPayment _ => some 1000
  | .setGasBudget _ => some 1000
  | .build _ => some 1000
  | .signTransaction _ => some 1000
  | .executeTx _ _ _ => some timeout
  | _ => none

/-- The operations of `executeUnlocked`. -/
def Op.Unlocked (op : Op) : Prop := (op.limit 0).isSome = true

instance (op : Op) : Decidable op.Unlocked := inferInstanceAs (Decidable (_ = true))

/-- The call is between the start and the end of `executeUnlocked`. -/
def Inside (thread : LockThread) : Prop := thread.cut = false ∧ ∃ op ∈ thread.program.awaits, op.Unlocked

instance (thread : LockThread) : Decidable (Inside thread) := inferInstanceAs (Decidable (_ ∧ _))

/-- What the call is waiting for has to have ended by then. -/
def Within (timeout : Nat) (since clock : Nat) (thread : LockThread) : Prop :=
  thread.cut = false → ∀ op ∈ thread.program.awaits, ∀ limit ∈ op.limit timeout, clock ≤ since + limit

instance (timeout : Nat) (since clock : Nat) (thread : LockThread) : Decidable (Within timeout since clock thread) :=
  inferInstanceAs (Decidable (_ → _))

/-- The clock does not go back, and it does not pass the limit of any call. -/
def Punctual (timeout : Nat) (system : LockSystem) : Event Env Call → Prop
  | .step _ env => system.world.clock ≤ env.clock ∧ ∀ index ∈ List.range system.threads.length,
      ∀ thread ∈ system.calls index, Within timeout (system.world.since index) env.clock thread
  | _ => True

instance (timeout : Nat) (system : LockSystem) (event : Event Env Call) : Decidable (Punctual timeout system event) := by
  unfold Punctual
  induction event using Event.casesOn <;> infer_instance

/-- No two calls for one network are inside at once. -/
def Exclusive (system : LockSystem) : Prop :=
  ∀ (index other : Nat) (first second : LockThread), system.calls index = some first → system.calls other = some second →
    Inside first → Inside second → first.tag.network = second.tag.network → index = other

/-! ### The order of operations under Redis -/

/-- How far a call has come. -/
inductive Phase where
  | idle
  | waiting (token : Uuid)
  | reserving (token : Uuid)
  | building (token : Uuid)
  | sending (token : Uuid)
  | done (token : Uuid)
  deriving DecidableEq, Repr

namespace Phase

def token : Phase → Option Uuid
  | .idle => none
  | .waiting token => some token
  | .reserving token => some token
  | .building token => some token
  | .sending token => some token
  | .done token => some token

/-- The time that may have passed from the `SET` to what the call is waiting for. -/
def elapsed (timeout : Nat) : Phase → Nat
  | .building _ => timeout
  | .sending _ => timeout + 1000
  | _ => 0

def enter : Phase → Phase
  | .waiting token => .reserving token
  | phase => phase

def build : Phase → Phase
  | .reserving token => .building token
  | phase => phase

def send : Phase → Phase
  | .building token => .sending token
  | phase => phase

def finish (phase : Phase) : Phase := match phase.token with
  | some token => .done token
  | none => phase

def next (phase : Phase) : (op : Op) → Res op → Phase
  | .randomUUID, token => .waiting token
  | .set _ _ _, .ok true => phase.enter
  | .reserveGas _ _, _ => phase.build
  | .signTransaction _, _ => phase.send
  | .executeTx _ _ _, _ => phase.finish
  | .release _ _, _ => phase.finish
  | _, _ => phase

end Phase

/-- The operations a call on a backend with Redis may perform in each phase. -/
inductive Permitted (network : String) : Phase → Op → Prop where
  | draw : Permitted network .idle .randomUUID
  | now (token : Uuid) : Permitted network (.waiting token) .now
  | set (token : Uuid) : Permitted network (.waiting token) (.set (lockKey network) token 30000)
  | sleep (token : Uuid) (ms : Nat) : Permitted network (.waiting token) (.sleep ms)
  | setSender (token : Uuid) (address : String) : Permitted network (.reserving token) (.setSender address)
  | reserve (token : Uuid) (budget seconds : Nat) : Permitted network (.reserving token) (.reserveGas budget seconds)
  | setGasOwner (token : Uuid) (address : String) : Permitted network (.building token) (.setGasOwner address)
  | setGasPayment (token : Uuid) (coins : List SuiObjectRef) : Permitted network (.building token) (.setGasPayment coins)
  | setGasBudget (token : Uuid) (mist : Nat) : Permitted network (.building token) (.setGasBudget mist)
  | build (token : Uuid) : Permitted network (.building token) (.build network)
  | sign (token : Uuid) (bytes : Bytes) : Permitted network (.building token) (.signTransaction bytes)
  | send (token : Uuid) (id : Nat) (bytes : Bytes) (signature : String) :
      Permitted network (.sending token) (.executeTx id bytes signature)
  | release (phase : Phase) (token : Uuid) (own : phase.token = some token) :
      Permitted network phase (.release (lockKey network) token)

/-- The order of the operations of a call for one network. -/
def order (network : String) : Protocol Op Res Phase where
  initial := .idle
  next := Phase.next
  Allowed := Permitted network
  answers _ _ := True

variable {network : String} {token : Uuid}

/-- The lock is held or it is not, by a call that has its token. -/
def Acquired (token : Uuid) (phase : Phase) (result : Except Thrown Bool) : Prop :=
  result = .ok true → phase = .reserving token

theorem poll_follows (deadline : Time) (turns : Nat) :
    (order network).Follows (.waiting token) (poll LockOptions.default (lockKey network) token deadline turns)
      (Acquired token) := by
  induction turns with
  | zero => exact .ret (fun same => by cases same)
  | succ turns ih =>
    refine .perform (.now token) (fun now _ => ?_)
    split
    · refine .perform (.set token) (fun answer _ => ?_)
      cases answer with
      | error failure => exact .raise (fun same => by cases same)
      | ok taken => cases taken with
        | true => exact .ret (fun _ => rfl)
        | false => exact .perform (.sleep token _) (fun _ _ => ih)
    · exact .ret (fun same => by cases same)

theorem acquire_follows {config : Config} (redis : config.redis = true) :
    (order network).Follows (.waiting token) (acquire config LockOptions.default (lockKey network) token)
      (Acquired token) := by
  unfold acquire
  rw [if_pos redis]
  exact .perform (.now token) (fun start _ => poll_follows _ config.turns)

/-- Some part of the critical section has been reached. -/
def Owning (token : Uuid) {α : Type} (phase : Phase) (_ : Except Thrown α) : Prop := phase.token = some token

theorem follows_pass {α β : Type} {phase : Phase} {result : Except Failure α} {next : α → Prog β}
    {post : Phase → Except Thrown β → Prop} (returned : ∀ value, (order network).Follows phase (next value) post)
    (thrown : ∀ error, post phase (.error error)) : (order network).Follows phase ((pass result).bind next) post := by
  cases result with
  | ok value => exact returned value
  | error failure => exact .raise (thrown _)

theorem reserveGas_follows (config : Config) :
    (order network).Follows (.reserving token)
      ((reserveGas config).rescue (fun error => throw (tagged .preflight "reserve_gas" error)))
      (fun phase _ => phase = .building token) := by
  refine .rescue (fun phase _ => phase = .building token) ?_ (fun _ _ => id) (fun _ _ there => .raise there)
  refine .perform (.reserve token _ _) (fun reply _ => ?_)
  refine follows_pass (fun body => ?_) (fun _ => rfl)
  split
  · exact .ret rfl
  · exact .raise rfl

/-- The bytes are signed, or signing threw. -/
def Signed (token : Uuid) (phase : Phase) (result : Except Thrown (Bytes × String)) : Prop :=
  phase.token = some token ∧ ∀ value, result = .ok value → phase = .sending token

theorem buildAndSign_follows :
    (order network).Follows (.building token)
      ((buildAndSign network).rescue (fun error => throw (tagged .preflight "tx build/sign" error))) (Signed token) := by
  have failed : ∀ (phase : Phase) (error : Thrown), phase.token = some token → Signed token phase (.error error) :=
    fun phase error owning => ⟨owning, fun value same => by cases same⟩
  refine .rescue (Signed token) ?_ (fun _ _ => id) (fun phase error there => .raise (failed phase _ there.1))
  refine .perform (.build token) (fun answer _ => ?_)
  refine follows_pass (fun bytes => ?_) (fun error => failed _ error rfl)
  refine .perform (.sign token bytes) (fun answer _ => ?_)
  exact follows_pass (fun signature => .ret ⟨rfl, fun _ _ => rfl⟩) (fun error => failed _ error rfl)

theorem executeTx_follows (reservationId : Nat) (txBytes : Bytes) (userSig : String) :
    (order network).Follows (.sending token)
      ((executeTx reservationId txBytes userSig).rescue (fun error => throw (tagged .unknown "execute_tx" error)))
      (Owning token) := by
  refine .rescue (Owning token) ?_ (fun _ _ => id) (fun _ _ there => .raise there)
  refine .perform (.send token _ _ _) (fun sent _ => ?_)
  refine follows_pass (fun body => ?_) (fun _ => rfl)
  split
  · exact .raise rfl
  · exact .ret rfl

theorem executeUnlocked_follows (config : Config) (tx : Transaction) :
    (order network).Follows (.reserving token) (executeUnlocked config network tx) (Owning token) := by
  have rest : (order network).Follows (.reserving token) (executeSent config network) (Owning token) := by
    refine .bind (reserveGas_follows config) ?_ (fun phase error there => by rw [there]; rfl)
    rintro _ reserved rfl
    refine .perform (.setGasOwner token _) (fun _ _ => follows_pass (fun _ => ?_) (fun _ => rfl))
    refine .perform (.setGasPayment token _) (fun _ _ => follows_pass (fun _ => ?_) (fun _ => rfl))
    refine .perform (.setGasBudget token _) (fun _ _ => follows_pass (fun _ => ?_) (fun _ => rfl))
    refine .bind buildAndSign_follows ?_ (fun phase error there => there.1)
    rintro phase ⟨txBytes, userSig⟩ ⟨_, signed⟩
    rw [signed _ rfl]
    refine .bind (executeTx_follows _ txBytes userSig) ?_ (fun _ _ there => there)
    exact fun phase exec owning => Protocol.follows_unwrap owning
  unfold executeUnlocked
  split
  · exact .perform (.setSender token _) (fun _ _ => follows_pass (fun _ => rest) (fun _ => rfl))
  · exact rest

theorem execute_follows {config : Config} (redis : config.redis = true) (tx : Transaction) :
    (order network).Follows .idle (execute config network tx) (fun _ _ => True) := by
  refine .perform .draw (fun token _ => ?_)
  refine .bind (acquire_follows redis) ?_ (fun _ _ _ => trivial)
  intro phase acquired got
  cases acquired with
  | false => exact .raise trivial
  | true =>
    rw [got rfl]
    refine .ensure (executeUnlocked_follows config tx) (fun phase result owning => ?_)
    unfold release
    rw [if_pos redis]
    exact .perform (.release phase token owning) (fun _ _ => Protocol.follows_unwrap trivial)

/-! ### Mutual exclusion while the lease outlasts the critical section -/

/-- The phase of a call, from what it has done. -/
def phase (thread : LockThread) : Phase := (order thread.tag.network).state thread.history

def ordered (call : Call) : Contract Op Res Thrown ExecutedTx := (order call.network).contract (fun _ _ => True)

theorem honours {config : Config} (redis : config.redis = true) : (machine config).Honours ordered where
  programs call := (execute_follows redis call.tx).obeys
  answers _ _ := trivial

/-- The time an operation inside may still take on top of what has passed stays below the lease. -/
theorem Permitted.within {phase : Phase} {op : Op} (permitted : Permitted network phase op) {timeout limit : Nat}
    (limited : op.limit timeout = some limit) : phase.elapsed timeout + limit ≤ 2 * timeout + 1000 := by
  cases permitted <;> simp only [Op.limit, Option.some.injEq, reduceCtorEq] at limited <;>
    simp only [Phase.elapsed] <;> omega

theorem Op.Unlocked.limited {op : Op} (unlocked : op.Unlocked) (timeout : Nat) : ∃ limit, op.limit timeout = some limit := by
  cases op <;> first | exact ⟨_, rfl⟩ | cases unlocked

/-- What a call that is inside has in Redis. -/
structure Holds (timeout : Nat) (world : World) (index : Nat) (thread : LockThread) (lease : Lease) : Prop where
  token : (phase thread).token = some lease.token
  leased : world.leases (lockKey thread.tag.network) = some lease
  recent : world.since index + 30000 ≤ lease.expires + (phase thread).elapsed timeout

structure Linked (timeout : Nat) (world : World) (calls : Nat → Option LockThread) : Prop where
  drawn : ∀ index thread token, calls index = some thread → (phase thread).token = some token → token < world.nextId
  apart : ∀ index other first second token, calls index = some first → calls other = some second →
    (phase first).token = some token → (phase second).token = some token → index = other
  holds : ∀ index thread, calls index = some thread → Inside thread → ∃ lease, Holds timeout world index thread lease

theorem Linked.exclusive {timeout : Nat} {system : LockSystem} (linked : Linked timeout system.world system.calls) :
    Exclusive system := by
  intro index other first second here there inside within same
  obtain ⟨mine, held⟩ := linked.holds index first here inside
  obtain ⟨theirs, kept⟩ := linked.holds other second there within
  have equal : some mine = some theirs := by
    rw [← held.leased, ← kept.leased, same]
  cases equal
  exact linked.apart index other first second mine.token here there held.token kept.token

theorem World.set?_leases {world : World} {env : Env} {index : Nat} {key other : String} {token : Uuid} {ttlMs : Nat}
    {lease : Lease} (leased : world.leases other = some lease) (live : world.clock < lease.expires) :
    (world.set? env index key token ttlMs).2.leases other = some lease := by
  have kept : world.Free key → (world.set index key token ttlMs).leases other = some lease := by
    intro free
    have different : other ≠ key := by
      rintro rfl
      exact absurd live (Nat.not_lt.mpr (free lease leased))
    simpa [World.set, different] using leased
  unfold World.set?
  split
  · split
    next free => exact kept free
    · exact leased
  · split
    next both => exact kept both.1
    · exact leased

theorem World.set_of_taken {world after : World} {env : Env} {index : Nat} {key : String} {token : Uuid} {ttlMs : Nat}
    (taken : world.set? env index key token ttlMs = (.ok true, after)) : after = world.set index key token ttlMs := by
  unfold World.set? at taken
  split at taken
  · split at taken
    · cases taken
      rfl
    · cases taken
  · cases taken

theorem World.release_leases {world : World} {key other : String} {token : Uuid} {lease : Lease}
    (leased : world.leases other = some lease) (foreign : token ≠ lease.token) :
    (world.release key token).leases other = some lease := by
  unfold World.release
  split
  next current found =>
    split
    next own =>
      have different : other ≠ key := by
        rintro rfl
        rw [leased] at found
        cases found
        exact foreign own.symm
      simpa [different] using leased
    · exact leased
  · exact leased

/-- What an operation of one call leaves alone: a lease that has not expired is only lost to a
release with its own token, and only the acting call is marked. -/
structure Frame (index : Nat) (op : Op) (world after : World) : Prop where
  leases : ∀ key lease, world.leases key = some lease → world.clock < lease.expires →
    (∀ other token, op = .release other token → token ≠ lease.token) → after.leases key = some lease
  since : ∀ other, other ≠ index → after.since other = world.since other
  nextId : world.nextId ≤ after.nextId

theorem Frame.same {index : Nat} {op : Op} {world after : World} (leases : after.leases = world.leases)
    (since : after.since = world.since ∨ after.since = (world.mark index).since) (nextId : world.nextId ≤ after.nextId) :
    Frame index op world after where
  leases key lease leased _ _ := by rw [leases]; exact leased
  since other different := by
    rcases since with same | marked
    · rw [same]
    · rw [marked]
      simp [World.mark, different]
  nextId := nextId

theorem frame_set (world : World) (env : Env) (index : Nat) (key : String) (token : Uuid) (ttlMs : Nat) :
    Frame index (.set key token ttlMs) world (world.set? env index key token ttlMs).2 where
  leases other lease leased live _ := World.set?_leases leased live
  since other different := by
    unfold World.set?
    split <;> split <;> simp [World.set, World.mark, different]
  nextId := by
    unfold World.set?
    split <;> split <;> exact Nat.le_refl _

theorem frame_release (world : World) (env : Env) (index : Nat) (key : String) (token : Uuid) :
    Frame index (.release key token) world (world.release? env key token).2 := by
  have released : Frame index (.release key token) world (world.release key token) := by
    constructor
    · intro other lease leased _ foreign
      exact World.release_leases leased (foreign key token rfl)
    · intro other different
      unfold World.release
      split
      · split <;> rfl
      · rfl
    · unfold World.release
      split
      · split <;> exact Nat.le_refl _
      · exact Nat.le_refl _
  unfold World.release?
  split
  · exact released
  · split
    · exact released
    · exact .same rfl (.inl rfl) (Nat.le_refl _)

theorem frame_act {index : Nat} {op : Op} {env : Env} {world after : World} {answer : Res op}
    (acted : act index env world op = some (answer, after)) : Frame index op world after := by
  cases op with
  | set key token ttlMs =>
    obtain rfl : (world.set? env index key token ttlMs).2 = after := congrArg Prod.snd (Option.some.inj acted)
    exact frame_set world env index key token ttlMs
  | release key token =>
    obtain rfl : (world.release? env key token).2 = after := congrArg Prod.snd (Option.some.inj acted)
    exact frame_release world env index key token
  | queueJoin key =>
    obtain rfl : (world.queueJoin index key).2 = after := congrArg Prod.snd (Option.some.inj acted)
    unfold World.queueJoin
    dsimp only
    split
    · exact .same rfl (.inl rfl) (Nat.le_refl _)
    · exact .same rfl (.inr rfl) (Nat.le_refl _)
  | queueWait key =>
    simp only [act] at acted
    split at acted
    · cases acted
      exact .same rfl (.inr rfl) (Nat.le_refl _)
    · cases acted
  | queueRelease key =>
    obtain rfl : world.queueRelease index key = after := congrArg Prod.snd (Option.some.inj acted)
    unfold World.queueRelease
    dsimp only
    split <;> exact .same rfl (.inl rfl) (Nat.le_refl _)
  | randomUUID =>
    cases acted
    exact .same rfl (.inl rfl) (Nat.le_succ _)
  | reserveGas | signTransaction =>
    cases acted
    exact .same rfl (.inr rfl) (Nat.le_refl _)
  | _ =>
    cases acted
    exact .same rfl (.inl rfl) (Nat.le_refl _)

theorem close_eq (config : Config) (index : Nat) (call : Call) (program : Prog ExecutedTx) (world : World) :
    (machine config).close index call program world = world := by
  unfold Machine.close
  split <;> rfl

/-- A token is drawn once. -/
theorem Permitted.token_next {phase : Phase} {op : Op} (permitted : Permitted network phase op) (answer : Res op) :
    op = .randomUUID ∨ (phase.next op answer).token = phase.token := by
  cases permitted with
  | draw => exact .inl rfl
  | set token =>
    right
    cases answer with
    | error failure => rfl
    | ok taken => cases taken <;> rfl
  | release phase token own =>
    right
    simp only [Phase.next, Phase.finish, own]
    rfl
  | _ => exact .inr rfl

theorem Permitted.unlocked {phase : Phase} {op : Op} (permitted : Permitted network phase op) (unlocked : op.Unlocked) :
    (∃ token, phase = .reserving token) ∨ (∃ token, phase = .building token) ∨ ∃ token, phase = .sending token := by
  cases permitted with
  | setSender token | reserve token => exact .inl ⟨token, rfl⟩
  | setGasOwner token | setGasPayment token | setGasBudget token | build token | sign token =>
    exact .inr (.inl ⟨token, rfl⟩)
  | send token => exact .inr (.inr ⟨token, rfl⟩)
  | _ => cases unlocked

theorem Permitted.own {phase : Phase} {key : String} {token : Uuid} (permitted : Permitted network phase (.release key token)) :
    phase.token = some token := by
  cases permitted
  assumption

theorem permitted_of_awaits {system : LockSystem} (kept : Machine.Kept ordered system)
    {index : Nat} {thread : LockThread} {op : Op} (found : system.calls index = some thread)
    (awaits : op ∈ thread.program.awaits) : Permitted thread.tag.network (phase thread) op := by
  have path := kept index thread found
  cases shape : thread.program with
  | await other next =>
    rw [shape] at path awaits
    cases awaits
    exact path.1
  | _ => simp [shape, Program.awaits] at awaits

/-- While its time limits are kept, the lease of a call that is inside has not expired. -/
theorem Linked.live {timeout : Nat} (short : 2 * timeout + 1000 < 30000) {system : LockSystem}
    (kept : Machine.Kept ordered system) (linked : Linked timeout system.world system.calls) {acting : Nat} {env : Env}
    (punctual : Punctual timeout system (.step acting env)) {index : Nat} {thread : LockThread}
    (found : system.calls index = some thread) (inside : Inside thread) :
    ∃ lease, Holds timeout system.world index thread lease ∧ env.clock < lease.expires := by
  obtain ⟨lease, holds⟩ := linked.holds index thread found inside
  obtain ⟨alive, op, awaits, unlocked⟩ := inside
  obtain ⟨limit, limited⟩ := unlocked.limited timeout
  have bound := (permitted_of_awaits kept found awaits).within limited
  have there : index < system.threads.length := (List.getElem?_eq_some_iff.mp found).1
  have due := punctual.2 index (List.mem_range.mpr there) thread found alive op awaits limit limited
  have recent := holds.recent
  exact ⟨lease, holds, by omega⟩

abbrev LockAct (config : Config) := (machine config).Act ordered

/-- What a step leaves a call that is inside with, when the call was inside before. -/
theorem Holds.step {timeout : Nat} {env : Env} {world after : World} {index : Nat} {thread : LockThread} {op : Op}
    {answer : Res op} {rest : Prog ExecutedTx} {lease : Lease} (holds : Holds timeout world index thread lease)
    (acted : act index env { world with clock := env.clock } op = some (answer, after)) (live : env.clock < lease.expires)
    (stays : ∀ key token, op ≠ .release key token)
    (token : ((phase thread).next op answer).token = (phase thread).token)
    (recent : after.since index + 30000 ≤ lease.expires + ((phase thread).next op answer).elapsed timeout) :
    Holds timeout after index (thread.resume ⟨op, answer⟩ rest) lease where
  token := token.trans holds.token
  leased := (frame_act acted).leases _ _ holds.leased live (fun key token same => absurd same (stays key token))
  recent := recent

theorem phase_resume (thread : LockThread) (op : Op) (answer : Res op) (rest : Prog ExecutedTx) :
    phase (thread.resume ⟨op, answer⟩ rest) = (phase thread).next op answer := rfl

theorem Linked.own {config : Config} {timeout : Nat} (short : 2 * timeout + 1000 < 30000) {system : LockSystem}
    (kept : Machine.Kept ordered system) (linked : Linked timeout system.world system.calls) {index : Nat} {env : Env}
    {thread : LockThread} {op : Op} {answer : Res op} {rest : Prog ExecutedTx} {after : World}
    (punctual : Punctual timeout system (.step index env))
    (done : LockAct config system index env thread op answer rest after)
    (inside : Inside (thread.resume ⟨op, answer⟩ rest)) :
    ∃ lease, Holds timeout after index (thread.resume ⟨op, answer⟩ rest) lease := by
  have acted : act index env { system.world with clock := env.clock } op = some (answer, after) := done.executed
  have awaits : op ∈ thread.program.awaits := by
    obtain ⟨next, awaits, _⟩ := done.awaits
    simp [awaits, Program.awaits]
  have before : Permitted thread.tag.network (phase thread) op := done.before
  -- Where the call stands after the step.
  have arrived : (∃ token, (phase thread).next op answer = .reserving token) ∨
      (∃ token, (phase thread).next op answer = .building token) ∨
      ∃ token, (phase thread).next op answer = .sending token := by
    obtain ⟨_, other, later, unlocked⟩ := inside
    have path := done.path
    cases shape : rest with
    | await pending next =>
      have same : pending = other := by simpa [Thread.resume, shape, Program.awaits] using later
      rw [shape] at path
      exact (same ▸ path.1 : Permitted thread.tag.network ((phase thread).next op answer) other).unlocked unlocked
    | _ => simp [Thread.resume, shape, Program.awaits] at later
  have held : op.Unlocked → ∃ lease, Holds timeout system.world index thread lease ∧ env.clock < lease.expires :=
    fun unlocked => linked.live short kept punctual done.found ⟨done.alive, op, awaits, unlocked⟩
  have due : ∀ limit, op.limit timeout = some limit → env.clock ≤ system.world.since index + limit := by
    intro limit limited
    have there : index < system.threads.length := (List.getElem?_eq_some_iff.mp done.found).1
    exact punctual.2 index (List.mem_range.mpr there) thread done.found done.alive op awaits limit limited
  generalize stands : phase thread = stage at before arrived
  cases before with
  | draw | now | sleep => simp [Phase.next] at arrived
  | send => simp [Phase.next, Phase.finish, Phase.token] at arrived
  | release phase token own => simp [Phase.next, Phase.finish, own] at arrived
  | set token =>
    cases answer with
    | error failure => simp [Phase.next] at arrived
    | ok taken => cases taken with
      | false => simp [Phase.next] at arrived
      | true =>
        refine ⟨⟨token, env.clock + 30000⟩, ?_⟩
        have set : after = World.set { system.world with clock := env.clock } index (lockKey thread.tag.network) token 30000 :=
          World.set_of_taken (Option.some.inj acted)
        have entered : phase (thread.resume ⟨.set (lockKey thread.tag.network) token 30000, .ok true⟩ rest) =
            .reserving token := by
          rw [phase_resume, stands]
          rfl
        refine ⟨by rw [entered]; rfl, ?_, ?_⟩
        · rw [set]
          exact Function.update_self _ _ _
        · rw [set, entered]
          simp [World.set, World.mark, Phase.elapsed]
  | setSender | setGasOwner | setGasPayment | setGasBudget | build =>
    obtain ⟨lease, holds, live⟩ := held rfl
    refine ⟨lease, holds.step acted live ?_ ?_ ?_⟩
    · intro _ _ same
      cases same
    · rw [stands]
      rfl
    · have recent := holds.recent
      cases acted
      rw [stands] at recent ⊢
      exact recent
  | reserve token budget seconds =>
    obtain ⟨lease, holds, live⟩ := held rfl
    refine ⟨lease, holds.step acted live ?_ ?_ ?_⟩
    · intro _ _ same
      cases same
    · rw [stands]
      rfl
    · have recent := holds.recent
      have due := due timeout rfl
      cases acted
      rw [stands] at recent ⊢
      simp only [World.mark, Function.update_self, Phase.next, Phase.build, Phase.elapsed] at recent ⊢
      omega
  | sign token bytes =>
    obtain ⟨lease, holds, live⟩ := held rfl
    refine ⟨lease, holds.step acted live ?_ ?_ ?_⟩
    · intro _ _ same
      cases same
    · rw [stands]
      rfl
    · have recent := holds.recent
      have due := due 1000 rfl
      cases acted
      rw [stands] at recent ⊢
      simp only [World.mark, Function.update_self, Phase.next, Phase.send, Phase.elapsed] at recent ⊢
      omega

/-- A token after a step: the one before, or a new one. -/
theorem drawn_step {config : Config} {system : LockSystem} {index : Nat} {env : Env} {thread : LockThread} {op : Op}
    {answer : Res op} {rest : Prog ExecutedTx} {after : World}
    (done : LockAct config system index env thread op answer rest after) {token : Uuid}
    (drawn : (phase (thread.resume ⟨op, answer⟩ rest)).token = some token) :
    (phase thread).token = some token ∨ token = system.world.nextId ∧ token < after.nextId := by
  rcases Permitted.token_next done.before answer with rfl | same
  · right
    have acted : act index env { system.world with clock := env.clock } .randomUUID = some (answer, after) := done.executed
    cases acted
    cases drawn
    exact ⟨rfl, Nat.lt_succ_self _⟩
  · exact .inl (same.symm.trans drawn)

theorem Linked.step {config : Config} {timeout : Nat} (short : 2 * timeout + 1000 < 30000) {system : LockSystem}
    (kept : Machine.Kept ordered system) (linked : Linked timeout system.world system.calls) {index : Nat} {env : Env}
    {thread : LockThread} {op : Op} {answer : Res op} {rest : Prog ExecutedTx} {after : World}
    (punctual : Punctual timeout system (.step index env))
    (done : LockAct config system index env thread op answer rest after) :
    Linked timeout after (Function.update system.calls index (some (thread.resume ⟨op, answer⟩ rest))) := by
  have acted : act index env { system.world with clock := env.clock } op = some (answer, after) := done.executed
  have frame := frame_act acted
  have later : system.world.nextId ≤ after.nextId := frame.nextId
  -- No other call has the token that the acting call has now.
  have alone : ∀ other rival token, system.calls other = some rival → other ≠ index →
      (phase rival).token = some token → (phase (thread.resume ⟨op, answer⟩ rest)).token ≠ some token := by
    intro other rival token there different theirs mine
    rcases drawn_step done mine with old | ⟨fresh, _⟩
    · exact different (linked.apart other index rival thread token there done.found theirs old)
    · have taken := linked.drawn other rival token there theirs
      exact absurd taken (by rw [fresh]; exact Nat.lt_irrefl _)
  constructor
  · intro other rival token found theirs
    rcases Machine.calls_update found with ⟨_, rfl⟩ | ⟨_, found⟩
    · rcases drawn_step done theirs with old | ⟨_, below⟩
      · exact Nat.lt_of_lt_of_le (linked.drawn index thread token done.found old) later
      · exact below
    · exact Nat.lt_of_lt_of_le (linked.drawn other rival token found theirs) later
  · intro one other first second token here there mine theirs
    rcases Machine.calls_update here with ⟨rfl, rfl⟩ | ⟨different, before⟩
    · rcases Machine.calls_update there with ⟨rfl, rfl⟩ | ⟨different, earlier⟩
      · rfl
      · exact absurd mine (alone other second token earlier different theirs)
    · rcases Machine.calls_update there with ⟨rfl, rfl⟩ | ⟨_, earlier⟩
      · exact absurd theirs (alone one first token before different mine)
      · exact linked.apart one other first second token before earlier mine theirs
  · intro other rival found inside
    rcases Machine.calls_update found with ⟨rfl, rfl⟩ | ⟨different, before⟩
    · exact linked.own short kept punctual done inside
    · obtain ⟨lease, holds, live⟩ := linked.live short kept punctual before inside
      refine ⟨lease, holds.token, frame.leases _ _ holds.leased live ?_, ?_⟩
      · rintro key token rfl rfl
        have own := Permitted.own done.before
        exact different (linked.apart other index rival thread lease.token before done.found holds.token own)
      · rw [frame.since other different]
        exact holds.recent

/-- What links the calls to Redis survives every event that keeps the time limits. -/
theorem Linked.moved {config : Config} {timeout : Nat} (short : 2 * timeout + 1000 < 30000)
    {system : LockSystem} (kept : Machine.Kept ordered system) (linked : Linked timeout system.world system.calls)
    {event : Event Env Call} (punctual : Punctual timeout system event) {world : World}
    {calls : Nat → Option LockThread} (move : (machine config).Move ordered system event world calls) :
    Linked timeout world calls := by
  cases move with
  | step index env thread op answer rest after done =>
    rw [close_eq]
    exact linked.step short kept punctual done
  | start call after free entered path =>
    rw [close_eq]
    obtain rfl : { system.world with pods := system.world.pods ++ [call.pod] } = after := Option.some.inj entered
    have outside : ¬Inside ((machine config).fresh call) := by
      rintro ⟨_, op, awaits, unlocked⟩
      cases awaits
      cases unlocked
    constructor
    · intro index thread token found drawn
      rcases Machine.calls_update found with ⟨_, rfl⟩ | ⟨_, found⟩
      · cases drawn
      · exact linked.drawn index thread token found drawn
    · intro index other first second token here there mine theirs
      rcases Machine.calls_update here with ⟨_, rfl⟩ | ⟨_, here⟩
      · cases mine
      · rcases Machine.calls_update there with ⟨_, rfl⟩ | ⟨_, there⟩
        · cases theirs
        · exact linked.apart index other first second token here there mine theirs
    · intro index thread found inside
      rcases Machine.calls_update found with ⟨_, rfl⟩ | ⟨_, found⟩
      · exact absurd inside outside
      · obtain ⟨lease, holds⟩ := linked.holds index thread found inside
        exact ⟨lease, holds.token, holds.leased, holds.recent⟩
  | cut stopped acting here running =>
    constructor
    · intro index thread token found drawn
      rcases Machine.calls_update found with ⟨_, rfl⟩ | ⟨_, found⟩
      · exact linked.drawn stopped acting token here drawn
      · exact linked.drawn index thread token found drawn
    · intro index other first second token one two mine theirs
      rcases Machine.calls_update one with ⟨rfl, rfl⟩ | ⟨_, before⟩
      · rcases Machine.calls_update two with ⟨rfl, rfl⟩ | ⟨_, before⟩
        · rfl
        · exact linked.apart index other acting second token here before mine theirs
      · rcases Machine.calls_update two with ⟨rfl, rfl⟩ | ⟨_, earlier⟩
        · exact linked.apart index other first acting token before here mine theirs
        · exact linked.apart index other first second token before earlier mine theirs
    · intro index thread found inside
      rcases Machine.calls_update found with ⟨_, rfl⟩ | ⟨_, found⟩
      · cases inside.1
      · exact linked.holds index thread found inside

theorem kept_of_reaches {config : Config} (redis : config.redis = true) {initial system : LockSystem}
    (idle : initial.threads = []) (reached : (machine config).Reaches initial system) : Machine.Kept ordered system := by
  refine reached.invariant (Machine.Kept ordered) ?_ ?_
  · intro index thread found
    rw [idle] at found
    cases found
  · intro system event after kept _ effect
    exact kept.effect (honours redis) effect

theorem exclusive_of_run {config : Config} (redis : config.redis = true) {timeout : Nat}
    (short : 2 * timeout + 1000 < 30000) {initial system : LockSystem} (idle : initial.threads = [])
    (run : (machine config).Run (Punctual timeout) initial system) : Exclusive system := by
  have none : ∀ index, initial.calls index = none := by
    intro index
    simp [System.calls, idle]
  have start : Linked timeout initial.world initial.calls := by
    constructor
    · intro index thread token found
      simp [none] at found
    · intro index other first second token found
      simp [none] at found
    · intro index thread found
      simp [none] at found
  refine (run.tracked (honours redis) (Linked timeout) (kept_of_reaches redis idle .refl) start ?_).2.exclusive
  intro system event world calls reached linked punctual move
  exact linked.moved short (kept_of_reaches redis idle reached) punctual move

/-! ### Two calls inside at once -/

def Overlap (system : LockSystem) : Prop := ∃ first ∈ system.calls 0, ∃ second ∈ system.calls 1,
  Inside first ∧ Inside second ∧ first.tag.network = second.tag.network

instance (system : LockSystem) : Decidable (Overlap system) := by
  unfold Overlap
  infer_instance

theorem Overlap.not_exclusive {system : LockSystem} (overlap : Overlap system) : ¬Exclusive system := by
  intro exclusive
  obtain ⟨first, here, second, there, inside, within, same⟩ := overlap
  exact absurd (exclusive 0 1 first second here there inside within same) (by decide)

/-- Longer time limits allow more runs. -/
theorem Punctual.mono {short long : Nat} (longer : short ≤ long) {system : LockSystem} {event : Event Env Call}
    (punctual : Punctual short system event) : Punctual long system event := by
  cases event with
  | step index env =>
    refine ⟨punctual.1, fun other inside thread found alive op awaits limit limited => ?_⟩
    obtain ⟨least, there, below⟩ : ∃ least, op.limit short = some least ∧ least ≤ limit := by
      cases op <;> cases limited <;> first | exact ⟨_, rfl, longer⟩ | exact ⟨_, rfl, Nat.le_refl _⟩
    have due := punctual.2 other inside thread found alive op awaits least there
    omega
  | _ => trivial

def emptyWorld : World := ⟨0, fun _ => none, [], [], [], [], fun _ => 0, 0⟩

/-- Everything asked for at this time succeeds. -/
def calm (clock : Nat) : Env :=
  ⟨clock, .ok (), false, .ok (), .body (.ok ⟨some ⟨"0xsponsor", 9, []⟩, none⟩), .ok [], .ok "",
    ⟨.body (.ok ⟨none, none⟩), true, false⟩⟩

/-- Each step of a call at its time. -/
def steps (index : Nat) (times : List Nat) : List (Event Env Call) := times.map (fun time => .step index (calm time))

/-- The gas station answers after 14.5 s, signing takes a second, and 14.5 s later the request is
still open when the key expires and another pod sets it. -/
def slowStation : List (Event Env Call) :=
  .start ⟨0, "testnet", ⟨none⟩⟩ :: steps 0 [0, 0, 0, 0, 0, 14500, 14500, 14500, 14500, 14500, 15500] ++
    .start ⟨1, "testnet", ⟨none⟩⟩ :: steps 1 [30000, 30000, 30000, 30000]

def slowConfig : Config := ⟨true, "0xhot", 500000000, 30, 1⟩

theorem overlap_slowStation : ∃ system, (machine slowConfig).Run (Punctual 14500) ⟨emptyWorld, []⟩ system ∧ Overlap system :=
  Machine.exists_run slowStation (by decide +kernel)

/-- Without Redis each pod has a queue of its own. -/
def twoPods : List (Event Env Call) :=
  .start ⟨0, "testnet", ⟨none⟩⟩ :: steps 0 [0, 0] ++ .start ⟨1, "testnet", ⟨none⟩⟩ :: steps 1 [0, 0]

theorem overlap_twoPods : ∃ system,
    (machine { slowConfig with redis := false }).Run (Punctual 0) ⟨emptyWorld, []⟩ system ∧ Overlap system :=
  Machine.exists_run twoPods (by decide +kernel)

/-- Calls exclude each other in every run exactly when Redis is configured and two HTTP calls and
the signing between them fit into the lease of the lock. -/
theorem exclusive_iff (timeout : Nat) (redis : Bool) :
    (∀ config initial system, config.redis = redis → initial.threads = [] →
      (machine config).Run (Punctual timeout) initial system → Exclusive system) ↔
    redis = true ∧ 2 * timeout + 1000 < 30000 := by
  constructor
  · intro exclusive
    by_contra long
    cases redis with
    | false =>
      obtain ⟨system, run, overlap⟩ := overlap_twoPods
      exact overlap.not_exclusive (exclusive _ _ system rfl rfl (run.mono (fun _ _ => .mono (Nat.zero_le _))))
    | true =>
      obtain ⟨system, run, overlap⟩ := overlap_slowStation
      have longer : 14500 ≤ timeout := by
        simp only [true_and] at long
        omega
      exact overlap.not_exclusive (exclusive _ _ system rfl rfl (run.mono (fun _ _ => .mono longer)))
  · rintro ⟨configured, short⟩ config initial system same idle run
    exact exclusive_of_run (same.trans configured) short idle run

theorem exclusive_sample : ∀ config initial system, config.redis = true → initial.threads = [] →
    (machine config).Run (Punctual 10000) initial system → Exclusive system :=
  (exclusive_iff 10000 true).mpr ⟨rfl, by decide⟩

/-- With the default timeout two submissions for one network are in flight at once. -/
theorem not_exclusive_by_default : ∃ system,
    (machine slowConfig).Run (Punctual 20000) ⟨emptyWorld, []⟩ system ∧ ¬Exclusive system := by
  obtain ⟨system, run, overlap⟩ := overlap_slowStation
  exact ⟨system, run.mono (fun _ _ => .mono (by decide)), overlap.not_exclusive⟩

end MpcKit.Executor
