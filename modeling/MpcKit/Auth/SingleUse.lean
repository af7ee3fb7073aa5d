import Mathlib.Data.List.Nodup
import MpcKit.Auth.Provenance

/-! From minted sessions back to issued nonces, along every interleaving of requests. -/

namespace MpcKit.Siws
open MpcKit.Backend MpcKit.Async

/-! ### The order of adapter calls -/

/-- How far a request has come. -/
inductive Stage where
  | idle
  | drawn (nonce : Uuid)
  | issued (identifier : String) (nonce : Uuid)
  | found (verification : Verification)
  | timed (verification : Verification) (now : Time)
  | checked (verification : Verification) (now : Time)
  | deleted (verification : Verification)
  | minted (verification : Verification)
  | over
  deriving DecidableEq, Repr

namespace Stage

def issue (identifier : String) (nonce : Uuid) : Stage → Except SiwsError Unit → Stage
  | .drawn _, .ok _ => .issued identifier nonce
  | _, _ => .over

def find : Except SiwsError (Option Verification) → Stage
  | .ok (some verification) => .found verification
  | _ => .over

def time (now : Time) : Stage → Stage
  | .found verification => .timed verification now
  | stage => stage

def check : Stage → Bool → Stage
  | .timed verification now, true => .checked verification now
  | _, _ => .over

def delete : Stage → Except SiwsError Unit → Stage
  | .checked verification _, .ok _ => .deleted verification
  | _, _ => .over

def mint : Stage → Except SiwsError (Option Session) → Stage
  | .deleted verification, .ok (some _) => .minted verification
  | _, _ => .over

def next (stage : Stage) : (op : Op) → Res op → Stage
  | .randomUUID, nonce => .drawn nonce
  | .now, now => stage.time now
  | .createVerificationValue identifier value _, result => stage.issue identifier value result
  | .findVerificationValue _, result => find result
  | .verifySignature _ _ _, valid => stage.check valid
  | .deleteVerificationByIdentifier _, result => stage.delete result
  | .createSession _, result => stage.mint result
  | _, _ => stage

/-- The verification a request works with. -/
def verification : Stage → Option Verification
  | .found verification => some verification
  | .timed verification _ => some verification
  | .checked verification _ => some verification
  | .deleted verification => some verification
  | .minted verification => some verification
  | _ => none

/-- A request that has minted its session. -/
def isMinted : Stage → Bool
  | .minted _ => true
  | _ => false

/-- A nonce that is stored, or a session that is minted. -/
def settled : Stage → Bool
  | .issued _ _ => true
  | .minted _ => true
  | _ => false

/-- The verification a request has deleted. -/
def spent : Stage → Option Verification
  | .deleted verification => some verification
  | .minted verification => some verification
  | _ => none

end Stage

/-- A request that works with the row, or is over. -/
def Stage.Holds (stage : Stage) (row : Verification) : Prop := stage.verification = some row ∨ stage = .over

/-- The adapter calls a request may make in each stage. -/
inductive Allowed (config : Config) : Call → Stage → Op → Prop where
  | draw (address : String) : Allowed config (.nonce address) .idle .randomUUID
  | nonceNow (address : String) (nonce : Uuid) : Allowed config (.nonce address) (.drawn nonce) .now
  | create (address : String) (nonce : Uuid) (expiresAt : Time) :
      Allowed config (.nonce address) (.drawn nonce)
        (.createVerificationValue (identifierFor (config.normalizeSuiAddress address)) nonce expiresAt)
  | isoNow (address identifier : String) (nonce : Uuid) : Allowed config (.nonce address) (.issued identifier nonce) .isoNow
  | find (body : VerifyBody) :
      Allowed config (.verify body) .idle
        (.findVerificationValue (identifierFor (config.normalizeSuiAddress body.address)))
  | now (body : VerifyBody) (verification : Verification) : Allowed config (.verify body) (.found verification) .now
  | verify (body : VerifyBody) (verification : Verification) (now : Time) :
      Allowed config (.verify body) (.timed verification now)
        (.verifySignature body.message body.signature (config.normalizeSuiAddress body.address))
  | delete (body : VerifyBody) (verification : Verification) (now : Time) :
      Allowed config (.verify body) (.checked verification now)
        (.deleteVerificationByIdentifier (identifierFor (config.normalizeSuiAddress body.address)))
  | findAccount (body : VerifyBody) (verification : Verification) (providerId accountId : String) :
      Allowed config (.verify body) (.deleted verification) (.findAccount providerId accountId)
  | findUser (body : VerifyBody) (verification : Verification) (id : Uuid) :
      Allowed config (.verify body) (.deleted verification) (.findUser id)
  | createUser (body : VerifyBody) (verification : Verification) (name email : String) :
      Allowed config (.verify body) (.deleted verification) (.createUser name email)
  | createAccount (body : VerifyBody) (verification : Verification) (userId : Uuid) (providerId accountId : String) :
      Allowed config (.verify body) (.deleted verification) (.createAccount userId providerId accountId)
  | createSession (body : VerifyBody) (verification : Verification) (userId : Uuid) :
      Allowed config (.verify body) (.deleted verification) (.createSession userId)

def order (config : Config) (call : Call) : Protocol Op Res Stage where
  initial := .idle
  next := Stage.next
  Allowed := Allowed config call
  answers _ _ := True

variable {config : Config}

theorem nonce_follows (address : String) :
    (order config (.nonce address)).Follows .idle (getSiwsNonce config address) (fun _ _ => True) := by
  refine .perform (.draw address) (fun nonce _ => .perform (.nonceNow address nonce) (fun now _ => ?_))
  refine .perform (.create address nonce _) (fun result _ => .unwrap (fun _ same => ?_) (fun _ _ => trivial))
  subst same
  exact .perform (.isoNow address _ nonce) (fun _ _ => .ret trivial)

/-- Between the deletion and the session. -/
def Bare (verification : Verification) {α : Type} (stage : Stage) : Except SiwsError α → Prop
  | .ok _ => stage = .deleted verification
  | .error _ => True

theorem orCreateUser_follows (body : VerifyBody) (verification : Verification) (address : String) (user : Option User) :
    (order config (.verify body)).Follows (.deleted verification) (orCreateUser config address user) (Bare verification) := by
  cases user with
  | some user => exact .ret rfl
  | none =>
    refine .perform (.createUser body verification _ _) (fun made _ => .unwrap (fun user _ => ?_) (fun _ _ => trivial))
    refine .perform (.createAccount body verification _ _ _) (fun linked _ => .unwrap (fun _ _ => ?_) (fun _ _ => trivial))
    exact .ret rfl

theorem findOrCreateUser_follows (body : VerifyBody) (verification : Verification) (address : String) :
    (order config (.verify body)).Follows (.deleted verification) (findOrCreateUser config address) (Bare verification) := by
  refine .perform (.findAccount body verification _ _) (fun found _ => .unwrap (fun account _ => ?_) (fun _ _ => trivial))
  cases account with
  | none => exact orCreateUser_follows body verification address none
  | some account =>
    refine .perform (.findUser body verification _) (fun found _ => .unwrap (fun user _ => ?_) (fun _ _ => trivial))
    exact orCreateUser_follows body verification address user

theorem verify_follows (body : VerifyBody) :
    (order config (.verify body)).Follows .idle (verifySiwsSignature config body) (fun _ _ => True) := by
  refine .perform (.find body) (fun result _ => .unwrap (fun found same => ?_) (fun _ _ => trivial))
  subst same
  cases found with
  | none => exact .raise trivial
  | some verification =>
    refine .perform (.now body verification) (fun now _ => ?_)
    split
    · exact .raise trivial
    · split
      · exact .raise trivial
      · refine .perform (.verify body verification now) (fun valid _ => ?_)
        cases valid with
        | false => exact .raise trivial
        | true =>
          refine .perform (.delete body verification now)
            (fun result _ => .unwrap (fun _ same => ?_) (fun _ _ => trivial))
          subst same
          refine .bind (findOrCreateUser_follows body verification _) ?_ (fun _ _ _ => trivial)
          rintro _ user rfl
          refine .perform (.createSession body verification _) (fun result _ => ?_)
          refine .unwrap (fun session _ => ?_) (fun _ _ => trivial)
          cases session with
          | none => exact .raise trivial
          | some session => exact .ret trivial

/-! ### Single use -/

/-- The stage of a request, from what it has done. -/
def stage (config : Config) (thread : SiwsThread) : Stage := (order config thread.tag).state thread.history

def ordered (config : Config) (call : Call) : Contract Op Res SiwsError Reply := (order config call).contract (fun _ _ => True)

theorem honours : (machine config).Honours (ordered config) where
  programs call := by
    cases call with
    | nonce address => exact (nonce_follows address).obeys
    | verify body => exact (verify_follows body).obeys
  answers _ _ := trivial

/-- The request got past deleting a verification with this nonce, and minted a session or still may. -/
def Spends (config : Config) (nonce : Uuid) (thread : SiwsThread) : Prop :=
  (∃ verification ∈ (stage config thread).spent, verification.value = nonce) ∧
    (thread.Running ∨ (stage config thread).isMinted = true)

instance (nonce : Uuid) : DecidablePred (Spends config nonce) := fun _ => inferInstanceAs (Decidable (_ ∧ _))

def Op.deletes : Op → Bool
  | .deleteVerificationByIdentifier _ => true
  | _ => false

/-- Nobody deletes a nonce that another request got past deleting. -/
def Single (config : Config) (system : SiwsSystem) : Event Env Call → Prop
  | .step index env => ∀ thread ∈ system.calls index, ∀ op ∈ thread.program.awaits, op.deletes = true → env.db = .ok () →
      ∀ verification ∈ (stage config thread).verification,
        ¬Machine.Someone system.calls (Spends config verification.value)
  | _ => True

instance (system : SiwsSystem) (event : Event Env Call) : Decidable (Single config system event) := by
  unfold Single
  induction event using Event.casesOn <;> infer_instance

/-- A session comes from a request that looked up a nonce issued to its address, found it unexpired at
the time it read and contained in the message the address signed, and deleted it. It is a session of the
user who is bound to the address. -/
structure Earned (config : Config) (system : SiwsSystem) (session : Session) (body : VerifyBody)
    (verification : Verification) : Prop where
  minted : ∃ thread, system.calls session.call = some thread ∧
    Mints config system.world thread session body verification
  issued : Machine.Someone system.calls (fun thread => ∃ address, thread.tag = .nonce address ∧
    config.normalizeSuiAddress address = config.normalizeSuiAddress body.address ∧
      Stored config thread.history address verification)

/-- Sessions come from nonces, no two from one. -/
def SingleUse (config : Config) (system : SiwsSystem) : Prop :=
  ∃ source : Session → VerifyBody × Verification,
    (∀ session ∈ system.world.sessions, Earned config system session (source session).1 (source session).2) ∧
    ∀ session ∈ system.world.sessions, ∀ other ∈ system.world.sessions,
      (source session).2.value = (source other).2.value → session = other

/-! ### What one adapter call changes -/

/-- Everything an answered adapter call can do to the stage of its request and to the sessions. -/
inductive Change (config : Config) (index : Nat) (env : Env) (world after : World) : Call → Stage → Op → Stage → Prop where
  | quiet (call : Call) (stage : Stage) (op : Op) (still : after.sessions = world.sessions) :
      Change config index env world after call stage op stage
  | drop (call : Call) (stage later : Stage) (op : Op) (still : after.sessions = world.sessions)
      (unsettled : stage.settled = false) (empty : later.spent = none) :
      Change config index env world after call stage op later
  | delete (body : VerifyBody) (verification : Verification) (now : Time) (still : after.sessions = world.sessions)
      (through : env.db = .ok ()) :
      Change config index env world after (.verify body) (.checked verification now)
        (.deleteVerificationByIdentifier (identifierFor (config.normalizeSuiAddress body.address))) (.deleted verification)
  | mint (body : VerifyBody) (verification : Verification) (userId token : Uuid)
      (stored : after.sessions = world.sessions ++ [⟨token, userId, index⟩]) :
      Change config index env world after (.verify body) (.deleted verification) (.createSession userId) (.minted verification)

theorem change_of_act {index : Nat} {call : Call} {stage : Stage} {op : Op} {env : Env} {world after : World}
    {answer : Res op} (allowed : Allowed config call stage op)
    (through : env.db = .ok ()) (acted : act config index env world op = (answer, after)) :
    Change config index env world after call stage op (stage.next op answer) := by
  cases allowed with
  | draw | create | now =>
    cases acted
    exact .drop _ _ _ _ rfl rfl rfl
  | nonceNow | isoNow | findAccount | findUser =>
    cases acted
    exact .quiet _ _ _ rfl
  | find body =>
    cases acted
    generalize latest _ = row
    cases row <;> exact .drop _ _ _ _ rfl rfl rfl
  | verify body verification now =>
    cases acted
    simp only [Stage.next]
    cases config.verifyPersonalMessageSignature body.message body.signature
      (config.normalizeSuiAddress body.address) <;>
      exact .drop _ _ _ _ rfl rfl rfl
  | delete body verification now =>
    cases acted
    exact .delete body verification now rfl through
  | createUser body verification name email =>
    simp only [act] at acted
    split at acted <;> cases acted <;> exact .quiet _ _ _ rfl
  | createAccount body verification userId providerId accountId =>
    simp only [act] at acted
    split at acted <;> cases acted <;> exact .quiet _ _ _ rfl
  | createSession body verification userId =>
    simp only [act] at acted
    split at acted <;> cases acted
    · exact .drop _ _ _ _ rfl rfl rfl
    · exact .mint body verification userId _ rfl

theorem change_of_exec {index : Nat} {call : Call} {stage : Stage} {op : Op} {env : Env} {world after : World}
    {answer : Res op} (allowed : Allowed config call stage op)
    (executed : exec config index op env world = some (answer, after)) :
    Change config index env world after call stage op (stage.next op answer) := by
  unfold exec at executed
  split at executed
  next through => exact change_of_act allowed through (Option.some.inj executed)
  next error refused =>
    cases allowed with
    | draw | nonceNow | isoNow | now | verify => cases executed
    | findAccount | findUser | createUser | createAccount =>
      cases executed
      exact .quiet _ _ _ rfl
    | create | find | delete | createSession =>
      cases executed
      exact .drop _ _ _ _ rfl rfl rfl

/-- A request looks one row up, and goes on with it. -/
theorem Stage.Holds.next {call : Call} {stage : Stage} {op : Op} {answer : Res op} {row : Verification}
    (holds : stage.Holds row) (allowed : Allowed config call stage op) : (stage.next op answer).Holds row := by
  cases holds with
  | inr ended =>
    rw [ended] at allowed
    cases allowed
  | inl works =>
    cases allowed with
    | draw | nonceNow | create | isoNow | find => cases works
    | now | findAccount | findUser | createUser | createAccount => exact .inl works
    | verify =>
      cases answer with
      | false => exact .inr rfl
      | true => exact .inl works
    | delete =>
      cases answer with
      | error error => exact .inr rfl
      | ok value => exact .inl works
    | createSession =>
      cases answer with
      | error error => exact .inr rfl
      | ok session =>
        cases session with
        | none => exact .inr rfl
        | some session => exact .inl works

namespace Change

variable {index : Nat} {env : Env} {world after : World} {call : Call} {stage later : Stage} {op : Op}

theorem settled (change : Change config index env world after call stage op later) (before : stage.settled = true) :
    later = stage := by
  cases change with
  | quiet => rfl
  | drop _ _ _ _ _ unsettled => exact absurd before (by simp [unsettled])
  | delete | mint => cases before

theorem spent (change : Change config index env world after call stage op later) :
    ∀ verification ∈ later.spent, verification ∈ stage.spent ∨ op.deletes = true ∧ env.db = .ok () ∧
      verification ∈ stage.verification := by
  intro verification there
  cases change with
  | quiet | mint => exact .inl there
  | drop _ _ _ _ _ _ empty =>
    rw [empty] at there
    cases there
  | delete body found now still through =>
    cases there
    exact .inr ⟨rfl, through, rfl⟩

theorem sessions (change : Change config index env world after call stage op later) :
    after.sessions = world.sessions ∨ (∃ token userId, after.sessions = world.sessions ++ [⟨token, userId, index⟩]) ∧
      ∃ verification, stage = .deleted verification ∧ later = .minted verification := by
  cases change with
  | quiet _ _ _ still => exact .inl still
  | drop _ _ _ _ still => exact .inl still
  | delete _ _ _ still => exact .inl still
  | mint body verification userId token stored => exact .inr ⟨⟨token, userId, stored⟩, verification, rfl, rfl⟩

end Change

/-! ### Every session has a nonce of its own -/

/-- What the sessions and the calls say of each other. -/
structure Linked (config : Config) (world : World) (calls : Nat → Option SiwsThread) : Prop where
  minted : ∀ session ∈ world.sessions, ∃ thread verification, calls session.call = some thread ∧
    stage config thread = .minted verification
  once : (world.sessions.map Session.call).Nodup
  /-- The row a request has found is the one it works with. -/
  found : ∀ index thread, calls index = some thread → ∀ identifier row,
    Heard thread.history (.findVerificationValue identifier) (.ok (some row)) → (stage config thread).Holds row
  /-- The nonce a request has stored is the one it issued. -/
  stored : ∀ index thread, calls index = some thread → ∀ identifier nonce expiresAt,
    Heard thread.history (.createVerificationValue identifier nonce expiresAt) (.ok ()) →
      stage config thread = .issued identifier nonce

/-- Nobody spends a nonce that another request spends. -/
def Apart (config : Config) (calls : Nat → Option SiwsThread) : Prop :=
  ∀ index other first second nonce, calls index = some first → calls other = some second →
    Spends config nonce first → Spends config nonce second → index = other

abbrev SiwsAct (config : Config) := (machine config).Act (ordered config)

theorem stage_resume (thread : SiwsThread) (op : Op) (answer : Res op) (rest : Prog Reply) :
    stage config (thread.resume ⟨op, answer⟩ rest) = (stage config thread).next op answer := rfl

theorem stored_of_allowed {tag : Call} {stage : Stage} {identifier : String} {nonce : Uuid} {expiresAt : Nat}
    (allowed : Allowed config tag stage (.createVerificationValue identifier nonce expiresAt)) :
    stage.next (.createVerificationValue identifier nonce expiresAt) (.ok ()) = .issued identifier nonce := by
  cases allowed
  rfl

theorem change_of_done {system : SiwsSystem} {index : Nat} {env : Env} {thread : SiwsThread} {op : Op} {answer : Res op}
    {rest : Prog Reply} {after : World} (done : SiwsAct config system index env thread op answer rest after) :
    Change config index env system.world after thread.tag (stage config thread) op
      (stage config (thread.resume ⟨op, answer⟩ rest)) :=
  change_of_exec done.before done.executed

/-- Who spends a nonce after a step did so before, or has just deleted it. -/
theorem spends_step {system : SiwsSystem} {index : Nat} {env : Env} {thread : SiwsThread} {op : Op} {answer : Res op}
    {rest : Prog Reply} {after : World} (done : SiwsAct config system index env thread op answer rest after)
    (single : Single config system (.step index env)) {nonce : Uuid}
    (spends : Spends config nonce (thread.resume ⟨op, answer⟩ rest)) :
    Spends config nonce thread ∨ ¬Machine.Someone system.calls (Spends config nonce) := by
  obtain ⟨⟨verification, spent, rfl⟩, _⟩ := spends
  obtain ⟨next, awaits, _⟩ := done.awaits
  rcases (change_of_done done).spent verification spent with before | ⟨deletes, through, works⟩
  · exact .inl ⟨⟨verification, before, rfl⟩, .inl ⟨done.alive, by rw [awaits]; rfl⟩⟩
  · exact .inr (single thread done.found op (by rw [awaits]; rfl) deletes through verification works)

theorem Linked.minted_step {system : SiwsSystem} (linked : Linked config system.world system.calls)
    {index : Nat} {env : Env}
    {thread : SiwsThread} {op : Op} {answer : Res op} {rest : Prog Reply} {after : World}
    (done : SiwsAct config system index env thread op answer rest after) {session : Session}
    (there : session ∈ after.sessions) :
    ∃ later verification,
      Function.update system.calls index (some (thread.resume ⟨op, answer⟩ rest)) session.call = some later ∧
      stage config later = .minted verification := by
  have change := change_of_done done
  have minted : ∀ session ∈ system.world.sessions, ∃ later verification,
      Function.update system.calls index (some (thread.resume ⟨op, answer⟩ rest)) session.call = some later ∧
        stage config later = .minted verification := by
    intro session there
    obtain ⟨owner, verification, found, stands⟩ := linked.minted session there
    by_cases acting : session.call = index
    · rw [acting, done.found] at found
      cases found
      refine ⟨_, verification, by rw [acting, Function.update_self], ?_⟩
      exact (change.settled (by rw [stands]; rfl)).trans stands
    · exact ⟨owner, verification, by rw [Function.update_of_ne acting]; exact found, stands⟩
  rcases change.sessions with old | ⟨⟨token, userId, stored⟩, verification, _, stands⟩
  · exact minted session (old ▸ there)
  · rw [stored, List.mem_append, List.mem_singleton] at there
    rcases there with old | rfl
    · exact minted session old
    · exact ⟨_, verification, Function.update_self _ _ _, stands⟩

theorem Linked.once_step {system : SiwsSystem} (linked : Linked config system.world system.calls)
    {index : Nat} {env : Env}
    {thread : SiwsThread} {op : Op} {answer : Res op} {rest : Prog Reply} {after : World}
    (done : SiwsAct config system index env thread op answer rest after) : (after.sessions.map Session.call).Nodup := by
  rcases (change_of_done done).sessions with old | ⟨⟨token, userId, stored⟩, verification, deleted, _⟩
  · rw [old]
    exact linked.once
  · rw [stored, List.map_append, List.nodup_append]
    refine ⟨linked.once, List.nodup_singleton _, ?_⟩
    rintro call earlier last own rfl
    obtain ⟨session, there, same⟩ := List.mem_map.mp earlier
    obtain ⟨owner, other, found, stands⟩ := linked.minted session there
    rw [List.map_singleton, List.mem_singleton] at own
    rw [same, own, done.found] at found
    cases found
    rw [deleted] at stands
    cases stands

theorem Linked.step {system : SiwsSystem} (linked : Linked config system.world system.calls) {index : Nat} {env : Env}
    {thread : SiwsThread} {op : Op} {answer : Res op} {rest : Prog Reply} {after : World}
    (done : SiwsAct config system index env thread op answer rest after) :
    Linked config after (Function.update system.calls index (some (thread.resume ⟨op, answer⟩ rest))) where
  minted _ there := linked.minted_step done there
  once := linked.once_step done
  found other later there identifier row heard := by
    rcases Machine.calls_update there with ⟨rfl, rfl⟩ | ⟨_, before⟩
    · cases List.mem_cons.mp heard with
      | inl last =>
        cases last
        exact .inl rfl
      | inr earlier => exact (linked.found other thread done.found identifier row earlier).next done.before
    · exact linked.found other later before identifier row heard
  stored other later there identifier nonce expiresAt heard := by
    rcases Machine.calls_update there with ⟨rfl, rfl⟩ | ⟨_, before⟩
    · cases List.mem_cons.mp heard with
      | inl last =>
        cases last
        rw [stage_resume]
        exact stored_of_allowed done.before
      | inr earlier =>
        have stands := linked.stored other thread done.found identifier nonce expiresAt earlier
        exact ((change_of_done done).settled (by rw [stands]; rfl)).trans stands
    · exact linked.stored other later before identifier nonce expiresAt heard

theorem Apart.step {system : SiwsSystem} (apart : Apart config system.calls) {index : Nat} {env : Env}
    {thread : SiwsThread} {op : Op} {answer : Res op} {rest : Prog Reply} {after : World}
    (done : SiwsAct config system index env thread op answer rest after) (single : Single config system (.step index env)) :
    Apart config (Function.update system.calls index (some (thread.resume ⟨op, answer⟩ rest))) := by
  have alone : ∀ other rival nonce, system.calls other = some rival → other ≠ index → Spends config nonce rival →
      ¬Spends config nonce (thread.resume ⟨op, answer⟩ rest) := by
    intro other rival nonce there different theirs mine
    rcases spends_step done single mine with before | nobody
    · exact different (apart other index rival thread nonce there done.found theirs before)
    · exact nobody ⟨other, rival, there, theirs⟩
  intro one other first second nonce here there mine theirs
  rcases Machine.calls_update here with ⟨rfl, rfl⟩ | ⟨different, before⟩
  · rcases Machine.calls_update there with ⟨rfl, rfl⟩ | ⟨different, earlier⟩
    · rfl
    · exact absurd mine (alone other second nonce earlier different theirs)
  · rcases Machine.calls_update there with ⟨rfl, rfl⟩ | ⟨_, earlier⟩
    · exact absurd theirs (alone one first nonce before different mine)
    · exact apart one other first second nonce before earlier mine theirs

theorem Linked.moved {system : SiwsSystem} (linked : Linked config system.world system.calls) {event : Event Env Call}
    {world : World} {calls : Nat → Option SiwsThread}
    (move : (machine config).Move (ordered config) system event world calls) : Linked config world calls := by
  cases move with
  | step index env thread op answer rest after done =>
    rw [close_eq]
    exact linked.step done
  | start call after free entered path =>
    cases entered
    rw [close_eq]
    constructor
    · intro session there
      obtain ⟨owner, verification, found, stands⟩ := linked.minted session there
      refine ⟨owner, verification, ?_, stands⟩
      rw [Function.update_of_ne]
      · exact found
      · intro beyond
        rw [beyond, free] at found
        cases found
    · exact linked.once
    · intro index thread found identifier row heard
      rcases Machine.calls_update found with ⟨_, rfl⟩ | ⟨_, before⟩
      · exact absurd heard List.not_mem_nil
      · exact linked.found index thread before identifier row heard
    · intro index thread found identifier nonce expiresAt heard
      rcases Machine.calls_update found with ⟨_, rfl⟩ | ⟨_, before⟩
      · exact absurd heard List.not_mem_nil
      · exact linked.stored index thread before identifier nonce expiresAt heard
  | cut stopped acting here running =>
    constructor
    · intro session there
      obtain ⟨owner, verification, found, stands⟩ := linked.minted session there
      by_cases acted : session.call = stopped
      · rw [acted, here] at found
        cases found
        exact ⟨{ acting with cut := true }, verification, by rw [acted, Function.update_self], stands⟩
      · exact ⟨owner, verification, by rw [Function.update_of_ne acted]; exact found, stands⟩
    · exact linked.once
    · intro index thread found identifier row heard
      rcases Machine.calls_update found with ⟨_, rfl⟩ | ⟨_, before⟩
      · exact linked.found stopped acting here identifier row heard
      · exact linked.found index thread before identifier row heard
    · intro index thread found identifier nonce expiresAt heard
      rcases Machine.calls_update found with ⟨_, rfl⟩ | ⟨_, before⟩
      · exact linked.stored stopped acting here identifier nonce expiresAt heard
      · exact linked.stored index thread before identifier nonce expiresAt heard

theorem Apart.moved {system : SiwsSystem} (apart : Apart config system.calls) {event : Event Env Call}
    (single : Single config system event) {world : World} {calls : Nat → Option SiwsThread}
    (move : (machine config).Move (ordered config) system event world calls) : Apart config calls := by
  cases move with
  | step index env thread op answer rest after done => exact apart.step done single
  | start call after free entered path =>
    intro index other first second nonce here there mine theirs
    rcases Machine.calls_update here with ⟨_, rfl⟩ | ⟨_, before⟩
    · obtain ⟨⟨verification, spent, _⟩, _⟩ := mine
      cases spent
    · rcases Machine.calls_update there with ⟨_, rfl⟩ | ⟨_, earlier⟩
      · obtain ⟨⟨verification, spent, _⟩, _⟩ := theirs
        cases spent
      · exact apart index other first second nonce before earlier mine theirs
  | cut stopped acting found running =>
    have spends : ∀ {nonce}, Spends config nonce { acting with cut := true } → Spends config nonce acting := by
      rintro nonce ⟨spent, ⟨cut, _⟩ | minted⟩
      · cases cut
      · exact ⟨spent, .inr minted⟩
    intro index other first second nonce one two mine theirs
    rcases Machine.calls_update one with ⟨rfl, rfl⟩ | ⟨_, before⟩
    · rcases Machine.calls_update two with ⟨rfl, rfl⟩ | ⟨_, before⟩
      · rfl
      · exact apart index other acting second nonce found before (spends mine) theirs
    · rcases Machine.calls_update two with ⟨rfl, rfl⟩ | ⟨_, earlier⟩
      · exact apart index other first acting nonce before found mine (spends theirs)
      · exact apart index other first second nonce before earlier mine theirs

theorem spends_of_minted {thread : SiwsThread} {verification : Verification}
    (stands : stage config thread = .minted verification) : Spends config verification.value thread :=
  ⟨⟨verification, by rw [stands]; rfl, rfl⟩, .inr (by rw [stands]; rfl)⟩

/-- What stands behind a session. -/
theorem Sourced.earned {system : SiwsSystem} (sourced : Sourced config system.world system.calls) {session : Session}
    (there : session ∈ system.world.sessions) :
    ∃ source : VerifyBody × Verification, Earned config system session source.1 source.2 := by
  obtain ⟨thread, body, verification, found, mints⟩ := sourced.sessions session there
  obtain ⟨own, issuer⟩ := sourced.read session.call thread _ verification found mints.checked.found
  refine ⟨(body, verification), ⟨thread, found, mints⟩, issuer.imp ?_⟩
  intro other stores
  obtain ⟨address, tag, stored⟩ := stores
  exact ⟨address, tag, identifierFor_inj (stored.identifier.symm.trans own), stored⟩

/-- The request that minted a session has spent the nonce it checked. -/
theorem Linked.spends {system : SiwsSystem} (linked : Linked config system.world system.calls) {session : Session}
    (there : session ∈ system.world.sessions) {body : VerifyBody} {verification : Verification}
    (earned : Earned config system session body verification) :
    ∃ thread, system.calls session.call = some thread ∧ stage config thread = .minted verification := by
  obtain ⟨thread, found, mints⟩ := earned.minted
  obtain ⟨owner, spent, met, stands⟩ := linked.minted session there
  rw [found] at met
  cases met
  have holds := linked.found session.call thread found _ verification mints.checked.found
  rw [stands] at holds
  cases holds with
  | inl same =>
    cases same
    exact ⟨thread, found, stands⟩
  | inr ended => cases ended

theorem Linked.singleUse {system : SiwsSystem} (linked : Linked config system.world system.calls)
    (sourced : Sourced config system.world system.calls) (apart : Apart config system.calls) :
    SingleUse config system := by
  have sources : ∀ session, ∃ source : VerifyBody × Verification, session ∈ system.world.sessions →
      Earned config system session source.1 source.2 := by
    intro session
    by_cases there : session ∈ system.world.sessions
    · obtain ⟨source, earned⟩ := sourced.earned there
      exact ⟨source, fun _ => earned⟩
    · exact ⟨(⟨"", "", ""⟩, ⟨0, "", 0, 0, 0⟩), fun minted => absurd minted there⟩
  obtain ⟨source, earned⟩ := Classical.axiomOfChoice sources
  refine ⟨source, earned, fun session here other there same => ?_⟩
  obtain ⟨first, found, stands⟩ := linked.spends here (earned session here)
  obtain ⟨second, met, stood⟩ := linked.spends there (earned other there)
  have theirs := spends_of_minted stood
  rw [← same] at theirs
  have one := apart _ _ first second _ found met (spends_of_minted stands) theirs
  exact List.inj_on_of_nodup_map linked.once here there one

theorem calls_of_idle {initial : SiwsSystem} (idle : initial.threads = []) (index : Nat) : initial.calls index = none := by
  simp [System.calls, idle]

theorem kept_of_idle {initial : SiwsSystem} (idle : initial.threads = []) : Machine.Kept (ordered config) initial := by
  intro index thread found
  rw [idle] at found
  cases found

theorem linked_of_run {initial system : SiwsSystem} (idle : initial.threads = []) (unused : initial.world.sessions = [])
    (run : (machine config).Reaches initial system) : Linked config system.world system.calls := by
  have none := calls_of_idle idle
  have start : Linked config initial.world initial.calls := by
    constructor
    · intro session there
      rw [unused] at there
      cases there
    · rw [unused]
      exact List.nodup_nil
    · intro index thread found
      simp [none] at found
    · intro index thread found
      simp [none] at found
  refine (run.tracked honours (Linked config) (kept_of_idle idle) start ?_).2
  intro system event world calls _ linked _ move
  exact linked.moved move

theorem apart_of_run {initial system : SiwsSystem} (idle : initial.threads = [])
    (run : (machine config).Run (Single config) initial system) : Apart config system.calls := by
  have none := calls_of_idle idle
  have start : Apart config initial.calls := by
    intro index other first second nonce found
    simp [none] at found
  refine (run.tracked honours (fun _ calls => Apart config calls) (kept_of_idle idle) start ?_).2
  intro system event world calls _ apart single move
  exact apart.moved single move

/-! ### Two sessions from one nonce -/

def sampleConfig : Config := ⟨fun address => address, fun _ _ _ => true, "mpckit.xyz"⟩

/-- Everything goes through at this time. -/
def calm (now : Time) : Env := ⟨now, "", .ok (), false⟩

def steps (index : Nat) (count : Nat) : List (Event Env Call) := List.replicate count (.step index (calm 0))

def sampleBody : VerifyBody := ⟨"0xa", nonceText 0, "s"⟩

/-- A nonce is issued, then spent by one request. -/
def oneSignIn : List (Event Env Call) := .start (.nonce "0xa") :: steps 0 4 ++ .start (.verify sampleBody) :: steps 1 8

/-- Two requests look the nonce up before either deletes it. -/
def twoSignIns : List (Event Env Call) := .start (.nonce "0xa") :: steps 0 4 ++
  [.start (.verify sampleBody), .start (.verify sampleBody), .step 1 (calm 0), .step 2 (calm 0)] ++ steps 1 7 ++ steps 2 6

def emptySystem : SiwsSystem := ⟨⟨[], [], [], [], 0⟩, []⟩

/-- One request minted a session, and the nonce is spent. -/
def SignedIn (system : SiwsSystem) : Prop := system.world.sessions.map Session.call = [1] ∧ system.world.verifications = []

instance (system : SiwsSystem) : Decidable (SignedIn system) := inferInstanceAs (Decidable (_ ∧ _))

/-- Two sessions of requests that spent the same nonce. -/
def Reused (config : Config) (system : SiwsSystem) : Prop := ∃ one ∈ system.world.sessions, ∃ other ∈ system.world.sessions,
  one ≠ other ∧ ∃ first ∈ system.calls one.call, ∃ second ∈ system.calls other.call,
    (stage config first).spent.isSome ∧ (stage config first).spent = (stage config second).spent

instance (config : Config) (system : SiwsSystem) : Decidable (Reused config system) := by
  unfold Reused
  infer_instance

theorem Reused.not_singleUse {system : SiwsSystem} (linked : Linked config system.world system.calls)
    (reused : Reused config system) : ¬SingleUse config system := by
  intro single
  obtain ⟨source, earned, injective⟩ := single
  obtain ⟨one, here, other, there, different, first, found, second, met, _, same⟩ := reused
  obtain ⟨mine, own, stands⟩ := linked.spends here (earned one here)
  obtain ⟨theirs, known, stood⟩ := linked.spends there (earned other there)
  rw [Option.mem_def] at found met
  rw [found] at own
  rw [met] at known
  cases own
  cases known
  rw [stands, stood] at same
  exact different (injective one here other there (congrArg Verification.value (Option.some.inj same)))

/-- As long as no nonce that one request got past deleting is deleted by another, every session has
an unexpired nonce of its own that was issued to its address. -/
theorem single_use_of_single (config : Config) (initial system : SiwsSystem) (idle : initial.threads = [])
    (blank : initial.world.verifications = []) (unused : initial.world.sessions = [])
    (run : (machine config).Run (Single config) initial system) : SingleUse config system :=
  (linked_of_run idle unused run.reaches).singleUse (sourced_of_run idle blank unused run.reaches)
    (apart_of_run idle run)

theorem single_use_sample : ∃ system, (machine sampleConfig).Run (Single sampleConfig) emptySystem system ∧
    SignedIn system ∧ SingleUse sampleConfig system := by
  obtain ⟨system, run, signed⟩ : ∃ system, (machine sampleConfig).Run (Single sampleConfig) emptySystem system ∧
      SignedIn system := Machine.exists_run oneSignIn (by decide +kernel)
  exact ⟨system, run, signed, single_use_of_single sampleConfig emptySystem system rfl rfl rfl run⟩

/-- Two requests look up one nonce before either deletes it, and both sign in. -/
theorem not_single_use : ∃ system, (machine sampleConfig).Reaches emptySystem system ∧ ¬SingleUse sampleConfig system := by
  obtain ⟨system, reached, reused⟩ : ∃ system, (machine sampleConfig).Reaches emptySystem system ∧
      Reused sampleConfig system := Machine.exists_reaches twoSignIns (by decide +kernel)
  exact ⟨system, reached, reused.not_singleUse (linked_of_run rfl rfl reached)⟩

end MpcKit.Siws
