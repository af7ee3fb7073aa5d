import MpcKit.Services.Signatures
import MpcKit.Sign.Responses

/-! One presign for each request: the cap whose bytes a prepare answers with is the cap that every
transaction for the request consumes. -/

namespace MpcKit.Services
open MpcKit.Backend MpcKit.Async
open MpcKit.Sign (Presign SignRequest PrepareSignArgs PrepareSignResult SignZeroTrust)

variable {config : Config}

/-- What a prepare names and answers with; what the other calls have read. -/
def responses (config : Config) : Call → Contract Op Res Thrown Reply
  | .inl call => (Sign.naming call).within signing .inl
  | .inr call => sources config (.inr call)

theorem honours_responses (config : Config) : (machine config).Honours (responses config) where
  programs call := by
    cases call with
    | inl call => exact (Sign.obeys_naming config.sign call).within signing Sum.inl
    | inr call => exact (honours config).programs (.inr call)
  answers := by
    intro index op env world answer after executed call
    cases call with
    | inl call =>
      intro entry same
      cases same
      obtain ⟨_, sign, done, _⟩ := exec_sign executed
      exact Sign.answers_naming done call
    | inr call => exact (honours config).answers executed (.inr call)

/-- Only a prepare names a row: one, and the one it drew. -/
theorem named_of_before {call : Call} {history : History Op Res} {id presignId : Uuid}
    (before : (responses config call).before history (.inl (.sign (.setPresign id presignId)))) :
    ∃ past, history = past.map signing.entry ∧ Sign.Nameless past ∧ Heard past .randomUUID id := by
  cases call with
  | inl own =>
    obtain ⟨past, action, same, named, before⟩ := before
    cases named
    exact ⟨past, same, Sign.once_of_naming before⟩
  | inr own =>
    obtain ⟨_, _, _, named, _⟩ := before
    cases named

/-! ### The presign of a row -/

/-- What a call has heard of the sign services, it heard as one of their calls. -/
theorem heard_of_within {past : History Sign.Op Sign.Res} {op : Sign.Op} {answer : Sign.Res op}
    (heard : Heard (past.map signing.entry) (.inl op) answer) : Heard past op answer := by
  obtain ⟨⟨own, reply⟩, among, same⟩ := List.mem_map.mp heard
  cases same
  exact among

/-- The call drew the id and gave its row the presign. -/
def Names (id presignId : Uuid) (thread : ServiceThread) : Prop :=
  Drew thread id ∧ ∃ answer, hears thread (.sign (.setPresign id presignId)) answer

theorem lasting_names (id presignId : Uuid) : Machine.Lasting (Names id presignId) := by
  intro thread later continues names
  obtain ⟨drew, answer, named⟩ := names
  exact ⟨drew.later continues.2, answer, named.later continues.2⟩

/-- The cap of a presign that was read is the one it has. -/
def CapFact (world : World) : (op : Op) → Res op → Prop
  | .inl (.presign (.select id)), found => ∀ presign, found = some presign →
      ∃ now, world.sign.presigns.get id = some now ∧ now.suiObjectId = presign.suiObjectId
  | _, _ => True

structure Assigned (world : World) (calls : Nat → Option ServiceThread) : Prop where
  /-- A call names one row at most, and names it once. -/
  once : ∀ index thread, calls index = some thread → ∀ id other first second answer reply,
    hears thread (.sign (.setPresign id first)) answer → hears thread (.sign (.setPresign other second)) reply →
    first = second
  rows : ∀ id row presignId, world.sign.signRequests.get id = some row → row.presignId = some presignId →
    Machine.Someone calls (Names id presignId)
  read : ∀ index thread id row presignId, calls index = some thread → Reads thread id row →
    row.presignId = some presignId → Machine.Someone calls (Names id presignId)

section Step

variable {system : ServiceSystem} {event : Event Env Call} {world : World} {calls : Nat → Option ServiceThread}

theorem Assigned.once_move (assigned : Assigned system.world system.calls)
    (move : (machine config).Move (responses config) system event world calls) {other : Nat} {later : ServiceThread}
    (there : calls other = some later) {id rival first second : Uuid} {answer reply : Option SignRequest}
    (one : hears later (.sign (.setPresign id first)) answer) (two : hears later (.sign (.setPresign rival second)) reply) :
    first = second := by
  cases move with
  | start call entered free opened path =>
    rcases Machine.calls_update there with ⟨_, rfl⟩ | ⟨_, before⟩
    · exact absurd one List.not_mem_nil
    · exact assigned.once other later before id rival first second answer reply one two
  | cut index thread found running =>
    rcases Machine.calls_update there with ⟨_, rfl⟩ | ⟨_, before⟩
    · exact assigned.once index thread found id rival first second answer reply one two
    · exact assigned.once other later before id rival first second answer reply one two
  | step index env thread op last rest after act =>
    rcases Machine.calls_update there with ⟨_, rfl⟩ | ⟨_, before⟩
    · -- The call has named no row when it names one.
      have fresh : ∀ {id presignId : Uuid}, op = .inl (.sign (.setPresign id presignId)) →
          ∀ other presign reply, ¬hears thread (.sign (.setPresign other presign)) reply := by
        intro id presignId named other presign reply earlier
        have before := act.before
        rw [named] at before
        obtain ⟨past, same, nameless, _⟩ := named_of_before before
        rw [hears, same] at earlier
        exact nameless other presign reply (heard_of_within earlier)
      cases List.mem_cons.mp one with
      | inl now =>
        cases now
        cases List.mem_cons.mp two with
        | inl same =>
          cases same
          rfl
        | inr earlier => exact absurd earlier (fresh rfl _ _ _)
      | inr early =>
        cases List.mem_cons.mp two with
        | inl now =>
          cases now
          exact absurd early (fresh rfl _ _ _)
        | inr earlier => exact assigned.once index thread act.found id rival first second answer reply early earlier
    · exact assigned.once other later before id rival first second answer reply one two

theorem Assigned.rows_move (assigned : Assigned system.world system.calls)
    (move : (machine config).Move (responses config) system event world calls) {id presignId : Uuid} {row : SignRequest}
    (there : world.sign.signRequests.get id = some row) (held : row.presignId = some presignId) :
    Machine.Someone calls (Names id presignId) := by
  have moved := move
  cases move with
  | start call entered free opened path =>
    obtain ⟨jobs, rfl⟩ := enter_grows opened
    obtain ⟨left, same⟩ := close_grows config system.threads.length call ((machine config).program call)
      { system.world with sign := { system.world.sign with jobs := jobs } }
    rw [same] at there
    exact (assigned.rows id row presignId there held).move (lasting_names _ _) moved
  | cut index thread found running =>
    obtain ⟨left, same⟩ := leave_grows thread.tag none system.world
    change (leave thread.tag none system.world).sign.signRequests.get id = some row at there
    rw [same] at there
    exact (assigned.rows id row presignId there held).move (lasting_names _ _) moved
  | step index env thread op answer rest after act =>
    obtain ⟨left, same⟩ := close_grows config index thread.tag rest after
    rw [same] at there
    rcases request_of_exec act.executed there with unchanged | ⟨new, rfl, rfl, rfl⟩ | ⟨old, statement, rfl, early, change⟩
    · exact (assigned.rows id row presignId unchanged held).move (lasting_names _ _) moved
    · cases held
    · rcases change.presignId with kept | ⟨named, rfl, now⟩
      · rw [kept] at held
        exact (assigned.rows id old presignId early held).move (lasting_names _ _) moved
      · rw [held] at now
        cases now
        obtain ⟨past, same, _, drawn⟩ := named_of_before act.before
        have drew : Drew thread old.id := by
          rw [Drew, same]
          exact drawn.within signing
        rw [← show old.id = id from Table.key_of_get early]
        exact .here index ⟨drew.cons _, answer, .last⟩

theorem Assigned.move (assigned : Assigned system.world system.calls)
    (move : (machine config).Move (responses config) system event world calls) : Assigned world calls where
  once _ _ there _ _ _ _ _ _ one two := assigned.once_move move there one two
  rows _ _ _ there held := assigned.rows_move move there held
  read other later id row presignId there reads held := by
    have named : Machine.Someone system.calls (Names id presignId) := by
      rcases reads_of_move move there reads with ⟨earlier, before, early⟩ | stored
      · exact assigned.read other earlier id row presignId before early held
      · exact assigned.rows id row presignId stored held
    exact named.move (lasting_names _ _) move

end Step

/-! ### Caps -/

/-- No operation deletes a presign or changes its cap. -/
theorem cap_of_exec {index : Nat} {op : Op} {env : Env} {world after : World} {answer : Res op}
    (executed : exec config index op env world = some (answer, after)) {id : Uuid} {row : Presign}
    (found : world.sign.presigns.get id = some row) :
    ∃ now, after.sign.presigns.get id = some now ∧ now.suiObjectId = row.suiObjectId := by
  cases op with
  | inl op =>
    obtain ⟨_, sign, done, rfl⟩ := exec_sign executed
    obtain ⟨now, there, same, _⟩ := Sign.exec_presign done found
    exact ⟨now, there, same⟩
  | inr op =>
    obtain ⟨_, wallets, _, rfl⟩ := exec_wallets executed
    exact ⟨row, found, rfl⟩

theorem CapFact.later {before after : World}
    (kept : ∀ id row, before.sign.presigns.get id = some row →
      ∃ now, after.sign.presigns.get id = some now ∧ now.suiObjectId = row.suiObjectId)
    {op : Op} {answer : Res op} (fact : CapFact before op answer) : CapFact after op answer := by
  cases op with
  | inl op =>
    cases op with
    | presign op =>
      cases op with
      | select id =>
        intro presign same
        obtain ⟨row, found, cap⟩ := fact presign same
        obtain ⟨now, there, later⟩ := kept id row found
        exact ⟨now, there, later.trans cap⟩
      | _ => trivial
    | _ => trivial
  | inr op => trivial

theorem capFact_of_exec {index : Nat} {op : Op} {env : Env} {world after : World} {answer : Res op}
    (executed : exec config index op env world = some (answer, after)) : CapFact after op answer := by
  cases op with
  | inl op =>
    cases op with
    | presign op =>
      cases op with
      | select id =>
        intro presign same
        subst same
        obtain ⟨_, sign, done, rfl⟩ := exec_sign executed
        obtain ⟨found, rfl⟩ := Sign.exec_presign_select done
        exact ⟨presign, found, rfl⟩
      | _ => trivial
    | _ => trivial
  | inr op => trivial

theorem caps_follow (config : Config) : Follows config (Machine.Backed CapFact) where
  jobs _ backed := fun index thread found op answer heard =>
    CapFact.later (fun _ row there => ⟨row, there, rfl⟩) (backed index thread found op answer heard)
  replace backed echoes := backed.replace echoes (fun _ _ => id)
  act backed acted := backed.resume acted.found (fun _ _ => CapFact.later (fun _ _ => cap_of_exec acted.executed))
    (capFact_of_exec acted.executed)

/-! ### Every run -/

theorem assigned_of_reaches {initial system : ServiceSystem} (idle : initial.threads = [])
    (empty : initial.world.sign.signRequests.rows = []) (reached : (machine config).Reaches initial system) :
    Machine.Kept (responses config) system ∧ Assigned system.world system.calls := by
  have kept : Machine.Kept (responses config) initial := by
    intro index thread found
    rw [idle] at found
    cases found
  have calls : ∀ index thread, initial.calls index ≠ some thread := by
    intro index thread found
    rw [System.calls, idle] at found
    cases found
  have start : Assigned initial.world initial.calls := by
    constructor
    · exact fun index thread found => absurd found (calls index thread)
    · intro id row presignId there
      have member := Table.mem_of_get there
      rw [empty] at member
      cases member
    · exact fun index thread _ _ _ found => absurd found (calls index thread)
  exact reached.tracked (honours_responses config) Assigned kept start (fun _ assigned _ move => assigned.move move)

/-- A row has one presign in its life. -/
theorem Assigned.unique {world : World} {calls : Nat → Option ServiceThread} (assigned : Assigned world calls)
    (registry : Registry world calls) {id first second : Uuid} (one : Machine.Someone calls (Names id first))
    (two : Machine.Someone calls (Names id second)) : first = second := by
  obtain ⟨index, thread, found, drew, answer, named⟩ := one
  obtain ⟨other, rival, there, drawn, reply, given⟩ := two
  have same := registry.apart index other thread rival id found there drew drawn
  subst same
  rw [found] at there
  cases there
  exact assigned.once index thread found id id first second answer reply named given

/-- The request a finished prepare call answered with, and its whole reply. -/
def handed (thread : ServiceThread) : Option (PrepareSignArgs × PrepareSignResult × SignRequest) :=
  match thread.tag, thread.program with
  | .inl (.prepare args), .ret (.inl (.prepared reply)) => reply.signRequest.map (fun row => (args, reply, row))
  | _, _ => none

theorem of_handed {thread : ServiceThread} {args : PrepareSignArgs} {reply : PrepareSignResult} {row : SignRequest}
    (answered : handed thread = some (args, reply, row)) :
    thread.tag = .inl (.prepare args) ∧ thread.program = .ret (.inl (.prepared reply)) ∧
      reply.signRequest = some row := by
  unfold handed at answered
  split at answered
  next asked said tag ended =>
    obtain ⟨_, there, same⟩ := Option.map_eq_some_iff.mp answered
    cases same
    exact ⟨tag, ended, there⟩
  · cases answered

theorem responds_of_ended {system : ServiceSystem} (kept : Machine.Kept (responses config) system) {index : Nat}
    {thread : ServiceThread} {args : PrepareSignArgs} {reply : PrepareSignResult} (found : system.calls index = some thread)
    (tag : thread.tag = .inl (.prepare args)) (ended : thread.program = .ret (.inl (.prepared reply))) :
    ∃ presign bytes, Sign.Responds (hears thread) args reply presign bytes := by
  have path := kept index thread found
  rw [tag, ended] at path
  obtain ⟨past, own, same, named, responded⟩ := path
  cases own with
  | error error => cases named
  | ok own =>
    cases named
    obtain ⟨presign, bytes, responds⟩ := responded
    exact ⟨presign, bytes, responds.mono (hears_of_past same)⟩

/-- The answered row has the presign whose cap the answer names. -/
theorem names_of_picked {system : ServiceSystem} (assigned : Assigned system.world system.calls) {index : Nat}
    {caller : ServiceThread} (found : system.calls index = some caller) {args : PrepareSignArgs} {row : SignRequest}
    {presignId : Uuid} (picked : Sign.Picked (hears caller) args (some row) presignId) :
    Machine.Someone system.calls (Names row.id presignId) := by
  cases picked with
  | replayed stored same read _ held =>
    cases same
    exact assigned.read index caller row.id row presignId found (.byKey _ _ _ row read) held
  | fresh id drawn named own =>
    obtain rfl := own row rfl
    exact ⟨index, caller, found, drawn, some row, named⟩

/-- The transaction takes the cap that a prepare of the same request answered with. -/
theorem answered_cap {system : ServiceSystem} (assigned : Assigned system.world system.calls)
    (registry : Registry system.world system.calls) (caps : Machine.Backed CapFact system.world system.calls)
    {worker other : Nat} {process caller : ServiceThread} {id : Uuid} {read row : SignRequest} {tx : SignZeroTrust}
    {args : PrepareSignArgs} {reply : PrepareSignResult} {presign : Presign} {bytes : Bytes}
    (working : system.calls worker = some process) (built : Sign.Built (hears process) id read tx)
    (found : system.calls other = some caller) (responds : Sign.Responds (hears caller) args reply presign bytes)
    (answered : reply.signRequest = some row) (same : row.id = id) : presign.suiObjectId = tx.presignCapId := by
  subst same
  obtain ⟨taken, held, seen, cap⟩ := built.cap
  have one := assigned.read worker process row.id read taken.id working (.byId row.id read built.read) held
  have picked := responds.picked
  rw [answered] at picked
  have two := names_of_picked assigned found picked
  have alike : taken.id = presign.id := assigned.unique registry one two
  obtain ⟨now, there, first⟩ := caps worker process working _ _ seen taken rfl
  obtain ⟨again, here, second⟩ := caps other caller found _ _ responds.read presign rfl
  rw [alike, here] at there
  cases there
  exact (second.symm.trans first).trans cap.symm

/-- Every prepare call that answered with the request has handed out the cap that the transaction takes,
with the bytes the coordinator gave for it. -/
def HandedOut (system : ServiceSystem) (id : Uuid) (tx : SignZeroTrust) : Prop :=
  ∀ index caller args reply row, system.calls index = some caller → handed caller = some (args, reply, row) →
    row.id = id → reply.presignSuiObjectId = tx.presignCapId ∧
      ∃ bytes, Sign.Fetched (hears caller) args.network tx.presignCapId bytes ∧ reply.presignBytesHex = Sign.toHex bytes

/-- The transaction is for one sign request: the one whose id a prepare call drew, that asked for exactly
this, with the inputs of one submit call of the same user. -/
def AsAsked (system : ServiceSystem) (process : ServiceThread) (tx : SignZeroTrust) : Prop :=
  ∃ id job asked given dw, process.tag = .inl (.process id job) ∧ Ordered system id tx asked given dw ∧
    HandedOut system id tx

/-- Every transaction a call had executed was asked for, and takes the presign that was handed out. -/
theorem sent_as_asked (config : Config) {initial system : ServiceSystem} (idle : initial.threads = [])
    (empty : initial.world.sign.signRequests.rows = []) (reached : (machine config).Reaches initial system) :
    ∀ worker process tx result, system.calls worker = some process → hears process (.chain (.execute tx)) result →
      AsAsked system process tx := by
  intro worker process tx result working sent
  have traced := traced_of_reaches idle empty reached
  have registry := (booked_of_reaches idle empty reached).2.registry
  obtain ⟨kept, assigned⟩ := assigned_of_reaches idle empty reached
  have unheard : Machine.Backed CapFact initial.world initial.calls := by
    intro index thread found
    rw [System.calls, idle] at found
    cases found
  obtain ⟨_, caps⟩ := (caps_follow config).reaches idle unheard reached
  obtain ⟨id, job, read, tag, built⟩ := traced.sent worker process tx result working sent
  obtain ⟨asked, given, dw, ordered⟩ := traced.ordered working built
  refine ⟨id, job, asked, given, dw, tag, ordered, ?_⟩
  intro other caller args reply row found answered same
  obtain ⟨asks, ended, whole⟩ := of_handed answered
  obtain ⟨presign, bytes, responds⟩ := responds_of_ended kept found asks ended
  have cap := answered_cap assigned registry caps working built found responds whole same
  rw [← cap]
  exact ⟨responds.cap, bytes, responds.fetched, responds.bytesHex⟩

/-- A prepare has answered with the request that was signed. -/
def IsHanded (system : ServiceSystem) : Prop :=
  ∃ thread ∈ system.threads, (handed thread).any (fun answer => answer.2.2.id = 10) = true

instance (system : ServiceSystem) : Decidable (IsHanded system) := by
  unfold IsHanded
  infer_instance

theorem sent_as_asked_sample : ∃ system, (machine sampleConfig).Reaches signStart system ∧ IsSigned system ∧
    IsHanded system ∧ ∀ worker process tx result, system.calls worker = some process →
      hears process (.chain (.execute tx)) result → AsAsked system process tx := by
  obtain ⟨system, reached, signed, answered⟩ :
      ∃ system, (machine sampleConfig).Reaches signStart system ∧ IsSigned system ∧ IsHanded system :=
    Machine.exists_reaches signedOnce (by decide +kernel)
  exact ⟨system, reached, signed, answered, sent_as_asked sampleConfig rfl rfl reached⟩

end MpcKit.Services
