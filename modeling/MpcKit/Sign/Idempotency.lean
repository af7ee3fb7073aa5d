import MpcKit.Sign.Caps
import MpcKit.Sign.Owners

/-! Retries of one prepare. The key lookup is a plain read before the charge and the unique index
is only met after it, so a prepare that loses the race has paid; when nobody loses it, all
prepares with one key share one charge, one presign and one row. -/

namespace MpcKit.Sign
open MpcKit.Backend MpcKit.Async
open MpcKit.Billing (Ledger OpKey BillingCharge)

/-- The key a call prepares under. -/
def Call.key : Call → Option (Uuid × String × String)
  | .prepare args => some (args.userId, args.network, args.idempotencyKey)
  | _ => none

section Key

variable (userId : Uuid) (network key : String)

/-- The call prepares under this key. -/
def OnBehalf (thread : SignThread) : Prop :=
  ∃ args, thread.tag = .prepare args ∧ args.userId = userId ∧ args.network = network ∧ args.idempotencyKey = key

theorem onBehalf_iff (thread : SignThread) :
    thread.tag.key = some (userId, network, key) ↔ OnBehalf userId network key thread := by
  unfold OnBehalf
  cases thread.tag with
  | prepare args => simp [Call.key]
  | _ => simp [Call.key]

instance (thread : SignThread) : Decidable (OnBehalf userId network key thread) :=
  decidable_of_iff _ (onBehalf_iff userId network key thread)

/-- An identifier that was drawn under this key. -/
def DrawnFor (system : SignSystem) (id : Uuid) : Prop :=
  ∃ thread ∈ system.threads, OnBehalf userId network key thread ∧ drawnId thread.history = some id

instance (system : SignSystem) (id : Uuid) : Decidable (DrawnFor userId network key system id) :=
  inferInstanceAs (Decidable (∃ thread ∈ system.threads, OnBehalf userId network key thread ∧
    drawnId thread.history = some id))

/-- A charge under this key that was not given back. -/
def Unreturned (system : SignSystem) (charge : BillingCharge) : Prop :=
  charge.opType = "sign" ∧ charge.kind = .charge ∧ DrawnFor userId network key system charge.opId ∧
    ¬Refunded system.world.ledger charge.network charge.opId

instance (system : SignSystem) (charge : BillingCharge) : Decidable (Unreturned userId network key system charge) :=
  inferInstanceAs (Decidable (charge.opType = "sign" ∧ charge.kind = .charge ∧
    DrawnFor userId network key system charge.opId ∧ ¬Refunded system.world.ledger charge.network charge.opId))

/-- Every prepare under this key has returned or thrown. -/
def Returned (system : SignSystem) : Prop :=
  ∀ thread ∈ system.threads, OnBehalf userId network key thread →
    thread.cut = false ∧ thread.program.outcome ≠ none

structure Idempotent (system : SignSystem) : Prop where
  charge : ∀ charge ∈ system.world.ledger.charges, ∀ other ∈ system.world.ledger.charges,
    Unreturned userId network key system charge → Unreturned userId network key system other → charge = other
  presign : ∀ presign ∈ system.world.presigns.rows, ∀ other ∈ system.world.presigns.rows,
    (∃ id ∈ presign.signRequestId, DrawnFor userId network key system id) →
    (∃ id ∈ other.signRequestId, DrawnFor userId network key system id) → presign = other
  reply : ∀ thread ∈ system.threads, ∀ rival ∈ system.threads, OnBehalf userId network key thread →
    OnBehalf userId network key rival → ∀ result again, thread.program = .ret (.prepared result) →
    rival.program = .ret (.prepared again) →
    ∃ row same, result.signRequest = some row ∧ again.signRequest = some same ∧ row.id = same.id

/-- No insert under this key finds the key taken. -/
def Unrivalled (system : SignSystem) (event : Event Env Call) : Prop :=
  ∀ op ∈ system.performs event, match op with
    | .sign (.insert new) => new.userId = userId → new.network = network → new.idempotencyKey = key →
        ∀ row ∈ system.world.signRequests.rows, ¬row.HasKey userId network key
    | _ => True

instance (system : SignSystem) (event : Event Env Call) : Decidable (Unrivalled userId network key system event) := by
  have inner : ∀ op : Op, Decidable (match op with
      | .sign (.insert new) => new.userId = userId → new.network = network → new.idempotencyKey = key →
          ∀ row ∈ system.world.signRequests.rows, ¬row.HasKey userId network key
      | _ => True) := by
    intro op
    induction op using Op.casesOn with
    | sign op => induction op using SignOp.casesOn <;> infer_instance
    | _ => infer_instance
  unfold Unrivalled
  infer_instance

/-- No prepare under this key was refused its row. -/
def Accepted (calls : Nat → Option SignThread) : Prop :=
  ∀ index thread, calls index = some thread → OnBehalf userId network key thread →
    ∀ id, stage thread.history ≠ .refused id

end Key

variable {userId : Uuid} {network key : String}

/-- Only an insert that fails refuses a prepare its row. -/
theorem Moved.refused_by {config : Config} {call : Call} {before : Stage} {op : Op} {answer : Res op} {id : Uuid}
    (moved : Moved config call before op answer (.refused id)) :
    before = .refused id ∨ ∃ new error, (⟨op, answer⟩ : Entry Op Res) = ⟨.sign (.insert new), .error error⟩ := by
  cases moved with
  | refused args dw id error => exact .inr ⟨_, error, rfl⟩
  | quiet => exact .inl rfl

theorem Accepted.act {config : Config} {system : SignSystem} {index : Nat} {env : Env} {thread : SignThread} {op : Op}
    {answer : Res op} {rest : Prog Reply} {world : World} (accepted : Accepted userId network key system.calls)
    (books : Books config system.world system.calls) (unrivalled : Unrivalled userId network key system (.step index env))
    (act : (machine config).Act (contract config) system index env thread op answer rest world) :
    Accepted userId network key (Function.update system.calls index (some (thread.resume ⟨op, answer⟩ rest))) := by
  intro other rival there behalf id refused
  rcases Machine.calls_update there with ⟨rfl, rfl⟩ | ⟨_, was⟩
  · have allowed : Allowed config thread.tag (stage thread.history) op := act.before
    have moved : Moved config thread.tag (stage thread.history) op answer (.refused id) := refused ▸ allowed.moved answer
    rcases moved.refused_by with before | ⟨new, error, same⟩
    · exact accepted _ thread act.found behalf id before
    · cases same
      obtain ⟨args, dw, drawn, tag, at_, rfl⟩ := allowed.of_insert
      obtain ⟨asked, mine, rfl, rfl, rfl⟩ := behalf
      have same : thread.tag = .prepare asked := mine
      rw [tag] at same
      cases same
      have free := (books.drawn act.found (by rw [at_]; rfl)).2
      have unused := unrivalled _ act.performs rfl rfl rfl
      rcases exec_insert act.executed with ⟨_, _, _, ⟨row, taken, has⟩ | ⟨row, taken⟩⟩ | ⟨inserted, _⟩
      · exact unused row taken has
      · rw [show system.world.signRequests.get drawn = some row from taken] at free
        cases free
      · cases inserted
  · exact accepted other rival was behalf id refused

theorem accepted_of_run {config : Config} {initial system : SignSystem} (start : Initial initial)
    (run : (machine config).Run (Unrivalled userId network key) initial system) :
    Accepted userId network key system.calls := by
  have kept : Machine.Kept (contract config) initial := kept_of_reaches start.threads .refl
  have accepted : Accepted userId network key initial.calls := by
    intro index thread found
    rw [start.calls] at found
    cases found
  refine (run.tracked (honours config) (fun _ calls => Accepted userId network key calls) kept accepted ?_).2
  intro system event world calls reached accepted unrivalled move
  cases move with
  | start tag opened free entered path =>
    intro other rival there behalf id refused
    rcases Machine.calls_update there with ⟨rfl, rfl⟩ | ⟨_, was⟩
    · cases refused
    · exact accepted other rival was behalf id refused
  | step index env thread op answer rest opened act =>
    exact accepted.act (books_of_reaches start reached) unrivalled act
  | cut index thread found running =>
    intro other rival there behalf id refused
    rcases Machine.calls_update there with ⟨rfl, rfl⟩ | ⟨_, was⟩
    · exact accepted _ thread found behalf id refused
    · exact accepted other rival was behalf id refused

/-! ### The statement -/

/-- A prepare that holds a presign has its row. -/
theorem Standing.row {world : World} {args : PrepareSignArgs} {id presignId : Uuid} {stage : Stage}
    (standing : Standing world args (some id) (some presignId) stage) :
    ∃ row, world.signRequests.get id = some row ∧ row.HasKey args.userId args.network args.idempotencyKey := by
  cases stage with
  | claimed row presignId =>
    obtain ⟨own, _, ⟨current, there, asked, _⟩, _⟩ := standing
    cases own
    exact ⟨current, there, asked.key⟩
  | allocated row presign =>
    obtain ⟨own, _, current, there, asked, _⟩ := standing
    cases own
    exact ⟨current, there, asked.key⟩
  | named updated presign =>
    obtain ⟨_, row, _, own, _, current, there, has, _⟩ := standing
    cases own
    exact ⟨current, there, has⟩
  | idle => cases standing.2
  | finished => cases standing
  | refused => cases standing.2
  | owing => cases standing.2
  | owned => exact standing.elim
  | marked => exact standing.elim
  | working => exact standing.elim
  | holding => exact standing.elim
  | landing => exact standing.elim
  | _ => cases standing.2.1

/-- What a prepare answers with is the row of its key, which has its presign. -/
theorem Standing.reply {config : Config} {world : World} {args : PrepareSignArgs} {drawn claimed : Option Uuid} {stage : Stage}
    {result : PrepareSignResult} (standing : Standing world args drawn claimed stage)
    (ended : Ended config stage (.prepare args) (.ok (.prepared result))) :
    ∃ row, result.signRequest = some row ∧ Named world args row.id := by
  obtain ⟨same, equal, answered⟩ := ended
  cases equal
  cases answered with
  | replayed row presign bytes => exact ⟨row, rfl, standing.2.2⟩
  | fresh row presign bytes =>
    obtain ⟨_, row, rfl, _, _, named⟩ := standing
    exact ⟨row, rfl, named⟩

/-- A call that has returned or thrown is at a place where it may stop. -/
theorem rests_of_ended {config : Config} {system : SignSystem} {index : Nat} {thread : SignThread}
    (kept : Machine.Kept (contract config) system) (found : system.calls index = some thread)
    (ended : thread.program.outcome ≠ none) : (stage thread.history).Rests config := by
  have path := kept index thread found
  cases program : thread.program with
  | await op next =>
    rw [program] at ended
    exact absurd rfl ended
  | ret value =>
    rw [program] at path
    exact Ended.rests path
  | raise error =>
    rw [program] at path
    exact Ended.rests path

section Statement

variable {config : Config} {system : SignSystem}

/-- A charge that was not refunded has its row. -/
theorem paid_row (owners : Owners system.world system.calls) (books : Books config system.world system.calls)
    (kept : Machine.Kept (contract config) system) (accepted : Accepted userId network key system.calls)
    (returned : Returned userId network key system) {charge : BillingCharge}
    (member : charge ∈ system.world.ledger.charges) (unreturned : Unreturned userId network key system charge) :
    ∃ row, system.world.signRequests.get charge.opId = some row ∧ row.HasKey userId network key := by
  obtain ⟨sign, kind, ⟨thread, there, ⟨args, tag, rfl, rfl, rfl⟩, drawn⟩, unrefunded⟩ := unreturned
  obtain ⟨index, found⟩ := List.mem_iff_getElem?.mp there
  rcases owners.billed found tag drawn member sign kind rfl with refunded | due | row
  · exact absurd refunded unrefunded
  · have rests := rests_of_ended kept found (returned thread there ⟨args, tag, rfl, rfl, rfl⟩).2
    cases at_ : stage thread.history with
    | charged dw id =>
      rw [at_] at rests
      exact rests.elim
    | refused id => exact absurd at_ (accepted index thread found ⟨args, tag, rfl, rfl, rfl⟩ id)
    | owing row =>
      obtain ⟨_, ⟨positive, _⟩, _⟩ := books.paid found (by rw [at_]; rfl)
      rw [at_] at rests
      exact absurd rests (Nat.ne_of_gt positive)
    | _ =>
      rw [at_] at due
      cases due
  · exact row

/-- Whoever holds a presign for an identifier is the prepare that drew it, and it has its row. -/
theorem Owners.holder (owners : Owners system.world system.calls) {presign : Presign} {id : Uuid} {index : Nat}
    {thread : SignThread} (member : presign ∈ system.world.presigns.rows) (held : presign.signRequestId = some id)
    (found : system.calls index = some thread) (behalf : OnBehalf userId network key thread)
    (drawn : drawnId thread.history = some id) : claimedId thread.history = some presign.id ∧
      ∃ row, system.world.signRequests.get id = some row ∧ row.HasKey userId network key := by
  obtain ⟨args, tag, rfl, rfl, rfl⟩ := behalf
  obtain ⟨other, rival, stands, _, own, claimed⟩ := owners.claims (Table.get_of_mem member) held
  obtain rfl := owners.single found stands drawn own
  rw [found] at stands
  cases stands
  have standing := owners.standing found tag
  rw [drawn, claimed] at standing
  exact ⟨claimed, standing.row⟩

/-- What a prepare has answered with is a row under its key. -/
theorem Owners.answers (owners : Owners system.world system.calls) (kept : Machine.Kept (contract config) system)
    {thread : SignThread} {result : PrepareSignResult} (there : thread ∈ system.threads)
    (behalf : OnBehalf userId network key thread) (program : thread.program = .ret (.prepared result)) :
    ∃ row current, result.signRequest = some row ∧ system.world.signRequests.get row.id = some current ∧
      current.HasKey userId network key := by
  obtain ⟨args, tag, rfl, rfl, rfl⟩ := behalf
  obtain ⟨index, found⟩ := List.mem_iff_getElem?.mp there
  have path := kept index thread found
  rw [program, tag] at path
  have ended : Ended config (stage thread.history) (.prepare args) (.ok (.prepared result)) := path
  obtain ⟨row, same, current, stored, has, _⟩ := (owners.standing found tag).reply ended
  exact ⟨row, current, same, stored, has⟩

end Statement

/-- In every run in which no insert under the key finds it taken, prepares with one key share one
charge, one presign and one row once all of them have returned. -/
theorem prepare_idempotent (config : Config) (userId : Uuid) (network key : String) {initial system : SignSystem}
    (start : Initial initial) (run : (machine config).Run (Unrivalled userId network key) initial system)
    (returned : Returned userId network key system) : Idempotent userId network key system := by
  have owners := owners_of_reaches start run.reaches
  have books := books_of_reaches start run.reaches
  have kept := kept_of_reaches start.threads run.reaches
  have accepted := accepted_of_run start run
  refine ⟨?_, ?_, ?_⟩
  · intro charge member other there unreturned again
    obtain ⟨row, found, has⟩ := paid_row owners books kept accepted returned member unreturned
    obtain ⟨rival, stands, holds⟩ := paid_row owners books kept accepted returned there again
    obtain ⟨sign, kind, _⟩ := unreturned
    obtain ⟨also, alike, _⟩ := again
    have same : charge.opId = other.opId := owners.keys found stands has holds
    have net : charge.network = other.network := books.networks member there sign also same
    apply List.inj_on_of_nodup_map books.keys member there
    simp only [BillingCharge.key, BillingCharge.op, net, sign, also, same, kind, alike]
  · rintro presign member other there ⟨id, held, thread, listed, behalf, drawn⟩ ⟨next, taken, rival, placed, likewise, chosen⟩
    obtain ⟨index, here⟩ := List.mem_iff_getElem?.mp listed
    obtain ⟨place, beside⟩ := List.mem_iff_getElem?.mp placed
    obtain ⟨claimed, row, found, has⟩ := owners.holder member held here behalf drawn
    obtain ⟨again, same, stands, holds⟩ := owners.holder there taken beside likewise chosen
    -- One row, so one identifier, so one prepare, so one claim.
    obtain rfl := owners.keys found stands has holds
    obtain rfl := owners.single here beside drawn chosen
    rw [here] at beside
    cases beside
    rw [claimed] at again
    have own : presign.id = other.id := Option.some.inj again
    have first := Table.get_of_mem member
    rw [own, Table.get_of_mem there] at first
    exact (Option.some.inj first).symm
  · intro thread there rival beside behalf likewise result again program also
    obtain ⟨row, current, same, stored, has⟩ := owners.answers kept there behalf program
    obtain ⟨other, stands, alike, found, holds⟩ := owners.answers kept beside likewise also
    exact ⟨row, other, same, alike, owners.keys stored found has holds⟩

/-! ### A prepare that pays and loses -/

/-- Two prepares with one key both find it free; the loser of the insert keeps its charge. -/
def racedEvents : List (Event Env Call) :=
  [.start (samplePrepare "first" [7]), .start (samplePrepare "first" [7])] ++ steps 0 1 calm ++ steps 1 1 calm ++
    steps 0 12 calm ++ steps 1 5 calm

theorem prepare_charged_twice : ∃ system, (machine sampleConfig).Reaches sampleStart system ∧
    Returned 1 "testnet" "first" system ∧ ¬Idempotent 1 "testnet" "first" system := by
  obtain ⟨system, reached, stopped, charge, member, other, there, unreturned, again, apart⟩ :
      ∃ system, (machine sampleConfig).Reaches sampleStart system ∧
        (∀ thread ∈ system.threads, thread.cut = false ∧ thread.program.outcome ≠ none) ∧
        ∃ charge ∈ system.world.ledger.charges, ∃ other ∈ system.world.ledger.charges,
          Unreturned 1 "testnet" "first" system charge ∧ Unreturned 1 "testnet" "first" system other ∧
            charge.opId ≠ other.opId :=
    Machine.exists_reaches racedEvents (by decide +kernel)
  refine ⟨system, reached, fun thread there _ => stopped thread there, fun idempotent => apart ?_⟩
  rw [idempotent.charge charge member other there unreturned again]

/-- The same prepare twice, one after the other. -/
def retriedEvents : List (Event Env Call) :=
  .start (samplePrepare "first" [7]) :: steps 0 13 calm ++ .start (samplePrepare "first" [7]) :: steps 1 5 calm

theorem prepare_idempotent_sample : ∃ system,
    (machine sampleConfig).Run (Unrivalled 1 "testnet" "first") sampleStart system ∧
    Returned 1 "testnet" "first" system ∧ system.threads.length = 2 ∧ Idempotent 1 "testnet" "first" system := by
  obtain ⟨system, run, stopped, both⟩ : ∃ system,
      (machine sampleConfig).Run (Unrivalled 1 "testnet" "first") sampleStart system ∧
      (∀ thread ∈ system.threads, thread.cut = false ∧ thread.program.outcome ≠ none) ∧ system.threads.length = 2 :=
    Machine.exists_run retriedEvents (by decide +kernel)
  have returned : Returned 1 "testnet" "first" system := fun thread there _ => stopped thread there
  exact ⟨system, run, returned, both,
    prepare_idempotent sampleConfig 1 "testnet" "first" sampleStart_initial run returned⟩

end MpcKit.Sign
