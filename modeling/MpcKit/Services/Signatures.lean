import MpcKit.Services.Presigns
import MpcKit.Services.Requests
import MpcKit.Sign.Signatures

/-! Where a stored signature comes from: a transaction that was executed for exactly what one
prepare call asked for, with the inputs of one submit call by the same user. -/

namespace MpcKit.Services
open MpcKit.Backend MpcKit.Async
open MpcKit.Sign (DWallet SignRequest PrepareSignArgs SubmitPreparedSignArgs SignZeroTrust)

/-- What a submit or a worker call has in hand before it stores. -/
def tracing (config : Config) : Call → Contract Op Res Thrown Reply
  | .inl call => (Sign.traced call).within signing .inl
  | .inr call => sources config (.inr call)

theorem honours_tracing (config : Config) : (machine config).Honours (tracing config) where
  programs call := by
    cases call with
    | inl call =>
      have obeys : (Sign.program config.sign call).Obeys (Sign.traced call) [] :=
        (Sign.traces_program config.sign call).obeys (fun _ _ _ => trivial)
      exact obeys.within signing Sum.inl
    | inr call => exact (honours config).programs (.inr call)
  answers := by
    intro index op env world answer after executed call
    cases call with
    | inr call => exact (honours config).answers executed (.inr call)
    | inl call =>
      rintro ⟨own, reply⟩ same
      cases same
      obtain ⟨_, sign, done, _⟩ := exec_sign executed
      exact Sign.answers_exec done

/-- What is known before an operation of the sign services. -/
theorem traced_sign {config : Config} {call : Call} {history : History Op Res} {op : Sign.Op}
    (before : (tracing config call).before history (.inl op)) :
    ∃ own past, call = .inl own ∧ history = past.map signing.entry ∧ Sign.Traced own past op := by
  cases call with
  | inl own =>
    obtain ⟨past, action, same, named, traced⟩ := before
    cases named
    exact ⟨own, past, rfl, same, traced⟩
  | inr own =>
    obtain ⟨_, _, _, named, _⟩ := before
    cases named

/-- What the call has heard of the sign services. -/
def hears (thread : ServiceThread) (op : Sign.Op) (answer : Sign.Res op) : Prop := Heard thread.history (.inl op) answer

theorem hears_of_past {thread : ServiceThread} {past : History Sign.Op Sign.Res} (same : thread.history = past.map signing.entry)
    (op : Sign.Op) (answer : Sign.Res op) (heard : Heard past op answer) : hears thread op answer := by
  unfold hears
  rw [same]
  exact heard.within signing

/-- The call has read the row: by its id, or by the key of a prepare. -/
inductive Reads (thread : ServiceThread) : Uuid → SignRequest → Prop where
  | byId (id : Uuid) (row : SignRequest) (heard : hears thread (.sign (.select id)) (some row)) : Reads thread id row
  | byKey (userId : Uuid) (network key : String) (row : SignRequest)
      (heard : hears thread (.sign (.selectByKey userId network key)) (some row)) : Reads thread row.id row

theorem Reads.of_history {thread other : ServiceThread} {id : Uuid} {row : SignRequest} (reads : Reads thread id row)
    (same : thread.history = other.history) : Reads other id row := by
  have still : ∀ op answer, hears thread op answer → hears other op answer := by
    intro op answer heard
    rw [hears, ← same]
    exact heard
  cases reads with
  | byId id row heard => exact .byId id row (still _ _ heard)
  | byKey userId network key row heard => exact .byKey userId network key row (still _ _ heard)

theorem not_reads_of_nil {thread : ServiceThread} {id : Uuid} {row : SignRequest} (none : thread.history = []) :
    ¬Reads thread id row := by
  intro reads
  cases reads with
  | byId id row heard => exact Machine.not_heard_of_nil none heard
  | byKey userId network key row heard => exact Machine.not_heard_of_nil none heard

/-! ### What is known of a row -/

variable {config : Config}

/-- What a row keeps of the prepare call that asked for it, and whose dwallet that call named. -/
structure Asked (world : World) (args : PrepareSignArgs) (row : SignRequest) : Prop where
  belongs : Belongs world args row
  idempotencyKey : row.idempotencyKey = args.idempotencyKey
  hashScheme : row.hashScheme = args.hashScheme
  messageHex : row.messageHex = Sign.toHex args.message
  mine : ∀ dw, world.sign.dwallets.get args.dwalletId = some dw → dw.userId = args.userId ∧ dw.network = args.network

/-- The inputs a row holds are those of a submit call. -/
structure Given (args : SubmitPreparedSignArgs) (id : Uuid) (row : SignRequest) : Prop where
  id : args.signRequestId = id
  userId : args.userId = row.userId
  network : args.network = row.network
  messageCentralizedSignature : row.messageCentralizedSignatureHex = some (Sign.toHex args.messageCentralizedSignature)
  sessionIdentifierBytes : row.sessionIdentifierHex = some (Sign.toHex args.sessionIdentifierBytes)

def Prepares (world : World) (id : Uuid) (row : SignRequest) (thread : ServiceThread) : Prop :=
  ∃ args, thread.tag = .inl (.prepare args) ∧ Drew thread id ∧ Asked world args row

def Submits (id : Uuid) (row : SignRequest) (thread : ServiceThread) : Prop :=
  ∃ args, thread.tag = .inl (.submit args) ∧ Given args id row

def Processes (id : Uuid) (text : String) (thread : ServiceThread) : Prop :=
  ∃ job row tx, thread.tag = .inl (.process id job) ∧ Sign.Signed (hears thread) id row tx text

theorem lasting_prepares (world : World) (id : Uuid) (row : SignRequest) : Machine.Lasting (Prepares world id row) := by
  intro thread later continues prepares
  obtain ⟨args, tag, drew, asked⟩ := prepares
  exact ⟨args, continues.1.trans tag, drew.later continues.2, asked⟩

theorem lasting_submits (id : Uuid) (row : SignRequest) : Machine.Lasting (Submits id row) := by
  intro thread later continues submits
  obtain ⟨args, tag, given⟩ := submits
  exact ⟨args, continues.1.trans tag, given⟩

theorem lasting_processes (id : Uuid) (text : String) : Machine.Lasting (Processes id text) := by
  intro thread later continues processes
  obtain ⟨job, row, tx, tag, signed⟩ := processes
  exact ⟨job, row, tx, continues.1.trans tag, signed.mono (fun _ _ heard => heard.later continues.2)⟩

/-- What is known of a row, stored or once read. -/
structure Known (world : World) (calls : Nat → Option ServiceThread) (id : Uuid) (row : SignRequest) : Prop where
  prepared : Machine.Someone calls (Prepares world id row)
  submitted : row.messageCentralizedSignatureHex = none ∧ row.sessionIdentifierHex = none ∨
    Machine.Someone calls (Submits id row)
  signed : ∀ text, row.signatureHex = some text → Machine.Someone calls (Processes id text)

structure Traced (world : World) (calls : Nat → Option ServiceThread) : Prop where
  rows : ∀ id row, world.sign.signRequests.get id = some row → Known world calls id row
  read : ∀ index thread id row, calls index = some thread → Reads thread id row → Known world calls id row
  sent : ∀ index thread tx result, calls index = some thread → hears thread (.chain (.execute tx)) result →
    ∃ id job row, thread.tag = .inl (.process id job) ∧ Sign.Built (hears thread) id row tx

theorem Asked.later {before after : World} (grows : Grows before after) {args : PrepareSignArgs} {row : SignRequest}
    (asked : Asked before args row) : Asked after args row where
  belongs := asked.belongs.later grows (.refl row)
  idempotencyKey := asked.idempotencyKey
  hashScheme := asked.hashScheme
  messageHex := asked.messageHex
  mine dw found := by
    obtain ⟨old, there, _⟩ := asked.belongs.dwallet
    obtain ⟨later, held, same⟩ := grows.dwallets _ old there
    rw [found] at held
    cases held
    exact ⟨same.userId.trans (asked.mine old there).1, same.network.trans (asked.mine old there).2⟩

section Step

variable {system : ServiceSystem} {event : Event Env Call} {world : World} {calls : Nat → Option ServiceThread}
  {id : Uuid} {row old : SignRequest}

theorem prepared_move (prepared : Machine.Someone system.calls (Prepares system.world id old))
    (move : (machine config).Move (tracing config) system event world calls) (grows : Grows system.world world)
    (same : ∀ args, Asked world args old → Asked world args row) : Machine.Someone calls (Prepares world id row) := by
  apply (prepared.move (lasting_prepares _ _ _) move).imp
  intro thread prepares
  obtain ⟨args, tag, drew, asked⟩ := prepares
  exact ⟨args, tag, drew, same args (asked.later grows)⟩

/-- What is known of a row stays known. -/
theorem Known.move (known : Known system.world system.calls id row)
    (move : (machine config).Move (tracing config) system event world calls) (grows : Grows system.world world) :
    Known world calls id row where
  prepared := prepared_move known.prepared move grows (fun _ asked => asked)
  submitted := by
    cases known.submitted with
    | inl none => exact .inl none
    | inr given => exact .inr (given.move (lasting_submits _ _) move)
  signed text there := (known.signed text there).move (lasting_processes _ _) move

/-- An update stores the inputs of a submit call, or leaves them alone. -/
theorem inputs_of_change {env : Sign.Env} {statement : Sign.SignOp} (change : Sign.SignChange env statement old row) :
    (∃ signature session, statement = .setQueued old.id signature session ∧
      row.messageCentralizedSignatureHex = some signature ∧ row.sessionIdentifierHex = some session) ∨
    row.messageCentralizedSignatureHex = old.messageCentralizedSignatureHex ∧
      row.sessionIdentifierHex = old.sessionIdentifierHex := by
  cases change with
  | queued _ signature session => exact .inl ⟨signature, session, rfl, rfl, rfl⟩
  | _ => exact .inr ⟨rfl, rfl⟩

theorem signature_of_change {env : Sign.Env} {statement : Sign.SignOp} (change : Sign.SignChange env statement old row) :
    (∃ text, statement = .setCompleted old.id text ∧ row.signatureHex = some text) ∨ row.signatureHex = old.signatureHex := by
  cases change with
  | completed _ text => exact .inl ⟨text, rfl, rfl⟩
  | _ => exact .inr rfl

theorem asked_of_change {env : Sign.Env} {statement : Sign.SignOp} {args : PrepareSignArgs}
    (change : Sign.SignChange env statement old row) (asked : Asked world args old) : Asked world args row where
  belongs := asked.belongs.later (.refl world) (sameRequest_of_change change)
  idempotencyKey := by
    rw [← asked.idempotencyKey]
    cases change <;> rfl
  hashScheme := by
    rw [← asked.hashScheme]
    cases change <;> rfl
  messageHex := by
    rw [← asked.messageHex]
    cases change <;> rfl
  mine := asked.mine

/-- The row a prepare inserts is what it was asked for. -/
theorem asked_of_insert {thread : ServiceThread} {new : Sign.NewSignRequest} {now : Time}
    (before : (sources config thread.tag).before thread.history (.inl (.sign (.insert new))))
    (backed : ∀ op answer, Heard thread.history op answer → DWalletFact world op answer) :
    ∃ args, thread.tag = .inl (.prepare args) ∧ Drew thread new.id ∧ Asked world args (new.row now) := by
  have inserted : ∃ args, thread.tag = .inl (.prepare args) ∧ Drew thread new.id ∧ Belongs world args (new.row now) :=
    belongs_of_insert before backed
  obtain ⟨args, tag, drawn, belongs⟩ := inserted
  obtain ⟨own, past, named, same, asked, dw, rfl, chosen, _, made⟩ := sourced_sign before
  rw [tag] at named
  cases named
  rw [same] at backed
  obtain ⟨⟨_, row, found, kept⟩, user, net⟩ := backed _ _ (Heard.within chosen signing) dw rfl
  refine ⟨args, tag, drawn, belongs, ?_, ?_, ?_, ?_⟩
  · rw [made]
    rfl
  · rw [made]
    rfl
  · rw [made]
    rfl
  · intro other there
    rw [found] at there
    cases there
    exact ⟨kept.userId.trans user, kept.network.trans net⟩

variable {index : Nat} {env : Env} {thread : ServiceThread} {op : Op} {answer : Res op} {rest : Program Op Res Thrown Reply}
  {after : World}

/-- What else a call is known to have read before it performs an operation. -/
theorem sourced_of_act (kept : Machine.Kept (sources config) system)
    (act : (machine config).Act (tracing config) system index env thread op answer rest after) :
    (sources config thread.tag).before thread.history op := by
  obtain ⟨next, awaits, _⟩ := act.awaits
  have path := kept index thread act.found
  rw [awaits] at path
  exact path.1

/-- The inputs a submit call stores are its own, on a row of its own user. -/
theorem given_of_act {signature session : String} {queued : Option SignRequest} (booked : Booked system.world system.calls)
    (act : (machine config).Act (tracing config) system index env thread (.inl (.sign (.setQueued id signature session)))
      queued rest after)
    (early : system.world.sign.signRequests.get id = some old) (user : row.userId = old.userId) (net : row.network = old.network)
    (first : row.messageCentralizedSignatureHex = some signature) (second : row.sessionIdentifierHex = some session) :
    Submits id row (thread.resume ⟨.inl (.sign (.setQueued id signature session)), queued⟩ rest) := by
  obtain ⟨own, past, tag, same, args, seen, rfl, named, read, rfl, rfl⟩ := traced_sign act.before
  have saw : Saw thread id args.userId args.network := by
    apply Saw.owned id args.userId args.network seen
    rw [same]
    exact read.within signing
  have owned := (booked.registry.seen index thread id _ _ act.found saw).row old early
  exact ⟨args, tag, named.symm, (user.trans owned.1).symm, (net.trans owned.2).symm, first, second⟩

theorem Traced.rows_move (traced : Traced system.world system.calls) (booked : Booked system.world system.calls)
    (kept : Machine.Kept (sources config) system) (move : (machine config).Move (tracing config) system event world calls)
    (there : world.sign.signRequests.get id = some row) : Known world calls id row := by
  have grows := grows_move move
  have moved := move
  cases move with
  | start call entered free opened path =>
    obtain ⟨jobs, rfl⟩ := enter_grows opened
    obtain ⟨left, same⟩ := close_grows config system.threads.length call ((machine config).program call)
      { system.world with sign := { system.world.sign with jobs := jobs } }
    rw [same] at there
    exact (traced.rows id row there).move moved grows
  | cut index thread found running =>
    obtain ⟨left, same⟩ := leave_grows thread.tag none system.world
    change (leave thread.tag none system.world).sign.signRequests.get id = some row at there
    rw [same] at there
    exact (traced.rows id row there).move moved grows
  | step index env thread op answer rest after act =>
    obtain ⟨left, same⟩ := close_grows config index thread.tag rest after
    rw [same] at there
    rcases request_of_exec act.executed there with unchanged | ⟨new, rfl, rfl, rfl⟩ | ⟨old, statement, rfl, early, change⟩
    · exact (traced.rows id row unchanged).move moved grows
    · obtain ⟨args, tag, drew, asked⟩ := asked_of_insert (sourced_of_act kept act) (booked.backed index thread act.found)
      exact ⟨.here index ⟨args, tag, drew.cons _, asked.later grows⟩, .inl ⟨rfl, rfl⟩, fun _ absurd_ => nomatch absurd_⟩
    · have known := traced.rows id old early
      have own : old.id = id := Table.key_of_get early
      refine ⟨prepared_move known.prepared moved grows (fun _ => asked_of_change change), ?_, ?_⟩
      · rcases inputs_of_change change with ⟨signature, session, rfl, first, second⟩ | ⟨first, second⟩
        · subst own
          have same := sameRequest_of_change change
          exact .inr (.here index (given_of_act booked act early same.userId same.network first second))
        · cases known.submitted with
          | inl none => exact .inl ⟨first.trans none.1, second.trans none.2⟩
          | inr given =>
            have same := sameRequest_of_change change
            apply Or.inr
            apply (given.move (lasting_submits _ _) moved).imp
            intro other submits
            obtain ⟨args, tag, given⟩ := submits
            exact ⟨args, tag, given.id, given.userId.trans same.userId.symm, given.network.trans same.network.symm,
              first.trans given.messageCentralizedSignature, second.trans given.sessionIdentifierBytes⟩
      · intro text stored
        rcases signature_of_change change with ⟨signature, rfl, now⟩ | unchanged
        · rw [now] at stored
          cases stored
          obtain ⟨own, past, tag, same, job, read, tx, rfl, signed⟩ := traced_sign act.before
          subst own
          exact .here index ⟨job, read, tx, tag, signed.mono (fun _ _ heard => (hears_of_past same _ _ heard).cons _)⟩
        · rw [unchanged] at stored
          exact (known.signed text stored).move (lasting_processes _ _) moved

/-- A row that is read was in the table, or had been read before. -/
theorem reads_of_move {contract : Call → Contract Op Res Thrown Reply}
    (move : (machine config).Move contract system event world calls) {other : Nat} {later : ServiceThread}
    (there : calls other = some later) (reads : Reads later id row) :
    (∃ earlier, system.calls other = some earlier ∧ Reads earlier id row) ∨
      system.world.sign.signRequests.get id = some row := by
  cases move with
  | start call entered free opened path =>
    rcases Machine.calls_update there with ⟨_, rfl⟩ | ⟨_, before⟩
    · exact absurd reads (not_reads_of_nil rfl)
    · exact .inl ⟨later, before, reads⟩
  | cut index thread found running =>
    rcases Machine.calls_update there with ⟨rfl, rfl⟩ | ⟨_, before⟩
    · exact .inl ⟨thread, found, reads.of_history rfl⟩
    · exact .inl ⟨later, before, reads⟩
  | step index env thread op answer rest after act =>
    rcases Machine.calls_update there with ⟨rfl, rfl⟩ | ⟨_, before⟩
    · cases reads with
      | byId id row heard =>
        cases List.mem_cons.mp heard with
        | inl last =>
          cases last
          have executed : exec config other (.inl (.sign (.select id))) env system.world = some (some row, after) := act.executed
          obtain ⟨_, sign, done, _⟩ := exec_sign executed
          exact .inr (Sign.exec_select done).1
        | inr earlier => exact .inl ⟨thread, act.found, .byId id row earlier⟩
      | byKey userId network key row heard =>
        cases List.mem_cons.mp heard with
        | inl last =>
          cases last
          have executed : exec config other (.inl (.sign (.selectByKey userId network key))) env system.world =
              some (some row, after) := act.executed
          obtain ⟨_, sign, done, _⟩ := exec_sign executed
          simp only [Sign.exec, Sign.SignOp.exec, Option.some.injEq, Prod.mk.injEq] at done
          exact .inr (Table.get_of_mem (List.mem_of_find?_eq_some done.1))
        | inr earlier => exact .inl ⟨thread, act.found, .byKey userId network key row earlier⟩
    · exact .inl ⟨later, before, reads⟩

theorem Traced.read_move (traced : Traced system.world system.calls)
    (move : (machine config).Move (tracing config) system event world calls) {other : Nat} {later : ServiceThread}
    (there : calls other = some later) (reads : Reads later id row) : Known world calls id row := by
  cases reads_of_move move there reads with
  | inl early =>
    obtain ⟨earlier, before, reads⟩ := early
    exact (traced.read other earlier id row before reads).move move (grows_move move)
  | inr stored => exact (traced.rows id row stored).move move (grows_move move)

/-- What is sent was built from the row it is for. -/
theorem Traced.sent_move (traced : Traced system.world system.calls)
    (move : (machine config).Move (tracing config) system event world calls) {other : Nat} {later : ServiceThread}
    (there : calls other = some later) {tx : SignZeroTrust} {result : Except Thrown Sign.ExecutedTx}
    (sends : hears later (.chain (.execute tx)) result) :
    ∃ id job row, later.tag = .inl (.process id job) ∧ Sign.Built (hears later) id row tx := by
  cases move with
  | start call entered free opened path =>
    rcases Machine.calls_update there with ⟨_, rfl⟩ | ⟨_, before⟩
    · exact absurd sends List.not_mem_nil
    · exact traced.sent other later tx result before sends
  | cut index thread found running =>
    rcases Machine.calls_update there with ⟨_, rfl⟩ | ⟨_, before⟩
    · exact traced.sent index thread tx result found sends
    · exact traced.sent other later tx result before sends
  | step index env thread op answer rest after act =>
    rcases Machine.calls_update there with ⟨_, rfl⟩ | ⟨_, before⟩
    · cases List.mem_cons.mp sends with
      | inl last =>
        cases last
        obtain ⟨own, past, tag, same, id, job, row, rfl, built⟩ := traced_sign act.before
        exact ⟨id, job, row, tag, built.mono (fun _ _ heard => (hears_of_past same _ _ heard).cons _)⟩
      | inr earlier =>
        obtain ⟨id, job, row, tag, built⟩ := traced.sent index thread tx result act.found earlier
        exact ⟨id, job, row, tag, built.mono (fun _ _ heard => heard.cons _)⟩
    · exact traced.sent other later tx result before sends

end Step

/-! ### Every run -/

/-- A sign PTB is the one that was asked for by a prepare call and given its inputs by a submit call. -/
structure Honest (tx : SignZeroTrust) (asked : PrepareSignArgs) (given : SubmitPreparedSignArgs) (dw : DWallet) : Prop where
  network : tx.network = asked.network
  dwalletId : tx.dwalletId = dw.suiDwalletId
  signatureAlgorithm : tx.signatureAlgorithm = asked.signatureAlgorithm
  hashScheme : tx.hashScheme = asked.hashScheme
  message : tx.message = asked.message
  messageCentralizedSignature : tx.messageCentralizedSignature = given.messageCentralizedSignature
  sessionIdentifierBytes : tx.sessionIdentifierBytes = given.sessionIdentifierBytes

theorem decoded_toHex {bytes decoded : Bytes} (parsed : Sign.fromHex (Sign.toHex bytes) = .ok decoded) : decoded = bytes := by
  rw [Sign.fromHex_toHex] at parsed
  cases parsed
  rfl

theorem honest_of_for {world : World} {tx : SignZeroTrust} {asked : PrepareSignArgs} {given : SubmitPreparedSignArgs}
    {id : Uuid} {row : SignRequest} {dw : DWallet} (built : tx.For row) (requested : Asked world asked row)
    (inputs : Given given id row) (found : world.sign.dwallets.get asked.dwalletId = some dw) :
    Honest tx asked given dw where
  network := built.network.trans requested.belongs.network
  dwalletId := by
    obtain ⟨other, there, same, _⟩ := requested.belongs.dwallet
    rw [found] at there
    cases there
    exact built.dwalletId.trans same
  signatureAlgorithm := built.signatureAlgorithm.trans requested.belongs.signatureAlgorithm
  hashScheme := built.hashScheme.trans requested.hashScheme
  message := by
    have said := built.message
    rw [requested.messageHex] at said
    exact decoded_toHex said
  messageCentralizedSignature := by
    obtain ⟨text, stored, parsed⟩ := built.centralized
    rw [inputs.messageCentralizedSignature] at stored
    cases stored
    exact decoded_toHex parsed
  sessionIdentifierBytes := by
    obtain ⟨text, stored, parsed⟩ := built.session
    rw [inputs.sessionIdentifierBytes] at stored
    cases stored
    exact decoded_toHex parsed

/-- The calls and the dwallet behind a transaction for a request. -/
structure Ordered (system : ServiceSystem) (id : Uuid) (tx : SignZeroTrust) (asked : PrepareSignArgs)
    (given : SubmitPreparedSignArgs) (dw : DWallet) : Prop where
  drawn : Machine.Someone system.calls (fun thread => thread.tag = .inl (.prepare asked) ∧ Drew thread id)
  gave : Machine.Someone system.calls (fun thread => thread.tag = .inl (.submit given))
  signRequestId : given.signRequestId = id
  userId : given.userId = asked.userId
  network : given.network = asked.network
  dwallet : system.world.sign.dwallets.get asked.dwalletId = some dw
  owner : dw.userId = asked.userId ∧ dw.network = asked.network
  honest : Honest tx asked given dw

/-- The row a worker had in hand was asked for and filled in by calls. -/
theorem Traced.ordered {system : ServiceSystem} (traced : Traced system.world system.calls) {worker : Nat}
    {process : ServiceThread} {id : Uuid} {read : SignRequest} {tx : SignZeroTrust}
    (working : system.calls worker = some process) (built : Sign.Built (hears process) id read tx) :
    ∃ asked given dw, Ordered system id tx asked given dw := by
  have known := traced.read worker process id read working (.byId id read built.read)
  obtain ⟨first, drawer, found, asked, asks, drew, requested⟩ := known.prepared
  obtain ⟨dw, held, _⟩ := requested.belongs.dwallet
  cases known.submitted with
  | inl none =>
    obtain ⟨text, stored, _⟩ := built.carries.centralized
    rw [none.1] at stored
    cases stored
  | inr submits =>
    obtain ⟨index, call, called, given, gives, inputs⟩ := submits
    refine ⟨asked, given, dw, ⟨first, drawer, found, asks, drew⟩, ⟨index, call, called, gives⟩, inputs.id, ?_, ?_, held,
      requested.mine dw held, honest_of_for built.carries requested inputs held⟩
    · exact inputs.userId.trans requested.belongs.userId
    · exact inputs.network.trans requested.belongs.network

theorem booked_of_reaches {config : Config} {initial system : ServiceSystem} (idle : initial.threads = [])
    (empty : initial.world.sign.signRequests.rows = []) (reached : (machine config).Reaches initial system) :
    Machine.Kept (sources config) system ∧ Booked system.world system.calls := by
  refine (booked_follows config).reaches idle (booked_of_idle idle ?_) reached
  intro row member
  rw [empty] at member
  cases member

theorem traced_of_reaches {config : Config} {initial system : ServiceSystem} (idle : initial.threads = [])
    (empty : initial.world.sign.signRequests.rows = []) (reached : (machine config).Reaches initial system) :
    Traced system.world system.calls := by
  have kept : Machine.Kept (tracing config) initial := by
    intro index thread found
    rw [idle] at found
    cases found
  have start : Traced initial.world initial.calls := by
    constructor
    · intro id row there
      have member := Table.mem_of_get there
      rw [empty] at member
      cases member
    · intro index thread id row found
      rw [System.calls, idle] at found
      cases found
    · intro index thread tx result found
      rw [System.calls, idle] at found
      cases found
  refine (reached.tracked (honours_tracing config) Traced kept start ?_).2
  intro system event world calls reached traced _ move
  obtain ⟨sourced, booked⟩ := booked_of_reaches idle empty reached
  exact ⟨fun _ _ there => traced.rows_move booked sourced move there,
    fun _ _ _ _ there reads => traced.read_move move there reads,
    fun _ _ _ _ there sends => traced.sent_move move there sends⟩

/-- Every signature stored on a sign request is the coordinator's answer for the session that an
executed transaction announced. That transaction is what the prepare call that drew the request's
id asked for, with one of that user's own dwallets, and carries the inputs of one submit call of
the same user for this request. -/
theorem signatures_honest (config : Config) {initial system : ServiceSystem} (idle : initial.threads = [])
    (empty : initial.world.sign.signRequests.rows = []) (reached : (machine config).Reaches initial system) :
    ∀ row ∈ system.world.sign.signRequests.rows, ∀ text, row.signatureHex = some text →
      ∃ asked given job read tx dw,
        Machine.Someone system.calls (fun thread => thread.tag = .inl (.prepare asked) ∧ Drew thread row.id) ∧
        Machine.Someone system.calls (fun thread => thread.tag = .inl (.submit given)) ∧
        Machine.Someone system.calls (fun thread => thread.tag = .inl (.process row.id job) ∧
          Sign.Signed (hears thread) row.id read tx text) ∧
        row.userId = asked.userId ∧ row.network = asked.network ∧
        given.signRequestId = row.id ∧ given.userId = asked.userId ∧ given.network = asked.network ∧
        system.world.sign.dwallets.get asked.dwalletId = some dw ∧ dw.userId = asked.userId ∧ dw.network = asked.network ∧
        Honest tx asked given dw := by
  intro row member text stored
  have traced := traced_of_reaches idle empty reached
  have registry := (booked_of_reaches idle empty reached).2.registry
  have known := traced.rows row.id row (Table.get_of_mem member)
  obtain ⟨worker, process, working, job, read, tx, tag, signed⟩ := known.signed text stored
  have built : Sign.Built (hears process) row.id read tx := by
    cases signed with
    | mk executed session signature submitted announced answered same => exact submitted.built
  obtain ⟨asked, given, dw, ordered⟩ := traced.ordered working built
  -- The prepare that asked for the stored row is the one that drew its id.
  obtain ⟨first, drawer, found, own, asks, drew, requested⟩ := known.prepared
  obtain ⟨second, rival, there, asks', drew'⟩ := ordered.drawn
  have one := registry.apart first second drawer rival row.id found there drew drew'
  subst one
  rw [found] at there
  cases there
  rw [asks] at asks'
  cases asks'
  exact ⟨asked, given, job, read, tx, dw, ordered.drawn, ordered.gave, ⟨worker, process, working, tag, signed⟩,
    requested.belongs.userId, requested.belongs.network, ordered.signRequestId, ordered.userId, ordered.network,
    ordered.dwallet, ordered.owner.1, ordered.owner.2, ordered.honest⟩

/-! ### A request that is prepared, submitted and signed -/

def signedOnce : List (Event Env Call) :=
  .start (.inl (Sign.samplePrepare "first" [7])) :: steps 0 16 calm ++
    .start (.inl (Sign.sampleSubmit 10)) :: steps 1 3 calm ++
    .start (.inl (.process 10 0)) :: steps 2 14 calm

def IsSigned (system : ServiceSystem) : Prop :=
  ∃ row ∈ system.world.sign.signRequests.rows, row.signatureHex = some "02" ∧ row.messageHex = "07"

instance (system : ServiceSystem) : Decidable (IsSigned system) := by
  unfold IsSigned
  infer_instance

theorem signatures_honest_sample : ∃ system, (machine sampleConfig).Reaches signStart system ∧ IsSigned system ∧
    ∀ row ∈ system.world.sign.signRequests.rows, ∀ text, row.signatureHex = some text →
      ∃ asked given job read tx dw,
        Machine.Someone system.calls (fun thread => thread.tag = .inl (.prepare asked) ∧ Drew thread row.id) ∧
        Machine.Someone system.calls (fun thread => thread.tag = .inl (.submit given)) ∧
        Machine.Someone system.calls (fun thread => thread.tag = .inl (.process row.id job) ∧
          Sign.Signed (hears thread) row.id read tx text) ∧
        row.userId = asked.userId ∧ row.network = asked.network ∧
        given.signRequestId = row.id ∧ given.userId = asked.userId ∧ given.network = asked.network ∧
        system.world.sign.dwallets.get asked.dwalletId = some dw ∧ dw.userId = asked.userId ∧ dw.network = asked.network ∧
        Honest tx asked given dw := by
  obtain ⟨system, reached, signed⟩ : ∃ system, (machine sampleConfig).Reaches signStart system ∧ IsSigned system :=
    Machine.exists_reaches signedOnce (by decide +kernel)
  exact ⟨system, reached, signed, signatures_honest sampleConfig rfl rfl reached⟩

end MpcKit.Services
