import MpcKit.Sign.Stages

/-! Every function of the two services follows the protocol of stages, on all of its paths. -/

namespace MpcKit.Sign
open MpcKit.Backend MpcKit.Async
open MpcKit.Billing (ChargeArgs RefundArgs BillingCharge)
open Program (fold rescue unwrap Only only_unwrap)

/-! ### Functions that only perform quiet operations -/

def Silent {α : Type} : Prog α → Prop
  | .ret _ => True
  | .raise _ => True
  | .await op next => op.Quiet ∧ ∀ answer, Silent (next answer)

theorem Silent.bind {α β : Type} {program : Prog α} {next : α → Prog β} (first : Silent program)
    (rest : ∀ value, Silent (next value)) : Silent (program.bind next) := by
  induction program with
  | ret value => exact rest value
  | raise error => trivial
  | await op continued ih => exact ⟨first.1, fun answer => ih answer (first.2 answer)⟩

theorem silent_unwrap {α : Type} (result : Except Thrown α) : Silent (unwrap result) := by
  cases result <;> trivial

theorem silent_perform {op : Op} (quiet : op.Quiet) : Silent (perform op) := ⟨quiet, fun _ => trivial⟩

/-- A request whose error is thrown on. -/
theorem silent_request {α β : Type} {op : Op} {result : Res op → Except Thrown α} {next : α → Prog β}
    (quiet : op.Quiet) (rest : ∀ value, Silent (next value)) :
    Silent (perform op >>= fun answer => unwrap (result answer) >>= next) :=
  ⟨quiet, fun answer => (silent_unwrap (result answer)).bind rest⟩

/-- Operations that write no request, dwallet or credit and submit no sign PTB. -/
def Op.Plain : Op → Prop
  | .sign (.setSession _ _) => False
  | .wallet (.setNek _ _) => False
  | .ledger _ => False
  | op => op.Quiet

theorem Op.Plain.quiet {op : Op} (plain : op.Plain) : op.Quiet := by
  cases op with
  | sign op => cases op <;> first | exact plain | exact plain.elim
  | wallet op => cases op <;> first | exact plain | exact plain.elim
  | ledger op => exact plain.elim
  | _ => exact plain

/-- A request whose error is thrown on. -/
theorem only_request {α β : Type} {op : Op} {result : Res op → Except Thrown α} {next : α → Prog β}
    (plain : op.Plain) (rest : ∀ value, (next value).Only Op.Plain) :
    Program.Only Op.Plain (perform op >>= fun answer => unwrap (result answer) >>= next) :=
  ⟨plain, fun answer => (only_unwrap (result answer)).bind rest⟩

theorem only_getIkaClient (network : String) : (getIkaClient network).Only Op.Plain :=
  ⟨trivial, fun answer => only_unwrap answer⟩

theorem only_refill (config : Config) (args : RefillArgs) : (refill config args).Only Op.Plain := by
  unfold refill
  dsimp only
  split
  · trivial
  · refine (only_getIkaClient _).bind (fun _ => only_request (by trivial) (fun nek => ?_))
    refine only_request (by trivial) (fun minted => ?_)
    obtain ⟨digest, capIds⟩ := minted
    dsimp only
    split
    · trivial
    · exact only_request (by trivial) (fun _ => trivial)

theorem only_resolveSessionId (network : String) (cap : ObjectId) : (resolveSessionId network cap).Only Op.Plain := by
  refine only_request (by trivial) (fun found => ?_)
  split <;> trivial

theorem only_promoteOne (promoted : Nat) (row : Presign) : (promoteOne promoted row).Only Op.Plain := by
  refine Only.rescue ?_ (fun _ => trivial)
  refine (only_getIkaClient _).bind (fun _ => (only_resolveSessionId _ _).bind (fun _ => ?_))
  exact only_request (by trivial) (fun _ => ⟨trivial, fun _ => trivial⟩)

theorem only_promotePending : promotePending.Only Op.Plain :=
  ⟨trivial, fun pending => Only.fold pending 0 only_promoteOne⟩

theorem only_listCaps (network : String) (pages : Nat) (cursor : Option String) (capIds : List ObjectId) :
    (listCaps network pages cursor capIds).Only Op.Plain := by
  induction pages generalizing cursor capIds with
  | zero => trivial
  | succ pages ih =>
    refine only_request (by trivial) (fun page => ?_)
    dsimp only
    split
    · trivial
    · split
      · trivial
      · exact ih _ _

theorem only_fetchCapBatch (network : String) (known : List (ObjectId × Option String)) (batch : List ObjectId) :
    (fetchCapBatch network known batch).Only Op.Plain :=
  Only.rescue (only_request (by trivial) (fun _ => trivial)) (fun _ => trivial)

theorem only_fetchSessionBatch (network : String) (known : List (String × Nat × Nat)) (batch : List String) :
    (fetchSessionBatch network known batch).Only Op.Plain :=
  Only.rescue (only_request (by trivial) (fun _ => trivial)) (fun _ => trivial)

theorem only_readNekFromDynamicField (network presignId : String) : (readNekFromDynamicField network presignId).Only Op.Plain := by
  refine only_request (by trivial) (fun value => ?_)
  split
  · trivial
  · split <;> trivial

theorem only_discoverOne (network : String) (caps : List (ObjectId × Option String))
    (sessions : List (String × Nat × Nat)) (state : DiscoverResult) (capId : ObjectId) :
    (discoverOne network caps sessions state capId).Only Op.Plain := by
  unfold discoverOne
  split
  · trivial
  · refine Only.rescue ?_ (fun _ => trivial)
    split
    · trivial
    · split
      · trivial
      · refine (only_readNekFromDynamicField _ _).bind (fun nek => ⟨trivial, fun fresh => ?_⟩)
        cases fresh <;> trivial

theorem only_discover (network : String) (pages : Nat) : (discover network pages).Only Op.Plain := by
  refine (only_listCaps _ _ _ _).bind (fun capIds => ?_)
  have rest : ∀ (scanned : Nat) (tracked : List ObjectId), Program.Only Op.Plain (
      if capIds.filter (fun capId => capId ∉ tracked) = [] then
        return ⟨scanned, scanned - (capIds.filter (fun capId => capId ∉ tracked)).length, 0, 0⟩
      else do
        let caps ← fold (fetchCapBatch network) [] (batches discoverPageSize (capIds.filter (fun capId => capId ∉ tracked)))
        let sessions ← fold (fetchSessionBatch network) [] (batches discoverPageSize ((capPresignId caps).map Prod.snd).eraseDups)
        fold (discoverOne network caps sessions)
          ⟨scanned, scanned - (capIds.filter (fun capId => capId ∉ tracked)).length, 0, 0⟩
          (capIds.filter (fun capId => capId ∉ tracked)) : Prog DiscoverResult) := by
    intro scanned tracked
    split
    · trivial
    · refine (Only.fold _ _ (only_fetchCapBatch network)).bind (fun caps => ?_)
      refine (Only.fold _ _ (only_fetchSessionBatch network)).bind (fun sessions => ?_)
      exact Only.fold _ _ (only_discoverOne network caps sessions)
  dsimp only
  split
  · exact rest _ _
  · exact ⟨trivial, fun tracked => rest _ tracked⟩

theorem only_sweepExpired (olderThanSec : Nat) : (sweepExpired olderThanSec).Only Op.Plain :=
  ⟨trivial, fun _ => ⟨trivial, fun _ => ⟨trivial, fun _ => trivial⟩⟩⟩

theorem only_fetchPresignBytes (network : String) (cap : ObjectId) : (fetchPresignBytes network cap).Only Op.Plain := by
  refine (only_getIkaClient _).bind (fun _ => only_request (by trivial) (fun found => ?_))
  split
  · exact ⟨trivial, fun _ => trivial⟩
  · trivial
  · refine only_request (by trivial) (fun bytes => ?_)
    split <;> trivial

theorem only_accountSuiObjectIdFor (accountId : Option Uuid) : (accountSuiObjectIdFor accountId).Only Op.Plain := by
  cases accountId with
  | none => trivial
  | some id =>
    refine ⟨trivial, fun found => ?_⟩
    cases found <;> trivial

theorem silent_of_plain {α : Type} {program : Prog α} (only : program.Only Op.Plain) : Silent program := by
  induction program with
  | ret value => trivial
  | raise error => trivial
  | await op next ih => exact ⟨only.1.quiet, fun answer => ih answer (only.2 answer)⟩

theorem silent_getIkaClient (network : String) : Silent (getIkaClient network) :=
  silent_of_plain (only_getIkaClient network)

theorem silent_ensureDwalletNek (dwalletId : Uuid) (network : String) : Silent (ensureDwalletNek dwalletId network) := by
  refine ⟨trivial, fun found => ?_⟩
  cases found with
  | none => trivial
  | some dw =>
    simp only [Program.ret_bind]
    split
    · trivial
    · refine (silent_getIkaClient _).bind (fun _ => silent_request (by trivial) (fun nek => ?_))
      split
      · trivial
      · exact ⟨trivial, fun _ => trivial⟩

/-! ### Stages along a function -/

/-- From stage `start` every path of the program keeps to the protocol and ends in `post`. -/
def Walks {α : Type} (config : Config) (call : Call) (start : Stage) (program : Prog α)
    (post : Stage → Except Thrown α → Prop) : Prop :=
  ∀ history, stage history = start →
    program.Obeys ((contract config call).ending (fun history result => post (stage history) result)) history

section Rules

variable {config : Config} {call : Call} {start : Stage} {α β : Type}

theorem Walks.ret {value : α} {post : Stage → Except Thrown α → Prop} (ends : post start (.ok value)) :
    Walks config call start (.ret value) post := by
  rintro history rfl
  exact ends

theorem Walks.raise {error : Thrown} {post : Stage → Except Thrown α → Prop} (ends : post start (.error error)) :
    Walks config call start (.raise error) post := by
  rintro history rfl
  exact ends

theorem Walks.await {op : Op} {next : Res op → Prog α} {post : Stage → Except Thrown α → Prop}
    (allowed : Allowed config call start op)
    (rest : ∀ answer, Answers op answer → Walks config call (start.next op answer) (next answer) post) :
    Walks config call start (.await op next) post := by
  rintro history rfl
  exact ⟨allowed, fun answer known => rest answer known _ rfl⟩

theorem Walks.perform {op : Op} {next : Res op → Prog α} {post : Stage → Except Thrown α → Prop}
    (allowed : Allowed config call start op)
    (rest : ∀ answer, Answers op answer → Walks config call (start.next op answer) (next answer) post) :
    Walks config call start ((perform op).bind next) post :=
  .await allowed rest

theorem Walks.mono {program : Prog α} {strong weak : Stage → Except Thrown α → Prop}
    (walks : Walks config call start program strong) (weaken : ∀ stage result, strong stage result → weak stage result) :
    Walks config call start program weak :=
  fun history at_ => (walks history at_).mono (fun _ _ => weaken _ _)

theorem Walks.bind {program : Prog α} {next : α → Prog β} (middle : Stage → Except Thrown α → Prop)
    {post : Stage → Except Thrown β → Prop} (first : Walks config call start program middle)
    (returned : ∀ stage value, middle stage (.ok value) → Walks config call stage (next value) post)
    (thrown : ∀ stage error, middle stage (.error error) → post stage (.error error)) :
    Walks config call start (program.bind next) post :=
  fun history at_ => (first history at_).bind (fun _ value ended => returned _ value ended _ rfl) (fun _ => thrown _)

theorem Walks.rescue {program : Prog α} {handler : Thrown → Prog α} (middle : Stage → Except Thrown α → Prop)
    {post : Stage → Except Thrown α → Prop} (first : Walks config call start program middle)
    (returned : ∀ stage value, middle stage (.ok value) → post stage (.ok value))
    (thrown : ∀ stage error, middle stage (.error error) → Walks config call stage (handler error) post) :
    Walks config call start (program.rescue handler) post :=
  fun history at_ => (first history at_).rescue _ (fun _ => returned _) (fun _ error ended => thrown _ error ended _ rfl)

/-- A silent function leaves its caller where it was. -/
theorem Walks.silent {program : Prog α} (silent : Silent program) (free : start.Free) :
    Walks config call start program (fun stage _ => stage = start) := by
  induction program with
  | ret value => exact .ret rfl
  | raise error => exact .raise rfl
  | await op next ih =>
    refine .await (.quiet call start op free silent.1) (fun answer _ => ?_)
    rw [next_quiet silent.1 free]
    exact ih answer (silent.2 answer)

/-- A silent function followed by more, which starts where the silent part started. -/
theorem Walks.after {program : Prog α} {next : α → Prog β} {post : Stage → Except Thrown β → Prop}
    (silent : Silent program) (free : start.Free) (rest : ∀ value, Walks config call start (next value) post)
    (thrown : ∀ error, post start (.error error)) : Walks config call start (program.bind next) post := by
  refine (Walks.silent silent free).bind _ ?_ ?_
  · rintro stage value rfl
    exact rest value
  · rintro stage error rfl
    exact thrown error

/-- A value or the error that is thrown on. -/
theorem Walks.unwrap {result : Except Thrown α} {next : α → Prog β} {post : Stage → Except Thrown β → Prop}
    (rest : ∀ value, result = .ok value → Walks config call start (next value) post)
    (thrown : ∀ error, result = .error error → post start (.error error)) :
    Walks config call start ((unwrap result).bind next) post := by
  cases result with
  | ok value => exact rest value rfl
  | error error => exact .raise (thrown error rfl)

end Rules

/-! ### Failing a request -/

/-- Where `markFailed` leaves a call. -/
def AfterFail (config : Config) {α : Type} (stage : Stage) (result : Except Thrown α) : Prop :=
  stage = .finished ∨ (∃ row, stage = .owing row) ∧ config.signPriceMicro = 0 ∧ ∃ error, result = .error error

theorem walks_refund {config : Config} {call : Call} {row : SignRequest} (reason : String) :
    Walks config call (.owing row)
      (refundCredits ⟨row.userId, row.network, "sign", row.id, config.signPriceMicro, reason⟩) (AfterFail config) := by
  unfold refundCredits
  split
  next free =>
    refine .raise (.inr ⟨⟨row, rfl⟩, ?_, _, rfl⟩)
    simp only at free
    omega
  · refine .perform (.openAccount call row) (fun _ _ => .perform (.refund call row reason) (fun result _ => ?_))
    cases result with
    | ok charge => exact .ret (.inl rfl)
    | error error => exact .raise (.inl rfl)

theorem walks_markFailed {config : Config} {call : Call} {start : Stage} {id : Uuid} {presignId : Option Uuid}
    {code message : String} (allowed : Allowed config call start (.sign (.setFailed id code (clip message)))) :
    Walks config call start (markFailed config id presignId code message) (AfterFail config) := by
  -- What follows the refund walks on from the end of it, whichever way the refund ends.
  have settled : ∀ {after : Prog Unit} {row : SignRequest} (reason : String),
      Walks config call .finished after (AfterFail config) →
      Walks config call (.owing row)
        ((refundCredits ⟨row.userId, row.network, "sign", row.id, config.signPriceMicro, reason⟩).bind (fun _ => after))
        (AfterFail config) := by
    intro after row reason next
    refine (walks_refund reason).bind (AfterFail config) ?_ ?_
    · rintro stage value (rfl | ⟨_, _, error, absurd_⟩)
      · exact next
      · cases absurd_
    · rintro stage error (finished | ⟨owing, free, _⟩)
      · exact .inl finished
      · exact .inr ⟨owing, free, error, rfl⟩
  cases presignId with
  | none =>
    refine .perform allowed (fun failed known => ?_)
    cases failed with
    | none => exact .ret (.inl rfl)
    | some row =>
      obtain rfl : row.id = id := known row rfl
      exact settled _ (.ret (.inl rfl))
  | some presignId =>
    have touch : Walks config call .finished (perform (.presign (.touch presignId))) (AfterFail config) :=
      (Walks.silent (silent_perform (by trivial)) (by trivial)).mono (fun _ _ => .inl)
    refine .perform allowed (fun failed known => ?_)
    cases failed with
    | none => exact touch
    | some row =>
      obtain rfl : row.id = id := known row rfl
      exact settled _ touch

/-! ### Prepare -/

/-- How `prepareSignRequest` ends. -/
def Prepared (config : Config) (stage : Stage) : Except Thrown PrepareSignResult → Prop
  | .ok result => Answered stage result
  | .error _ => stage.Rests config

theorem walks_drop {config : Config} {args : PrepareSignArgs} {row : SignRequest} {reason : String}
    {refill : RefillArgs} {error : Thrown} {id : Uuid} (own : row.id = id) (user : row.userId = args.userId)
    (net : row.network = args.network) :
    Walks config (.prepare args) (.dry row) (do
      perform (.sign (.delete row.id))
      let _ ← refundCredits ⟨args.userId, args.network, "sign", id, config.signPriceMicro, reason⟩
      unwrap (← perform (.queue (.presignRefill refill)))
      throw error) (Prepared config) := by
  refine .perform (.drop args row) (fun _ _ => ?_)
  rw [← user, ← net, ← own]
  refine (walks_refund reason).bind (AfterFail config) ?_ ?_
  · rintro stage value (rfl | ⟨_, _, error, absurd_⟩)
    · refine .perform (.quiet _ _ _ trivial trivial) (fun result _ => .unwrap (fun _ _ => ?_) (fun _ _ => trivial))
      exact .raise trivial
    · cases absurd_
  · rintro stage error (rfl | ⟨⟨row, rfl⟩, free, _⟩)
    · trivial
    · exact free

theorem walks_prepareFresh (config : Config) (args : PrepareSignArgs) :
    Walks config (.prepare args) .idle (prepareFresh config args) (Prepared config) := by
  refine .perform (.selectWallet args) (fun found _ => ?_)
  cases found with
  | none => exact .raise trivial
  | some dw =>
    dsimp only
    split
    · exact .raise trivial
    · refine .perform (.draw args dw) (fun id _ => ?_)
      refine Walks.bind (fun stage result => match result with
        | .ok _ => stage = .charged dw id
        | .error _ => stage.Rests config) ?_ ?_ (fun _ _ rests => rests)
      · unfold chargeCredits
        split
        · exact .raise trivial
        next positive =>
          refine .perform (.quiet _ _ _ trivial trivial) (fun _ _ => .perform ?_ (fun result _ => ?_))
          · refine .charge args dw id _ ?_
            simp only at positive
            omega
          · cases result with
            | ok charge => exact .ret rfl
            | error error => exact .raise trivial
      · rintro stage charge rfl
        refine .perform (.insert args dw id) (fun result known => .unwrap (fun row inserted => ?_) (fun error refused => ?_))
        · subst inserted
          obtain ⟨now, rfl⟩ := known row rfl
          refine Walks.after (silent_ensureDwalletNek _ _) (by trivial) (fun nek => ?_) (fun _ => trivial)
          refine Walks.bind (fun stage result => match result with
            | .ok none => stage = .dry ((args.newRequest dw id).row now)
            | .ok (some presign) => stage = .allocated ((args.newRequest dw id).row now) presign
            | .error _ => False) ?_ ?_ (fun _ _ => False.elim)
          · refine .perform (.claim args _ _ rfl) (fun claimed _ => ?_)
            cases claimed with
            | none => exact .ret rfl
            | some presignId =>
              refine .await (.allocate args _ presignId) (fun allocated _ => ?_)
              cases allocated <;> exact .ret rfl
          · intro stage allocated ended
            cases allocated with
            | none =>
              subst ended
              exact walks_drop rfl rfl rfl
            | some presign =>
              subst ended
              refine .perform (.name args _ presign) (fun updated _ => ?_)
              refine Walks.after (silent_of_plain (only_fetchPresignBytes _ _)) (by trivial) (fun bytes => ?_) (fun _ => trivial)
              exact .ret (.fresh updated presign _)
        · subst refused
          trivial

theorem walks_prepareSignRequest (config : Config) (args : PrepareSignArgs) :
    Walks config (.prepare args) .idle (prepareSignRequest config args) (Prepared config) := by
  refine .perform (.selectByKey args) (fun existing _ => ?_)
  simp only [Stage.next, replay]
  cases existing.bind (fun row => row.presignId.map (fun presignId => (row, presignId))) with
  | none => exact walks_prepareFresh config args
  | some named =>
    obtain ⟨row, presignId⟩ := named
    refine .perform (.replay args row presignId) (fun presign _ => ?_)
    cases presign with
    | none => exact walks_prepareFresh config args
    | some presign =>
      refine Walks.after (silent_of_plain (only_fetchPresignBytes _ _)) (by trivial) (fun bytes => ?_) (fun _ => trivial)
      exact .ret (.replayed row presign _)

/-! ### Submit -/

theorem walks_submitPreparedSign (config : Config) (args : SubmitPreparedSignArgs) :
    Walks config (.submit args) .idle (submitPreparedSign args) (fun stage _ => stage.Rests config) := by
  refine .perform (.selectOwned args) (fun found _ => ?_)
  cases found with
  | none => exact .raise trivial
  | some row =>
    dsimp only
    split
    · exact .ret trivial
    · split
      · exact .raise trivial
      next prepared =>
        split
        · exact .raise trivial
        · refine .perform (.queue args row (by simpa using prepared) _ _) (fun updated _ => ?_)
          refine .perform (.enqueue args row.id) (fun result _ => .unwrap (fun _ _ => ?_) (fun _ _ => trivial))
          exact .ret trivial

/-! ### Worker -/

/-- How a worker's run ends: it throws while it holds the presign, or it is through. -/
def Worked (config : Config) (stage : Stage) (result : Except Thrown Unit) : Prop :=
  AfterFail config stage result ∨ (∃ row presign, stage = .holding row presign) ∧ ∃ error, result = .error error

/-- The signature was read and the row is still submitted, or the row was marked failed. -/
def Read (config : Config) {α : Type} (row : SignRequest) (stage : Stage) : Except Thrown α → Prop
  | .ok _ => stage = .working row .submitted
  | .error error => AfterFail config stage (.error error : Except Thrown Unit)

theorem walks_finishSign {config : Config} {id : Uuid} {job : Nat} {row : SignRequest} {presign : Presign}
    (executed : ExecutedTx) :
    Walks config (.process id job) (.landing row presign) (finishSign config row presign.id executed) (Worked config) := by
  have failed : ∀ {presignId code message}, Walks config (.process id job) (.working row .submitted)
      (markFailed config row.id presignId code message) (AfterFail config) :=
    walks_markFailed (.fail id job row .submitted _ _)
  refine .perform (.consume id job row presign) (fun _ _ => ?_)
  refine .perform (.submit id job row _) (fun _ _ => ?_)
  split
  · refine .perform (.quiet _ _ _ trivial trivial) (fun _ _ => ?_)
    exact failed.mono (fun _ _ => .inl)
  next session _ =>
    refine .perform (.quiet _ _ _ trivial trivial) (fun _ _ => ?_)
    refine Walks.bind (Read config row) ?_ ?_ (fun _ _ => .inl)
    · refine Walks.rescue (fun stage _ => stage = .working row .submitted) ?_ (fun _ _ same => same) ?_
      · refine Walks.after (silent_unwrap _) (by trivial) (fun curve => ?_) (fun _ => rfl)
        refine Walks.after (silent_unwrap _) (by trivial) (fun _ => ?_) (fun _ => rfl)
        refine .perform (.quiet _ _ _ trivial trivial) (fun result _ => .unwrap (fun signature _ => ?_) (fun _ _ => rfl))
        cases signature with
        | none => exact .raise rfl
        | some signature => exact .ret rfl
      · rintro stage error rfl
        refine .perform (.quiet _ _ _ trivial trivial) (fun _ _ => ?_)
        refine failed.bind _ ?_ (fun _ _ ended => ended)
        rintro stage value (rfl | ⟨_, _, error, absurd_⟩)
        · exact .raise (.inl rfl)
        · cases absurd_
    · rintro stage signature rfl
      refine .perform (.quiet _ _ _ trivial trivial) (fun _ _ => ?_)
      refine .perform (.complete id job row _) (fun _ _ => ?_)
      refine .perform (.quiet _ _ _ trivial trivial) (fun result _ => ?_)
      cases result with
      | ok value => exact .ret (.inl (.inl rfl))
      | error error => exact .raise (.inl (.inl rfl))

theorem walks_abandonSubmit {config : Config} {id : Uuid} {job : Nat} {row : SignRequest} {presign : Presign}
    (error : Thrown) :
    Walks config (.process id job) (if error.phase = .unknown then .landing row presign else .working row .queued)
      (abandonSubmit config row presign.id error) (Worked config) := by
  have failed : ∀ {presignId code message}, Walks config (.process id job) (.working row .queued)
      (do markFailed config row.id presignId code message; throw error) (Worked config) := by
    intro presignId code message
    refine (walks_markFailed (.fail id job row .queued _ _)).bind _ ?_ (fun _ _ => .inl)
    rintro stage value (rfl | ⟨_, _, error, absurd_⟩)
    · exact .raise (.inl (.inl rfl))
    · cases absurd_
  unfold abandonSubmit
  cases phase : error.phase with
  | unknown =>
    rw [if_pos rfl]
    exact .perform (.spend id job row presign) (fun _ _ => failed)
  | preflight =>
    rw [if_neg (by simp)]
    exact .perform (.quiet _ _ _ trivial trivial) (fun _ _ => failed)
  | reverted =>
    rw [if_neg (by simp)]
    exact .perform (.quiet _ _ _ trivial trivial) (fun _ _ => failed)

theorem walks_signQueued {config : Config} {id : Uuid} {job : Nat} {row : SignRequest} (presignId : Uuid)
    (signatureHex sessionHex : String) :
    Walks config (.process id job) (.working row .queued) (signQueued config row presignId signatureHex sessionHex)
      (Worked config) := by
  refine .perform (.hold id job row presignId) (fun found known => ?_)
  cases found with
  | none => exact (walks_markFailed (.fail id job row .queued _ _)).mono (fun _ _ => .inl)
  | some presign =>
    obtain rfl : presign.id = presignId := known presign rfl
    have stops : ∀ error : Thrown, Worked config (.holding row presign) (.error error) :=
      fun error => .inr ⟨⟨row, presign, rfl⟩, error, rfl⟩
    refine Walks.after (silent_unwrap _) (by trivial) (fun _ => ?_) stops
    refine Walks.after (silent_unwrap _) (by trivial) (fun _ => ?_) stops
    refine Walks.after (silent_getIkaClient _) (by trivial) (fun _ => ?_) stops
    refine .perform (.quiet _ _ _ trivial trivial) (fun dw _ => ?_)
    cases dw with
    | none => exact (walks_markFailed (.failHeld id job row presign _ _)).mono (fun _ _ => .inl)
    | some dw =>
      refine Walks.after (silent_of_plain (only_accountSuiObjectIdFor _)) (by trivial) (fun _ => ?_) stops
      refine Walks.after (silent_unwrap _) (by trivial) (fun _ => ?_) stops
      refine .perform (.quiet _ _ _ trivial trivial) (fun built _ => ?_)
      refine Walks.after (silent_unwrap _) (by trivial) (fun _ => ?_) stops
      refine .perform (.execute id job row presign _ rfl) (fun result _ => ?_)
      cases result with
      | ok executed => exact walks_finishSign executed
      | error error => exact walks_abandonSubmit error

theorem walks_processSignJob (config : Config) (id : Uuid) (job : Nat) :
    Walks config (.process id job) .idle (processSignJob config id) (Worked config) := by
  refine .perform (.select id job) (fun found _ => ?_)
  cases found with
  | none => exact .ret (.inl (.inl rfl))
  | some row =>
    by_cases queued : row.status = .queued
    · have read : Stage.idle.next (.sign (.select id)) (some row) = .working row .queued := if_pos queued
      rw [read]
      dsimp only
      rw [if_neg (by simpa using queued)]
      split
      · exact (walks_markFailed (.fail id job row .queued _ _)).mono (fun _ _ => .inl)
      · split
        · exact walks_signQueued _ _ _
        · exact (walks_markFailed (.fail id job row .queued _ _)).mono (fun _ _ => .inl)
    · have read : Stage.idle.next (.sign (.select id)) (some row) = .finished := if_neg queued
      rw [read]
      dsimp only
      rw [if_pos queued]
      exact .ret (.inl (.inl rfl))

/-! ### Sweep -/

/-- How the loop of the sweep stands between two rows, and how it ends. -/
def Sweeping (config : Config) (stage : Stage) : Except Thrown Unit → Prop
  | .ok _ => stage = .idle ∨ stage = .finished
  | .error error => AfterFail config stage (.error error : Except Thrown Unit)

theorem walks_sweepStuckPrepared (config : Config) (olderThanSec : Nat) :
    Walks config (.sweepStuckPrepared olderThanSec) .idle (sweepStuckPrepared config olderThanSec)
      (fun stage _ => stage.Rests config) := by
  have between : ∀ (stuck : List SignRequest) (stage : Stage), stage = .idle ∨ stage = .finished →
      Walks config (.sweepStuckPrepared olderThanSec) stage (fold (rescueOne config) () stuck)
        (Sweeping config) := by
    intro stuck
    induction stuck with
    | nil => exact fun stage between => .ret between
    | cons row stuck ih =>
      intro stage between
      have failed : Walks config (.sweepStuckPrepared olderThanSec) stage
          (markFailed config row.id none "PREPARE_EXPIRED" "phase 2 not submitted in time") (AfterFail config) :=
        walks_markFailed (.expire olderThanSec stage between _ _ _)
      refine Walks.bind (AfterFail config) ?_ ?_ (fun _ _ ended => ended)
      · unfold rescueOne
        split
        · rcases between with rfl | rfl <;> exact .perform (.quiet _ _ _ trivial trivial) (fun _ _ => failed)
        · exact failed
      · rintro stage value (rfl | ⟨_, _, error, absurd_⟩)
        · exact ih .finished (.inr rfl)
        · cases absurd_
  refine .perform (.quiet _ _ _ trivial trivial) (fun now _ => ?_)
  refine .perform (.quiet _ _ _ trivial trivial) (fun stuck _ => ?_)
  refine (between stuck .idle (.inl rfl)).bind _ ?_ ?_
  · rintro stage value (rfl | rfl) <;> exact .ret trivial
  · rintro stage error (rfl | ⟨⟨row, rfl⟩, free, _⟩)
    · trivial
    · exact free

/-! ### Every call -/

theorem walks_program (config : Config) (call : Call) :
    Walks config call .idle (program config call) (fun stage result => Ended config stage call result) := by
  cases call with
  | prepare args =>
    refine (walks_prepareSignRequest config args).bind _ (fun stage result ended => ?_) (fun _ _ rests => rests)
    exact .ret ⟨result, rfl, ended⟩
  | submit args =>
    exact (walks_submitPreparedSign config args).bind _ (fun stage result rests => .ret rests) (fun _ _ rests => rests)
  | process id job =>
    refine (walks_processSignJob config id job).bind _ ?_ ?_
    · rintro stage value ((rfl | ⟨_, _, error, absurd_⟩) | ⟨_, error, absurd_⟩)
      · exact .ret rfl
      · cases absurd_
      · cases absurd_
    · rintro stage error ((rfl | ⟨⟨row, rfl⟩, free, _⟩) | ⟨⟨row, presign, rfl⟩, _⟩)
      · trivial
      · exact free
      · trivial
  | sweepStuckPrepared olderThanSec =>
    exact (walks_sweepStuckPrepared config olderThanSec).bind _ (fun stage result rests => .ret rests) (fun _ _ rests => rests)
  | sweepExpired olderThanSec =>
    exact Walks.after (silent_of_plain (only_sweepExpired olderThanSec)) (by trivial) (fun _ => .ret trivial) (fun _ => trivial)
  | promotePending => exact Walks.after (silent_of_plain only_promotePending) (by trivial) (fun _ => .ret trivial) (fun _ => trivial)
  | discover network pages =>
    exact Walks.after (silent_of_plain (only_discover network pages)) (by trivial) (fun _ => .ret trivial) (fun _ => trivial)
  | refill args => exact Walks.after (silent_of_plain (only_refill config args)) (by trivial) (fun _ => .ret trivial) (fun _ => trivial)

theorem honours (config : Config) : (machine config).Honours (contract config) where
  programs call := walks_program config call [] rfl
  answers := by
    intro index op env world answer after executed call
    exact answers_exec executed

theorem kept_of_reaches {config : Config} {initial system : SignSystem} (idle : initial.threads = [])
    (reached : (machine config).Reaches initial system) : Machine.Kept (contract config) system := by
  refine reached.invariant (Machine.Kept (contract config)) ?_ ?_
  · intro index thread found
    rw [idle] at found
    cases found
  · intro system event after kept _ effect
    exact kept.effect (honours config) effect

end MpcKit.Sign
