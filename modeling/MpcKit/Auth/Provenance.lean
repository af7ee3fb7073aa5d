import MpcKit.Async.Evidence
import MpcKit.Auth.Siws

/-! What a request has been answered by the time it stores a nonce or mints a session, and what the
tables keep of it. -/

namespace MpcKit.Siws
open MpcKit.Backend MpcKit.Async
open Program (unwrap Shows shows_unwrap)

/-- A nonce request stored this row: the nonce it drew, for the time to live after the time it read. -/
structure Stored (config : Config) (history : History Op Res) (address : String) (row : Verification) : Prop where
  identifier : row.identifier = identifierFor (config.normalizeSuiAddress address)
  drawn : Heard history .randomUUID row.value
  expires : ∃ now, Heard history .now now ∧ row.expiresAt = now + nonceTtlMs
  created : Heard history (.createVerificationValue row.identifier row.value row.expiresAt) (.ok ())

/-- A verify request looked this row up, found it unexpired at the time it read, the nonce in the
message and the signature valid, and deleted it. -/
structure Checked (config : Config) (history : History Op Res) (body : VerifyBody)
    (verification : Verification) : Prop where
  found : Heard history (.findVerificationValue (identifierFor (config.normalizeSuiAddress body.address)))
    (.ok (some verification))
  fresh : ∃ now, Heard history .now now ∧ now ≤ verification.expiresAt
  contains : includes body.message (nonceText verification.value) = true
  verified : Heard history (.verifySignature body.message body.signature (config.normalizeSuiAddress body.address)) true
  signed :
    config.verifyPersonalMessageSignature body.message body.signature (config.normalizeSuiAddress body.address) = true
  deleted :
    Heard history (.deleteVerificationByIdentifier (identifierFor (config.normalizeSuiAddress body.address))) (.ok ())

/-- The user was bound to the address before, or was created and bound to it. -/
inductive Owner (history : History Op Res) (address : String) (userId : Uuid) : Prop where
  | bound (account : Account) (user : User) (found : Heard history (.findAccount "siws" address) (.ok (some account)))
      (read : Heard history (.findUser account.userId) (.ok (some user))) (same : userId = user.id) :
      Owner history address userId
  | created (made : Heard history (.createAccount userId "siws" address) (.ok ())) : Owner history address userId

theorem Stored.later {config : Config} {history later : History Op Res} {address : String} {row : Verification}
    (stored : Stored config history address row) (grown : history <:+ later) : Stored config later address row where
  identifier := stored.identifier
  drawn := stored.drawn.later grown
  expires := by
    obtain ⟨now, read, same⟩ := stored.expires
    exact ⟨now, read.later grown, same⟩
  created := stored.created.later grown

theorem Checked.later {config : Config} {history later : History Op Res} {body : VerifyBody}
    {verification : Verification}
    (checked : Checked config history body verification) (grown : history <:+ later) :
    Checked config later body verification where
  found := checked.found.later grown
  fresh := by
    obtain ⟨now, read, fresh⟩ := checked.fresh
    exact ⟨now, read.later grown, fresh⟩
  contains := checked.contains
  verified := checked.verified.later grown
  signed := checked.signed
  deleted := checked.deleted.later grown

/-- What a request has in hand before it stores a nonce or mints a session. -/
def Ready (config : Config) (call : Call) (history : History Op Res) : Op → Prop
  | .createVerificationValue identifier value expiresAt => ∃ address now, call = .nonce address ∧
      identifier = identifierFor (config.normalizeSuiAddress address) ∧ Heard history .randomUUID value ∧
      Heard history .now now ∧ expiresAt = now + nonceTtlMs
  | .createSession userId => ∃ body verification, call = .verify body ∧ Checked config history body verification ∧
      Owner history (config.normalizeSuiAddress body.address) userId
  | _ => True

/-- Answers the signature library gives whatever the tables hold. -/
def Told (config : Config) : (op : Op) → Res op → Prop
  | .verifySignature message signature address, valid =>
      valid = config.verifyPersonalMessageSignature message signature address
  | _, _ => True

def ready (config : Config) (call : Call) : Contract Op Res SiwsError Reply where
  answers := Told config
  before := Ready config call
  after _ _ := True

section Walks

variable {config : Config} {body : VerifyBody} {history : History Op Res}

theorem shows_getSiwsNonce (address : String) :
    (getSiwsNonce config address).Shows (ready config (.nonce address)) [] (fun _ _ => True) := by
  apply Shows.perform trivial
  intro nonce _
  apply Shows.perform trivial
  intro now _
  have stores : Ready config (.nonce address) [⟨.now, now⟩, ⟨.randomUUID, nonce⟩]
      (.createVerificationValue (identifierFor (config.normalizeSuiAddress address)) nonce (now + nonceTtlMs)) :=
    ⟨address, now, rfl, rfl, Heard.last.cons _, .last, rfl⟩
  apply Shows.perform stores
  intro result _
  apply Shows.unwrap
  · intro _ _
    apply Shows.perform trivial
    exact fun _ _ => .ret trivial
  · exact fun _ _ => trivial

theorem shows_orCreateUser (address : String) {found : Option User}
    (bound : ∀ user, found = some user → Owner history address user.id) :
    (orCreateUser config address found).Shows (ready config (.verify body)) history
      (fun later result => ∀ user, result = .ok user → Owner later address user.id) := by
  cases found with
  | some user =>
    apply Shows.ret
    intro other returned
    cases returned
    exact bound user rfl
  | none =>
    apply Shows.perform trivial
    intro made _
    apply Shows.unwrap
    · intro user _
      apply Shows.perform trivial
      intro linked _
      apply Shows.unwrap
      · intro value done
        subst done
        apply Shows.ret
        intro other returned
        cases returned
        exact .created .last
      · exact fun _ _ _ absurd_ => nomatch absurd_
    · exact fun _ _ _ absurd_ => nomatch absurd_

theorem shows_findOrCreateUser (address : String) :
    (findOrCreateUser config address).Shows (ready config (.verify body)) history
      (fun later result => ∀ user, result = .ok user → Owner later address user.id) := by
  apply Shows.perform trivial
  intro found _
  apply Shows.unwrap
  · intro account same
    subst same
    cases account with
    | none =>
      apply shows_orCreateUser
      intro other there
      cases there
    | some account =>
      apply Shows.perform trivial
      intro read _
      apply Shows.unwrap
      · intro user same
        subst same
        apply shows_orCreateUser
        intro other there
        cases there
        exact .bound account other (Heard.last.cons _) .last rfl
      · exact fun _ _ _ absurd_ => nomatch absurd_
  · exact fun _ _ _ absurd_ => nomatch absurd_

theorem shows_verifySiwsSignature (body : VerifyBody) :
    (verifySiwsSignature config body).Shows (ready config (.verify body)) [] (fun _ _ => True) := by
  apply Shows.perform trivial
  intro result _
  apply Shows.unwrap
  · intro found same
    subst same
    cases found with
    | none => exact .raise trivial
    | some verification =>
      apply Shows.perform trivial
      intro now _
      split
      · exact .raise trivial
      next fresh =>
        split
        · exact .raise trivial
        next contains =>
          apply Shows.perform trivial
          intro valid told
          cases valid with
          | false => exact .raise trivial
          | true =>
            apply Shows.perform trivial
            intro deleted _
            apply Shows.unwrap
            · intro value same
              subst same
              apply (shows_findOrCreateUser (config.normalizeSuiAddress body.address)).bind
              · intro later user grown owner
                have checked : Checked config later body verification := {
                  found := (((Heard.last.cons _).cons _).cons _).later grown
                  fresh := ⟨now, ((Heard.last.cons _).cons _).later grown, Nat.le_of_not_lt fresh⟩
                  contains := by simpa using contains
                  verified := (Heard.last.cons _).later grown
                  signed := told.symm
                  deleted := Heard.last.later grown }
                have mints : Ready config (.verify body) later (.createSession user.id) :=
                  ⟨body, verification, rfl, checked, owner user rfl⟩
                apply Shows.perform mints
                intro session _
                apply Shows.unwrap
                · intro made _
                  cases made with
                  | none => exact .raise trivial
                  | some session => exact .ret trivial
                · exact fun _ _ => trivial
              · exact fun _ _ _ _ => trivial
            · exact fun _ _ => trivial
  · exact fun _ _ => trivial

end Walks

/-! ### What one adapter call changes -/

variable {config : Config} {index : Nat} {op : Op} {env : Env} {world after : World} {answer : Res op}

theorem told_of_exec (executed : exec config index op env world = some (answer, after)) : Told config op answer := by
  unfold exec at executed
  split at executed
  · cases op with
    | verifySignature message signature address =>
      cases executed
      rfl
    | _ => trivial
  · cases op with
    | verifySignature message signature address => cases executed
    | _ => trivial

theorem honours_ready : (machine config).Honours (ready config) where
  programs call := by
    cases call with
    | nonce address => exact (shows_getSiwsNonce address).obeys (fun _ _ _ => trivial)
    | verify body => exact (shows_verifySiwsSignature body).obeys (fun _ _ _ => trivial)
  answers := by
    intro index op env world answer after executed call
    exact told_of_exec executed

/-- What an adapter call leaves alone when it does not go through. -/
theorem same_of_refused {error : SiwsError}
    (refused : (fail error op).map (fun answer => (answer, world)) = some (answer, after)) :
    after = world := by
  obtain ⟨reply, _, same⟩ := Option.map_eq_some_iff.mp refused
  cases same
  rfl

/-- Rows are deleted, and the one that a nonce request stores is added. -/
theorem row_of_exec (executed : exec config index op env world = some (answer, after)) {row : Verification}
    (there : row ∈ after.verifications) : row ∈ world.verifications ∨
      (⟨op, answer⟩ : Entry Op Res) = ⟨.createVerificationValue row.identifier row.value row.expiresAt, .ok ()⟩ := by
  unfold exec at executed
  split at executed
  · cases op with
    | createVerificationValue identifier value expiresAt =>
      cases executed
      cases List.mem_append.mp there with
      | inl old => exact .inl old
      | inr new =>
        cases List.mem_singleton.mp new
        exact .inr rfl
    | deleteVerificationByIdentifier identifier =>
      cases executed
      exact .inl (List.mem_of_mem_filter there)
    | createUser | createAccount | createSession =>
      simp only [act] at executed
      split at executed <;> cases executed <;> exact .inl there
    | _ =>
      cases executed
      exact .inl there
  · cases same_of_refused executed
    exact .inl there

/-- No account is unbound. -/
theorem account_of_exec (executed : exec config index op env world = some (answer, after)) {account : Account}
    (there : account ∈ world.accounts) : account ∈ after.accounts := by
  unfold exec at executed
  split at executed
  · cases op with
    | createAccount =>
      simp only [act] at executed
      split at executed
      · cases executed
        exact there
      · cases executed
        exact List.mem_append_left _ there
    | createUser | createSession =>
      simp only [act] at executed
      split at executed <;> cases executed <;> exact there
    | _ =>
      cases executed
      exact there
  · cases same_of_refused executed
    exact there

/-- A session is there, or minted for the request that asks for it. -/
theorem session_of_exec (executed : exec config index op env world = some (answer, after)) {session : Session}
    (there : session ∈ after.sessions) : session ∈ world.sessions ∨ session.call = index ∧
      (⟨op, answer⟩ : Entry Op Res) = ⟨.createSession session.userId, .ok (some session)⟩ := by
  unfold exec at executed
  split at executed
  · cases op with
    | createSession =>
      simp only [act] at executed
      split at executed
      · cases executed
        exact .inl there
      · cases executed
        cases List.mem_append.mp there with
        | inl old => exact .inl old
        | inr new =>
          cases List.mem_singleton.mp new
          exact .inr ⟨rfl, rfl⟩
    | createUser | createAccount =>
      simp only [act] at executed
      split at executed <;> cases executed <;> exact .inl there
    | _ =>
      cases executed
      exact .inl there
  · cases same_of_refused executed
    exact .inl there

/-- What answers still say of accounts. -/
def AccountFact (world : World) : (op : Op) → Res op → Prop
  | .findAccount providerId accountId, found => ∀ account, found = .ok (some account) →
      account ∈ world.accounts ∧ account.providerId = providerId ∧ account.accountId = accountId
  | .findUser id, found => ∀ user, found = .ok (some user) → user.id = id
  | .createAccount userId providerId accountId, made => made = .ok () → ⟨userId, providerId, accountId⟩ ∈ world.accounts
  | _, _ => True

theorem AccountFact.later {before later : World} (kept : ∀ account ∈ before.accounts, account ∈ later.accounts)
    {op : Op}
    {answer : Res op} (fact : AccountFact before op answer) : AccountFact later op answer := by
  cases op with
  | findAccount providerId accountId =>
    exact fun account same => ⟨kept account (fact account same).1, (fact account same).2⟩
  | findUser id => exact fact
  | createAccount userId providerId accountId => exact fun done => kept _ (fact done)
  | _ => trivial

theorem accountFact_of_exec (executed : exec config index op env world = some (answer, after)) :
    AccountFact after op answer := by
  unfold exec at executed
  split at executed
  · cases op with
    | findAccount providerId accountId =>
      cases executed
      intro account same
      have found := Except.ok.inj same
      have fits := List.find?_some found
      rw [decide_eq_true_eq] at fits
      exact ⟨List.mem_of_find?_eq_some found, fits⟩
    | findUser id =>
      cases executed
      intro user same
      have fits := List.find?_some (Except.ok.inj same)
      rw [decide_eq_true_eq] at fits
      exact fits
    | createAccount userId providerId accountId =>
      simp only [act] at executed
      split at executed
      · cases executed
        intro done
        cases done
      · cases executed
        intro _
        exact List.mem_append_right _ List.mem_cons_self
    | _ => trivial
  · cases op with
    | findAccount | findUser =>
      cases executed
      exact fun _ absurd_ => nomatch absurd_
    | createAccount =>
      cases executed
      exact fun absurd_ => nomatch absurd_
    | _ => trivial

/-! ### Every run -/

/-- The request that stored the row. -/
def Stores (config : Config) (row : Verification) (thread : SiwsThread) : Prop :=
  ∃ address, thread.tag = .nonce address ∧ Stored config thread.history address row

theorem lasting_stores (row : Verification) : Machine.Lasting (Stores config row) := by
  intro thread later continues stores
  obtain ⟨address, tag, stored⟩ := stores
  exact ⟨address, continues.1.trans tag, stored.later continues.2⟩

/-- The request that minted the session, for the user whom the tables bind to its address. -/
structure Mints (config : Config) (world : World) (thread : SiwsThread) (session : Session) (body : VerifyBody)
    (verification : Verification) : Prop where
  tag : thread.tag = .verify body
  checked : Checked config thread.history body verification
  minted : Heard thread.history (.createSession session.userId) (.ok (some session))
  owner : ⟨session.userId, "siws", config.normalizeSuiAddress body.address⟩ ∈ world.accounts

structure Sourced (config : Config) (world : World) (calls : Nat → Option SiwsThread) : Prop where
  rows : ∀ row ∈ world.verifications, Machine.Someone calls (Stores config row)
  read : ∀ index thread identifier row, calls index = some thread →
    Heard thread.history (.findVerificationValue identifier) (.ok (some row)) →
    row.identifier = identifier ∧ Machine.Someone calls (Stores config row)
  backed : Machine.Backed AccountFact world calls
  sessions : ∀ session ∈ world.sessions, ∃ thread body verification, calls session.call = some thread ∧
    Mints config world thread session body verification

theorem latest_mem {rows : List Verification} {row : Verification} (found : latest rows = some row) : row ∈ rows := by
  induction rows generalizing row with
  | nil => cases found
  | cons first rest ih =>
    simp only [latest] at found
    split at found
    · cases found
      exact List.mem_cons_self
    next other later =>
      split at found
      · cases found
        exact List.mem_cons_self
      · cases found
        exact List.mem_cons_of_mem _ (ih later)

/-- A row that is found is in the table, under that identifier. -/
theorem found_of_exec {identifier : String} {row : Verification}
    (executed : exec config index (.findVerificationValue identifier) env world = some (.ok (some row), after)) :
    row.identifier = identifier ∧ row ∈ world.verifications := by
  unfold exec at executed
  split at executed
  · have same := congrArg Prod.fst (Option.some.inj executed)
    obtain ⟨member, fits⟩ := List.mem_filter.mp (latest_mem (Except.ok.inj same))
    rw [decide_eq_true_eq] at fits
    exact ⟨fits.1, member⟩
  · cases executed

theorem owner_of_backed {thread : SiwsThread} {address : String} {userId : Uuid}
    (backed : ∀ op answer, Heard thread.history op answer → AccountFact world op answer)
    (owner : Owner thread.history address userId) : ⟨userId, "siws", address⟩ ∈ world.accounts := by
  cases owner with
  | bound account user found read same =>
    obtain ⟨there, provider, own⟩ := backed _ _ found account rfl
    have bound : account = ⟨userId, "siws", address⟩ := by
      rw [same, backed _ _ read user rfl, ← provider, ← own]
    exact bound ▸ there
  | created made => exact backed _ _ made rfl

theorem close_eq (index : Nat) (call : Call) (rest : Prog Reply) (world : World) :
    (machine config).close index call rest world = world := by
  unfold Machine.close
  split <;> rfl

theorem Mints.later {before : World} {thread later : SiwsThread} {session : Session} {body : VerifyBody}
    {verification : Verification} (mints : Mints config before thread session body verification)
    (continues : thread.Continues later) (kept : ∀ account ∈ before.accounts, account ∈ after.accounts) :
    Mints config after later session body verification where
  tag := continues.1.trans mints.tag
  checked := mints.checked.later continues.2
  minted := mints.minted.later continues.2
  owner := kept _ mints.owner

theorem identifierFor_inj {first second : String} (same : identifierFor first = identifierFor second) :
    first = second := by
  have chars := congrArg String.toList same
  simp only [identifierFor, toString, String.toList_append, List.append_cancel_left_eq] at chars
  exact String.toList_inj.mp chars

section Step

variable {system : SiwsSystem} {event : Event Env Call} {calls : Nat → Option SiwsThread}

theorem kept_move (move : (machine config).Move (ready config) system event after calls) :
    ∀ account ∈ system.world.accounts, account ∈ after.accounts := by
  intro account there
  cases move with
  | start call later free entered path =>
    cases entered
    rw [close_eq]
    exact there
  | cut => exact there
  | step index env thread op answer rest later act =>
    rw [close_eq]
    exact account_of_exec act.executed there

theorem Sourced.rows_move (sourced : Sourced config system.world system.calls)
    (move : (machine config).Move (ready config) system event after calls) {row : Verification}
    (there : row ∈ after.verifications) : Machine.Someone calls (Stores config row) := by
  have moved := move
  cases move with
  | start call later free entered path =>
    cases entered
    rw [close_eq] at there
    exact (sourced.rows row there).move (lasting_stores row) moved
  | cut => exact (sourced.rows row there).move (lasting_stores row) moved
  | step index env thread op answer rest later act =>
    rw [close_eq] at there
    cases row_of_exec act.executed there with
    | inl old => exact (sourced.rows row old).move (lasting_stores row) moved
    | inr new =>
      cases new
      obtain ⟨address, now, tag, own, drawn, read, expires⟩ := act.before
      exact .here index ⟨address, tag, own, drawn.cons _, ⟨now, read.cons _, expires⟩, .last⟩

theorem Sourced.read_move (sourced : Sourced config system.world system.calls)
    (move : (machine config).Move (ready config) system event after calls) {other : Nat} {later : SiwsThread}
    {identifier : String} {row : Verification} (there : calls other = some later)
    (found : Heard later.history (.findVerificationValue identifier) (.ok (some row))) :
    row.identifier = identifier ∧ Machine.Someone calls (Stores config row) := by
  have stored : row.identifier = identifier ∧ Machine.Someone system.calls (Stores config row) := by
    cases move with
    | start call world free entered path =>
      rcases Machine.calls_update there with ⟨_, rfl⟩ | ⟨_, before⟩
      · exact absurd found List.not_mem_nil
      · exact sourced.read other later identifier row before found
    | cut index thread held running =>
      rcases Machine.calls_update there with ⟨_, rfl⟩ | ⟨_, before⟩
      · exact sourced.read index thread identifier row held found
      · exact sourced.read other later identifier row before found
    | step index env thread op answer rest world act =>
      rcases Machine.calls_update there with ⟨_, rfl⟩ | ⟨_, before⟩
      · cases List.mem_cons.mp found with
        | inl last =>
          cases last
          obtain ⟨own, there⟩ := found_of_exec act.executed
          exact ⟨own, sourced.rows row there⟩
        | inr earlier => exact sourced.read index thread identifier row act.found earlier
      · exact sourced.read other later identifier row before found
  exact ⟨stored.1, stored.2.move (lasting_stores row) move⟩

theorem Sourced.backed_move (sourced : Sourced config system.world system.calls)
    (move : (machine config).Move (ready config) system event after calls) :
    Machine.Backed AccountFact after calls := by
  apply sourced.backed.move move
  · exact fun _ _ => AccountFact.later (kept_move move)
  · intro index env thread op answer rest world act same
    rw [same, close_eq]
    exact accountFact_of_exec act.executed

theorem Sourced.sessions_move (sourced : Sourced config system.world system.calls)
    (move : (machine config).Move (ready config) system event after calls) {session : Session}
    (there : session ∈ after.sessions) : ∃ thread body verification, calls session.call = some thread ∧
      Mints config after thread session body verification := by
  have kept := kept_move move
  cases move with
  | start call world free entered path =>
    cases entered
    rw [close_eq] at there
    obtain ⟨thread, body, verification, found, mints⟩ := sourced.sessions session there
    refine ⟨thread, body, verification, ?_, mints.later ⟨rfl, List.suffix_rfl⟩ kept⟩
    rw [Function.update_of_ne]
    · exact found
    · intro beyond
      rw [beyond, free] at found
      cases found
  | cut index thread held running =>
    obtain ⟨owner, body, verification, found, mints⟩ := sourced.sessions session there
    by_cases acting : session.call = index
    · rw [acting, held] at found
      cases found
      rw [acting, Function.update_self]
      exact ⟨_, body, verification, rfl, mints.later ⟨rfl, List.suffix_rfl⟩ kept⟩
    · rw [Function.update_of_ne acting]
      exact ⟨owner, body, verification, found, mints.later ⟨rfl, List.suffix_rfl⟩ kept⟩
  | step index env thread op answer rest world act =>
    rw [close_eq] at there kept ⊢
    cases session_of_exec act.executed there with
    | inl old =>
      obtain ⟨owner, body, verification, found, mints⟩ := sourced.sessions session old
      by_cases acting : session.call = index
      · rw [acting, act.found] at found
        cases found
        rw [acting, Function.update_self]
        exact ⟨_, body, verification, rfl, mints.later ⟨rfl, List.suffix_cons _ _⟩ kept⟩
      · rw [Function.update_of_ne acting]
        exact ⟨owner, body, verification, found, mints.later ⟨rfl, List.suffix_rfl⟩ kept⟩
    | inr new =>
      obtain ⟨acting, new⟩ := new
      cases new
      obtain ⟨body, verification, tag, checked, owner⟩ := act.before
      rw [acting, Function.update_self]
      refine ⟨_, body, verification, rfl, tag, checked.later (List.suffix_cons _ _), .last, ?_⟩
      exact kept _ (owner_of_backed (sourced.backed index thread act.found) owner)

theorem Sourced.move (sourced : Sourced config system.world system.calls)
    (move : (machine config).Move (ready config) system event after calls) : Sourced config after calls where
  rows _ there := sourced.rows_move move there
  read _ _ _ _ there found := sourced.read_move move there found
  backed := sourced.backed_move move
  sessions _ there := sourced.sessions_move move there

end Step

theorem sourced_of_run {initial system : SiwsSystem} (idle : initial.threads = [])
    (blank : initial.world.verifications = []) (unused : initial.world.sessions = [])
    (run : (machine config).Reaches initial system) : Sourced config system.world system.calls := by
  have none : ∀ index thread, initial.calls index ≠ some thread := by
    intro index thread found
    rw [System.calls, idle] at found
    cases found
  have kept : Machine.Kept (ready config) initial := by
    intro index thread found
    rw [idle] at found
    cases found
  have start : Sourced config initial.world initial.calls := by
    constructor
    · intro row there
      rw [blank] at there
      cases there
    · exact fun index thread _ _ found => absurd found (none index thread)
    · exact fun index thread found => absurd found (none index thread)
    · intro session there
      rw [unused] at there
      cases there
  exact (run.tracked honours_ready (Sourced config) kept start (fun _ sourced _ move => sourced.move move)).2

end MpcKit.Siws
