import MpcKit.Auth.Keys

/-! Which keys and networks can be reached from one key of an ordinary user. -/

namespace MpcKit.Auth
open MpcKit.Backend MpcKit.Async

structure Step where
  env : Env
  request : Request

def answer (config : Config) (world : World) (step : Step) : Except Refusal Reply :=
  (serve config step.env world step.request).1

def after (config : Config) (world : World) (step : Step) : World := (serve config step.env world step.request).2

/-- The plaintexts a response shows. -/
def plaintexts : Except Refusal Reply → List String
  | .ok (.issued plaintext _) => [plaintext]
  | .ok (.created _ plaintext _) => [plaintext]
  | _ => []

def minted : Except Refusal Reply → Option ApiKey
  | .ok (.issued _ key) => some key
  | .ok (.created _ _ key) => some key
  | _ => none

/-- Each request of a sequence with the state it meets. -/
def visits (config : Config) : World → List Step → List (World × Step)
  | _, [] => []
  | world, step :: steps => (world, step) :: visits config (after config world step) steps

/-- Every request carries one of the keys known so far. -/
def Holding (config : Config) : List String → World → List Step → Prop
  | _, _, [] => True
  | held, world, step :: steps => (∃ plaintext ∈ held, parseBearer step.request.authorization = some plaintext) ∧
      Holding config (held ++ plaintexts (answer config world step)) (after config world step) steps

/-- Served on one network only, and no key beyond it or beyond the scopes. -/
def Confined (config : Config) (network : IkaNetwork) (scopes : List String) (visit : World × Step) : Prop :=
  (∀ principal chosen, authenticate config visit.2.env visit.1 visit.2.request = .ok principal →
    requestNetwork config principal visit.2.request = .ok chosen → chosen = network) ∧
  ∀ key ∈ minted (answer config visit.1 visit.2), key.network = network ∧ key.scopes ⊆ scopes

/-- A request for a key, if it passes authentication and draws a plaintext that no key has yet,
names the network and scopes within the bounds. -/
def Modest (config : Config) (network : IkaNetwork) (scopes : List String) (visit : World × Step) : Prop :=
  ∀ body principal, visit.2.request.route = .issueKey body →
    authenticate config visit.2.env visit.1 visit.2.request = .ok (some principal) →
    visit.1.apiKeys.get (generateApiKey config (body.network.getD .testnet) visit.2.env.random).hash = none →
    body.network.getD .testnet = network ∧ body.scopes.getD [] ⊆ scopes

/-! ### What stays of a key -/

/-- The same key, perhaps used or revoked since. -/
def ApiKey.Same (key later : ApiKey) : Prop :=
  later.userId = key.userId ∧ later.network = key.network ∧ later.scopes = key.scopes

/-- Keys stay, for the same user, network and scopes. -/
def Kept (world later : World) : Prop :=
  later.users = world.users ∧ ∀ hash key, world.apiKeys.get hash = some key →
    ∃ now, later.apiKeys.get hash = some now ∧ key.Same now

theorem Kept.refl (world : World) : Kept world world := ⟨rfl, fun _ key found => ⟨key, found, rfl, rfl, rfl⟩⟩

theorem Kept.trans {world middle later : World} (first : Kept world middle) (second : Kept middle later) :
    Kept world later := by
  refine ⟨second.1.trans first.1, fun hash key found => ?_⟩
  obtain ⟨between, there, same⟩ := first.2 hash key found
  obtain ⟨now, here, still⟩ := second.2 hash between there
  exact ⟨now, here, still.1.trans same.1, still.2.1.trans same.2.1, still.2.2.trans same.2.2⟩

theorem kept_update (world : World) (change : Table.Change ApiKey.keyHash) (same : ∀ key : ApiKey, key.Same (change key)) :
    Kept world { world with apiKeys := world.apiKeys.update change } := by
  refine ⟨rfl, fun hash key found => ⟨change key, ?_, same key⟩⟩
  show (world.apiKeys.update change).get hash = _
  rw [Table.get_update, found]
  rfl

theorem same_guard {change : Table.Change ApiKey.keyHash} {test : ApiKey → Bool} (same : ∀ key : ApiKey, key.Same (change key))
    (key : ApiKey) : key.Same (change.guard test key) := by
  simp only [Table.Change.guard]
  split
  · exact same key
  · exact ⟨rfl, rfl, rfl⟩

theorem kept_insert {world later : World} {key : ApiKey} (inserted : insertKey world key = .ok later) :
    Kept world later ∧ world.apiKeys.get key.keyHash = none ∧ later.apiKeys.get key.keyHash = some key := by
  unfold insertKey at inserted
  split at inserted
  next apiKeys done =>
    cases inserted
    refine ⟨⟨rfl, fun hash other found => ⟨other, ?_, rfl, rfl, rfl⟩⟩, Table.get_of_insert done, ?_⟩
    · have different : hash ≠ key.keyHash := by
        rintro rfl
        rw [Table.get_of_insert done] at found
        cases found
      show apiKeys.get hash = _
      rw [Table.get_insert done, if_neg different, found]
    · show apiKeys.get key.keyHash = _
      rw [Table.get_insert done, if_pos rfl]
  · cases inserted

/-! ### One request -/

/-- What a request of an ordinary user leaves behind, and what its response shows. -/
structure Handled (config : Config) (env : Env) (principal : Principal) (request : Request) (world : World) (reply : Reply)
    (later : World) : Prop where
  kept : Kept world later
  shown : plaintexts (.ok reply) = [] ∧ minted (.ok reply) = none ∨
    ∃ body key, request.route = .issueKey body ∧ plaintexts (.ok reply) = [plaintextOf config env body.network] ∧
      minted (.ok reply) = some key ∧
      key = newKey config env world principal.user.id body.network body.name body.scopes ∧
      world.apiKeys.get key.keyHash = none ∧ later.apiKeys.get key.keyHash = some key

theorem handled {config : Config} {env : Env} {world later : World} {principal : Principal} {request : Request}
    {reply : Reply} (ordinary : principal.user.isAdmin = false)
    (done : handle config env world (some principal) request = .ok (reply, later)) :
    Handled config env principal request world reply later := by
  have refused : requireAdmin (some principal) = .error (.auth 403 "admin scope required" "FORBIDDEN") := by
    show (if principal.user.isAdmin then _ else _) = _
    rw [if_neg (by simp [ordinary])]
  unfold handle at done
  cases route : request.route with
  | whoami =>
    rw [route] at done
    cases done
    exact ⟨.refl world, .inl ⟨rfl, rfl⟩⟩
  | listKeys =>
    rw [route] at done
    cases done
    exact ⟨.refl world, .inl ⟨rfl, rfl⟩⟩
  | issueKey body =>
    rw [route] at done
    simp only [issueKey, requireAuth, bind, Except.bind] at done
    split at done
    · cases done
    next middle inserted =>
      cases done
      obtain ⟨kept, fresh, there⟩ := kept_insert inserted
      exact ⟨kept, .inr ⟨body, _, route, rfl, rfl, rfl, fresh, there⟩⟩
  | revokeKey id =>
    rw [route] at done
    simp only [revokeKey, requireAuth, bind, Except.bind, pure, Except.pure, Except.ok.injEq, Prod.mk.injEq] at done
    obtain ⟨rfl, rfl⟩ := done
    refine ⟨kept_update world _ (same_guard (fun _ => ⟨rfl, rfl, rfl⟩)), .inl ?_⟩
    split <;> exact ⟨rfl, rfl⟩
  | createUser body =>
    rw [route] at done
    simp only [createUser, refused, bind, Except.bind] at done
    cases done
  | networked =>
    rw [route] at done
    simp only [requireAuth, bind, Except.bind] at done
    split at done
    · cases done
    · cases done
      exact ⟨.refl world, .inl ⟨rfl, rfl⟩⟩
  | admin =>
    rw [route] at done
    simp only [refused, bind, Except.bind] at done
    cases done

/-! ### A sequence of requests -/

/-- The row of a plaintext is for the user and the network and within the scopes. -/
def Bound (config : Config) (userId : Uuid) (network : IkaNetwork) (scopes : List String) (world : World)
    (plaintext : String) : Prop :=
  ∃ key, world.apiKeys.get (config.hashKey plaintext) = some key ∧ key.userId = userId ∧ key.network = network ∧
    key.scopes ⊆ scopes

theorem Bound.kept {config : Config} {userId : Uuid} {network : IkaNetwork} {scopes : List String} {world later : World}
    {plaintext : String} (bound : Bound config userId network scopes world plaintext) (kept : Kept world later) :
    Bound config userId network scopes later plaintext := by
  obtain ⟨key, found, owner, net, within⟩ := bound
  obtain ⟨now, there, same⟩ := kept.2 _ key found
  exact ⟨now, there, same.1.trans owner, same.2.1.trans net, by rw [same.2.2]; exact within⟩

/-- The user is not an admin, as far as the table knows. -/
def Ordinary (world : World) (userId : Uuid) : Prop := ∀ user, world.users.get userId = some user → user.isAdmin = false

/-- Who is behind a request that carries a key of the user. -/
theorem principal_of_bound {config : Config} {env : Env} {world : World} {request : Request} {plaintext : String}
    {userId : Uuid} {network : IkaNetwork} {scopes : List String} {found : Option Principal}
    (carries : parseBearer request.authorization = some plaintext) (ordinary : Ordinary world userId)
    (bound : Bound config userId network scopes world plaintext)
    (authentic : authenticate config env world request = .ok found) :
    ∃ user key, found = some ⟨user, some key⟩ ∧ user.isAdmin = false ∧ user.id = userId ∧ key.network = network ∧
      key.scopes ⊆ scopes := by
  obtain ⟨key, there, owner, net, within⟩ := bound
  unfold authenticate at authentic
  rw [carries] at authentic
  dsimp only at authentic
  split at authentic
  · cases authentic
  · split at authentic
    · cases authentic
    next principal resolved =>
      cases authentic
      unfold resolveApiKey at resolved
      rw [there] at resolved
      dsimp only at resolved
      split at resolved
      · cases resolved
      next user joined =>
        split at resolved
        · cases resolved
        · split at resolved
          · cases resolved
          · cases resolved
            rw [owner] at joined
            exact ⟨user, key, rfl, ordinary user joined, Table.key_of_get joined, net, within⟩

/-- A key's request is served on the network of the key. -/
theorem network_of_key {config : Config} {user : User} {key : ApiKey} {request : Request} {chosen : IkaNetwork}
    (served : requestNetwork config (some ⟨user, some key⟩) request = .ok chosen) : chosen = key.network := by
  unfold requestNetwork at served
  dsimp only [Option.bind_some] at served
  split at served
  · cases served
  · unfold ifEnabled at served
    split at served
    · cases served
      rfl
    · cases served

/-- The state a handler works on. -/
def touched (env : Env) (world : World) (key : ApiKey) : World :=
  { world with apiKeys := world.apiKeys.modify key.keyHash (ApiKey.toUsed env.now) }

theorem kept_touched (env : Env) (world : World) (key : ApiKey) : Kept world (touched env world key) :=
  kept_update world _ (same_guard (fun _ => ⟨rfl, rfl, rfl⟩))

theorem serve_refused {config : Config} {env : Env} {world : World} {request : Request} {user : User} {key : ApiKey}
    {refusal : Refusal} (authentic : authenticate config env world request = .ok (some ⟨user, some key⟩))
    (refused : handle config env (touched env world key) (some ⟨user, some key⟩) request = .error refusal) :
    serve config env world request = (.error refusal, touched env world key) := by
  rw [touched] at refused
  simp only [serve, authentic, Option.bind_some, refused]
  rfl

theorem serve_done {config : Config} {env : Env} {world later : World} {request : Request} {user : User} {key : ApiKey}
    {reply : Reply} (authentic : authenticate config env world request = .ok (some ⟨user, some key⟩))
    (done : handle config env (touched env world key) (some ⟨user, some key⟩) request = .ok (reply, later)) :
    serve config env world request = (.ok reply, later) := by
  rw [touched] at done
  simp only [serve, authentic, Option.bind_some, done]

theorem serve_unauthenticated {config : Config} {env : Env} {world : World} {request : Request} {refusal : Refusal}
    (refused : authenticate config env world request = .error refusal) :
    serve config env world request = (.error refusal, world) := by
  simp only [serve, refused]

theorem not_taken {world later : World} {hash : String} (kept : Kept world later)
    (fresh : later.apiKeys.get hash = none) : world.apiKeys.get hash = none := by
  cases found : world.apiKeys.get hash with
  | none => rfl
  | some key =>
    obtain ⟨now, there, _⟩ := kept.2 hash key found
    rw [fresh] at there
    cases there

/-- What one request of a key holder shows and leaves. -/
structure Advanced (config : Config) (userId : Uuid) (network : IkaNetwork) (scopes : List String) (world : World)
    (step : Step) : Prop where
  kept : Kept world (after config world step)
  served : ∀ principal chosen, authenticate config step.env world step.request = .ok principal →
    requestNetwork config principal step.request = .ok chosen → chosen = network
  minted : Modest config network scopes (world, step) →
    (∀ key ∈ minted (answer config world step), key.network = network ∧ key.scopes ⊆ scopes) ∧
    ∀ plaintext ∈ plaintexts (answer config world step),
      Bound config userId network scopes (after config world step) plaintext

theorem advanced {config : Config} {userId : Uuid} {network : IkaNetwork} {scopes : List String} {world : World}
    {step : Step} {plaintext : String} (carries : parseBearer step.request.authorization = some plaintext)
    (ordinary : Ordinary world userId) (bound : Bound config userId network scopes world plaintext) :
    Advanced config userId network scopes world step := by
  have nothing : ∀ refusal later, serve config step.env world step.request = (.error refusal, later) →
      (∀ key ∈ minted (answer config world step), key.network = network ∧ key.scopes ⊆ scopes) ∧
      ∀ plaintext ∈ plaintexts (answer config world step),
        Bound config userId network scopes (after config world step) plaintext := by
    intro refusal later served
    simp [answer, served, Auth.minted, plaintexts]
  cases authentic : authenticate config step.env world step.request with
  | error refusal =>
    have served := serve_unauthenticated authentic
    refine ⟨?_, ?_, fun _ => nothing refusal world served⟩
    · rw [after, served]
      exact .refl world
    · intro principal chosen same
      rw [authentic] at same
      cases same
  | ok found =>
    obtain ⟨user, key, rfl, common, own, rfl, within⟩ := principal_of_bound carries ordinary bound authentic
    have touching := kept_touched step.env world key
    cases done : handle config step.env (touched step.env world key) (some ⟨user, some key⟩) step.request with
    | error refusal =>
      have served := serve_refused authentic done
      refine ⟨?_, ?_, fun _ => nothing refusal _ served⟩
      · rw [after, served]
        exact touching
      · intro principal chosen same
        rw [authentic] at same
        cases same
        exact network_of_key
    | ok result =>
      obtain ⟨reply, later⟩ := result
      have served := serve_done authentic done
      have shown := handled common done
      refine ⟨?_, ?_, fun modest => ?_⟩
      · rw [after, served]
        exact touching.trans shown.kept
      · intro principal chosen same
        rw [authentic] at same
        cases same
        exact network_of_key
      · rw [answer, after, served]
        rcases shown.shown with ⟨quiet, none⟩ | ⟨body, issued, route, reveals, mints, row, fresh, there⟩
        · simp [quiet, none]
        · subst row
          have asked := modest body _ route authentic (not_taken touching fresh)
          rw [reveals, mints]
          refine ⟨?_, ?_⟩
          · rintro other ⟨⟩
            exact asked
          · intro other shows
            rw [List.mem_singleton.mp shows]
            exact ⟨_, there, own, asked⟩

/-- A request for a key whose plaintext no key has yet is granted. -/
theorem issued_of_fresh {config : Config} {env : Env} {world : World} {principal : Principal} {request : Request}
    {body : IssueBody} (route : request.route = .issueKey body)
    (fresh : world.apiKeys.get (generateApiKey config (body.network.getD .testnet) env.random).hash = none) :
    ∃ later, handle config env world (some principal) request = .ok (.issued (plaintextOf config env body.network)
      (newKey config env world principal.user.id body.network body.name body.scopes), later) := by
  simp only [handle, route, issueKey, requireAuth, insertKey, bind, Except.bind]
  cases inserted : world.apiKeys.insert
      (newKey config env world principal.user.id body.network body.name body.scopes) with
  | none =>
    obtain ⟨other, taken⟩ := Table.get_of_insert_eq_none inserted
    have absent : world.apiKeys.get (newKey config env world principal.user.id body.network body.name body.scopes).keyHash =
        none := fresh
    rw [absent] at taken
    cases taken
  | some apiKeys => exact ⟨_, rfl⟩

/-- Conversely, a key that was shown within the bounds was asked for within them. -/
theorem modest_of_confined {config : Config} {userId : Uuid} {network : IkaNetwork} {scopes : List String} {world : World}
    {step : Step} {plaintext : String} (carries : parseBearer step.request.authorization = some plaintext)
    (ordinary : Ordinary world userId) (bound : Bound config userId network scopes world plaintext)
    (confined : Confined config network scopes (world, step)) : Modest config network scopes (world, step) := by
  intro body principal route authentic fresh
  obtain ⟨user, key, same, _⟩ := principal_of_bound carries ordinary bound authentic
  cases same
  have free : (touched step.env world key).apiKeys.get
      (generateApiKey config (body.network.getD .testnet) step.env.random).hash = none := by
    dsimp only at fresh
    show (world.apiKeys.modify _ _).get _ = none
    rw [Table.get_modify]
    split
    next taken =>
      rw [← taken, fresh]
      rfl
    · exact fresh
  obtain ⟨later, done⟩ := issued_of_fresh route free
  have served := serve_done authentic done
  have granted := confined.2
  rw [answer, served] at granted
  exact granted _ rfl

theorem Advanced.ordinary {config : Config} {userId : Uuid} {network : IkaNetwork} {scopes : List String} {world : World}
    {step : Step} (advance : Advanced config userId network scopes world step) (ordinary : Ordinary world userId) :
    Ordinary (after config world step) userId := by
  intro user found
  rw [advance.kept.1] at found
  exact ordinary user found

theorem Advanced.bound {config : Config} {userId : Uuid} {network : IkaNetwork} {scopes : List String} {world : World}
    {step : Step} (advance : Advanced config userId network scopes world step) {held : List String}
    (bound : ∀ plaintext ∈ held, Bound config userId network scopes world plaintext)
    (modest : Modest config network scopes (world, step)) :
    ∀ plaintext ∈ held ++ plaintexts (answer config world step),
      Bound config userId network scopes (after config world step) plaintext := by
  intro plaintext shown
  rcases List.mem_append.mp shown with old | new
  · exact (bound plaintext old).kept advance.kept
  · exact (advance.minted modest).2 plaintext new

/-- The keys stay the user's along a sequence of requests whose key requests are modest. -/
theorem confined_of_modest {config : Config} {userId : Uuid} {network : IkaNetwork} {scopes : List String}
    {steps : List Step} {held : List String} {world : World} (ordinary : Ordinary world userId)
    (bound : ∀ plaintext ∈ held, Bound config userId network scopes world plaintext)
    (holding : Holding config held world steps)
    (modest : ∀ visit ∈ visits config world steps, Modest config network scopes visit) :
    ∀ visit ∈ visits config world steps, Confined config network scopes visit := by
  induction steps generalizing held world with
  | nil => simp [visits]
  | cons step steps ih =>
    obtain ⟨⟨plaintext, known, carries⟩, later⟩ := holding
    have advance := advanced carries ordinary (bound plaintext known)
    have asked := modest (world, step) List.mem_cons_self
    have rest := ih (advance.ordinary ordinary) (advance.bound bound asked) later
      (fun visit there => modest visit (List.mem_cons_of_mem _ there))
    intro visit there
    rcases List.mem_cons.mp there with rfl | there
    · exact ⟨advance.served, (advance.minted asked).1⟩
    · exact rest visit there

theorem modest_of_all_confined {config : Config} {userId : Uuid} {network : IkaNetwork} {scopes : List String}
    {steps : List Step} {held : List String} {world : World} (ordinary : Ordinary world userId)
    (bound : ∀ plaintext ∈ held, Bound config userId network scopes world plaintext)
    (holding : Holding config held world steps)
    (confined : ∀ visit ∈ visits config world steps, Confined config network scopes visit) :
    ∀ visit ∈ visits config world steps, Modest config network scopes visit := by
  induction steps generalizing held world with
  | nil => simp [visits]
  | cons step steps ih =>
    obtain ⟨⟨plaintext, known, carries⟩, later⟩ := holding
    have advance := advanced carries ordinary (bound plaintext known)
    have asked := modest_of_confined carries ordinary (bound plaintext known) (confined _ List.mem_cons_self)
    have rest := ih (advance.ordinary ordinary) (advance.bound bound asked) later
      (fun visit there => confined visit (List.mem_cons_of_mem _ there))
    intro visit there
    rcases List.mem_cons.mp there with rfl | there
    · exact asked
    · exact rest visit there

/-- What can be reached from one key of an ordinary user is confined to its network and scopes
exactly when every request for a further key stays within them. -/
theorem confined_iff_modest {config : Config} {world : World} {plaintext : String} {key : ApiKey}
    (found : world.apiKeys.get (config.hashKey plaintext) = some key) (ordinary : Ordinary world key.userId)
    (steps : List Step) (holding : Holding config [plaintext] world steps) :
    (∀ visit ∈ visits config world steps, Confined config key.network key.scopes visit) ↔
      ∀ visit ∈ visits config world steps, Modest config key.network key.scopes visit := by
  have bound : ∀ known ∈ [plaintext], Bound config key.userId key.network key.scopes world known := by
    intro known there
    rw [List.mem_singleton.mp there]
    exact ⟨key, found, rfl, rfl, List.Subset.refl _⟩
  exact ⟨modest_of_all_confined ordinary bound holding, confined_of_modest ordinary bound holding⟩

def testKey : String := "mpckit_test_AAAAAAAAAAAAAAAAAAAAAAAAAAAAAAAA"

def spareKey : String := "mpckit_test_BBBBBBBBBBBBBBBBBBBBBBBBBBBBBBBB"

def liveKey : String := "mpckit_live_BBBBBBBBBBBBBBBBBBBBBBBBBBBBBBBB"

def sampleHash (plaintext : String) : String :=
  if plaintext = testKey then
    "e796a8d382b141aefe6f9d94c8060cbeab757b9b30ca4ed4c6b4ffe1aaaab095"
  else if plaintext = spareKey then
    "90084c44a0e004297d9bb7a3872c1ce988a1741ba1bf7dbe42270058b275f6fd"
  else if plaintext = liveKey then
    "b23314afcb966d24a19cfe3ba8501c943da74aaef81180419e32d5a1718e0aca"
  else plaintext

def sampleConfig : Config := ⟨sampleHash, [.testnet, .mainnet], none, true⟩

/-- A testnet key of an ordinary user. -/
def sampleKey : ApiKey :=
  ⟨2, 1, .testnet, sampleHash testKey, "ci", ["sign:request"], none, none, none, 0⟩

def sampleWorld : World where
  users := ⟨[⟨1, "user@example.com", none, false, 0⟩], by decide⟩
  apiKeys := ⟨[sampleKey], by simp⟩
  nextId := 3

def withKey (plaintext : String) (route : Route) : Step :=
  ⟨⟨5, "BBBBBBBBBBBBBBBBBBBBBBBBBBBBBBBB"⟩, ⟨some ("Bearer " ++ plaintext), none, route⟩⟩

def issueSteps (network : IkaNetwork) (scopes : List String) : List Step :=
  [withKey testKey (.issueKey ⟨"more", some network, some scopes⟩)]

/-- The key that was issued is served, and revokes the one it came from. -/
def spareSteps : List Step :=
  issueSteps .testnet ["sign:request"] ++ [withKey spareKey .networked, withKey spareKey (.revokeKey 2)]

theorem confined_sample : Holding sampleConfig [testKey] sampleWorld spareSteps ∧
    ∀ visit ∈ visits sampleConfig sampleWorld spareSteps, Confined sampleConfig .testnet ["sign:request"] visit := by
  have found : sampleWorld.apiKeys.get (sampleConfig.hashKey testKey) = some sampleKey := by
    decide +kernel
  have holding : Holding sampleConfig [testKey] sampleWorld spareSteps :=
    ⟨⟨testKey, List.mem_cons_self, by decide +kernel⟩, ⟨spareKey, by decide +kernel, by decide +kernel⟩,
      ⟨spareKey, by decide +kernel, by decide +kernel⟩, trivial⟩
  refine ⟨holding, (confined_iff_modest found ?_ _ holding).mpr ?_⟩
  · intro user there
    have user_eq : sampleWorld.users.get 1 = some ⟨1, "user@example.com", none, false, 0⟩ := by decide +kernel
    rw [show sampleKey.userId = 1 from rfl, user_eq] at there
    cases there
    rfl
  · intro visit there body principal route _ _
    rcases List.mem_cons.mp there with rfl | later
    · cases route
      exact ⟨rfl, List.Subset.refl _⟩
    · rcases List.mem_cons.mp later with rfl | last
      · cases route
      · rw [List.mem_singleton.mp last] at route
        cases route

/-- The testnet key asks for a mainnet key with any scope, and is then served on mainnet. -/
theorem not_confined_by_issued_key : ∃ steps, Holding sampleConfig [testKey] sampleWorld steps ∧
    ¬∀ visit ∈ visits sampleConfig sampleWorld steps, Confined sampleConfig .testnet ["sign:request"] visit := by
  refine ⟨issueSteps .mainnet ["admin:*"] ++ [withKey liveKey .networked], ?_, ?_⟩
  · exact ⟨⟨testKey, List.mem_cons_self, by decide +kernel⟩, ⟨liveKey, by decide +kernel, by decide +kernel⟩, trivial⟩
  · intro confined
    have first := confined _ List.mem_cons_self
    have mainnet : (minted (answer sampleConfig sampleWorld
        (withKey testKey (.issueKey ⟨"more", some .mainnet, some ["admin:*"]⟩)))).map ApiKey.network = some .mainnet := by
      decide +kernel
    obtain ⟨key, there, network⟩ := Option.map_eq_some_iff.mp mainnet
    rw [(first.2 key there).1] at network
    cases network

end MpcKit.Auth
