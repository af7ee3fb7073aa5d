import MpcKit.Async.Table
import MpcKit.Backend.Basics

/-! `features/auth/keys.ts`, `features/auth/routes.ts` and `http/middleware/auth.ts`: what a
request that carries an API key may do, and which keys it can obtain. -/

namespace MpcKit.Auth
open MpcKit.Backend MpcKit.Async

inductive IkaNetwork where
  | testnet
  | mainnet
  deriving DecidableEq, Repr

def IkaNetwork.text : IkaNetwork → String
  | .testnet => "testnet"
  | .mainnet => "mainnet"

/-! ### Keys -/

def tagFor : IkaNetwork → String
  | .mainnet => "live"
  | .testnet => "test"

structure IssuedKey where
  plaintext : String
  hash : String

/-- `\s` of a regular expression. -/
def jsSpaces : List Nat :=
  [9, 10, 11, 12, 13, 32, 160, 5760, 8192, 8193, 8194, 8195, 8196, 8197, 8198, 8199, 8200, 8201, 8202, 8232, 8233, 8239,
    8287, 12288, 65279]

def isJsSpace (char : Char) : Bool := char.toNat ∈ jsSpaces

/-- `/^Bearer\s+(\S+)$/i`, for tokens of 16 to 200 characters. -/
def parseBearer (header : Option String) : Option String := do
  let chars := (← header).toList
  if (chars.take 6).map Char.toLower = "bearer".toList then
    let rest := chars.drop 6
    let token := rest.dropWhile isJsSpace
    if token.length < rest.length ∧ token.all (fun char => !isJsSpace char) ∧ 16 ≤ token.length ∧ token.length ≤ 200 then
      some (String.ofList token)
    else none
  else none

/-! ### Rows -/

/-- `users`, the columns these routes read. -/
structure User where
  id : Uuid
  email : String
  name : Option String
  isAdmin : Bool
  createdAt : Time
  deriving DecidableEq, Repr

/-- `api_keys`. -/
structure ApiKey where
  id : Uuid
  userId : Uuid
  network : IkaNetwork
  keyHash : String
  name : String
  scopes : List String
  lastUsedAt : Option Time
  expiresAt : Option Time
  revokedAt : Option Time
  createdAt : Time
  deriving DecidableEq, Repr

/-- The tables; no two keys have one hash. -/
structure World where
  users : Table User.id
  apiKeys : Table ApiKey.keyHash
  nextId : Uuid

structure Config where
  /-- SHA-256 of a plaintext, in hex. -/
  hashKey : String → String
  /-- The networks the operator has set up, and `IKA_DEFAULT_NETWORK`. -/
  enabled : List IkaNetwork
  preferred : Option IkaNetwork
  isDbConfigured : Bool

/-- `mpckit_<env>_<random>`; `random` is what `randomBytes` gives. -/
def generateApiKey (config : Config) (network : IkaNetwork) (random : String) : IssuedKey :=
  let tag := tagFor network
  let plaintext := s!"mpckit_{tag}_{random}"
  ⟨plaintext, config.hashKey plaintext⟩

/-! ### Requests -/

structure IssueBody where
  name : String
  network : Option IkaNetwork
  scopes : Option (List String)

structure CreateUserBody where
  email : String
  name : Option String
  isAdmin : Option Bool
  network : Option IkaNetwork
  keyName : Option String
  scopes : Option (List String)

inductive Route where
  | whoami
  | listKeys
  | issueKey (body : IssueBody)
  | revokeKey (id : Uuid)
  | createUser (body : CreateUserBody)
  /-- Any route that acts for the user on the network of the request. -/
  | networked
  /-- Any other admin route. -/
  | admin

structure Request where
  authorization : Option String
  xNetwork : Option String
  route : Route

/-- `AuthError`, and any other error a handler throws. -/
inductive Refusal where
  | auth (status : Nat) (message code : String)
  | error (message : String)
  deriving DecidableEq, Repr

structure Principal where
  user : User
  apiKey : Option ApiKey
  deriving DecidableEq, Repr

structure PublicKey where
  id : Uuid
  name : String
  network : IkaNetwork
  scopes : List String
  lastUsedAt : Option Time
  expiresAt : Option Time
  revokedAt : Option Time
  createdAt : Time
  deriving DecidableEq, Repr

def publicKey (key : ApiKey) : PublicKey :=
  ⟨key.id, key.name, key.network, key.scopes, key.lastUsedAt, key.expiresAt, key.revokedAt, key.createdAt⟩

inductive Reply where
  | user (user : User) (key : Option PublicKey)
  | keys (keys : List PublicKey)
  /-- The only replies that show a plaintext, with the row behind it. -/
  | issued (plaintext : String) (key : ApiKey)
  | created (user : User) (plaintext : String) (key : ApiKey)
  | revoked
  | notFound
  | served (network : IkaNetwork)
  | done
  deriving DecidableEq, Repr

/-! ### The middleware -/

/-- What the outside decides at one request. -/
structure Env where
  now : Time
  random : String

def resolveApiKey (config : Config) (env : Env) (world : World) (plaintext : String) : Except String Principal :=
  match world.apiKeys.get (config.hashKey plaintext) with
  | none => .error "unknown_key"
  | some key => match world.users.get key.userId with
      | none => .error "unknown_key"
      | some user =>
          if key.revokedAt ≠ none then .error "revoked"
          else if ∃ expiresAt ∈ key.expiresAt, expiresAt ≤ env.now then .error "expired"
          else .ok ⟨user, some key⟩

/-- `authMiddleware`, for requests without a session cookie. -/
def authenticate (config : Config) (env : Env) (world : World) (request : Request) : Except Refusal (Option Principal) :=
  match parseBearer request.authorization with
  | none => .ok none
  | some plaintext =>
      if ¬config.isDbConfigured then .error (.auth 401 "auth not available" "AUTH_UNAVAILABLE")
      else match resolveApiKey config env world plaintext with
        | .error _ => .error (.auth 401 "invalid api key" "INVALID_KEY")
        | .ok principal => .ok (some principal)

def requireAuth : Option Principal → Except Refusal Principal
  | none => .error (.auth 401 "authentication required" "UNAUTHENTICATED")
  | some principal => .ok principal

def requireAdmin (principal : Option Principal) : Except Refusal Principal := do
  let principal ← requireAuth principal
  if principal.user.isAdmin then return principal
  else .error (.auth 403 "admin scope required" "FORBIDDEN")

def defaultNetwork (config : Config) : Except Refusal IkaNetwork :=
  match config.preferred.filter (fun network => network ∈ config.enabled), config.enabled with
  | some network, _ => .ok network
  | none, network :: _ => .ok network
  | none, [] => .error (.error "no networks enabled")

def parseNetwork (header : String) : Option IkaNetwork :=
  if header = "testnet" then some .testnet else if header = "mainnet" then some .mainnet else none

def ifEnabled (config : Config) (network : IkaNetwork) : Except Refusal IkaNetwork :=
  if network ∈ config.enabled then .ok network
  else
    let name := network.text
    .error (.auth 403 s!"network {name} is not enabled on this backend" "NETWORK_DISABLED")

def requestNetwork (config : Config) (principal : Option Principal) (request : Request) : Except Refusal IkaNetwork :=
  let header := request.xNetwork.filter (fun header => header ≠ "")
  match principal.bind Principal.apiKey with
  | some key => match header.filter (fun header => header ≠ key.network.text) with
      | some header =>
          let bound := key.network.text
          .error (.auth 401 s!"api key is scoped to {bound}; x-network header set {header}" "NETWORK_MISMATCH")
      | none => ifEnabled config key.network
  | none => match header with
      | none => defaultNetwork config
      | some header => match parseNetwork header with
          | none => .error (.auth 401 s!"unknown network: {header}" "INVALID_NETWORK")
          | some network => ifEnabled config network

/-! ### The routes -/

/-- `INSERT INTO api_keys … RETURNING`. -/
def insertKey (world : World) (key : ApiKey) : Except Refusal World :=
  match world.apiKeys.insert key with
  | some apiKeys => .ok { world with apiKeys := apiKeys, nextId := world.nextId + 1 }
  | none => .error (.error "duplicate key value violates unique constraint")

/-- The row of a key for `user`. -/
def newKey (config : Config) (env : Env) (world : World) (userId : Uuid) (network : Option IkaNetwork) (name : String)
    (scopes : Option (List String)) : ApiKey where
  id := world.nextId
  userId := userId
  network := network.getD .testnet
  keyHash := (generateApiKey config (network.getD .testnet) env.random).hash
  name := name
  scopes := scopes.getD []
  lastUsedAt := none
  expiresAt := none
  revokedAt := none
  createdAt := env.now

def plaintextOf (config : Config) (env : Env) (network : Option IkaNetwork) : String :=
  (generateApiKey config (network.getD .testnet) env.random).plaintext

def ApiKey.toUsed (now : Time) : Table.Change ApiKey.keyHash where
  set key := { key with lastUsedAt := some now }
  keeps _ := rfl

def ApiKey.toRevoked (now : Time) : Table.Change ApiKey.keyHash where
  set key := { key with revokedAt := some now }
  keeps _ := rfl

def ApiKey.Revocable (id userId : Uuid) (key : ApiKey) : Prop :=
  key.id = id ∧ key.userId = userId ∧ key.revokedAt = none

instance (id userId : Uuid) (key : ApiKey) : Decidable (key.Revocable id userId) := inferInstanceAs (Decidable (_ ∧ _))

def issueKey (config : Config) (env : Env) (world : World) (principal : Option Principal) (body : IssueBody) :
    Except Refusal (Reply × World) := do
  let principal ← requireAuth principal
  let key := newKey config env world principal.user.id body.network body.name body.scopes
  let world ← insertKey world key
  return (.issued (plaintextOf config env body.network) key, world)

def listKeys (world : World) (principal : Option Principal) : Except Refusal (Reply × World) := do
  let principal ← requireAuth principal
  let keys := world.apiKeys.rows.filter (fun key => key.userId = principal.user.id)
  let sorted := keys.mergeSort (fun key other => key.createdAt ≤ other.createdAt)
  return (.keys (sorted.map publicKey), world)

def revokeKey (env : Env) (world : World) (principal : Option Principal) (id : Uuid) : Except Refusal (Reply × World) := do
  let principal ← requireAuth principal
  let revocable := fun key : ApiKey => decide (key.Revocable id principal.user.id)
  let apiKeys := world.apiKeys.update ((ApiKey.toRevoked env.now).guard revocable)
  return (if world.apiKeys.rows.any revocable then .revoked else .notFound, { world with apiKeys := apiKeys })

/-- One transaction. -/
def createUser (config : Config) (env : Env) (world : World) (principal : Option Principal) (body : CreateUserBody) :
    Except Refusal (Reply × World) := do
  let _ ← requireAdmin principal
  let user : User := ⟨world.nextId, body.email, body.name, body.isAdmin.getD false, env.now⟩
  if world.users.rows.any (fun other => other.email = user.email) then
    .error (.error "duplicate key value violates unique constraint")
  else match world.users.insert user with
    | none => .error (.error "duplicate key value violates unique constraint")
    | some users =>
        let world := { world with users := users, nextId := world.nextId + 1 }
        let key := newKey config env world user.id body.network (body.keyName.getD "initial") body.scopes
        let world ← insertKey world key
        return (.created user (plaintextOf config env body.network) key, world)

def handle (config : Config) (env : Env) (world : World) (principal : Option Principal) (request : Request) :
    Except Refusal (Reply × World) :=
  match request.route with
  | .whoami => do
      let principal ← requireAuth principal
      return (.user principal.user (principal.apiKey.map publicKey), world)
  | .listKeys => listKeys world principal
  | .issueKey body => issueKey config env world principal body
  | .revokeKey id => revokeKey env world principal id
  | .createUser body => createUser config env world principal body
  | .networked => do
      let _ ← requireAuth principal
      let network ← requestNetwork config principal request
      return (.served network, world)
  | .admin => do
      let _ ← requireAdmin principal
      return (.done, world)

/-- One HTTP request; the key it carries is touched whatever its handler does. -/
def serve (config : Config) (env : Env) (world : World) (request : Request) : Except Refusal Reply × World :=
  match authenticate config env world request with
  | .error refusal => (.error refusal, world)
  | .ok principal =>
      let touched := match principal.bind Principal.apiKey with
        | some key => { world with apiKeys := world.apiKeys.modify key.keyHash (ApiKey.toUsed env.now) }
        | none => world
      match handle config env touched principal request with
      | .error refusal => (.error refusal, touched)
      | .ok (reply, after) => (.ok reply, after)

end MpcKit.Auth
