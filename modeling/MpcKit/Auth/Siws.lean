import MpcKit.Async.Machine
import MpcKit.Async.Protocol
import MpcKit.Backend.Basics

/-! `features/auth/siws-plugin.ts`: signing in with a Sui wallet, request by request and adapter
call by adapter call. -/

namespace MpcKit.Siws
open MpcKit.Backend MpcKit.Async
open Program (unwrap)

/-! ### Rows -/

/-- `auth_verifications`. -/
structure Verification where
  id : Uuid
  identifier : String
  value : Uuid
  expiresAt : Time
  createdAt : Time
  deriving DecidableEq, Repr

structure User where
  id : Uuid
  name : String
  email : String
  deriving DecidableEq, Repr

/-- `auth_accounts`. -/
structure Account where
  userId : Uuid
  providerId : String
  accountId : String
  deriving DecidableEq, Repr

/-- `auth_sessions`, with the number of the request that minted the session, which is no column. -/
structure Session where
  token : Uuid
  userId : Uuid
  call : Nat
  deriving DecidableEq, Repr

inductive SiwsError where
  | api (status message code : String)
  | other (message : String)
  deriving DecidableEq, Repr

/-! ### Texts -/

def nonceTtlMs : Nat := 10 * 60000

/-- `crypto.randomUUID().replaceAll("-", "")`: 32 hex digits. -/
def nonceText (nonce : Uuid) : String :=
  let digits := Nat.toDigits 16 nonce
  String.ofList (List.replicate (32 - digits.length) '0' ++ digits)

def shortAddress (address : String) : String :=
  String.ofList (address.toList.take 6) ++ "…" ++ String.ofList (address.toList.drop (address.length - 4))

def buildSiwsMessage (address domain nonce issuedAt : String) : String :=
  String.intercalate "\n" [
    s!"{domain} wants you to sign in with your Sui account:",
    address,
    "",
    "Sign in to MPCKit. This request does not authorise any on-chain",
    "transaction; it only proves wallet ownership.",
    "",
    s!"Domain: {domain}",
    s!"Nonce: {nonce}",
    s!"Issued At: {issuedAt}"]

def identifierFor (address : String) : String := s!"siws:{address}"

/-! ### Operations -/

structure Config where
  normalizeSuiAddress : String → String
  /-- Whether a signature over a message is one by the address. -/
  verifyPersonalMessageSignature : (message signature address : String) → Bool
  /-- `originOf(baseURL)`. -/
  host : String

inductive Op where
  | randomUUID
  | now
  | isoNow
  | createVerificationValue (identifier : String) (value : Uuid) (expiresAt : Time)
  | findVerificationValue (identifier : String)
  | verifySignature (message signature address : String)
  | deleteVerificationByIdentifier (identifier : String)
  | findAccount (providerId accountId : String)
  | findUser (id : Uuid)
  | createUser (name email : String)
  | createAccount (userId : Uuid) (providerId accountId : String)
  | createSession (userId : Uuid)
  deriving DecidableEq, Repr

@[reducible] def Res : Op → Type
  | .randomUUID => Uuid
  | .now => Time
  | .isoNow => String
  | .createVerificationValue _ _ _ => Except SiwsError Unit
  | .findVerificationValue _ => Except SiwsError (Option Verification)
  | .verifySignature _ _ _ => Bool
  | .deleteVerificationByIdentifier _ => Except SiwsError Unit
  | .findAccount _ _ => Except SiwsError (Option Account)
  | .findUser _ => Except SiwsError (Option User)
  | .createUser _ _ => Except SiwsError User
  | .createAccount _ _ _ => Except SiwsError Unit
  | .createSession _ => Except SiwsError (Option Session)

abbrev Prog (α : Type) := Program Op Res SiwsError α

def perform (op : Op) : Prog (Res op) := Program.perform op

/-! ### The endpoints -/

structure VerifyBody where
  address : String
  message : String
  signature : String
  deriving DecidableEq, Repr

inductive Reply where
  | nonce (nonce : Uuid) (message : String)
  | verified (token userId : Uuid) (address : String)
  deriving DecidableEq, Repr

def getSiwsNonce (config : Config) (address : String) : Prog Reply := do
  let address := config.normalizeSuiAddress address
  let nonce ← perform .randomUUID
  let now ← perform .now
  unwrap (← perform (.createVerificationValue (identifierFor address) nonce (now + nonceTtlMs)))
  let issuedAt ← perform .isoNow
  return .nonce nonce (buildSiwsMessage address config.host (nonceText nonce) issuedAt)

/-- `if (!user)`: a user is created on the first sign-in. -/
def orCreateUser (config : Config) (address : String) : Option User → Prog User
  | some user => return user
  | none => do
    let host := config.host
    let user ← unwrap (← perform (.createUser (shortAddress address) s!"{address}@sui.{host}"))
    unwrap (← perform (.createAccount user.id "siws" address))
    return user

/-- The user bound to the wallet. -/
def findOrCreateUser (config : Config) (address : String) : Prog User := do
  match ← unwrap (← perform (.findAccount "siws" address)) with
  | some account =>
    let user ← unwrap (← perform (.findUser account.userId))
    orCreateUser config address user
  | none => orCreateUser config address none

/-- Everything after the nonce was deleted. -/
def openSession (config : Config) (address : String) : Prog Reply := do
  let user ← findOrCreateUser config address
  match ← unwrap (← perform (.createSession user.id)) with
  | none => throw (.api "INTERNAL_SERVER_ERROR" "could not create session" "")
  | some session => return .verified session.token user.id address

def verifySiwsSignature (config : Config) (body : VerifyBody) : Prog Reply := do
  let address := config.normalizeSuiAddress body.address
  match ← unwrap (← perform (.findVerificationValue (identifierFor address))) with
  | none => throw (.api "UNAUTHORIZED" "expired or unknown nonce" "SIWS_NONCE_EXPIRED")
  | some verification =>
    if verification.expiresAt < (← perform .now) then
      throw (.api "UNAUTHORIZED" "expired or unknown nonce" "SIWS_NONCE_EXPIRED")
    else if ¬includes body.message (nonceText verification.value) then
      throw (.api "UNAUTHORIZED" "message does not include the issued nonce" "SIWS_NONCE_MISMATCH")
    else if ← perform (.verifySignature body.message body.signature address) then
      unwrap (← perform (.deleteVerificationByIdentifier (identifierFor address)))
      openSession config address
    else
      throw (.api "UNAUTHORIZED" "invalid Sui signature" "SIWS_INVALID_SIGNATURE")

/-! ### The shared state -/

structure World where
  verifications : List Verification
  users : List User
  accounts : List Account
  sessions : List Session
  nextId : Uuid

/-- What the outside decides at one step. -/
structure Env where
  now : Time
  isoNow : String
  /-- Whether the adapter call goes through. -/
  db : Except SiwsError Unit
  refusesSession : Bool

/-- The latest row in a list, by creation. -/
def latest : List Verification → Option Verification
  | [] => none
  | row :: rows => match latest rows with
      | none => some row
      | some other => if other.createdAt < row.createdAt then some row else some other

def duplicate : SiwsError := .other "duplicate key value violates unique constraint"

/-- One adapter call that goes through. -/
def act (config : Config) (index : Nat) (env : Env) (world : World) : (op : Op) → Res op × World
  | .randomUUID => (world.nextId, { world with nextId := world.nextId + 1 })
  | .now => (env.now, world)
  | .isoNow => (env.isoNow, world)
  | .createVerificationValue identifier value expiresAt => (.ok (), { world with
      verifications := world.verifications ++ [⟨world.nextId, identifier, value, expiresAt, env.now⟩]
      nextId := world.nextId + 1 })
  | .findVerificationValue identifier => (.ok (latest (world.verifications.filter
      (fun row => row.identifier = identifier ∧ env.now ≤ row.expiresAt))), world)
  | .verifySignature message signature address => (config.verifyPersonalMessageSignature message signature address, world)
  | .deleteVerificationByIdentifier identifier => (.ok (), { world with
      verifications := world.verifications.filter (fun row => row.identifier ≠ identifier) })
  | .findAccount providerId accountId => (.ok (world.accounts.find?
      (fun row => row.providerId = providerId ∧ row.accountId = accountId)), world)
  | .findUser id => (.ok (world.users.find? (fun row => row.id = id)), world)
  | .createUser name email =>
      if world.users.any (fun row => row.email = email) then (.error duplicate, world)
      else (.ok ⟨world.nextId, name, email⟩, { world with
        users := world.users ++ [⟨world.nextId, name, email⟩], nextId := world.nextId + 1 })
  | .createAccount userId providerId accountId =>
      if world.accounts.any (fun row => row.providerId = providerId ∧ row.accountId = accountId) then
        (.error duplicate, world)
      else (.ok (), { world with accounts := world.accounts ++ [⟨userId, providerId, accountId⟩] })
  | .createSession userId => if env.refusesSession then (.ok none, world)
      else (.ok (some ⟨world.nextId, userId, index⟩), { world with
        sessions := world.sessions ++ [⟨world.nextId, userId, index⟩], nextId := world.nextId + 1 })

/-- The answer of an adapter call that does not go through. -/
def fail (error : SiwsError) : (op : Op) → Option (Res op)
  | .createVerificationValue _ _ _ => some (.error error)
  | .findVerificationValue _ => some (.error error)
  | .deleteVerificationByIdentifier _ => some (.error error)
  | .findAccount _ _ => some (.error error)
  | .findUser _ => some (.error error)
  | .createUser _ _ => some (.error error)
  | .createAccount _ _ _ => some (.error error)
  | .createSession _ => some (.error error)
  | _ => none

def exec (config : Config) (index : Nat) (op : Op) (env : Env) (world : World) : Option (Res op × World) :=
  match env.db with
  | .ok _ => some (act config index env world op)
  | .error error => (fail error op).map (fun answer => (answer, world))

inductive Call where
  | nonce (address : String)
  | verify (body : VerifyBody)
  deriving DecidableEq, Repr

def program (config : Config) : Call → Prog Reply
  | .nonce address => getSiwsNonce config address
  | .verify body => verifySiwsSignature config body

def machine (config : Config) : Machine Op Res Env World Call SiwsError Reply where
  exec := exec config
  program := program config
  enter _ world := some world
  leave _ _ _ world := world

abbrev SiwsSystem := System Op Res World Call SiwsError Reply
abbrev SiwsThread := Thread Op Res Call SiwsError Reply

end MpcKit.Siws
