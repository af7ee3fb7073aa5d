import MpcKit.Core.Commands
import MpcKit.Core.Replay
import MpcKit.Sign.World
import MpcKit.Wallets.World

/-! `shared/sui/move-calls.ts`: the transaction blocks the backend sends, and what the package reads
from them. -/

namespace MpcKit.Executor
open MpcKit.Backend MpcKit.Encoding MpcKit.Transact
open MpcKit.Core (ID Address Deployment Entry SignOrder DkgArgs addressCodec)
open MpcKit.Sign (SignZeroTrust)
open MpcKit.Wallets (OnboardZeroTrust AcceptUserShare)

/-- What the builders read: the environment, and how the SDK serializes ids and numbers. -/
structure MoveConfig where
  env : String → Option String
  address : String → Except Thrown Address
  /-- What the writer throws for a number of more than 32 bits. -/
  outOfRange : Nat → Thrown

structure PresignBatch where
  network : String
  coordinatorId : ObjectId
  dwalletNetworkEncryptionKeyId : ObjectId
  curve : Nat
  signatureAlgorithm : Nat
  count : Nat
  recipient : String
  sessionIdentifiers : List Bytes
  deriving DecidableEq, Repr

def PresignBatch.counted (input : PresignBatch) : Except Thrown Unit :=
  if input.sessionIdentifiers.length = input.count then .ok ()
  else .error (.other "Error" s!"sessionIdentifiers length {input.sessionIdentifiers.length} != count {input.count}")

namespace MoveConfig

/-- An id that cannot be read names no object; the block then fails when it is sent. -/
def resolve (config : MoveConfig) (text : String) : Option ID := (config.address text).toOption

section
variable (config : MoveConfig)

def requireEnv (name hint : String) : Except Thrown String :=
  match config.env name with
  | some value => if value = "" then missing else .ok value
  | none => missing
where
  missing : Except Thrown String := .error (.other "Error" s!"{name} is not configured: {hint}")

def packageId (network : String) : Except Thrown String :=
  config.requireEnv (if network = "mainnet" then "MPCKITCORE_MAINNET_PACKAGE_ID" else "MPCKITCORE_TESTNET_PACKAGE_ID")
    "publish mpckitcore for this network and set the env var"

def operatorCapId (network : String) : Except Thrown String :=
  config.requireEnv
    (if network = "mainnet" then "MPCKITCORE_MAINNET_OPERATOR_CAP_ID" else "MPCKITCORE_TESTNET_OPERATOR_CAP_ID")
    "mint an OperatorCap with the AdminCap and set the env var"

def treasuryId (network : String) : Except Thrown String :=
  config.requireEnv (if network = "mainnet" then "MPCKITCORE_MAINNET_TREASURY_ID" else "MPCKITCORE_TESTNET_TREASURY_ID")
    "the Treasury shared object is published with the package"

def u32 (number : Nat) : Except Thrown UInt32 :=
  if number < 2 ^ 32 then .ok (UInt32.ofNat number) else .error (config.outOfRange number)

end

end MoveConfig

open Builder

/-! ### The builders -/

section
variable (config : MoveConfig) {builder : Builder (Option ID) config.resolve}

/-- `tx.object` of an id from the environment. -/
def objectOf (id : Except Thrown String) : builder.Build Thrown builder.Argument := given id >>= object

/-- `tx.pure.id` and `tx.pure.address`. -/
def pureId (text : String) : builder.Build Thrown builder.Argument :=
  given (config.address text) >>= fun id => bytes (addressCodec.encode id)

def pureU32 (number : Nat) : builder.Build Thrown builder.Argument :=
  given (config.u32 number) >>= fun word => bytes (Codec.u32.encode word)

/-- `tx.pure.vector("u8", …)` -/
def pureVector (string : Bytes) : builder.Build Thrown builder.Argument := bytes (Codec.bytes.encode string)

def moveCall (package function : String) (arguments : List (builder.Build Thrown builder.Argument)) :
    builder.Build Thrown Unit := each arguments >>= call (package ++ function)

/-- The arguments that both ways to create a dwallet end with. -/
def dkgArguments (input : OnboardZeroTrust) : List (builder.Build Thrown builder.Argument) :=
  [object input.coordinatorId, pureId config input.dwalletNetworkEncryptionKeyId, pureU32 config input.curve,
    pureVector config input.centralizedPublicKeyShareAndProof,
    pureVector config input.encryptedCentralizedSecretShareAndProof, pureId config input.encryptionKeyAddress,
    pureVector config input.userPublicOutput, pureVector config input.signerPublicKey,
    pureVector config input.sessionIdentifierBytes]

def buildOnboardZeroTrust (input : OnboardZeroTrust) : builder.Build Thrown Unit := do
  let package ← given (config.packageId input.network)
  moveCall config package "::treasury::pay_register_and_dkg_zero_trust"
    ([objectOf config (config.treasuryId input.network), objectOf config (config.operatorCapId input.network)] ++
      dkgArguments config input)

def buildAddDwalletZeroTrust (accountId : ObjectId) (input : OnboardZeroTrust) : builder.Build Thrown Unit := do
  let package ← given (config.packageId input.network)
  moveCall config package "::treasury::pay_dkg_zero_trust"
    ([objectOf config (config.treasuryId input.network), objectOf config (config.operatorCapId input.network),
      object accountId] ++ dkgArguments config input)

def buildAcceptUserShare (input : AcceptUserShare) : builder.Build Thrown Unit := do
  let package ← given (config.packageId input.network)
  moveCall config package "::dkg::accept_user_share"
    [object input.accountId, object input.coordinatorId, pureId config input.dwalletId,
      pureId config input.encryptedUserSecretKeyShareId, pureVector config input.userOutputSignature]

/-- The length is checked first, so every number below `count` has its session. -/
def buildPresignBatch (input : PresignBatch) : builder.Build Thrown Unit := do
  given input.counted
  let package ← given (config.packageId input.network)
  let treasury ← objectOf config (config.treasuryId input.network)
  let opCap ← objectOf config (config.operatorCapId input.network)
  let coord ← object input.coordinatorId
  forEach (fun sessionBytes => moveCall config package "::treasury::pay_presign"
    [pure treasury, pure opCap, pure coord, pureId config input.dwalletNetworkEncryptionKeyId, pureU32 config input.curve,
      pureU32 config input.signatureAlgorithm, pureVector config sessionBytes, pureId config input.recipient])
    input.sessionIdentifiers

def buildSignZeroTrust (input : SignZeroTrust) : builder.Build Thrown Unit := do
  let package ← given (config.packageId input.network)
  moveCall config package "::treasury::pay_sign_zero_trust"
    [objectOf config (config.treasuryId input.network), objectOf config (config.operatorCapId input.network),
      object input.accountId, object input.coordinatorId, pureId config input.dwalletId, object input.presignCapId,
      pureU32 config input.signatureAlgorithm, pureU32 config input.hashScheme, pureVector config input.message,
      pureVector config input.messageCentralizedSignature, pureVector config input.sessionIdentifierBytes]

end

/-! ### What is asked for

The same requests, as calls of the package's functions with typed arguments. What throws, throws in
the order of the source. -/

inductive Request where
  | onboardZeroTrust (input : OnboardZeroTrust)
  | addDwalletZeroTrust (accountId : ObjectId) (input : OnboardZeroTrust)
  | acceptUserShare (input : AcceptUserShare)
  | presignBatch (input : PresignBatch)
  | signZeroTrust (input : SignZeroTrust)
  deriving DecidableEq, Repr

namespace Request

def network : Request → String
  | .onboardZeroTrust input => input.network
  | .addDwalletZeroTrust _ input => input.network
  | .acceptUserShare input => input.network
  | .presignBatch input => input.network
  | .signZeroTrust input => input.network

def coordinatorId : Request → ObjectId
  | .onboardZeroTrust input => input.coordinatorId
  | .addDwalletZeroTrust _ input => input.coordinatorId
  | .acceptUserShare input => input.coordinatorId
  | .presignBatch input => input.coordinatorId
  | .signZeroTrust input => input.coordinatorId

def build (config : MoveConfig) (builder : Builder (Option ID) config.resolve) : Request → builder.Build Thrown Unit
  | .onboardZeroTrust input => buildOnboardZeroTrust config input
  | .addDwalletZeroTrust accountId input => buildAddDwalletZeroTrust config accountId input
  | .acceptUserShare input => buildAcceptUserShare config input
  | .presignBatch input => buildPresignBatch config input
  | .signZeroTrust input => buildSignZeroTrust config input

section
variable (config : MoveConfig)

def dkgOrder (input : OnboardZeroTrust) : Except Thrown DkgArgs := do
  let networkEncryptionKeyId ← config.address input.dwalletNetworkEncryptionKeyId
  let curve ← config.u32 input.curve
  let encryptionKeyAddress ← config.address input.encryptionKeyAddress
  return { input with networkEncryptionKeyId, curve, encryptionKeyAddress }

def presignOrder (input : PresignBatch) (operator : Option ID) (session : Bytes) : Except Thrown (Option Entry) := do
  let key ← config.address input.dwalletNetworkEncryptionKeyId
  let curve ← config.u32 input.curve
  let algorithm ← config.u32 input.signatureAlgorithm
  let recipient ← config.address input.recipient
  return operator.map (fun operator => .payPresign operator key curve algorithm session recipient)

def signOrder (input : SignZeroTrust) : Except Thrown SignOrder := do
  let dwalletId ← config.address input.dwalletId
  let signatureAlgorithm ← config.u32 input.signatureAlgorithm
  let hashScheme ← config.u32 input.hashScheme
  return { input with dwalletId, signatureAlgorithm, hashScheme }

/-- The calls that a request asks for: none at all if an object is not named by an id. -/
def order : Request → Except Thrown (Option (List Entry))
  | .onboardZeroTrust input => do
    let _ ← config.packageId input.network
    let _ ← config.treasuryId input.network
    let operator ← config.operatorCapId input.network
    let args ← dkgOrder config input
    return do return [.payRegisterAndDkgZeroTrust (← config.resolve operator) args]
  | .addDwalletZeroTrust accountId input => do
    let _ ← config.packageId input.network
    let _ ← config.treasuryId input.network
    let operator ← config.operatorCapId input.network
    let args ← dkgOrder config input
    return do return [.payDkgZeroTrust (← config.resolve operator) (← config.resolve accountId) args]
  | .acceptUserShare input => do
    let _ ← config.packageId input.network
    let dwalletId ← config.address input.dwalletId
    let shareId ← config.address input.encryptedUserSecretKeyShareId
    return do return [.acceptUserShare (← config.resolve input.accountId) dwalletId shareId input.userOutputSignature]
  | .presignBatch input => do
    input.counted
    let _ ← config.packageId input.network
    let _ ← config.treasuryId input.network
    let operator ← config.operatorCapId input.network
    let entries ← input.sessionIdentifiers.mapM (presignOrder config input (config.resolve operator))
    return entries.mapM id
  | .signZeroTrust input => do
    let _ ← config.packageId input.network
    let _ ← config.treasuryId input.network
    let operator ← config.operatorCapId input.network
    let order ← signOrder config input
    return do return [.paySignZeroTrust (← config.resolve operator) (← config.resolve input.accountId)
      (← config.resolve input.presignCapId) order]

end

/-- The environment and the request name the package that is deployed. -/
structure Placed (config : MoveConfig) (deployment : Deployment) (request : Request) : Prop where
  package : ∀ package, config.packageId request.network = .ok package → package = deployment.package
  treasury : ∀ text, config.treasuryId request.network = .ok text → config.resolve text = some deployment.treasury
  coordinator : config.resolve request.coordinatorId = some deployment.coordinator

end Request

/-! ### What the builders put into a block -/

section Plans
variable (config : MoveConfig) {builder : Builder (Option ID) config.resolve} {start : builder.Block}

def planObject (text : String) : Except Thrown Deployment.Argument := pure (.object (config.resolve text))

def planObjectOf (id : Except Thrown String) : Except Thrown Deployment.Argument := id >>= planObject config

def planId (text : String) : Except Thrown Deployment.Argument :=
  config.address text >>= fun id => pure (.pure (addressCodec.encode id))

def planU32 (number : Nat) : Except Thrown Deployment.Argument :=
  config.u32 number >>= fun word => pure (.pure (Codec.u32.encode word))

def planVector (string : Bytes) : Except Thrown Deployment.Argument := pure (.pure (Codec.bytes.encode string))

variable {config}

theorem gives_objectOf (id : Except Thrown String) :
    Gives start (objectOf config id) (planObjectOf config id) builder.Stands := by
  apply Gives.bind (gives_given id)
  intro value planned later _ same
  cases same
  exact gives_object value

theorem gives_pureId (text : String) : Gives start (pureId config text) (planId config text) builder.Stands := by
  apply Gives.bind (gives_given (config.address text))
  intro id planned later _ same
  cases same
  exact gives_bytes (addressCodec.encode id)

theorem gives_pureU32 (number : Nat) : Gives start (pureU32 config number) (planU32 config number) builder.Stands := by
  apply Gives.bind (gives_given (config.u32 number))
  intro word planned later _ same
  cases same
  exact gives_bytes (Codec.u32.encode word)

theorem gives_pureVector (string : Bytes) : Gives start (pureVector config string) (planVector string) builder.Stands :=
  gives_bytes (Codec.bytes.encode string)

end Plans

section
variable (config : MoveConfig)

def planCall (package function : String) (arguments : List (Except Thrown Deployment.Argument)) :
    Except Thrown (List (MoveCall (Option ID))) :=
  planned arguments >>= fun values => pure [(package ++ function, values)]

def planDkg (input : OnboardZeroTrust) : List (Except Thrown Deployment.Argument) :=
  [planObject config input.coordinatorId, planId config input.dwalletNetworkEncryptionKeyId, planU32 config input.curve,
    planVector input.centralizedPublicKeyShareAndProof, planVector input.encryptedCentralizedSecretShareAndProof,
    planId config input.encryptionKeyAddress, planVector input.userPublicOutput, planVector input.signerPublicKey,
    planVector input.sessionIdentifierBytes]

def planPresign (input : PresignBatch) (package : String) (treasury operator coordinator : Deployment.Argument)
    (session : Bytes) : Except Thrown (List (MoveCall (Option ID))) :=
  planCall package "::treasury::pay_presign" [pure treasury, pure operator, pure coordinator,
    planId config input.dwalletNetworkEncryptionKeyId, planU32 config input.curve, planU32 config input.signatureAlgorithm,
    planVector session, planId config input.recipient]

def Request.plan : Request → Except Thrown (List (MoveCall (Option ID)))
  | .onboardZeroTrust input => config.packageId input.network >>= fun package =>
    planCall package "::treasury::pay_register_and_dkg_zero_trust"
      ([planObjectOf config (config.treasuryId input.network), planObjectOf config (config.operatorCapId input.network)] ++
        planDkg config input)
  | .addDwalletZeroTrust accountId input => config.packageId input.network >>= fun package =>
    planCall package "::treasury::pay_dkg_zero_trust"
      ([planObjectOf config (config.treasuryId input.network), planObjectOf config (config.operatorCapId input.network),
        planObject config accountId] ++ planDkg config input)
  | .acceptUserShare input => config.packageId input.network >>= fun package =>
    planCall package "::dkg::accept_user_share"
      [planObject config input.accountId, planObject config input.coordinatorId, planId config input.dwalletId,
        planId config input.encryptedUserSecretKeyShareId, planVector input.userOutputSignature]
  | .presignBatch input =>
    input.counted >>= fun _ => config.packageId input.network >>= fun package =>
    planObjectOf config (config.treasuryId input.network) >>= fun treasury =>
    planObjectOf config (config.operatorCapId input.network) >>= fun operator =>
    planObject config input.coordinatorId >>= fun coordinator =>
    planEach (planPresign config input package treasury operator coordinator) input.sessionIdentifiers
  | .signZeroTrust input => config.packageId input.network >>= fun package =>
    planCall package "::treasury::pay_sign_zero_trust"
      [planObjectOf config (config.treasuryId input.network), planObjectOf config (config.operatorCapId input.network),
        planObject config input.accountId, planObject config input.coordinatorId, planId config input.dwalletId,
        planObject config input.presignCapId, planU32 config input.signatureAlgorithm, planU32 config input.hashScheme,
        planVector input.message, planVector input.messageCentralizedSignature,
        planVector input.sessionIdentifierBytes]

end

section Follows
variable {config : MoveConfig} {builder : Builder (Option ID) config.resolve} {start : builder.Block}

theorem follows_moveCall {package function : String} {arguments : List (builder.Build Thrown builder.Argument)}
    {plans : List (Except Thrown Deployment.Argument)} (hands : Supplied start arguments plans) :
    Follows start (moveCall config package function arguments) (planCall package function plans) :=
  follows_send hands

/-- A builder reads the package first. -/
theorem follows_package {network : String} {next : String → builder.Build Thrown Unit}
    {plan : String → Except Thrown (List (MoveCall (Option ID)))}
    (rest : ∀ later package, builder.Extends start later → Follows later (next package) (plan package)) :
    Follows start (given (config.packageId network) >>= next) (config.packageId network >>= plan) := by
  apply Gives.follows (gives_given (config.packageId network))
  intro package planned later after same
  cases same
  exact rest later package after

theorem supplied_dkg (input : OnboardZeroTrust) : Supplied start (dkgArguments config input) (planDkg config input) :=
  .cons (gives_object _) (.cons (gives_pureId _) (.cons (gives_pureU32 _) (.cons (gives_pureVector _)
    (.cons (gives_pureVector _) (.cons (gives_pureId _) (.cons (gives_pureVector _) (.cons (gives_pureVector _)
      (.cons (gives_pureVector _) .nil))))))))

theorem follows_plan (request : Request) : Follows start (request.build config builder) (request.plan config) := by
  cases request with
  | onboardZeroTrust input =>
    apply follows_package
    intro later package _
    apply follows_moveCall
    exact .cons (gives_objectOf _) (.cons (gives_objectOf _) (supplied_dkg input))
  | addDwalletZeroTrust accountId input =>
    apply follows_package
    intro later package _
    apply follows_moveCall
    exact .cons (gives_objectOf _) (.cons (gives_objectOf _) (.cons (gives_object _) (supplied_dkg input)))
  | acceptUserShare input =>
    apply follows_package
    intro later package _
    apply follows_moveCall
    exact .cons (gives_object _) (.cons (gives_object _) (.cons (gives_pureId _) (.cons (gives_pureId _)
      (.cons (gives_pureVector _) .nil))))
  | presignBatch input =>
    apply Gives.follows (gives_given _)
    intro _ _ block _ _
    apply follows_package
    intro block package _
    apply Gives.follows (gives_objectOf (config.treasuryId input.network))
    intro treasury treasuryValue block _ treasuryStands
    apply Gives.follows (gives_objectOf (config.operatorCapId input.network))
    intro operator operatorValue block keepsOperator operatorStands
    apply Gives.follows (gives_object input.coordinatorId)
    intro coordinator coordinatorValue block keepsCoordinator coordinatorStands
    apply follows_forEach
    intro session _
    apply follows_moveCall
    -- The three shared objects were handed out before the loop and still stand for themselves.
    have treasuryLater := keepsCoordinator _ _ (keepsOperator _ _ treasuryStands)
    have operatorLater := keepsCoordinator _ _ operatorStands
    exact .cons (gives_known treasuryLater) (.cons (gives_known operatorLater) (.cons (gives_known coordinatorStands)
      (.cons (gives_pureId _) (.cons (gives_pureU32 _) (.cons (gives_pureU32 _) (.cons (gives_pureVector _)
        (.cons (gives_pureId _) .nil)))))))
  | signZeroTrust input =>
    apply follows_package
    intro later package _
    apply follows_moveCall
    exact .cons (gives_objectOf _) (.cons (gives_objectOf _) (.cons (gives_object _) (.cons (gives_object _)
      (.cons (gives_pureId _) (.cons (gives_object _) (.cons (gives_pureU32 _) (.cons (gives_pureU32 _)
        (.cons (gives_pureVector _) (.cons (gives_pureVector _) (.cons (gives_pureVector _) .nil))))))))))

end Follows

/-! ### What the package reads -/

section Reads
variable {config : MoveConfig} {deployment : Deployment}

@[simp] theorem value_encode {α : Type} (codec : Codec α) (value : α) :
    Deployment.value codec (.pure (codec.encode value)) = some value := codec.parseAll_encode value

@[simp] theorem object_object (id : Option ID) : Deployment.object (.object id) = id := rfl

@[simp] theorem shared_object (id : ID) : Deployment.shared id (.object (some id)) = some () := by
  rw [Deployment.shared, object_object, if_pos rfl]

section
variable (deployment) (arguments : List Deployment.Argument)

theorem entry_payRegisterAndDkgZeroTrust :
    deployment.entry (deployment.package ++ "::treasury::pay_register_and_dkg_zero_trust", arguments) =
      deployment.payRegisterAndDkgZeroTrust arguments := by
  simp [Deployment.entry]

theorem entry_payDkgZeroTrust :
    deployment.entry (deployment.package ++ "::treasury::pay_dkg_zero_trust", arguments) =
      deployment.payDkgZeroTrust arguments := by
  simp [Deployment.entry]

theorem entry_acceptUserShare :
    deployment.entry (deployment.package ++ "::dkg::accept_user_share", arguments) =
      deployment.acceptUserShare arguments := by
  simp [Deployment.entry]

theorem entry_payPresign :
    deployment.entry (deployment.package ++ "::treasury::pay_presign", arguments) = deployment.payPresign arguments := by
  simp [Deployment.entry]

theorem entry_paySignZeroTrust :
    deployment.entry (deployment.package ++ "::treasury::pay_sign_zero_trust", arguments) =
      deployment.paySignZeroTrust arguments := by
  simp [Deployment.entry]

end

theorem bind_congr_ok {α β : Type} {first : Except Thrown α} {one two : α → Except Thrown β}
    (same : ∀ value, first = .ok value → one value = two value) : first >>= one = first >>= two := by
  cases first with
  | error thrown => rfl
  | ok value => exact same value rfl

theorem entries_append (first second : List (MoveCall (Option ID))) :
    deployment.entries (first ++ second) =
      (deployment.entries first).bind (fun one => (deployment.entries second).map (one ++ ·)) := by
  induction first with
  | nil => simp [Deployment.entries]
  | cons call calls ih =>
    rw [List.cons_append, Deployment.entries, Deployment.entries, ih]
    cases deployment.entry call with
    | none => rfl
    | some entry => cases deployment.entries calls <;> cases deployment.entries second <;> rfl

/-- The calls of a batch are read one by one. -/
theorem order_presigns (input : PresignBatch) (operator : Option ID) (sessions : List Bytes) :
    (do let entries ← sessions.mapM (Request.presignOrder config input operator)
        return entries.mapM id) =
      deployment.entries <$> planEach (planPresign config input deployment.package (.object (some deployment.treasury))
        (.object operator) (.object (some deployment.coordinator))) sessions := by
  induction sessions with
  | nil => rfl
  | cons session sessions ih =>
    simp only [List.mapM_cons, planEach, bind_assoc, pure_bind, map_bind, map_pure, planPresign, planCall, planned,
      planId, planU32, planVector, Request.presignOrder] at ih ⊢
    apply bind_congr_ok
    intro key _
    apply bind_congr_ok
    intro curve _
    apply bind_congr_ok
    intro algorithm _
    apply bind_congr_ok
    intro recipient _
    simp only [entries_append, Deployment.entries, entry_payPresign, Deployment.payPresign, shared_object, value_encode,
      object_object]
    -- Both sides go on with what the rest of the sessions give.
    cases orders : sessions.mapM (Request.presignOrder config input operator) with
    | error thrown =>
      rw [orders] at ih
      cases calls : planEach (planPresign config input deployment.package (.object (some deployment.treasury))
          (.object operator) (.object (some deployment.coordinator))) sessions with
      | error other =>
        rw [calls] at ih
        exact ih
      | ok calls' =>
        rw [calls] at ih
        cases ih
    | ok entries =>
      rw [orders] at ih
      cases calls : planEach (planPresign config input deployment.package (.object (some deployment.treasury))
          (.object operator) (.object (some deployment.coordinator))) sessions with
      | error other =>
        rw [calls] at ih
        cases ih
      | ok calls' =>
        rw [calls] at ih
        have same : entries.mapM id = deployment.entries calls' := Except.ok.inj ih
        cases operator with
        | none => rfl
        | some operator =>
          rw [show (Except.ok entries : Except Thrown _) = pure entries from rfl,
            show (Except.ok calls' : Except Thrown _) = pure calls' from rfl, pure_bind, pure_bind, ← same]
          cases entries.mapM id <;> rfl

theorem order_plan (request : Request) (placed : request.Placed config deployment) :
    request.order config = deployment.entries <$> request.plan config := by
  have coordinator := placed.coordinator
  cases request with
  | onboardZeroTrust input =>
    simp only [Request.coordinatorId] at coordinator
    simp only [Request.order, Request.plan, planCall, planned, planObjectOf, planDkg, planObject, planId, planU32,
      planVector, Request.dkgOrder, List.cons_append, List.nil_append, coordinator, bind_assoc, pure_bind, map_bind, map_pure]
    apply bind_congr_ok
    intro package found
    apply bind_congr_ok
    intro treasury named
    rw [placed.package package found, placed.treasury treasury named]
    simp only [Deployment.entries, entry_payRegisterAndDkgZeroTrust, Deployment.payRegisterAndDkgZeroTrust,
      Deployment.dkgArgs, shared_object, value_encode, object_object]
    apply bind_congr_ok
    intro operator _
    cases config.resolve operator <;> rfl
  | addDwalletZeroTrust accountId input =>
    simp only [Request.coordinatorId] at coordinator
    simp only [Request.order, Request.plan, planCall, planned, planObjectOf, planDkg, planObject, planId, planU32,
      planVector, Request.dkgOrder, List.cons_append, List.nil_append, coordinator, bind_assoc, pure_bind, map_bind, map_pure]
    apply bind_congr_ok
    intro package found
    apply bind_congr_ok
    intro treasury named
    rw [placed.package package found, placed.treasury treasury named]
    simp only [Deployment.entries, entry_payDkgZeroTrust, Deployment.payDkgZeroTrust,
      Deployment.dkgArgs, shared_object, value_encode, object_object]
    apply bind_congr_ok
    intro operator _
    cases config.resolve operator <;> cases config.resolve accountId <;> rfl
  | acceptUserShare input =>
    simp only [Request.coordinatorId] at coordinator
    simp only [Request.order, Request.plan, planCall, planned, planObject, planId, planVector, coordinator, bind_assoc,
      pure_bind, map_bind, map_pure]
    apply bind_congr_ok
    intro package found
    rw [placed.package package found]
    simp only [Deployment.entries, entry_acceptUserShare, Deployment.acceptUserShare, shared_object, value_encode,
      object_object]
    cases config.resolve input.accountId <;> rfl
  | presignBatch input =>
    simp only [Request.coordinatorId] at coordinator
    simp only [Request.order, Request.plan, planObjectOf, planObject, coordinator, bind_assoc, pure_bind, map_bind]
    apply bind_congr_ok
    intro _ _
    apply bind_congr_ok
    intro package found
    apply bind_congr_ok
    intro treasury named
    rw [placed.package package found, placed.treasury treasury named]
    apply bind_congr_ok
    intro operator _
    exact order_presigns input (config.resolve operator) input.sessionIdentifiers
  | signZeroTrust input =>
    simp only [Request.coordinatorId] at coordinator
    simp only [Request.order, Request.plan, planCall, planned, planObjectOf, planObject, planId, planU32, planVector,
      Request.signOrder, coordinator, bind_assoc, pure_bind, map_bind, map_pure]
    apply bind_congr_ok
    intro package found
    apply bind_congr_ok
    intro treasury named
    rw [placed.package package found, placed.treasury treasury named]
    simp only [Deployment.entries, entry_paySignZeroTrust, Deployment.paySignZeroTrust, shared_object, value_encode,
      object_object]
    apply bind_congr_ok
    intro operator _
    cases config.resolve operator <;> cases config.resolve input.accountId <;> cases config.resolve input.presignCapId <;> rfl

end Reads

/-- What a builder throws it throws as planned; otherwise the package reads from the block that it built
exactly the calls that were asked for. -/
theorem build_reads {config : MoveConfig} (builder : Builder (Option ID) config.resolve) {deployment : Deployment}
    {request : Request} (placed : request.Placed config deployment) :
    (∀ thrown, request.order config = .error thrown → request.build config builder builder.empty = .error thrown) ∧
    ∀ entries, request.order config = .ok entries → ∃ block, request.build config builder builder.empty = .ok ((), block) ∧
      (builder.meaning block).bind deployment.entries = entries := by
  obtain ⟨throws, goes⟩ := follows_plan request builder.empty (Extends.refl builder.empty)
  rw [order_plan request placed]
  cases planned : request.plan config with
  | error thrown =>
    constructor
    · intro other same
      cases same
      exact throws thrown planned
    · intro entries same
      cases same
  | ok calls =>
    obtain ⟨_, block, built, added⟩ := goes calls planned
    constructor
    · intro other same
      cases same
    · intro entries same
      cases same
      refine ⟨block, built, ?_⟩
      rw [added.meaning, Option.bind_some]

/-! ### A batch of two -/

namespace sample
open MpcKit.Core.sample (address sender)

/-- An id as it is printed, and read back. -/
def print (id : ID) : String := "0x" ++ Sign.toHex id.bytes

def read (text : String) : Except Thrown Address :=
  match Sign.parseHex (text.toList.drop 2) with
  | some bytes => if length : bytes.length = 32 then .ok ⟨bytes, length⟩ else invalid
  | none => invalid
where
  invalid : Except Thrown Address := .error (.other "Error" s!"Invalid Sui address {text}")

def env (name : String) : Option String :=
  if name = "MPCKITCORE_TESTNET_PACKAGE_ID" then some (print (address 60))
  else if name = "MPCKITCORE_TESTNET_OPERATOR_CAP_ID" then some (print (address 9))
  else if name = "MPCKITCORE_TESTNET_TREASURY_ID" then some (print (address 50))
  else none

def config : MoveConfig := ⟨env, read, fun number => .other "TypeError" s!"Invalid u32 value: {number}"⟩

def builder : Builder (Option ID) config.resolve := Ptb.builder config.resolve

def deployment : Deployment := ⟨print (address 60), address 50, address 51⟩

def batch : PresignBatch :=
  ⟨"testnet", print (address 51), print (address 40), 2, 1, 2, print sender, [[1], [2]]⟩

theorem placed (request : Request) (network : request.network = "testnet")
    (coordinator : config.resolve request.coordinatorId = some (address 51)) : request.Placed config deployment := by
  have package : config.packageId "testnet" = .ok (print (address 60)) := by decide +kernel
  have treasury : config.treasuryId "testnet" = .ok (print (address 50)) := by decide +kernel
  constructor
  · intro text found
    rw [network, package] at found
    cases found
    rfl
  · intro text found
    rw [network, treasury] at found
    cases found
    decide +kernel
  · exact coordinator

end sample

theorem build_reads_sample :
    ∃ block, Request.build sample.config sample.builder (.presignBatch sample.batch) sample.builder.empty = .ok ((), block) ∧
      (sample.builder.meaning block).bind sample.deployment.entries =
        some [.payPresign (Core.sample.address 9) (Core.sample.address 40) 2 1 [1] Core.sample.sender,
          .payPresign (Core.sample.address 9) (Core.sample.address 40) 2 1 [2] Core.sample.sender] :=
  (build_reads sample.builder (sample.placed (.presignBatch sample.batch) rfl (by decide +kernel))).2 _ (by decide +kernel)

end MpcKit.Executor
