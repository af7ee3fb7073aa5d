import MpcKit.Encoding.Bytes
import MpcKit.Sign.World

/-! `features/presigns/service.ts`, await by await. -/

namespace MpcKit.Sign
open MpcKit.Backend MpcKit.Async
open Program (fold rescue unwrap)

abbrev Prog := Program Op Res Thrown

abbrev perform (op : Op) : Prog (Res op) := Program.perform op

/-- `features/billing` prices and the batch size, from the environment. -/
structure Config where
  signPriceMicro : Nat
  presignBatchSize : Nat

def getIkaClient (network : String) : Prog ObjectId := do unwrap (← perform (.chain (.getIkaClient network)))

/-! ### Allocation -/

def allocate (args : AllocateArgs) : Prog (Option Presign) := do
  match ← perform (.presign (.claim args)) with
  | none => return none
  | some id => perform (.presign (.select id))

def markConsumedPending (presignId : Uuid) : Prog Unit := perform (.presign (.markConsumedPending presignId))

def markUsed (presignId : Uuid) : Prog Unit := perform (.presign (.markUsed presignId))

def rollbackToReady (presignId : Uuid) : Prog Unit := perform (.presign (.rollbackToReady presignId))

/-! ### Refill -/

structure RefillResult where
  minted : Nat
  txDigest : String

def refill (config : Config) (args : RefillArgs) : Prog RefillResult := do
  let count := min (args.count.getD config.presignBatchSize) config.presignBatchSize
  if count = 0 then return ⟨0, ""⟩
  else
    let _ ← getIkaClient args.network
    let networkEncryptionKeyId ← unwrap (← perform (.chain (.getLatestNetworkEncryptionKey args.network)))
    let (digest, capIds) ← unwrap (← perform (.chain (.executeMint args networkEncryptionKeyId count)))
    if capIds = [] then
      throw (.app (errors.internal "presign refill: no UnverifiedPresignCap objects in effects" "PRESIGN_REFILL_NO_CAPS"))
    else
      unwrap (← perform (.presign (.insertMinted (capIds.map (fun suiObjectId => {
        suiObjectId := suiObjectId, network := args.network, curve := args.curve,
        signatureAlgorithm := args.signatureAlgorithm, networkEncryptionKeyId := networkEncryptionKeyId,
        requestTxDigest := some digest })))))
      return ⟨capIds.length, digest⟩

/-- The on-chain cap's `presign_id`, the session id. -/
def resolveSessionId (network : String) (capObjectId : ObjectId) : Prog String := do
  match ← unwrap (← perform (.chain (.getObject network capObjectId))) with
  | none => throw (.other "Error" s!"could not fetch cap {capObjectId}")
  | some none => throw (.other "Error" s!"cap {capObjectId} has no presign_id field")
  | some (some sessionId) => return sessionId

/-- One iteration of `promotePending`: whatever it throws is logged and swallowed. -/
def promoteOne (promoted : Nat) (row : Presign) : Prog Nat :=
  rescue (do
      let _ ← getIkaClient row.network
      let sessionId ← resolveSessionId row.network row.suiObjectId
      let _ ← unwrap (← perform (.chain (.getPresign row.network sessionId)))
      perform (.presign (.promote row.id))
      return promoted + 1)
    (fun _ => return promoted)

def promotePending : Prog Nat := do
  let pending ← perform (.presign .selectPending)
  fold promoteOne 0 pending

/-! ### Discovery -/

def discoverPageSize : Nat := 50

structure DiscoverResult where
  scanned : Nat
  alreadyTracked : Nat
  inserted : Nat
  failed : Nat
  deriving DecidableEq

/-- Pages of the operator wallet; `pages` bounds how many the listing has. -/
def listCaps (network : String) : Nat → Option String → List ObjectId → Prog (List ObjectId)
  | 0, _, capIds => return capIds
  | pages + 1, cursor, capIds => do
      let page ← unwrap (← perform (.chain (.listOwnedObjects network cursor)))
      let capIds := capIds ++ (page.objects.filter (fun object =>
        includes object.type unverifiedPresignCapType)).map OwnedObject.objectId
      if ¬page.hasNextPage then return capIds
      else match page.cursor.filter (· ≠ "") with
        | none => return capIds
        | some next => listCaps network pages (some next) capIds

/-- `batch = items.slice(i, i + size)` for `i` in steps of `size`. -/
def batches {α : Type} (size : Nat) (items : List α) : List (List α) :=
  (List.range ((items.length + size - 1) / size)).map (fun index => (items.drop (index * size)).take size)

/-- The `presign_id` of each cap of a batch, with `none` for a cap that was added to `failedCapIds`. -/
def fetchCapBatch (network : String) (known : List (ObjectId × Option String)) (batch : List ObjectId) :
    Prog (List (ObjectId × Option String)) :=
  rescue (do
      let objects ← unwrap (← perform (.chain (.getCaps network batch)))
      return known ++ batch.zipIdx.map (fun (capId, index) => (capId, (objects.getD index none).join.filter (· ≠ ""))))
    (fun _ => return known ++ batch.map (fun capId => (capId, none)))

/-- `Map.set`: a known key keeps its place. -/
def mapSet {κ ν : Type} [DecidableEq κ] (entries : List (κ × ν)) (key : κ) (value : ν) : List (κ × ν) :=
  if entries.any (fun entry => entry.1 = key) then
    entries.map (fun entry => if entry.1 = key then (key, value) else entry)
  else entries ++ [(key, value)]

def capPresignId (caps : List (ObjectId × Option String)) : List (ObjectId × String) :=
  caps.foldl (fun known entry => match entry.2 with
    | some presignId => mapSet known entry.1 presignId
    | none => known) []

/-- `curve` and `signature_algorithm` of each session of a batch that could be read. -/
def fetchSessionBatch (network : String) (known : List (String × Nat × Nat)) (batch : List String) :
    Prog (List (String × Nat × Nat)) :=
  rescue (do
      let objects ← unwrap (← perform (.chain (.getSessions network batch)))
      return known ++ batch.zipIdx.filterMap (fun (sessionId, index) =>
        match objects.getD index none with
        | some ⟨some curve, some signatureAlgorithm⟩ => some (sessionId, curve, signatureAlgorithm)
        | _ => none))
    (fun _ => return known)

/-- ULEB128 length and the bytes. -/
def encodeVectorU8 (bytes : Bytes) : Bytes := Encoding.uleb128 bytes.length ++ bytes

def toHexAddress (bcs : Bytes) : String := "0x" ++ toHex bcs

/-- `new TextEncoder().encode("dwallet_network_encryption_key_id")`. -/
def nekDynamicFieldName : Bytes :=
  "dwallet_network_encryption_key_id".toList.map (fun char => UInt8.ofNat char.toNat)

def readNekFromDynamicField (network presignId : String) : Prog ObjectId := do
  match ← unwrap (← perform (.chain (.getDynamicField network presignId (encodeVectorU8 nekDynamicFieldName)))) with
  | none => throw (.other "Error" s!"dynamic field empty for presign {presignId}")
  | some bcs =>
    if bcs = [] then throw (.other "Error" s!"dynamic field empty for presign {presignId}")
    else return toHexAddress bcs

/-- The loop body of `discover`: one bad cap never sinks the whole sweep. -/
def discoverOne (network : String) (caps : List (ObjectId × Option String)) (sessions : List (String × Nat × Nat))
    (state : DiscoverResult) (capId : ObjectId) : Prog DiscoverResult :=
  if (capId, none) ∈ caps then return { state with failed := state.failed + 1 }
  else
    rescue (do
        match (capPresignId caps).find? (fun entry => entry.1 = capId) with
        | none => throw (.other "Error" s!"cap {capId} has no presign_id")
        | some (_, presignId) =>
          match sessions.find? (fun entry => entry.1 = presignId) with
          | none => throw (.other "Error" s!"presign session {presignId} content missing curve/signature_algorithm")
          | some (_, curve, signatureAlgorithm) =>
            let networkEncryptionKeyId ← readNekFromDynamicField network presignId
            let fresh ← perform (.presign (.insertDiscovered {
              suiObjectId := capId, network := network, curve := curve, signatureAlgorithm := signatureAlgorithm,
              networkEncryptionKeyId := networkEncryptionKeyId, requestTxDigest := none }))
            if fresh then return { state with inserted := state.inserted + 1 }
            else return { state with alreadyTracked := state.alreadyTracked + 1 })
      (fun _ => return { state with failed := state.failed + 1 })

def discover (network : String) (pages : Nat) : Prog DiscoverResult := do
  let capIds ← listCaps network pages none []
  let scanned := capIds.length
  let tracked ← if scanned = 0 then pure [] else perform (.presign (.selectTracked network))
  let untrackedCapIds := capIds.filter (fun capId => capId ∉ tracked)
  let alreadyTracked := scanned - untrackedCapIds.length
  if untrackedCapIds = [] then return ⟨scanned, alreadyTracked, 0, 0⟩
  else
    let caps ← fold (fetchCapBatch network) [] (batches discoverPageSize untrackedCapIds)
    let presignIds := ((capPresignId caps).map Prod.snd).eraseDups
    let sessions ← fold (fetchSessionBatch network) [] (batches discoverPageSize presignIds)
    fold (discoverOne network caps sessions) ⟨scanned, alreadyTracked, 0, 0⟩ untrackedCapIds

/-! ### Sweep -/

/-- `new Date(Date.now() - olderThanSec * 1000)`. -/
def cutoffAt (now : Time) (olderThanSec : Nat) : Int := now - olderThanSec * 1000

structure SweepResult where
  rescued : Nat
  failed : Nat

def sweepExpired (olderThanSec : Nat) : Prog SweepResult := do
  let cutoff := cutoffAt (← perform .now) olderThanSec
  let rescued ← perform (.presign (.rescueExpired cutoff))
  let failed ← perform (.presign (.parkExpired cutoff))
  return ⟨rescued, failed⟩

end MpcKit.Sign
