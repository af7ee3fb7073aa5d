import MpcKit.Async.Protocol
import MpcKit.Parameters.Service

/-! The id under which an entry is kept is read in one call to the network and its bytes are computed
in a later one. The two agree as long as the key that was read is still the latest when the bytes are
computed. -/

namespace MpcKit.Parameters
open MpcKit.Backend MpcKit.Async

variable (parameters : IkaNetwork → Curve → ObjectId → Bytes)

/-! ### Keys of the cache -/

def keyPrefix (network : IkaNetwork) (curve : Curve) : String := network.text ++ ":" ++ curve.text ++ ":"

theorem prefix_free (network other : IkaNetwork) (curve rival : Curve)
    (front : (keyPrefix network curve).toList <+: (keyPrefix other rival).toList) : network = other ∧ curve = rival := by
  revert front
  cases network <;> cases other <;> cases curve <;> cases rival <;> decide

theorem cacheKey_injective {network other : IkaNetwork} {curve rival : Curve} {id otherId : ObjectId}
    (same : cacheKey network curve id = cacheKey other rival otherId) :
    network = other ∧ curve = rival ∧ id = otherId := by
  have texts : (keyPrefix network curve).toList ++ id.toList = (keyPrefix other rival).toList ++ otherId.toList := by
    have lists := congrArg String.toList same
    simpa only [cacheKey, keyPrefix, String.toList_append, List.append_assoc] using lists
  have names : network = other ∧ curve = rival := by
    rcases List.prefix_or_prefix_of_prefix (List.prefix_append _ id.toList)
      (texts ▸ List.prefix_append _ otherId.toList) with front | front
    · exact prefix_free _ _ _ _ front
    · obtain ⟨networks, curves⟩ := prefix_free _ _ _ _ front
      exact ⟨networks.symm, curves.symm⟩
  obtain ⟨rfl, rfl⟩ := names
  exact ⟨rfl, rfl, String.toList_inj.mp (List.append_cancel_left texts)⟩

/-! ### What a call knows -/

/-- The key a call has read, and the bytes it has for it. -/
structure Session where
  label : Option NetworkEncryptionKey
  bytes : Option Bytes
  hit : Option ProtocolParamsEntry
  deriving DecidableEq, Repr

def Session.next (session : Session) : (op : Op) → op.Res → Session
  | .getLatestNetworkEncryptionKey _, .ok key => { session with label := some key, bytes := none }
  | .cacheGet _, found => { session with hit := found }
  | .getProtocolPublicParameters _ _, .ok bytes => { session with bytes := some bytes }
  | _, _ => session

/-- The call asks for the parameters of the curve. -/
def Task.Names (task : Task) (network : IkaNetwork) (curve : Curve) : Prop :=
  ∃ curveNum, task = .getProtocolParameters network curveNum ∧ curveFromNumber curveNum = .ok curve

/-- The entry a call makes out of what it has read. -/
structure Session.Makes (session : Session) (network : IkaNetwork) (curve : Curve) (entry : ProtocolParamsEntry) :
    Prop where
  curve : entry.curve = curve
  bytes : session.bytes = some entry.bytes
  labelled : ∃ label, session.label = some label ∧ entry.encryptionKeyId = label.id

def Session.Allowed (session : Session) (network : IkaNetwork) (curve : Curve) : Op → Prop
  | .cacheGet key => ∃ label, session.label = some label ∧ key = cacheKey network curve label.id
  | .getProtocolPublicParameters asked wanted => asked = network ∧ wanted = curve ∧ session.label.isSome
  | .cacheSet key entry => session.Makes network curve entry ∧ key = cacheKey network curve entry.encryptionKeyId
  | _ => True

def protocol (task : Task) : Protocol Op Op.Res Session where
  initial := ⟨none, none, none⟩
  next := Session.next
  Allowed session op := ∃ network curve, task.Names network curve ∧ session.Allowed network curve op
  answers _ _ := True

/-- What a call hands out is what it found, or what it made. -/
def Ended (task : Task) (session : Session) : Except Thrown (Option ProtocolParamsEntry) → Prop
  | .ok (some entry) => ∃ network curve, task.Names network curve ∧
      (session.hit = some entry ∨ session.Makes network curve entry)
  | _ => True

theorem getProtocolParameters_follows (network : IkaNetwork) (curveNum : Int) :
    (protocol (.getProtocolParameters network curveNum)).Follows (protocol (.getProtocolParameters network curveNum)).initial
      (getProtocolParameters network curveNum)
      (fun session result => ∀ entry, result = .ok entry →
        Ended (.getProtocolParameters network curveNum) session (.ok (some entry))) := by
  refine .unwrap (fun curve known => ?_) (fun error _ entry impossible => by cases impossible)
  have names : (Task.getProtocolParameters network curveNum).Names network curve := ⟨curveNum, rfl, known⟩
  refine .perform ⟨network, curve, names, trivial⟩ (fun connected _ => ?_)
  refine .unwrap (fun _ _ => ?_) (fun error _ entry impossible => by cases impossible)
  refine .perform ⟨network, curve, names, trivial⟩ (fun latest _ => ?_)
  refine .unwrap (fun netKey read => ?_) (fun error _ entry impossible => by cases impossible)
  rw [read]
  refine .perform ⟨network, curve, names, netKey, rfl, rfl⟩ (fun found _ => ?_)
  cases found with
  | some cached =>
    refine .ret (fun entry same => ?_)
    cases same
    exact ⟨network, curve, names, .inl rfl⟩
  | none =>
    refine .perform ⟨network, curve, names, rfl, rfl, rfl⟩ (fun computed _ => ?_)
    refine .unwrap (fun bytes value => ?_) (fun error _ entry impossible => by cases impossible)
    rw [value]
    refine .perform ⟨network, curve, names, trivial⟩ (fun loadedAt _ => ?_)
    have makes : Session.Makes ⟨some netKey, some bytes, none⟩ network curve
        ⟨bytes, curve, netKey.id, netKey.epoch, loadedAt⟩ := ⟨rfl, rfl, netKey, rfl, rfl⟩
    refine .perform ⟨network, curve, names, makes, rfl⟩ (fun _ _ => .ret (fun entry same => ?_))
    cases same
    exact ⟨network, curve, names, .inr makes⟩

theorem program_follows (task : Task) : (protocol task).Follows (protocol task).initial task.program (Ended task) := by
  cases task with
  | getProtocolParameters network curveNum =>
    refine (getProtocolParameters_follows network curveNum).bind (fun session entry ended => ?_) (fun _ _ _ => trivial)
    exact .ret (ended entry rfl)
  | reconfigure network key => exact .ret trivial

def contract (task : Task) : Contract Op Op.Res Thrown (Option ProtocolParamsEntry) :=
  (protocol task).contract (Ended task)

theorem honours : (machine parameters).Honours contract where
  programs task := (program_follows task).obeys
  answers _ _ := trivial

/-! ### The entries -/

/-- The entry's bytes are the parameters of what it is kept under and labelled with. -/
def Keyed (key : String) (entry : ProtocolParamsEntry) : Prop :=
  ∃ network, key = cacheKey network entry.curve entry.encryptionKeyId ∧
    entry.bytes = parameters network entry.curve entry.encryptionKeyId

/-- What a call has read and computed so far is true of its network and curve. -/
structure Session.Sound (session : Session) (network : IkaNetwork) (curve : Curve) : Prop where
  computed : ∀ bytes, session.bytes = some bytes →
    ∃ label, session.label = some label ∧ bytes = parameters network curve label.id
  found : ∀ entry, session.hit = some entry →
    entry.curve = curve ∧ entry.bytes = parameters network curve entry.encryptionKeyId

theorem Session.Makes.bytes_eq {session : Session} {network : IkaNetwork} {curve : Curve} {entry : ProtocolParamsEntry}
    (makes : session.Makes network curve entry) (sound : session.Sound parameters network curve) :
    entry.bytes = parameters network curve entry.encryptionKeyId := by
  obtain ⟨label, read, same⟩ := makes.labelled
  obtain ⟨other, reread, value⟩ := sound.computed entry.bytes makes.bytes
  cases read.symm.trans reread
  rw [value, same]

def session (history : History Op Op.Res) : Session :=
  (protocol (.reconfigure .testnet ⟨"", 0⟩)).state history

theorem state_eq (task : Task) (history : History Op Op.Res) : (protocol task).state history = session history := by
  induction history with
  | nil => rfl
  | cons entry history recurse => exact congrArg (fun before => Session.next before entry.1 entry.2) recurse

/-- The network whose parameters the operation computes. -/
def Op.computes : Op → Option IkaNetwork
  | .getProtocolPublicParameters network _ => some network
  | _ => none

/-- Bytes are computed under the key whose id the call has read: no reconfiguration came between. -/
def Current (system : ParamsSystem) : Event Env Task → Prop
  | .step index _ => ∀ op ∈ system.performs (.step index ⟨none, 0⟩ : Event Env Task), ∀ network ∈ op.computes,
      ∀ label ∈ (session (system.past index)).label, (system.world.latest network).id = label.id
  | _ => True

instance (system : ParamsSystem) (event : Event Env Task) : Decidable (Current system event) := by
  unfold Current
  induction event using Event.casesOn <;> infer_instance

/-- The cache is coherent, and every call is sound. -/
structure Coherent (world : World) (calls : Nat → Option ParamsThread) : Prop where
  kept : world.cache.All (Keyed parameters)
  sound : ∀ index thread, calls index = some thread → ∀ network curve, thread.tag.Names network curve →
    (session thread.history).Sound parameters network curve

theorem sound_start {network : IkaNetwork} {curve : Curve} :
    (session []).Sound parameters network curve where
  computed _ impossible := by cases impossible
  found _ impossible := by cases impossible

theorem Task.Names.unique {task : Task} {network other : IkaNetwork} {curve rival : Curve}
    (names : task.Names network curve) (again : task.Names other rival) : other = network ∧ rival = curve := by
  obtain ⟨curveNum, rfl, known⟩ := names
  obtain ⟨otherNum, same, reread⟩ := again
  cases same
  exact ⟨rfl, Except.ok.inj (reread.symm.trans known)⟩

theorem kept_exec {env : Env} {world after : World} {op : Op} {answer : op.Res} {network : IkaNetwork} {curve : Curve}
    {before : Session} (kept : world.cache.All (Keyed parameters)) (sound : before.Sound parameters network curve)
    (allowed : before.Allowed network curve op) (executed : exec parameters env world op = (answer, after)) :
    after.cache.All (Keyed parameters) := by
  cases op with
  | cacheGet key =>
    cases executed
    exact kept.get
  | cacheSet key entry =>
    cases executed
    obtain ⟨makes, rfl⟩ := allowed
    refine kept.set ⟨network, ?_, ?_⟩
    · rw [makes.curve]
    · rw [makes.curve]
      exact makes.bytes_eq parameters sound
  | getIkaClient asked => cases executed; exact kept
  | getLatestNetworkEncryptionKey asked => cases executed; exact kept
  | getProtocolPublicParameters asked wanted => cases executed; exact kept
  | now => cases executed; exact kept

theorem sound_exec {env : Env} {world after : World} {op : Op} {answer : op.Res} {network : IkaNetwork} {curve : Curve}
    {before : Session} (kept : world.cache.All (Keyed parameters)) (sound : before.Sound parameters network curve)
    (allowed : before.Allowed network curve op)
    (current : ∀ asked ∈ op.computes, ∀ label ∈ before.label, (world.latest asked).id = label.id)
    (executed : exec parameters env world op = (answer, after)) :
    (before.next op answer).Sound parameters network curve := by
  cases op with
  | getLatestNetworkEncryptionKey asked =>
    cases answer with
    | ok key => exact ⟨fun bytes impossible => (by cases impossible), sound.found⟩
    | error thrown => exact sound
  | cacheGet key =>
    obtain ⟨label, _, rfl⟩ := allowed
    cases executed
    refine ⟨sound.computed, fun entry found => ?_⟩
    obtain ⟨other, same, value⟩ := kept.hit found
    obtain ⟨rfl, rfl, _⟩ := cacheKey_injective same
    exact ⟨rfl, value⟩
  | getProtocolPublicParameters asked wanted =>
    obtain ⟨rfl, rfl, labelled⟩ := allowed
    obtain ⟨label, read⟩ := Option.isSome_iff_exists.mp labelled
    have latest := current asked rfl label read
    have answered : env.answer (parameters asked wanted (world.latest asked).id) = answer := congrArg Prod.fst executed
    unfold Env.answer at answered
    split at answered
    · cases answered
      exact sound
    · cases answered
      refine ⟨fun bytes computed => ⟨label, read, ?_⟩, sound.found⟩
      cases computed
      rw [latest]
  | getIkaClient asked => exact sound
  | now => exact sound
  | cacheSet key entry => exact sound

theorem coherent_move {system : ParamsSystem} {event : Event Env Task} {world : World}
    {calls : Nat → Option ParamsThread} (coherent : Coherent parameters system.world system.calls)
    (current : Current system event) (move : (machine parameters).Move contract system event world calls) :
    Coherent parameters world calls := by
  cases move with
  | start task world free entered path =>
    cases entered
    have closed : ∀ index tag (program : Prog (Option ProtocolParamsEntry)) world,
        (machine parameters).close index tag program world = world := by
      intro index tag program world
      unfold Machine.close
      split <;> rfl
    rw [closed]
    refine ⟨?_, fun other thread found network curve names => ?_⟩
    · cases task with
      | getProtocolParameters network curveNum => exact coherent.kept
      | reconfigure network key => exact coherent.kept
    · rcases Machine.calls_update found with ⟨_, rfl⟩ | ⟨_, earlier⟩
      · exact sound_start parameters
      · exact coherent.sound other thread earlier network curve names
  | step index env thread op answer rest after act =>
    have closed : (machine parameters).close index thread.tag rest after = after := by
      unfold Machine.close
      split <;> rfl
    rw [closed]
    obtain ⟨network, curve, names, allowed⟩ := act.before
    rw [state_eq] at allowed
    have sound := coherent.sound index thread act.found network curve names
    have executed : exec parameters env system.world op = (answer, after) := Option.some.inj act.executed
    refine ⟨kept_exec parameters coherent.kept sound allowed executed, fun other later found asked wanted again => ?_⟩
    rcases Machine.calls_update found with ⟨_, rfl⟩ | ⟨_, earlier⟩
    · obtain ⟨rfl, rfl⟩ := names.unique again
      refine sound_exec parameters coherent.kept sound allowed (fun reading member label read => ?_) executed
      have past := Machine.past_of_found act.found act.alive
      exact current op act.performs reading member label (by rw [past]; exact read)
    · exact coherent.sound other later earlier asked wanted again
  | cut index thread found running =>
    refine ⟨coherent.kept, fun other later here network curve names => ?_⟩
    rcases Machine.calls_update here with ⟨_, rfl⟩ | ⟨_, earlier⟩
    · exact coherent.sound index thread found network curve names
    · exact coherent.sound other later earlier network curve names

/-- As long as every call computes under the key it has read, each entry of the cache and each entry
handed out holds the parameters of the network, curve and key id it stands for. -/
theorem parameters_coherent {latest : IkaNetwork → NetworkEncryptionKey} {system : ParamsSystem}
    (run : (machine parameters).Run Current (initial latest) system) :
    (∀ key entry, (key, entry) ∈ system.world.cache.entries → Keyed parameters key entry) ∧
      ∀ thread ∈ system.threads, ∀ network curveNum entry, thread.tag = .getProtocolParameters network curveNum →
        thread.program.outcome = some (.ok (some entry)) → curveFromNumber curveNum = .ok entry.curve ∧
          entry.bytes = parameters network entry.curve entry.encryptionKeyId := by
  obtain ⟨kept, coherent⟩ := run.tracked (honours parameters) (Coherent parameters)
    (fun index thread found => by cases found)
    ⟨Lru.all_empty, fun index thread found => by cases found⟩
    (fun _ coherent current move => coherent_move parameters coherent current move)
  refine ⟨fun key entry member => coherent.kept (key, entry) member, fun thread member network curveNum entry tag ended => ?_⟩
  obtain ⟨index, found⟩ := List.mem_iff_getElem?.mp member
  obtain ⟨asked, curve, names, source⟩ := (kept index thread found).of_outcome ended
  obtain ⟨otherNum, same, known⟩ := names
  cases tag.symm.trans same
  rw [state_eq] at source
  have sound := coherent.sound index thread found network curve ⟨curveNum, tag, known⟩
  rcases source with hit | makes
  · obtain ⟨rfl, value⟩ := sound.found entry hit
    exact ⟨known, value⟩
  · have value := makes.bytes_eq parameters sound
    rw [← makes.curve] at known value
    exact ⟨known, value⟩

/-! ### A reconfiguration between the two calls -/

/-- Parameters that tell the key they belong to. -/
def keyedBytes (_ : IkaNetwork) (_ : Curve) (id : ObjectId) : Bytes :=
  id.toList.map (fun char => UInt8.ofNat char.toNat)

def oneKey (_ : IkaNetwork) : NetworkEncryptionKey := ⟨"a", 1⟩

/-- The network reconfigures between the two calls. -/
def twoCalls : List (Event Env Task) :=
  .start (.getProtocolParameters .mainnet 2) :: List.replicate 6 (.step 0 ⟨none, 5⟩) ++
    .start (.reconfigure .mainnet ⟨"b", 2⟩) ::
    .start (.getProtocolParameters .mainnet 2) :: List.replicate 6 (.step 2 ⟨none, 7⟩)

theorem parameters_coherent_sample :
    ∃ system, (machine keyedBytes).Run Current (initial oneKey) system ∧
      system.world.cache.entries = [(cacheKey .mainnet .ed25519 "b", ⟨[98], .ed25519, "b", 2, 7⟩),
        (cacheKey .mainnet .ed25519 "a", ⟨[97], .ed25519, "a", 1, 5⟩)] ∧
      (∀ key entry, (key, entry) ∈ system.world.cache.entries → Keyed keyedBytes key entry) ∧
      ∀ thread ∈ system.threads, ∀ network curveNum entry, thread.tag = .getProtocolParameters network curveNum →
        thread.program.outcome = some (.ok (some entry)) → curveFromNumber curveNum = .ok entry.curve ∧
          entry.bytes = keyedBytes network entry.curve entry.encryptionKeyId := by
  obtain ⟨system, run, entries⟩ : ∃ system, (machine keyedBytes).Run Current (initial oneKey) system ∧
      system.world.cache.entries = [(cacheKey .mainnet .ed25519 "b", ⟨[98], .ed25519, "b", 2, 7⟩),
        (cacheKey .mainnet .ed25519 "a", ⟨[97], .ed25519, "a", 1, 5⟩)] :=
    Machine.exists_run twoCalls (by decide +kernel)
  exact ⟨system, run, entries, parameters_coherent keyedBytes run⟩

/-- The network reconfigures after the cache was asked for the old key. -/
def reconfigured : List (Event Env Task) :=
  .start (.getProtocolParameters .mainnet 2) :: List.replicate 3 (.step 0 ⟨none, 5⟩) ++
    .start (.reconfigure .mainnet ⟨"b", 2⟩) :: List.replicate 3 (.step 0 ⟨none, 5⟩)

/-- The parameters of the new key are kept under the id of the old one. -/
theorem reconfiguration_poisons :
    ¬ ∀ system, (machine keyedBytes).Reaches (initial oneKey) system →
      ∀ key entry, (key, entry) ∈ system.world.cache.entries → Keyed keyedBytes key entry := by
  intro coherent
  obtain ⟨system, reached, entries⟩ : ∃ system, (machine keyedBytes).Reaches (initial oneKey) system ∧
      system.world.cache.entries = [(cacheKey .mainnet .ed25519 "a", ⟨[98], .ed25519, "a", 1, 5⟩)] :=
    Machine.exists_reaches reconfigured (by decide +kernel)
  obtain ⟨network, _, value⟩ := coherent system reached (cacheKey .mainnet .ed25519 "a") ⟨[98], .ed25519, "a", 1, 5⟩
    (by rw [entries]; exact List.mem_singleton_self _)
  cases value

end MpcKit.Parameters
