import MpcKit.Executor.MoveCalls
import MpcKit.Sign.Signatures

/-! The chain that the sign service is proved against is what the package gives: sign blocks and presign
batches that land on the network do to its caps what the service's own account of them says. -/

namespace MpcKit.Sign
open MpcKit.Backend MpcKit.Transact MpcKit.Executor
open MpcKit.Core (ID Address Coordinator Natives Network OwnedCap Entry Deployment Tx Receipt)

variable {c : Coordinator} {natives : Natives}

/-! ### What an entry does to the caps -/

def CapsMoved (before : List (OwnedCap c)) (tx : Tx) (after : List (OwnedCap c)) : Entry → Prop
  | .payPresign _ _ _ _ _ recipient => ∃ cap, after = ⟨tx.wrapperId, recipient, cap⟩ :: before
  | .paySignZeroTrust _ _ id _ => (∃ owned ∈ before, owned.id = id ∧ owned.owner = tx.ctx.sender) ∧
      after = before.filter (fun other => other.id ≠ id)
  | _ => after = before

/-- A call that went through brought new ids, which have been handed out since. -/
structure Entered (network after : Network c) (tx : Tx) : Prop where
  offers : network.chain.Offers tx
  created : after.chain.created = tx.accountId :: tx.wrapperId :: network.chain.created

theorem entered_of_exec {network after : Network c} {tx : Tx} {call : Core.Call c} {receipt : Receipt c}
    (done : network.chain.exec natives (tx, call) = .ok (receipt, after.chain)) : Entered network after tx := by
  obtain ⟨offers, _, created⟩ := Core.exec_moved done
  exact ⟨offers, created⟩

theorem own_eq_ok {network : Network c} {sender : Address} {id : ID} {owned : OwnedCap c}
    (found : network.own sender id = .ok owned) : owned ∈ network.caps ∧ owned.id = id ∧ owned.owner = sender := by
  unfold Network.own at found
  cases search : network.caps.find? (fun owned => owned.id = id ∧ owned.owner = sender) with
  | none =>
    rw [search] at found
    cases found
  | some other =>
    rw [search] at found
    cases found
    have holds := List.find?_some search
    exact ⟨List.mem_of_find?_eq_some search, of_decide_eq_true holds⟩

theorem exec_entered {network after : Network c} {tx : Tx} {entry : Entry} {receipt : Receipt c}
    (done : network.exec natives (tx, entry) = .ok (receipt, after)) :
    Entered network after tx ∧ CapsMoved network.caps tx after.caps entry := by
  cases entry with
  | payRegisterAndDkgZeroTrust operator args =>
    simp only [Network.exec, Core.bind_eq_ok, Core.pure_eq_ok, Prod.mk.injEq, Prod.exists] at done
    obtain ⟨_, chain, ran, rfl, rfl⟩ := done
    exact ⟨entered_of_exec ran, rfl⟩
  | payDkgZeroTrust operator account args =>
    simp only [Network.exec, Core.bind_eq_ok, Core.pure_eq_ok, Prod.mk.injEq, Prod.exists] at done
    obtain ⟨_, chain, ran, rfl, rfl⟩ := done
    exact ⟨entered_of_exec ran, rfl⟩
  | acceptUserShare account dwalletId shareId signature =>
    simp only [Network.exec, Core.bind_eq_ok, Core.pure_eq_ok, Prod.mk.injEq, Prod.exists] at done
    obtain ⟨_, chain, ran, rfl, rfl⟩ := done
    exact ⟨entered_of_exec ran, rfl⟩
  | payPresign operator key curve algorithm session recipient =>
    simp only [Network.exec, Core.bind_eq_ok, Core.pure_eq_ok, Prod.mk.injEq, Prod.exists] at done
    obtain ⟨_, chain, ran, minted, _, rfl, rfl⟩ := done
    exact ⟨entered_of_exec ran, minted.value.1, rfl⟩
  | paySignZeroTrust operator account presignCap order =>
    simp only [Network.exec, Core.bind_eq_ok, Core.pure_eq_ok, Prod.mk.injEq, Prod.exists] at done
    obtain ⟨owned, found, _, chain, ran, rfl, rfl⟩ := done
    obtain ⟨among, same, owner⟩ := own_eq_ok found
    exact ⟨entered_of_exec ran, ⟨owned, among, same, owner⟩, rfl⟩

/-- No entry brings a cap but under its new id. -/
theorem CapsMoved.mem {before caps : List (OwnedCap c)} {tx : Tx} {entry : Entry} (moved : CapsMoved before tx caps entry) :
    ∀ owned ∈ caps, owned ∈ before ∨ owned.id = tx.wrapperId := by
  intro owned among
  cases entry with
  | payPresign operator key curve algorithm session recipient =>
    obtain ⟨cap, rfl⟩ := moved
    cases among with
    | head => exact .inr rfl
    | tail _ inside => exact .inl inside
  | paySignZeroTrust operator account presignCap order =>
    obtain ⟨_, rfl⟩ := moved
    exact .inl (List.mem_of_mem_filter among)
  | _ =>
    cases moved
    exact .inl among

/-! ### The relation -/

/-- Each cap has its own id, which was handed out when it was minted. -/
structure Minted (network : Network c) : Prop where
  nodup : (network.caps.map OwnedCap.id).Nodup
  created : ∀ owned ∈ network.caps, owned.id ∈ network.chain.created

theorem Minted.entered {network after : Network c} {tx : Tx} {entry : Entry} (minted : Minted network)
    (entered : Entered network after tx) (moved : CapsMoved network.caps tx after.caps entry) : Minted after := by
  have fresh : tx.wrapperId ∉ network.caps.map OwnedCap.id := by
    intro among
    obtain ⟨owned, inside, same⟩ := List.mem_map.mp among
    exact entered.offers.2.1 (same ▸ minted.created owned inside)
  have older : ∀ id, id ∈ network.chain.created → id ∈ after.chain.created := by
    intro id inside
    rw [entered.created]
    exact List.mem_cons_of_mem _ (List.mem_cons_of_mem _ inside)
  cases entry with
  | payPresign operator key curve algorithm session recipient =>
    obtain ⟨cap, same⟩ := moved
    constructor
    · rw [same, List.map_cons]
      exact List.nodup_cons.mpr ⟨fresh, minted.nodup⟩
    · intro owned among
      rw [same] at among
      cases among with
      | head =>
        rw [entered.created]
        exact List.mem_cons_of_mem _ List.mem_cons_self
      | tail _ inside => exact older owned.id (minted.created owned inside)
  | paySignZeroTrust operator account presignCap order =>
    obtain ⟨_, same⟩ := moved
    constructor
    · rw [same]
      exact minted.nodup.sublist ((List.filter_sublist).map OwnedCap.id)
    · intro owned among
      rw [same] at among
      exact older owned.id (minted.created owned (List.mem_of_mem_filter among))
  | _ =>
    have same : after.caps = network.caps := moved
    constructor
    · rw [same]
      exact minted.nodup
    · intro owned among
      rw [same] at among
      exact older owned.id (minted.created owned among)

/-- The backend's side of a network: where the package is, how blocks are built and who signs them. -/
structure Site where
  natives : Natives
  deployment : Deployment
  config : MoveConfig
  builder : Builder (Option ID) config.resolve
  signer : Address
  /-- An id as the network prints it; it is read back as the same id. -/
  text : ID → String
  address_text : ∀ id, config.address (text id) = .ok id

namespace Site

theorem text_injective (site : Site) : Function.Injective site.text := by
  intro id other same
  have read := site.address_text id
  rw [same, site.address_text other] at read
  cases read
  rfl

theorem resolve_text (site : Site) (id : ID) : site.config.resolve (site.text id) = some id := by
  rw [MoveConfig.resolve, site.address_text]
  rfl

end Site

/-- The service's account of the chain shows the caps of the signer, by the ids that are printed for
them, and remembers those that a sign block used up. -/
structure Shows (site : Site) (network : Network c) (chain : Chain) : Prop where
  minted : Minted network
  live : ∀ cap, cap ∈ chain.live ↔ ∃ owned ∈ network.caps, owned.owner = site.signer ∧ site.text owned.id = cap
  consumed : ∀ cap ∈ chain.consumed,
    ∃ id, site.text id = cap ∧ id ∈ network.chain.created ∧ id ∉ network.caps.map OwnedCap.id
  nodup : chain.consumed.Nodup

/-- What the service knows of a network on which nobody has minted for it. -/
theorem Shows.start (site : Site) {network : Network c} (none : network.caps = []) : Shows site network ⟨[], []⟩ := by
  refine ⟨⟨?_, ?_⟩, ?_, ?_, List.nodup_nil⟩
  · rw [none]
    exact List.nodup_nil
  · intro owned among
    rw [none] at among
    cases among
  · intro cap
    rw [none]
    simp
  · intro cap among
    cases among

/-! ### Steps -/

/-- `refill`'s batch. -/
def RefillArgs.batch (args : RefillArgs) (coordinatorId networkEncryptionKeyId : ObjectId) (recipient : String)
    (sessions : List Bytes) : PresignBatch where
  network := args.network
  coordinatorId := coordinatorId
  dwalletNetworkEncryptionKeyId := networkEncryptionKeyId
  curve := args.curve
  signatureAlgorithm := args.signatureAlgorithm
  count := sessions.length
  recipient := recipient
  sessionIdentifiers := sessions

/-- What happens on the network: the backend's two kinds of blocks on caps, calls of other senders to
the same functions, and any other call of the package. -/
inductive Act (c : Coordinator) where
  | sign (tx : SignZeroTrust)
  | mint (args : RefillArgs) (coordinatorId networkEncryptionKeyId : ObjectId) (recipient : String) (sessions : List Bytes)
  | elsewhere (input : Tx × Entry)
  | call (input : Tx × Core.Call c)

/-- The operation of the service that an act is. -/
def Act.op : Act c → Option ChainOp
  | .sign tx => some (.execute tx)
  | .mint args _ networkEncryptionKeyId _ sessions => some (.executeMint args networkEncryptionKeyId sessions.length)
  | .elsewhere _ => none
  | .call _ => none

/-- The cap that a sign block takes when it lands. -/
def Act.uses (env : Env) : Act c → Option ObjectId
  | .sign tx => if env.outcome.lands then some tx.presignCapId else none
  | _ => none

def Act.chain (act : Act c) (env : Env) (chain : Chain) : Option Chain :=
  match act.op with
  | some op => (op.exec env chain).map Prod.snd
  | none => some chain

/-- Caps go to the signer only in its own batches. -/
def Aside (site : Site) : Entry → Prop
  | .payPresign _ _ _ _ _ recipient => recipient ≠ site.signer
  | _ => True

/-- The block of a request, sent by the signer, goes through. -/
structure Sent (site : Site) (network : Network c) (request : Request) (txs : List Tx) (after : Network c) : Prop where
  placed : request.Placed site.config site.deployment
  senders : ∀ tx ∈ txs, tx.ctx.sender = site.signer
  ran : ∃ block receipts, request.build site.config site.builder site.builder.empty = .ok ((), block) ∧
    network.run site.natives site.deployment txs (site.builder.meaning block) = .ok (receipts, after)

inductive Step (site : Site) : Network c → Act c → Env → Network c → Prop where
  | sign {network after : Network c} {tx : SignZeroTrust} {txs : List Tx} {env : Env}
      (sent : Sent site network (.signZeroTrust tx) txs after)
      (named : ∀ id, site.config.resolve tx.presignCapId = some id → tx.presignCapId = site.text id)
      (lands : env.outcome.lands = true) : Step site network (.sign tx) env after
  | mint {network after : Network c} {args : RefillArgs} {coordinatorId key : ObjectId} {recipient : String}
      {sessions : List Bytes} {txs : List Tx} {env : Env}
      (sent : Sent site network (.presignBatch (args.batch coordinatorId key recipient sessions)) txs after)
      (own : site.config.address recipient = .ok site.signer)
      (reported : env.caps.Perm (txs.map (fun tx => site.text tx.wrapperId)))
      (lands : env.outcome.lands = true) : Step site network (.mint args coordinatorId key recipient sessions) env after
  /-- The block was never sent, or aborted. -/
  | lost {network : Network c} {act : Act c} {env : Env} (asked : act.op ≠ none) (caps : env.caps = [])
      (lands : env.outcome.lands = false) : Step site network act env network
  | elsewhere {network after : Network c} {input : Tx × Entry} {receipt : Receipt c} {env : Env}
      (ran : network.exec site.natives input = .ok (receipt, after)) (other : input.1.ctx.sender ≠ site.signer)
      (aside : Aside site input.2) : Step site network (.elsewhere input) env after
  | call {network : Network c} {chain : Core.Chain c} {input : Tx × Core.Call c} {receipt : Receipt c} {env : Env}
      (ran : network.chain.exec site.natives input = .ok (receipt, chain)) :
      Step site network (.call input) env { network with chain }

/-! ### What a block that was sent consists of -/

theorem sent_entries {site : Site} {network after : Network c} {request : Request} {txs : List Tx}
    (sent : Sent site network request txs after) : ∃ entries receipts, request.order site.config = .ok (some entries) ∧
      txs.length = entries.length ∧ all (Network.exec site.natives) network (txs.zip entries) = .ok (receipts, after) := by
  obtain ⟨block, receipts, built, ran⟩ := sent.ran
  obtain ⟨throws, reads⟩ := build_reads site.builder sent.placed
  cases ordered : request.order site.config with
  | error thrown =>
    rw [throws thrown ordered] at built
    cases built
  | ok asked =>
    obtain ⟨block', built', same⟩ := reads asked ordered
    rw [built] at built'
    cases built'
    rw [Network.run, same] at ran
    cases asked with
    | none => cases ran
    | some entries =>
      by_cases count : txs.length = entries.length
      · simp only [if_pos count] at ran
        exact ⟨entries, receipts, rfl, count, ran⟩
      · simp only [if_neg count] at ran
        cases ran

theorem bind_eq_ok {α β : Type} {first : Except Thrown α} {next : α → Except Thrown β} {result : β} :
    (first >>= next) = .ok result ↔ ∃ value, first = .ok value ∧ next value = .ok result := by
  cases first with
  | error thrown => simp [bind, Except.bind]
  | ok value => simp [bind, Except.bind]

theorem sign_order {config : MoveConfig} {tx : SignZeroTrust} {entries : List Entry}
    (ordered : Request.order config (.signZeroTrust tx) = .ok (some entries)) :
    ∃ operator account cap order, entries = [.paySignZeroTrust operator account cap order] ∧
      config.resolve tx.presignCapId = some cap := by
  simp only [Request.order, bind_eq_ok] at ordered
  obtain ⟨_, _, _, _, operator, _, order, _, named⟩ := ordered
  have named : (do return [Entry.paySignZeroTrust (← config.resolve operator) (← config.resolve tx.accountId)
      (← config.resolve tx.presignCapId) order]) = some entries := Except.ok.inj named
  simp only [Option.bind_eq_bind, Option.bind_eq_some_iff, Option.pure_def, Option.some.injEq] at named
  obtain ⟨operator, _, account, _, cap, found, rfl⟩ := named
  exact ⟨operator, account, cap, order, rfl, found⟩

/-- An entry that mints a cap for the recipient. -/
def MintsFor (recipient : Address) : Entry → Prop
  | .payPresign _ _ _ _ _ given => given = recipient
  | _ => False

theorem presigns_mint {config : MoveConfig} {input : PresignBatch} {recipient : Address} {operator : Option ID}
    (read : config.address input.recipient = .ok recipient) {sessions : List Bytes} {orders : List (Option Entry)}
    {entries : List Entry} (ordered : sessions.mapM (Request.presignOrder config input operator) = .ok orders)
    (named : orders.mapM id = some entries) : ∀ entry ∈ entries, MintsFor recipient entry := by
  induction sessions generalizing orders entries with
  | nil =>
    cases ordered
    cases named
    intro entry among
    cases among
  | cons session sessions ih =>
    simp only [List.mapM_cons, bind_eq_ok] at ordered
    obtain ⟨first, one, rest, others, same⟩ := ordered
    cases same
    simp only [List.mapM_cons, Option.bind_eq_bind, Option.bind_eq_some_iff, Option.pure_def, Option.some.injEq, id] at named
    obtain ⟨head, here, tail, there, rfl⟩ := named
    simp only [Request.presignOrder, bind_eq_ok, read] at one
    obtain ⟨key, _, curve, _, algorithm, _, given, same, made⟩ := one
    cases same
    cases made
    obtain ⟨operator, _, rfl⟩ := Option.map_eq_some_iff.mp here
    intro entry among
    cases among with
    | head => rfl
    | tail _ later => exact ih others there entry later

theorem batch_order {config : MoveConfig} {input : PresignBatch} {recipient : Address} {entries : List Entry}
    (read : config.address input.recipient = .ok recipient)
    (ordered : Request.order config (.presignBatch input) = .ok (some entries)) :
    ∀ entry ∈ entries, MintsFor recipient entry := by
  simp only [Request.order, bind_eq_ok] at ordered
  obtain ⟨_, _, _, _, _, _, operator, _, orders, made, named⟩ := ordered
  exact presigns_mint read made (Except.ok.inj named)

/-! ### Each step -/

section
variable {site : Site} {network after : Network c} {chain : Chain}

theorem Shows.not_live (shows' : Shows site network chain) {id : ID} (fresh : id ∉ network.chain.created) :
    site.text id ∉ chain.live ∧ site.text id ∉ chain.consumed := by
  constructor
  · intro among
    obtain ⟨owned, inside, _, same⟩ := (shows'.live _).mp among
    exact fresh (site.text_injective same ▸ shows'.minted.created owned inside)
  · intro among
    obtain ⟨other, same, created, _⟩ := shows'.consumed _ among
    exact fresh (site.text_injective same ▸ created)

/-- A cap that is used up does not come back. -/
theorem Shows.consumed_stays (shows' : Shows site network chain) {tx : Tx} {entry : Entry} (entered : Entered network after tx)
    (moved : CapsMoved network.caps tx after.caps entry) : ∀ cap ∈ chain.consumed,
      ∃ id, site.text id = cap ∧ id ∈ after.chain.created ∧ id ∉ after.caps.map OwnedCap.id := by
  intro cap among
  obtain ⟨id, same, created, gone⟩ := shows'.consumed cap among
  refine ⟨id, same, ?_, ?_⟩
  · rw [entered.created]
    exact List.mem_cons_of_mem _ (List.mem_cons_of_mem _ created)
  · intro inside
    obtain ⟨owned, held, rfl⟩ := List.mem_map.mp inside
    cases moved.mem owned held with
    | inl before => exact gone (List.mem_map_of_mem before)
    | inr new => exact entered.offers.2.1 (new ▸ created)

theorem Shows.sign (shows' : Shows site network chain) {tx : Tx} {operator account id : ID} {order : Core.SignOrder}
    {receipt : Receipt c}
    (ran : network.exec site.natives (tx, .paySignZeroTrust operator account id order) = .ok (receipt, after))
    (sender : tx.ctx.sender = site.signer) :
    site.text id ∈ chain.live ∧ Shows site after (chain.consume (site.text id)) := by
  obtain ⟨entered, moved⟩ := exec_entered ran
  have minted := shows'.minted.entered entered moved
  obtain ⟨⟨owned, inside, same, owner⟩, caps⟩ := moved
  have live : site.text id ∈ chain.live := (shows'.live _).mpr ⟨owned, inside, owner.trans sender, by rw [same]⟩
  refine ⟨live, minted, ?_, ?_, ?_⟩
  · intro cap
    simp only [Chain.consume, List.mem_filter, decide_eq_true_eq, shows'.live, caps, ne_eq]
    constructor
    · intro ⟨⟨other, held, owns, printed⟩, different⟩
      refine ⟨other, ⟨held, ?_⟩, owns, printed⟩
      intro equal
      exact different (by rw [← printed, equal])
    · intro ⟨other, ⟨held, different⟩, owns, printed⟩
      refine ⟨⟨other, held, owns, printed⟩, ?_⟩
      intro equal
      exact different (site.text_injective (printed.trans equal))
  · intro cap among
    cases among with
    | head =>
      refine ⟨id, rfl, ?_, ?_⟩
      · rw [entered.created]
        exact List.mem_cons_of_mem _ (List.mem_cons_of_mem _ (same ▸ shows'.minted.created owned inside))
      · intro inside
        obtain ⟨other, held, equal⟩ := List.mem_map.mp inside
        rw [caps, List.mem_filter] at held
        exact of_decide_eq_true held.2 equal
    | tail _ earlier =>
      have moved : CapsMoved network.caps tx after.caps (.paySignZeroTrust operator account id order) :=
        ⟨⟨owned, inside, same, owner⟩, caps⟩
      exact shows'.consumed_stays entered moved cap earlier
  · rw [Chain.consume, List.nodup_cons]
    refine ⟨?_, shows'.nodup⟩
    intro among
    obtain ⟨other, printed, _, gone⟩ := shows'.consumed _ among
    exact gone (site.text_injective printed ▸ same ▸ List.mem_map_of_mem inside)

/-- Two caps with one id are one. -/
theorem Minted.unique (minted : Minted network) {owned other : OwnedCap c} (inside : owned ∈ network.caps)
    (among : other ∈ network.caps) (same : owned.id = other.id) : owned = other :=
  List.inj_on_of_nodup_map minted.nodup inside among same

/-- What others do leaves the signer's caps alone. -/
theorem Shows.elsewhere (shows' : Shows site network chain) {input : Tx × Entry} {receipt : Receipt c}
    (ran : network.exec site.natives input = .ok (receipt, after)) (other : input.1.ctx.sender ≠ site.signer)
    (aside : Aside site input.2) : Shows site after chain := by
  obtain ⟨tx, entry⟩ := input
  obtain ⟨entered, moved⟩ := exec_entered ran
  refine ⟨shows'.minted.entered entered moved, ?_, shows'.consumed_stays entered moved, shows'.nodup⟩
  intro cap
  rw [shows'.live]
  cases entry with
  | payPresign operator key curve algorithm session recipient =>
    obtain ⟨new, same⟩ := moved
    rw [same]
    constructor
    · intro ⟨owned, held, owns, printed⟩
      exact ⟨owned, List.mem_cons_of_mem _ held, owns, printed⟩
    · intro either
      obtain ⟨owned, held, owns, printed⟩ := either
      cases held with
      | head => exact absurd owns aside
      | tail _ held => exact ⟨owned, held, owns, printed⟩
  | paySignZeroTrust operator account id order =>
    obtain ⟨⟨used, inside, same, owner⟩, caps⟩ := moved
    rw [caps]
    constructor
    · intro ⟨owned, held, owns, printed⟩
      refine ⟨owned, List.mem_filter.mpr ⟨held, ?_⟩, owns, printed⟩
      -- The cap that was used belongs to its sender.
      apply decide_eq_true
      intro equal
      have one := shows'.minted.unique held inside (equal.trans same.symm)
      exact other (by rw [← owner, ← one, owns])
    · intro ⟨owned, held, owns, printed⟩
      exact ⟨owned, List.mem_of_mem_filter held, owns, printed⟩
  | _ =>
    have same : after.caps = network.caps := moved
    rw [same]

theorem Shows.call (shows' : Shows site network chain) {next : Core.Chain c} {input : Tx × Core.Call c} {receipt : Receipt c}
    (ran : network.chain.exec site.natives input = .ok (receipt, next)) :
    Shows site { network with chain := next } chain := by
  obtain ⟨_, _, created⟩ := Core.exec_moved ran
  have older : ∀ id, id ∈ network.chain.created → id ∈ next.created := by
    intro id inside
    rw [created]
    exact List.mem_cons_of_mem _ (List.mem_cons_of_mem _ inside)
  refine ⟨⟨shows'.minted.nodup, ?_⟩, shows'.live, ?_, shows'.nodup⟩
  · intro owned among
    exact older owned.id (shows'.minted.created owned among)
  · intro cap among
    obtain ⟨id, same, inside, gone⟩ := shows'.consumed cap among
    exact ⟨id, same, older id inside, gone⟩

theorem Shows.mint (shows' : Shows site network chain) {tx : Tx} {entry : Entry} {receipt : Receipt c}
    (ran : network.exec site.natives (tx, entry) = .ok (receipt, after)) (mints : MintsFor site.signer entry) :
    Shows site after { chain with live := chain.live ++ [site.text tx.wrapperId] } := by
  obtain ⟨entered, moved⟩ := exec_entered ran
  refine ⟨shows'.minted.entered entered moved, ?_, shows'.consumed_stays entered moved, shows'.nodup⟩
  cases entry with
  | payPresign operator key curve algorithm session recipient =>
    cases mints
    obtain ⟨new, same⟩ := moved
    intro cap
    simp only [List.mem_append, shows'.live, same, List.mem_cons, List.not_mem_nil, or_false]
    constructor
    · intro either
      cases either with
      | inl held =>
        obtain ⟨owned, held, owns, printed⟩ := held
        exact ⟨owned, .inr held, owns, printed⟩
      | inr new => exact ⟨_, .inl rfl, rfl, new.symm⟩
    · intro either
      obtain ⟨owned, held, owns, printed⟩ := either
      cases held with
      | inl equal =>
        cases equal
        exact .inr printed.symm
      | inr held => exact .inl ⟨owned, held, owns, printed⟩
  | _ => cases mints

/-- A whole batch: the new caps are new to the service, and its account of the chain gains them. -/
theorem Shows.batch (shows' : Shows site network chain) {txs : List Tx} {entries : List Entry} {receipts : List (Receipt c)}
    (ran : all (Network.exec site.natives) network (txs.zip entries) = .ok (receipts, after))
    (count : txs.length = entries.length) (mint : ∀ entry ∈ entries, MintsFor site.signer entry) :
    (txs.map (fun tx => site.text tx.wrapperId)).Nodup ∧
    (∀ tx ∈ txs, site.text tx.wrapperId ∉ chain.live ∧ site.text tx.wrapperId ∉ chain.consumed) ∧
      Shows site after { chain with live := chain.live ++ txs.map (fun tx => site.text tx.wrapperId) } := by
  induction txs generalizing network chain entries receipts with
  | nil =>
    cases ran
    rw [List.map_nil, List.append_nil]
    refine ⟨List.nodup_nil, ?_, shows'⟩
    intro tx among
    cases among
  | cons tx txs ih =>
    cases entries with
    | nil => cases count
    | cons entry entries =>
      rw [List.zip_cons_cons, all] at ran
      cases first : network.exec site.natives (tx, entry) with
      | error abort =>
        rw [first] at ran
        cases ran
      | ok result =>
        obtain ⟨receipt, middle⟩ := result
        simp only [first] at ran
        cases rest : all (Network.exec site.natives) middle (txs.zip entries) with
        | error abort =>
          rw [rest] at ran
          cases ran
        | ok result =>
          obtain ⟨others, last⟩ := result
          rw [rest] at ran
          cases ran
          have fresh := shows'.not_live (exec_entered first).1.offers.2.1
          obtain ⟨nodup, news, shown⟩ := ih (shows'.mint first (mint entry List.mem_cons_self)) rest
            (Nat.succ.inj count) (fun other among => mint other (List.mem_cons_of_mem _ among))
          refine ⟨?_, ?_, ?_⟩
          · rw [List.map_cons, List.nodup_cons]
            refine ⟨?_, nodup⟩
            intro among
            obtain ⟨other, later, same⟩ := List.mem_map.mp among
            exact (news other later).1 (same ▸ List.mem_append_right _ List.mem_cons_self)
          · intro other among
            cases among with
            | head => exact fresh
            | tail _ later =>
              obtain ⟨live, consumed⟩ := news other later
              exact ⟨fun inside => live (List.mem_append_left _ inside), consumed⟩
          · rw [List.map_cons, ← List.singleton_append, ← List.append_assoc]
            exact shown

/-- The order in which caps are listed shows nothing. -/
theorem Shows.perm (shows' : Shows site network chain) {live : List ObjectId} (perm : live.Perm chain.live) :
    Shows site network { chain with live } := by
  refine ⟨shows'.minted, ?_, shows'.consumed, shows'.nodup⟩
  intro cap
  rw [← shows'.live, perm.mem_iff]

theorem chain_sign {env : Env} {tx : SignZeroTrust} (lands : env.outcome.lands = true) (live : tx.presignCapId ∈ chain.live) :
    (Act.sign tx : Act c).chain env chain = some (chain.consume tx.presignCapId) := by
  simp [Act.chain, Act.op, ChainOp.exec, lands, live]

theorem chain_mint {env : Env} {args : RefillArgs} {coordinatorId key : ObjectId} {recipient : String} {sessions : List Bytes}
    (lands : env.outcome.lands = true) (nodup : env.caps.Nodup)
    (news : ∀ cap ∈ env.caps, cap ∉ chain.live ∧ cap ∉ chain.consumed) :
    (Act.mint args coordinatorId key recipient sessions : Act c).chain env chain =
      some { chain with live := chain.live ++ env.caps } := by
  simp only [Act.chain, Act.op, ChainOp.exec, lands]
  rw [if_pos ⟨nodup, news⟩]
  rfl

theorem chain_lost {env : Env} {act : Act c} (caps : env.caps = []) (lands : env.outcome.lands = false) :
    act.chain env chain = some chain := by
  cases act with
  | sign tx => simp [Act.chain, Act.op, ChainOp.exec, lands]
  | mint args coordinatorId key recipient sessions => simp [Act.chain, Act.op, ChainOp.exec, lands, caps]
  | elsewhere input => rfl
  | call input => rfl

/-- What a step on the network does, the service's account of the chain does too. -/
theorem shows_step {act : Act c} {env : Env} (step : Step site network act env after) (shows' : Shows site network chain) :
    ∃ next, act.chain env chain = some next ∧ Shows site after next ∧
      next.consumed = (act.uses env).toList ++ chain.consumed := by
  cases step with
  | sign sent named lands =>
    obtain ⟨entries, receipts, ordered, count, ran⟩ := sent_entries sent
    obtain ⟨operator, account, cap, order, rfl, found⟩ := sign_order ordered
    obtain ⟨tx, rfl⟩ := List.length_eq_one_iff.mp count
    rw [List.zip_cons_cons, all] at ran
    cases first : network.exec site.natives (tx, .paySignZeroTrust operator account cap order) with
    | error abort =>
      rw [first] at ran
      cases ran
    | ok result =>
      obtain ⟨receipt, middle⟩ := result
      rw [first] at ran
      cases ran
      obtain ⟨live, shown⟩ := shows'.sign first (sent.senders tx List.mem_cons_self)
      rw [← named cap found] at live shown
      exact ⟨_, chain_sign lands live, shown, by simp [Act.uses, lands, Chain.consume]⟩
  | mint sent own reported lands =>
    obtain ⟨entries, receipts, ordered, count, ran⟩ := sent_entries sent
    obtain ⟨nodup, news, shown⟩ := shows'.batch ran count (batch_order own ordered)
    refine ⟨_, chain_mint lands (reported.nodup_iff.mpr nodup) ?_, ?_, rfl⟩
    · intro cap among
      obtain ⟨tx, sent, rfl⟩ := List.mem_map.mp (reported.mem_iff.mp among)
      exact news tx sent
    · exact shown.perm (reported.append_left chain.live)
  | lost asked caps lands =>
    refine ⟨chain, chain_lost caps lands, shows', ?_⟩
    cases act with
    | sign tx => simp [Act.uses, lands]
    | _ => rfl
  | elsewhere ran other aside => exact ⟨chain, rfl, shows'.elsewhere ran other aside, rfl⟩
  | call ran => exact ⟨chain, rfl, shows'.call ran, rfl⟩

end

/-! ### Runs -/

inductive Run (site : Site) : Network c → List (Act c × Env) → Network c → Prop where
  | nil {network : Network c} : Run site network [] network
  | cons {network middle after : Network c} {act : Act c} {env : Env} {acts : List (Act c × Env)}
      (step : Step site network act env middle) (rest : Run site middle acts after) : Run site network ((act, env) :: acts) after

/-- The service's account of the chain over a sequence of acts. -/
def account : Chain → List (Act c × Env) → Option Chain
  | chain, [] => some chain
  | chain, (act, env) :: acts => (act.chain env chain).bind (fun next => account next acts)

def used (acts : List (Act c × Env)) : List ObjectId := acts.filterMap (fun entry => entry.1.uses entry.2)

theorem consumed_of_run {site : Site} {network after : Network c} {acts : List (Act c × Env)} {chain : Chain}
    (run : Run site network acts after) (shows' : Shows site network chain) :
    ∃ next, account chain acts = some next ∧ Shows site after next ∧ next.consumed = (used acts).reverse ++ chain.consumed := by
  induction run generalizing chain with
  | nil => exact ⟨chain, rfl, shows', rfl⟩
  | @cons _ _ _ act env acts step rest ih =>
    obtain ⟨middle, went, shown, gone⟩ := shows_step step shows'
    obtain ⟨next, account', shown', gone'⟩ := ih shown
    refine ⟨next, ?_, shown', ?_⟩
    · rw [account, went, Option.bind_some, account']
    · have first : used ((act, env) :: acts) = (act.uses env).toList ++ used acts := by
        unfold used
        cases uses : act.uses env <;> simp [uses]
      have short : (act.uses env).toList.reverse = (act.uses env).toList := by
        cases act.uses env <;> rfl
      rw [gone', gone, first, List.reverse_append, short, List.append_assoc]

/-- Every run of the network is a run of the chain that the service is proved against, and no two sign
blocks that land use the same cap. -/
theorem chain_refined {site : Site} {network after : Network c} {acts : List (Act c × Env)} {chain : Chain}
    (run : Run site network acts after) (shows' : Shows site network chain) :
    ∃ next, account chain acts = some next ∧ Shows site after next ∧ (used acts).Nodup := by
  obtain ⟨next, went, shown, gone⟩ := consumed_of_run run shows'
  refine ⟨next, went, shown, ?_⟩
  have nodup := shown.nodup
  rw [gone] at nodup
  exact List.nodup_reverse.mp (List.nodup_append.mp nodup).1

/-! ### A cap that is minted and used -/

namespace sample
open MpcKit.Core.sample (address sender coordinator)
open MpcKit.Executor.sample (print)

theorem read_print (id : ID) : Executor.sample.read (print id) = .ok id := by
  obtain ⟨bytes, length⟩ := id
  have text : (print ⟨bytes, length⟩).toList = '0' :: 'x' :: bytes.flatMap hexPair := by
    rw [print, String.toList_append, toList_toHex]
    rfl
  rw [Executor.sample.read, text]
  simp only [List.drop_succ_cons, List.drop_zero, parseHex_hexPairs]
  rw [dif_pos length]

def site : Site where
  natives := Core.sample.natives
  deployment := Executor.sample.deployment
  config := Executor.sample.config
  builder := Executor.sample.builder
  signer := sender
  text := print
  address_text := read_print

def tx (accountId wrapperId : UInt8) : Tx := ⟨⟨sender⟩, address accountId, address wrapperId⟩

/-- The network after a request, and what it was if the block does not go through. -/
def run (network : Network coordinator) (request : Request) (txs : List Tx) :
    Except Core.Abort (List (Receipt coordinator) × Network coordinator) :=
  match request.build site.config site.builder site.builder.empty with
  | .ok (_, block) => network.run site.natives site.deployment txs (site.builder.meaning block)
  | .error _ => .error .noSuchTransaction

def after (network : Network coordinator) (request : Request) (txs : List Tx) : Network coordinator :=
  match run network request txs with
  | .ok (_, after) => after
  | .error _ => network

theorem sent {network : Network coordinator} {request : Request} {txs : List Tx} (goes : (run network request txs).isOk)
    (placed : request.Placed site.config site.deployment) (senders : ∀ tx ∈ txs, tx.ctx.sender = site.signer) :
    Sent site network request txs (after network request txs) := by
  refine ⟨placed, senders, ?_⟩
  unfold after
  unfold run at goes ⊢
  cases built : request.build site.config site.builder site.builder.empty with
  | error thrown =>
    rw [built] at goes
    cases goes
  | ok result =>
    obtain ⟨_, block⟩ := result
    simp only [built] at goes ⊢
    cases ran : network.run site.natives site.deployment txs (site.builder.meaning block) with
    | error abort =>
      rw [ran] at goes
      cases goes
    | ok result => exact ⟨block, result.1, rfl, ran⟩

/-- An account with a dwallet, on the network just published. -/
def registered : Network coordinator :=
  match Core.sample.genesis.exec site.natives
    (tx 20 21, .payRegisterAndDkgZeroTrust (address 9) ⟨address 40, 2, [], [], sender, [], [], [0]⟩) with
  | .ok (_, chain) => ⟨chain, []⟩
  | .error _ => ⟨Core.sample.genesis, []⟩

def refill : RefillArgs := ⟨"testnet", 2, 1, none⟩

def batch : PresignBatch := refill.batch (print (address 51)) (print (address 40)) (print sender) [[1], [2]]

def order : SignZeroTrust :=
  ⟨"testnet", print (address 20), print (address 51), print (address 100), print (address 23), 1, 0, [5], [6], [3]⟩

def minting : Env where
  now := 0
  locked := []
  rpc := .ok ()
  coordinatorId := print (address 51)
  objectError := false
  presignId := none
  presignBytes := none
  networkEncryptionKeyId := none
  outcome := .success
  digest := "mint"
  events := []
  signature := none
  caps := [print (address 25), print (address 23)]
  page := ⟨[], false, none⟩
  capBatch := []
  sessionBatch := []
  fieldValue := none

def signing : Env := { minting with digest := "sign", caps := [], outcome := .unknown "timeout" true }

def acts : List (Act coordinator × Env) :=
  [(.mint refill (print (address 51)) (print (address 40)) (print sender) [[1], [2]], minting), (.sign order, signing)]

def minted : Network coordinator := after registered (.presignBatch batch) [tx 22 23, tx 24 25]

def signed : Network coordinator := after minted (.signZeroTrust order) [tx 26 27]

theorem by_sender {first second : Tx} (one : first.ctx.sender = sender) (two : second.ctx.sender = sender) :
    ∀ tx ∈ [first, second], tx.ctx.sender = site.signer := by
  intro tx among
  simp only [List.mem_cons, List.not_mem_nil, or_false] at among
  cases among with
  | inl same => exact same ▸ one
  | inr same => exact same ▸ two

theorem ran : Run site registered acts signed := by
  have sentBatch : Sent site registered (.presignBatch batch) [tx 22 23, tx 24 25] minted :=
    sent (by decide +kernel) (Executor.sample.placed _ rfl (by decide +kernel)) (by_sender rfl rfl)
  have sentOrder : Sent site minted (.signZeroTrust order) [tx 26 27] signed :=
    sent (by decide +kernel) (Executor.sample.placed _ rfl (by decide +kernel)) (fun tx among => by
      cases List.mem_singleton.mp among
      rfl)
  have cap : site.config.resolve order.presignCapId = some (address 23) := site.resolve_text (address 23)
  apply Run.cons (Step.mint sentBatch (read_print sender) (by decide +kernel) rfl)
  apply Run.cons (Step.sign sentOrder ?_ rfl)
  · exact .nil
  · intro id found
    rw [cap] at found
    cases found
    rfl

end sample

/-- The answer of the sign block is lost, but its cap is gone. -/
theorem chain_refined_sample :
    ∃ next, account ⟨[], []⟩ sample.acts = some next ∧ Shows sample.site sample.signed next ∧ (used sample.acts).Nodup :=
  chain_refined sample.ran (Shows.start sample.site rfl)

end MpcKit.Sign
