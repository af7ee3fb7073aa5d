import Mathlib.Data.Set.Function
import MpcKit.Wallets.Books

/-! Whether a paid call leaves a charge exactly when it leaves an object on chain and a row for it. -/

namespace MpcKit.Wallets
open MpcKit.Backend MpcKit.Async
open MpcKit.Billing (Ledger OpKey BillingCharge)
open MpcKit.Sign (DWallet)

/-- The call was charged, and nothing was given back. -/
def Unrefunded (config : Config) (ledger : Ledger) (thread : WalletThread) : Prop :=
  ∃ args ∈ billed config thread.tag, ∃ opId ∈ (stage config thread).opId,
    (∃ row ∈ ledger.charges, row.op = opKey args opId ∧ row.kind = .charge) ∧
      ∀ row ∈ ledger.charges, row.op = opKey args opId → row.kind = .charge

/-- Charges that were not given back. -/
def kept (ledger : Ledger) : Set BillingCharge :=
  {charge | charge ∈ ledger.charges ∧ charge.kind = .charge ∧ ∀ row ∈ ledger.charges, row.op = charge.op → row.kind = .charge}

def storedRows (world : World) : Set (EncryptionKey ⊕ DWallet) :=
  {row | Sum.elim (fun key => key ∈ world.keys.rows) (fun dwallet => dwallet ∈ world.dwallets.rows) row}

/-- A call that has ended is charged exactly when its object exists with its row; once all have
ended, charges and rows correspond one to one. -/
structure AllOrNothing (config : Config) (system : WalletSystem) : Prop where
  each : ∀ index thread, system.calls index = some thread → thread.program.outcome.isSome = true →
    (Unrefunded config system.world.ledger thread ↔
      ∃ object, Owns system.world.chain index object ∧ IsStored system.world thread.tag object)
  paired : (∀ thread ∈ system.threads, thread.program.outcome.isSome = true) →
    ∃ row, Set.BijOn row (kept system.world.ledger) (storedRows system.world)

variable {config : Config}

/-! ### Each call that has ended -/

theorem Open.unrefunded {ledger : Ledger} {thread : WalletThread} {opId : Uuid} (open' : Open config ledger thread.tag opId)
    (stands : (stage config thread).opId = some opId) : Unrefunded config ledger thread := by
  obtain ⟨⟨args, paid, row, there, op, kind, _⟩, only⟩ := open'
  refine ⟨args, paid, opId, stands, ⟨row, there, op, kind⟩, fun other member own => ?_⟩
  exact only other member (congrArg OpKey.opId own)

/-- How a call that has ended stands: with a charge, an object and its row, or with none of them. -/
theorem Booked.ended {world : World} {calls : Nat → Option WalletThread} (booked : Booked config world calls) {index : Nat}
    {thread : WalletThread} (found : calls index = some thread) {result : Except Thrown Reply}
    (ends : Ended config (stage config thread) result) :
    (∃ opId move tx object, stage config thread = .stored opId move tx ∧ Open config world.ledger thread.tag opId ∧
      Sole world.chain index object ∧ IsStored world thread.tag object) ∨
    ¬Unrefunded config world.ledger thread ∧ ∀ object, Owns world.chain index object → ¬IsStored world thread.tag object := by
  have standing := booked.standing index thread found
  generalize stands : stage config thread = at_ at ends standing
  have uncharged : at_.opId = none → ¬Unrefunded config world.ledger thread := by
    rintro none ⟨_, _, opId, drawn, _⟩
    rw [stands, none] at drawn
    cases drawn
  cases at_ with
  | drawn opId =>
    refine .inr ⟨?_, fun object owned => absurd owned (standing.2 object)⟩
    rintro ⟨args, _, other, drawn, ⟨row, there, op, _⟩, _⟩
    rw [stands] at drawn
    cases drawn
    exact standing.1 row there (congrArg OpKey.opId op)
  | charged | failed => cases ends
  | repaid opId =>
    obtain ⟨⟨args, paid, row, there, op, kind⟩, unstored⟩ := standing
    refine .inr ⟨?_, unstored⟩
    rintro ⟨_, same, other, drawn, _, only⟩
    rw [stands] at drawn
    cases drawn
    rw [paid] at same
    cases same
    have charge := only row there op
    rw [kind] at charge
    cases charge
  | executed opId move tx =>
    cases result with
    | ok reply => cases ends
    | error error => exact absurd standing.2.1 ends
  | broken => cases standing
  | stored opId move tx =>
    obtain ⟨open', object, sole, stored⟩ := standing
    exact .inl ⟨opId, move, tx, object, rfl, open', sole, stored⟩
  | _ =>
    exact .inr ⟨uncharged rfl, fun object owned => absurd owned (standing object)⟩

theorem Booked.each {world : World} {calls : Nat → Option WalletThread} (booked : Booked config world calls) {index : Nat}
    {thread : WalletThread} (found : calls index = some thread) {result : Except Thrown Reply}
    (ends : Ended config (stage config thread) result) :
    Unrefunded config world.ledger thread ↔ ∃ object, Owns world.chain index object ∧ IsStored world thread.tag object := by
  rcases booked.ended found ends with ⟨opId, move, tx, object, stands, open', sole, stored⟩ | ⟨unpaid, unstored⟩
  · exact iff_of_true (open'.unrefunded (by rw [stands]; rfl)) ⟨object, sole.1, stored⟩
  · refine iff_of_false unpaid ?_
    rintro ⟨object, owned, stored⟩
    exact unstored object owned stored

/-! ### Charges and rows one to one -/

/-- The charge and the row of one call. -/
def Matches (config : Config) (world : World) (calls : Nat → Option WalletThread) (charge : BillingCharge)
    (row : EncryptionKey ⊕ DWallet) : Prop :=
  ∃ index thread args opId move tx object, calls index = some thread ∧ stage config thread = .stored opId move tx ∧
    billed config thread.tag = some args ∧ charge.op = opKey args opId ∧ Owns world.chain index object ∧
      Stored world thread.tag object row

theorem Stored.there {world : World} {call : Call} {object : ObjectId} {row : EncryptionKey ⊕ DWallet}
    (stored : Stored world call object row) : row ∈ storedRows world := by
  cases stored with
  | key args row there => exact there
  | dwallet args row there => exact there

/-- The object of a row. -/
theorem Stored.object {world : World} {call other : Call} {object another : ObjectId} {row : EncryptionKey ⊕ DWallet}
    (stored : Stored world call object row) (also : Stored world other another row) : object = another := by
  cases stored <;> cases also <;> rfl

/-- The row of an object. -/
theorem Booked.row {world : World} {calls : Nat → Option WalletThread} (booked : Booked config world calls) {call : Call}
    {object : ObjectId} {first second : EncryptionKey ⊕ DWallet} (stored : Stored world call object first)
    (also : Stored world call object second) : first = second := by
  cases stored with
  | key args row there =>
    generalize same : row.suiObjectId = named at also
    cases also with
    | key _ other member => rw [List.inj_on_of_nodup_map booked.uniqueKeys there member same]
  | dwallet args row there =>
    generalize same : row.suiDwalletId = named at also
    cases also with
    | dwallet _ other member => rw [List.inj_on_of_nodup_map booked.uniqueDwallets there member same]

/-- A relation that is total, onto, a function and one to one is a bijection. -/
theorem exists_bijOn {α β : Type} [Nonempty β] {s : Set α} {t : Set β} (relation : α → β → Prop)
    (total : ∀ a ∈ s, ∃ b ∈ t, relation a b) (onto : ∀ b ∈ t, ∃ a ∈ s, relation a b)
    (function : ∀ a b c, relation a b → relation a c → b = c)
    (oneToOne : ∀ a ∈ s, ∀ b ∈ s, ∀ c, relation a c → relation b c → a = b) : ∃ f, Set.BijOn f s t := by
  have chosen : ∀ a, ∃ b, a ∈ s → b ∈ t ∧ relation a b := by
    intro a
    by_cases member : a ∈ s
    · obtain ⟨b, there, related⟩ := total a member
      exact ⟨b, fun _ => ⟨there, related⟩⟩
    · exact ⟨Classical.arbitrary β, fun there => absurd there member⟩
  choose f related using chosen
  refine ⟨f, fun a member => (related a member).1, ?_, ?_⟩
  · intro a here b there same
    exact oneToOne a here b there (f a) (related a here).2 (same ▸ (related b there).2)
  · intro b there
    obtain ⟨a, member, pair⟩ := onto b there
    exact ⟨a, member, function a _ _ (related a member).2 pair⟩

instance : Nonempty (EncryptionKey ⊕ DWallet) := ⟨.inl ⟨0, 0, "", 0, "", "", ""⟩⟩

/-- When all calls are over, each has a charge with its object and row, or none of them. -/
theorem Booked.paired {world : World} {calls : Nat → Option WalletThread} (booked : Booked config world calls)
    (done : ∀ index thread, calls index = some thread → ∃ result, Ended config (stage config thread) result) :
    ∃ row, Set.BijOn row (kept world.ledger) (storedRows world) := by
  apply exists_bijOn (Matches config world calls)
  · rintro charge ⟨there, kind, only⟩
    obtain ⟨index, thread, args, opId, found, paid, drawn, op⟩ := booked.charges charge there
    have unrefunded : Unrefunded config world.ledger thread :=
      ⟨args, paid, opId, drawn, ⟨charge, there, op, kind⟩, fun row member own => only row member (own.trans op.symm)⟩
    obtain ⟨result, ends⟩ := done index thread found
    rcases booked.ended found ends with ⟨other, move, tx, object, stands, _, ⟨owned, _⟩, row, stored⟩ | ⟨unpaid, _⟩
    · rw [stands] at drawn
      cases drawn
      exact ⟨row, stored.there, index, thread, args, opId, move, tx, object, found, stands, paid, op, owned, stored⟩
    · exact absurd unrefunded unpaid
  · intro row there
    obtain ⟨index, thread, object, found, owned, stored⟩ : ∃ index thread object, calls index = some thread ∧
        Owns world.chain index object ∧ Stored world thread.tag object row := by
      cases row with
      | inl row =>
        obtain ⟨_, index, thread, args, found, tag, owned⟩ := booked.keys row there
        exact ⟨index, thread, _, found, owned, tag ▸ .key args row there⟩
      | inr row =>
        obtain ⟨_, index, thread, args, found, tag, owned⟩ := booked.dwallets row there
        exact ⟨index, thread, _, found, owned, tag ▸ .dwallet args row there⟩
    obtain ⟨result, ends⟩ := done index thread found
    rcases booked.ended found ends with ⟨opId, move, tx, _, stands, open', _, _⟩ | ⟨_, unstored⟩
    · obtain ⟨⟨args, paid, charge, member, op, kind, _⟩, only⟩ := open'
      refine ⟨charge, ⟨member, kind, fun other there same => ?_⟩, index, thread, args, opId, move, tx, object, found, stands,
        paid, op, owned, stored⟩
      exact only other there (congrArg OpKey.opId (same.trans op))
    · exact absurd ⟨row, stored⟩ (unstored object owned)
  · rintro charge first second ⟨index, thread, args, opId, move, tx, object, found, stands, _, op, owned, stored⟩
      ⟨other, rival, _, otherId, _, _, another, there, theirs, _, same, also, besides⟩
    obtain rfl : opId = otherId := congrArg OpKey.opId (op.symm.trans same)
    have mine : opId ∈ (stage config thread).opId := by
      rw [stands]
      rfl
    have shared : opId ∈ (stage config rival).opId := by
      rw [theirs]
      rfl
    obtain rfl := booked.apart index other thread rival found there opId mine shared
    rw [found] at there
    cases there
    obtain ⟨_, sole, alone, _⟩ : Standing config world index thread.tag (.stored opId move tx) :=
      stands ▸ booked.standing index thread found
    rw [alone.2 object owned] at stored
    rw [alone.2 another also] at besides
    exact booked.row stored besides
  · rintro charge ⟨here, kind, _⟩ rival ⟨there, same, _⟩ row
      ⟨index, thread, args, opId, _, _, object, found, stands, paid, op, owned, stored⟩
      ⟨other, second, _, _, _, _, another, again, theirs, alsoPaid, alsoOp, also, besides⟩
    obtain rfl := stored.object besides
    have equal : other = index := by
      by_contra different
      exact booked.foreign different also owned
    subst equal
    rw [found] at again
    cases again
    rw [stands] at theirs
    cases theirs
    rw [paid] at alsoPaid
    cases alsoPaid
    refine List.inj_on_of_nodup_map booked.books here there ?_
    rw [BillingCharge.key, BillingCharge.key, op, alsoOp, kind, same]

theorem ended_of_outcome {system : WalletSystem} (kept : Machine.Kept (ordered config) system) {index : Nat}
    {thread : WalletThread} (found : system.calls index = some thread) {result : Except Thrown Reply}
    (outcome : thread.program.outcome = some result) : Ended config (stage config thread) result :=
  (kept index thread found).of_outcome outcome

/-- As long as no step after a transaction that executed fails, and no refund fails, paid calls are
all or nothing. -/
theorem all_or_nothing (config : Config) (initial system : WalletSystem) (idle : initial.threads = [])
    (blank : Blank initial.world) (run : (machine config).Run (Smooth config) initial system) :
    AllOrNothing config system := by
  obtain ⟨kept, booked⟩ := booked_of_run idle blank run
  constructor
  · intro index thread found finished
    obtain ⟨result, outcome⟩ := Option.isSome_iff_exists.mp finished
    exact booked.each found (ended_of_outcome kept found outcome)
  · intro all
    refine booked.paired (fun index thread found => ?_)
    obtain ⟨result, outcome⟩ := Option.isSome_iff_exists.mp (all thread (List.mem_of_getElem? found))
    exact ⟨result, ended_of_outcome kept found outcome⟩

/-! ### Two equal registrations at once -/

/-- A user with enough credits, and nothing else. -/
def blankStart : WalletSystem where
  threads := []
  world := {
    keys := .empty _
    accounts := .empty _
    dwallets := .empty _
    ledger := ⟨[⟨1, 7, "testnet", 1000000, none⟩], [], []⟩
    chain := ⟨[], [], [], []⟩
    nextId := 10 }

def sampleRegister : RegisterEncryptionKeyArgs := ⟨7, "testnet", 0, [1], [2], [3]⟩

/-- A registration that executes and creates this object. -/
def registering (object : ObjectId) : Env := { calm with
  object := object
  executed := ⟨"digest", [⟨object, .created, none⟩], [], [(object, "0xika::coordinator::EncryptionKey")]⟩ }

def registeredOnce : List (Event Env Call) := .start (.register sampleRegister) :: steps 0 8 (registering "0xkey")

instance (config : Config) (ledger : Ledger) (thread : WalletThread) : Decidable (Unrefunded config ledger thread) := by
  unfold Unrefunded
  infer_instance

/-- The first call has returned, with a charge. -/
def Paid (config : Config) (system : WalletSystem) : Prop := ∃ thread ∈ system.calls 0,
  thread.program.outcome.isSome = true ∧ Unrefunded config system.world.ledger thread ∧ system.world.keys.rows ≠ []

instance (config : Config) (system : WalletSystem) : Decidable (Paid config system) := by
  unfold Paid
  infer_instance

theorem all_or_nothing_sample : ∃ system, (machine sampleConfig).Run (Smooth sampleConfig) blankStart system ∧
    Paid sampleConfig system ∧ AllOrNothing sampleConfig system := by
  obtain ⟨system, run, paid⟩ : ∃ system, (machine sampleConfig).Run (Smooth sampleConfig) blankStart system ∧
      Paid sampleConfig system := Machine.exists_run registeredOnce (by decide +kernel)
  exact ⟨system, run, paid, all_or_nothing sampleConfig blankStart system rfl ⟨rfl, rfl, rfl, rfl, rfl⟩ run⟩

/-- Two equal registrations; both look for the key before either has stored it. -/
def registeredTwice : List (Event Env Call) :=
  .start (.register sampleRegister) :: .start (.register sampleRegister) :: steps 0 1 calm ++ steps 1 1 calm ++
    steps 0 7 (registering "0xkey") ++ steps 1 7 (registering "0xtwin")

/-- The second call has ended with a charge, and what it created has no row. -/
def Overcharged (config : Config) (system : WalletSystem) : Prop := ∃ thread ∈ system.calls 1,
  thread.program.outcome.isSome = true ∧ Unrefunded config system.world.ledger thread ∧
    ∀ made ∈ system.world.chain.created, made.call = 1 →
      made.object ∉ system.world.keys.rows.map EncryptionKey.suiObjectId ∧
        made.object ∉ system.world.dwallets.rows.map DWallet.suiDwalletId

instance (config : Config) (system : WalletSystem) : Decidable (Overcharged config system) := by
  unfold Overcharged
  infer_instance

theorem Overcharged.not_allOrNothing {system : WalletSystem} (overcharged : Overcharged config system) :
    ¬AllOrNothing config system := by
  intro all
  obtain ⟨thread, found, ended, unrefunded, unstored⟩ := overcharged
  obtain ⟨object, owned, stored⟩ := (all.each 1 thread found ended).mp unrefunded
  obtain ⟨key, dwallet⟩ := unstored _ owned rfl
  rcases (isStored_iff _ _ _).mp stored with ⟨_, there⟩ | ⟨_, there⟩
  · exact key there
  · exact dwallet there

/-- The second of two equal registrations is charged, and its key has no row. -/
theorem not_all_or_nothing : ∃ system, (machine sampleConfig).Reaches blankStart system ∧
    ¬AllOrNothing sampleConfig system := by
  obtain ⟨system, reached, overcharged⟩ : ∃ system, (machine sampleConfig).Reaches blankStart system ∧
      Overcharged sampleConfig system := Machine.exists_reaches registeredTwice (by decide +kernel)
  exact ⟨system, reached, overcharged.not_allOrNothing⟩

end MpcKit.Wallets
