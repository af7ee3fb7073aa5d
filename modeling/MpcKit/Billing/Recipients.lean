import MpcKit.Async.Alone
import MpcKit.Billing.Redeclared

/-! One transaction that pays several users. Each of them declares the digest once, one after the
other, while the feed quotes the same prices throughout. -/

namespace MpcKit.Billing
open MpcKit.Backend MpcKit.Async
open Program (fold rescue unwrap alone)

/-- What the feed quotes to an await. -/
def quoted (price : String → Nat × Nat) : Op → Nat × Nat
  | .creditsFor coinType _ => price coinType
  | _ => (0, 0)

/-- Nothing fails but a statement whose number is out of range, and the feed quotes `price`. -/
def serving (price : String → Nat × Nat) (op : Op) (store : Store) : Env :=
  ⟨decide (store.Overflows op), .ok (quoted price op), .ok .failed, .ok 0, .ok ()⟩

/-- One statement of a call that has the service to itself. -/
abbrev served (chain : Chain) (config : Config) (price : String → Nat × Nat) (index : Nat) (op : Op) (store : Store) :
    Option (Res op × Store) := (declarations chain config).exec index op (serving price op store) store

/-- A call with nobody else at work, from its first await to its end. -/
abbrev lone (chain : Chain) (config : Config) (price : String → Nat × Nat) (index : Nat) (declaration : Declaration)
    (store : Store) : Option (Except Thrown RecordDepositResult × Store) :=
  ((declarations chain config).program declaration).alone (served chain config price index) store

/-- The calls, numbered from `index`, each started when the one before has ended. -/
def declareAll (chain : Chain) (config : Config) (price : String → Nat × Nat) :
    Nat → List Declaration → Store → Option (List (Except Thrown RecordDepositResult) × Store)
  | _, [], store => some ([], store)
  | index, declaration :: declarations, store => (lone chain config price index declaration store).bind fun ended =>
      (declareAll chain config price (index + 1) declarations ended.2).map fun rest => (ended.1 :: rest.1, rest.2)

/-- What the coins are worth at the quoted prices. -/
def worth (price : String → Nat × Nat) (coins : List (String × Int)) : Int :=
  (coins.map (fun coin => (microUsdFromAtomic coin.2 (price coin.1).1 (price coin.1).2).1)).sum

/-- The credits of every coin are in range. -/
def Fitting (price : String → Nat × Nat) (coins : List (String × Int)) : Prop :=
  ∀ coin ∈ coins, FitsInt8 (microUsdFromAtomic coin.2 (price coin.1).1 (price coin.1).2).1

instance (price : String → Nat × Nat) (coins : List (String × Int)) : Decidable (Fitting price coins) :=
  inferInstanceAs (Decidable (∀ _ ∈ _, _))

/-- The credits of every row, their sum and the balance they make are in range. -/
structure Storable (price : String → Nat × Nat) (coins : List (String × Int)) (balance : Int) : Prop where
  rows : Fitting price coins
  total : FitsInt8 (worth price coins)
  balance : FitsInt8 (balance + worth price coins)

/-! ### A store with no open transaction -/

structure Quiet (config : Config) (store : Store) : Prop where
  registered : Registered config store
  unlocked : ∀ slot ∈ store.accounts, slot.lock = none
  charges : ∀ entry ∈ store.charges, entry.writer = none
  deposits : ∀ entry ∈ store.deposits, entry.writer = none

/-- The rows as they stand while transaction `index` is open, and after it has committed. -/
def Versioned.under {ρ : Type} (writer : Option Nat) (rows : List ρ) : List (Versioned ρ) :=
  rows.map (fun row => ⟨row, writer⟩)

section Rows

variable {ρ : Type} {index : Nat} {settled : List (Versioned ρ)}

theorem discard_settled (closed : ∀ entry ∈ settled, entry.writer = none) :
    Versioned.discard index settled = settled := by
  apply List.filter_eq_self.mpr
  intro entry member
  simp [closed entry member]

theorem pending_settled (closed : ∀ entry ∈ settled, entry.writer = none) : Versioned.pending index settled = [] := by
  rw [Versioned.pending, List.map_eq_nil_iff, List.filter_eq_nil_iff]
  intro entry member
  simp [closed entry member]

theorem settle_settled (closed : ∀ entry ∈ settled, entry.writer = none) :
    Versioned.settle index settled = settled := by
  rw [Versioned.settle, discard_settled closed, pending_settled closed]
  exact List.append_nil _

theorem discard_under (closed : ∀ entry ∈ settled, entry.writer = none) (rows : List ρ) :
    Versioned.discard index (settled ++ Versioned.under (some index) rows) = settled := by
  have own : (Versioned.under (some index) rows).filter (fun entry => entry.writer ≠ some index) = [] := by
    rw [List.filter_eq_nil_iff]
    intro entry member
    obtain ⟨row, _, rfl⟩ := List.mem_map.mp member
    simp
  rw [Versioned.discard, List.filter_append, own, List.append_nil]
  exact discard_settled closed

theorem settle_under (closed : ∀ entry ∈ settled, entry.writer = none) (rows : List ρ) :
    Versioned.settle index (settled ++ Versioned.under (some index) rows) = settled ++ Versioned.under none rows := by
  have own : (Versioned.under (some index) rows).filter (fun entry => entry.writer = some index) =
      Versioned.under (some index) rows := by
    rw [List.filter_eq_self]
    intro entry member
    obtain ⟨row, _, rfl⟩ := List.mem_map.mp member
    simp
  have pending : Versioned.pending index (settled ++ Versioned.under (some index) rows) = rows := by
    have none : Versioned.pending index settled = [] := pending_settled closed
    rw [Versioned.pending] at none ⊢
    rw [List.filter_append, List.map_append, none, own]
    simp [Versioned.under, Function.comp_def]
  rw [Versioned.settle, discard_under closed, pending]
  rfl

end Rows

/-! ### The parts of a call -/

section Parts

variable {chain : Chain} {config : Config} {price : String → Nat × Nat} {index : Nat} {store : Store}
variable {userId : Uuid} {network : String}

/-- Still quiet, with the same deposits and balances; an account may have been opened. -/
structure Prepared (config : Config) (store after : Store) : Prop where
  quiet : Quiet config after
  deposits : after.deposits = store.deposits
  balance : ∀ userId network, after.view.balance userId network = store.view.balance userId network

theorem Prepared.refl (quiet : Quiet config store) : Prepared config store store := ⟨quiet, rfl, fun _ _ => rfl⟩

theorem Prepared.trans {middle after : Store} (first : Prepared config store middle)
    (second : Prepared config middle after) : Prepared config store after where
  quiet := second.quiet
  deposits := second.deposits.trans first.deposits
  balance userId network := (second.balance userId network).trans (first.balance userId network)

theorem Quiet.opened (quiet : Quiet config store) (userId : Uuid) (network : String) :
    Prepared config store { store with
      accounts := store.accounts ++ [⟨⟨store.nextId, userId, network, 0, none⟩, none⟩]
      nextId := store.nextId + 1 } where
  quiet := {
    registered := quiet.registered.opened userId network
    unlocked := by
      intro slot member
      rcases List.mem_append.mp member with old | new
      · exact quiet.unlocked slot old
      · rw [List.mem_singleton.mp new]
    charges := quiet.charges
    deposits := quiet.deposits }
  deposits := rfl
  balance user net := by
    have books := (sameBooks_open store.view ⟨store.nextId, userId, network, 0, none⟩ rfl).balance user net
    simpa [Store.view, List.map_append] using books

theorem Quiet.addressed (quiet : Quiet config store) {id : Uuid} {address : String}
    (known : store.Knows id userId network) (derived : config.deriveDepositAddress userId network = .ok address) :
    Prepared config store { store with accounts := store.accounts.map (fun slot =>
      if slot.row.id = id then { slot with row := { slot.row with depositAddress := some address } } else slot) } where
  quiet := {
    registered := quiet.registered.addressed known derived
    unlocked := by
      intro slot member
      obtain ⟨old, there, rfl⟩ := List.mem_map.mp member
      have unlocked := quiet.unlocked old there
      split <;> exact unlocked
    charges := quiet.charges
    deposits := quiet.deposits }
  deposits := rfl
  balance user net := by
    have accounts : (store.accounts.map (fun slot : AccountSlot =>
        if slot.row.id = id then { slot with row := { slot.row with depositAddress := some address } } else slot)).map
        AccountSlot.row = (store.accounts.map AccountSlot.row).map (fun account =>
          if account.id = id then { account with depositAddress := some address } else account) := by
      rw [List.map_map, List.map_map]
      apply List.map_congr_left
      intro slot _
      simp only [Function.comp_apply]
      split <;> rfl
    simp only [Store.view, accounts]
    exact (sameBooks_map _ store.view (fun account => by split <;> exact ⟨rfl, rfl, rfl⟩)).balance user net

theorem getOrCreateAccount_alone (quiet : Quiet config store) (userId : Uuid) (network : String) :
    ∃ slot after, (getOrCreateAccount userId network).alone (served chain config price index) store =
        some (.ok slot.row, after) ∧ after.findSlot userId network = some slot ∧ Prepared config store after := by
  unfold getOrCreateAccount
  cases found : store.findSlot userId network with
  | some slot =>
    have performed : served chain config price index (.selectAccount userId network) store =
        some (some slot.row, store) := by
      simp only [served, declarations, exec, found, Option.map_some]
    refine ⟨slot, store, ?_, found, .refl quiet⟩
    rw [Program.bind_eq, Program.perform_bind, Program.await_alone performed]
    rfl
  | none =>
    have looked : served chain config price index (.selectAccount userId network) store = some (none, store) := by
      simp only [served, declarations, exec, found, Option.map_none]
    have created : served chain config price index (.insertAccount userId network) store =
        some (some ⟨store.nextId, userId, network, 0, none⟩, { store with
          accounts := store.accounts ++ [⟨⟨store.nextId, userId, network, 0, none⟩, none⟩]
          nextId := store.nextId + 1 }) := by
      simp only [served, declarations, exec, found]
    refine ⟨⟨⟨store.nextId, userId, network, 0, none⟩, none⟩, _, ?_, ?_, quiet.opened userId network⟩
    · rw [Program.bind_eq, Program.perform_bind, Program.await_alone looked]
      simp only [Program.bind_eq, Program.perform_bind]
      rw [Program.await_alone created]
      rfl
    · rw [Store.findSlot] at found ⊢
      rw [List.find?_append, found]
      simp [AccountSlot.Is]

theorem getOrCreateDepositAddress_alone (quiet : Quiet config store) (acceptedCoinTypes : List String) {recipient : String}
    (derives : config.deriveDepositAddress userId network = .ok recipient) :
    ∃ after, (getOrCreateDepositAddress (config.accepting acceptedCoinTypes) userId network).alone (served chain config price index) store =
        some (.ok recipient, after) ∧ Prepared config store after := by
  obtain ⟨slot, middle, returned, found, prepared⟩ :=
    @getOrCreateAccount_alone chain config price index store quiet userId network
  obtain ⟨own, member⟩ : slot.Is userId network ∧ slot ∈ middle.accounts :=
    ⟨by simpa using List.find?_some found, List.mem_of_find?_eq_some found⟩
  unfold getOrCreateDepositAddress
  rw [Program.bind_eq, Program.bind_alone returned]
  cases address : slot.row.depositAddress with
  | some known =>
    have derived := prepared.quiet.registered.derived slot member known (by rw [address]; rfl)
    rw [own.1, own.2, derives] at derived
    cases derived
    exact ⟨middle, rfl, prepared⟩
  | none =>
    have free : ∀ other ∈ middle.accounts, other.row.id = slot.row.id → other.Free index := by
      intro other there _ holder locked
      rw [prepared.quiet.unlocked other there] at locked
      cases locked
    have set : served chain config price index (.setDepositAddress slot.row.id recipient) middle =
        some ((), { middle with accounts := middle.accounts.map (fun other =>
          if other.row.id = slot.row.id then { other with row := { other.row with depositAddress := some recipient } }
          else other) }) := by
      simp only [served, declarations, exec]
      exact if_pos free
    refine ⟨_, ?_, prepared.trans (prepared.quiet.addressed ⟨slot, member, rfl, own⟩ derives)⟩
    have same : (config.accepting acceptedCoinTypes).deriveDepositAddress userId network = .ok recipient := derives
    simp only [same, unwrap, Program.bind_eq, Program.ret_bind, Program.perform_bind]
    rw [Program.await_alone set]
    rfl

theorem verifyDeposit_alone {digest sender recipient : String} {changes : List BalanceChange} (accepting : Config)
    (found : chain.find digest = some (network, .transaction none (some sender) changes))
    (pays : creditedSums accepting recipient changes ≠ []) :
    (verifyDeposit accepting network digest recipient).alone (served chain config price index) store =
      some (.ok ⟨digest, sender, creditedSums accepting recipient changes⟩, store) := by
  have fetched : served chain config price index (.getTransaction network digest) store =
      some (.ok (.transaction none (some sender) changes), store) := by
    simp only [served, declarations, exec, serving, Chain.inform, Chain.getTransaction, found, if_pos]
  unfold verifyDeposit
  rw [Program.bind_eq, Program.perform_bind, Program.await_alone fetched]
  simp only [unwrap, Program.bind_eq, Program.ret_bind, if_neg pays]
  rfl

theorem creditsFor_alone (coin : String × Int) :
    (creditsFor coin.1 coin.2).alone (served chain config price index) store =
      some (.ok (microUsdFromAtomic coin.2 (price coin.1).1 (price coin.1).2), store) := by
  rfl

theorem preTotal_alone (coins : List (String × Int)) (sum : Int) :
    (fold (fun sum coin => do
      let (credits, _) ← creditsFor coin.1 coin.2
      return sum + credits) sum coins).alone (served chain config price index) store =
      some (.ok (sum + worth price coins), store) := by
  induction coins generalizing sum with
  | nil => simp [fold, worth]
  | cons coin coins ih =>
    have body : (do
        let (credits, _) ← creditsFor coin.1 coin.2
        return sum + credits : Prog Int).alone (served chain config price index) store =
        some (.ok (sum + (microUsdFromAtomic coin.2 (price coin.1).1 (price coin.1).2).1), store) := by
      rw [Program.bind_eq, Program.bind_alone (creditsFor_alone coin)]
      rfl
    rw [fold, Program.bind_alone body, ih, worth, worth, List.map_cons, List.sum_cons, Int.add_assoc]

end Parts

/-! ### The deposit transaction -/

/-- `store` with the uncommitted rows of call `index`. -/
def Store.holding (store : Store) (index : Nat) (rows : List BillingDeposit) (nextId : Uuid) : Store :=
  { store with deposits := store.deposits ++ Versioned.under (some index) rows, nextId := nextId }

def Store.keys (store : Store) : List String := store.deposits.map (fun entry => entry.row.txDigest)

/-- The rows of `coins` can be inserted: their keys are new and differ from each other. -/
def Insertable (taken keys : List String) : Prop := keys.Nodup ∧ keys.Disjoint taken

theorem insertable_cons {taken keys : List String} {key : String} :
    Insertable taken (key :: keys) ↔ key ∉ taken ∧ Insertable (taken ++ [key]) keys := by
  simp only [Insertable, List.nodup_cons, List.disjoint_cons_left, List.disjoint_append_right, List.disjoint_singleton]
  tauto

theorem fitting_cons {price : String → Nat × Nat} {coin : String × Int} {coins : List (String × Int)} :
    Fitting price (coin :: coins) ↔
      FitsInt8 (microUsdFromAtomic coin.2 (price coin.1).1 (price coin.1).2).1 ∧ Fitting price coins :=
  List.forall_mem_cons

section Inserting

variable {chain : Chain} {config : Config} {price : String → Nat × Nat} {index : Nat} {store : Store}
variable {userId : Uuid} {network : String} {verified : VerifiedDeposit}

theorem keys_holding (rows : List BillingDeposit) (nextId : Uuid) :
    (store.holding index rows nextId).keys = store.keys ++ rows.map BillingDeposit.txDigest := by
  simp [Store.keys, Store.holding, Versioned.under, Function.comp_def]

/-- An insert that no other open transaction can delay. -/
theorem insertUnique_alone {ρ κ : Type} [DecidableEq κ] (key : ρ → κ) (row : ρ) {rows : List (Versioned ρ)}
    (mine : ∀ entry ∈ rows, entry.writer = none ∨ entry.writer = some index) :
    insertUnique key index row rows = some (if key row ∈ rows.map (fun entry => key entry.row)
      then .error uniqueViolation else .ok (rows ++ [⟨row, some index⟩])) := by
  unfold insertUnique
  cases found : rows.find? (fun other => key other.row = key row) with
  | none =>
    have free : key row ∉ rows.map (fun entry => key entry.row) := by
      intro taken
      obtain ⟨entry, member, same⟩ := List.mem_map.mp taken
      have different := List.find?_eq_none.mp found entry member
      exact different (by simpa using same)
    rw [if_neg free]
  | some other =>
    have member := List.mem_of_find?_eq_some found
    have same : key other.row = key row := by simpa using List.find?_some found
    rw [if_pos (List.mem_map.mpr ⟨other, member, same⟩)]
    rcases mine other member with committed | own
    · simp only [committed]
    · simp only [own, if_pos]

theorem insertDeposit_keys (quiet : Quiet config store) (rows : List BillingDeposit) (nextId : Uuid)
    (new : NewDeposit) :
    insertUnique BillingDeposit.txDigest index (new.row nextId) (store.holding index rows nextId).deposits =
      some (if new.txDigest ∈ store.keys ++ rows.map BillingDeposit.txDigest then .error uniqueViolation
        else .ok ((store.holding index rows nextId).deposits ++ [⟨new.row nextId, some index⟩])) := by
  have mine : ∀ entry ∈ (store.holding index rows nextId).deposits, entry.writer = none ∨ entry.writer = some index := by
    intro entry member
    rcases List.mem_append.mp member with settled | own
    · exact .inl (quiet.deposits entry settled)
    · obtain ⟨row, _, rfl⟩ := List.mem_map.mp own
      exact .inr rfl
  have keys : (store.holding index rows nextId).deposits.map (fun entry => entry.row.txDigest) =
      store.keys ++ rows.map BillingDeposit.txDigest := keys_holding rows nextId
  have inserted := insertUnique_alone BillingDeposit.txDigest (new.row nextId) mine
  rw [keys] at inserted
  exact inserted

theorem insertDeposit_alone (quiet : Quiet config store) (rows : List BillingDeposit) (nextId : Uuid) {new : NewDeposit}
    (fits : FitsInt8 new.creditsCredited) (free : new.txDigest ∉ store.keys ++ rows.map BillingDeposit.txDigest) :
    served chain config price index (.insertDeposit new) (store.holding index rows nextId) =
      some (.ok (new.row nextId), store.holding index (rows ++ [new.row nextId]) (nextId + 1)) := by
  have inRange : ¬decide ((store.holding index rows nextId).Overflows (.insertDeposit new)) = true :=
    fun out => of_decide_eq_true out fits
  have inserted := (@insertDeposit_keys config index store quiet rows nextId new).trans (congrArg some (if_neg free))
  refine (if_neg inRange).trans ((congrArg (Option.map _) inserted).trans ?_)
  simp only [Option.map_some, Store.holding, Versioned.under, List.map_append, List.map_singleton, List.append_assoc]

theorem insertDeposit_refused (quiet : Quiet config store) (rows : List BillingDeposit) (nextId : Uuid)
    {new : NewDeposit}
    (refused : FitsInt8 new.creditsCredited → new.txDigest ∈ store.keys ++ rows.map BillingDeposit.txDigest) :
    ∃ error, served chain config price index (.insertDeposit new) (store.holding index rows nextId) =
      some (.error error, store.holding index rows nextId) := by
  by_cases fits : FitsInt8 new.creditsCredited
  · have inRange : ¬decide ((store.holding index rows nextId).Overflows (.insertDeposit new)) = true :=
      fun out => of_decide_eq_true out fits
    have inserted := (@insertDeposit_keys config index store quiet rows nextId new).trans
      (congrArg some (if_pos (refused fits)))
    exact ⟨uniqueViolation, (if_neg inRange).trans (congrArg (Option.map _) inserted)⟩
  · exact ⟨driverError, if_pos (decide_eq_true fits)⟩

/-- The rows a lone call inserts, up to the first one that is refused. -/
theorem insertCoins_alone (quiet : Quiet config store) (coins : List (String × Int)) (rows : List BillingDeposit)
    (nextId : Uuid) (state : Int × Option BillingDeposit) :
    ∃ added later, ∃ result : Except Thrown (Int × Option BillingDeposit),
      (fold (insertCoin userId network verified) state coins).alone (served chain config price index)
        (store.holding index rows nextId) = some (result, store.holding index (rows ++ added) later) ∧
      nextId ≤ later ∧
      ((Fitting price coins ∧
            Insertable (store.keys ++ rows.map BillingDeposit.txDigest)
              (coins.map (fun coin => suffixForCoinType verified coin.1))) ∧
          (∃ last, result = .ok (state.1 + worth price coins, last) ∧ (coins ≠ [] ∨ state.2.isSome → last.isSome)) ∧
          added.map BillingDeposit.txDigest = coins.map (fun coin => suffixForCoinType verified coin.1) ∧
          (∀ row ∈ added, row.userId = userId ∧ row.network = network) ∨
        ¬(Fitting price coins ∧ Insertable (store.keys ++ rows.map BillingDeposit.txDigest)
            (coins.map (fun coin => suffixForCoinType verified coin.1))) ∧ ∃ error, result = .error error) := by
  induction coins generalizing rows nextId state with
  | nil =>
    refine ⟨[], nextId, .ok state, ?_, le_refl _, .inl ⟨⟨?_, ?_⟩, ⟨state.2, ?_, ?_⟩, rfl, by simp⟩⟩
    · rw [List.append_nil]
      rfl
    · exact fun _ member => absurd member List.not_mem_nil
    · exact ⟨List.nodup_nil, List.disjoint_nil_left _⟩
    · simp [worth]
    · exact fun some => some.resolve_left (absurd rfl)
  | cons coin coins ih =>
    rw [fold, List.map_cons, insertable_cons, fitting_cons]
    by_cases free : FitsInt8 (microUsdFromAtomic coin.2 (price coin.1).1 (price coin.1).2).1 ∧
        suffixForCoinType verified coin.1 ∉ store.keys ++ rows.map BillingDeposit.txDigest
    · have body : ∃ row, row.txDigest = suffixForCoinType verified coin.1 ∧ row.userId = userId ∧ row.network = network ∧
          (insertCoin userId network verified state coin).alone (served chain config price index)
            (store.holding index rows nextId) = some (.ok (state.1 +
              (microUsdFromAtomic coin.2 (price coin.1).1 (price coin.1).2).1, some row),
            store.holding index (rows ++ [row]) (nextId + 1)) := by
        let new : NewDeposit := ⟨userId, network, suffixForCoinType verified coin.1, verified.sender, coin.1, coin.2,
          (microUsdFromAtomic coin.2 (price coin.1).1 (price coin.1).2).1,
          (microUsdFromAtomic coin.2 (price coin.1).1 (price coin.1).2).2⟩
        refine ⟨new.row nextId, rfl, rfl, rfl, ?_⟩
        have inserted := @insertDeposit_alone chain config price index store quiet rows nextId new free.1 free.2
        unfold insertCoin
        rw [Program.bind_eq, Program.bind_alone (creditsFor_alone coin)]
        simp only [Program.bind_eq, Program.perform_bind]
        rw [Program.await_alone inserted]
        rfl
      obtain ⟨row, key, user, net, body⟩ := body
      obtain ⟨added, later, result, ran, grown, ended⟩ := ih (rows ++ [row]) (nextId + 1)
        (state.1 + (microUsdFromAtomic coin.2 (price coin.1).1 (price coin.1).2).1, some row)
      refine ⟨row :: added, later, result, ?_, (Nat.le_succ _).trans grown, ?_⟩
      · rw [Program.bind_alone body, ran, List.append_assoc, List.singleton_append]
      · rw [List.map_append, List.map_singleton, key, ← List.append_assoc] at ended
        rcases ended with ⟨⟨fits, others⟩, ⟨last, returned, some⟩, keys, owned⟩ | ⟨violated, thrown⟩
        · refine .inl ⟨⟨⟨free.1, fits⟩, free.2, others⟩, ⟨last, ?_, ?_⟩, ?_, ?_⟩
          · rw [returned, worth, worth, List.map_cons, List.sum_cons, Int.add_assoc]
          · exact fun _ => some (.inr rfl)
          · rw [List.map_cons, key, keys]
          · simp only [List.mem_cons, forall_eq_or_imp]
            exact ⟨⟨user, net⟩, owned⟩
        · exact .inr ⟨fun all => violated ⟨all.1.2, all.2.2⟩, thrown⟩
    · have body : ∃ error, (insertCoin userId network verified state coin).alone (served chain config price index)
          (store.holding index rows nextId) = some (.error error, store.holding index rows nextId) := by
        let new : NewDeposit := ⟨userId, network, suffixForCoinType verified coin.1, verified.sender, coin.1, coin.2,
          (microUsdFromAtomic coin.2 (price coin.1).1 (price coin.1).2).1,
          (microUsdFromAtomic coin.2 (price coin.1).1 (price coin.1).2).2⟩
        obtain ⟨error, refused⟩ := @insertDeposit_refused chain config price index store quiet rows nextId new
          (fun fits => by_contra (fun unused => free ⟨fits, unused⟩))
        refine ⟨error, ?_⟩
        unfold insertCoin
        rw [Program.bind_eq, Program.bind_alone (creditsFor_alone coin)]
        simp only [Program.bind_eq, Program.perform_bind]
        rw [Program.await_alone refused]
        rfl
      obtain ⟨error, body⟩ := body
      refine ⟨[], nextId, .error error, ?_, le_refl _, .inr ⟨fun all => free ⟨all.1.1, all.2.1⟩, error, rfl⟩⟩
      rw [Program.bind_alone_of_thrown body, List.append_nil]

end Inserting

/-- `store` after the call's transaction has committed. -/
def Store.credited (store : Store) (userId : Uuid) (network : String) (credits : Int) (rows : List BillingDeposit)
    (nextId : Uuid) : Store where
  accounts := store.accounts.map (fun slot => if slot.Is userId network
    then { slot with row := { slot.row with creditsMicro := slot.row.creditsMicro + credits } } else slot)
  charges := store.charges
  deposits := store.deposits ++ Versioned.under none rows
  nextId := nextId

section Ending

variable {chain : Chain} {config : Config} {price : String → Nat × Nat} {index : Nat} {store : Store}
variable {userId : Uuid} {network : String} {verified : VerifiedDeposit} {rows : List BillingDeposit} {nextId : Uuid}

theorem Quiet.rolled_back (quiet : Quiet config store) (rows : List BillingDeposit) (grown : store.nextId ≤ nextId) :
    Prepared config store ((store.holding index rows nextId).rollback index) := by
  have accounts : store.accounts.map (AccountSlot.discard index) = store.accounts := by
    rw [List.map_congr_left (fun slot member => ?_), List.map_id]
    simp only [AccountSlot.discard, quiet.unlocked slot member, id]
  have same : (store.holding index rows nextId).rollback index = { store with nextId := nextId } := by
    simp only [Store.rollback, Store.holding, accounts, discard_settled quiet.charges, discard_under quiet.deposits]
  rw [same]
  exact ⟨⟨quiet.registered.same ⟨rfl, grown⟩, quiet.unlocked, quiet.charges, quiet.deposits⟩, rfl, fun _ _ => rfl⟩

theorem Quiet.committed (quiet : Quiet config store) (credits : Int) (rows : List BillingDeposit) (nextId : Uuid) :
    Store.commit { store.holding index rows nextId with accounts := store.accounts.map (fun slot =>
        if slot.Is userId network then slot.take index credits else slot) } index =
      store.credited userId network credits rows nextId := by
  have accounts : (store.accounts.map (fun slot => if slot.Is userId network then slot.take index credits else slot)).map
      (AccountSlot.settle index) = store.accounts.map (fun slot => if slot.Is userId network
        then { slot with row := { slot.row with creditsMicro := slot.row.creditsMicro + credits } } else slot) := by
    rw [List.map_map]
    apply List.map_congr_left
    intro slot member
    have unlocked := quiet.unlocked slot member
    simp only [Function.comp_apply]
    split
    · simp [AccountSlot.take, AccountSlot.settle, AccountSlot.current, unlocked]
    · simp only [AccountSlot.settle, unlocked]
  simp only [Store.commit, Store.credited, accounts, Store.holding, settle_settled quiet.charges,
    settle_under quiet.deposits]

theorem Quiet.credited (quiet : Quiet config store) (credits : Int) (rows : List BillingDeposit)
    (grown : store.nextId ≤ nextId) : Quiet config (store.credited userId network credits rows nextId) where
  registered := by
    refine quiet.registered.same ⟨?_, grown⟩
    simp only [Store.credited, List.map_map]
    apply List.map_congr_left
    intro slot _
    simp only [Function.comp_apply]
    split <;> rfl
  unlocked := by
    intro slot member
    obtain ⟨old, there, rfl⟩ := List.mem_map.mp member
    have unlocked := quiet.unlocked old there
    split <;> exact unlocked
  charges := quiet.charges
  deposits := by
    intro entry member
    rcases List.mem_append.mp member with old | new
    · exact quiet.deposits entry old
    · obtain ⟨row, _, rfl⟩ := List.mem_map.mp new
      rfl

theorem balance_credited (known : store.Has userId network) (credits : Int) (user : Uuid) (net : String) :
    (store.credited userId network credits rows nextId).view.balance user net =
      store.view.balance user net + if userId = user ∧ network = net then credits else 0 := by
  have accounts : (store.credited userId network credits rows nextId).view.accounts =
      (store.view.post ⟨[⟨userId, network, credits⟩], [], []⟩).accounts := by
    simp only [Store.credited, Store.view, Ledger.post, List.map_map]
    apply List.map_congr_left
    intro slot _
    simp only [Function.comp_apply, total_singleton]
    by_cases own : slot.Is userId network
    · rw [if_pos own, if_pos ⟨own.1.symm, own.2.symm⟩]
      rfl
    · rw [if_neg own, if_neg (fun same => own ⟨same.1.symm, same.2.symm⟩), Int.add_zero]
  have posted : (store.credited userId network credits rows nextId).view.balance user net =
      (store.view.post ⟨[⟨userId, network, credits⟩], [], []⟩).balance user net := by
    simp only [Ledger.balance, Ledger.findAccount, accounts]
  rw [posted]
  by_cases there : (store.view.findAccount user net).isSome
  · rw [Ledger.balance_post _ _ user net there, total_singleton]
    rfl
  · have absent : store.view.findAccount user net = none := by simpa using there
    have other : ¬(userId = user ∧ network = net) := by
      rintro ⟨rfl, rfl⟩
      obtain ⟨slot, member, own⟩ := known
      have no := List.find?_eq_none.mp absent slot.row (List.mem_map_of_mem member)
      exact no (decide_eq_true own)
    rw [if_neg other, Int.add_zero, Ledger.balance, Ledger.balance, Ledger.findAccount_post, absent]
    rfl

/-- The balance in the row that a lone call updates. -/
theorem current_of_findSlot (quiet : Quiet config store) {slot : AccountSlot}
    (found : store.findSlot userId network = some slot) : slot.current = store.view.balance userId network := by
  have row : store.view.findAccount userId network = some slot.row := by
    rw [Store.findSlot] at found
    simp only [Ledger.findAccount, Store.view, List.find?_map, Function.comp_def]
    exact congrArg (Option.map AccountSlot.row) found
  rw [AccountSlot.current, quiet.unlocked slot (List.mem_of_find?_eq_some found), Ledger.balance, row]
  rfl

theorem addCredits_alone (quiet : Quiet config store) (known : store.Has userId network) {credits : Int}
    (fits : FitsInt8 credits) (inRange : FitsInt8 (store.view.balance userId network + credits))
    (rows : List BillingDeposit) :
    ∃ balance, served chain config price index (.addCredits ⟨userId, network, credits⟩) (store.holding index rows nextId) =
      some (.ok (some balance), { store.holding index rows nextId with accounts := store.accounts.map (fun slot =>
        if slot.Is userId network then slot.take index credits else slot) }) := by
  cases found : store.findSlot userId network with
  | none => exact absurd known (not_has_of_findSlot found)
  | some slot =>
    have free : slot.Free index := by
      intro holder locked
      rw [quiet.unlocked slot (List.mem_of_find?_eq_some found)] at locked
      cases locked
    have there : (store.holding index rows nextId).findSlot userId network = some slot := found
    have allowed :
      ¬decide ((store.holding index rows nextId).Overflows (.addCredits ⟨userId, network, credits⟩)) = true := by
      intro out
      rcases of_decide_eq_true out with large | ⟨other, same, large⟩
      · exact large fits
      · rw [there] at same
        cases same
        rw [current_of_findSlot quiet found] at large
        exact large inRange
    refine ⟨slot.current + credits, (if_neg allowed).trans ?_⟩
    simp only [Store.lockSlot, there, if_pos free, Option.map_some]
    rfl

theorem addCredits_refused (quiet : Quiet config store) (known : store.Has userId network) {credits : Int}
    (refused : ¬(FitsInt8 credits ∧ FitsInt8 (store.view.balance userId network + credits)))
    (rows : List BillingDeposit) :
    served chain config price index (.addCredits ⟨userId, network, credits⟩) (store.holding index rows nextId) =
      some (.error driverError, store.holding index rows nextId) := by
  apply if_pos
  apply decide_eq_true
  by_cases fits : FitsInt8 credits
  · cases found : store.findSlot userId network with
    | none => exact absurd known (not_has_of_findSlot found)
    | some slot =>
      refine .inr ⟨slot, found, ?_⟩
      rw [current_of_findSlot quiet found]
      exact fun inRange => refused ⟨fits, inRange⟩
  · exact .inl fits

/-- The deposit transaction can insert its rows and add up their credits. -/
def Depositable (price : String → Nat × Nat) (store : Store) (userId : Uuid) (network : String)
    (verified : VerifiedDeposit) :
    Prop :=
  Storable price verified.amountsAtomic (store.view.balance userId network) ∧
    Insertable store.keys (verified.amountsAtomic.map (fun coin => suffixForCoinType verified coin.1))

/-- How the deposit transaction ends when nobody else is at work. -/
theorem depositTransaction_alone (quiet : Quiet config store) (known : store.Has userId network)
    (pays : verified.amountsAtomic ≠ []) :
    ∃ result after, (depositTransaction userId network verified).alone (served chain config price index) store =
        some (result, after) ∧
      (Depositable price store userId network verified ∧
          (∃ credited, result = .ok credited) ∧
          (∃ rows nextId, rows.map BillingDeposit.txDigest =
              verified.amountsAtomic.map (fun coin => suffixForCoinType verified coin.1) ∧
            (∀ row ∈ rows, row.userId = userId ∧ row.network = network) ∧ store.nextId ≤ nextId ∧
            after = store.credited userId network (worth price verified.amountsAtomic) rows nextId) ∨
        ¬Depositable price store userId network verified ∧ (∃ error, result = .error error) ∧
          Prepared config store after) := by
  have began : served chain config price index .begin store = some (.ok (), store) := rfl
  have start : store = store.holding index [] store.nextId := by simp [Store.holding, Versioned.under]
  obtain ⟨rows, later, ended, looped, grown, outcome⟩ :=
    @insertCoins_alone chain config price index store userId network verified quiet verified.amountsAtomic [] store.nextId
      (0, none)
  rw [← start, List.nil_append] at looped
  rw [List.map_nil, List.append_nil] at outcome
  unfold depositTransaction transaction
  rw [Program.bind_eq, Program.perform_bind, Program.await_alone began]
  simp only [unwrap, Program.bind_eq, Program.ret_bind]
  rcases outcome with ⟨⟨fitting, free⟩, ⟨last, returned, some⟩, keys, owned⟩ | ⟨violated, error, thrown⟩
  · subst returned
    obtain ⟨deposit, found⟩ := Option.isSome_iff_exists.mp (some (.inl pays))
    subst found
    rw [Int.zero_add] at looped
    by_cases inRange : FitsInt8 (worth price verified.amountsAtomic) ∧
        FitsInt8 (store.view.balance userId network + worth price verified.amountsAtomic)
    · obtain ⟨balance, added⟩ := @addCredits_alone chain config price index store userId network later quiet known
        (worth price verified.amountsAtomic) inRange.1 inRange.2 rows
      have ended := @Quiet.committed config index store userId network quiet
        (worth price verified.amountsAtomic) rows later
      have committed : served chain config price index .commit { store.holding index rows later with
          accounts := store.accounts.map (fun slot => if slot.Is userId network
            then slot.take index (worth price verified.amountsAtomic) else slot) } =
          .some (.ok (), store.credited userId network (worth price verified.amountsAtomic) rows later) :=
        congrArg (fun world => Option.some (Except.ok (), world)) ended
      refine ⟨.ok (deposit, balance), _, ?_,
        .inl ⟨⟨⟨fitting, inRange.1, inRange.2⟩, free⟩, ⟨_, rfl⟩, rows, later, keys, owned, grown, rfl⟩⟩
      apply Program.rescue_alone
      refine (Program.bind_alone ((Program.bind_alone looped).trans (Program.await_alone added))).trans ?_
      exact Program.await_alone committed
    · have added := @addCredits_refused chain config price index store userId network later quiet known
        (worth price verified.amountsAtomic) inRange rows
      refine ⟨.error driverError, (store.holding index rows later).rollback index, ?_,
        .inr ⟨fun all => inRange ⟨all.1.total, all.1.balance⟩, ⟨_, rfl⟩, quiet.rolled_back rows grown⟩⟩
      refine (Program.rescue_alone_of_thrown (Program.bind_alone_of_thrown
        ((Program.bind_alone looped).trans ((Program.await_alone added).trans rfl)))).trans rfl
  · subst thrown
    refine ⟨.error error, (store.holding index rows later).rollback index, ?_,
      .inr ⟨fun all => violated ⟨all.1.rows, all.2⟩, ⟨_, rfl⟩, quiet.rolled_back rows grown⟩⟩
    rw [Program.rescue_alone_of_thrown (Program.bind_alone_of_thrown (Program.bind_alone_of_thrown looped))]
    rfl

end Ending

/-! ### A whole call -/

theorem find_of_payment {chain : Chain} {config : Config} {declaration : Declaration} {recipient : String}
    {verified : VerifiedDeposit} (paid : declaration.payment chain config = some (recipient, verified)) :
    ∃ sender changes,
      chain.find declaration.txDigest = some (declaration.network, .transaction none (some sender) changes) ∧
      verified = ⟨declaration.txDigest, sender,
        creditedSums (config.accepting declaration.acceptedCoinTypes) recipient changes⟩ := by
  unfold Declaration.payment at paid
  split at paid
  next there sender changes address found derived =>
    split at paid
    next same =>
      cases paid
      exact ⟨sender, changes, same ▸ found, rfl⟩
    · cases paid
  · cases paid

/-- Under which keys a declared payment is stored. -/
def Declaration.keys (chain : Chain) (config : Config) (declaration : Declaration) : List String :=
  match declaration.payment chain config with
  | some (_, verified) => verified.amountsAtomic.map (fun coin => suffixForCoinType verified coin.1)
  | none => []

/-- What a declared payment is worth at the quoted prices. -/
def Declaration.value (chain : Chain) (config : Config) (price : String → Nat × Nat) (declaration : Declaration) : Int :=
  match declaration.payment chain config with
  | some (_, verified) => worth price verified.amountsAtomic
  | none => 0

/-- What a declared payment adds to this balance, row by row and in all, is in range. -/
def Declaration.Storable (chain : Chain) (config : Config) (price : String → Nat × Nat) (declaration : Declaration)
    (balance : Int) : Prop :=
  match declaration.payment chain config with
  | some (_, verified) => Billing.Storable price verified.amountsAtomic balance
  | none => True

/-- The transaction pays the caller's deposit address accepted coins worth the minimum. -/
def Paying (chain : Chain) (config : Config) (price : String → Nat × Nat) (declaration : Declaration) : Prop :=
  ∃ recipient verified, declaration.payment chain config = some (recipient, verified) ∧ verified.amountsAtomic ≠ [] ∧
    config.minDepositMicro ≤ worth price verified.amountsAtomic

/-- A call that returned without finding an earlier credit. -/
def FirstCredit (reply : Except Thrown RecordDepositResult) : Prop := ∃ result, reply = .ok result ∧ result.duplicate = false

/-- What a lone call leaves behind once it has credited its payment. -/
structure Credited (chain : Chain) (config : Config) (price : String → Nat × Nat) (declaration : Declaration)
    (store after : Store) : Prop where
  quiet : Quiet config after
  keys : after.keys = store.keys ++ declaration.keys chain config
  deposits : ∀ entry ∈ after.deposits, entry ∈ store.deposits ∨ entry.row.userId = declaration.userId
  balance : ∀ user net, after.view.balance user net = store.view.balance user net +
    if declaration.userId = user ∧ declaration.network = net then declaration.value chain config price else 0

/-- The call finds no row of its digest and can insert its own, and every number is in range. -/
structure Admitted (chain : Chain) (config : Config) (price : String → Nat × Nat) (store : Store)
    (declaration : Declaration) : Prop where
  untaken : declaration.txDigest ∉ store.keys
  insertable : Insertable store.keys (declaration.keys chain config)
  storable : declaration.Storable chain config price (store.view.balance declaration.userId declaration.network)

section Whole

variable {chain : Chain} {config : Config} {price : String → Nat × Nat} {index : Nat} {store : Store}
variable {declaration : Declaration}

/-- Somebody else's row under the bare digest refuses the call before anything else happens. -/
theorem lone_taken (quiet : Quiet config store)
    (taken : ∃ entry ∈ store.deposits, entry.row.txDigest = declaration.txDigest)
    (foreign : ∀ entry ∈ store.deposits, entry.row.txDigest = declaration.txDigest → entry.row.userId ≠ declaration.userId) :
    lone chain config price index declaration store = some (.error (.app
      (errors.conflict "deposit already credited to another user" "DEPOSIT_TAKEN")), store) := by
  obtain ⟨entry, member, same⟩ := taken
  have visible : entry.row ∈ Versioned.visible index store.deposits :=
    List.mem_map.mpr ⟨entry, List.mem_filter.mpr ⟨member, decide_eq_true (.inl (quiet.deposits entry member))⟩, rfl⟩
  have some : ((Versioned.visible index store.deposits).find? (fun row => row.txDigest = declaration.txDigest)).isSome := by
    rw [List.find?_isSome]
    exact ⟨entry.row, visible, decide_eq_true same⟩
  obtain ⟨prior, found⟩ := Option.isSome_iff_exists.mp some
  obtain ⟨other, inside, rfl⟩ := List.mem_map.mp (List.mem_of_find?_eq_some found)
  have differs := foreign other (List.mem_of_mem_filter inside) (by simpa using List.find?_some found)
  have looked : served chain config price index (.selectDeposit declaration.txDigest) store =
      .some (.some other.row, store) := by
    simp only [served, declarations, exec, found]
  unfold lone declarations recordDeposit
  simp only [Program.bind_eq, Program.perform_bind]
  rw [Program.await_alone looked]
  simp only [if_pos differs]
  rfl

/-- Otherwise it credits the payment, unless a key is taken or a number out of range. -/
theorem lone_untaken (quiet : Quiet config store) (paying : Paying chain config price declaration)
    (untaken : declaration.txDigest ∉ store.keys) :
    ∃ reply after, lone chain config price index declaration store = some (reply, after) ∧
      (Admitted chain config price store declaration ∧ FirstCredit reply ∧
          Credited chain config price declaration store after ∨
        ¬Admitted chain config price store declaration ∧ (∃ error, reply = .error error) ∧
          Prepared config store after) := by
  obtain ⟨recipient, verified, paid, nonempty, minimum⟩ := paying
  have keyed : declaration.keys chain config =
      verified.amountsAtomic.map (fun coin => suffixForCoinType verified coin.1) := by
    simp only [Declaration.keys, paid]
  have valued : declaration.value chain config price = worth price verified.amountsAtomic := by
    simp only [Declaration.value, paid]
  have looked : served chain config price index (.selectDeposit declaration.txDigest) store = some (none, store) := by
    have nothing : (Versioned.visible index store.deposits).find? (fun row => row.txDigest = declaration.txDigest) = none := by
      rw [List.find?_eq_none]
      intro row member
      obtain ⟨entry, inside, rfl⟩ := List.mem_map.mp member
      intro same
      exact untaken (List.mem_map.mpr ⟨entry, List.mem_of_mem_filter inside, of_decide_eq_true same⟩)
    simp only [served, declarations, exec, nothing]
  obtain ⟨sender, changes, found, rfl⟩ := find_of_payment paid
  obtain ⟨addressed, returned, first⟩ := @getOrCreateDepositAddress_alone chain config price index store declaration.userId
    declaration.network quiet declaration.acceptedCoinTypes recipient (payment_some paid).2.2
  obtain ⟨slot, opened, created, there, second⟩ := @getOrCreateAccount_alone chain config price index addressed first.quiet
    declaration.userId declaration.network
  have prepared := first.trans second
  obtain ⟨result, after, ran, ended⟩ := @depositTransaction_alone chain config price index opened declaration.userId
    declaration.network _ prepared.quiet ⟨slot, has_of_findSlot there⟩ nonempty
  have same : opened.keys = store.keys := by rw [Store.keys, Store.keys, prepared.deposits]
  have admitted : Depositable price opened declaration.userId declaration.network ⟨declaration.txDigest, sender,
        creditedSums (config.accepting declaration.acceptedCoinTypes) recipient changes⟩ ↔
      Admitted chain config price store declaration := by
    rw [Depositable, prepared.balance, same, ← keyed]
    constructor
    · intro depositable
      exact ⟨untaken, depositable.2, by simpa only [Declaration.Storable, paid] using depositable.1⟩
    · intro admitted
      exact ⟨by simpa only [Declaration.Storable, paid] using admitted.storable, admitted.insertable⟩
  rw [admitted, ← keyed, ← valued] at ended
  have enough : ¬(0 + worth price (creditedSums (config.accepting declaration.acceptedCoinTypes) recipient changes) <
      ((config.accepting declaration.acceptedCoinTypes).minDepositMicro : Int)) := by
    rw [Int.zero_add]
    exact Int.not_lt.mpr minimum
  have started : ∀ reply after, ((depositTransaction declaration.userId declaration.network ⟨declaration.txDigest, sender,
        creditedSums (config.accepting declaration.acceptedCoinTypes) recipient changes⟩).bind (fun done =>
          Program.await (.enqueueSweep declaration.userId declaration.network done.1.id) (fun queued =>
            (unwrap queued).bind (fun _ => .ret (⟨done.1, false, done.2⟩ : RecordDepositResult))))).alone
        (served chain config price index) opened = some (reply, after) →
      lone chain config price index declaration store = some (reply, after) := by
    intro reply after rest
    refine (Program.await_alone looked).trans ((Program.bind_alone returned).trans
      ((Program.bind_alone (verifyDeposit_alone _ found nonempty)).trans ((Program.bind_alone (preTotal_alone _ 0)).trans ?_)))
    simp only [if_neg enough]
    exact (Program.bind_alone created).trans rest
  rcases ended with ⟨free, ⟨credited, rfl⟩, rows, nextId, keys, owned, grown, rfl⟩ | ⟨violated, ⟨error, rfl⟩, rolled⟩
  · refine ⟨_, _, started _ _ ((Program.bind_alone ran).trans rfl), .inl ⟨free, ⟨_, rfl, rfl⟩, ?_⟩⟩
    exact {
      quiet := prepared.quiet.credited _ rows grown
      keys := by
        have rowsKeys : (Versioned.under none rows).map (fun entry => entry.row.txDigest) = rows.map BillingDeposit.txDigest := by
          rw [Versioned.under, List.map_map]
          rfl
        have split : (opened.credited declaration.userId declaration.network (declaration.value chain config price) rows
            nextId).keys = opened.keys ++ (Versioned.under none rows).map (fun entry => entry.row.txDigest) :=
          List.map_append
        exact split.trans (by rw [rowsKeys, same, keys])
      deposits := by
        intro entry member
        rcases List.mem_append.mp member with old | new
        · exact .inl (prepared.deposits ▸ old)
        · obtain ⟨row, inside, rfl⟩ := List.mem_map.mp new
          exact .inr (owned row inside).1
      balance := by
        intro user net
        exact (balance_credited ⟨slot, has_of_findSlot there⟩ _ user net).trans (by rw [prepared.balance]) }
  · exact ⟨_, _, started _ _ (Program.bind_alone_of_thrown ran), .inr ⟨violated, ⟨error, rfl⟩, prepared.trans rolled⟩⟩

/-- Only a single coin type is stored under the bare digest. -/
theorem coins_eq_one (paying : Paying chain config price declaration) :
    declaration.coins chain config = 1 ↔ declaration.txDigest ∈ declaration.keys chain config := by
  obtain ⟨recipient, verified, paid, nonempty, _⟩ := paying
  have digest := (payment_some paid).1
  simp only [Declaration.coins, Declaration.keys, paid, Option.map_some, Option.getD_some, List.mem_map]
  constructor
  · intro single
    obtain ⟨coin, member⟩ := List.exists_mem_of_ne_nil _ nonempty
    refine ⟨coin, member, ?_⟩
    rw [suffixForCoinType, if_pos single, digest]
  · rintro ⟨coin, _, same⟩
    by_contra several
    rw [suffixForCoinType, if_neg several, digest] at same
    have lengths := congrArg String.length same
    simp only [String.length_append] at lengths
    have colon : (":" : String).length = 1 := rfl
    omega

/-- A call of a user who has no row of the digest yet. -/
theorem lone_ends (quiet : Quiet config store) (paying : Paying chain config price declaration)
    (foreign : ∀ entry ∈ store.deposits, entry.row.txDigest = declaration.txDigest → entry.row.userId ≠ declaration.userId) :
    ∃ reply after, lone chain config price index declaration store = some (reply, after) ∧
      (Admitted chain config price store declaration ∧ FirstCredit reply ∧
          Credited chain config price declaration store after ∨
        ¬Admitted chain config price store declaration ∧ (∃ error, reply = .error error) ∧
          Prepared config store after) := by
  by_cases untaken : declaration.txDigest ∈ store.keys
  · obtain ⟨entry, member, same⟩ := List.mem_map.mp untaken
    exact ⟨_, _, lone_taken quiet ⟨entry, member, same⟩ foreign,
      .inr ⟨fun admitted => admitted.untaken untaken, ⟨_, rfl⟩, .refl quiet⟩⟩
  · exact lone_untaken quiet paying untaken

end Whole

/-! ### All of them, in some order -/

/-- The sum of what is due to an account from these declarations. -/
def owed (chain : Chain) (config : Config) (price : String → Nat × Nat) (declarations : List Declaration)
    (userId : Uuid) (network : String) : Int :=
  ((declarations.filter (fun declaration => declaration.userId = userId ∧ declaration.network = network)).map
    (Declaration.value chain config price)).sum

/-- The declarations that returned. -/
def returned (declarations : List Declaration) (replies : List (Except Thrown RecordDepositResult)) : List Declaration :=
  ((declarations.zip replies).filter (fun pair => pair.2.isOk)).map Prod.fst

/-- Every call ends, and the balances grow by what the returned ones were paid. Calls that come one after the
other are one of the interleavings of the service. -/
def Accounted (chain : Chain) (config : Config) (price : String → Nat × Nat) (index : Nat)
    (declarations : List Declaration) (store : Store) : Prop :=
  ∃ replies after, declareAll chain config price index declarations store = some (replies, after) ∧
    replies.length = declarations.length ∧
    (∀ system : DepositSystem, system.world = store → system.threads.length = index →
      ∃ final, (Billing.declarations chain config).Reaches system final ∧ final.world = after) ∧
    ∀ userId network, after.view.balance userId network =
      store.view.balance userId network + owed chain config price (returned declarations replies) userId network

/-- Every call is a first credit, and the balances grow by exactly what everybody was paid. -/
def AllCredited (chain : Chain) (config : Config) (price : String → Nat × Nat) (index : Nat)
    (declarations : List Declaration) (store : Store) : Prop :=
  ∃ replies after, declareAll chain config price index declarations store = some (replies, after) ∧
    (∀ reply ∈ replies, FirstCredit reply) ∧
    ∀ userId network, after.view.balance userId network =
      store.view.balance userId network + owed chain config price declarations userId network

/-- No two coins share their key, and with several users no part consists of a single coin type. -/
def Separate (chain : Chain) (config : Config) (declarations : List Declaration) : Prop :=
  (∀ declaration ∈ declarations, (declaration.keys chain config).Nodup) ∧
  ∀ declaration ∈ declarations, ∀ other ∈ declarations, declaration ≠ other →
    declaration.coins chain config ≠ 1 ∧ (declaration.keys chain config).Disjoint (other.keys chain config)

instance (chain : Chain) (config : Config) (declarations : List Declaration) :
    Decidable (Separate chain config declarations) :=
  inferInstanceAs (Decidable ((∀ declaration ∈ declarations, (declaration.keys chain config).Nodup) ∧
    ∀ declaration ∈ declarations, ∀ other ∈ declarations, declaration ≠ other →
      declaration.coins chain config ≠ 1 ∧ ∀ key ∈ declaration.keys chain config, key ∉ other.keys chain config))

section Orders

variable {chain : Chain} {config : Config} {price : String → Nat × Nat} {store : Store}

theorem reaches_declareAll {chain : Chain} {config : Config} {price : String → Nat × Nat}
    {declarations : List Declaration}
    {system : DepositSystem} {replies : List (Except Thrown RecordDepositResult)} {after : Store}
    (ran : declareAll chain config price system.threads.length declarations system.world = some (replies, after)) :
    ∃ final, (Billing.declarations chain config).Reaches system final ∧ final.world = after := by
  induction declarations generalizing system replies with
  | nil =>
    cases ran
    exact ⟨system, .refl, rfl⟩
  | cons declaration declarations ih =>
    obtain ⟨⟨reply, middle⟩, first, ran⟩ := Option.bind_eq_some_iff.mp ran
    obtain ⟨⟨rest, final⟩, later, same⟩ := Option.map_eq_some_iff.mp ran
    cases same
    have entered : (Billing.declarations chain config).enter declaration system.world = some system.world := rfl
    have started := (Billing.declarations chain config).next_start entered
    have found : (system.threads ++ [(Billing.declarations chain config).fresh declaration])[system.threads.length]? =
        some ((Billing.declarations chain config).fresh declaration) := List.getElem?_concat_length
    obtain ⟨ended, _, played, counted, _, _, _, world⟩ :=
      @Machine.reaches_alone _ _ _ _ _ _ _ (Billing.declarations chain config)
      ⟨system.world, system.threads ++ [(Billing.declarations chain config).fresh declaration]⟩ _ _
      (serving price) found rfl
      _ _ first rfl
    rw [List.length_append, List.length_singleton] at counted
    obtain ⟨final, onward, same⟩ := @ih ended rest (by rw [counted, world]; exact later)
    exact ⟨final, (Machine.Run.trans (.step .refl trivial started) played).trans onward, same⟩

theorem owed_cons (declaration : Declaration) (declarations : List Declaration) (userId : Uuid) (network : String) :
    owed chain config price (declaration :: declarations) userId network =
      (if declaration.userId = userId ∧ declaration.network = network then declaration.value chain config price else 0) +
        owed chain config price declarations userId network := by
  unfold owed
  rw [List.filter_cons]
  split <;> simp_all

theorem declareAll_cons {index : Nat} {declaration : Declaration} {declarations : List Declaration}
    {reply : Except Thrown RecordDepositResult} {middle after : Store} {replies : List (Except Thrown RecordDepositResult)}
    (first : lone chain config price index declaration store = some (reply, middle))
    (rest : declareAll chain config price (index + 1) declarations middle = some (replies, after)) :
    declareAll chain config price index (declaration :: declarations) store = some (reply :: replies, after) := by
  simp only [declareAll, first, Option.bind_some, rest, Option.map_some]

/-- The declarations are all about this digest, by different users who have no row of it yet. -/
structure Awaiting (chain : Chain) (config : Config) (price : String → Nat × Nat) (digest : String)
    (declarations : List Declaration) (store : Store) : Prop where
  quiet : Quiet config store
  about : ∀ declaration ∈ declarations, declaration.txDigest = digest
  paying : ∀ declaration ∈ declarations, Paying chain config price declaration
  distinct : (declarations.map Declaration.userId).Nodup
  foreign : ∀ entry ∈ store.deposits, entry.row.txDigest = digest → entry.row.userId ∉ declarations.map Declaration.userId

theorem Awaiting.head {digest : String} {declaration : Declaration} {declarations : List Declaration} (index : Nat)
    (awaiting : Awaiting chain config price digest (declaration :: declarations) store) :
    ∃ reply after, lone chain config price index declaration store = some (reply, after) ∧
      Awaiting chain config price digest declarations after ∧
      (Admitted chain config price store declaration ∧ FirstCredit reply ∧
          Credited chain config price declaration store after ∨
        ¬Admitted chain config price store declaration ∧ (∃ error, reply = .error error) ∧
          Prepared config store after) := by
  have own := awaiting.about declaration List.mem_cons_self
  have unused := List.nodup_cons.mp awaiting.distinct
  have foreign : ∀ entry ∈ store.deposits, entry.row.txDigest = declaration.txDigest →
      entry.row.userId ≠ declaration.userId := by
    intro entry member same mine
    exact awaiting.foreign entry member (same.trans own) (mine ▸ List.mem_cons_self)
  obtain ⟨reply, after, ran, ended⟩ := @lone_ends chain config price index store declaration
    awaiting.quiet (awaiting.paying declaration List.mem_cons_self) foreign
  refine ⟨reply, after, ran, ?_, ended⟩
  have later : ∀ entry ∈ store.deposits, entry.row.txDigest = digest →
      entry.row.userId ∉ declarations.map Declaration.userId := by
    intro entry member same inside
    exact awaiting.foreign entry member same (List.mem_cons_of_mem _ inside)
  rcases ended with ⟨_, _, credited⟩ | ⟨_, _, prepared⟩
  · refine ⟨credited.quiet, fun other member => awaiting.about other (List.mem_cons_of_mem _ member),
      fun other member => awaiting.paying other (List.mem_cons_of_mem _ member), unused.2, ?_⟩
    intro entry member same
    rcases credited.deposits entry member with old | new
    · exact later entry old same
    · exact new ▸ unused.1
  · refine ⟨prepared.quiet, fun other member => awaiting.about other (List.mem_cons_of_mem _ member),
      fun other member => awaiting.paying other (List.mem_cons_of_mem _ member), unused.2, ?_⟩
    rw [prepared.deposits]
    exact later

theorem Awaiting.accounted {digest : String} {declarations : List Declaration}
    (awaiting : Awaiting chain config price digest declarations store) (index : Nat) :
    Accounted chain config price index declarations store := by
  induction declarations generalizing store index with
  | nil =>
    refine ⟨[], store, rfl, rfl, ?_, fun _ _ => (Int.add_zero _).symm⟩
    exact fun system same _ => ⟨system, .refl, same⟩
  | cons declaration declarations ih =>
    obtain ⟨reply, middle, ran, further, ended⟩ := awaiting.head index
    obtain ⟨replies, after, rest, counted, _, balances⟩ := ih further (index + 1)
    have all := declareAll_cons ran rest
    refine ⟨reply :: replies, after, all, congrArg Nat.succ counted, ?_, fun userId network => ?_⟩
    · rintro system rfl rfl
      exact reaches_declareAll all
    rw [balances]
    rcases ended with ⟨_, ⟨result, rfl, _⟩, credited⟩ | ⟨_, ⟨error, rfl⟩, prepared⟩
    · have grown : returned (declaration :: declarations) (.ok result :: replies) =
          declaration :: returned declarations replies := rfl
      rw [grown, owed_cons, credited.balance, Int.add_assoc]
    · rw [prepared.balance]
      rfl

/-- The keys of later declarations stay free while separate ones are credited. -/
theorem Awaiting.all_credited {digest : String} {declarations : List Declaration}
    (awaiting : Awaiting chain config price digest declarations store) (separate : Separate chain config declarations)
    (free : ∀ declaration ∈ declarations, Admitted chain config price store declaration) (index : Nat) :
    AllCredited chain config price index declarations store := by
  induction declarations generalizing store index with
  | nil => exact ⟨[], store, rfl, by simp, fun _ _ => (Int.add_zero _).symm⟩
  | cons declaration declarations ih =>
    obtain ⟨reply, middle, ran, further, ended⟩ := awaiting.head index
    rcases ended with ⟨_, credit, credited⟩ | ⟨refused, _⟩
    · have admitted : ∀ other ∈ declarations, Admitted chain config price middle other := by
        intro other member
        have differ : declaration ≠ other := by
          rintro rfl
          exact (List.nodup_cons.mp awaiting.distinct).1 (List.mem_map_of_mem member)
        obtain ⟨several, disjoint⟩ := separate.2 declaration List.mem_cons_self other (List.mem_cons_of_mem _ member) differ
        obtain ⟨unseen, ⟨nodup, unused⟩, storable⟩ := free other (List.mem_cons_of_mem _ member)
        have same : other.txDigest = declaration.txDigest := (awaiting.about other (List.mem_cons_of_mem _ member)).trans
          (awaiting.about declaration List.mem_cons_self).symm
        have foreign : declaration.userId ≠ other.userId := by
          intro own
          apply (List.nodup_cons.mp awaiting.distinct).1
          rw [own]
          exact List.mem_map_of_mem member
        constructor
        · rw [credited.keys, List.mem_append]
          rintro (old | new)
          · exact unseen old
          · exact several ((coins_eq_one (awaiting.paying declaration List.mem_cons_self)).mpr (same ▸ new))
        · rw [Insertable, credited.keys, List.disjoint_append_right]
          exact ⟨nodup, unused, List.disjoint_comm.mp disjoint⟩
        · rw [credited.balance, if_neg (fun own => foreign own.1), Int.add_zero]
          exact storable
      obtain ⟨replies, after, rest, credits, balances⟩ := ih further
        ⟨fun other member => separate.1 other (List.mem_cons_of_mem _ member), fun other member third inside =>
          separate.2 other (List.mem_cons_of_mem _ member) third (List.mem_cons_of_mem _ inside)⟩ admitted (index + 1)
      refine ⟨reply :: replies, after, declareAll_cons ran rest, ?_, fun userId network => ?_⟩
      · simp only [List.mem_cons, forall_eq_or_imp]
        exact ⟨credit, credits⟩
      · rw [balances, owed_cons, credited.balance, Int.add_assoc]
    · exact absurd (free declaration List.mem_cons_self) refused

/-- The first of the calls is admitted if all of them are credited, and so is the second in what it leaves. -/
theorem Awaiting.admitted_of_all_credited {digest : String} {declaration : Declaration} {declarations : List Declaration}
    {index : Nat} (awaiting : Awaiting chain config price digest (declaration :: declarations) store)
    (all : AllCredited chain config price index (declaration :: declarations) store) :
    Admitted chain config price store declaration ∧ ∃ after, Credited chain config price declaration store after ∧
      Awaiting chain config price digest declarations after ∧
      ∀ other others, declarations = other :: others → Admitted chain config price after other := by
  obtain ⟨replies, last, ran, credits, _⟩ := all
  obtain ⟨reply, after, first, further, ended⟩ := awaiting.head index
  simp only [declareAll, first, Option.bind_some] at ran
  obtain ⟨⟨rest, final⟩, later, same⟩ := Option.map_eq_some_iff.mp ran
  cases same
  have credit := credits reply List.mem_cons_self
  rcases ended with ⟨admitted, _, credited⟩ | ⟨_, ⟨error, rfl⟩, _⟩
  · refine ⟨admitted, after, credited, further, ?_⟩
    rintro other others rfl
    obtain ⟨second, middle, next, _, outcome⟩ := further.head (index + 1)
    simp only [declareAll, next, Option.bind_some] at later
    obtain ⟨⟨more, final⟩, _, same⟩ := Option.map_eq_some_iff.mp later
    cases same
    rcases outcome with ⟨admitted, _⟩ | ⟨_, ⟨error, rfl⟩, _⟩
    · exact admitted
    · obtain ⟨result, impossible, _⟩ := credits (.error error) (by simp)
      cases impossible
  · obtain ⟨result, impossible, _⟩ := credit
    cases impossible

end Orders

/-- The declarations of one digest, by these users in this order. -/
def declaredBy (acceptedCoinTypes : List String) (network digest : String) (users : List Uuid) : List Declaration :=
  users.map (fun user => ⟨acceptedCoinTypes, user, network, digest⟩)

theorem owed_perm (chain : Chain) (config : Config) (price : String → Nat × Nat) {first second : List Declaration}
    (same : first.Perm second) (userId : Uuid) (network : String) :
    owed chain config price first userId network = owed chain config price second userId network :=
  ((same.filter _).map _).sum_eq

/-- Every key of a declared payment gives its digest back. -/
theorem bareDigest_keys {chain : Chain} {config : Config} {price : String → Nat × Nat} {declaration : Declaration}
    (paying : Paying chain config price declaration) :
    bareDigest declaration.txDigest = declaration.txDigest ∧
      ∀ key ∈ declaration.keys chain config, bareDigest key = declaration.txDigest := by
  obtain ⟨recipient, verified, paid, _⟩ := paying
  refine ⟨bareDigest_self paid, fun key member => ?_⟩
  simp only [Declaration.keys, paid, List.mem_map] at member
  obtain ⟨coin, _, rfl⟩ := member
  exact bareDigest_suffix paid coin.1

/-- Several users declare the transaction that pays each of them. In every order each call ends and credits
its caller's own part or nothing. All of them are credited in every order exactly when their parts are stored
under separate keys and their numbers are in range, and what they are owed then is the same in every order. -/
theorem credited_in_any_order (chain : Chain) (config : Config) (price : String → Nat × Nat)
    (acceptedCoinTypes : List String) (network digest : String) (users : List Uuid) (distinct : users.Nodup)
    (paying : ∀ user ∈ users, Paying chain config price ⟨acceptedCoinTypes, user, network, digest⟩) (store : Store)
    (quiet : Quiet config store) (undeclared : ∀ entry ∈ store.deposits, entry.row.onChainDigest ≠ digest) (index : Nat) :
    (∀ order, order.Perm users →
      Accounted chain config price index (declaredBy acceptedCoinTypes network digest order) store) ∧
    ((∀ order, order.Perm users →
      AllCredited chain config price index (declaredBy acceptedCoinTypes network digest order) store) ↔
      Separate chain config (declaredBy acceptedCoinTypes network digest users) ∧
        ∀ user ∈ users, Declaration.Storable chain config price ⟨acceptedCoinTypes, user, network, digest⟩
          (store.view.balance user network)) ∧
    ∀ order, order.Perm users → owed chain config price (declaredBy acceptedCoinTypes network digest order) =
      owed chain config price (declaredBy acceptedCoinTypes network digest users) := by
  have among : ∀ {order declaration}, order.Perm users → declaration ∈ declaredBy acceptedCoinTypes network digest order →
      ∃ user ∈ users, declaration = ⟨acceptedCoinTypes, user, network, digest⟩ := by
    intro order declaration permuted member
    obtain ⟨user, inside, rfl⟩ := List.mem_map.mp member
    exact ⟨user, permuted.mem_iff.mp inside, rfl⟩
  have unseen : ∀ user ∈ users, digest ∉ store.keys := by
    intro user member taken
    obtain ⟨entry, inside, same⟩ := List.mem_map.mp taken
    refine undeclared entry inside ?_
    rw [BillingDeposit.onChainDigest, same]
    exact (bareDigest_keys (paying user member)).1
  have awaiting : ∀ order, order.Perm users →
      Awaiting chain config price digest (declaredBy acceptedCoinTypes network digest order) store := by
    intro order permuted
    refine ⟨quiet, ?_, ?_, ?_, ?_⟩
    · intro declaration member
      obtain ⟨user, _, rfl⟩ := among permuted member
      rfl
    · intro declaration member
      obtain ⟨user, inside, rfl⟩ := among permuted member
      exact paying user inside
    · have ids : (declaredBy acceptedCoinTypes network digest order).map Declaration.userId = order := by
        rw [declaredBy, List.map_map]
        exact List.map_id order
      rw [ids]
      exact permuted.nodup_iff.mpr distinct
    · intro entry member same others
      obtain ⟨declaration, inside, _⟩ := List.mem_map.mp others
      obtain ⟨user, here, _⟩ := among permuted inside
      exact unseen user here (List.mem_map.mpr ⟨entry, member, same⟩)
  refine ⟨fun order permuted => (awaiting order permuted).accounted index, ⟨fun all => ⟨⟨?_, ?_⟩, ?_⟩, ?_⟩, ?_⟩
  · intro declaration member
    obtain ⟨user, here, rfl⟩ := among (List.Perm.refl users) member
    have first := (List.perm_cons_erase here).symm
    exact ((awaiting _ first).admitted_of_all_credited (all _ first)).1.insertable.1
  · intro declaration member other inside differ
    obtain ⟨user, here, rfl⟩ := among (List.Perm.refl users) member
    obtain ⟨rival, there, rfl⟩ := among (List.Perm.refl users) inside
    have left : rival ∈ users.erase user := by
      refine (distinct.mem_erase_iff).mpr ⟨?_, there⟩
      rintro rfl
      exact differ rfl
    have order : (user :: rival :: (users.erase user).erase rival).Perm users :=
      ((List.perm_cons_erase left).symm.cons user).trans (List.perm_cons_erase here).symm
    obtain ⟨_, after, credited, _, second⟩ := (awaiting _ order).admitted_of_all_credited (all _ order)
    obtain ⟨free, ⟨_, unused⟩, _⟩ := second _ _ rfl
    rw [credited.keys] at free unused
    refine ⟨fun single => free (List.mem_append_right _ ((coins_eq_one (paying user here)).mp single)), ?_⟩
    exact List.disjoint_comm.mp (List.disjoint_append_right.mp unused).2
  · intro user here
    have first := (List.perm_cons_erase here).symm
    exact ((awaiting _ first).admitted_of_all_credited (all _ first)).1.storable
  · intro all order permuted
    obtain ⟨separate, storable⟩ := all
    refine (awaiting order permuted).all_credited ⟨?_, ?_⟩ ?_ index
    · intro declaration member
      obtain ⟨user, inside, rfl⟩ := among permuted member
      exact separate.1 _ (List.mem_map_of_mem inside)
    · intro declaration member other inside
      obtain ⟨user, here, rfl⟩ := among permuted member
      obtain ⟨rival, there, rfl⟩ := among permuted inside
      exact separate.2 _ (List.mem_map_of_mem here) _ (List.mem_map_of_mem there)
    · intro declaration member
      obtain ⟨user, inside, rfl⟩ := among permuted member
      refine ⟨unseen user inside, ⟨separate.1 _ (List.mem_map_of_mem inside), ?_⟩, storable user inside⟩
      intro key own taken
      obtain ⟨entry, stored, rfl⟩ := List.mem_map.mp taken
      exact undeclared entry stored ((bareDigest_keys (paying user inside)).2 _ own)
  · intro order permuted
    funext userId network
    exact owed_perm chain config price (permuted.map _) userId network

/-- Two users with deposit addresses of their own. -/
def pairConfig : Config :=
  ⟨["0x2::sui::SUI", "0xa::usdc::USDC", "0xb::wal::WAL", "0xc::deep::DEEP"], 5, fullTag, fun userId _ =>
    .ok (if userId = 1 then "0xalice" else "0xbob")⟩

/-- One transaction pays both users four different coins, another pays both of them SUI. -/
def pairChain : Chain where
  find digest :=
    if digest = "fourCoins" then some ("testnet", .transaction none (some "0xsender")
      [⟨"0xalice", "0x2::sui::SUI", 50⟩, ⟨"0xbob", "0xb::wal::WAL", 7⟩, ⟨"0xalice", "0xa::usdc::USDC", 10⟩,
        ⟨"0xbob", "0xc::deep::DEEP", 2⟩])
    else if digest = "oneCoin" then some ("testnet", .transaction none (some "0xsender")
      [⟨"0xalice", "0x2::sui::SUI", 50⟩, ⟨"0xbob", "0x2::sui::SUI", 8⟩])
    else none
  base58 digest found here := by
    split at here
    next same =>
      subst same
      decide
    next =>
      split at here
      next same =>
        subst same
        decide
      · cases here

/-- Every unit of a coin is a micro-dollar. -/
def evenly (_ : String) : Nat × Nat := (1, 0)

theorem quiet_opening (config : Config) : Quiet config opening.world where
  registered := ⟨List.nodup_nil, by simp [opening], by simp [opening]⟩
  unlocked := by simp [opening]
  charges := by simp [opening]
  deposits := by simp [opening]

theorem credited_in_any_order_sample :
    Separate pairChain pairConfig (declaredBy pairConfig.acceptedCoinTypes "testnet" "fourCoins" [1, 2]) ∧
    ∀ order, order.Perm [1, 2] → AllCredited pairChain pairConfig evenly 0
      (declaredBy pairConfig.acceptedCoinTypes "testnet" "fourCoins" order) opening.world := by
  have separate : Separate pairChain pairConfig
      (declaredBy pairConfig.acceptedCoinTypes "testnet" "fourCoins" [1, 2]) := by
    decide +kernel
  have storable : ∀ user ∈ [1, 2], Declaration.Storable pairChain pairConfig evenly
      ⟨pairConfig.acceptedCoinTypes, user, "testnet", "fourCoins"⟩ (opening.world.view.balance user "testnet") := by
    simp only [List.mem_cons, List.not_mem_nil, or_false, forall_eq_or_imp, forall_eq]
    exact ⟨⟨by decide +kernel, by decide +kernel, by decide +kernel⟩,
      ⟨by decide +kernel, by decide +kernel, by decide +kernel⟩⟩
  refine ⟨separate, (credited_in_any_order pairChain pairConfig evenly pairConfig.acceptedCoinTypes "testnet" "fourCoins"
    [1, 2] (by decide) ?_ opening.world (quiet_opening pairConfig) (by simp [opening]) 0).2.1.mpr ⟨separate, storable⟩⟩
  simp only [List.mem_cons, List.not_mem_nil, or_false, forall_eq_or_imp, forall_eq]
  exact ⟨⟨"0xalice", ⟨"fourCoins", "0xsender",
      [(fullTag "0x2::sui::SUI", 50), (fullTag "0xa::usdc::USDC", 10)]⟩, rfl, by simp, by decide⟩,
    ⟨"0xbob", ⟨"fourCoins", "0xsender",
      [(fullTag "0xb::wal::WAL", 7), (fullTag "0xc::deep::DEEP", 2)]⟩, rfl, by simp, by decide⟩⟩

/-- Both are paid SUI by one transaction: whoever declares second is refused. -/
theorem second_declaration_refused :
    (Paying pairChain pairConfig evenly ⟨pairConfig.acceptedCoinTypes, 1, "testnet", "oneCoin"⟩ ∧
      Paying pairChain pairConfig evenly ⟨pairConfig.acceptedCoinTypes, 2, "testnet", "oneCoin"⟩) ∧
    ¬AllCredited pairChain pairConfig evenly 0
      (declaredBy pairConfig.acceptedCoinTypes "testnet" "oneCoin" [1, 2]) opening.world ∧
    ¬AllCredited pairChain pairConfig evenly 0
      (declaredBy pairConfig.acceptedCoinTypes "testnet" "oneCoin" [2, 1]) opening.world := by
  have refused : ∀ order, (declareAll pairChain pairConfig evenly 0
        (declaredBy pairConfig.acceptedCoinTypes "testnet" "oneCoin" order) opening.world).map
        (fun ended => ended.1.map Except.isOk) = some [true, false] →
      ¬AllCredited pairChain pairConfig evenly 0
        (declaredBy pairConfig.acceptedCoinTypes "testnet" "oneCoin" order) opening.world := by
    rintro order outcomes ⟨replies, after, ran, credits, _⟩
    rw [ran, Option.map_some] at outcomes
    have failed : false ∈ replies.map Except.isOk := by
      rw [Option.some.inj outcomes]
      decide
    obtain ⟨reply, member, thrown⟩ := List.mem_map.mp failed
    obtain ⟨result, rfl, _⟩ := credits reply member
    cases thrown
  refine ⟨⟨?_, ?_⟩, refused [1, 2] (by decide +kernel), refused [2, 1] (by decide +kernel)⟩
  · exact ⟨"0xalice", ⟨"oneCoin", "0xsender", [(fullTag "0x2::sui::SUI", 50)]⟩, rfl, by simp, by decide⟩
  · exact ⟨"0xbob", ⟨"oneCoin", "0xsender", [(fullTag "0x2::sui::SUI", 8)]⟩, rfl, by simp, by decide⟩

end MpcKit.Billing
