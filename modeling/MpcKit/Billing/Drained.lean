import MpcKit.Async.Alone
import MpcKit.Billing.Coins
import MpcKit.Billing.Floor

/-! What a sweep leaves at the deposit address. A listing answers with its first page; nothing but the
sweep moves coins while it runs. -/

namespace MpcKit.Sweep
open MpcKit.Backend MpcKit.Async
open Program (fold unwrap)

/-- How much one page of a listing holds. -/
structure Pages where
  coins : Nat
  balances : Nat

/-- The first page of the balances of an address. -/
def Coins.balances (coins : Coins) (size : Nat) (owner : String) : List Balance :=
  ((coins.typesAt owner).take size).map (fun coinType => ⟨coinType, coins.total owner coinType⟩)

/-- The coins of every network. -/
abbrev World := String → Coins

/-- What the outside decides at one await. -/
structure Env where
  /-- The call fails; a transaction may have executed all the same. -/
  fails : Option Thrown
  feed : Pricing.Registry × Pricing.PriceFeedSnapshot
  signature : String
  lands : Bool
  digest : String
  balanceChanges : List BalanceChange
  status : String

def Env.answer {α : Type} (env : Env) (value : α) : Except Thrown α :=
  match env.fails with
  | some error => .error error
  | none => .ok value

def exec (pages : Pages) : (op : Op) → Env → World → Option (Res op × World)
  | .listBalances network owner, env, world => some (env.answer ((world network).balances pages.balances owner), world)
  | .priceFeed, env, world => some (env.feed, world)
  | .listCoins network owner coinType, env, world =>
    some (env.answer ((world network).page pages.coins owner coinType), world)
  | .build _ _, env, world => some (env.answer (), world)
  | .signTransaction _ _, env, world => some (env.answer env.signature, world)
  | .executeTransaction network tx _, env, world =>
    match if env.lands then (world network).execute tx else none with
    | some coins =>
      some (env.answer (.transaction env.digest env.balanceChanges), Function.update world network coins)
    | none => some (env.answer (.failedTransaction env.status), world)

section Statement

variable (config : Config)

/-- `BILLING_ACCEPTED_COIN_TYPES` has the type. -/
def Accepted (coinType : String) : Prop :=
  config.feed.normalizeStructTag coinType ∈ config.acceptedCoinTypes.map config.feed.normalizeStructTag

/-- The sender has no accepted coin left, and the destination has all of them. -/
structure Drained (sender dest : String) (before after : Coins) : Prop where
  empty : ∀ coin ∈ after.rows, coin.owner = sender → ¬Accepted config coin.coinType
  received : ∀ coinType, Accepted config coinType →
    after.total dest coinType = before.total dest coinType + before.total sender coinType

/-- The destination is another address, and one page shows every coin type and every coin that counts. -/
structure OnePage (pages : Pages) (sender dest : String) (coins : Coins) : Prop where
  apart : dest ≠ sender
  positive : ∀ coin ∈ coins.rows, coin.owner = sender → Accepted config coin.coinType →
    0 < coins.total sender coin.coinType
  types : ∀ coin ∈ coins.rows, coin.owner = sender → Accepted config coin.coinType →
    coin.coinType ∈ (coins.typesAt sender).take pages.balances
  objects : ∀ coin ∈ coins.rows, coin.owner = sender → Accepted config coin.coinType →
    (coins.heldOf sender coin.coinType).length ≤ pages.coins

end Statement

/-! ### The types of a sweep -/

/-- The coin types a sweep finds eligible. -/
def sweepTypes (config : Config) (pages : Pages) (coins : Coins) (sender : String) : List String :=
  ((coins.balances pages.balances sender).filter (fun balance => Eligible config balance)).map Balance.coinType

section Types

variable {config : Config} {pages : Pages} {coins : Coins} {sender : String}

theorem mem_sweepTypes {coinType : String} : coinType ∈ sweepTypes config pages coins sender ↔
    coinType ∈ (coins.typesAt sender).take pages.balances ∧ Accepted config coinType ∧ 0 < coins.total sender coinType := by
  simp only [sweepTypes, List.mem_map, List.mem_filter, Coins.balances, decide_eq_true_eq]
  constructor
  · rintro ⟨_, ⟨⟨coinType, listed, rfl⟩, accepted, positive⟩, rfl⟩
    exact ⟨listed, accepted, positive⟩
  · rintro ⟨listed, accepted, positive⟩
    exact ⟨_, ⟨⟨coinType, listed, rfl⟩, accepted, positive⟩, rfl⟩

theorem nodup_sweepTypes : (sweepTypes config pages coins sender).Nodup := by
  have listed : ((coins.balances pages.balances sender).map Balance.coinType) = (coins.typesAt sender).take pages.balances := by
    rw [Coins.balances, List.map_map]
    exact List.map_id _
  have once : ((coins.balances pages.balances sender).map Balance.coinType).Nodup := by
    rw [listed]
    exact (List.nodup_dedup _).sublist (List.take_sublist _ _)
  exact once.sublist (List.filter_sublist.map Balance.coinType)

theorem mem_heldOf {owner coinType : String} {coin : Coin} :
    coin ∈ coins.heldOf owner coinType ↔ coin ∈ coins.rows ∧ coin.owner = owner ∧ coin.coinType = coinType := by
  simp [Coins.heldOf, List.mem_filter]

/-- What the sweep's transaction does is a drain exactly where one page shows all there is. -/
theorem drained_iff {dest : String} (some : sweepTypes config pages coins sender ≠ []) :
    Drained config sender dest coins
      (coins.run sender (coins.sweep pages.coins sender dest (sweepTypes config pages coins sender))) ↔
    OnePage config pages sender dest coins := by
  have once : (sweepTypes config pages coins sender).Nodup := nodup_sweepTypes
  constructor
  · intro drained
    have apart : dest ≠ sender := by
      rintro rfl
      obtain ⟨coinType, member⟩ := List.exists_mem_of_ne_nil _ some
      obtain ⟨listed, accepted, _⟩ := mem_sweepTypes.mp member
      obtain ⟨coin, held, typed⟩ := List.mem_map.mp (List.mem_dedup.mp (List.mem_of_mem_take listed))
      obtain ⟨there, own⟩ := List.mem_filter.mp held
      have present : coins.heldOf dest coinType ≠ [] :=
        List.ne_nil_of_mem (mem_heldOf.mpr ⟨there, of_decide_eq_true own, typed⟩)
      obtain ⟨left, remains⟩ := List.exists_mem_of_ne_nil _ (run_sweep_self pages.coins once present)
      obtain ⟨inside, mine, type⟩ := mem_heldOf.mp remains
      exact drained.empty left inside mine (type ▸ accepted)
    have gone : ∀ coin ∈ coins.rows, coin.owner = sender → Accepted config coin.coinType →
        (if coin.coinType ∈ sweepTypes config pages coins sender then (coins.heldOf sender coin.coinType).drop pages.coins
          else coins.heldOf sender coin.coinType) = [] := by
      intro coin _ _ accepted
      rw [← (run_sweep apart pages.coins once coin.coinType).1, List.eq_nil_iff_forall_not_mem]
      intro left remains
      obtain ⟨inside, mine, type⟩ := mem_heldOf.mp remains
      exact drained.empty left inside mine (type ▸ accepted)
    have swept : ∀ coin ∈ coins.rows, coin.owner = sender → Accepted config coin.coinType →
        coin.coinType ∈ sweepTypes config pages coins sender := by
      intro coin there own accepted
      by_contra other
      have left := gone coin there own accepted
      rw [if_neg other] at left
      exact List.ne_nil_of_mem (mem_heldOf.mpr ⟨there, own, rfl⟩) left
    refine ⟨apart, fun coin there own accepted => ?_, fun coin there own accepted => ?_, fun coin there own accepted => ?_⟩
    · exact (mem_sweepTypes.mp (swept coin there own accepted)).2.2
    · exact (mem_sweepTypes.mp (swept coin there own accepted)).1
    · have left := gone coin there own accepted
      rw [if_pos (swept coin there own accepted)] at left
      exact List.drop_eq_nil_iff.mp left
  · intro complete
    have swept : ∀ coin ∈ coins.rows, coin.owner = sender → Accepted config coin.coinType →
        coin.coinType ∈ sweepTypes config pages coins sender := fun coin there own accepted =>
      mem_sweepTypes.mpr ⟨complete.types coin there own accepted, accepted, complete.positive coin there own accepted⟩
    have short : ∀ coinType, Accepted config coinType → (coins.heldOf sender coinType).length ≤ pages.coins := by
      intro coinType accepted
      cases held : coins.heldOf sender coinType with
      | nil => exact Nat.zero_le _
      | cons coin rest =>
        obtain ⟨there, own, rfl⟩ := mem_heldOf.mp (held ▸ List.mem_cons_self : coin ∈ coins.heldOf sender coinType)
        exact held ▸ complete.objects coin there own accepted
    constructor
    · intro left inside mine accepted
      have remains : left ∈ (coins.run sender (coins.sweep pages.coins sender dest
          (sweepTypes config pages coins sender))).heldOf sender left.coinType := mem_heldOf.mpr ⟨inside, mine, rfl⟩
      rw [(run_sweep complete.apart pages.coins once left.coinType).1] at remains
      split at remains
      next => simp [List.drop_eq_nil_of_le (short left.coinType accepted)] at remains
      next other =>
        obtain ⟨there, own, _⟩ := mem_heldOf.mp remains
        exact other (swept left there own accepted)
    · intro coinType accepted
      rw [(run_sweep complete.apart pages.coins once coinType).2]
      split
      next =>
        rw [List.take_of_length_le (short coinType accepted)]
        rfl
      next other =>
        have none : coins.heldOf sender coinType = [] := by
          rw [List.eq_nil_iff_forall_not_mem]
          intro coin member
          obtain ⟨there, own, rfl⟩ := mem_heldOf.mp member
          exact other (swept coin there own accepted)
        have nothing : coins.total sender coinType = 0 := by rw [Coins.total, none, List.map_nil, List.sum_nil]
        rw [nothing]

end Types

/-! ### Running it -/

section Running

variable {config : Config} {pages : Pages} {world after : World} {history : History Op Res}

theorem answer_ok {α : Type} {env : Env} {value answer : α} (answered : env.answer value = .ok answer) : answer = value := by
  unfold Env.answer at answered
  split at answered
  · cases answered
  · exact (Except.ok.inj answered).symm

/-- No transaction was handed to the chain. -/
def Unsubmitted (history : History Op Res) : Prop := ∀ entry ∈ history, ¬IsSubmission entry.1

theorem unsubmitted_cons {entry : Entry Op Res} (silent : ¬IsSubmission entry.1) (rest : Unsubmitted history) :
    Unsubmitted (entry :: history) := by
  intro other member
  rcases List.mem_cons.mp member with rfl | later
  · exact silent
  · exact rest other later

/-- An operation that hands nothing to the chain leaves the world as it was. -/
theorem keeps_of_harmless {op : Op} (harmless : ¬IsSubmission op) {env : Env} {answer : Res op} {middle : World}
    (performed : exec pages op env world = some (answer, middle)) : middle = world := by
  cases op with
  | executeTransaction network tx signatures => exact absurd trivial harmless
  | listBalances network owner => exact (Prod.mk.inj (Option.some.inj performed)).2.symm
  | priceFeed => exact (Prod.mk.inj (Option.some.inj performed)).2.symm
  | listCoins network owner coinType => exact (Prod.mk.inj (Option.some.inj performed)).2.symm
  | build network tx => exact (Prod.mk.inj (Option.some.inj performed)).2.symm
  | signTransaction signer tx => exact (Prod.mk.inj (Option.some.inj performed)).2.symm

/-- Such a call throws, or the function goes on in the same world. -/
theorem ran_call {op : Op} {α β : Type} {read : Res op → Except Thrown α} {next : α → Prog β} {result : Except Thrown β}
    (harmless : ¬IsSubmission op)
    (ran : (Program.await op (fun answer => (unwrap (read answer)).bind next)).Ran (exec pages) world history result after) :
    (after = world ∧ Unsubmitted history ∧ ∃ error, result = .error error) ∨
      ∃ env answer value rest, exec pages op env world = some (answer, world) ∧ read answer = .ok value ∧
        (next value).Ran (exec pages) world rest result after ∧ history = ⟨op, answer⟩ :: rest := by
  cases ran with
  | @await _ _ _ middle _ answer env rest _ performed ran =>
    obtain rfl := keeps_of_harmless harmless performed
    replace ran : ((unwrap (read answer)).bind next).Ran (exec pages) middle rest result after := ran
    cases answered : read answer with
    | error error =>
      rw [answered] at ran
      cases ran
      exact .inl ⟨rfl, unsubmitted_cons harmless (fun _ member => by cases member), error, rfl⟩
    | ok value =>
      rw [answered] at ran
      exact .inr ⟨env, answer, value, rest, performed, answered, ran, rfl⟩

theorem transferCoins_eq (network sender dest : String) (commands : List Command) (balance : Balance) :
    transferCoins network sender dest commands balance =
      (Program.await (.listCoins network sender balance.coinType) (fun listed =>
        (unwrap listed).bind (fun ids => .ret (commands ++ handOver dest ids))) : Prog (List Command)) := by
  unfold transferCoins
  simp only [Program.bind_eq, Program.perform_bind]
  congr 1
  funext listed
  cases listed with
  | error error => rfl
  | ok ids =>
    cases ids with
    | nil => simp [unwrap, handOver]
    | cons head rest => cases rest <;> rfl

theorem transferCoins_ran {network sender dest : String} {commands : List Command} {balance : Balance}
    {result : Except Thrown (List Command)}
    (ran : (transferCoins network sender dest commands balance).Ran (exec pages) world history result after) :
    after = world ∧ Unsubmitted history ∧ ∀ all, result = .ok all →
      all = commands ++ handOver dest ((world network).page pages.coins sender balance.coinType) := by
  rw [transferCoins_eq] at ran
  rcases ran_call id ran with ⟨kept, silent, error, rfl⟩ | ⟨env, answer, ids, later, performed, answered, onward, past⟩
  · exact ⟨kept, silent, fun all same => by cases same⟩
  · clear ran
    cases onward
    obtain ⟨rfl, _⟩ := Prod.mk.inj (Option.some.inj performed)
    rw [past]
    refine ⟨rfl, unsubmitted_cons id (fun _ member => by cases member), fun all same => ?_⟩
    rw [← Except.ok.inj same, answer_ok answered]

theorem Unsubmitted.append {rest : History Op Res} (first : Unsubmitted history) (second : Unsubmitted rest) :
    Unsubmitted (history ++ rest) := by
  intro entry member
  rcases List.mem_append.mp member with early | late
  · exact first entry early
  · exact second entry late

/-- The loop reads, and its transaction is the sweep of the types. -/
theorem transferAll_ran {network sender dest : String} {eligible : List Balance} {commands : List Command}
    {result : Except Thrown (List Command)}
    (ran : (fold (transferCoins network sender dest) commands eligible).Ran (exec pages) world history result after) :
    after = world ∧ Unsubmitted history ∧ ∀ all, result = .ok all →
      all = commands ++ (world network).sweep pages.coins sender dest (eligible.map Balance.coinType) := by
  induction eligible generalizing commands history world with
  | nil =>
    cases ran
    refine ⟨rfl, (fun _ member => by cases member), fun all same => ?_⟩
    rw [← Except.ok.inj same, List.map_nil, Coins.sweep, List.flatMap_nil, List.append_nil]
  | cons balance rest ih =>
    rcases ran.split with ⟨more, middle, first, later, one, onward, rfl⟩ | ⟨error, one, rfl⟩
    · obtain ⟨rfl, quiet, value⟩ := transferCoins_ran one
      obtain ⟨rfl, silent, total⟩ := ih onward
      refine ⟨rfl, quiet.append silent, fun all same => ?_⟩
      rw [total all same, value more rfl, List.append_assoc]
      rfl
    · obtain ⟨kept, silent, _⟩ := transferCoins_ran one
      exact ⟨kept, silent, fun all same => by cases same⟩

/-- What the second half comes to. -/
def Submitted (world after : World) (network sender : String) (commands : List Command) (history : History Op Res)
    (result : Except Thrown SweepResult) : Prop :=
  (after = world ∧ Unsubmitted history ∧ ∃ error, result = .error error) ∨
    ¬Unsubmitted history ∧ ∀ value, result = .ok value → value.status = .swept ∧
      after network = (world network).run sender commands

theorem Submitted.cons {network sender : String} {commands : List Command} {entry : Entry Op Res}
    {result : Except Thrown SweepResult} (harmless : ¬IsSubmission entry.1)
    (ended : Submitted world after network sender commands history result) :
    Submitted world after network sender commands (entry :: history) result := by
  rcases ended with ⟨kept, silent, thrown⟩ | ⟨loud, returned⟩
  · exact .inl ⟨kept, unsubmitted_cons harmless silent, thrown⟩
  · exact .inr ⟨fun silent => loud (fun other member => silent other (List.mem_cons_of_mem _ member)), returned⟩

theorem run_of_execute {coins executed : Coins} {lands : Bool} {tx : Transaction}
    (landed : (if lands then coins.execute tx else none) = some executed) : executed = coins.run tx.sender tx.commands := by
  cases lands with
  | false => cases landed
  | true =>
    simp only [if_true, Coins.execute] at landed
    split at landed
    · exact (Option.some.inj landed).symm
    · cases landed

/-- Up to its last call `submit` changes nothing; the last one executes the transaction, or does not. -/
theorem submit_ran {network sender sponsor dest : String} {commands : List Command} {result : Except Thrown SweepResult}
    (ran : (submit network sender sponsor dest commands).Ran (exec pages) world history result after) :
    Submitted world after network sender commands history result := by
  unfold submit at ran
  simp only [Program.bind_eq, Program.perform_bind] at ran
  rcases ran_call id ran with ended | ⟨_, _, _, _, _, _, signing, rfl⟩
  · exact .inl ended
  clear ran
  rcases ran_call id signing with ended | ⟨_, _, _, _, _, _, sponsoring, rfl⟩
  · exact .cons id (.inl ended)
  clear signing
  rcases ran_call id sponsoring with ended | ⟨_, _, _, _, _, _, executing, rfl⟩
  · exact .cons id (.cons id (.inl ended))
  clear sponsoring
  refine .cons id (.cons id (.cons id (.inr ⟨fun silent => ?_, fun value returned => ?_⟩)))
  · cases executing
    exact silent _ List.mem_cons_self trivial
  · subst returned
    cases executing with
    | @await _ _ _ middle _ answer env rest _ performed returned =>
      replace returned : ((unwrap answer).bind (fun execution => unwrap (reply dest execution))).Ran (exec pages)
        middle rest (.ok value) after := returned
      simp only [exec] at performed
      split at performed
      next coins executed =>
        obtain ⟨rfl, rfl⟩ := Prod.mk.inj (Option.some.inj performed)
        cases answered : env.answer (Execution.transaction env.digest env.balanceChanges) with
        | error error =>
          rw [answered] at returned
          cases returned
        | ok execution =>
          rw [answered, answer_ok answered] at returned
          have replied : (unwrap (reply dest (.transaction env.digest env.balanceChanges))).Ran (exec pages)
            (Function.update world network coins) rest (.ok value) after := returned
          obtain ⟨same, rfl, _⟩ := Program.ran_unwrap replied
          obtain rfl := Except.ok.inj same
          exact ⟨rfl, by rw [Function.update_self, run_of_execute executed]⟩
      next =>
        obtain ⟨rfl, rfl⟩ := Prod.mk.inj (Option.some.inj performed)
        cases answered : env.answer (Execution.failedTransaction env.status) with
        | error error =>
          rw [answered] at returned
          cases returned
        | ok execution =>
          rw [answered, answer_ok answered] at returned
          have replied : (unwrap (reply dest (.failedTransaction env.status))).Ran (exec pages) world rest (.ok value)
            after := returned
          cases (Program.ran_unwrap replied).1

/-- The second half fails before anything was submitted, or it is the transaction of the eligible types. -/
theorem drain_ran {network sender sponsor dest : String} {eligible : List Balance} {result : Except Thrown SweepResult}
    (ran : (drain network sender sponsor dest eligible).Ran (exec pages) world history result after) :
    Submitted world after network sender ((world network).sweep pages.coins sender dest (eligible.map Balance.coinType))
      history result := by
  rcases ran.split with ⟨commands, middle, first, rest, listed, onward, rfl⟩ | ⟨error, listed, rfl⟩
  · obtain ⟨rfl, silent, value⟩ := transferAll_ran listed
    obtain rfl := value commands rfl
    rcases submit_ran onward with ⟨kept, quiet, thrown⟩ | ⟨loud, returned⟩
    · exact .inl ⟨kept, silent.append quiet, thrown⟩
    · exact .inr ⟨fun quiet => loud (fun entry member => quiet entry (List.mem_append_right _ member)), returned⟩
  · obtain ⟨kept, silent, _⟩ := transferAll_ran listed
    exact .inl ⟨kept, silent, error, rfl⟩

/-- How a whole sweep ends. -/
theorem sweepUserAddress_ran {userId : Uuid} {network : String} {result : Except Thrown SweepResult}
    (ran : (sweepUserAddress config userId network).Ran (exec pages) world history result after) :
    (after = world ∧ Unsubmitted history ∧ ∀ value, result = .ok value → value.status ≠ .swept) ∨
      ∃ dest sender, config.destination = some dest ∧ config.deriveDepositAddress userId network = .ok sender ∧
        sweepTypes config pages (world network) sender ≠ [] ∧ ¬Unsubmitted history ∧
        ∀ value, result = .ok value → value.status = .swept ∧ after network = (world network).run sender
          ((world network).sweep pages.coins sender dest (sweepTypes config pages (world network) sender)) := by
  have none : Unsubmitted ([] : History Op Res) := fun _ member => by cases member
  unfold sweepUserAddress at ran
  split at ran
  next =>
    cases ran
    exact .inl ⟨rfl, none, fun value same => by cases same⟩
  next dest there =>
    have there : config.destination = some dest := Option.mem_def.mp (Option.mem_filter_iff.mp there).1
    cases client : config.getSuiClient network with
    | error error =>
      rw [client] at ran
      cases ran
      exact .inl ⟨rfl, none, fun value same => by cases same⟩
    | ok done =>
      cases derived : config.deriveDepositAddress userId network with
      | error error =>
        rw [client, derived] at ran
        cases ran
        exact .inl ⟨rfl, none, fun value same => by cases same⟩
      | ok sender =>
        cases wallet : config.hotWallet with
        | error error =>
          rw [client, derived, wallet] at ran
          cases ran
          exact .inl ⟨rfl, none, fun value same => by cases same⟩
        | ok sponsor =>
          rw [client, derived, wallet] at ran
          rcases ran_call id ran with ⟨kept, silent, error, rfl⟩ | ⟨env, answer, balances, rest, performed, answered, onward, past⟩
          · exact .inl ⟨kept, silent, fun value same => by cases same⟩
          clear ran
          obtain ⟨rfl, _⟩ := Prod.mk.inj (Option.some.inj performed)
          obtain rfl := answer_ok answered
          rw [past]
          simp only [Program.bind_eq, Program.perform_bind] at onward
          split at onward
          next =>
            cases onward
            exact .inl ⟨rfl, unsubmitted_cons id none, fun value same => by cases same; exact SweepStatus.noConfusion⟩
          next some =>
            cases onward with
            | await feed read ran =>
              obtain ⟨rfl, rfl⟩ := Prod.mk.inj (Option.some.inj read)
              beta_reduce at ran
              split at ran
              next =>
                cases ran
                exact .inl ⟨rfl, unsubmitted_cons id (unsubmitted_cons id none), fun value same => by cases same; exact SweepStatus.noConfusion⟩
              next =>
                rcases drain_ran ran with ⟨kept, silent, error, rfl⟩ | ⟨loud, returned⟩
                · exact .inl ⟨kept, unsubmitted_cons id (unsubmitted_cons id silent), fun value same => by cases same⟩
                · refine .inr ⟨dest, sender, there, rfl, List.map_eq_nil_iff.not.mpr some, fun silent => loud ?_, returned⟩
                  exact fun entry member => silent entry (List.mem_cons_of_mem _ (List.mem_cons_of_mem _ member))

/-- A sweep that nobody interferes with drains the address exactly where another address is the destination
and one page shows all there is; as long as it has not submitted anything, it has moved nothing. -/
theorem sweep_drains (config : Config) (pages : Pages) (userId : Uuid) (network : String) (world after : World)
    (history : History Op Res) (result : Except Thrown SweepResult)
    (ran : (sweepUserAddress config userId network).Ran (exec pages) world history result after) :
    (∀ value, result = .ok value → value.status = .swept → ∃ dest sender, config.destination = some dest ∧
      config.deriveDepositAddress userId network = .ok sender ∧
      (Drained config sender dest (world network) (after network) ↔ OnePage config pages sender dest (world network))) ∧
    ((∃ value, result = .ok value ∧ value.status ≠ .swept) ∨ Unsubmitted history → after = world) := by
  rcases sweepUserAddress_ran ran with ⟨rfl, _, unswept⟩ | ⟨dest, sender, there, derived, some, loud, returned⟩
  · exact ⟨fun value same swept => absurd swept (unswept value same), fun _ => rfl⟩
  · refine ⟨fun value same _ => ⟨dest, sender, there, derived, ?_⟩, fun ended => ?_⟩
    · rw [(returned value same).2]
      exact drained_iff some
    · rcases ended with ⟨value, same, unswept⟩ | silent
      · exact absurd (returned value same).1 unswept
      · exact absurd silent loud

end Running

/-- Every call succeeds, in a process that knows no price. -/
def calm : Env := ⟨none, (.empty, loaded), "signature", true, "digest", [], ""⟩

/-- 51 coins of one SUI each at the deposit address. -/
def crowded : Coins where
  rows := (List.range 51).map (fun index => ⟨index.repr, "deposit", "0x2::sui::SUI", 1000000000⟩)
  distinct := by decide +kernel

def sweptResult : SweepResult := ⟨.swept, some "digest", some []⟩

instance (pages : Pages) (sender dest : String) (coins : Coins) : Decidable (OnePage sampleConfig pages sender dest coins) :=
  have : DecidablePred (Accepted sampleConfig) := fun _ => inferInstanceAs (Decidable (_ ∈ _))
  decidable_of_iff (dest ≠ sender ∧ ∀ coin ∈ coins.rows, coin.owner = sender → Accepted sampleConfig coin.coinType →
      0 < coins.total sender coin.coinType ∧ coin.coinType ∈ (coins.typesAt sender).take pages.balances ∧
      (coins.heldOf sender coin.coinType).length ≤ pages.coins)
    ⟨fun holds => ⟨holds.1, fun coin there own accepted => (holds.2 coin there own accepted).1,
        fun coin there own accepted => (holds.2 coin there own accepted).2.1,
        fun coin there own accepted => (holds.2 coin there own accepted).2.2⟩,
      fun holds => ⟨holds.apart, fun coin there own accepted => ⟨holds.positive coin there own accepted,
        holds.types coin there own accepted, holds.objects coin there own accepted⟩⟩⟩

theorem sweep_drains_sample : ∃ history after,
    (sweepUserAddress sampleConfig 7 "testnet").Ran (exec ⟨51, 50⟩) (fun _ => crowded) history (.ok sweptResult) after ∧
      Drained sampleConfig "deposit" "treasury" crowded (after "testnet") := by
  have ended : ((sweepUserAddress sampleConfig 7 "testnet").alone (fun op => exec ⟨51, 50⟩ op calm) (fun _ => crowded)).map
      Prod.fst = some (.ok sweptResult) := by decide +kernel
  obtain ⟨⟨result, after⟩, ended, rfl⟩ := Option.map_eq_some_iff.mp ended
  obtain ⟨history, ran⟩ := Program.Ran.of_alone (fun _ => calm) ended
  obtain ⟨dest, sender, there, derived, drained⟩ := (sweep_drains _ _ _ _ _ _ _ _ ran).1 _ rfl rfl
  obtain rfl := Option.some.inj there
  obtain rfl := Except.ok.inj derived
  exact ⟨history, after, ran, drained.mpr (by decide +kernel)⟩

/-- The 51st coin is on the second page, which nobody asks for. -/
theorem second_page_stays : ∃ history after,
    (sweepUserAddress sampleConfig 7 "testnet").Ran (exec ⟨50, 50⟩) (fun _ => crowded) history (.ok sweptResult) after ∧
      ¬Drained sampleConfig "deposit" "treasury" crowded (after "testnet") := by
  have ended : ((sweepUserAddress sampleConfig 7 "testnet").alone (fun op => exec ⟨50, 50⟩ op calm) (fun _ => crowded)).map
      Prod.fst = some (.ok sweptResult) := by decide +kernel
  obtain ⟨⟨result, after⟩, ended, rfl⟩ := Option.map_eq_some_iff.mp ended
  obtain ⟨history, ran⟩ := Program.Ran.of_alone (fun _ => calm) ended
  refine ⟨history, after, ran, fun drained => ?_⟩
  rcases sweepUserAddress_ran ran with ⟨_, _, unswept⟩ | ⟨dest, sender, there, derived, some, _, returned⟩
  · exact unswept _ rfl rfl
  · obtain rfl := Option.some.inj there
    obtain rfl := Except.ok.inj derived
    rw [(returned _ rfl).2] at drained
    exact absurd ((drained_iff some).mp drained) (by decide +kernel)

end MpcKit.Sweep
