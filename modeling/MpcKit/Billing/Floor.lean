import MpcKit.Billing.Sweep
import MpcKit.Pricing.Configured

/-! The floor of the sweep in a process of each role. A role is the boot steps `index.ts` awaits for it;
the price feed is module state of the process that nothing but `warmPriceFeed` fills. -/

namespace MpcKit.Sweep
open MpcKit.Backend MpcKit.Async MpcKit.Pricing
open Program (unwrap)

/-! ### Processes -/

/-- `PROCESS_TYPE`. -/
inductive Role where
  | api
  | worker
  | both
  deriving DecidableEq, Repr

/-- The boot steps that touch the price feed or the sweep handler. -/
inductive BootStep where
  | warmPriceFeed
  | registerBillingJobs
  deriving DecidableEq, Repr

def startApi : List BootStep := [.warmPriceFeed]
def startWorker : List BootStep := [.registerBillingJobs]

/-- `main`: a step that throws ends the process. -/
def main (role : Role) : List BootStep :=
  (if role = .api ∨ role = .both then startApi else []) ++ (if role = .worker ∨ role = .both then startWorker else [])

structure Process where
  /-- What is left of `main`. -/
  todo : List BootStep
  registry : Registry
  snapshot : PriceFeedSnapshot
  /-- The first poll of `warmPriceFeed` is out, or its timer is set. -/
  polling : Bool
  sweepHandler : Bool

/-- The module state of `price-feed.ts` when it is loaded. -/
def loaded : PriceFeedSnapshot := ⟨fun _ => none, 0, 0, .fallback⟩

def boot (role : Role) : Process := ⟨main role, .empty, loaded, false, false⟩

inductive Event where
  | next (now : Time)
  | refresh (now : Time) (response : Response)

section Floor

variable (config : Config) (opts : WarmPriceFeedOptions)

def Process.step (process : Process) : Event → Option Process
  | .next now => match process.todo with
    | [] => none
    | .warmPriceFeed :: rest =>
      let registry := warmRegistry config.feed opts
      some { process with
        todo := rest, registry := registry, snapshot := warmSnapshot config.feed registry now, polling := true }
    | .registerBillingJobs :: rest => some { process with todo := rest, sweepHandler := true }
  | .refresh now response =>
    if process.polling then
      some { process with snapshot := refreshNow config.feed process.registry process.snapshot now response }
    else none

inductive Reached (role : Role) : Process → Prop where
  | boot : Reached role (boot role)
  | step {process next : Process} (event : Event) (reached : Reached role process)
      (stepped : process.step config opts event = some next) : Reached role next

/-! ### What an address is worth -/

/-- The environment has a price and decimals for the coin type. -/
def Configured (coinType : String) : Prop :=
  (∃ entry ∈ config.feed.usdPrices, config.feed.normalizeStructTag entry.1 = config.feed.normalizeStructTag coinType) ∧
    ∃ entry ∈ config.feed.coinDecimals, config.feed.normalizeStructTag entry.1 = config.feed.normalizeStructTag coinType

instance (coinType : String) : Decidable (Configured config coinType) := inferInstanceAs (Decidable (_ ∧ _))

/-- The snapshot price, or the static one of the environment in a process whose snapshot has none. -/
def priceIn (process : Process) (coinType : String) : Int :=
  ((process.snapshot.pricesMicroUsd coinType).orElse
    (fun _ => staticPrices config.feed (warmRegistry config.feed opts) coinType)).getD 0

/-- In micro-dollars, with the decimals of the environment. -/
def worth (process : Process) (balance : Balance) : Int :=
  let coinType := config.feed.normalizeStructTag balance.coinType
  match (warmRegistry config.feed opts).get coinType with
  | some spec => (balance.balance * priceIn config opts process coinType).tdiv (10 ^ spec.decimals)
  | none => 0

def totalWorth (process : Process) (balances : List Balance) : Int := (balances.map (worth config opts process)).sum

/-! ### Submitting -/

/-- What a sweep is told in a process, about an address with these balances. -/
def Told (process : Process) (balances : List Balance) : (op : Op) → Res op → Prop
  | .listBalances _ _, answer => ∀ found, answer = .ok found → found = balances
  | .priceFeed, answer => answer = (process.registry, process.snapshot)
  | _, _ => True

/-- Some run of the sweep gets to `executeTransaction`. -/
def Submits (process : Process) (balances : List Balance) (userId : Uuid) (network : String) : Prop :=
  (sweepUserAddress config userId network).Gets (Told process balances) IsSubmission

/-- The settings a sweep cannot start without. -/
structure Ready (userId : Uuid) (network : String) : Prop where
  destination : config.destination.filter (fun dest => dest ≠ "") ≠ none
  client : config.getSuiClient network = .ok ()
  sender : ∃ address, config.deriveDepositAddress userId network = .ok address
  sponsor : ∃ address, config.hotWallet = .ok address

end Floor

/-! ### What a process of each role knows -/

/-- The feed of the process is the configured one, however often it was refreshed. -/
structure Warm (config : Config) (opts : WarmPriceFeedOptions) (process : Process) : Prop where
  registry : process.registry = warmRegistry config.feed opts
  seeded : Seeded process.registry process.snapshot.pricesMicroUsd
  backed : AllBacked config.feed process.registry process.snapshot.pricesMicroUsd

/-- Nothing has touched the feed. -/
structure Cold (process : Process) : Prop where
  todo : .warmPriceFeed ∉ process.todo
  registry : process.registry = .empty
  snapshot : process.snapshot = loaded
  idle : process.polling = false

section Roles

variable {config : Config} {opts : WarmPriceFeedOptions} {role : Role} {process : Process}

theorem warm_of_both (reached : Reached config opts .both process) :
    process = boot .both ∨ Warm config opts process := by
  induction reached with
  | boot => exact .inl rfl
  | @step process next event _ stepped ih =>
    cases event with
    | next now =>
      rcases ih with rfl | warm
      · obtain rfl := Option.some.inj stepped
        exact .inr ⟨rfl, seeded_static _ _, backed_static _⟩
      · simp only [Process.step] at stepped
        split at stepped
        · cases stepped
        · obtain rfl := Option.some.inj stepped
          exact .inr ⟨rfl, seeded_static _ _, backed_static _⟩
        · obtain rfl := Option.some.inj stepped
          exact .inr ⟨warm.registry, warm.seeded, warm.backed⟩
    | refresh now response =>
      simp only [Process.step] at stepped
      split at stepped
      next polling =>
        obtain rfl := Option.some.inj stepped
        rcases ih with rfl | warm
        · cases polling
        · exact .inr ⟨warm.registry, warm.seeded.refresh now response, warm.backed.refresh now response⟩
      next => cases stepped

theorem cold_of_worker (reached : Reached config opts .worker process) : Cold process := by
  induction reached with
  | boot => exact ⟨by decide, rfl, rfl, rfl⟩
  | @step process next event _ stepped cold =>
    cases event with
    | next now =>
      have todo := cold.todo
      simp only [Process.step] at stepped
      split at stepped
      next => cases stepped
      next rest same => exact absurd (same ▸ List.mem_cons_self) todo
      next rest same =>
        obtain rfl := Option.some.inj stepped
        exact ⟨fun member => todo (same ▸ List.mem_cons_of_mem _ member), cold.registry, cold.snapshot, cold.idle⟩
    | refresh now response =>
      simp only [Process.step, cold.idle] at stepped
      cases stepped

theorem no_handler_of_api (reached : Reached config opts .api process) :
    .registerBillingJobs ∉ process.todo ∧ process.sweepHandler = false := by
  induction reached with
  | boot => exact ⟨by decide, rfl⟩
  | @step process next event _ stepped ih =>
    obtain ⟨todo, none⟩ := ih
    cases event with
    | next now =>
      simp only [Process.step] at stepped
      split at stepped
      next => cases stepped
      next rest same =>
        obtain rfl := Option.some.inj stepped
        exact ⟨fun member => todo (same ▸ List.mem_cons_of_mem _ member), none⟩
      next rest same => exact absurd (same ▸ List.mem_cons_self) todo
    | refresh now response =>
      simp only [Process.step] at stepped
      split at stepped
      · obtain rfl := Option.some.inj stepped
        exact ⟨todo, none⟩
      · cases stepped

/-- A warm process prices what is configured, at no negative value. -/
theorem Warm.quote (warm : Warm config opts process) (nonneg : Nonnegative (warmRegistry config.feed opts))
    (idempotent : ∀ tag, config.feed.normalizeStructTag (config.feed.normalizeStructTag tag) =
      config.feed.normalizeStructTag tag)
    (rounded : ∀ number, 0 ≤ number → 0 ≤ config.feed.toDouble number) {balance : Balance}
    (configured : Configured config balance.coinType) :
    (∃ price, microUsdFromAtomic config.feed process.registry process.snapshot balance.coinType balance.balance =
      .ok (worth config opts process balance, price)) ∧ 0 ≤ worth config opts process balance := by
  obtain ⟨⟨entry, member, named⟩, _⟩ := configured
  obtain ⟨spec, there, key, static⟩ := priced_warmRegistry idempotent opts member
  rw [named] at key
  have known : spec ∈ process.registry.specs := warm.registry ▸ there
  obtain ⟨price, found⟩ := Option.ne_none_iff_exists'.mp (warm.seeded spec known static)
  have sign : 0 ≤ price := (warm.backed spec known price found).nonneg rounded (nonneg spec there)
  rw [key] at found
  have there : (warmRegistry config.feed opts).get (config.feed.normalizeStructTag balance.coinType) = some spec :=
    key ▸ Registry.get_of_mem there
  have value : worth config opts process balance = (balance.balance * price).tdiv (10 ^ spec.decimals) := by
    simp only [worth, there, priceIn, found, Option.orElse_some, Option.getD_some]
  rw [value]
  constructor
  · refine ⟨price, ?_⟩
    rw [← warm.registry] at there
    simp only [microUsdFromAtomic, found, there]
    rfl
  · exact Int.tdiv_nonneg (mul_nonneg (Int.natCast_nonneg _) sign) (by positivity)

theorem totalMicroUsd_eq {registry : Registry} {snapshot : PriceFeedSnapshot} {value : Balance → Int} {balances : List Balance}
    (quoted : ∀ balance ∈ balances, ∃ price,
      microUsdFromAtomic config.feed registry snapshot balance.coinType balance.balance = .ok (value balance, price))
    (total : Int) : totalMicroUsd config registry snapshot total balances = total + (balances.map value).sum := by
  induction balances generalizing total with
  | nil => simp [totalMicroUsd]
  | cons balance rest ih =>
    obtain ⟨price, found⟩ := quoted balance List.mem_cons_self
    rw [totalMicroUsd, found, List.map_cons, List.sum_cons, ← add_assoc]
    exact ih (fun other member => quoted other (List.mem_cons_of_mem _ member)) _

theorem sum_filter_le {value : Balance → Int} {balances : List Balance} (nonneg : ∀ balance ∈ balances, 0 ≤ value balance)
    (test : Balance → Bool) :
    0 ≤ ((balances.filter test).map value).sum ∧ ((balances.filter test).map value).sum ≤ (balances.map value).sum := by
  induction balances with
  | nil => simp
  | cons balance rest ih =>
    obtain ⟨low, high⟩ := ih (fun other member => nonneg other (List.mem_cons_of_mem _ member))
    have first := nonneg balance List.mem_cons_self
    rw [List.filter_cons]
    split
    · simp only [List.map_cons, List.sum_cons]
      omega
    · simp only [List.map_cons, List.sum_cons]
      omega

/-- In a cold process the first coin has no price. -/
theorem Cold.total (cold : Cold process) {balances : List Balance} (some : balances ≠ []) :
    totalMicroUsd config process.registry process.snapshot 0 balances = -1 := by
  cases balances with
  | nil => exact absurd rfl some
  | cons balance rest =>
    have unpriced : microUsdFromAtomic config.feed process.registry process.snapshot balance.coinType balance.balance =
        .error ⟨s!"price-feed: no USD price for {balance.coinType}", none⟩ := by
      rw [cold.snapshot]
      rfl
    rw [totalMicroUsd, unpriced]

end Roles

/-! ### When a sweep submits -/

section Submitting

variable {config : Config} {process : Process} {balances : List Balance} {userId : Uuid} {network : String}

/-- No operation of the call is a submission. -/
def silent (process : Process) (balances : List Balance) : Contract Op Res Thrown SweepResult where
  answers := Told process balances
  before _ op := ¬IsSubmission op
  after _ _ := True

/-- One object of each coin type is listed, and everything succeeds. -/
theorem drain_submits (sender sponsor dest : String) (eligible : List Balance) :
    (drain network sender sponsor dest eligible).Gets (Told process balances) IsSubmission := by
  unfold drain
  generalize [] = commands
  induction eligible generalizing commands with
  | nil => exact .later (.ok ()) trivial (.later (.ok "user") trivial (.later (.ok "sponsor") trivial (.here trivial)))
  | cons balance rest ih => exact .later (.ok [balance.coinType]) trivial (ih _)

/-- The total that lets a sweep go on: none at all, or enough. -/
def Enough (config : Config) (process : Process) (balances : List Balance) : Prop :=
  let eligible := balances.filter (fun balance => Eligible config balance)
  let total := totalMicroUsd config process.registry process.snapshot 0 eligible
  eligible ≠ [] ∧ ¬(0 ≤ total ∧ total < config.minMicro)

theorem submits_iff : Submits config process balances userId network ↔
    Ready config userId network ∧ Enough config process balances := by
  constructor
  · intro submits
    by_contra stopped
    have quiet : (sweepUserAddress config userId network).Obeys (silent process balances) [] := by
      unfold sweepUserAddress
      split
      next => trivial
      next dest there =>
        cases client : config.getSuiClient network with
        | error error => trivial
        | ok done =>
          cases derived : config.deriveDepositAddress userId network with
          | error error => trivial
          | ok sender =>
            cases wallet : config.hotWallet with
            | error error => trivial
            | ok sponsor =>
              have ready : Ready config userId network := ⟨by rw [there]; exact Option.some_ne_none _, client, ⟨_, derived⟩, ⟨_, wallet⟩⟩
              refine ⟨id, fun answer known => ?_⟩
              cases answer with
              | error error => trivial
              | ok found =>
                obtain rfl := known found rfl
                simp only [unwrap, Program.bind_eq, Program.ret_bind]
                split
                next => trivial
                next some =>
                  refine ⟨id, fun answer known => ?_⟩
                  obtain rfl := known
                  simp only [Program.ret_bind]
                  split
                  next => trivial
                  next enough => exact absurd ⟨ready, some, enough⟩ stopped
    obtain ⟨_, _, silent, loud⟩ := quiet.of_gets submits
    exact silent loud
  · rintro ⟨⟨there, client, ⟨sender, derived⟩, ⟨sponsor, wallet⟩⟩, some, enough⟩
    obtain ⟨dest, there⟩ := Option.ne_none_iff_exists'.mp there
    unfold Submits sweepUserAddress
    rw [there, client, derived, wallet]
    refine .later (.ok balances) (fun found same => (Except.ok.inj same).symm) ?_
    simp only [unwrap, Program.bind_eq, Program.ret_bind]
    rw [if_neg some]
    refine .later (process.registry, process.snapshot) rfl ?_
    rw [Program.ret_bind, if_neg enough]
    exact drain_submits sender sponsor dest _

end Submitting

/-- Balances in configured coin types, worth less than the floor: no sweep of them is submitted exactly
in a process that has warmed its price feed, or where there is nothing to sweep or no way to. -/
theorem floor_honoured (config : Config) (opts : WarmPriceFeedOptions)
    (idempotent : ∀ tag, config.feed.normalizeStructTag (config.feed.normalizeStructTag tag) =
      config.feed.normalizeStructTag tag)
    (rounded : ∀ number, 0 ≤ number → 0 ≤ config.feed.toDouble number)
    (positive : ∀ entry ∈ config.feed.usdPrices, 0 < entry.2)
    (role : Role) (process : Process) (reached : Reached config opts role process) (handler : process.sweepHandler = true)
    (userId : Uuid) (network : String) (balances : List Balance)
    (configured : ∀ balance ∈ balances, Configured config balance.coinType)
    (dust : totalWorth config opts process balances < config.minMicro) :
    ¬Submits config process balances userId network ↔
      role = .both ∨ (∀ balance ∈ balances, ¬Eligible config balance) ∨ ¬Ready config userId network := by
  have none_iff : balances.filter (fun balance => Eligible config balance) = [] ↔
      ∀ balance ∈ balances, ¬Eligible config balance := by simp [List.filter_eq_nil_iff]
  rw [submits_iff, Enough, ← none_iff]
  cases role with
  | api =>
    rw [(no_handler_of_api reached).2] at handler
    cases handler
  | worker =>
    constructor
    · intro stopped
      by_cases some : balances.filter (fun balance => Eligible config balance) = []
      · exact .inr (.inl some)
      · have total := @Cold.total config process (cold_of_worker reached) _ some
        refine .inr (.inr fun ready => stopped ⟨ready, some, fun low => absurd low.1 ?_⟩)
        rw [total]
        decide
    · rintro (impossible | none | unready) ⟨ready, some, _⟩
      · cases impossible
      · exact some none
      · exact unready ready
  | both =>
    have warm := (warm_of_both reached).resolve_left fun same => by
      rw [same] at handler
      cases handler
    have quoted := fun balance member => warm.quote (nonnegative_warmRegistry rounded positive opts) idempotent rounded
      (configured balance member)
    obtain ⟨low, high⟩ := sum_filter_le (fun balance member => (quoted balance member).2) (fun balance => Eligible config balance)
    have total := @totalMicroUsd_eq config process.registry process.snapshot (worth config opts process)
      (balances.filter (fun balance => Eligible config balance))
      (fun balance member => (quoted balance (List.mem_of_mem_filter member)).1) 0
    rw [zero_add] at total
    simp only [total, true_or, iff_true]
    rintro ⟨_, _, enough⟩
    exact enough ⟨low, lt_of_le_of_lt high dust⟩

def sampleConfig : Config where
  feed := {
    normalizeStructTag := fullTag
    toDouble := id
    coinDecimals := [("0x2::sui::SUI", 9)]
    coingeckoIds := [("0x2::sui::SUI", "sui")]
    usdPrices := [("0x2::sui::SUI", 1)]
    maxAgeSec := 14400
    maxDeviation := 10 }
  destination := some "treasury"
  minMicro := 5000000
  acceptedCoinTypes := ["0x2::sui::SUI"]
  getSuiClient _ := .ok ()
  deriveDepositAddress _ _ := .ok "deposit"
  hotWallet := .ok "operator"

/-- A process of the role after its boot, and after a poll if it has warmed the feed. -/
def booted (role : Role) : Process :=
  [.next 500, .next 600, .refresh 700 (.body (fun _ => .number 2))].foldl
    (fun process event => (process.step sampleConfig ⟨none, none⟩ event).getD process) (boot role)

/-- One MIST, which is worth nothing. -/
def dust : List Balance := [⟨"0x2::sui::SUI", 1⟩]

theorem floor_honoured_sample :
    ¬Submits sampleConfig (booted .both) dust 7 "testnet" ↔
      Role.both = .both ∨ (∀ balance ∈ dust, ¬Eligible sampleConfig balance) ∨ ¬Ready sampleConfig 7 "testnet" :=
  floor_honoured sampleConfig ⟨none, none⟩ fullTag_fullTag (fun _ nonneg => nonneg) (by decide +kernel) .both
    (booted .both) (.step (.refresh 700 (.body (fun _ => .number 2))) (.step (.next 600) (.step (.next 500) .boot rfl) rfl) rfl)
    rfl 7 "testnet" dust (by decide +kernel) (by decide +kernel)

/-- The worker sweeps it. -/
theorem floor_ignored : Reached sampleConfig ⟨none, none⟩ .worker (booted .worker) ∧ (booted .worker).sweepHandler = true ∧
    (∀ balance ∈ dust, Configured sampleConfig balance.coinType) ∧
    totalWorth sampleConfig ⟨none, none⟩ (booted .worker) dust < sampleConfig.minMicro ∧
    Submits sampleConfig (booted .worker) dust 7 "testnet" := by
  refine ⟨.step (.next 500) .boot rfl, rfl, by decide +kernel, by decide +kernel, ?_⟩
  exact submits_iff.mpr ⟨⟨by decide, rfl, ⟨_, rfl⟩, ⟨_, rfl⟩⟩, by decide +kernel, by decide +kernel⟩

end MpcKit.Sweep
