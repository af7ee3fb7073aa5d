import Mathlib.Algebra.Order.Floor.Ring
import Mathlib.Data.List.Nodup
import Mathlib.Data.Rat.Floor
import MpcKit.Backend.Basics

/-! `features/pricing/price-feed.ts` and `creditsFor` of `features/billing/verifier.ts`: prices from
CoinGecko over static fallbacks, and the gate that refuses stale ones. -/

namespace MpcKit.Pricing
open MpcKit.Backend

/-! ### Configuration -/

structure Config where
  /-- `normalizeStructTag` of the Sui SDK. -/
  normalizeStructTag : String → String
  /-- Rounding to a double; every number of the feed is a finite double. -/
  toDouble : ℚ → ℚ
  /-- `BILLING_COIN_DECIMALS`. -/
  coinDecimals : List (String × Nat)
  /-- `BILLING_COINGECKO_IDS`. -/
  coingeckoIds : List (String × String)
  /-- `BILLING_USD_PRICES`. -/
  usdPrices : List (String × ℚ)
  /-- `BILLING_PRICE_FEED_MAX_AGE_SEC`. -/
  maxAgeSec : Nat
  /-- `BILLING_PRICE_FEED_MAX_DEVIATION`. -/
  maxDeviation : ℚ

structure CoinSpec where
  coinType : String
  decimals : Nat
  geckoId : Option String
  staticUsd : Option ℚ
  deriving DecidableEq

/-- `if (spec.geckoId)`. -/
def CoinSpec.polled (spec : CoinSpec) : Option String := spec.geckoId.filter (fun id => id ≠ "")

/-- A `Map` by coin type; setting a key that is there keeps its place. -/
structure Registry where
  specs : List CoinSpec
  distinct : (specs.map CoinSpec.coinType).Nodup

namespace Registry

def empty : Registry := ⟨[], List.nodup_nil⟩

def get (registry : Registry) (coinType : String) : Option CoinSpec :=
  registry.specs.find? (fun spec => spec.coinType = coinType)

/-- What `set` does to one entry. -/
def replace (spec other : CoinSpec) : CoinSpec := if other.coinType = spec.coinType then spec else other

theorem coinType_replace (spec other : CoinSpec) : (replace spec other).coinType = other.coinType := by
  unfold replace
  split
  next same => exact same.symm
  · rfl

def set (registry : Registry) (spec : CoinSpec) : Registry :=
  if there : spec.coinType ∈ registry.specs.map CoinSpec.coinType then
    ⟨registry.specs.map (replace spec), by
      have same : (registry.specs.map (replace spec)).map CoinSpec.coinType = registry.specs.map CoinSpec.coinType := by
        rw [List.map_map]
        exact List.map_congr_left (fun other _ => coinType_replace spec other)
      rw [same]
      exact registry.distinct⟩
  else
    ⟨registry.specs ++ [spec], by
      rw [List.map_append, List.map_singleton, ← List.concat_eq_append]
      exact registry.distinct.concat there⟩

theorem get_of_mem {registry : Registry} {spec : CoinSpec} (there : spec ∈ registry.specs) :
    registry.get spec.coinType = some spec := by
  cases found : registry.get spec.coinType with
  | none => simpa using List.find?_eq_none.mp found spec there
  | some other =>
    have key : other.coinType = spec.coinType := by simpa using List.find?_some found
    rw [List.inj_on_of_nodup_map registry.distinct (List.mem_of_find?_eq_some found) there key]

theorem mem_of_get {registry : Registry} {coinType : String} {spec : CoinSpec} (found : registry.get coinType = some spec) :
    spec ∈ registry.specs ∧ spec.coinType = coinType :=
  ⟨List.mem_of_find?_eq_some found, by simpa using List.find?_some found⟩

end Registry

def suiCoinType : String := "0x2::sui::SUI"
def suiDecimals : Nat := 9
def ikaDecimals : Nat := 9

section Feed

variable (config : Config)

def ikaFallbackUsd : ℚ := config.toDouble (1 / 20)

def register (registry : Registry) (spec : CoinSpec) : Registry :=
  registry.set { spec with coinType := config.normalizeStructTag spec.coinType }

/-! ### The registry -/

/-- The entry an environment variable adds to or overrides. -/
def prior (registry : Registry) (coinType : String) : CoinSpec :=
  (registry.get coinType).getD ⟨coinType, suiDecimals, none, none⟩

def withDecimals (registry : Registry) (entry : String × Nat) : Registry :=
  let ct := config.normalizeStructTag entry.1
  register config registry { prior registry ct with coinType := ct, decimals := entry.2 }

def withGeckoId (registry : Registry) (entry : String × String) : Registry :=
  let ct := config.normalizeStructTag entry.1
  register config registry { prior registry ct with coinType := ct, geckoId := some entry.2 }

def withUsdPrice (registry : Registry) (entry : String × ℚ) : Registry :=
  let ct := config.normalizeStructTag entry.1
  register config registry { prior registry ct with coinType := ct, staticUsd := some entry.2 }

def buildRegistry (ikaCoinType : Option String) : Registry :=
  let sui := register config .empty ⟨suiCoinType, suiDecimals, none, some 1⟩
  let builtIn := match ikaCoinType with
    | some ika => register config sui ⟨ika, ikaDecimals, none, some (ikaFallbackUsd config)⟩
    | none => sui
  config.usdPrices.foldl (withUsdPrice config)
    (config.coingeckoIds.foldl (withGeckoId config) (config.coinDecimals.foldl (withDecimals config) builtIn))

structure WarmPriceFeedOptions where
  ikaCoinType : Option String
  /-- `undefined`, `null` or an id. -/
  ikaCoingeckoId : Option (Option String)

/-- `buildRegistry`, and IKA's CoinGecko id on top of it. -/
def warmRegistry (opts : WarmPriceFeedOptions) : Registry :=
  let registry := buildRegistry config (opts.ikaCoinType.filter (fun ika => ika ≠ ""))
  match opts.ikaCoinType.filter (fun ika => ika ≠ "") with
  | none => registry
  | some ika => match registry.get (config.normalizeStructTag ika) with
      | none => registry
      | some spec => registry.set { spec with geckoId := opts.ikaCoingeckoId.getD (some "ika") }

/-! ### Snapshots -/

inductive Source where
  | feed
  | fallback
  | mixed
  deriving DecidableEq, Repr

structure PriceFeedSnapshot where
  pricesMicroUsd : String → Option Int
  loadedAt : Time
  /-- 0 for never. -/
  lastFeedSuccessAt : Time
  source : Source

def usdToMicroUsd (usd : ℚ) : Int := ⌊config.toDouble (usd * 1000000) + 1 / 2⌋

/-- The static prices of the registry. -/
def staticPrices (registry : Registry) (coinType : String) : Option Int :=
  (registry.get coinType).bind (fun spec => spec.staticUsd.map (usdToMicroUsd config))

def staticSnapshot (registry : Registry) (now lastFeedSuccessAt : Time) : PriceFeedSnapshot :=
  ⟨staticPrices config registry, now, lastFeedSuccessAt, .fallback⟩

/-- `body[geckoId]?.usd`. -/
inductive Quote where
  | number (usd : ℚ)
  | infinite
  | notANumber
  deriving DecidableEq

/-- What a fetch comes back with. -/
inductive Response where
  /-- No answer in time, no JSON, or JSON `null`. -/
  | failed
  | refused (status : Nat)
  | body (quotes : String → Quote)

def outOfBounds (usd staticUsd : ℚ) : Prop :=
  config.maxDeviation < config.toDouble (usd / staticUsd) ∨
    config.toDouble (usd / staticUsd) < config.toDouble (1 / config.maxDeviation)

instance (usd staticUsd : ℚ) : Decidable (outOfBounds config usd staticUsd) := inferInstanceAs (Decidable (_ ∨ _))

/-- The price a quote gives a coin, if it is taken over. -/
def accepted (staticUsd : Option ℚ) : Quote → Option ℚ
  | .number usd =>
      if usd ≤ 0 then none
      else match staticUsd with
        | some bound => if outOfBounds config usd bound then none else some usd
        | none => some usd
  | _ => none

/-- The coins to poll, each with its CoinGecko id. -/
def workList (registry : Registry) : List (CoinSpec × String) :=
  registry.specs.filterMap (fun spec => spec.polled.map (fun id => (spec, id)))

/-- One coin of the loop over the answer: the prices and the hits so far. -/
def takeOver (quotes : String → Quote) (state : (String → Option Int) × Nat) (work : CoinSpec × String) :
    (String → Option Int) × Nat :=
  match accepted config work.1.staticUsd (quotes work.2) with
  | some usd => (Function.update state.1 work.1.coinType (some (usdToMicroUsd config usd)), state.2 + 1)
  | none => state

def sourceOf (feedHits polled : Nat) : Source :=
  if feedHits = 0 then .fallback else if feedHits = polled then .feed else .mixed

def assemble (registry : Registry) (now lastFeedSuccessAt : Time) (quotes : String → Quote) : PriceFeedSnapshot :=
  let (prices, feedHits) := (workList registry).foldl (takeOver config quotes) (staticPrices config registry, 0)
  ⟨prices, now, if 0 < feedHits then now else lastFeedSuccessAt, sourceOf feedHits (workList registry).length⟩

/-- `refreshNow`. Between its request and the answer it touches nothing; a rejection is logged. -/
def refreshNow (registry : Registry) (snapshot : PriceFeedSnapshot) (now : Time) (response : Response) : PriceFeedSnapshot :=
  if workList registry = [] then staticSnapshot config registry now snapshot.lastFeedSuccessAt
  else match response with
    | .body quotes => assemble config registry now snapshot.lastFeedSuccessAt quotes
    | _ => snapshot

/-! ### Reading prices -/

structure FeedError where
  message : String
  code : Option String
  deriving DecidableEq, Repr

/-- `Math.round(age / 1000)`. -/
def ageSec (now last : Time) : Int := ((now : Int) - last + 500) / 1000

def assertPricesFresh (registry : Registry) (snapshot : PriceFeedSnapshot) (now : Time) : Except FeedError Unit :=
  let max : Int := config.maxAgeSec * 1000
  let last := snapshot.lastFeedSuccessAt
  if (workList registry).length = 0 then .ok ()
  else if last = 0 ∨ max < (now : Int) - last then
    let ago := if last = 0 then "never" else s!"{ageSec now last}s ago"
    let maxSec := config.maxAgeSec
    .error ⟨s!"price feed stale: last successful poll {ago} > max {maxSec}s", some "PRICE_FEED_STALE"⟩
  else .ok ()

def microUsdFromAtomic (registry : Registry) (snapshot : PriceFeedSnapshot) (coinType : String) (amountAtomic : Int) :
    Except FeedError (Int × Int) := do
  match snapshot.pricesMicroUsd (config.normalizeStructTag coinType) with
  | none => throw ⟨s!"price-feed: no USD price for {coinType}", none⟩
  | some priceMicroUsd => match registry.get (config.normalizeStructTag coinType) with
      | none => throw ⟨s!"price-feed: {coinType} not registered; add it to BILLING_USD_PRICES or BILLING_COIN_DECIMALS", none⟩
      | some spec => return ((amountAtomic * priceMicroUsd).tdiv (10 ^ spec.decimals), priceMicroUsd)

/-- `creditsFor`: the credits and the price they were worked out with. -/
def creditsFor (registry : Registry) (snapshot : PriceFeedSnapshot) (now : Time) (coinType : String) (amountAtomic : Int) :
    Except AppError (Int × Int) :=
  match assertPricesFresh config registry snapshot now with
  | .error error => .error (errors.unavailable error.message
      (if error.code = some "PRICE_FEED_STALE" then "PRICE_FEED_STALE" else "PRICE_FEED_UNAVAILABLE"))
  | .ok _ => match microUsdFromAtomic config registry snapshot coinType amountAtomic with
      | .error error => .error (errors.internal error.message "BILLING_RATE_MISSING")
      | .ok result => .ok result

/-! ### Runs -/

/-- A refresh that has come to its end. -/
structure Refresh where
  now : Time
  response : Response

/-- The snapshot `warmPriceFeed` sets before its first fetch. -/
def warmSnapshot (registry : Registry) (now : Time) : PriceFeedSnapshot := staticSnapshot config registry now 0

def afterRefreshes (registry : Registry) (boot : Time) (refreshes : List Refresh) : PriceFeedSnapshot :=
  refreshes.foldl (fun snapshot refresh => refreshNow config registry snapshot refresh.now refresh.response)
    (warmSnapshot config registry boot)

end Feed

end MpcKit.Pricing
