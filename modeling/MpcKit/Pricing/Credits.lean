import Mathlib.Algebra.Order.Round
import Mathlib.Tactic.Positivity
import MpcKit.Pricing.Freshness

/-! How far the rate of a credit can be from the configured price. -/

namespace MpcKit.Pricing
open MpcKit.Backend

variable {config : Config}

/-! ### Where prices come from -/

/-- The price is the static one, or was accepted from a quote. -/
def Backed (config : Config) (spec : CoinSpec) (price : Int) : Prop :=
  ∃ usd, price = usdToMicroUsd config usd ∧
    (spec.staticUsd = some usd ∨ ∃ quote, accepted config spec.staticUsd quote = some usd)

def AllBacked (config : Config) (registry : Registry) (prices : String → Option Int) : Prop :=
  ∀ spec ∈ registry.specs, ∀ price, prices spec.coinType = some price → Backed config spec price

theorem backed_static (registry : Registry) : AllBacked config registry (staticPrices config registry) := by
  intro spec member price found
  unfold staticPrices at found
  rw [Registry.get_of_mem member, Option.bind_some] at found
  obtain ⟨usd, static, same⟩ := Option.map_eq_some_iff.mp found
  exact ⟨usd, same.symm, .inl static⟩

theorem AllBacked.takeOver {registry : Registry} {quotes : String → Quote} {state : (String → Option Int) × Nat}
    (backed : AllBacked config registry state.1) {work : CoinSpec × String} (member : work ∈ workList registry) :
    AllBacked config registry (takeOver config quotes state work).1 := by
  obtain ⟨there, _⟩ := mem_workList.mp member
  unfold Pricing.takeOver
  split
  next usd taken =>
    intro spec known price found
    by_cases same : spec.coinType = work.1.coinType
    · have equal : spec = work.1 := List.inj_on_of_nodup_map registry.distinct known there same
      simp only [same, Function.update_self] at found
      exact ⟨usd, (Option.some.inj found).symm, .inr ⟨quotes work.2, by rw [equal]; exact taken⟩⟩
    · simp only [Function.update_of_ne same] at found
      exact backed spec known price found
  next => exact backed

theorem AllBacked.fold {registry : Registry} {quotes : String → Quote} {works : List (CoinSpec × String)}
    (known : ∀ work ∈ works, work ∈ workList registry) {state : (String → Option Int) × Nat}
    (backed : AllBacked config registry state.1) :
    AllBacked config registry (works.foldl (Pricing.takeOver config quotes) state).1 := by
  induction works generalizing state with
  | nil => exact backed
  | cons work works recurse =>
    exact recurse (fun other member => known other (List.mem_cons_of_mem _ member))
      (backed.takeOver (known work List.mem_cons_self))

/-- A refresh replaces the prices by backed ones, or keeps them. -/
theorem AllBacked.refresh {registry : Registry} {snapshot : PriceFeedSnapshot}
    (backed : AllBacked config registry snapshot.pricesMicroUsd) (now : Time) (response : Response) :
    AllBacked config registry (refreshNow config registry snapshot now response).pricesMicroUsd := by
  unfold refreshNow
  split
  next => exact backed_static registry
  next =>
    split
    next quotes => exact AllBacked.fold (fun _ member => member) (backed_static registry)
    next => exact backed

theorem backed_afterRefreshes (registry : Registry) (boot : Time) (refreshes : List Refresh) :
    AllBacked config registry (afterRefreshes config registry boot refreshes).pricesMicroUsd := by
  induction refreshes using List.reverseRecOn with
  | nil => exact backed_static registry
  | append_singleton refreshes refresh recurse =>
    rw [afterRefreshes, List.foldl_append, List.foldl_cons, List.foldl_nil]
    exact AllBacked.refresh recurse refresh.now refresh.response

/-! ### The deviation -/

theorem usdToMicroUsd_exact (exact : ∀ number, config.toDouble number = number) (usd : ℚ) :
    usdToMicroUsd config usd = round (10 ^ 6 * usd) := by
  rw [usdToMicroUsd, exact, round_eq]
  congr 2
  ring

/-- An accepted price is at most `maxDeviation` times the static price, and at least that fraction of it. -/
theorem accepted_within (exact : ∀ number, config.toDouble number = number)
    {staticUsd usd : ℚ} (positive : 0 < staticUsd) {quote : Quote}
    (taken : accepted config (some staticUsd) quote = some usd) :
    staticUsd / config.maxDeviation ≤ usd ∧ usd ≤ staticUsd * config.maxDeviation := by
  cases quote with
  | number value =>
    by_cases sign : value ≤ 0
    · simp only [accepted, sign, if_true] at taken
      cases taken
    · by_cases inside : outOfBounds config value staticUsd
      · simp only [accepted, sign, inside, if_true, if_false] at taken
        cases taken
      · simp only [accepted, sign, inside, if_false] at taken
        obtain rfl : value = usd := Option.some.inj taken
        unfold outOfBounds at inside
        rw [exact, exact, not_or, not_lt, not_lt] at inside
        obtain ⟨high, low⟩ := inside
        constructor
        · rw [le_div_iff₀ positive] at low
          calc staticUsd / config.maxDeviation = 1 / config.maxDeviation * staticUsd := by ring
            _ ≤ value := low
        · rw [div_le_iff₀ positive] at high
          calc value ≤ config.maxDeviation * staticUsd := high
            _ = staticUsd * config.maxDeviation := mul_comm _ _
  | infinite => cases taken
  | notANumber => cases taken

theorem Backed.within (exact : ∀ number, config.toDouble number = number) (limit : 1 ≤ config.maxDeviation)
    {spec : CoinSpec} {staticUsd : ℚ} (static : spec.staticUsd = some staticUsd) (positive : 0 < staticUsd) {price : Int}
    (backed : Backed config spec price) :
    ∃ usd, price = round (10 ^ 6 * usd) ∧ staticUsd / config.maxDeviation ≤ usd ∧
      usd ≤ staticUsd * config.maxDeviation := by
  obtain ⟨usd, same, source⟩ := backed
  rw [usdToMicroUsd_exact exact] at same
  rw [static] at source
  rcases source with itself | ⟨quote, taken⟩
  · obtain rfl := Option.some.inj itself
    refine ⟨staticUsd, same, div_le_self positive.le limit, ?_⟩
    exact le_mul_of_one_le_right positive.le limit
  · obtain ⟨low, high⟩ := accepted_within exact positive taken
    exact ⟨usd, same, low, high⟩

/-! ### Credits -/

/-- A credit that is given is worked out with the price and the decimals of its coin. -/
theorem creditsFor_value {registry : Registry} {snapshot : PriceFeedSnapshot} {now : Time} {coinType : String}
    {amount credits rate : Int} {spec : CoinSpec} (member : spec ∈ registry.specs)
    (named : config.normalizeStructTag coinType = spec.coinType)
    (succeeds : creditsFor config registry snapshot now coinType amount = .ok (credits, rate)) :
    snapshot.pricesMicroUsd spec.coinType = some rate ∧ credits = (amount * rate).tdiv (10 ^ spec.decimals) := by
  have price := (creditsFor_ok succeeds).2
  rw [named] at price
  refine ⟨price, ?_⟩
  unfold creditsFor at succeeds
  split at succeeds
  next => cases succeeds
  next =>
    unfold microUsdFromAtomic at succeeds
    simp only [named, price, Registry.get_of_mem member] at succeeds
    cases succeeds
    rfl

/-- Truncation of a non-negative quotient is the floor. -/
theorem tdiv_eq_floor {amount : Nat} {price : Int} (sign : 0 ≤ price) (decimals : Nat) :
    ((amount : Int) * price).tdiv (10 ^ decimals) = ⌊(amount * price / 10 ^ decimals : ℚ)⌋ := by
  rw [Int.tdiv_eq_ediv_of_nonneg (by positivity)]
  have floor := Rat.floor_intCast_div_natCast ((amount : Int) * price) (10 ^ decimals)
  push_cast at floor
  exact floor.symm

theorem tdiv_mono {amount more : Nat} {price : Int} (sign : 0 ≤ price) (ordered : amount ≤ more) (decimals : Nat) :
    ((amount : Int) * price).tdiv (10 ^ decimals) ≤ ((more : Int) * price).tdiv (10 ^ decimals) := by
  rw [Int.tdiv_eq_ediv_of_nonneg (by positivity), Int.tdiv_eq_ediv_of_nonneg (by positivity)]
  have products : (amount : Int) * price ≤ more * price :=
    mul_le_mul_of_nonneg_right (Int.ofNat_le.mpr ordered) sign
  exact Int.ediv_le_ediv (by positivity) products

/-- Two deposits are worth no more than one of both amounts. -/
theorem tdiv_add_le {amount other : Nat} {price : Int} (sign : 0 ≤ price) (decimals : Nat) :
    ((amount : Int) * price).tdiv (10 ^ decimals) + ((other : Int) * price).tdiv (10 ^ decimals) ≤
      ((amount + other : Nat) * price).tdiv (10 ^ decimals) := by
  have scale : (0 : Int) < 10 ^ decimals := by positivity
  rw [Int.tdiv_eq_ediv_of_nonneg (by positivity), Int.tdiv_eq_ediv_of_nonneg (by positivity),
    Int.tdiv_eq_ediv_of_nonneg (by positivity), Int.le_ediv_iff_mul_le scale]
  have first := Int.ediv_mul_le ((amount : Int) * price) (ne_of_gt scale)
  have second := Int.ediv_mul_le ((other : Int) * price) (ne_of_gt scale)
  push_cast
  calc ((amount : Int) * price / 10 ^ decimals + other * price / 10 ^ decimals) * 10 ^ decimals
      = amount * price / 10 ^ decimals * 10 ^ decimals + other * price / 10 ^ decimals * 10 ^ decimals := by ring
    _ ≤ amount * price + other * price := add_le_add first second
    _ = (amount + other) * price := by ring

/-- The request is made, and no answer comes of it. -/
def Response.Fails (registry : Registry) (response : Response) : Prop :=
  workList registry ≠ [] ∧ ∀ quotes, response ≠ .body quotes

theorem refreshNow_of_fails {registry : Registry} {response : Response} (fails : response.Fails registry)
    (snapshot : PriceFeedSnapshot) (now : Time) : refreshNow config registry snapshot now response = snapshot := by
  unfold refreshNow
  rw [if_neg fails.1]
  cases response with
  | body quotes => exact absurd rfl (fails.2 quotes)
  | failed => rfl
  | refused status => rfl

/-- What is said of the credits for one coin at one snapshot. -/
structure WithinDeviation (config : Config) (registry : Registry) (snapshot : PriceFeedSnapshot) (spec : CoinSpec)
    (staticUsd : ℚ) (coinType : String) : Prop where
  bounded : ∀ (now : Time) (amount : Nat) (credits rate : Int),
    creditsFor config registry snapshot now coinType amount = .ok (credits, rate) →
    ∃ usd, staticUsd / config.maxDeviation ≤ usd ∧ usd ≤ staticUsd * config.maxDeviation ∧
      credits = ⌊(amount * round (10 ^ 6 * usd) / 10 ^ spec.decimals : ℚ)⌋
  monotone : ∀ (now later : Time) (amount more : Nat) (credits rate increased other : Int), amount ≤ more →
    creditsFor config registry snapshot now coinType amount = .ok (credits, rate) →
    creditsFor config registry snapshot later coinType more = .ok (increased, other) → credits ≤ increased
  split : ∀ (now later last : Time) (amount rest : Nat) (credits rate others rateToo whole rateWhole : Int),
    creditsFor config registry snapshot now coinType amount = .ok (credits, rate) →
    creditsFor config registry snapshot later coinType rest = .ok (others, rateToo) →
    creditsFor config registry snapshot last coinType (amount + rest : Nat) = .ok (whole, rateWhole) →
    credits + others ≤ whole

/-- With exact arithmetic and a deviation limit of at least 1, the credits of a registered coin stay
within the limit around its static price, whatever the refreshes brought. -/
theorem credits_within_deviation (config : Config) (exact : ∀ number, config.toDouble number = number)
    (limit : 1 ≤ config.maxDeviation) (opts : WarmPriceFeedOptions) (boot : Time) (refreshes : List Refresh) :
    (∀ spec ∈ (warmRegistry config opts).specs, ∀ staticUsd, spec.staticUsd = some staticUsd → 0 < staticUsd →
      ∀ coinType, config.normalizeStructTag coinType = spec.coinType →
        WithinDeviation config (warmRegistry config opts)
          (afterRefreshes config (warmRegistry config opts) boot refreshes) spec staticUsd coinType) ∧
      ∀ refresh : Refresh, refresh.response.Fails (warmRegistry config opts) →
        afterRefreshes config (warmRegistry config opts) boot (refreshes ++ [refresh]) =
          afterRefreshes config (warmRegistry config opts) boot refreshes := by
  constructor
  · intro spec member staticUsd static positive coinType named
    have backed := @backed_afterRefreshes config (warmRegistry config opts) boot refreshes
    have priced : ∀ rate, (afterRefreshes config (warmRegistry config opts) boot refreshes).pricesMicroUsd spec.coinType =
        some rate → ∃ usd, rate = round (10 ^ 6 * usd) ∧ staticUsd / config.maxDeviation ≤ usd ∧
          usd ≤ staticUsd * config.maxDeviation := fun rate found =>
      (backed spec member rate found).within exact limit static positive
    have sign : ∀ rate, (afterRefreshes config (warmRegistry config opts) boot refreshes).pricesMicroUsd spec.coinType =
        some rate → 0 ≤ rate := by
      intro rate found
      obtain ⟨usd, rfl, low, _⟩ := priced rate found
      have above : 0 < usd := lt_of_lt_of_le (div_pos positive (lt_of_lt_of_le one_pos limit)) low
      rw [round_eq]
      exact Int.floor_nonneg.mpr (by positivity)
    constructor
    · intro now amount credits rate succeeds
      obtain ⟨price, value⟩ := creditsFor_value member named succeeds
      have nonneg := sign rate price
      obtain ⟨usd, same, low, high⟩ := priced rate price
      refine ⟨usd, low, high, ?_⟩
      rw [value, tdiv_eq_floor nonneg, same]
    · intro now later amount more credits rate increased other ordered succeeds succeedsToo
      obtain ⟨price, rfl⟩ := creditsFor_value member named succeeds
      obtain ⟨again, rfl⟩ := creditsFor_value member named succeedsToo
      obtain rfl : rate = other := Option.some.inj (price.symm.trans again)
      exact tdiv_mono (sign rate price) ordered spec.decimals
    · intro now later last amount rest credits rate others rateToo whole rateWhole first second both
      obtain ⟨price, rfl⟩ := creditsFor_value member named first
      obtain ⟨again, rfl⟩ := creditsFor_value member named second
      obtain ⟨once, rfl⟩ := creditsFor_value member named both
      obtain rfl : rate = rateToo := Option.some.inj (price.symm.trans again)
      obtain rfl : rate = rateWhole := Option.some.inj (price.symm.trans once)
      exact tdiv_add_le (sign rate price) spec.decimals
  · intro refresh fails
    rw [afterRefreshes, List.foldl_append, List.foldl_cons, List.foldl_nil]
    exact refreshNow_of_fails fails _ _

theorem credits_within_deviation_sample :
    WithinDeviation sampleConfig sampleRegistry
      (afterRefreshes sampleConfig sampleRegistry 500 (sampleRefreshes ++ [⟨2000, .failed⟩])) sampleSui 1 "0x2::sui::SUI" ∧
    afterRefreshes sampleConfig sampleRegistry 500 (sampleRefreshes ++ [⟨2000, .failed⟩]) =
      afterRefreshes sampleConfig sampleRegistry 500 sampleRefreshes ∧
    creditsFor sampleConfig sampleRegistry
      (afterRefreshes sampleConfig sampleRegistry 500 (sampleRefreshes ++ [⟨2000, .failed⟩])) 2000 "0x2::sui::SUI" 1500 =
        .ok (3, 2000000) := by
  have limit : 1 ≤ sampleConfig.maxDeviation := by decide +kernel
  have served := credits_within_deviation sampleConfig (fun _ => rfl) limit ⟨some "0x1::ika::IKA", none⟩ 500
  have failing : Response.Fails (warmRegistry sampleConfig ⟨some "0x1::ika::IKA", none⟩) .failed :=
    ⟨by decide +kernel, fun quotes => nofun⟩
  refine ⟨?_, (served sampleRefreshes).2 ⟨2000, .failed⟩ failing, by decide +kernel⟩
  exact (served (sampleRefreshes ++ [⟨2000, .failed⟩])).1 sampleSui (by decide +kernel) 1 (by decide +kernel)
    (by decide +kernel) "0x2::sui::SUI" (by decide +kernel)

end MpcKit.Pricing
