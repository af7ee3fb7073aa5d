import MpcKit.Pricing.Credits

/-! What the environment configures: a coin type with a static price keeps a price, and none is negative. -/

namespace MpcKit.Pricing
open MpcKit.Backend

/-! ### The registry of the environment -/

section Feed

variable {config : Config}

theorem mem_set {registry : Registry} {spec other : CoinSpec} (member : other ∈ (registry.set spec).specs) :
    other = spec ∨ other ∈ registry.specs := by
  unfold Registry.set at member
  split at member
  next there =>
    obtain ⟨old, inside, rfl⟩ := List.mem_map.mp member
    unfold Registry.replace
    split
    · exact .inl rfl
    · exact .inr inside
  next absent =>
    rcases List.mem_append.mp member with old | new
    · exact .inr old
    · exact .inl (List.mem_singleton.mp new)

theorem spec_mem_set (registry : Registry) (spec : CoinSpec) : spec ∈ (registry.set spec).specs := by
  unfold Registry.set
  split
  next there =>
    obtain ⟨old, inside, same⟩ := List.mem_map.mp there
    exact List.mem_map.mpr ⟨old, inside, by rw [Registry.replace, if_pos same]⟩
  next => exact List.mem_append_right _ List.mem_cons_self

theorem mem_set_of_ne {registry : Registry} {spec other : CoinSpec} (old : other ∈ registry.specs)
    (apart : other.coinType ≠ spec.coinType) : other ∈ (registry.set spec).specs := by
  unfold Registry.set
  split
  next there => exact List.mem_map.mpr ⟨other, old, by rw [Registry.replace, if_neg apart]⟩
  next => exact List.mem_append_left _ old

/-- Warming the feed changes the CoinGecko id of one entry at most. -/
theorem warmRegistry_eq (config : Config) (opts : WarmPriceFeedOptions) :
    warmRegistry config opts = buildRegistry config (opts.ikaCoinType.filter (fun ika => ika ≠ "")) ∨
      ∃ spec ∈ (buildRegistry config (opts.ikaCoinType.filter (fun ika => ika ≠ ""))).specs, ∃ geckoId,
        warmRegistry config opts =
          (buildRegistry config (opts.ikaCoinType.filter (fun ika => ika ≠ ""))).set { spec with geckoId := geckoId } := by
  simp only [warmRegistry]
  split
  · exact .inl rfl
  next =>
    split
    · exact .inl rfl
    next spec found => exact .inr ⟨spec, (Registry.mem_of_get found).1, _, rfl⟩

/-- No static price is negative. -/
def Nonnegative (registry : Registry) : Prop :=
  ∀ spec ∈ registry.specs, ∀ usd, spec.staticUsd = some usd → 0 ≤ usd

/-- The coin type has a static price. -/
def Priced (coinType : String) (registry : Registry) : Prop :=
  ∃ spec ∈ registry.specs, spec.coinType = coinType ∧ spec.staticUsd ≠ none

theorem Nonnegative.register {registry : Registry} (known : Nonnegative registry) {spec : CoinSpec}
    (nonneg : ∀ usd, spec.staticUsd = some usd → 0 ≤ usd) : Nonnegative (register config registry spec) := by
  intro other member usd static
  rcases mem_set member with rfl | old
  · exact nonneg usd static
  · exact known other old usd static

theorem Nonnegative.prior {registry : Registry} (known : Nonnegative registry) (coinType : String) :
    ∀ usd, (prior registry coinType).staticUsd = some usd → 0 ≤ usd := by
  intro usd static
  unfold Pricing.prior at static
  cases found : registry.get coinType with
  | none =>
    rw [found] at static
    cases static
  | some spec =>
    rw [found] at static
    exact known spec (Registry.mem_of_get found).1 usd static

theorem Priced.set {coinType : String} {registry : Registry} (priced : Priced coinType registry) {spec : CoinSpec}
    (keeps : spec.coinType = coinType → spec.staticUsd ≠ none) : Priced coinType (registry.set spec) := by
  obtain ⟨old, member, key, static⟩ := priced
  by_cases same : spec.coinType = coinType
  · exact ⟨spec, spec_mem_set registry spec, same, keeps same⟩
  · exact ⟨old, mem_set_of_ne member (by rw [key]; exact fun equal => same equal.symm), key, static⟩

variable (idempotent : ∀ tag, config.normalizeStructTag (config.normalizeStructTag tag) = config.normalizeStructTag tag)
include idempotent

theorem priced_withUsdPrice (registry : Registry) (entry : String × ℚ) :
    Priced (config.normalizeStructTag entry.1) (withUsdPrice config registry entry) :=
  ⟨_, spec_mem_set registry _, idempotent entry.1, Option.some_ne_none _⟩

theorem priced_buildRegistry (ikaCoinType : Option String) {entry : String × ℚ} (member : entry ∈ config.usdPrices) :
    Priced (config.normalizeStructTag entry.1) (buildRegistry config ikaCoinType) := by
  obtain ⟨before, after, split⟩ := List.append_of_mem member
  unfold buildRegistry
  simp only [split, List.foldl_append, List.foldl_cons]
  exact List.foldlRecOn after _ (priced_withUsdPrice idempotent _ entry)
    (fun _ priced _ _ => priced.set (fun _ => Option.some_ne_none _))

theorem priced_warmRegistry (opts : WarmPriceFeedOptions) {entry : String × ℚ} (member : entry ∈ config.usdPrices) :
    Priced (config.normalizeStructTag entry.1) (warmRegistry config opts) := by
  have built := priced_buildRegistry idempotent (opts.ikaCoinType.filter (fun ika => ika ≠ "")) member
  rcases warmRegistry_eq config opts with same | ⟨spec, there, geckoId, same⟩
  · rw [same]
    exact built
  · rw [same]
    refine built.set fun equal => ?_
    obtain ⟨other, known, key, static⟩ := built
    obtain rfl : spec = other := List.inj_on_of_nodup_map (Registry.distinct _) there known (equal.trans key.symm)
    exact static

omit idempotent

variable (rounded : ∀ number, 0 ≤ number → 0 ≤ config.toDouble number)
include rounded

theorem nonnegative_buildRegistry (positive : ∀ entry ∈ config.usdPrices, 0 < entry.2) (ikaCoinType : Option String) :
    Nonnegative (buildRegistry config ikaCoinType) := by
  have sui : Nonnegative (register config .empty ⟨suiCoinType, suiDecimals, none, some 1⟩) := by
    refine Nonnegative.register (fun _ impossible => by cases impossible) fun usd static => ?_
    rw [← Option.some.inj static]
    exact zero_le_one
  unfold buildRegistry
  refine List.foldlRecOn _ _ (List.foldlRecOn _ _ (List.foldlRecOn _ _ ?_ ?_) ?_) ?_
  · cases ikaCoinType with
    | none => exact sui
    | some ika =>
      refine sui.register fun usd static => ?_
      rw [← Option.some.inj static]
      exact rounded _ (by norm_num)
  · exact fun registry known entry _ => known.register (known.prior _)
  · exact fun registry known entry _ => known.register (known.prior _)
  · intro registry known entry member
    refine known.register fun usd static => ?_
    rw [← Option.some.inj static]
    exact (positive entry member).le

theorem nonnegative_warmRegistry (positive : ∀ entry ∈ config.usdPrices, 0 < entry.2) (opts : WarmPriceFeedOptions) :
    Nonnegative (warmRegistry config opts) := by
  have built := nonnegative_buildRegistry rounded positive (opts.ikaCoinType.filter (fun ika => ika ≠ ""))
  rcases warmRegistry_eq config opts with same | ⟨spec, there, geckoId, same⟩
  · rw [same]
    exact built
  · rw [same]
    intro other member usd static
    rcases mem_set member with rfl | old
    · exact built spec there usd static
    · exact built other old usd static

omit rounded in
theorem accepted_pos {staticUsd : Option ℚ} {quote : Quote} {usd : ℚ} (taken : accepted config staticUsd quote = some usd) :
    0 < usd := by
  cases quote with
  | number value =>
    by_cases sign : value ≤ 0
    · simp only [accepted, sign, if_true] at taken
      cases taken
    · cases staticUsd with
      | none =>
        simp only [accepted, sign, if_false] at taken
        exact Option.some.inj taken ▸ not_le.mp sign
      | some bound =>
        by_cases outside : outOfBounds config value bound
        · simp only [accepted, sign, outside, if_true, if_false] at taken
          cases taken
        · simp only [accepted, sign, outside, if_false] at taken
          exact Option.some.inj taken ▸ not_le.mp sign
  | infinite => cases taken
  | notANumber => cases taken

theorem Backed.nonneg {spec : CoinSpec} {price : Int} (backed : Backed config spec price)
    (known : ∀ usd, spec.staticUsd = some usd → 0 ≤ usd) : 0 ≤ price := by
  obtain ⟨usd, rfl, source⟩ := backed
  have sign : 0 ≤ usd := by
    rcases source with static | ⟨quote, taken⟩
    · exact known usd static
    · exact (accepted_pos taken).le
  have scaled := rounded (usd * 1000000) (mul_nonneg sign (by norm_num))
  exact Int.floor_nonneg.mpr (add_nonneg scaled (by norm_num))

end Feed

/-! ### Every configured coin keeps a price -/

/-- Whatever has a static price has a price. -/
def Seeded (registry : Registry) (prices : String → Option Int) : Prop :=
  ∀ spec ∈ registry.specs, spec.staticUsd ≠ none → prices spec.coinType ≠ none

theorem seeded_static (config : Config) (registry : Registry) : Seeded registry (staticPrices config registry) := by
  intro spec member static
  obtain ⟨usd, static⟩ := Option.ne_none_iff_exists'.mp static
  rw [staticPrices, Registry.get_of_mem member, Option.bind_some, static]
  exact Option.some_ne_none _

theorem Seeded.takeOver {config : Config} {registry : Registry} {quotes : String → Quote}
    {state : (String → Option Int) × Nat} (seeded : Seeded registry state.1) (work : CoinSpec × String) :
    Seeded registry (takeOver config quotes state work).1 := by
  unfold Pricing.takeOver
  split
  next usd _ =>
    intro spec member static
    by_cases same : spec.coinType = work.1.coinType
    · simp only [same, Function.update_self]
      exact Option.some_ne_none _
    · simp only [Function.update_of_ne same]
      exact seeded spec member static
  next => exact seeded

theorem Seeded.refresh {config : Config} {registry : Registry} {snapshot : PriceFeedSnapshot}
    (seeded : Seeded registry snapshot.pricesMicroUsd) (now : Time) (response : Response) :
    Seeded registry (refreshNow config registry snapshot now response).pricesMicroUsd := by
  unfold refreshNow
  split
  next => exact seeded_static config registry
  next =>
    split
    next quotes =>
      unfold assemble
      exact List.foldlRecOn (motive := fun state : (String → Option Int) × Nat => Seeded registry state.1)
        (workList registry) (Pricing.takeOver config quotes) (seeded_static config registry)
        (fun _ seeded work _ => seeded.takeOver work)
    next => exact seeded

end MpcKit.Pricing
