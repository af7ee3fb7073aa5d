import MpcKit.Pricing.PriceFeed

/-! How old the price behind a credit can be. -/

namespace MpcKit.Pricing
open MpcKit.Backend

variable {config : Config}

/-- The polled coin whose price this refresh has accepted. -/
def Refresh.Accepts (config : Config) (spec : CoinSpec) (refresh : Refresh) (usd : ℚ) : Prop :=
  ∃ quotes id, refresh.response = .body quotes ∧ spec.polled = some id ∧
    accepted config spec.staticUsd (quotes id) = some usd

/-- Received no longer than the configured budget ago. -/
def Refresh.Recent (config : Config) (now : Time) (refresh : Refresh) : Prop :=
  (now : Int) - refresh.now ≤ config.maxAgeSec * 1000

/-- A credit for a polled coin uses a price accepted from a recent answer. -/
def NoStaleCredit (config : Config) (registry : Registry) (boot : Time) (refreshes : List Refresh) : Prop :=
  ∀ now coinType amount credits rate,
    creditsFor config registry (afterRefreshes config registry boot refreshes) now coinType amount = .ok (credits, rate) →
      ∀ spec ∈ registry.get (config.normalizeStructTag coinType), spec.polled ≠ none →
        ∃ refresh ∈ refreshes, ∃ usd, refresh.Accepts config spec usd ∧ refresh.Recent config now ∧
          rate = usdToMicroUsd config usd

/-! ### What one answer does -/

theorem mem_workList {registry : Registry} {spec : CoinSpec} {id : String} :
    (spec, id) ∈ workList registry ↔ spec ∈ registry.specs ∧ spec.polled = some id := by
  simp [workList, List.mem_filterMap]

theorem distinct_workList (registry : Registry) : ((workList registry).map (fun work => work.1.coinType)).Nodup := by
  have sublist : (workList registry).map (fun work => work.1.coinType) =
      (registry.specs.filter (fun spec => spec.polled.isSome)).map CoinSpec.coinType := by
    rw [workList, List.map_filterMap, ← List.filterMap_eq_map, List.filterMap_filter]
    apply List.filterMap_congr
    intro spec _
    cases polled : spec.polled <;> simp
  rw [sublist]
  exact registry.distinct.sublist (List.filter_sublist.map _)

/-- A coin of which no quote is taken over keeps its price. -/
theorem price_of_passed {quotes : String → Quote} {works : List (CoinSpec × String)} {coinType : String}
    (state : (String → Option Int) × Nat)
    (passed : ∀ work ∈ works, work.1.coinType = coinType → accepted config work.1.staticUsd (quotes work.2) = none) :
    (works.foldl (takeOver config quotes) state).1 coinType = state.1 coinType := by
  induction works generalizing state with
  | nil => rfl
  | cons work works ih =>
    rw [List.foldl_cons, ih _ (fun other there => passed other (List.mem_cons_of_mem _ there))]
    unfold takeOver
    split
    next usd taken =>
      have other : coinType ≠ work.1.coinType := by
        rintro rfl
        rw [passed work List.mem_cons_self rfl] at taken
        cases taken
      exact Function.update_of_ne other _ _
    · rfl

/-- A coin whose quote is taken over gets that price. -/
theorem price_of_accepted {quotes : String → Quote} {works : List (CoinSpec × String)}
    (distinct : (works.map (fun work => work.1.coinType)).Nodup) {work : CoinSpec × String} (there : work ∈ works) {usd : ℚ}
    (taken : accepted config work.1.staticUsd (quotes work.2) = some usd) (state : (String → Option Int) × Nat) :
    (works.foldl (takeOver config quotes) state).1 work.1.coinType = some (usdToMicroUsd config usd) := by
  induction works generalizing state with
  | nil => cases there
  | cons first works ih =>
    rw [List.map_cons, List.nodup_cons] at distinct
    rw [List.foldl_cons]
    rcases List.mem_cons.mp there with rfl | later
    · rw [price_of_passed _ (fun other member same => ?_)]
      · simp only [takeOver, taken, Function.update_self]
      · exact absurd (List.mem_map.mpr ⟨other, member, same⟩) distinct.1
    · exact ih distinct.2 later _

/-- The hits count the quotes taken over. -/
theorem hits_pos_iff {quotes : String → Quote} (works : List (CoinSpec × String)) (state : (String → Option Int) × Nat) :
    0 < (works.foldl (takeOver config quotes) state).2 ↔
      0 < state.2 ∨ ∃ work ∈ works, ∃ usd, accepted config work.1.staticUsd (quotes work.2) = some usd := by
  induction works generalizing state with
  | nil => simp
  | cons work works ih =>
    rw [List.foldl_cons, ih]
    simp only [List.exists_mem_cons_iff]
    cases taken : accepted config work.1.staticUsd (quotes work.2) with
    | none => simp [takeOver, taken]
    | some usd => simp [takeOver, taken]

/-! ### What a history of refreshes leaves -/

def Refresh.isAnswer (refresh : Refresh) : Bool :=
  match refresh.response with
  | .body _ => true
  | _ => false

/-- The last refresh that brought an answer. -/
def latest (refreshes : List Refresh) : Option Refresh := (refreshes.filter Refresh.isAnswer).getLast?

/-- Where the prices and the time stamp of a snapshot come from. -/
structure Traced (config : Config) (registry : Registry) (refreshes : List Refresh) (snapshot : PriceFeedSnapshot) : Prop where
  success : snapshot.lastFeedSuccessAt ≠ 0 → ∃ hit ∈ refreshes, hit.now = snapshot.lastFeedSuccessAt ∧
    ∃ spec ∈ registry.specs, ∃ usd, hit.Accepts config spec usd
  taken : ∀ last, latest refreshes = some last → ∀ spec ∈ registry.specs, ∀ usd, last.Accepts config spec usd →
    snapshot.pricesMicroUsd spec.coinType = some (usdToMicroUsd config usd) ∧ snapshot.lastFeedSuccessAt = last.now
  seed : ∀ last, latest refreshes = some last → ∀ spec ∈ registry.specs, (∀ usd, ¬last.Accepts config spec usd) →
    snapshot.pricesMicroUsd spec.coinType = spec.staticUsd.map (usdToMicroUsd config)

theorem latest_concat_answer (refreshes : List Refresh) {refresh : Refresh} (answer : refresh.isAnswer = true) :
    latest (refreshes ++ [refresh]) = some refresh := by
  rw [latest, List.filter_append, List.filter_cons_of_pos answer, List.filter_nil, List.getLast?_concat]

theorem latest_concat_other (refreshes : List Refresh) {refresh : Refresh} (other : refresh.isAnswer = false) :
    latest (refreshes ++ [refresh]) = latest refreshes := by
  rw [latest, List.filter_append, List.filter_cons_of_neg (by simp [other]), List.filter_nil, List.append_nil]
  rfl

/-- A refresh without an answer leaves everything as it is. -/
theorem Traced.skip {registry : Registry} {refreshes : List Refresh} {snapshot : PriceFeedSnapshot}
    (traced : Traced config registry refreshes snapshot) {refresh : Refresh} (other : refresh.isAnswer = false) :
    Traced config registry (refreshes ++ [refresh]) snapshot := by
  refine ⟨fun polled => ?_, ?_, ?_⟩
  · obtain ⟨hit, there, same, accepts⟩ := traced.success polled
    exact ⟨hit, List.mem_append_left _ there, same, accepts⟩
  · rw [latest_concat_other refreshes other]
    exact traced.taken
  · rw [latest_concat_other refreshes other]
    exact traced.seed

theorem Traced.answer {registry : Registry} {refreshes : List Refresh} {snapshot : PriceFeedSnapshot}
    (traced : Traced config registry refreshes snapshot) {refresh : Refresh} {quotes : String → Quote}
    (body : refresh.response = .body quotes) :
    Traced config registry (refreshes ++ [refresh])
      (assemble config registry refresh.now snapshot.lastFeedSuccessAt quotes) := by
  have answer : refresh.isAnswer = true := by rw [Refresh.isAnswer, body]
  have taken : ∀ spec ∈ registry.specs, ∀ usd, refresh.Accepts config spec usd →
      (assemble config registry refresh.now snapshot.lastFeedSuccessAt quotes).pricesMicroUsd spec.coinType =
        some (usdToMicroUsd config usd) ∧
      (assemble config registry refresh.now snapshot.lastFeedSuccessAt quotes).lastFeedSuccessAt = refresh.now := by
    rintro spec there usd ⟨_, id, same, polled, accepts⟩
    rw [body] at same
    cases same
    have work : (spec, id) ∈ workList registry := mem_workList.mpr ⟨there, polled⟩
    refine ⟨price_of_accepted (distinct_workList registry) work accepts _, ?_⟩
    exact if_pos ((hits_pos_iff (workList registry) _).mpr (.inr ⟨_, work, usd, accepts⟩))
  refine ⟨fun polled => ?_, ?_, ?_⟩
  · by_cases hit : ∃ spec ∈ registry.specs, ∃ usd, refresh.Accepts config spec usd
    · obtain ⟨spec, there, usd, accepts⟩ := hit
      exact ⟨refresh, List.mem_append_right _ (List.mem_singleton_self _), (taken spec there usd accepts).2.symm,
        spec, there, usd, accepts⟩
    · have unhit : ¬0 < ((workList registry).foldl (takeOver config quotes) (staticPrices config registry, 0)).2 := by
        rw [hits_pos_iff]
        rintro (zero | ⟨⟨spec, id⟩, work, usd, accepts⟩)
        · exact absurd zero (Nat.lt_irrefl 0)
        · obtain ⟨there, polled⟩ := mem_workList.mp work
          exact hit ⟨spec, there, usd, quotes, id, body, polled, accepts⟩
      have kept : (assemble config registry refresh.now snapshot.lastFeedSuccessAt quotes).lastFeedSuccessAt =
          snapshot.lastFeedSuccessAt := if_neg unhit
      rw [kept] at polled ⊢
      obtain ⟨hit, there, same, accepts⟩ := traced.success polled
      exact ⟨hit, List.mem_append_left _ there, same, accepts⟩
  · intro last answered spec there usd accepts
    rw [latest_concat_answer refreshes answer] at answered
    cases answered
    exact taken spec there usd accepts
  · intro last answered spec there passed
    rw [latest_concat_answer refreshes answer] at answered
    cases answered
    have seed : staticPrices config registry spec.coinType = spec.staticUsd.map (usdToMicroUsd config) := by
      unfold staticPrices
      rw [Registry.get_of_mem there]
      rfl
    refine (price_of_passed _ ?_).trans seed
    rintro ⟨other, id⟩ work same
    obtain ⟨member, polled⟩ := mem_workList.mp work
    have equal : other = spec := List.inj_on_of_nodup_map registry.distinct member there same
    subst equal
    cases accepts : accepted config other.staticUsd (quotes id) with
    | none => rfl
    | some usd => exact absurd ⟨quotes, id, body, polled, accepts⟩ (passed usd)

theorem Traced.refresh {registry : Registry} (polls : workList registry ≠ []) {refreshes : List Refresh}
    {snapshot : PriceFeedSnapshot} (traced : Traced config registry refreshes snapshot) (refresh : Refresh) :
    Traced config registry (refreshes ++ [refresh]) (refreshNow config registry snapshot refresh.now refresh.response) := by
  unfold refreshNow
  rw [if_neg polls]
  split
  next quotes body => exact traced.answer body
  next silent =>
    refine traced.skip ?_
    cases response : refresh.response with
    | body quotes => exact absurd response (silent quotes)
    | _ => rw [Refresh.isAnswer, response]

theorem traced_of_refreshes {registry : Registry} (polls : workList registry ≠ []) (boot : Time) (refreshes : List Refresh) :
    Traced config registry refreshes (afterRefreshes config registry boot refreshes) := by
  induction refreshes using List.reverseRecOn with
  | nil =>
    refine ⟨fun polled => absurd rfl polled, ?_, ?_⟩
    · intro last answered
      cases answered
    · intro last answered
      cases answered
  | append_singleton refreshes refresh ih =>
    rw [afterRefreshes, List.foldl_append, List.foldl_cons, List.foldl_nil]
    exact ih.refresh polls refresh

/-! ### The price of a credit -/

/-- The price comes from the last answer, if that held one for the coin and is recent; else it is the seed. -/
def PricedBy (config : Config) (spec : CoinSpec) (now : Time) (rate : Int) (last : Refresh) : Prop :=
  (∃ usd, last.Accepts config spec usd ∧ last.Recent config now ∧ rate = usdToMicroUsd config usd) ∨
    (∀ usd, ¬last.Accepts config spec usd) ∧ ∃ seed, spec.staticUsd = some seed ∧ rate = usdToMicroUsd config seed

theorem creditsFor_ok {registry : Registry} {snapshot : PriceFeedSnapshot} {now : Time} {coinType : String}
    {amount credits rate : Int} (succeeds : creditsFor config registry snapshot now coinType amount = .ok (credits, rate)) :
    assertPricesFresh config registry snapshot now = .ok () ∧
      snapshot.pricesMicroUsd (config.normalizeStructTag coinType) = some rate := by
  unfold creditsFor at succeeds
  split at succeeds
  · cases succeeds
  next fresh =>
    refine ⟨fresh, ?_⟩
    split at succeeds
    · cases succeeds
    next result converted =>
      cases succeeds
      unfold microUsdFromAtomic at converted
      split at converted
      · cases converted
      next price there =>
        split at converted
        · cases converted
        · cases converted
          exact there

/-- What passes the gate is a snapshot with a recent hit. -/
theorem fresh_iff {registry : Registry} (polls : workList registry ≠ []) {snapshot : PriceFeedSnapshot} {now : Time} :
    assertPricesFresh config registry snapshot now = .ok () ↔
      snapshot.lastFeedSuccessAt ≠ 0 ∧ (now : Int) - snapshot.lastFeedSuccessAt ≤ config.maxAgeSec * 1000 := by
  unfold assertPricesFresh
  have some_ : (workList registry).length ≠ 0 := by simpa using polls
  simp only [some_, if_false]
  split
  next stale =>
    refine iff_of_false (fun same => by cases same) ?_
    rintro ⟨polled, recent⟩
    rcases stale with never | old
    · exact polled never
    · omega
  next fresh =>
    refine iff_of_true rfl ⟨fun never => fresh (.inl never), ?_⟩
    by_contra old
    exact fresh (.inr (by omega))

def sampleConfig : Config where
  normalizeStructTag := fullTag
  toDouble number := number
  coinDecimals := []
  coingeckoIds := [("0x2::sui::SUI", "sui")]
  usdPrices := [("0x2::sui::SUI", 1)]
  maxAgeSec := 14400
  maxDeviation := 10

/-- SUI and IKA, both polled. -/
def sampleRegistry : Registry := warmRegistry sampleConfig ⟨some "0x1::ika::IKA", none⟩

/-- The answer holds SUI at $2 and nothing else. -/
def suiOnly (id : String) : Quote := if id = "sui" then .number 2 else .notANumber

def sampleRefreshes : List Refresh := [⟨1000, .body suiOnly⟩]

def sampleSui : CoinSpec := ⟨fullTag "0x2::sui::SUI", 9, some "sui", some 1⟩
def sampleIka : CoinSpec := ⟨fullTag "0x1::ika::IKA", 9, some "ika", some (1 / 20)⟩

end MpcKit.Pricing
