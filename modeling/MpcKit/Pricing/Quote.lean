import MpcKit.Encoding.Codec
import MpcKit.Pricing.Freshness

/-! `packages/core/src/ika-bcs.ts` and `features/pricing/service.ts`: the coordinator's price table,
read from its BCS bytes into a map by text keys, and the quote of a signature. -/

namespace MpcKit.Pricing
open MpcKit.Backend MpcKit.Encoding

/-! ### The layout -/

structure PricingInfoKey where
  curve : UInt32
  signatureAlgorithm : Option UInt32
  protocol : UInt32
  deriving DecidableEq

structure PricingInfoValue where
  feeIka : UInt64
  gasFeeReimbursementSui : UInt64
  gasFeeReimbursementSuiForSystemCalls : UInt64
  deriving DecidableEq

/-- `PricingInfo`, a struct around a `VecMap`. -/
structure PricingInfo where
  contents : List (PricingInfoKey × PricingInfoValue)

namespace PricingInfo

def key : Codec PricingInfoKey :=
  (Codec.u32.pair (Codec.u32.option.pair Codec.u32)).via
    (fun key => (key.curve, key.signatureAlgorithm, key.protocol)) (fun parts => ⟨parts.1, parts.2.1, parts.2.2⟩)
    (fun _ => rfl)

def value : Codec PricingInfoValue :=
  (Codec.u64.pair (Codec.u64.pair Codec.u64)).via
    (fun value => (value.feeIka, value.gasFeeReimbursementSui, value.gasFeeReimbursementSuiForSystemCalls))
    (fun parts => ⟨parts.1, parts.2.1, parts.2.2⟩) (fun _ => rfl)

def codec : Codec PricingInfo := (key.pair value).vector.via contents mk (fun _ => rfl)

end PricingInfo

/-! ### The snapshot -/

namespace Protocol

def presign : Nat := 5
def sign : Nat := 6

end Protocol

structure PricingValue where
  feeIka : Nat
  gasFeeReimbursementSui : Nat
  gasFeeReimbursementSuiForSystemCalls : Nat
  deriving DecidableEq, Repr

structure PricingKey where
  curve : Nat
  signatureAlgorithm : Option Nat
  protocol : Nat
  deriving DecidableEq, Repr

structure PricingSnapshot where
  /-- A `Map`; setting a key again replaces its value. -/
  byKey : String → Option PricingValue
  entries : List (PricingKey × PricingValue)
  loadedAt : Time

/-- `${curve}:${signatureAlgorithm ?? "null"}:${protocol}` -/
def pricingKey (curve : Nat) (signatureAlgorithm : Option Nat) (protocol : Nat) : String :=
  let algorithm := match signatureAlgorithm with
    | some number => number.repr
    | none => "null"
  curve.repr ++ ":" ++ algorithm ++ ":" ++ protocol.repr

def PricingInfoKey.numbers (key : PricingInfoKey) : PricingKey :=
  ⟨key.curve.toNat, key.signatureAlgorithm.map UInt32.toNat, key.protocol.toNat⟩

def PricingInfoValue.numbers (value : PricingInfoValue) : PricingValue :=
  ⟨value.feeIka.toNat, value.gasFeeReimbursementSui.toNat, value.gasFeeReimbursementSuiForSystemCalls.toNat⟩

def PricingKey.text (key : PricingKey) : String := pricingKey key.curve key.signatureAlgorithm key.protocol

/-- The answer of `simulateTransaction`. -/
inductive Simulated where
  | transaction (returned : Option (List UInt8))
  | failed (kind : String)

/-- One turn of the loop of `loadPricing`. -/
def PricingSnapshot.add (snapshot : PricingSnapshot) (entry : PricingInfoKey × PricingInfoValue) : PricingSnapshot :=
  { snapshot with
    byKey := Function.update snapshot.byKey entry.1.numbers.text (some entry.2.numbers)
    entries := snapshot.entries ++ [(entry.1.numbers, entry.2.numbers)] }

/-- `unreadable` is what the BCS reader throws. -/
def loadPricing (unreadable : Thrown) (simulated : Simulated) (now : Time) : Except Thrown PricingSnapshot :=
  match simulated with
  | .failed kind => .error (.other "Error" s!"pricing: simulateTransaction returned {kind} (expected Transaction)")
  | .transaction none => .error (.other "Error" "pricing: empty return from current_pricing()")
  | .transaction (some bytes) => match PricingInfo.codec.parse bytes with
      | none => .error unreadable
      | some info => .ok (info.contents.foldl PricingSnapshot.add ⟨fun _ => none, [], now⟩)

/-! ### The quote -/

structure SignQuote where
  feeIka : Nat
  feeSui : Nat
  feeMicroUsd : Int
  protocols : List (Nat × PricingValue)
  deriving DecidableEq, Repr

def FeedError.thrown (error : FeedError) : Thrown := .other "Error" error.message

section Feed

variable (config : Config) (registry : Registry) (feed : PriceFeedSnapshot) (ikaCoinType : Option String)

/-- A leg of the fee in microUSD; a leg of nothing needs no price. -/
def legMicroUsd (coinType : String) (fee : Nat) : Except Thrown Int :=
  if fee = 0 then .ok 0
  else match microUsdFromAtomic config registry feed coinType fee with
    | .ok (microUsd, _) => .ok microUsd
    | .error error => .error error.thrown

def ikaSuiToMicroUsd (feeIka feeSui : Nat) : Except Thrown Int := do
  let sui ← legMicroUsd config registry feed suiCoinType feeSui
  let ika ← match ikaCoinType with
    | some ikaType => legMicroUsd config registry feed ikaType feeIka
    | none => .ok 0
  return sui + ika

def protocolPrice (snapshot : PricingSnapshot) (curve signatureAlgorithm protocol : Nat) : Except Thrown PricingValue :=
  match snapshot.byKey (pricingKey curve (some signatureAlgorithm) protocol) with
  | some value => .ok value
  | none => .error (.other "Error"
      s!"pricing: no entry for (curve={curve}, sigAlgo={signatureAlgorithm}, protocol={protocol})")

def quoteSign (now : Time) (snapshot : PricingSnapshot) (curve signatureAlgorithm : Nat) : Except Thrown SignQuote :=
  match assertPricesFresh config registry feed now with
  | .error error => .error (.app (errors.unavailable error.message
      (if error.code = some "PRICE_FEED_STALE" then "PRICE_FEED_STALE" else "PRICE_FEED_UNAVAILABLE")))
  | .ok _ => do
      let presign ← protocolPrice snapshot curve signatureAlgorithm Protocol.presign
      let sign ← protocolPrice snapshot curve signatureAlgorithm Protocol.sign
      let feeIka := presign.feeIka + sign.feeIka
      let feeSui := presign.gasFeeReimbursementSui + presign.gasFeeReimbursementSuiForSystemCalls +
        (sign.gasFeeReimbursementSui + sign.gasFeeReimbursementSuiForSystemCalls)
      let feeMicroUsd ← ikaSuiToMicroUsd config registry feed ikaCoinType feeIka feeSui
      return ⟨feeIka, feeSui, feeMicroUsd, [(Protocol.presign, presign), (Protocol.sign, sign)]⟩

end Feed

/-! ### Text keys -/

theorem toDigits_inj {first second : Nat} (same : Nat.toDigits 10 first = Nat.toDigits 10 second) : first = second := by
  rw [← Nat.ofDigitChars_ten_toDigits (n := first), same, Nat.ofDigitChars_ten_toDigits]

theorem not_mem_toDigits {char : Char} (number : Nat) (other : char.isDigit = false) : char ∉ Nat.toDigits 10 number := by
  intro there
  have digit := Nat.isDigit_of_mem_toDigits (by decide) (by decide) there
  rw [other] at digit
  cases digit

/-- The middle part of a key. -/
def algorithmText : Option Nat → List Char
  | some number => Nat.toDigits 10 number
  | none => "null".toList

theorem algorithmText_inj {first second : Option Nat} (same : algorithmText first = algorithmText second) : first = second := by
  have null : ∀ number, algorithmText (some number) ≠ algorithmText none := by
    intro number equal
    apply not_mem_toDigits number (show 'n'.isDigit = false from rfl)
    rw [show Nat.toDigits 10 number = algorithmText none from equal]
    decide
  cases first with
  | none =>
    cases second with
    | none => rfl
    | some number => exact absurd same.symm (null number)
  | some number =>
    cases second with
    | none => exact absurd same (null number)
    | some other => rw [toDigits_inj same]

theorem colon_not_mem_algorithmText (algorithm : Option Nat) : ':' ∉ algorithmText algorithm := by
  cases algorithm with
  | none => decide
  | some number => exact not_mem_toDigits number rfl

theorem toList_pricingKey (curve : Nat) (algorithm : Option Nat) (protocol : Nat) : (pricingKey curve algorithm protocol).toList =
    Nat.toDigits 10 curve ++ ':' :: (algorithmText algorithm ++ ':' :: Nat.toDigits 10 protocol) := by
  have colon : ":".toList = [':'] := rfl
  cases algorithm <;>
    simp only [pricingKey, algorithmText, String.toList_append, Nat.toList_repr, colon, List.append_assoc,
      List.cons_append, List.nil_append]

/-- Two entries never share a text key. -/
theorem text_inj {first second : PricingKey} (same : first.text = second.text) : first = second := by
  obtain ⟨curve, algorithm, protocol⟩ := first
  obtain ⟨curve', algorithm', protocol'⟩ := second
  have chars := congrArg String.toList same
  simp only [PricingKey.text, toList_pricingKey] at chars
  obtain ⟨curves, rest⟩ := append_separator_inj (not_mem_toDigits _ rfl) (not_mem_toDigits _ rfl) chars
  obtain ⟨algorithms, protocols⟩ :=
    append_separator_inj (colon_not_mem_algorithmText _) (colon_not_mem_algorithmText _) rest
  rw [toDigits_inj curves, algorithmText_inj algorithms, toDigits_inj protocols]

theorem numbers_inj {first second : PricingInfoKey} (same : first.numbers = second.numbers) : first = second := by
  obtain ⟨curve, algorithm, protocol⟩ := first
  obtain ⟨curve', algorithm', protocol'⟩ := second
  simp only [PricingInfoKey.numbers, PricingKey.mk.injEq] at same
  obtain ⟨curves, algorithms, protocols⟩ := same
  have inside : Function.Injective UInt32.toNat := fun _ _ equal => UInt32.toNat.inj equal
  rw [inside curves, Option.map_injective inside algorithms, inside protocols]

/-! ### The table on chain -/

/-- The price the coordinator charges, looked up by the typed key. -/
def PricingInfo.price (table : PricingInfo) (key : PricingKey) : Option PricingValue :=
  (table.contents.find? (fun entry => entry.1.numbers = key)).map (fun entry => entry.2.numbers)

/-- The loop files every entry under its key, over what was there. -/
theorem byKey_fold {contents : List (PricingInfoKey × PricingInfoValue)} (distinct : (contents.map Prod.fst).Nodup)
    (snapshot : PricingSnapshot) (key : PricingKey) :
    (contents.foldl PricingSnapshot.add snapshot).byKey key.text =
      (PricingInfo.price ⟨contents⟩ key).or (snapshot.byKey key.text) := by
  induction contents generalizing snapshot with
  | nil => rfl
  | cons entry contents ih =>
    rw [List.map_cons, List.nodup_cons] at distinct
    rw [List.foldl_cons, ih distinct.2]
    by_cases here : entry.1.numbers = key
    · have absent : PricingInfo.price ⟨contents⟩ key = none := by
        rw [PricingInfo.price, Option.map_eq_none_iff, List.find?_eq_none]
        intro other member equal
        apply distinct.1
        rw [numbers_inj (here.trans (of_decide_eq_true equal).symm)]
        exact List.mem_map_of_mem member
      rw [absent]
      simp [PricingSnapshot.add, PricingInfo.price, here]
    · have apart : key.text ≠ entry.1.numbers.text := fun same => here (text_inj same).symm
      simp [PricingSnapshot.add, PricingInfo.price, here, Function.update_of_ne apart]

theorem entries_fold (contents : List (PricingInfoKey × PricingInfoValue)) (snapshot : PricingSnapshot) :
    (contents.foldl PricingSnapshot.add snapshot).entries =
      snapshot.entries ++ contents.map (fun entry => (entry.1.numbers, entry.2.numbers)) := by
  induction contents generalizing snapshot with
  | nil => simp
  | cons entry contents ih => simp [ih, PricingSnapshot.add]

theorem protocolPrice_eq_ok {snapshot : PricingSnapshot} {table : PricingInfo} {curve signatureAlgorithm protocol : Nat}
    {value : PricingValue} (known : ∀ key : PricingKey, snapshot.byKey key.text = table.price key) :
    protocolPrice snapshot curve signatureAlgorithm protocol = .ok value ↔
      table.price ⟨curve, some signatureAlgorithm, protocol⟩ = some value := by
  have same : snapshot.byKey (pricingKey curve (some signatureAlgorithm) protocol) =
      table.price ⟨curve, some signatureAlgorithm, protocol⟩ := known ⟨curve, some signatureAlgorithm, protocol⟩
  rw [protocolPrice, same]
  cases table.price ⟨curve, some signatureAlgorithm, protocol⟩ with
  | none => simp
  | some found => simp

/-- A quote is the sum of the two entries of the table for the pair, at fresh prices. -/
structure Quoted (config : Config) (registry : Registry) (feed : PriceFeedSnapshot) (ikaCoinType : Option String) (now : Time)
    (table : PricingInfo) (curve signatureAlgorithm : Nat) (quote : SignQuote) (presign sign : PricingValue) : Prop where
  fresh : assertPricesFresh config registry feed now = .ok ()
  forPresign : table.price ⟨curve, some signatureAlgorithm, Protocol.presign⟩ = some presign
  forSign : table.price ⟨curve, some signatureAlgorithm, Protocol.sign⟩ = some sign
  feeIka : quote.feeIka = presign.feeIka + sign.feeIka
  feeSui : quote.feeSui = presign.gasFeeReimbursementSui + presign.gasFeeReimbursementSuiForSystemCalls +
    (sign.gasFeeReimbursementSui + sign.gasFeeReimbursementSuiForSystemCalls)
  feeMicroUsd : ikaSuiToMicroUsd config registry feed ikaCoinType quote.feeIka quote.feeSui = .ok quote.feeMicroUsd
  protocols : quote.protocols = [(Protocol.presign, presign), (Protocol.sign, sign)]

theorem quoteSign_eq_ok {config : Config} {registry : Registry} {feed : PriceFeedSnapshot} {ikaCoinType : Option String}
    {now : Time} {snapshot : PricingSnapshot} {table : PricingInfo} {curve signatureAlgorithm : Nat} {quote : SignQuote}
    (known : ∀ key : PricingKey, snapshot.byKey key.text = table.price key) :
    quoteSign config registry feed ikaCoinType now snapshot curve signatureAlgorithm = .ok quote ↔
      ∃ presign sign, Quoted config registry feed ikaCoinType now table curve signatureAlgorithm quote presign sign := by
  constructor
  · intro quoted
    unfold quoteSign at quoted
    split at quoted
    · cases quoted
    next fresh =>
      cases first : protocolPrice snapshot curve signatureAlgorithm Protocol.presign with
      | error error =>
        rw [first] at quoted
        cases quoted
      | ok presign =>
        cases second : protocolPrice snapshot curve signatureAlgorithm Protocol.sign with
        | error error =>
          rw [first, second] at quoted
          cases quoted
        | ok sign =>
          rw [first, second] at quoted
          simp only [bind, Except.bind] at quoted
          split at quoted
          · cases quoted
          next feeMicroUsd priced =>
            cases quoted
            exact ⟨presign, sign, fresh, (protocolPrice_eq_ok known).mp first, (protocolPrice_eq_ok known).mp second,
              rfl, rfl, priced, rfl⟩
  · intro stated
    obtain ⟨presign, sign, stated⟩ := stated
    have first := (protocolPrice_eq_ok known).mpr stated.forPresign
    have second := (protocolPrice_eq_ok known).mpr stated.forSign
    have priced := stated.feeMicroUsd
    rw [stated.feeIka, stated.feeSui] at priced
    unfold quoteSign
    rw [stated.fresh]
    simp only [first, second, priced, bind, Except.bind, pure, Except.pure]
    rw [← stated.feeIka, ← stated.feeSui, ← stated.protocols]

def sampleTable : PricingInfo :=
  ⟨[(⟨0, some 0, 5⟩, ⟨3000, 1, 2⟩), (⟨0, some 0, 6⟩, ⟨4000, 5, 6⟩), (⟨0, none, 9⟩, ⟨300, 0, 0⟩)]⟩

/-- The configured prices, after an answer for SUI. -/
def sampleFeed : PriceFeedSnapshot := afterRefreshes sampleConfig sampleRegistry 500 sampleRefreshes

end MpcKit.Pricing
