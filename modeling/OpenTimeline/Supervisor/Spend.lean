import OpenTimeline.Supervisor.Runtime
import OpenTimeline.Dispatch.Records

/-! What a run is recorded to have cost.

An adapter says of the cost it decodes where it is from. `dispatch_once` passes the figure on
and not the label, and `reconcile` takes any figure for the provider's (`costOf_reported_iff`),
so a label is kept where there is no figure. -/
namespace OpenTimeline.Supervisor
open Dispatch (CostSource Reconciliation Reservation costSourceLiteral)
open Charter (spendEnforcementFor)

variable (host : Host)

/-! ### The budget -/

/-- Prices a million tokens, by model and by kind of token. -/
abbrev PriceTable := List (String × List (String × Int))

/-- `_TOKEN_PRICE_KEYS`, each with the counter it prices. -/
def tokenPriceKeys : List (String × (Tokens → Int)) :=
  [("input", Tokens.input), ("output", Tokens.output), ("cached_input", Tokens.cachedInput),
    ("reasoning", Tokens.reasoning)]

/-- The counters of `result_tokens`. -/
def tokensOf (resultTokens : List (String × Int)) : Tokens where
  input := (resultTokens.lookup "input").getD 0
  output := (resultTokens.lookup "output").getD 0
  cachedInput := (resultTokens.lookup "cached_input").getD 0
  reasoning := (resultTokens.lookup "reasoning").getD 0

/-- `price_table.get(model_id)`, where there is a price in it. -/
def pricesOf (priceTable : PriceTable) (modelId : String) : Option (List (String × Int)) :=
  (priceTable.lookup modelId).filter (!·.isEmpty)

/-- The cost and its source, in `reconcile`. -/
def costOf (tokens : Tokens) (isError : Bool) (providerCost : Option Int) (prices : Option (List (String × Int))) :
    Int × CostSource :=
  match providerCost with
  | some cost => (cost, .providerReported)
  | none =>
    if tokens = {} ∧ isError then (0, .unavailable)
    else match prices with
      | none => (0, .unavailable)
      | some prices =>
        if tokens = {} then (0, .unavailable)
        else ((tokenPriceKeys.map fun key => key.2 tokens * (prices.lookup key.1).getD 0).sum / 1000000, .estimated)

/-- `reconcile` -/
def reconcile (resultTokens : List (String × Int)) (providerCost : Option Int) (priceTable : PriceTable)
    (modelId : String) (reservation : Reservation) : Reconciliation :=
  let tokens := tokensOf resultTokens
  let cost := costOf tokens ((resultTokens.lookup "is_error").getD 0 ≠ 0) providerCost (pricesOf priceTable modelId)
  { costMinorUnits := cost.1
    costSource := cost.2
    tokensInput := tokens.input
    tokensOutput := tokens.output
    tokensCachedInput := tokens.cachedInput
    tokensReasoning := tokens.reasoning
    overshootMinorUnits := max 0 (cost.1 - reservation.reservedMinorUnits) }

/-- The reconciliation of a result, in `dispatch_once`. -/
def spendReconciliation (chosen : String) (result : RuntimeResult) (priceTable : PriceTable) (modelId : String)
    (maxBudgetMinor : Option Int) : Reconciliation :=
  reconcile [("input", result.tokens.input), ("output", result.tokens.output),
      ("cached_input", result.tokens.cachedInput), ("reasoning", result.tokens.reasoning),
      ("is_error", if result.isError then 1 else 0)]
    result.costMinorUnits priceTable modelId
    { reservedMinorUnits := maxBudgetMinor.getD 0
      currency := "USD"
      spendEnforcement := spendEnforcementFor chosen
      capApplied := none }

/-- A figure is taken for the provider's, whatever it is. -/
theorem costOf_reported_iff {tokens : Tokens} {isError : Bool} {providerCost : Option Int}
    {prices : Option (List (String × Int))} :
    (costOf tokens isError providerCost prices).2 = .providerReported ↔ providerCost.isSome := by
  unfold costOf
  cases providerCost with
  | some cost => simp
  | none =>
    cases prices with
    | none => simp
    | some prices =>
      simp only [Option.isSome_none, Bool.false_eq_true, iff_false]
      split_ifs <;> simp

/-- Without a figure the cost is estimated just where there are tokens, and prices for them. -/
theorem costOf_none {tokens : Tokens} {isError : Bool} {prices : Option (List (String × Int))} :
    (costOf tokens isError none prices).2 = if tokens = {} ∨ prices = none then .unavailable else .estimated := by
  unfold costOf
  cases prices with
  | none => simp
  | some prices => by_cases htokens : tokens = {} <;> simp [htokens]

theorem spendReconciliation_costSource {chosen : String} {result : RuntimeResult} {priceTable : PriceTable}
    {modelId : String} {maxBudgetMinor : Option Int} :
    (spendReconciliation chosen result priceTable modelId maxBudgetMinor).costSource =
      (costOf result.tokens result.isError result.costMinorUnits (pricesOf priceTable modelId)).2 := by
  have htokens : tokensOf [("input", result.tokens.input), ("output", result.tokens.output),
      ("cached_input", result.tokens.cachedInput), ("reasoning", result.tokens.reasoning),
      ("is_error", if result.isError then 1 else 0)] = result.tokens := rfl
  have herror : decide ((([("input", result.tokens.input), ("output", result.tokens.output),
      ("cached_input", result.tokens.cachedInput), ("reasoning", result.tokens.reasoning),
      ("is_error", if result.isError then 1 else 0)] : List (String × Int)).lookup "is_error").getD 0 ≠ 0) =
      result.isError := by
    cases result.isError <;> rfl
  simp only [spendReconciliation, reconcile, htokens, herror]

/-! ### Labels -/

/-- How much a source says of a cost. -/
def strength : CostSource → Nat
  | .unavailable => 0
  | .estimated => 1
  | .providerReported => 2

/-- The source the adapter decoded. -/
def RuntimeResult.source (result : RuntimeResult) : CostSource := costSourceLiteral host (.str result.costSource)

/-- A recorded source says of the provider what the adapter does, and nothing of a run that broke off
without usage. -/
structure KeepsSource (result : RuntimeResult) (recorded : CostSource) : Prop where
  reported : recorded = .providerReported → result.source host = .providerReported
  errored : result.isError = true → result.tokens = {} → recorded = .unavailable

/-- `isinstance(value, (int, float))` -/
def isNumber : Json → Bool
  | .int _ | .bool _ | .float _ => true
  | _ => false

/-- The counters of `usage` that are read. -/
def usageCounters : List (List String) :=
  [["input_tokens"], ["output_tokens"], ["cache_read_input_tokens", "cached_input_tokens"], ["reasoning_output_tokens"]]

namespace ClaudeStream

variable {host} {round : PyFloat → Int} {payload : Payload} {providerRunId : String} {killedReason : Option String}

theorem cents_isSome (round : PyFloat → Int) (value : Json) : (cents round value).isSome = isNumber value := by
  cases value <;> rfl

theorem decodeResult_cost :
    (decodeResult host round payload providerRunId killedReason).costMinorUnits.isSome =
      isNumber (payload.get "total_cost_usd") := cents_isSome _ _

/-- The adapter has no cost of the provider's. -/
theorem decodeResult_source :
    (decodeResult host round payload providerRunId killedReason).source host =
      if isNumber (payload.get "total_cost_usd") then .estimated else .unavailable := by
  rw [← cents_isSome round]
  unfold RuntimeResult.source decodeResult
  cases (cents round (payload.get "total_cost_usd")).isSome <;> rfl

theorem decodeResult_tokens_eq :
    (decodeResult host round payload providerRunId killedReason).tokens = {} ↔
      ∀ names ∈ usageCounters, readNumber (mapping (payload.get "usage")) names = 0 := by
  simp [decodeResult, usageCounters]

/-- The recorded source is the adapter's just where the terminal object has no number for a cost, and none
stronger than the adapter's just where besides nothing is priced. -/
theorem spend_source_iff (round : PyFloat → Int) (payload : Payload) (providerRunId : String)
    (killedReason : Option String) (chosen : String) (priceTable : PriceTable) (modelId : String)
    (maxBudgetMinor : Option Int) :
    let result := decodeResult host round payload providerRunId killedReason
    let recorded := (spendReconciliation chosen result priceTable modelId maxBudgetMinor).costSource
    (KeepsSource host result recorded ↔ isNumber (payload.get "total_cost_usd") = false) ∧
      (KeepsSource host result recorded ∧ strength recorded ≤ strength (result.source host) ↔
        isNumber (payload.get "total_cost_usd") = false ∧
          ((∀ names ∈ usageCounters, readNumber (mapping (payload.get "usage")) names = 0) ∨
            pricesOf priceTable modelId = none)) := by
  intro result recorded
  have hrecorded : recorded = (costOf result.tokens result.isError result.costMinorUnits (pricesOf priceTable modelId)).2 :=
    spendReconciliation_costSource
  have hsource : result.source host = if isNumber (payload.get "total_cost_usd") then .estimated else .unavailable :=
    decodeResult_source
  have hcost : result.costMinorUnits.isSome = isNumber (payload.get "total_cost_usd") := decodeResult_cost
  have htokens : result.tokens = {} ↔
      ∀ names ∈ usageCounters, readNumber (mapping (payload.get "usage")) names = 0 := decodeResult_tokens_eq
  rw [← htokens]
  cases hnumber : isNumber (payload.get "total_cost_usd") with
  | true =>
    have hreported : recorded = .providerReported := by
      rw [hrecorded, costOf_reported_iff, hcost, hnumber]
    have hnot : ¬ KeepsSource host result recorded := by
      intro h
      have := h.reported hreported
      rw [hsource, hnumber] at this
      cases this
    exact ⟨iff_of_false hnot (by simp), iff_of_false (fun h => hnot h.1) (by simp)⟩
  | false =>
    have hnone : result.costMinorUnits = none := by
      rw [← Option.not_isSome_iff_eq_none, hcost, hnumber]
      simp
    rw [hnone, costOf_none] at hrecorded
    rw [hnumber] at hsource
    have hkeeps : KeepsSource host result recorded := by
      constructor
      · intro h
        rw [hrecorded] at h
        split_ifs at h
      · intro _ htokens
        rw [hrecorded, if_pos (Or.inl htokens)]
    refine ⟨iff_of_true hkeeps rfl, ?_⟩
    rw [and_iff_right hkeeps, and_iff_right rfl, hsource, hrecorded]
    by_cases hpriced : result.tokens = {} ∨ pricesOf priceTable modelId = none
    · rw [if_pos hpriced]
      exact iff_of_true le_rfl hpriced
    · rw [if_neg hpriced]
      exact iff_of_false (by decide) hpriced

/-- A run that broke off: no usage, and an estimate of nothing. -/
def brokenOff : Payload :=
  [("type", .str "result"), ("subtype", .str "success"), ("is_error", .bool true), ("total_cost_usd", .int 0),
    ("usage", .obj [("input_tokens", .int 0), ("output_tokens", .int 0), ("cache_read_input_tokens", .int 0)])]

/-- Its estimate is recorded as the provider's. -/
theorem spend_source_brokenOff :
    let result := decodeResult (asciiHost [] []) (fun x => x.trunc * 100) brokenOff "run-1" none
    let recorded := (spendReconciliation "claude/stream" result [] "" none).costSource
    recorded = .providerReported ∧ result.costSource = "estimated" ∧ ¬ KeepsSource (asciiHost [] []) result recorded := by
  have hrecorded : (spendReconciliation "claude/stream" (decodeResult (asciiHost [] []) (fun x => x.trunc * 100) brokenOff
      "run-1" none) [] "" none).costSource = .providerReported := by decide
  refine ⟨hrecorded, by decide, fun h => ?_⟩
  have := h.errored (by decide) (by decide)
  rw [hrecorded] at this
  cases this

end ClaudeStream
end OpenTimeline.Supervisor
