import DscProtocol.Health
import DscProtocol.Supply

set_option autoImplicit false

/- The whole protocol is worth twice its coins: every account stays healthy, the deposits are
backed, the debts cover the supply, and one floor per account is worth at most one floor for
the whole pool. -/
namespace DscProtocol

/-- A run in which no feed's positive answer decreases. -/
def Rising (w : World) (action : Action) : Prop :=
  Permitted w action ∧
  match action with
  | .updateFeed priceFeed round => ∀ old ∈ w.feeds priceFeed,
      0 < old.answer.toInt → old.answer.toInt ≤ round.answer.toInt
  | _ => True

instance (w : World) : (action : Action) → Decidable (Rising w action)
  | .updateFeed priceFeed round =>
      inferInstanceAs (Decidable (_ ∧ ∀ old ∈ w.feeds priceFeed,
        0 < old.answer.toInt → old.answer.toInt ≤ round.answer.toInt))
  | .callEngine _ _ => inferInstanceAs (Decidable (_ ∧ True))
  | .callToken _ _ _ => inferInstanceAs (Decidable (_ ∧ True))
  | .callCoin _ _ => inferInstanceAs (Decidable (_ ∧ True))
  | .withdraw _ _ _ => inferInstanceAs (Decidable (_ ∧ True))
  | .issue _ _ _ => inferInstanceAs (Decidable (_ ∧ True))
  | .advance _ => inferInstanceAs (Decidable (_ ∧ True))

namespace World

variable {w after : World} {token account : Address}

/-- Every account is at or above the line. -/
def AllHealthy (w : World) : Prop :=
  ∀ account, DSCEngine.minHealthFactor ≤ w.health account

/-- The value of everything the engine holds, one floor per listed token. -/
def heldValue (w : World) : Nat :=
  Pledge.value DSCEngine.precision w.engine.collateralTokens w.price w.held

theorem price_updateFeed_le {priceFeed : Address} {round : Round}
    (rising : Rising w (.updateFeed priceFeed round)) :
    w.price token ≤ ({ w with feeds := Function.update w.feeds priceFeed (some round) }).price
      token := by
  unfold price latestRoundData
  by_cases zero : w.engine.priceFeeds token = 0
  · simp only [zero, ↓reduceIte, Nat.le_refl]
  · simp only [zero, ↓reduceIte]
    by_cases here : w.engine.priceFeeds token = priceFeed
    · rw [here, Function.update_self]
      cases known : w.feeds priceFeed with
      | none => exact Nat.zero_le _
      | some old =>
          have noFall := rising.2 old known
          apply Nat.mul_le_mul_right
          omega
    · rw [Function.update_of_ne here]

/-- A rising price keeps a healthy account healthy, and so does everything else. -/
theorem AllHealthy.step (healthy : w.AllHealthy) {action : Action} (rising : Rising w action) :
    (step w action).AllHealthy := by
  intro account
  by_cases feed : ∃ priceFeed round, action = .updateFeed priceFeed round
  · obtain ⟨priceFeed, round, rfl⟩ := feed
    have book : Pledge.Healthy terms w.engine.collateralTokens w.price w.book := healthy
    have risen := book.rise (fun token _ => @price_updateFeed_le w token priceFeed round rising)
    exact risen account
  · have noLower := step_health_le w (fun priceFeed round same => feed ⟨priceFeed, round, same⟩)
      account
    have start := healthy account
    omega

theorem AllHealthy.run {actions : List Action} (healthy : w.AllHealthy)
    (along : Runs.Along DscProtocol.step Rising w actions) :
    (Runs.run DscProtocol.step w actions).AllHealthy :=
  Runs.invariant (fun _ _ start rising => start.step rising) healthy along

/-- Healthy accounts, backed deposits and covered coins together. -/
theorem two_supply_le_heldValue (healthy : w.AllHealthy)
    (backed : ∀ token, w.deposits token ≤ w.held token) (owed : w.supply ≤ w.debts) :
    2 * w.supply ≤ w.heldValue := by
  have each : ∀ account, 2 * (w.book account).debt ≤
      Pledge.value DSCEngine.precision w.engine.collateralTokens w.price (w.book account).held :=
    fun account => DSCEngine.minHealthFactor_le_health.mp (healthy account)
  calc 2 * w.supply
    _ ≤ 2 * w.debts := Nat.mul_le_mul_left 2 owed
    _ ≤ Pledge.value DSCEngine.precision w.engine.collateralTokens w.price w.deposits :=
        Pledge.covered 2 DSCEngine.precision w.engine.collateralTokens w.price w.book each
    _ ≤ w.heldValue :=
        Pledge.value_mono (fun _ _ => Nat.le_refl _) (fun token _ => backed token)

end World

/-- While no positive answer falls, the engine's holdings are worth at least twice the supply of
the stable coin in every state a run reaches. -/
theorem protocol_overcollateralised {d : Deployment} {start : World} {actions : List Action}
    (deployed : d.run = .ok start) (along : Runs.Along step Rising start actions) :
    2 * (Runs.run step start actions).supply ≤ (Runs.run step start actions).heldValue := by
  have permitted : Runs.Along step Permitted start actions :=
    along.mono (fun _ _ rising => rising.1)
  obtain ⟨_, _, minted, _, _⟩ := Deployment.run_eq_ok deployed
  have healthy : start.AllHealthy := by
    intro account
    rw [DSCEngine.minHealthFactor_le_health, minted]
    exact Nat.zero_le _
  apply World.two_supply_le_heldValue (healthy.run along)
  · intro token
    have backed := Deployment.held_eq deployed permitted token
    omega
  · have matched := Deployment.debts_eq deployed permitted
    omega

section Example

open HelperConfig

/-- A deposit of 10 ether against 100 coins, before and after ether rises to 2500 dollars. -/
theorem protocol_overcollateralised_after_rise :
    (repriced (2500 * 10 ^ 8)).supply = 100 * 10 ^ 18 ∧
      2 * (100 * 10 ^ 18) ≤ (repriced (2500 * 10 ^ 8)).heldValue := by
  have along : Runs.Along step Rising anvil.start (indebted ++ [reprice (2500 * 10 ^ 8)]) := by
    decide +kernel
  have worth : 2 * (repriced (2500 * 10 ^ 8)).supply ≤ (repriced (2500 * 10 ^ 8)).heldValue :=
    protocol_overcollateralised anvil.run_ok along
  have supply : (repriced (2500 * 10 ^ 8)).supply = 100 * 10 ^ 18 := by decide +kernel
  rw [supply] at worth
  exact ⟨supply, worth⟩

end Example

end DscProtocol
