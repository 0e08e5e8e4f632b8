import DscProtocol.Supply

set_option autoImplicit false

/- The 200% line, exactly: which mints and which withdrawals pass the health check, through its
three floors, and what they leave. -/
namespace DscProtocol

namespace World

/-- Every listed feed is fresh and its answer is not negative. -/
def LiveFeeds (w : World) : Prop :=
  ∀ token ∈ w.engine.collateralTokens, ∃ round,
    w.latestRoundData (w.engine.priceFeeds token) = .ok round ∧ w.Fresh round ∧
      0 ≤ round.answer.toInt

/-- Nothing overflows on the way from the account's deposits to its health factor. -/
structure Computes (w : World) (user : Address) : Prop where
  price_fits : ∀ token ∈ w.engine.collateralTokens, w.price token < wordLimit
  product_fits : ∀ token ∈ w.engine.collateralTokens,
    w.price token * w.engine.collateralDeposited user token < wordLimit
  value_fits : w.value user < wordLimit
  weighted_fits : w.value user * DSCEngine.liquidationThreshold < wordLimit
  scaled_fits : w.value user * DSCEngine.liquidationThreshold / DSCEngine.liquidationPrecision *
    DSCEngine.precision < wordLimit

variable {w after : World} {user account token : Address} {amount : Nat}

namespace Computes

theorem valued (computes : w.Computes user) (feeds : w.LiveFeeds) : w.Valued user := by
  refine ⟨?_, computes.product_fits, computes.value_fits⟩
  intro token listed
  obtain ⟨round, read, fresh, nonneg⟩ := feeds token listed
  exact ⟨round, read, fresh, nonneg, computes.price_fits token listed⟩

theorem scales (computes : w.Computes user) : w.Scales user :=
  fun _ => ⟨computes.weighted_fits, computes.scaled_fits⟩

/-- With smaller deposits at the same prices nothing overflows either. -/
theorem of_le (computes : w.Computes user) (same : SameSetting w after)
    (less : ∀ token, after.engine.collateralDeposited user token ≤
      w.engine.collateralDeposited user token) : after.Computes user := by
  have lower := same.value_le less
  have scaled := DSCEngine.scales_of_le lower ⟨computes.weighted_fits, computes.scaled_fits⟩
  refine ⟨?_, ?_, Nat.lt_of_le_of_lt lower computes.value_fits, scaled.1, scaled.2⟩
  · intro token listed
    rw [same.price]
    exact computes.price_fits token (same.collateralTokens ▸ listed)
  · intro token listed
    rw [same.price]
    exact Nat.lt_of_le_of_lt (Nat.mul_le_mul_left _ (less token))
      (computes.product_fits token (same.collateralTokens ▸ listed))

end Computes

theorem LiveFeeds.of_same (feeds : w.LiveFeeds) (same : SameSetting w after) :
    after.LiveFeeds := by
  intro token listed
  rw [same.collateralTokens] at listed
  obtain ⟨round, read, fresh, nonneg⟩ := feeds token listed
  refine ⟨round, ?_, ?_, nonneg⟩
  · rw [same.priceFeeds, same.latestRoundData]
    exact read
  · unfold Fresh
    rw [same.timestamp]
    exact fresh

/-- Without overflow the health check is the comparison of twice the debt with the value. -/
theorem Computes.passes_iff (computes : w.Computes user) (feeds : w.LiveFeeds) :
    w.Passes user ↔ 2 * w.engine.dscMinted user ≤ w.value user := by
  rw [← DSCEngine.minHealthFactor_le_health]
  constructor
  · intro passes
    exact passes.healthy
  · intro healthy
    exact ⟨computes.valued feeds, computes.scales, healthy⟩

/-- `mintDsc`, when it succeeds and what it leaves. -/
theorem mint_line (orderly : w.Orderly) (feeds : w.LiveFeeds) (computes : w.Computes account)
    (real : account ≠ 0) (supply_fits : w.supply + amount < wordLimit) :
    DSCEngine.mintDsc account amount w = .ok after ↔
      (0 < amount ∧ 2 * (w.engine.dscMinted account + amount) ≤ w.value account) ∧
        after = (w.setMinted account (w.engine.dscMinted account + amount)).setToken w.engine.dsc
          { balances := Function.update (w.tokens w.engine.dsc).balances account
              ((w.tokens w.engine.dsc).balances account + amount)
            allowances := (w.tokens w.engine.dsc).allowances
            totalSupply := w.supply + amount } := by
  have written : w.issued account amount =
      (w.setMinted account (w.engine.dscMinted account + amount)).setToken w.engine.dsc
        { balances := Function.update (w.tokens w.engine.dsc).balances account
            ((w.tokens w.engine.dsc).balances account + amount)
          allowances := (w.tokens w.engine.dsc).allowances
          totalSupply := w.supply + amount } :=
    congrArg ((w.setMinted account (w.engine.dscMinted account + amount)).setToken w.engine.dsc)
      ((orderly.sound w.engine.dsc).minted_eq supply_fits)
  have same := SameSetting.issued w account amount
  have minted : (w.issued account amount).Computes account :=
    computes.of_le same (fun _ => Nat.le_refl _)
  have line := minted.passes_iff (feeds.of_same same)
  have debt : (w.issued account amount).engine.dscMinted account =
      w.engine.dscMinted account + amount := Function.update_self _ _ _
  have value : (w.issued account amount).value account = w.value account := rfl
  rw [debt, value] at line
  rw [DSCEngine.mintDsc_eq_ok, line, ← written]
  constructor
  · intro success
    obtain ⟨_, issues, enough, rfl⟩ := success
    exact ⟨⟨issues.positive, enough⟩, rfl⟩
  · intro success
    obtain ⟨⟨positive, enough⟩, rfl⟩ := success
    have fits := computes.value_fits
    refine ⟨orderly.idle, ⟨?_, orderly.owned, real, positive, supply_fits⟩, enough, rfl⟩
    omega

/-- `redeemCollateral`, when it succeeds and what it leaves. -/
theorem redeem_line (orderly : w.Orderly) (feeds : w.LiveFeeds) (computes : w.Computes account)
    (real : account ≠ 0)
    (backed : w.engine.collateralDeposited account token ≤ w.held token) :
    DSCEngine.redeemCollateral standard account token amount w = .ok after ↔
      (0 < amount ∧ amount ≤ w.engine.collateralDeposited account token ∧
        (w.engine.dscMinted account = 0 ∨ 2 * w.engine.dscMinted account ≤
          (w.setDeposited account token
            (w.engine.collateralDeposited account token - amount)).value account)) ∧
        after = (w.setDeposited account token
            (w.engine.collateralDeposited account token - amount)).setToken token
          { balances := Ledger.move (w.tokens token).balances w.engineAddress account amount
            allowances := (w.tokens token).allowances
            totalSupply := (w.tokens token).totalSupply } := by
  have written : w.Releases account account token amount →
      w.released account account token amount = _ := fun releases =>
    congrArg ((w.setDeposited account token
      (w.engine.collateralDeposited account token - amount)).setToken token)
      ((orderly.sound token).moved_eq releases.enough)
  have same := SameSetting.released w account account token amount
  have less : ∀ other, (w.released account account token amount).engine.collateralDeposited
      account other ≤ w.engine.collateralDeposited account other := by
    rw [released_deposited]
    exact Ledger.assign_le w.engine.collateralDeposited (Nat.sub_le _ _) account
  have line := (computes.of_le same less).passes_iff (feeds.of_same same)
  have debt : (w.released account account token amount).engine.dscMinted account =
      w.engine.dscMinted account := rfl
  have value : (w.released account account token amount).value account =
      (w.setDeposited account token
        (w.engine.collateralDeposited account token - amount)).value account := rfl
  rw [debt, value] at line
  rw [DSCEngine.redeemCollateral_eq_ok, line]
  constructor
  · intro success
    obtain ⟨positive, _, releases, enough, rfl⟩ := success
    exact ⟨⟨positive, releases.deposited, Or.inr enough⟩, written releases⟩
  · intro success
    obtain ⟨⟨positive, deposited, healthy⟩, rfl⟩ := success
    have releases : w.Releases account account token amount :=
      ⟨deposited, orderly.engine_ne_zero, real, deposited.trans backed⟩
    refine ⟨positive, orderly.idle, releases, ?_, (written releases).symm⟩
    omega

end World

/-- The 200% line is enforced without a rounding gap: a mint or a withdrawal goes through exactly
when it leaves twice the debt within the floored value, and then changes exactly its amount. -/
theorem line_enforced_exactly {w : World} {account : Address} (reachable : Reachable w)
    (feeds : w.LiveFeeds) (computes : w.Computes account) (real : account ≠ 0) :
    (∀ amount after, w.supply + amount < wordLimit →
      (DSCEngine.mintDsc account amount w = .ok after ↔
        (0 < amount ∧ 2 * (w.engine.dscMinted account + amount) ≤ w.value account) ∧
          after = (w.setMinted account (w.engine.dscMinted account + amount)).setToken w.engine.dsc
            { balances := Function.update (w.tokens w.engine.dsc).balances account
                ((w.tokens w.engine.dsc).balances account + amount)
              allowances := (w.tokens w.engine.dsc).allowances
              totalSupply := w.supply + amount })) ∧
    ∀ token amount after, token ∈ w.engine.collateralTokens →
      (DSCEngine.redeemCollateral standard account token amount w = .ok after ↔
        (0 < amount ∧ amount ≤ w.engine.collateralDeposited account token ∧
          (w.engine.dscMinted account = 0 ∨ 2 * w.engine.dscMinted account ≤
            (w.setDeposited account token
              (w.engine.collateralDeposited account token - amount)).value account)) ∧
          after = (w.setDeposited account token
              (w.engine.collateralDeposited account token - amount)).setToken token
            { balances := Ledger.move (w.tokens token).balances w.engineAddress account amount
              allowances := (w.tokens token).allowances
              totalSupply := (w.tokens token).totalSupply }) := by
  constructor
  · intro amount after supply_fits
    exact World.mint_line reachable.orderly feeds computes real supply_fits
  · intro token amount after _
    exact World.redeem_line reachable.orderly feeds computes real
      (reachable.deposit_le_held account token)

section Example

open HelperConfig

/-- Against 5 ether worth 10000 dollars exactly 5000 coins can be minted, and not a wei more. -/
theorem line_enforced_at_5000_coins :
    (∃ after, DSCEngine.mintDsc deployer (5000 * 10 ^ 18)
        (Runs.run step anvil.start depositAndGift) = .ok after) ∧
      ∀ after, DSCEngine.mintDsc deployer (5000 * 10 ^ 18 + 1)
        (Runs.run step anvil.start depositAndGift) ≠ .ok after := by
  have reachable : Reachable (Runs.run step anvil.start depositAndGift) :=
    ⟨anvil, anvil.start, _, anvil.run_ok, by decide +kernel, rfl⟩
  have feeds : (Runs.run step anvil.start depositAndGift).LiveFeeds := by
    apply forall_listed
    · exact ⟨MockV3Aggregator.deployed ethUsdPrice 1000000, rfl, by decide +kernel,
        by decide +kernel⟩
    · exact ⟨MockV3Aggregator.deployed btcUsdPrice 1000000, rfl, by decide +kernel,
        by decide +kernel⟩
  have computes : (Runs.run step anvil.start depositAndGift).Computes deployer := by
    refine ⟨?_, ?_, by decide +kernel, by decide +kernel, by decide +kernel⟩ <;>
      apply forall_listed <;> decide +kernel
  have line := (line_enforced_exactly reachable feeds computes (by decide)).1
  constructor
  · refine ⟨_, (line (5000 * 10 ^ 18) _ (by decide +kernel)).mpr ⟨?_, rfl⟩⟩
    decide +kernel
  · intro after success
    have within := ((line (5000 * 10 ^ 18 + 1) after (by decide +kernel)).mp success).1
    exact absurd within (by decide +kernel)

end Example

end DscProtocol
