import DscProtocol.EngineEffects

set_option autoImplicit false

/- What is always in order: addresses and registry stay as deployed, every token ledger is
sound, the engine has given no allowance, and only real users hold listed positions. -/
namespace DscProtocol

namespace World

/-- Everything an engine call leaves alone. -/
structure SameSetting (w after : World) : Prop where
  engineAddress : after.engineAddress = w.engineAddress
  status : after.engine.status = w.engine.status
  priceFeeds : after.engine.priceFeeds = w.engine.priceFeeds
  collateralTokens : after.engine.collateralTokens = w.engine.collateralTokens
  dsc : after.engine.dsc = w.engine.dsc
  poolAddress : after.engine.poolAddress = w.engine.poolAddress
  pool : after.pool = w.pool
  dscOwner : after.dscOwner = w.dscOwner
  feeds : after.feeds = w.feeds
  etherBalance : after.etherBalance = w.etherBalance
  timestamp : after.timestamp = w.timestamp

/-- Addresses and registry, as the deployment left them. -/
structure Deployed (w : World) : Prop where
  idle : w.engine.status = .notEntered
  engine_ne_zero : w.engineAddress ≠ 0
  pool_ne_zero : w.engine.poolAddress ≠ 0
  pool_ne_engine : w.engine.poolAddress ≠ w.engineAddress
  pool_owner_ne_zero : w.pool.owner ≠ 0
  pool_owner_ne_pool : w.pool.owner ≠ w.engine.poolAddress
  no_ether : w.etherBalance w.engine.poolAddress = 0
  distinct : w.engine.collateralTokens.Nodup
  dsc_not_collateral : w.engine.dsc ∉ w.engine.collateralTokens
  registered : ∀ token, w.engine.priceFeeds token ≠ 0 → token ∈ w.engine.collateralTokens
  owned : w.dscOwner = w.engineAddress

structure SoundLedgers (w : World) : Prop where
  sound : ∀ token, (w.tokens token).Sound
  engine_allows_nothing :
    ∀ token spender, (w.tokens token).allowances w.engineAddress spender = 0
  zero_holds_no_dsc : (w.tokens w.engine.dsc).balances 0 = 0

/-- Only real users have positions, and every debt can be scaled to a health factor. -/
structure RealPositions (w : World) : Prop where
  deposit_real : ∀ user token, w.engine.collateralDeposited user token ≠ 0 →
    user ≠ 0 ∧ user ≠ w.engineAddress ∧ w.engine.priceFeeds token ≠ 0
  engine_owes_nothing : w.engine.dscMinted w.engineAddress = 0
  debt_scales : ∀ user, w.engine.dscMinted user * DSCEngine.precision < wordLimit

structure Orderly (w : World) : Prop extends Deployed w, SoundLedgers w, RealPositions w

namespace SameSetting

theorem refl (w : World) : SameSetting w w :=
  ⟨rfl, rfl, rfl, rfl, rfl, rfl, rfl, rfl, rfl, rfl, rfl⟩

theorem trans {first second third : World} (left : SameSetting first second)
    (right : SameSetting second third) : SameSetting first third where
  engineAddress := right.engineAddress.trans left.engineAddress
  status := right.status.trans left.status
  priceFeeds := right.priceFeeds.trans left.priceFeeds
  collateralTokens := right.collateralTokens.trans left.collateralTokens
  dsc := right.dsc.trans left.dsc
  poolAddress := right.poolAddress.trans left.poolAddress
  pool := right.pool.trans left.pool
  dscOwner := right.dscOwner.trans left.dscOwner
  feeds := right.feeds.trans left.feeds
  etherBalance := right.etherBalance.trans left.etherBalance
  timestamp := right.timestamp.trans left.timestamp

theorem setToken (w : World) (address : Address) (token : ERC20) :
    SameSetting w (w.setToken address token) :=
  ⟨rfl, rfl, rfl, rfl, rfl, rfl, rfl, rfl, rfl, rfl, rfl⟩

theorem setDeposited (w : World) (user token : Address) (amount : Nat) :
    SameSetting w (w.setDeposited user token amount) :=
  ⟨rfl, rfl, rfl, rfl, rfl, rfl, rfl, rfl, rfl, rfl, rfl⟩

theorem received (w : World) (sender token : Address) (amount : Nat) :
    SameSetting w (w.received sender token amount) :=
  ⟨rfl, rfl, rfl, rfl, rfl, rfl, rfl, rfl, rfl, rfl, rfl⟩

theorem released (w : World) (source target token : Address) (amount : Nat) :
    SameSetting w (w.released source target token amount) :=
  ⟨rfl, rfl, rfl, rfl, rfl, rfl, rfl, rfl, rfl, rfl, rfl⟩

theorem issued (w : World) (account : Address) (amount : Nat) :
    SameSetting w (w.issued account amount) :=
  ⟨rfl, rfl, rfl, rfl, rfl, rfl, rfl, rfl, rfl, rfl, rfl⟩

theorem repaid (w : World) (onBehalfOf dscFrom : Address) (amount : Nat) :
    SameSetting w (w.repaid onBehalfOf dscFrom amount) :=
  ⟨rfl, rfl, rfl, rfl, rfl, rfl, rfl, rfl, rfl, rfl, rfl⟩

variable {w after : World}

theorem latestRoundData (same : SameSetting w after) (priceFeed : Address) :
    after.latestRoundData priceFeed = w.latestRoundData priceFeed := by
  unfold World.latestRoundData
  rw [same.feeds]

theorem price (same : SameSetting w after) : after.price = w.price := by
  funext token
  unfold World.price
  rw [same.priceFeeds, same.latestRoundData]

theorem readable_iff (same : SameSetting w after) {token : Address} :
    after.Readable token ↔ w.Readable token := by
  unfold World.Readable World.Fresh
  rw [same.priceFeeds, same.latestRoundData, same.timestamp, same.price]

variable {user : Address}

theorem value_eq (same : SameSetting w after)
    (kept : after.engine.collateralDeposited user = w.engine.collateralDeposited user) :
    after.value user = w.value user := by
  unfold World.value
  rw [same.collateralTokens, same.price, kept]

theorem valued_iff (same : SameSetting w after)
    (kept : after.engine.collateralDeposited user = w.engine.collateralDeposited user) :
    after.Valued user ↔ w.Valued user := by
  constructor
  · rintro ⟨readable, products, bound⟩
    rw [same.collateralTokens] at readable products
    rw [same.price, kept] at products
    rw [same.value_eq kept] at bound
    exact ⟨fun token listed => same.readable_iff.mp (readable token listed), products, bound⟩
  · rintro ⟨readable, products, bound⟩
    rw [← same.collateralTokens] at readable products
    rw [← same.price, ← kept] at products
    rw [← same.value_eq kept] at bound
    exact ⟨fun token listed => same.readable_iff.mpr (readable token listed), products, bound⟩

/-- Smaller deposits are worth no more. -/
theorem value_le (same : SameSetting w after)
    (less : ∀ token, after.engine.collateralDeposited user token ≤
      w.engine.collateralDeposited user token) : after.value user ≤ w.value user := by
  unfold World.value
  rw [same.collateralTokens, same.price]
  exact Pledge.value_mono (fun _ _ => Nat.le_refl _) (fun token _ => less token)

end SameSetting

/-- An engine call leaves the setting alone. -/
theorem SameSetting.exec {call : EngineCall} {sender : Address} {w after : World}
    (success : call.exec standard sender w = .ok after) : SameSetting w after := by
  apply EngineCall.exec_preserves (SameSetting w) _ _ _ _ (SameSetting.refl w) success
  · intro middle token amount same _ _
    exact same.trans (SameSetting.received middle sender token amount)
  · intro middle source target token amount same _ _
    exact same.trans (SameSetting.released middle source target token amount)
  · intro middle amount same _ _
    exact same.trans (SameSetting.issued middle sender amount)
  · intro middle onBehalfOf amount same _ _
    exact same.trans (SameSetting.repaid middle onBehalfOf sender amount)

end World

namespace ERC20

variable {token : ERC20} {owner spender : Address} {amount : Nat}

theorem spent_allowances_le (owner' spender' : Address) :
    (token.spent owner spender amount).allowances owner' spender' ≤
      token.allowances owner' spender' := by
  unfold spent
  split
  · by_cases row : owner' = owner
    · subst row
      by_cases column : spender' = spender
      · subst column
        change Ledger.assign token.allowances owner' spender' _ owner' spender' ≤ _
        rw [Ledger.assign_self]
        exact Nat.sub_le _ _
      · exact Nat.le_of_eq (Ledger.assign_column token.allowances owner' owner' spender spender' _
          column)
    · rw [show (token.approved owner spender _).allowances owner' = token.allowances owner' from
        Ledger.assign_row token.allowances owner owner' spender _ row]
  · exact Nat.le_refl _

end ERC20

namespace World

variable {w after : World}

theorem Deployed.of_sameSetting (deployed : w.Deployed) (same : SameSetting w after) :
    after.Deployed where
  idle := same.status.trans deployed.idle
  engine_ne_zero := by
    rw [same.engineAddress]
    exact deployed.engine_ne_zero
  pool_ne_zero := by
    rw [same.poolAddress]
    exact deployed.pool_ne_zero
  pool_ne_engine := by
    rw [same.poolAddress, same.engineAddress]
    exact deployed.pool_ne_engine
  pool_owner_ne_zero := by
    rw [same.pool]
    exact deployed.pool_owner_ne_zero
  pool_owner_ne_pool := by
    rw [same.pool, same.poolAddress]
    exact deployed.pool_owner_ne_pool
  no_ether := by
    rw [same.etherBalance, same.poolAddress]
    exact deployed.no_ether
  distinct := by
    rw [same.collateralTokens]
    exact deployed.distinct
  dsc_not_collateral := by
    rw [same.dsc, same.collateralTokens]
    exact deployed.dsc_not_collateral
  registered := by
    rw [same.priceFeeds, same.collateralTokens]
    exact deployed.registered
  owned := by
    rw [same.dscOwner, same.engineAddress]
    exact deployed.owned

/-- Replacing one token ledger by another sound one. -/
theorem SoundLedgers.setToken (ledgers : w.SoundLedgers) {address : Address} {token : ERC20}
    (sound : token.Sound) (allows : ∀ spender, token.allowances w.engineAddress spender = 0)
    (zero : address = w.engine.dsc → token.balances 0 = 0) :
    (w.setToken address token).SoundLedgers where
  sound := by
    intro other
    by_cases same : other = address
    · subst same
      simpa only [World.setToken, Function.update_self] using sound
    · simpa only [World.setToken, Function.update_of_ne same] using ledgers.sound other
  engine_allows_nothing := by
    intro other spender
    by_cases same : other = address
    · subst same
      simpa only [World.setToken, Function.update_self] using allows spender
    · simpa only [World.setToken, Function.update_of_ne same] using
        ledgers.engine_allows_nothing other spender
  zero_holds_no_dsc := by
    change (Function.update w.tokens address token w.engine.dsc).balances 0 = 0
    by_cases same : w.engine.dsc = address
    · rw [same, Function.update_self]
      exact zero same.symm
    · rw [Function.update_of_ne same]
      exact ledgers.zero_holds_no_dsc

/-- Rewriting the deposit of a real user in a registered token, or clearing a deposit. -/
theorem RealPositions.setDeposited (positions : w.RealPositions) {user token : Address}
    {amount : Nat}
    (real : amount ≠ 0 → user ≠ 0 ∧ user ≠ w.engineAddress ∧ w.engine.priceFeeds token ≠ 0) :
    (w.setDeposited user token amount).RealPositions where
  deposit_real := by
    intro other elsewhere
    change Ledger.assign w.engine.collateralDeposited user token amount other elsewhere ≠ 0 → _
    rw [Ledger.assign_apply]
    split
    · rename_i cell
      obtain ⟨rfl, rfl⟩ := cell
      exact real
    · exact positions.deposit_real other elsewhere
  engine_owes_nothing := positions.engine_owes_nothing
  debt_scales := positions.debt_scales

theorem RealPositions.setMinted (positions : w.RealPositions) {user : Address} {amount : Nat}
    (real : amount ≠ 0 → user ≠ w.engineAddress)
    (scales : amount * DSCEngine.precision < wordLimit) :
    (w.setMinted user amount).RealPositions where
  deposit_real := positions.deposit_real
  engine_owes_nothing := by
    change Function.update w.engine.dscMinted user amount w.engineAddress = 0
    by_cases same : w.engineAddress = user
    · rw [same, Function.update_self]
      by_contra some
      exact real some same.symm
    · rw [Function.update_of_ne same]
      exact positions.engine_owes_nothing
  debt_scales := by
    intro other
    change Function.update w.engine.dscMinted user amount other * _ < _
    by_cases same : other = user
    · rw [same, Function.update_self]
      exact scales
    · rw [Function.update_of_ne same]
      exact positions.debt_scales other

namespace Orderly

variable {sender source target token account : Address} {amount : Nat}

/-- Listed tokens are not the coin. -/
theorem listed_ne_dsc (orderly : w.Orderly) (listed : token ∈ w.engine.collateralTokens) :
    token ≠ w.engine.dsc :=
  fun same => orderly.dsc_not_collateral (same ▸ listed)

theorem allowed_ne_dsc (orderly : w.Orderly) (allowed : w.engine.priceFeeds token ≠ 0) :
    token ≠ w.engine.dsc := orderly.listed_ne_dsc (orderly.registered token allowed)

/-- A transfer on any token in which the zero address has no part. -/
theorem moved_ledgers (orderly : w.Orderly) (real : source ≠ 0) (receiver : target ≠ 0)
    (enough : amount ≤ (w.tokens token).balances source) :
    (w.setToken token ((w.tokens token).moved source target amount)).SoundLedgers := by
  apply orderly.toSoundLedgers.setToken ((orderly.sound token).moved enough)
    (orderly.engine_allows_nothing token)
  intro same
  subst same
  rw [ERC20.moved_balances_of_ne real.symm receiver.symm]
  exact orderly.zero_holds_no_dsc

theorem spent_allows_nothing (orderly : w.Orderly) (token owner spender : Address) (amount : Nat)
    (other : Address) :
    ((w.tokens token).spent owner spender amount).allowances w.engineAddress other = 0 := by
  have lowered := @ERC20.spent_allowances_le (w.tokens token) owner spender amount
    w.engineAddress other
  rw [orderly.engine_allows_nothing token other] at lowered
  omega

theorem pulled_ledgers (orderly : w.Orderly)
    (pulls : (w.tokens token).Pulls sender source target amount) :
    (w.setToken token ((w.tokens token).pulled sender source target amount)).SoundLedgers := by
  apply orderly.toSoundLedgers.setToken ((orderly.sound token).pulled pulls.enough)
    (orderly.spent_allows_nothing token source sender amount)
  intro same
  subst same
  rw [ERC20.pulled_balances_of_ne pulls.source_ne_zero.symm pulls.target_ne_zero.symm]
  exact orderly.zero_holds_no_dsc

theorem minted_ledgers (orderly : w.Orderly) (real : account ≠ 0)
    (fits : (w.tokens token).totalSupply + amount < wordLimit) :
    (w.setToken token ((w.tokens token).minted account amount)).SoundLedgers := by
  apply orderly.toSoundLedgers.setToken ((orderly.sound token).minted fits)
    (orderly.engine_allows_nothing token)
  intro same
  subst same
  rw [ERC20.minted_balances_of_ne real.symm]
  exact orderly.zero_holds_no_dsc

theorem received (orderly : w.Orderly) (user : sender ≠ w.engineAddress)
    (listed : w.engine.priceFeeds token ≠ 0) (receives : w.Receives sender token amount) :
    (w.received sender token amount).Orderly where
  toDeployed := orderly.toDeployed.of_sameSetting (SameSetting.received w sender token amount)
  toSoundLedgers :=
    have ledgers := orderly.pulled_ledgers receives.pulls
    ⟨ledgers.sound, ledgers.engine_allows_nothing, ledgers.zero_holds_no_dsc⟩
  toRealPositions := by
    have positions : (w.setDeposited sender token
        (w.engine.collateralDeposited sender token + amount)).RealPositions :=
      orderly.toRealPositions.setDeposited
        (fun _ => ⟨receives.pulls.source_ne_zero, user, listed⟩)
    exact ⟨positions.deposit_real, positions.engine_owes_nothing, positions.debt_scales⟩

theorem released (orderly : w.Orderly) (releases : w.Releases source target token amount) :
    (w.released source target token amount).Orderly where
  toDeployed := orderly.toDeployed.of_sameSetting
    (SameSetting.released w source target token amount)
  toSoundLedgers :=
    have ledgers := orderly.moved_ledgers releases.engine_ne_zero releases.target_ne_zero
      releases.enough
    ⟨ledgers.sound, ledgers.engine_allows_nothing, ledgers.zero_holds_no_dsc⟩
  toRealPositions := by
    have positions : (w.setDeposited source token
        (w.engine.collateralDeposited source token - amount)).RealPositions := by
      apply orderly.toRealPositions.setDeposited
      intro some
      exact orderly.deposit_real source token (by omega)
    exact ⟨positions.deposit_real, positions.engine_owes_nothing, positions.debt_scales⟩

/-- The health check behind a mint bounds the debt it leaves. -/
theorem passes_scales {user : Address} (passes : w.Passes user) :
    w.engine.dscMinted user * DSCEngine.precision < wordLimit := by
  by_cases clear : w.engine.dscMinted user = 0
  · rw [clear, Nat.zero_mul]
    exact wordLimit_pos
  · have counted : w.engine.dscMinted user ≤ w.value user * DSCEngine.liquidationThreshold /
        DSCEngine.liquidationPrecision :=
      (@Pledge.line_le_ratio terms (w.value user) (w.engine.dscMinted user)).mp passes.healthy
    exact Nat.lt_of_le_of_lt (Nat.mul_le_mul_right _ counted) (passes.scales clear).2

theorem issued (orderly : w.Orderly) (user : sender ≠ w.engineAddress)
    (issues : w.Issues sender amount) (passes : (w.issued sender amount).Passes sender) :
    (w.issued sender amount).Orderly where
  toDeployed := orderly.toDeployed.of_sameSetting (SameSetting.issued w sender amount)
  toSoundLedgers :=
    have ledgers := orderly.minted_ledgers issues.account_ne_zero issues.supply_fits
    ⟨ledgers.sound, ledgers.engine_allows_nothing, ledgers.zero_holds_no_dsc⟩
  toRealPositions := by
    have scales := passes_scales passes
    have debt : (w.issued sender amount).engine.dscMinted sender =
        w.engine.dscMinted sender + amount := Function.update_self _ _ _
    rw [debt] at scales
    have positions := orderly.toRealPositions.setMinted (fun _ => user) scales
    exact ⟨positions.deposit_real, positions.engine_owes_nothing, positions.debt_scales⟩

theorem repaid {onBehalfOf dscFrom : Address} (orderly : w.Orderly)
    (repays : w.Repays onBehalfOf dscFrom amount) :
    (w.repaid onBehalfOf dscFrom amount).Orderly where
  toDeployed := orderly.toDeployed.of_sameSetting (SameSetting.repaid w onBehalfOf dscFrom amount)
  toSoundLedgers := by
    have pulled : ((w.tokens w.engine.dsc).pulled w.engineAddress dscFrom w.engineAddress
        amount).Sound := (orderly.sound w.engine.dsc).pulled repays.pulls.enough
    have ledgers : (w.setToken w.engine.dsc (((w.tokens w.engine.dsc).pulled w.engineAddress
        dscFrom w.engineAddress amount).burned w.engineAddress amount)).SoundLedgers := by
      apply orderly.toSoundLedgers.setToken (pulled.burned repays.held)
        (orderly.spent_allows_nothing w.engine.dsc dscFrom w.engineAddress amount)
      intro _
      rw [ERC20.burned_balances_of_ne orderly.engine_ne_zero.symm,
        ERC20.pulled_balances_of_ne repays.pulls.source_ne_zero.symm orderly.engine_ne_zero.symm]
      exact orderly.zero_holds_no_dsc
    exact ⟨ledgers.sound, ledgers.engine_allows_nothing, ledgers.zero_holds_no_dsc⟩
  toRealPositions := by
    have positions : (w.setMinted onBehalfOf
        (w.engine.dscMinted onBehalfOf - amount)).RealPositions := by
      apply orderly.toRealPositions.setMinted
      · intro some same
        rw [same, orderly.engine_owes_nothing] at some
        omega
      · exact Nat.lt_of_le_of_lt (Nat.mul_le_mul_right _ (Nat.sub_le _ _))
          (orderly.debt_scales onBehalfOf)
    exact ⟨positions.deposit_real, positions.engine_owes_nothing, positions.debt_scales⟩

end Orderly

end World

end DscProtocol
