import DscProtocol.Margin
import DscProtocol.LiquidationSpec

set_option autoImplicit false

/- Nobody gets rich on the engine. At constant prices a group of accounts, whatever its members
call in whatever order, gains only what others give it and the bonus for debts it liquidates. -/
namespace DscProtocol

namespace World

/-- What the members hold of a token, in their wallets and deposited. -/
def holdings (w : World) (members : Finset Address) (token : Address) : Nat :=
  ∑ account ∈ members, (w.tokens token).balances account +
    ∑ account ∈ members, w.engine.collateralDeposited account token

/-- The exact worth of all a group owns, in units of 1e-18 of a coin's. -/
def assets (w : World) (members : Finset Address) : Nat :=
  Vault.exactValue w.engine.collateralTokens w.price (w.holdings members) +
    DSCEngine.precision * ∑ account ∈ members, (w.tokens w.engine.dsc).balances account

def liabilities (w : World) (members : Finset Address) : Nat :=
  DSCEngine.precision * ∑ account ∈ members, w.engine.dscMinted account

/-- What one base unit of a token is worth. -/
def unitWorth (w : World) (token : Address) : Nat :=
  if token = w.engine.dsc then DSCEngine.precision
  else if token ∈ w.engine.collateralTokens then w.price token
  else 0

/-- What crosses into the group when an amount of a token moves. -/
def crossing (w : World) (members : Finset Address) (token source target : Address)
    (amount : Nat) : Nat :=
  if target ∈ members ∧ source ∉ members then w.unitWorth token * amount else 0

end World

/-- What an action may bring a group: tokens from outside, a tenth of an outsider's debt that a
member covers, and, for a member liquidated by an outsider, less than one base unit of collateral
that the payout is rounded by. -/
def Action.income (members : Finset Address) (w : World) (action : Action) : Nat :=
  match action with
  | callToken sender token (.transfer target amount) =>
      w.crossing members token sender target amount
  | callToken _ token (.transferFrom source target amount) =>
      w.crossing members token source target amount
  | withdraw sender collateral amount =>
      w.crossing members collateral w.engine.poolAddress sender amount
  | issue token target amount => if target ∈ members then w.unitWorth token * amount else 0
  | callEngine sender (.liquidate collateral user debtToCover) =>
      if sender ∈ members ∧ user ∉ members then DSCEngine.precision / 10 * debtToCover
      else if user ∈ members ∧ sender ∉ members then w.price collateral
      else 0
  | _ => 0

/-- Anything but a new price. -/
def Quiet (w : World) (action : Action) : Prop :=
  Permitted w action ∧ ∀ priceFeed round, action ≠ .updateFeed priceFeed round

namespace World

variable {w after : World} {members : Finset Address} {sender source target token account
  collateral user onBehalfOf dscFrom : Address} {amount : Nat}

/-- Members' holdings of one listed token change, everything else of theirs stays. -/
theorem assets_shift {gone come : Nat} (orderly : w.Orderly) (same : SameSetting w after)
    (listed : token ∈ w.engine.collateralTokens)
    (others : ∀ other, other ≠ token → after.tokens other = w.tokens other)
    (deposits : ∀ account other, other ≠ token →
      after.engine.collateralDeposited account other = w.engine.collateralDeposited account other)
    (cell : after.holdings members token + gone = w.holdings members token + come) :
    after.assets members + w.price token * gone = w.assets members + w.price token * come := by
  have coin := others w.engine.dsc (orderly.listed_ne_dsc listed).symm
  have elsewhere : ∀ other ∈ w.engine.collateralTokens, other ≠ token →
      after.holdings members other = w.holdings members other := by
    intro other _ apart
    unfold holdings
    rw [others other apart]
    simp only [deposits _ other apart]
  have shifted := @Vault.exactValue_shift Address w.engine.collateralTokens w.price
    (w.holdings members) (after.holdings members) token gone come orderly.distinct listed
    elsewhere cell
  unfold assets
  rw [same.collateralTokens, same.price, same.dsc, coin]
  omega

/-- A deposit only moves between wallet and engine. -/
theorem received_assets (orderly : w.Orderly) (outside : w.engineAddress ∉ members)
    (listed : token ∈ w.engine.collateralTokens)
    (receives : w.Receives sender token amount) :
    (w.received sender token amount).assets members = w.assets members := by
  have wallet := Ledger.sum_move_on members (w.tokens token).balances sender w.engineAddress amount
    receives.pulls.enough
  have deposit := Ledger.sum_assign_on members w.engine.collateralDeposited sender token
    (w.engine.collateralDeposited sender token + amount)
  rw [← received_balances orderly receives] at wallet
  rw [← received_deposited] at deposit
  have cell : (w.received sender token amount).holdings members token + 0 =
      w.holdings members token + 0 := by
    unfold holdings
    by_cases member : sender ∈ members
    · simp only [outside, member, ↓reduceIte] at wallet deposit
      omega
    · simp only [outside, member, ↓reduceIte] at wallet deposit
      omega
  have shifted := assets_shift orderly (SameSetting.received w sender token amount) listed
    (fun other apart => received_tokens_of_ne apart)
    (fun account other apart => Ledger.assign_column _ _ _ _ _ _ apart) cell
  omega

/-- A release moves from one account's deposit to another's wallet. -/
theorem released_assets (orderly : w.Orderly) (outside : w.engineAddress ∉ members)
    (listed : token ∈ w.engine.collateralTokens)
    (releases : w.Releases source target token amount) :
    (w.released source target token amount).assets members +
        w.price token * (if source ∈ members then amount else 0) =
      w.assets members + w.price token * (if target ∈ members then amount else 0) := by
  have wallet := Ledger.sum_move_on members (w.tokens token).balances w.engineAddress target amount
    releases.enough
  have deposit := Ledger.sum_assign_on members w.engine.collateralDeposited source token
    (w.engine.collateralDeposited source token - amount)
  have enough := releases.deposited
  rw [← released_balances orderly releases] at wallet
  rw [← @released_deposited w source target token amount] at deposit
  have cell : (w.released source target token amount).holdings members token +
      (if source ∈ members then amount else 0) =
        w.holdings members token + (if target ∈ members then amount else 0) := by
    unfold holdings
    simp only [outside, ↓reduceIte] at wallet
    by_cases member : source ∈ members
    · simp only [member, ↓reduceIte] at deposit ⊢
      omega
    · simp only [member, ↓reduceIte] at deposit ⊢
      omega
  exact assets_shift orderly (SameSetting.released w source target token amount) listed
    (fun other apart => released_tokens_of_ne apart)
    (fun account other apart => Ledger.assign_column _ _ _ _ _ _ apart) cell

/-- Members' coins change, everything else of theirs stays. -/
theorem assets_coin {gone come : Nat} (orderly : w.Orderly) (same : SameSetting w after)
    (others : ∀ other, other ≠ w.engine.dsc → after.tokens other = w.tokens other)
    (deposits : after.engine.collateralDeposited = w.engine.collateralDeposited)
    (cell : ∑ account ∈ members, (after.tokens w.engine.dsc).balances account + gone =
      ∑ account ∈ members, (w.tokens w.engine.dsc).balances account + come) :
    after.assets members + DSCEngine.precision * gone =
      w.assets members + DSCEngine.precision * come := by
  have holdings : ∀ token ∈ w.engine.collateralTokens,
      after.holdings members token = w.holdings members token := by
    intro token listed
    unfold World.holdings
    rw [others token (orderly.listed_ne_dsc listed), deposits]
  have worth := @Vault.exactValue_congr Address w.engine.collateralTokens w.price _ _ holdings
  have coins := congrArg (DSCEngine.precision * ·) cell
  simp only [Nat.mul_add] at coins
  unfold assets
  rw [same.collateralTokens, same.price, same.dsc, worth]
  omega

theorem issued_wealth (orderly : w.Orderly) (issues : w.Issues account amount) :
    (w.issued account amount).assets members + w.liabilities members =
      w.assets members + (w.issued account amount).liabilities members := by
  have coins := Ledger.sum_update_on members (w.tokens w.engine.dsc).balances account
    ((w.tokens w.engine.dsc).balances account + amount)
  have debts := Ledger.sum_update_on members w.engine.dscMinted account
    (w.engine.dscMinted account + amount)
  rw [← issued_balances orderly issues] at coins
  have cell : ∑ other ∈ members, ((w.issued account amount).tokens w.engine.dsc).balances other +
      0 = ∑ other ∈ members, (w.tokens w.engine.dsc).balances other +
        (if account ∈ members then amount else 0) := by
    by_cases member : account ∈ members
    · simp only [member, ↓reduceIte] at coins ⊢
      omega
    · simp only [member, ↓reduceIte] at coins ⊢
      omega
  have owed : (w.issued account amount).liabilities members = w.liabilities members +
      DSCEngine.precision * (if account ∈ members then amount else 0) := by
    unfold liabilities
    rw [← Nat.mul_add]
    apply congrArg (DSCEngine.precision * ·)
    change ∑ other ∈ members, Function.update w.engine.dscMinted account
      (w.engine.dscMinted account + amount) other = _
    by_cases member : account ∈ members
    · simp only [member, ↓reduceIte] at debts ⊢
      omega
    · simp only [member, ↓reduceIte] at debts ⊢
      omega
  have shifted := assets_coin orderly (SameSetting.issued w account amount)
    (fun other apart => issued_tokens_of_ne apart) rfl cell
  omega

/-- The payer loses the coins, the debtor the debt. -/
theorem repaid_wealth (orderly : w.Orderly) (repays : w.Repays onBehalfOf dscFrom amount) :
    (w.repaid onBehalfOf dscFrom amount).assets members +
        DSCEngine.precision * (if dscFrom ∈ members then amount else 0) = w.assets members ∧
      (w.repaid onBehalfOf dscFrom amount).liabilities members +
        DSCEngine.precision * (if onBehalfOf ∈ members then amount else 0) =
          w.liabilities members := by
  have coins := Ledger.sum_update_on members (w.tokens w.engine.dsc).balances dscFrom
    ((w.tokens w.engine.dsc).balances dscFrom - amount)
  have debts := Ledger.sum_update_on members w.engine.dscMinted onBehalfOf
    (w.engine.dscMinted onBehalfOf - amount)
  have owed := repays.owed
  have enough := repays.pulls.enough
  rw [← repaid_balances orderly repays] at coins
  have cell : ∑ other ∈ members, ((w.repaid onBehalfOf dscFrom amount).tokens
      w.engine.dsc).balances other + (if dscFrom ∈ members then amount else 0) =
        ∑ other ∈ members, (w.tokens w.engine.dsc).balances other + 0 := by
    by_cases payer : dscFrom ∈ members
    · simp only [payer, ↓reduceIte] at coins ⊢
      omega
    · simp only [payer, ↓reduceIte] at coins ⊢
      omega
  have shifted := assets_coin orderly (SameSetting.repaid w onBehalfOf dscFrom amount)
    (fun other apart => repaid_tokens_of_ne apart) rfl cell
  refine ⟨shifted, ?_⟩
  unfold liabilities
  rw [← Nat.mul_add]
  apply congrArg (DSCEngine.precision * ·)
  change ∑ other ∈ members, Function.update w.engine.dscMinted onBehalfOf
    (w.engine.dscMinted onBehalfOf - amount) other + _ = _
  by_cases debtor : onBehalfOf ∈ members
  · simp only [debtor, ↓reduceIte] at debts ⊢
    omega
  · simp only [debtor, ↓reduceIte] at debts ⊢
    omega

/-- What a liquidator receives is within a tenth of the debt covered, and at least the debt less
one base unit. -/
theorem payout_worth (counts : 0 < w.price token) :
    w.price token * w.payout token amount ≤
        DSCEngine.precision * amount + DSCEngine.precision / 10 * amount ∧
      DSCEngine.precision * amount ≤ w.price token * w.payout token amount + w.price token := by
  have spent := @Pledge.price_mul_bought_le DSCEngine.precision (w.price token) amount
  have rounded := @Pledge.lt_price_mul_bought DSCEngine.precision (w.price token) amount counts
  have bought : w.covered token amount = Pledge.bought DSCEngine.precision (w.price token) amount :=
    rfl
  rw [← bought] at spent rounded
  have bonus : 10 * w.payout token amount ≤ 11 * w.covered token amount := by
    rw [payout_eq_tenth]
    omega
  have priced := Nat.mul_le_mul_left (w.price token) bonus
  have more : w.price token * w.covered token amount ≤ w.price token * w.payout token amount :=
    Nat.mul_le_mul_left _ (Nat.le_add_right _ _)
  have tens : w.price token * (10 * w.payout token amount) =
      10 * (w.price token * w.payout token amount) := by ring
  have elevens : w.price token * (11 * w.covered token amount) =
      11 * (w.price token * w.covered token amount) := by ring
  unfold DSCEngine.precision at *
  omega

theorem liquidated_wealth (orderly : w.Orderly) (outside : w.engineAddress ∉ members)
    (noPool : w.engine.poolAddress ∉ members)
    (liquidates : w.Liquidates sender collateral user amount) :
    (w.liquidated sender collateral user amount).assets members + w.liabilities members ≤
      w.assets members + (w.liquidated sender collateral user amount).liabilities members +
        Action.income members w (.callEngine sender (.liquidate collateral user amount)) := by
  obtain ⟨round, read, _⟩ := liquidates.priced
  have listed := listed_of_read orderly read
  have orderlyPaid : (w.paidOut sender collateral user amount).Orderly :=
    orderly.released liquidates.pays
  have orderlySwept : (w.swept sender collateral user amount).Orderly :=
    orderlyPaid.released liquidates.sweeps
  have same := SameSetting.released w user sender collateral (w.payout collateral amount)
  have paid := released_assets orderly outside listed liquidates.pays
  have swept := @released_assets (w.paidOut sender collateral user amount) members user
    w.engine.poolAddress collateral _ orderlyPaid outside listed liquidates.sweeps
  have price : (w.paidOut sender collateral user amount).price = w.price := same.price
  obtain ⟨assets, liabilities⟩ := @repaid_wealth (w.swept sender collateral user amount) members
    user sender amount orderlySwept liquidates.repays
  change (w.liquidated sender collateral user amount).assets members + _ = _ at assets
  change (w.liquidated sender collateral user amount).liabilities members + _ =
    w.liabilities members at liabilities
  change (w.paidOut sender collateral user amount).assets members + _ = _ at paid
  change (w.swept sender collateral user amount).assets members + _ = _ at swept
  rw [price] at swept
  have rest : (w.paidOut sender collateral user amount).engine.collateralDeposited user
      collateral = w.engine.collateralDeposited user collateral - w.payout collateral amount :=
    Ledger.assign_self _ _ _ _
  obtain ⟨most, least⟩ := @payout_worth w collateral amount (priced_pos liquidates.priced)
  simp only [noPool, ↓reduceIte, Nat.mul_zero, Nat.add_zero] at swept
  unfold Action.income
  by_cases keeper : sender ∈ members
  · by_cases debtor : user ∈ members
    · simp only [keeper, debtor, ↓reduceIte] at paid swept assets liabilities
      simp only [keeper, debtor, not_true_eq_false, and_false, ↓reduceIte]
      omega
    · simp only [keeper, debtor, ↓reduceIte, Nat.mul_zero, Nat.add_zero] at paid swept assets
      simp only [debtor, ↓reduceIte, Nat.mul_zero, Nat.add_zero] at liabilities
      simp only [keeper, debtor, not_false_eq_true, and_self, ↓reduceIte]
      omega
  · by_cases debtor : user ∈ members
    · simp only [keeper, debtor, ↓reduceIte, Nat.mul_zero, Nat.add_zero] at paid swept assets
      simp only [debtor, ↓reduceIte] at liabilities
      simp only [keeper, debtor, not_true_eq_false, not_false_eq_true, and_self, ↓reduceIte]
      omega
    · simp only [keeper, debtor, ↓reduceIte, Nat.mul_zero, Nat.add_zero] at paid swept assets
      simp only [debtor, ↓reduceIte, Nat.mul_zero, Nat.add_zero] at liabilities
      simp only [keeper, debtor, false_and, ↓reduceIte]
      omega

/-- Deposits, mints, repayments and withdrawals leave what everyone is worth alone. -/
theorem call_wealth (orderly : w.Orderly) (user : sender ≠ w.engineAddress)
    (outside : w.engineAddress ∉ members) (noPool : w.engine.poolAddress ∉ members)
    {call : EngineCall} (success : call.exec standard sender w = .ok after) :
    after.assets members + w.liabilities members ≤
      w.assets members + after.liabilities members +
        Action.income members w (.callEngine sender call) := by
  have deposit : ∀ {w after : World} {token : Address} {amount : Nat}, w.Orderly →
      w.engineAddress ∉ members →
      DSCEngine.depositCollateral standard sender token amount w = .ok after →
      after.assets members = w.assets members ∧
        after.liabilities members = w.liabilities members := by
    intro w after token amount orderly outside success
    obtain ⟨_, known, _, receives, rfl⟩ := DSCEngine.depositCollateral_eq_ok.mp success
    exact ⟨received_assets orderly outside (orderly.registered token known) receives, rfl⟩
  have mint : ∀ {w after : World} {amount : Nat}, w.Orderly →
      DSCEngine.mintDsc sender amount w = .ok after →
      after.assets members + w.liabilities members =
        w.assets members + after.liabilities members := by
    intro w after amount orderly success
    obtain ⟨_, issues, _, rfl⟩ := DSCEngine.mintDsc_eq_ok.mp success
    exact issued_wealth orderly issues
  have burn : ∀ {w after : World} {amount : Nat}, w.Orderly →
      DSCEngine.burnDsc sender amount w = .ok after →
      after.assets members + w.liabilities members =
        w.assets members + after.liabilities members := by
    intro w after amount orderly success
    obtain ⟨repays, rfl⟩ := DSCEngine.burnDsc_eq_ok.mp success
    obtain ⟨assets, liabilities⟩ := @repaid_wealth w members sender sender amount orderly repays
    omega
  have redeem : ∀ {w after : World} {token : Address} {amount : Nat}, w.Orderly →
      w.engineAddress ∉ members →
      DSCEngine.redeemCollateral standard sender token amount w = .ok after →
      after.assets members = w.assets members ∧
        after.liabilities members = w.liabilities members := by
    intro w after token amount orderly outside success
    obtain ⟨positive, _, releases, _, rfl⟩ := DSCEngine.redeemCollateral_eq_ok.mp success
    have deposited := releases.deposited
    have listed := orderly.registered token (orderly.deposit_real sender token (by omega)).2.2
    have moved := released_assets orderly outside listed releases
    exact ⟨by omega, rfl⟩
  cases call with
  | depositCollateral token amount =>
      obtain ⟨assets, liabilities⟩ := deposit orderly outside success
      omega
  | depositCollateralAndMintDsc token amountCollateral amountDscToMint =>
      obtain ⟨middle, deposited, minted⟩ := DSCEngine.depositCollateralAndMintDsc_eq_ok.mp success
      obtain ⟨assets, liabilities⟩ := deposit orderly outside deposited
      have kept : EngineCall.exec standard sender (.depositCollateral token amountCollateral) w =
          .ok middle := deposited
      have balanced := mint (orderly.execEngine user kept) minted
      omega
  | mintDsc amount =>
      have balanced := mint orderly success
      omega
  | burnDsc amount =>
      have balanced := burn orderly success
      omega
  | redeemCollateral token amount =>
      obtain ⟨assets, liabilities⟩ := redeem orderly outside success
      omega
  | redeemCollateralForDsc token amountCollateral amountDscToBurn =>
      obtain ⟨middle, burned, redeemed⟩ := DSCEngine.redeemCollateralForDsc_eq_ok.mp success
      have kept : EngineCall.exec standard sender (.burnDsc amountDscToBurn) w = .ok middle :=
        burned
      have same := SameSetting.exec kept
      have balanced := burn orderly burned
      obtain ⟨assets, liabilities⟩ := redeem (orderly.execEngine user kept)
        (by rw [same.engineAddress]; exact outside) redeemed
      omega
  | liquidate collateral user' debtToCover =>
      obtain ⟨liquidates, rfl⟩ := DSCEngine.liquidate_eq_ok.mp success
      exact liquidated_wealth orderly outside noPool liquidates

/-- A ledger on which the members hold at most so much more. -/
theorem setToken_assets {contract : ERC20} {come : Nat} (orderly : w.Orderly)
    (cell : ∑ account ∈ members, contract.balances account ≤
      ∑ account ∈ members, (w.tokens token).balances account + come) :
    (w.setToken token contract).assets members ≤ w.assets members + w.unitWorth token * come := by
  have here : (w.setToken token contract).tokens token = contract := tokens_setToken contract
  have elsewhere : ∀ other, other ≠ token →
      (w.setToken token contract).tokens other = w.tokens other :=
    fun other apart => tokens_setToken_of_ne contract apart
  have same := SameSetting.setToken w token contract
  unfold unitWorth
  by_cases coin : token = w.engine.dsc
  · subst coin
    have moved := @assets_coin w (w.setToken w.engine.dsc contract) members
      (∑ account ∈ members, (w.tokens w.engine.dsc).balances account + come -
        ∑ account ∈ members, contract.balances account) come orderly same elsewhere rfl
      (by rw [here]; omega)
    simp only [↓reduceIte]
    omega
  · by_cases listed : token ∈ w.engine.collateralTokens
    · have moved := @assets_shift w (w.setToken token contract) members token
        (∑ account ∈ members, (w.tokens token).balances account + come -
          ∑ account ∈ members, contract.balances account) come orderly same listed elsewhere
        (fun _ _ _ => rfl)
        (by
          unfold holdings
          rw [here]
          change _ + ∑ account ∈ members, w.engine.collateralDeposited account token + _ = _
          omega)
      simp only [coin, listed, ↓reduceIte]
      omega
    · have holdings : ∀ other ∈ w.engine.collateralTokens,
          (w.setToken token contract).holdings members other = w.holdings members other := by
        intro other inside
        have apart : other ≠ token := fun clash => listed (clash ▸ inside)
        unfold World.holdings
        rw [elsewhere other apart]
        rfl
      have worth := @Vault.exactValue_congr Address w.engine.collateralTokens w.price _ _ holdings
      unfold assets
      rw [same.collateralTokens, same.price, same.dsc, worth, elsewhere _ (Ne.symm coin)]
      exact Nat.le_add_right _ _

/-- Moving tokens brings the group what crosses into it. -/
theorem moved_crossing {contract : ERC20} (sound : contract.Sound)
    (enough : amount ≤ contract.balances source) :
    ∑ account ∈ members, (contract.moved source target amount).balances account ≤
      ∑ account ∈ members, contract.balances account +
        (if target ∈ members ∧ source ∉ members then amount else 0) := by
  have moved := Ledger.sum_move_on members contract.balances source target amount enough
  rw [← sound.moved_balances enough] at moved
  by_cases member : source ∈ members
  · simp only [member, ↓reduceIte, not_true_eq_false, and_false] at moved ⊢
    split at moved <;> omega
  · simp only [member, ↓reduceIte, not_false_eq_true, and_true] at moved ⊢
    omega

theorem burned_le {contract : ERC20} {other : Address} :
    (contract.burned account amount).balances other ≤ contract.balances other := by
  by_cases same : other = account
  · subst same
    change Function.update contract.balances other (contract.balances other - amount) other ≤ _
    rw [Function.update_self]
    exact Nat.sub_le _ _
  · rw [ERC20.burned_balances_of_ne same]

theorem unitWorth_mul_crossing :
    w.unitWorth token * (if target ∈ members ∧ source ∉ members then amount else 0) =
      w.crossing members token source target amount := by
  unfold crossing
  split
  · rfl
  · exact Nat.mul_zero _

/-- Outside the engine a group gains only what is sent into it. -/
theorem change_assets (orderly : w.Orderly) {action : Action} {contract : ERC20}
    (change : LedgerChange w action token contract) :
    (w.setToken token contract).assets members ≤ w.assets members + action.income members w := by
  have sound := orderly.sound token
  have kept : ∀ contract : ERC20, contract.balances = (w.tokens token).balances →
      (w.setToken token contract).assets members ≤ w.assets members := by
    intro contract same
    have none := @setToken_assets w members token contract 0 orderly (by rw [same]; omega)
    omega
  cases change with
  | @transfer sender _ target amount real receiver enough =>
      have gained := setToken_assets orderly
        (@moved_crossing members sender target amount _ sound enough)
      rw [unitWorth_mul_crossing] at gained
      exact gained
  | @transferFrom sender _ source target amount pulls =>
      have enough : amount ≤ ((w.tokens token).spent source sender amount).balances source := by
        rw [ERC20.spent_balances]
        exact pulls.enough
      have crossed := @moved_crossing members source target amount _
        (ERC20.Sound.spent sound) enough
      rw [ERC20.spent_balances] at crossed
      have gained := setToken_assets orderly crossed
      rw [unitWorth_mul_crossing] at gained
      exact gained
  | @approve sender _ spender amount _ nothing =>
      have same := kept ((w.tokens token).approved sender spender amount) rfl
      omega
  | @burnFrom sender account amount allowed real enough =>
      have lowered : ∑ other ∈ members, (((w.tokens w.engine.dsc).spent account sender
          amount).burned account amount).balances other ≤
            ∑ other ∈ members, (w.tokens w.engine.dsc).balances other + 0 := by
        apply Finset.sum_le_sum
        intro other _
        have less := @burned_le account amount ((w.tokens w.engine.dsc).spent account sender amount)
          other
        rwa [ERC20.spent_balances] at less
      have gained := setToken_assets orderly lowered
      omega
  | @withdraw sender _ amount real receiver enough =>
      have gained := setToken_assets orderly
        (@moved_crossing members w.engine.poolAddress sender amount _ sound enough)
      rw [unitWorth_mul_crossing] at gained
      exact gained
  | @issue _ target amount real fits =>
      have raised := Ledger.sum_update_on members (w.tokens token).balances target
        ((w.tokens token).balances target + amount)
      rw [← sound.minted_balances fits] at raised
      have cell : ∑ account ∈ members, ((w.tokens token).minted target amount).balances account ≤
          ∑ account ∈ members, (w.tokens token).balances account +
            (if target ∈ members then amount else 0) := by
        split at raised <;> simp only [*, ↓reduceIte] <;> omega
      have gained := setToken_assets orderly cell
      unfold Action.income
      by_cases member : target ∈ members
      · simpa only [member, ↓reduceIte] using gained
      · simpa only [member, ↓reduceIte, Nat.mul_zero] using gained

/-- One committed action at constant prices. -/
theorem action_wealth (orderly : w.Orderly) (outside : w.engineAddress ∉ members)
    (noPool : w.engine.poolAddress ∉ members) {action : Action} (quiet : Quiet w action)
    (success : action.exec w = .ok after) :
    after.assets members + w.liabilities members ≤
      w.assets members + after.liabilities members + action.income members w := by
  rcases Action.exec_cases orderly.owned quiet.1 success with
    ⟨sender, call, rfl, user, returned⟩ | ⟨address, contract, change, rfl⟩ |
    ⟨⟨priceFeed, round, rfl⟩ | ⟨seconds, rfl⟩, _⟩
  · exact call_wealth orderly user outside noPool returned
  · have gained := @change_assets w members address orderly action contract change
    have owed : (w.setToken address contract).liabilities members = w.liabilities members := rfl
    omega
  · exact absurd rfl (quiet.2 priceFeed round)
  · cases success
    exact Nat.le_add_right _ _

end World

/-- No sequence of calls is a money machine. From any reachable state, as long as no feed reports,
what any group without the engine and the pool is worth, net of its debts, grows by at most what
outsiders send it, a tenth of the outsiders' debts its members cover, and a base unit of collateral
for each of its members that is liquidated. -/
theorem group_wealth_bounded {w : World} {members : Finset Address} {actions : List Action}
    (reachable : Reachable w) (outside : w.engineAddress ∉ members)
    (noPool : w.engine.poolAddress ∉ members) (along : Runs.Along step Quiet w actions) :
    (Runs.run step w actions).assets members + w.liabilities members ≤
      w.assets members + (Runs.run step w actions).liabilities members +
        Runs.total step (Runs.charge Action.exec (Action.income members)) w actions := by
  have keeps : ∀ (state : World) (action : Action), (state.Orderly ∧ SameContracts w state) →
      Quiet state action → (step state action).Orderly ∧ SameContracts w (step state action) :=
    fun state action held quiet =>
      ⟨held.1.step quiet.1, held.2.trans (SameContracts.step state action)⟩
  have gains : ∀ (state : World) (action : Action), (state.Orderly ∧ SameContracts w state) →
      Quiet state action →
      (step state action).assets members + state.liabilities members ≤
        state.assets members + (step state action).liabilities members +
          Runs.charge Action.exec (Action.income members) state action := by
    intro state action held quiet
    obtain ⟨orderly, same⟩ := held
    apply Runs.commit_gain (fun state : World => state.assets members)
      (fun state => state.liabilities members)
    intro next success
    apply World.action_wealth orderly _ _ quiet success
    · rw [same.engineAddress]
      exact outside
    · rw [same.poolAddress]
      exact noPool
  exact Runs.gain_le (fun state : World => state.assets members)
    (fun state => state.liabilities members) _ keeps gains
    ⟨reachable.orderly, SameContracts.refl w⟩ along

section Example

open HelperConfig

/-- Covering a debt of 100 coins makes a liquidator at most 10 coins richer. -/
theorem group_wealth_bounded_liquidator :
    (Runs.run step (repriced (18 * 10 ^ 8))
        [.callEngine liquidator (.liquidate weth user (100 * 10 ^ 18))]).assets {liquidator} +
        (repriced (18 * 10 ^ 8)).liabilities {liquidator} ≤
      (repriced (18 * 10 ^ 8)).assets {liquidator} +
        (Runs.run step (repriced (18 * 10 ^ 8))
          [.callEngine liquidator (.liquidate weth user (100 * 10 ^ 18))]).liabilities
            {liquidator} +
        DSCEngine.precision * (10 * 10 ^ 18) := by
  have earned : Runs.total step (Runs.charge Action.exec (Action.income {liquidator}))
      (repriced (18 * 10 ^ 8)) [.callEngine liquidator (.liquidate weth user (100 * 10 ^ 18))] =
        DSCEngine.precision * (10 * 10 ^ 18) := by
    decide +kernel
  rw [← earned]
  apply group_wealth_bounded (repriced_reachable (18 * 10 ^ 8))
  · decide +kernel
  · decide +kernel
  · refine ⟨⟨by decide +kernel, ?_⟩, trivial⟩
    intro priceFeed round update
    cases update

end Example

end DscProtocol
