import DscProtocol.Fuzzing

set_option autoImplicit false

/- What a fuzz campaign can find. Its calls are runs of permitted actions at unmoved prices, so both
invariants hold whatever the fuzzer does; and it never withdraws anything. -/
namespace DscProtocol

namespace Campaign

open Handler

variable {start w : World} {left seed amount : Nat} {c : Campaign} {sender token : Address}

/-- A new handler on a newly deployed engine with two tokens. -/
theorem start_sound {d : Deployment} {address : Address} {handler : Handler} {count : Nat}
    (deployed : d.run = .ok start) (two : start.engine.collateralTokens.length = 2)
    (created : Handler.construct address start.engine = some handler)
    (outside : address ≠ start.engineAddress)
    (room : ∀ token ∈ start.engine.collateralTokens,
      (start.tokens token).totalSupply + count * maxDepositSize < 2 ^ 112) :
    Sound start count ⟨start, handler⟩ := by
  obtain ⟨orderly, _, minted, _, _⟩ := Deployment.run_eq_ok deployed
  have reachable : Reachable start := ⟨d, start, [], deployed, trivial, rfl⟩
  have healthy : start.AllHealthy := by
    intro account
    rw [DSCEngine.minHealthFactor_le_health, minted]
    exact Nat.zero_le _
  have fuzzing : World.Fuzzing start start :=
    ⟨reachable, healthy, SameContracts.refl start, rfl, rfl⟩
  unfold Handler.construct at created
  split at created
  · rename_i weth wbtc rest listed
    cases created
    rw [listed] at two
    have none : rest = [] := List.length_eq_zero_iff.mp (by simpa using two)
    subst none
    refine ⟨fuzzing, listed, outside, room, nofun, ?_⟩
    have first := room weth (by rw [listed]; exact List.mem_cons_self)
    have some : count * 1 ≤ count * maxDepositSize := Nat.mul_le_mul_left count (by decide)
    change 0 + count < wordLimit
    unfold wordLimit
    omega
  · cases created

/-- The engine's holdings of a listed token are valued without overflow. -/
theorem held_value (reachable : Reachable w) (moderate : w.Moderate)
    (listed : token ∈ w.engine.collateralTokens) :
    DSCEngine.getUsdValue w token (w.held token) =
        .ok (Pledge.worth DSCEngine.precision (w.price token) (w.held token)) ∧
      Pledge.worth DSCEngine.precision (w.price token) (w.held token) < 2 ^ 192 := by
  have circulating := Ledger.le_sum (w.tokens token).balances w.engineAddress
  rw [(reachable.orderly.sound token).conserved] at circulating
  have small := moderate.supplies token listed
  have priced := moderate.price_lt listed
  have product : w.price token * w.held token ≤ 2 ^ 96 * 10 ^ 10 * 2 ^ 112 :=
    Nat.mul_le_mul (Nat.le_of_lt priced) (circulating.trans (Nat.le_of_lt small))
  have readable := (moderate.valued (reachable.deposit_le_supply 0)).readable token listed
  constructor
  · apply DSCEngine.getUsdValue_eq_ok.mpr
    exact ⟨readable, Nat.lt_of_le_of_lt product (by decide), rfl⟩
  · unfold Pledge.worth
    exact Nat.lt_of_le_of_lt (Nat.div_le_div_right product) (by decide)

/-- What the invariant reads. -/
theorem Sound.readings (sound : Sound start left c) (moderate : start.Moderate) :
    ∃ ether bitcoin,
      DSCEngine.getUsdValue c.world c.handler.weth (c.world.held c.handler.weth) = .ok ether ∧
      DSCEngine.getUsdValue c.world c.handler.wbtc (c.world.held c.handler.wbtc) = .ok bitcoin ∧
      ether + bitcoin = c.world.heldValue ∧ ether + bitcoin < 2 ^ 193 := by
  have moderately := sound.moderate moderate
  have listed : c.handler.weth ∈ c.world.engine.collateralTokens ∧
      c.handler.wbtc ∈ c.world.engine.collateralTokens := by
    rw [sound.tokens]
    exact ⟨List.mem_cons_self, List.mem_cons_of_mem _ List.mem_cons_self⟩
  obtain ⟨first, firstSmall⟩ := held_value sound.fuzzing.reachable moderately listed.1
  obtain ⟨second, secondSmall⟩ := held_value sound.fuzzing.reachable moderately listed.2
  refine ⟨_, _, first, second, ?_, by omega⟩
  unfold World.heldValue Pledge.value
  rw [sound.tokens]
  simp only [List.map_cons, List.map_nil, List.sum_cons, List.sum_nil, Nat.add_zero]

theorem Sound.two_supply_le (sound : Sound start left c) :
    2 * c.world.supply ≤ c.world.heldValue :=
  World.two_supply_le_heldValue sound.fuzzing.healthy sound.fuzzing.reachable.backed
    sound.fuzzing.reachable.supply_le_debts

theorem Sound.invariant (sound : Sound start left c) (moderate : start.Moderate) :
    Invariants.protocolMustHaveMoreValueThanTotalSupply c.world c.handler.weth c.handler.wbtc =
      .ok true := by
  obtain ⟨ether, bitcoin, first, second, both, small⟩ := sound.readings moderate
  have covered := sound.two_supply_le
  have added : checkedAdd ether bitcoin = .ok (ether + bitcoin) := by
    apply Checked.add_eq_ok.mpr
    refine ⟨?_, rfl⟩
    unfold wordLimit
    omega
  have supply : (c.world.tokens c.world.engine.dsc).totalSupply = c.world.supply := rfl
  unfold World.held at first second
  unfold Invariants.protocolMustHaveMoreValueThanTotalSupply
  dsimp only
  rw [first, Checked.ok_bind, second, Checked.ok_bind, added, Checked.ok_bind, supply,
    decide_eq_true (by omega)]

/-- Nothing is deposited in the handler's own name. -/
def Bare (c : Campaign) : Prop :=
  ∀ token, c.world.engine.collateralDeposited c.handler.address token = 0

/-- The fuzzer's sender is not the handler. -/
def Elsewhere (c : Campaign) (entry : Address × HandlerCall) : Prop :=
  entry.1 ≠ c.handler.address

instance (c : Campaign) (entry : Address × HandlerCall) : Decidable (Elsewhere c entry) :=
  inferInstanceAs (Decidable (_ ≠ _))

/-- The handler has nothing to redeem. -/
theorem Bare.redeem_fails (bare : c.Bare) :
    (Action.callEngine c.handler.address (.redeemCollateral token amount)).exec c.world ≠
      .ok w := by
  intro success
  obtain ⟨positive, _, releases, _⟩ := DSCEngine.redeemCollateral_eq_ok.mp success
  have enough := releases.deposited
  rw [bare token] at enough
  omega

theorem Bare.redeem_idle (bare : c.Bare) :
    Campaign.step c (sender, .redeemCollateral seed amount) = c := by
  apply @Runs.commit_preserves Campaign _ Revert exec (fun next => next = c) c _ rfl
  intro next returned
  rcases redeemCollateral_returns returned with same | ⟨bounded, w, success, _⟩
  · exact same
  · exact absurd success bare.redeem_fails

/-- Deposits are made for the sender, mints touch no deposit. -/
theorem Bare.step {entry : Address × HandlerCall} (bare : c.Bare) (elsewhere : Elsewhere c entry) :
    (Campaign.step c entry).Bare := by
  apply @Runs.commit_preserves Campaign _ Revert exec Bare c entry bare
  intro next returned token
  obtain ⟨sender, call⟩ := entry
  cases call with
  | mintDSC amount seed =>
      rcases mintDSC_returns returned with rfl | ⟨user, _, minted, w, success, rfl⟩
      · exact bare token
      · obtain ⟨_, _, _, rfl⟩ := DSCEngine.mintDsc_eq_ok.mp success
        exact bare token
  | depositCollateral seed amount =>
      obtain ⟨bounded, _, returned⟩ := Checked.bind_eq_ok.mp returned
      obtain ⟨first, issued, returned⟩ := Checked.bind_eq_ok.mp returned
      obtain ⟨second, approved, returned⟩ := Checked.bind_eq_ok.mp returned
      obtain ⟨third, deposited, returned⟩ := Checked.bind_eq_ok.mp returned
      cases returned
      obtain ⟨_, _, same⟩ := Checked.bind_eq_ok.mp issued
      cases same
      obtain ⟨_, _, same⟩ := Checked.bind_eq_ok.mp approved
      cases same
      obtain ⟨_, _, _, _, rfl⟩ := DSCEngine.depositCollateral_eq_ok.mp deposited
      change Ledger.assign c.world.engine.collateralDeposited sender _ _ c.handler.address token = 0
      rw [Ledger.assign_row _ _ _ _ _ (Ne.symm elsewhere)]
      exact bare token
  | redeemCollateral seed amount =>
      rcases redeemCollateral_returns returned with rfl | ⟨bounded, w, success, _⟩
      · exact bare token
      · exact absurd success bare.redeem_fails

end Campaign

def HandlerCall.redeems : HandlerCall → Bool
  | redeemCollateral _ _ => true
  | _ => false

section Campaigns

variable {d : Deployment} {start : World} {handler : Handler} {address : Address}
  {calls : List (Address × HandlerCall)}

/-- Both stated invariants hold after every campaign: no sequence of handler calls breaks the
first one, nor makes it revert. 65535 calls leave room for the tokens of the local network. -/
theorem campaign_keeps_invariants (deployed : d.run = .ok start)
    (two : start.engine.collateralTokens.length = 2)
    (created : Handler.construct address start.engine = some handler)
    (outside : address ≠ start.engineAddress) (moderate : start.Moderate)
    (room : ∀ token ∈ start.engine.collateralTokens,
      (start.tokens token).totalSupply + calls.length * Handler.maxDepositSize < 2 ^ 112)
    (along : Runs.Along Campaign.step Campaign.Fuzzed ⟨start, handler⟩ calls) :
    let final := Runs.run Campaign.step ⟨start, handler⟩ calls
    Invariants.protocolMustHaveMoreValueThanTotalSupply final.world final.handler.weth
        final.handler.wbtc = .ok true ∧ Reachable final.world := by
  have begun : Campaign.Sound start (0 + calls.length) ⟨start, handler⟩ := by
    rw [Nat.zero_add]
    exact Campaign.start_sound deployed two created outside room
  have final := begun.run along
  exact ⟨final.invariant moderate, final.fuzzing.reachable⟩

/-- The campaign tests no withdrawal. `redeemCollateral` of the handler starts no prank, so the
engine looks for a deposit of the handler: every campaign is the same without these calls. -/
theorem campaign_never_redeems (deployed : d.run = .ok start)
    (along : Runs.Along Campaign.step Campaign.Elsewhere ⟨start, handler⟩ calls) :
    Runs.run Campaign.step ⟨start, handler⟩ calls =
      Runs.run Campaign.step ⟨start, handler⟩ (calls.filter fun entry => !entry.2.redeems) := by
  obtain ⟨_, deposited, _⟩ := Deployment.run_eq_ok deployed
  have bare : Campaign.Bare ⟨start, handler⟩ := by
    intro token
    change start.engine.collateralDeposited handler.address token = 0
    rw [deposited]
  symm
  apply Runs.run_filter (fun _ _ bare elsewhere => bare.step elsewhere) _ bare along
  intro c entry bare _ redeems
  obtain ⟨sender, call⟩ := entry
  cases call with
  | redeemCollateral seed amount => exact bare.redeem_idle
  | mintDSC | depositCollateral => cases redeems

end Campaigns

section Example

open HelperConfig

def fuzzHandler : Handler where
  address := 0x999
  weth := weth
  wbtc := wbtc
  timesMintIsCalled := 0
  usersWithCollateralDeposited := []

/-- Two deposits, two mints, a withdrawal that fails. -/
def fuzzedCalls : List (Address × HandlerCall) :=
  [(user, .depositCollateral 0 5), (liquidator, .depositCollateral 3 (2 ^ 96 + 17)),
    (user, .mintDSC (2 ^ 200) 77), (user, .mintDSC 1000 78), (user, .redeemCollateral 0 3)]

theorem anvil_moderate : anvil.start.Moderate where
  feeds := by
    apply @forall_listed (fun token => ∃ round,
      anvil.start.latestRoundData (anvil.start.engine.priceFeeds token) = .ok round ∧
        anvil.start.Fresh round ∧ 0 ≤ round.answer.toInt ∧ round.answer.toInt < 2 ^ 96) []
    · exact ⟨MockV3Aggregator.deployed ethUsdPrice 1000000, rfl, by decide +kernel,
        by decide +kernel⟩
    · exact ⟨MockV3Aggregator.deployed btcUsdPrice 1000000, rfl, by decide +kernel,
        by decide +kernel⟩
  supplies := by
    apply @forall_listed (fun token => (anvil.start.tokens token).totalSupply < 2 ^ 112) []
    · decide +kernel
    · decide +kernel
  few := by decide +kernel

theorem anvil_room {count : Nat} (few : count ≤ 6) :
    ∀ token ∈ anvil.start.engine.collateralTokens,
      (anvil.start.tokens token).totalSupply + count * Handler.maxDepositSize < 2 ^ 112 := by
  have most : count * Handler.maxDepositSize ≤ 6 * Handler.maxDepositSize :=
    Nat.mul_le_mul_right _ few
  have ether : (anvil.start.tokens weth).totalSupply + 6 * Handler.maxDepositSize < 2 ^ 112 := by
    decide +kernel
  have bitcoin : (anvil.start.tokens wbtc).totalSupply + 6 * Handler.maxDepositSize < 2 ^ 112 := by
    decide +kernel
  apply @forall_listed (fun token => (anvil.start.tokens token).totalSupply +
    count * Handler.maxDepositSize < 2 ^ 112) []
  · omega
  · omega

theorem campaign_keeps_invariants_five_calls :
    Invariants.protocolMustHaveMoreValueThanTotalSupply
        (Runs.run Campaign.step ⟨anvil.start, fuzzHandler⟩ fuzzedCalls).world weth wbtc =
      .ok true ∧
    (Runs.run Campaign.step ⟨anvil.start, fuzzHandler⟩ fuzzedCalls).world.supply = 33447 := by
  have along : Runs.Along Campaign.step Campaign.Fuzzed ⟨anvil.start, fuzzHandler⟩ fuzzedCalls := by
    decide +kernel
  refine ⟨?_, by decide +kernel⟩
  exact (@campaign_keeps_invariants anvil _ fuzzHandler 0x999 _ anvil.run_ok rfl rfl (by decide)
    anvil_moderate (anvil_room (by decide)) along).1

theorem campaign_never_redeems_five_calls :
    Runs.run Campaign.step ⟨anvil.start, fuzzHandler⟩ fuzzedCalls =
      Runs.run Campaign.step ⟨anvil.start, fuzzHandler⟩ (fuzzedCalls.take 4) :=
  campaign_never_redeems anvil.run_ok (by decide +kernel)

end Example

end DscProtocol
