import DscProtocol.Protocol
import DscProtocol.Lib.Pledge

set_option autoImplicit false

/- Exact readings of what the engine computes from feeds and positions: when each price
reader returns, and that what it returns is the floor of the exact value. -/
namespace DscProtocol

/-- The line every account is held to: half of the value must cover the debt. -/
def terms : Pledge.Terms where
  unit := DSCEngine.precision
  num := DSCEngine.liquidationThreshold
  den := DSCEngine.liquidationPrecision
  line := DSCEngine.minHealthFactor
  top := uint256Max
  line_pos := by decide
  line_le_top := by decide

namespace World

/-- The exact price of a base unit, answer times 1e10; nothing where there is no answer. -/
def price (w : World) (token : Address) : Nat :=
  match w.latestRoundData (w.engine.priceFeeds token) with
  | .ok round => round.answer.toInt.toNat * DSCEngine.additionalFeedPrecision
  | .error _ => 0

def position (w : World) (user : Address) : Pledge.Position Address :=
  ⟨w.engine.collateralDeposited user, w.engine.dscMinted user⟩

def book (w : World) : Pledge.Book Address Address := w.position

/-- The exact collateral value of an account, one floor per listed token. -/
def value (w : World) (user : Address) : Nat :=
  Pledge.value DSCEngine.precision w.engine.collateralTokens w.price
    (w.engine.collateralDeposited user)

/-- The exact health factor, computed without overflow. -/
def health (w : World) (user : Address) : Nat :=
  Pledge.health terms w.engine.collateralTokens w.price (w.position user)

/-- Not in the future and not older than the timeout. -/
def Fresh (w : World) (round : Round) : Prop :=
  round.updatedAt ≤ w.timestamp ∧ w.timestamp - round.updatedAt ≤ OracleLib.timeout

instance (w : World) (round : Round) : Decidable (w.Fresh round) :=
  inferInstanceAs (Decidable (_ ∧ _))

/-- The feed of this token gives a price the engine accepts. -/
def Readable (w : World) (token : Address) : Prop :=
  ∃ round, w.latestRoundData (w.engine.priceFeeds token) = .ok round ∧ w.Fresh round ∧
    0 ≤ round.answer.toInt ∧ w.price token < wordLimit

/-- Every listed token is readable and the account's valuation stays within a word. -/
structure Valued (w : World) (user : Address) : Prop where
  readable : ∀ token ∈ w.engine.collateralTokens, w.Readable token
  product_fits : ∀ token ∈ w.engine.collateralTokens,
    w.price token * w.engine.collateralDeposited user token < wordLimit
  value_fits : w.value user < wordLimit

/-- The two scalings of the health factor stay within a word. -/
def Scales (w : World) (user : Address) : Prop :=
  w.engine.dscMinted user ≠ 0 →
    w.value user * DSCEngine.liquidationThreshold < wordLimit ∧
    w.value user * DSCEngine.liquidationThreshold / DSCEngine.liquidationPrecision *
      DSCEngine.precision < wordLimit

/-- The check of `_revertIfHealthFactorIsBroken` passes. -/
structure Passes (w : World) (user : Address) : Prop where
  valued : w.Valued user
  scales : w.Scales user
  healthy : DSCEngine.minHealthFactor ≤ w.health user

end World

variable {w : World} {user token : Address} {round : Round} {amount : Nat}

theorem toNat_of_nonneg {answer : BitVec 256} (nonneg : 0 ≤ answer.toInt) :
    answer.toNat = answer.toInt.toNat := by
  rw [BitVec.toInt_eq_toNat_cond] at nonneg ⊢
  split at nonneg <;> rename_i low
  · simp only [low, ↓reduceIte, Int.toNat_natCast]
  · have bound := answer.isLt
    omega

/-- Cast to a word, a negative answer overflows the multiplication that follows. -/
theorem negative_overflows {answer : BitVec 256} (negative : answer.toInt < 0) :
    ¬ answer.toNat * DSCEngine.additionalFeedPrecision < wordLimit := by
  rw [BitVec.toInt_eq_toNat_cond] at negative
  split at negative
  · omega
  · rename_i high
    unfold DSCEngine.additionalFeedPrecision wordLimit
    omega

theorem scaled_lt_iff {answer : BitVec 256} :
    answer.toNat * DSCEngine.additionalFeedPrecision < wordLimit ↔
      0 ≤ answer.toInt ∧
        answer.toInt.toNat * DSCEngine.additionalFeedPrecision < wordLimit := by
  constructor
  · intro fits
    have nonneg : 0 ≤ answer.toInt := by
      by_contra negative
      exact negative_overflows (by omega) fits
    rw [toNat_of_nonneg nonneg] at fits
    exact ⟨nonneg, fits⟩
  · rintro ⟨nonneg, fits⟩
    rw [toNat_of_nonneg nonneg]
    exact fits

theorem price_of_round (read : w.latestRoundData (w.engine.priceFeeds token) = .ok round) :
    w.price token = round.answer.toInt.toNat * DSCEngine.additionalFeedPrecision := by
  simp only [World.price, read]

namespace OracleLib

theorem stalePriceCheckLatestRoundData_eq_ok {priceFeed : Address} :
    stalePriceCheckLatestRoundData w priceFeed = .ok round ↔
      w.latestRoundData priceFeed = .ok round ∧ w.Fresh round := by
  simp only [stalePriceCheckLatestRoundData, Checked.bind_eq_ok, Checked.sub_eq_ok,
    Checked.require_eq_ok, Except.ok.injEq, exists_const, Nat.not_lt, World.Fresh]
  constructor
  · rintro ⟨_, read, _, ⟨past, rfl⟩, recent, rfl⟩
    exact ⟨read, past, recent⟩
  · rintro ⟨read, past, recent⟩
    exact ⟨round, read, _, ⟨past, rfl⟩, recent, rfl⟩

/-- The staleness check on a report of the past. -/
theorem stalePriceCheckLatestRoundData_of_past {priceFeed : Address}
    (read : w.latestRoundData priceFeed = .ok round) (past : round.updatedAt ≤ w.timestamp) :
    stalePriceCheckLatestRoundData w priceFeed =
      if w.timestamp ≤ round.updatedAt + timeout then .ok round
      else .error (.oracle .stalePrice) := by
  have since : checkedSub w.timestamp round.updatedAt = .ok (w.timestamp - round.updatedAt) :=
    if_pos past
  unfold stalePriceCheckLatestRoundData
  rw [read, Checked.ok_bind, since, Checked.ok_bind]
  unfold Checked.require
  by_cases fresh : w.timestamp ≤ round.updatedAt + timeout
  · have short : ¬ timeout < w.timestamp - round.updatedAt := by omega
    rw [if_pos short, if_pos fresh]
    rfl
  · have long : ¬ ¬ timeout < w.timestamp - round.updatedAt := by omega
    rw [if_neg long, if_neg fresh]
    rfl

end OracleLib

namespace DSCEngine

theorem getUsdValue_eq_ok {usd : Nat} :
    getUsdValue w token amount = .ok usd ↔
      w.Readable token ∧ w.price token * amount < wordLimit ∧
        usd = Pledge.worth precision (w.price token) amount := by
  simp only [getUsdValue, Checked.bind_eq_ok, OracleLib.stalePriceCheckLatestRoundData_eq_ok,
    Checked.mul_eq_ok, Checked.div_eq_ok]
  constructor
  · rintro ⟨round, ⟨read, fresh⟩, _, ⟨scaled, rfl⟩, _, ⟨fits, rfl⟩, _, rfl⟩
    have exact_price := price_of_round read
    obtain ⟨nonneg, priced⟩ := scaled_lt_iff.mp scaled
    rw [toNat_of_nonneg nonneg, ← exact_price] at fits ⊢
    rw [← exact_price] at priced
    exact ⟨⟨round, read, fresh, nonneg, priced⟩, fits, rfl⟩
  · rintro ⟨⟨round, read, fresh, nonneg, priced⟩, fits, rfl⟩
    have exact_price := price_of_round read
    rw [exact_price] at priced fits ⊢
    refine ⟨round, ⟨read, fresh⟩, _, ⟨scaled_lt_iff.mpr ⟨nonneg, priced⟩, rfl⟩, _, ⟨?_, rfl⟩,
      by decide, ?_⟩
    · rw [toNat_of_nonneg nonneg]
      exact fits
    · rw [toNat_of_nonneg nonneg, Pledge.worth]

/-- The loop over the listed tokens: it adds one floor a round and fails with the first token
that cannot be valued. -/
theorem collateral_loop_eq_ok (tokens : List Address) (start result : Nat)
    (started : start < wordLimit) :
    tokens.foldlM (fun collateralValueInUsd token => do
      let amount := w.engine.collateralDeposited user token
      let usd ← getUsdValue w token amount
      checkedAdd collateralValueInUsd usd) start = .ok result ↔
    (∀ token ∈ tokens, w.Readable token ∧
      w.price token * w.engine.collateralDeposited user token < wordLimit) ∧
    start + Pledge.value precision tokens w.price (w.engine.collateralDeposited user) <
      wordLimit ∧
    result = start + Pledge.value precision tokens w.price (w.engine.collateralDeposited user) := by
  induction tokens generalizing start with
  | nil =>
      simp only [List.foldlM_nil, pure, Except.pure, Except.ok.injEq, List.not_mem_nil,
        IsEmpty.forall_iff, implies_true, Pledge.value, List.map_nil, List.sum_nil, Nat.add_zero,
        started, true_and]
      exact eq_comm
  | cons token rest ih =>
      simp only [List.foldlM_cons, Checked.bind_eq_ok, getUsdValue_eq_ok, Checked.add_eq_ok,
        List.mem_cons, forall_eq_or_imp, Pledge.value, List.map_cons, List.sum_cons]
      constructor
      · rintro ⟨_, ⟨_, ⟨readable, fits, rfl⟩, added, rfl⟩, looped⟩
        obtain ⟨others, bound, rfl⟩ := (ih _ added).mp looped
        unfold Pledge.value at bound
        refine ⟨⟨⟨readable, fits⟩, others⟩, ?_, ?_⟩
        · omega
        · unfold Pledge.value
          omega
      · rintro ⟨⟨⟨readable, fits⟩, others⟩, bound, rfl⟩
        have added : start + Pledge.worth precision (w.price token)
            (w.engine.collateralDeposited user token) < wordLimit := by omega
        refine ⟨_, ⟨_, ⟨readable, fits, rfl⟩, added, rfl⟩, (ih _ added).mpr ⟨others, ?_, ?_⟩⟩
        · unfold Pledge.value
          omega
        · unfold Pledge.value
          omega

theorem getAccountCollateralValue_eq_ok {value : Nat} :
    getAccountCollateralValue w user = .ok value ↔ w.Valued user ∧ value = w.value user := by
  rw [getAccountCollateralValue, collateral_loop_eq_ok _ _ _ wordLimit_pos]
  simp only [Nat.zero_add]
  constructor
  · rintro ⟨each, bound, rfl⟩
    exact ⟨⟨fun token listed => (each token listed).1, fun token listed => (each token listed).2,
      bound⟩, rfl⟩
  · rintro ⟨valued, rfl⟩
    exact ⟨fun token listed => ⟨valued.readable token listed, valued.product_fits token listed⟩,
      valued.value_fits, rfl⟩

theorem getAccountInformation_eq_ok {information : Nat × Nat} :
    getAccountInformation w user = .ok information ↔
      w.Valued user ∧ information = (w.engine.dscMinted user, w.value user) := by
  simp only [getAccountInformation, Checked.bind_eq_ok, getAccountCollateralValue_eq_ok,
    Except.ok.injEq]
  constructor
  · rintro ⟨_, ⟨valued, rfl⟩, rfl⟩
    exact ⟨valued, rfl⟩
  · rintro ⟨valued, rfl⟩
    exact ⟨_, ⟨valued, rfl⟩, rfl⟩

theorem calculateHealthFactor_eq_ok {debt value factor : Nat} :
    calculateHealthFactor debt value = .ok factor ↔
      debt ≠ 0 ∧ value * liquidationThreshold < wordLimit ∧
        value * liquidationThreshold / liquidationPrecision * precision < wordLimit ∧
        factor = Pledge.ratio terms value debt := by
  simp only [calculateHealthFactor, Checked.bind_eq_ok, Checked.mul_eq_ok, Checked.div_eq_ok]
  constructor
  · rintro ⟨_, ⟨weighted, rfl⟩, _, ⟨_, rfl⟩, _, ⟨scaled, rfl⟩, owed, rfl⟩
    refine ⟨owed, weighted, scaled, ?_⟩
    simp only [Pledge.ratio, owed, ↓reduceIte]
    rfl
  · rintro ⟨owed, weighted, scaled, rfl⟩
    refine ⟨_, ⟨weighted, rfl⟩, _, ⟨by decide, rfl⟩, _, ⟨scaled, rfl⟩, owed, ?_⟩
    simp only [Pledge.ratio, owed, ↓reduceIte]
    rfl

/-- The health factor the engine decides on is the exact one wherever it returns. -/
theorem healthFactor_eq_ok {factor : Nat} :
    healthFactor w user = .ok factor ↔
      w.Valued user ∧ w.Scales user ∧ factor = w.health user := by
  simp only [healthFactor, Checked.bind_eq_ok, getAccountInformation_eq_ok, World.Scales,
    World.health, Pledge.health, World.position]
  constructor
  · rintro ⟨_, ⟨valued, rfl⟩, returned⟩
    by_cases clear : w.engine.dscMinted user = 0
    · simp only [clear, ↓reduceIte, Except.ok.injEq] at returned
      refine ⟨valued, fun owed => absurd clear owed, ?_⟩
      simp only [Pledge.ratio, clear, ↓reduceIte, ← returned]
      rfl
    · simp only [clear, ↓reduceIte, calculateHealthFactor_eq_ok] at returned
      obtain ⟨_, weighted, scaled, rfl⟩ := returned
      exact ⟨valued, fun _ => ⟨weighted, scaled⟩, rfl⟩
  · rintro ⟨valued, scales, rfl⟩
    refine ⟨_, ⟨valued, rfl⟩, ?_⟩
    by_cases clear : w.engine.dscMinted user = 0
    · simp only [clear, ↓reduceIte, Pledge.ratio]
      rfl
    · simp only [clear, ↓reduceIte, calculateHealthFactor_eq_ok]
      exact ⟨clear, (scales clear).1, (scales clear).2, rfl⟩

/-- The 200% line: an account is healthy exactly when twice its debt is within its value. -/
theorem minHealthFactor_le_health :
    minHealthFactor ≤ w.health user ↔ 2 * w.engine.dscMinted user ≤ w.value user := by
  change terms.line ≤ Pledge.ratio terms (w.value user) (w.engine.dscMinted user) ↔ _
  rw [Pledge.line_le_ratio]
  change _ ≤ w.value user * 50 / 100 ↔ _
  omega

theorem health_lt_minHealthFactor :
    w.health user < minHealthFactor ↔ w.value user < 2 * w.engine.dscMinted user := by
  have line := @minHealthFactor_le_health w user
  omega

/-- A smaller value scales to a health factor where a larger one does. -/
theorem scales_of_le {less more : Nat} (grow : less ≤ more)
    (fits : more * liquidationThreshold < wordLimit ∧
      more * liquidationThreshold / liquidationPrecision * precision < wordLimit) :
    less * liquidationThreshold < wordLimit ∧
      less * liquidationThreshold / liquidationPrecision * precision < wordLimit := by
  have weighted := Nat.mul_le_mul_right liquidationThreshold grow
  have scaled := Nat.mul_le_mul_right precision
    (@Nat.div_le_div_right _ _ liquidationPrecision weighted)
  exact ⟨Nat.lt_of_le_of_lt weighted fits.1, Nat.lt_of_le_of_lt scaled fits.2⟩

theorem revertIfHealthFactorIsBroken_eq_ok {done : Unit} :
    revertIfHealthFactorIsBroken w user = .ok done ↔ w.Passes user := by
  simp only [revertIfHealthFactorIsBroken, Checked.bind_eq_ok, healthFactor_eq_ok,
    Checked.require_eq_ok, Nat.not_lt]
  constructor
  · rintro ⟨_, ⟨valued, scales, rfl⟩, healthy⟩
    exact ⟨valued, scales, healthy⟩
  · rintro ⟨valued, scales, healthy⟩
    exact ⟨_, ⟨valued, scales, rfl⟩, healthy⟩

theorem getTokenAmountFromUsd_eq_ok {usd result : Nat} :
    getTokenAmountFromUsd w token usd = .ok result ↔
      (∃ round, w.latestRoundData (w.engine.priceFeeds token) = .ok round ∧
        0 < round.answer.toInt) ∧
      w.price token < wordLimit ∧ usd * precision < wordLimit ∧
        result = usd * precision / w.price token := by
  simp only [getTokenAmountFromUsd, Checked.bind_eq_ok, Checked.mul_eq_ok, Checked.div_eq_ok]
  constructor
  · rintro ⟨round, read, _, ⟨fits, rfl⟩, _, ⟨scaled, rfl⟩, nonzero, rfl⟩
    have exact_price := price_of_round read
    obtain ⟨nonneg, priced⟩ := scaled_lt_iff.mp scaled
    rw [toNat_of_nonneg nonneg, ← exact_price] at nonzero ⊢
    have positive : 0 < round.answer.toInt := by
      rw [exact_price] at nonzero
      unfold additionalFeedPrecision at nonzero
      omega
    rw [← exact_price] at priced
    exact ⟨⟨round, read, positive⟩, priced, fits, rfl⟩
  · rintro ⟨⟨round, read, positive⟩, priced, fits, rfl⟩
    have exact_price := price_of_round read
    have nonneg : 0 ≤ round.answer.toInt := Int.le_of_lt positive
    rw [exact_price] at priced ⊢
    refine ⟨round, read, _, ⟨fits, rfl⟩, _, ⟨scaled_lt_iff.mpr ⟨nonneg, priced⟩, rfl⟩, ?_, ?_⟩
    · rw [toNat_of_nonneg nonneg]
      unfold additionalFeedPrecision
      omega
    · rw [toNat_of_nonneg nonneg]

end DSCEngine

/-- Without a debt only the valuation can fail. -/
theorem World.Passes.of_clear (valued : w.Valued user) (clear : w.engine.dscMinted user = 0) :
    w.Passes user := by
  refine ⟨valued, fun owed => absurd clear owed, ?_⟩
  rw [DSCEngine.minHealthFactor_le_health, clear]
  exact Nat.zero_le _

end DscProtocol
