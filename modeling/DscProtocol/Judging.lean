import DscProtocol.Lib.Refusal
import DscProtocol.Valuation

set_option autoImplicit false

/- Judging an account as a list of conditions: what the two price readers, the loop over the listed
tokens and the health factor test, in order, and the number they come to if all of it holds. -/
namespace DscProtocol

open Refusal

namespace World

/-- The feed of this token answers at all. -/
def Answers (w : World) (token : Address) : Prop :=
  (w.latestRoundData (w.engine.priceFeeds token)).toBool = true

instance (w : World) (token : Address) : Decidable (w.Answers token) :=
  inferInstanceAs (Decidable (_ = true))

/-- When it says it was last updated. -/
def reportedAt (w : World) (token : Address) : Nat :=
  match w.latestRoundData (w.engine.priceFeeds token) with
  | .ok round => round.updatedAt
  | .error _ => 0

/-- Its answer cast to a word, as the engine scales it: a negative one becomes huge. -/
def castPrice (w : World) (token : Address) : Nat :=
  match w.latestRoundData (w.engine.priceFeeds token) with
  | .ok round => round.answer.toNat * DSCEngine.additionalFeedPrecision
  | .error _ => 0

/-- `getUsdValue`. -/
def usdChecks (w : World) (token : Address) (amount : Nat) : List (Check Revert) :=
  [check (w.Answers token) .noCode,
    check (w.reportedAt token ≤ w.timestamp) (.panic .arithmetic),
    check (w.timestamp - w.reportedAt token ≤ OracleLib.timeout) (.oracle .stalePrice),
    check (w.castPrice token < wordLimit) (.panic .arithmetic),
    check (w.price token * amount < wordLimit) (.panic .arithmetic)]

/-- `getTokenAmountFromUsd`, which leaves the two tests of the time out. -/
def buyChecks (w : World) (token : Address) (usdAmountInWei : Nat) : List (Check Revert) :=
  [check (w.Answers token) .noCode,
    check (usdAmountInWei * DSCEngine.precision < wordLimit) (.panic .arithmetic),
    check (w.castPrice token < wordLimit) (.panic .arithmetic),
    check (0 < w.price token) (.panic .divisionByZero)]

/-- What a listed token adds to the value of an account. -/
def addValue (w : World) (user : Address) (sofar : Nat) (token : Address) : Nat :=
  sofar + Pledge.worth DSCEngine.precision (w.price token)
    (w.engine.collateralDeposited user token)

/-- One round of the loop over the listed tokens. -/
def valueChecks (w : World) (user : Address) (sofar : Nat) (token : Address) :
    List (Check Revert) :=
  w.usdChecks token (w.engine.collateralDeposited user token) ++
    [check (w.addValue user sofar token < wordLimit) (.panic .arithmetic)]

/-- `_healthFactor`: every listed token in turn, then for a debtor the two scalings. -/
def judgeChecks (w : World) (user : Address) : List (Check Revert) :=
  loopChecks (w.valueChecks user) (w.addValue user) 0 w.engine.collateralTokens ++
    if w.engine.dscMinted user = 0 then []
    else
      [check (w.value user * DSCEngine.liquidationThreshold < wordLimit) (.panic .arithmetic),
        check (w.value user * DSCEngine.liquidationThreshold / DSCEngine.liquidationPrecision *
          DSCEngine.precision < wordLimit) (.panic .arithmetic)]

/-- `_revertIfHealthFactorIsBroken`. -/
def lineChecks (w : World) (user : Address) : List (Check Revert) :=
  w.judgeChecks user ++
    [check (DSCEngine.minHealthFactor ≤ w.health user)
      (.engine (.breaksHealthFactor (w.health user)))]

end World

variable {w : World} {token user : Address} {amount : Nat}

/-- A feed address fails in one way only. -/
theorem World.latestRoundData_error {priceFeed : Address} {reason : Revert}
    (failed : w.latestRoundData priceFeed = .error reason) : reason = .noCode := by
  unfold latestRoundData at failed
  split at failed
  · cases failed
    rfl
  · split at failed
    · cases failed
    · cases failed
      rfl

/-- What stands behind a price: a round, and what is read off it. -/
theorem read_settles {β : Type} {checks : List (Check Revert)} {result : β}
    {next : Round → Except Revert β}
    (goes : ∀ round, w.latestRoundData (w.engine.priceFeeds token) = .ok round →
      w.reportedAt token = round.updatedAt →
      w.castPrice token = round.answer.toNat * DSCEngine.additionalFeedPrecision →
      next round = settle checks result) :
    (w.latestRoundData (w.engine.priceFeeds token) >>= next) =
      settle (check (w.Answers token) .noCode :: checks) result := by
  cases read : w.latestRoundData (w.engine.priceFeeds token) with
  | ok round =>
      have answers : w.Answers token := by
        unfold World.Answers
        rw [read]
        rfl
      rw [settle_of_holds answers]
      apply goes round read
      · simp only [World.reportedAt, read]
      · simp only [World.castPrice, read]
  | error reason =>
      have silent : ¬ w.Answers token := by
        unfold World.Answers
        rw [read]
        exact Bool.false_ne_true
      rw [settle_of_fails silent, World.latestRoundData_error read]
      rfl

/-- A cast price that fits a word is the price. -/
theorem World.price_eq_castPrice (fits : w.castPrice token < wordLimit) :
    w.price token = w.castPrice token := by
  unfold price castPrice at *
  cases read : w.latestRoundData (w.engine.priceFeeds token) with
  | ok round =>
      rw [read] at fits
      exact congrArg (· * DSCEngine.additionalFeedPrecision)
        (toNat_of_nonneg (scaled_lt_iff.mp fits).1).symm
  | error reason => rfl

namespace DSCEngine

theorem getUsdValue_settles :
    getUsdValue w token amount =
      settle (w.usdChecks token amount) (Pledge.worth precision (w.price token) amount) := by
  unfold getUsdValue OracleLib.stalePriceCheckLatestRoundData
  rw [bind_assoc]
  apply read_settles
  intro round read reported cast
  rw [reported, cast, bind_assoc]
  apply sub_bind
  intro past
  rw [bind_assoc]
  apply require_bind Nat.not_lt
  intro recent
  rw [Checked.ok_bind]
  apply mul_bind
  intro fits
  rw [← cast] at fits ⊢
  rw [← World.price_eq_castPrice fits]
  apply mul_bind
  intro _
  exact Checked.div_eq_ok.mpr ⟨by decide, rfl⟩

theorem getTokenAmountFromUsd_settles {usdAmountInWei : Nat} :
    getTokenAmountFromUsd w token usdAmountInWei =
      settle (w.buyChecks token usdAmountInWei)
        (usdAmountInWei * precision / w.price token) := by
  apply read_settles
  intro round read _ cast
  apply mul_bind
  intro _
  rw [cast]
  apply mul_bind
  intro fits
  rw [← cast] at fits ⊢
  rw [← World.price_eq_castPrice fits]
  exact div_settles

/-- The loop adds up what the tokens are worth. -/
theorem foldl_addValue (tokens : List Address) (start : Nat) :
    tokens.foldl (w.addValue user) start =
      start + Pledge.value precision tokens w.price (w.engine.collateralDeposited user) := by
  induction tokens generalizing start with
  | nil => rfl
  | cons token rest ih =>
      rw [List.foldl_cons, ih]
      simp only [World.addValue, Pledge.value, List.map_cons, List.sum_cons]
      omega

theorem getAccountCollateralValue_settles :
    getAccountCollateralValue w user =
      settle (loopChecks (w.valueChecks user) (w.addValue user) 0 w.engine.collateralTokens)
        (w.value user) := by
  have total : w.engine.collateralTokens.foldl (w.addValue user) 0 = w.value user := by
    rw [foldl_addValue, Nat.zero_add]
    rfl
  rw [← total]
  apply foldlM_settles
  intro sofar token
  apply settle_bind getUsdValue_settles
  intro _
  exact add_settles

theorem healthFactor_settles :
    healthFactor w user = settle (w.judgeChecks user) (w.health user) := by
  have told : getAccountInformation w user =
      settle (loopChecks (w.valueChecks user) (w.addValue user) 0 w.engine.collateralTokens)
        (w.engine.dscMinted user, w.value user) := by
    apply settle_bind_ok getAccountCollateralValue_settles
    intro _
    rfl
  apply settle_bind told
  intro _
  change (if w.engine.dscMinted user = 0 then _ else _) = settle _ (Pledge.ratio terms _ _)
  unfold Pledge.ratio
  by_cases clear : w.engine.dscMinted user = 0
  · rw [if_pos clear, if_pos clear]
    exact congrArg Except.ok (if_pos clear).symm
  · rw [if_neg clear, if_neg clear, show (w.position user).debt = w.engine.dscMinted user from rfl,
      if_neg clear]
    apply mul_bind
    intro _
    apply settle_ok_bind (Checked.div_eq_ok.mpr ⟨by decide, rfl⟩)
    apply mul_bind
    intro _
    exact Checked.div_eq_ok.mpr ⟨clear, rfl⟩

/-- The conditions are those of `Valued` and `Scales`. -/
theorem judgeChecks_hold_iff : AllHold (w.judgeChecks user) ↔ w.Valued user ∧ w.Scales user := by
  constructor
  · intro held
    obtain ⟨valued, scales, _⟩ := healthFactor_eq_ok.mp
      (healthFactor_settles.trans (settle_eq_ok.mpr ⟨held, rfl⟩))
    exact ⟨valued, scales⟩
  · intro judged
    have returned := healthFactor_eq_ok.mpr ⟨judged.1, judged.2, rfl⟩
    rw [healthFactor_settles] at returned
    exact (settle_eq_ok.mp returned).1

theorem revertIfHealthFactorIsBroken_settles :
    revertIfHealthFactorIsBroken w user = settle (w.lineChecks user) () := by
  apply settle_bind healthFactor_settles
  intro _
  exact require_settles Nat.not_lt

end DSCEngine

end DscProtocol
