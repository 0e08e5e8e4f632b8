import DscProtocol.HelperConfig
import DscProtocol.Reachability

set_option autoImplicit false

/- The collateral registry: the list the valuation runs over and the table of feeds that decides
which tokens are allowed, both filled by the constructor's one loop. -/
namespace DscProtocol

namespace DSCEngine

/-- The tokens that pass `isAllowedToken`. -/
def allowedTokens (engine : DSCEngine) : Finset Address :=
  Finset.univ.filter fun token => engine.priceFeeds token ≠ 0

/-- The state of an engine whose registry is this one. -/
def RegisteredIn (engine : DSCEngine) (w : World) : Prop :=
  w.engine.priceFeeds = engine.priceFeeds ∧ w.engine.collateralTokens = engine.collateralTokens

/-- What the registry is for: no token is listed twice, the allowed tokens are the listed ones,
and a valuation is the sum over the set of allowed tokens. -/
structure RegistryConsistent (engine : DSCEngine) : Prop where
  distinct : engine.collateralTokens.Nodup
  allowed_iff : ∀ w token, engine.RegisteredIn w →
    (isAllowedToken w token = .ok () ↔ token ∈ engine.collateralTokens)
  counted_once : ∀ w user value, engine.RegisteredIn w →
    (getAccountCollateralValue w user = .ok value ↔
      ∃ usd : Address → Nat,
        (∀ token ∈ engine.allowedTokens,
          getUsdValue w token (w.engine.collateralDeposited user token) = .ok (usd token)) ∧
        value = ∑ token ∈ engine.allowedTokens, usd token ∧ value < wordLimit)

variable {w : World} {engine : DSCEngine} {token : Address}

/-- No action ever changes the registry. -/
theorem RegisteredIn.run (registered : engine.RegisteredIn w) (actions : List Action) :
    engine.RegisteredIn (Runs.run step w actions) := by
  have same := SameContracts.run w actions
  exact ⟨same.priceFeeds.trans registered.1, same.collateralTokens.trans registered.2⟩

theorem isAllowedToken_eq_ok {done : Unit} :
    isAllowedToken w token = .ok done ↔ w.engine.priceFeeds token ≠ 0 := Checked.require_eq_ok

theorem mem_allowedTokens : token ∈ engine.allowedTokens ↔ engine.priceFeeds token ≠ 0 := by
  simp [allowedTokens]

/-- The loop leaves the feeds of tokens it does not meet alone. -/
theorem foldl_register_of_not_mem (entries : List (Address × Address)) (engine : DSCEngine)
    (absent : token ∉ entries.map Prod.fst) :
    (entries.foldl register engine).priceFeeds token = engine.priceFeeds token := by
  induction entries generalizing engine with
  | nil => rfl
  | cons entry rest ih =>
      simp only [List.map_cons, List.mem_cons, not_or] at absent
      rw [List.foldl_cons, ih _ absent.2]
      exact Function.update_of_ne absent.1 _ _

/-- Without zero feeds every token the loop meets is allowed from then on. -/
theorem foldl_register_allowed (entries : List (Address × Address)) (engine : DSCEngine)
    (real : ∀ entry ∈ entries, entry.2 ≠ 0)
    (known : engine.priceFeeds token ≠ 0 ∨ token ∈ entries.map Prod.fst) :
    (entries.foldl register engine).priceFeeds token ≠ 0 := by
  induction entries generalizing engine with
  | nil => simpa using known
  | cons entry rest ih =>
      have realRest : ∀ other ∈ rest, other.2 ≠ 0 :=
        fun other inside => real other (List.mem_cons_of_mem _ inside)
      apply ih (register engine entry) realRest
      by_cases same : token = entry.1
      · left
        simp only [register, same, Function.update_self]
        exact real entry List.mem_cons_self
      · simp only [List.map_cons, List.mem_cons, same, false_or] at known
        simp only [register, Function.update_of_ne same]
        exact known

/-- Without repeated tokens every token keeps the feed it was registered with. -/
theorem foldl_register_feed (entries : List (Address × Address)) (engine : DSCEngine)
    (distinct : (entries.map Prod.fst).Nodup) {entry : Address × Address}
    (inside : entry ∈ entries) : (entries.foldl register engine).priceFeeds entry.1 = entry.2 := by
  induction entries generalizing engine with
  | nil => cases inside
  | cons first rest ih =>
      obtain ⟨absent, distinctRest⟩ := List.nodup_cons.mp distinct
      rcases List.mem_cons.mp inside with here | later
      · subst here
        rw [List.foldl_cons, foldl_register_of_not_mem _ _ absent]
        exact Function.update_self _ _ _
      · exact ih _ distinctRest later

/-- What the constructor leaves in the table of feeds. -/
theorem construct_priceFeeds {tokenAddresses priceFeedAddresses : List Address}
    {dscAddress dscPoolAddress : Address}
    (constructed : construct tokenAddresses priceFeedAddresses dscAddress dscPoolAddress =
      .ok engine) :
    (0 ∉ priceFeedAddresses → ∀ token ∈ tokenAddresses, engine.priceFeeds token ≠ 0) ∧
    (tokenAddresses.Nodup → ∀ entry ∈ tokenAddresses.zip priceFeedAddresses,
      engine.priceFeeds entry.1 = entry.2) := by
  simp only [construct, Checked.bind_eq_ok, Checked.require_eq_ok, exists_const,
    Except.ok.injEq] at constructed
  obtain ⟨same, rfl⟩ := constructed
  have names := List.map_fst_zip (Nat.le_of_eq same)
  constructor
  · intro real token listed
    apply foldl_register_allowed
    · intro entry inside zero
      exact real (zero ▸ (List.of_mem_zip inside).2)
    · right
      rw [names]
      exact listed
  · intro distinct entry inside
    apply foldl_register_feed _ _ _ inside
    rw [names]
    exact distinct

/-- A list without repetitions that is exactly the set of allowed tokens is counted once. -/
theorem counted_once_of {value : Nat} {user : Address} (distinct : engine.collateralTokens.Nodup)
    (allowed : ∀ token, engine.priceFeeds token ≠ 0 ↔ token ∈ engine.collateralTokens)
    (registered : engine.RegisteredIn w) :
    getAccountCollateralValue w user = .ok value ↔
      ∃ usd : Address → Nat,
        (∀ token ∈ engine.allowedTokens,
          getUsdValue w token (w.engine.collateralDeposited user token) = .ok (usd token)) ∧
        value = ∑ token ∈ engine.allowedTokens, usd token ∧ value < wordLimit := by
  obtain ⟨_, tokens⟩ := registered
  have members : ∀ token, token ∈ engine.allowedTokens ↔ token ∈ engine.collateralTokens := by
    intro token
    rw [mem_allowedTokens]
    exact allowed token
  have set : engine.allowedTokens = engine.collateralTokens.toFinset := by
    ext token
    rw [members, List.mem_toFinset]
  have exact_value : w.value user = ∑ token ∈ engine.allowedTokens,
      Pledge.worth precision (w.price token) (w.engine.collateralDeposited user token) := by
    rw [World.value, tokens, Pledge.value_eq_sum distinct, set]
  rw [getAccountCollateralValue_eq_ok]
  constructor
  · intro returned
    obtain ⟨valued, rfl⟩ := returned
    refine ⟨fun token => Pledge.worth precision (w.price token)
      (w.engine.collateralDeposited user token), ?_, exact_value, valued.value_fits⟩
    intro token member
    have listed : token ∈ w.engine.collateralTokens := tokens ▸ (members token).mp member
    exact getUsdValue_eq_ok.mpr
      ⟨valued.readable token listed, valued.product_fits token listed, rfl⟩
  · intro summed
    obtain ⟨usd, each, total, bound⟩ := summed
    have same : value = w.value user := by
      rw [total, exact_value]
      apply Finset.sum_congr rfl
      intro token member
      exact (getUsdValue_eq_ok.mp (each token member)).2.2
    have valued : ∀ token ∈ w.engine.collateralTokens, w.Readable token ∧
        w.price token * w.engine.collateralDeposited user token < wordLimit := by
      intro token listed
      obtain ⟨readable, fits, _⟩ :=
        getUsdValue_eq_ok.mp (each token ((members token).mpr (tokens ▸ listed)))
      exact ⟨readable, fits⟩
    refine ⟨⟨fun token listed => (valued token listed).1, fun token listed =>
      (valued token listed).2, ?_⟩, same⟩
    rw [← same]
    exact bound

end DSCEngine

open DSCEngine

/-- Every feed is registered for some token. -/
theorem exists_token_of_feed {tokenAddresses priceFeedAddresses : List Address} {feed : Address}
    (same : tokenAddresses.length = priceFeedAddresses.length)
    (listed : feed ∈ priceFeedAddresses) :
    ∃ token, (token, feed) ∈ tokenAddresses.zip priceFeedAddresses := by
  rw [← List.map_snd_zip (Nat.le_of_eq same.symm)] at listed
  obtain ⟨entry, inside, here⟩ := List.mem_map.mp listed
  exact ⟨entry.1, here ▸ inside⟩

/-- The registry the constructor builds is consistent exactly for lists in which no token is
repeated and no feed is the zero address: only the lengths are checked. -/
theorem registry_consistent_iff {tokenAddresses priceFeedAddresses : List Address}
    {dscAddress dscPoolAddress : Address} {engine : DSCEngine}
    (constructed : construct tokenAddresses priceFeedAddresses dscAddress dscPoolAddress =
      .ok engine) :
    engine.RegistryConsistent ↔ tokenAddresses.Nodup ∧ 0 ∉ priceFeedAddresses := by
  obtain ⟨same, _, _, _, _, _, tokens, listed⟩ := construct_eq_ok constructed
  obtain ⟨filled, kept⟩ := construct_priceFeeds constructed
  constructor
  · intro consistent
    have distinct : tokenAddresses.Nodup := tokens ▸ consistent.distinct
    refine ⟨distinct, ?_⟩
    intro zero
    obtain ⟨token, inside⟩ := exists_token_of_feed same zero
    have none : engine.priceFeeds token = 0 := kept distinct _ inside
    have registered : engine.RegisteredIn { HelperConfig.anvil.start with engine := engine } :=
      ⟨rfl, rfl⟩
    have inList : token ∈ engine.collateralTokens := by
      rw [tokens]
      exact (List.of_mem_zip inside).1
    have allowed := (consistent.allowed_iff _ _ registered).mpr inList
    exact isAllowedToken_eq_ok.mp allowed none
  · intro condition
    obtain ⟨distinct, real⟩ := condition
    have unique : engine.collateralTokens.Nodup := tokens ▸ distinct
    have allowed : ∀ token, engine.priceFeeds token ≠ 0 ↔ token ∈ engine.collateralTokens :=
      fun token => ⟨listed token, fun inside => filled real token (tokens ▸ inside)⟩
    refine ⟨unique, ?_, ?_⟩
    · intro w token registered
      rw [isAllowedToken_eq_ok, registered.1]
      exact allowed token
    · intro w user value registered
      exact counted_once_of unique allowed registered

section Example

open HelperConfig

/-- The registry after ether was listed twice, and the local network with it. -/
def listedTwice : World where
  engineAddress := anvil.engineAddress
  engine := [(weth, wethUsdPriceFeed), (weth, wethUsdPriceFeed)].foldl register
    { status := .notEntered
      priceFeeds := fun _ => 0
      collateralDeposited := fun _ _ => 0
      dscMinted := fun _ => 0
      collateralTokens := []
      dsc := anvil.dscAddress
      poolAddress := anvil.poolAddress }
  pool := anvil.start.pool
  tokens := anvil.start.tokens
  dscOwner := anvil.start.dscOwner
  feeds := anvil.start.feeds
  etherBalance := anvil.start.etherBalance
  timestamp := anvil.start.timestamp

/-- The constructor accepts the list, and an ether of 2000 dollars then counts as 4000: its
owner can mint 2000 coins against it, at 100% instead of 200%. -/
theorem repeated_token_counted_twice :
    construct [weth, weth] [wethUsdPriceFeed, wethUsdPriceFeed] anvil.dscAddress
        anvil.poolAddress = .ok listedTwice.engine ∧
      getUsdValue listedTwice weth (10 ^ 18) = .ok (2000 * 10 ^ 18) ∧
      (Runs.run step listedTwice
        [.issue weth deployer (10 ^ 18),
          .callToken deployer weth (.approve anvil.engineAddress (10 ^ 18)),
          .callEngine deployer (.depositCollateralAndMintDsc weth (10 ^ 18)
            (2000 * 10 ^ 18))]).engine.dscMinted deployer = 2000 * 10 ^ 18 ∧
      ¬ listedTwice.engine.RegistryConsistent := by
  refine ⟨rfl, by decide +kernel, by decide +kernel, ?_⟩
  intro consistent
  have tokens : listedTwice.engine.collateralTokens = [weth, weth] := rfl
  have distinct := consistent.distinct
  rw [tokens] at distinct
  exact absurd distinct (by decide)

theorem registry_consistent_of_script : anvil.start.engine.RegistryConsistent := by
  have constructed : construct anvil.tokenAddresses anvil.priceFeedAddresses anvil.dscAddress
      anvil.poolAddress = .ok anvil.start.engine := rfl
  exact (registry_consistent_iff constructed).mpr ⟨anvil.distinct, by decide⟩

end Example

end DscProtocol
