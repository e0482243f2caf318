import CollateralDebt.Document.Event
import CollateralDebt.Engine.Basic
import CollateralDebt.PriceFeed

/-!
# Documents of markets

What a market is made of: parameters, curves, price feeds, the ledger and the engine. Tables are
published as lists of rows in ascending order of their keys.
-/

namespace CollateralDebt

instance : Documented Parameters :=
  ⟨fun p => .fields [
    ("debt_ceiling", document p.debtCeiling),
    ("collateral_factor", document p.collateralFactor),
    ("target_health_factor", document p.targetHealthFactor),
    ("interest_rate", document p.interestRate),
    ("liquidation_surcharge", document p.liquidationSurcharge),
    ("max_liquidation_discount", document p.maxLiquidationDiscount),
    ("borrow_fee", document p.borrowFee),
    ("repay_fee", document p.repayFee),
    ("dust", document p.dust),
    ("dust_liquidation", document p.dustLiquidation),
    ("dust_collateral", document p.dustCollateral),
    ("whitelisting_activated", document p.whitelistingActivated),
    ("base_boost", document p.baseBoost)]⟩

instance : Documented BoostCurve :=
  ⟨fun c => .fields [("x_boost", document c.thresholds), ("y_boost", document c.multipliers)]⟩

instance : Documented Observation :=
  ⟨fun o => .fields [("price", document o.price), ("updated_at", document o.updatedAt)]⟩

instance : Documented FeedState :=
  ⟨fun f => .fields [
    ("price", document f.observation),
    ("operator", document f.operator),
    ("admin", document f.admin),
    ("max_age", document f.maxAge),
    ("is_active", document f.isActive),
    ("max_deviation_bps", document f.maxDeviation)]⟩

/-- Of a feed's log, only the length is published with it. -/
instance : Documented PriceFeed :=
  ⟨fun f => .fields [("state", document f.state), ("event_count", document f.log.length)]⟩

instance : Documented AssetInfo :=
  ⟨fun a => .fields [
    ("controller", document a.controller),
    ("decimals", document a.decimals),
    ("total_supply", document a.totalSupply),
    ("minters", document a.minters.keys)]⟩

instance : Documented LedgerState :=
  ⟨fun l => .fields [
    ("assets", .items (l.assets.entries.map fun (asset, info) =>
      .items [document asset, document info])),
    ("balances", .items (l.balances.entries.map fun ((asset, account), amount) =>
      .items [document asset, document account, document amount])),
    ("allowances", .items (l.allowances.entries.map fun ((asset, owner, spender), amount) =>
      .items [document asset, document owner, document spender, document amount])),
    ("signing_keys", .items (l.signingKeys.entries.map fun (owner, key) =>
      .items [document owner, document key])),
    ("nonces", .items (l.nonces.entries.map fun ((asset, owner), nonce) =>
      .items [document asset, document owner, document nonce]))]⟩

namespace EngineState

/-- What changes from call to call, without the vaults. -/
def summary (s : EngineState) : Document :=
  .items [document s.accumulator, document s.accruedAt, document s.totalNormalizedDebt,
    document s.surplus, document s.badDebt, document s.paused]

/-- One vault, with its owner and its approved account. Where nobody owns the vault both are the
zero address, for an approval counts only beside an owner. -/
def vaultRow (s : EngineState) (id : VaultId) (v : Vault) : Document :=
  let owner := (s.registry.ownerOf id).toOption.getD .zero
  let approved := (s.registry.approvedOf id).toOption.getD .zero
  .items [document id, document owner, document approved, document v.collateral,
    document v.normalizedDebt, document v.isEmpty]

/-- The vaults with numbers from 1 to `last`, ascending, as far as numbers were handed out. -/
def vaultRows (s : EngineState) (last : Nat) : Document :=
  let last := min last s.registry.lastId.toNat
  .items ((s.registry.vaults.entries.filter fun (id, _) => 1 ≤ id.toNat && id.toNat ≤ last).map
    fun (id, v) => s.vaultRow id v)

/-- The whole state, with the vaults up to `last`. -/
def overview (s : EngineState) (last : Nat) : Document :=
  .fields [
    ("address", document s.address),
    ("name", document s.name),
    ("collateral", document s.collateral),
    ("stablecoin", document s.stablecoin),
    ("treasury", document s.treasury),
    ("collateral_decimals", document s.collateralDecimals),
    ("collat_base", document s.collateralUnit),
    ("params", document s.params),
    ("boost_curve", document s.boostCurve),
    ("summary", s.summary),
    ("vault_id_count", document s.registry.lastId),
    ("vaults", s.vaultRows last)]

end EngineState

end CollateralDebt
