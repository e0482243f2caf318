import CollateralDebt.Action
import CollateralDebt.Document

/-!
# Documents of actions

An action is published under the name of its kind, with its fields.
-/

namespace CollateralDebt

/-- The published name of a kind of action. -/
def ActionKind.name : ActionKind → String
  | .createVault => "CreateVault"
  | .closeVault => "CloseVault"
  | .addCollateral => "AddCollateral"
  | .removeCollateral => "RemoveCollateral"
  | .repayDebt => "RepayDebt"
  | .borrow => "Borrow"
  | .getDebtIn => "GetDebtIn"
  | .permit => "Permit"

instance : Documented ActionKind := ⟨fun k => .text k.name⟩

/-- The fields of a permit, by their published names. -/
def Permit.details (p : Permit) : List (String × Document) :=
  [("asset", document p.asset), ("owner", document p.owner), ("spender", document p.spender),
    ("value", document p.value), ("deadline", document p.deadline),
      ("signature", document p.signature)]

instance : Documented Permit := ⟨fun p => .fields p.details⟩

/-- The fields of an action, by their published names. -/
def Action.details : Action → List (String × Document)
  | .createVault owner => [("to", document owner)]
  | .closeVault vault => [("vault_id", document vault)]
  | .addCollateral vault amount => [("vault_id", document vault), ("amount", document amount)]
  | .removeCollateral vault amount => [("vault_id", document vault), ("amount", document amount)]
  | .repayDebt vault amount => [("vault_id", document vault), ("amount", document amount)]
  | .borrow vault amount => [("vault_id", document vault), ("amount", document amount)]
  | .getDebtIn receiving givingEngine giving amount =>
    [("src_vault_id", document receiving), ("dst_manager", document givingEngine),
      ("dst_vault_id", document giving), ("amount", document amount)]
  | .permit signed => signed.details

instance : Documented Action := ⟨fun a => .tagged a.kind.name a.details⟩

end CollateralDebt
