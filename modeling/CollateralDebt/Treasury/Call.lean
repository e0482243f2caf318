import CollateralDebt.Treasury

/-!
# Calls on a treasury

The calls by which a treasury changes, as data. Every one of them is for governors.
-/

namespace CollateralDebt

/-- A changing call on a treasury. -/
inductive TreasuryCall where
  | grant (caller account : Address) (role : Role)
  | revoke (caller account : Address) (role : Role)
  | addEngine (caller engine : Address)
  | removeEngine (caller engine : Address)
deriving DecidableEq

/-- Make a call. -/
def TreasuryCall.run (t : Treasury) : TreasuryCall → Outcome Treasury
  | .grant caller account role => t.grant caller account role
  | .revoke caller account role => t.revoke caller account role
  | .addEngine caller engine => t.addEngine caller engine
  | .removeEngine caller engine => t.removeEngine caller engine

end CollateralDebt
