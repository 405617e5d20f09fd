import ScanFleet.Account.Basic
import ScanFleet.Data.Shape
import ScanFleet.Text.Numeral

/-! Accounts to be added, as they are sent. -/

namespace ScanFleet

open Data Text

def NewAccount.rules : RecordRules where
  members := [required "username" Shape.text, required "password" Shape.text,
    defaulted "level" (Shape.int minI32 maxI32)]
  lax := false

/-- An account that is sent without a level has level zero. -/
def NewAccount.shape : Shape NewAccount := fun d => do
  let found ← readRecord NewAccount.rules d
  return { username := foundText found "username",
           password := foundText found "password",
           level := (found? found "level" (Shape.int minI32 maxI32)).getD 0 }

end ScanFleet
