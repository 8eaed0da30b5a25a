import Mathlib.Init

/-!
# Result codes

`Core::hresult` and the two of its values that the plugin returns.
-/

namespace DeviceInfoPlugin

/-- Value of `Core::hresult` and of the `uint32_t` results. -/
abbrev Hresult := UInt32

def ERROR_NONE : Hresult := 0

def ERROR_GENERAL : Hresult := 1

@[simp] theorem ERROR_GENERAL_ne_ERROR_NONE : ERROR_GENERAL ≠ ERROR_NONE := by
  decide

end DeviceInfoPlugin
