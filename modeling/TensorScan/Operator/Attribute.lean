import TensorScan.DType

set_option autoImplicit false

/-! # Attribute values

The attributes of an operator are truth values and element types.
-/

namespace TensorScan

/-- The value of an attribute. -/
inductive AttributeValue
  | bool (value : Bool)
  | dtype (value : DType)
  deriving DecidableEq

/-- The form of a value in messages: `Bool(true)`, `Type(F32)`. -/
def AttributeValue.render : AttributeValue → String
  | .bool b => "Bool(" ++ toString b ++ ")"
  | .dtype d => "Type(" ++ d.tag ++ ")"

end TensorScan
