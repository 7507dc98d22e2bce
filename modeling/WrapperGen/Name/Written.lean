import WrapperGen.Json.Decode
import WrapperGen.Name.Reader

/-!
# Class names in JSON

In JSON a class name is a string in the pinned form, so reading it back finds the same package.
-/

namespace WrapperGen.ClassName

/-- The JSON value of a class name. -/
def toJson (n : ClassName) : Json := .string n.pinned

/-- Decodes a class name. -/
def decode : Json.Decoder ClassName := fun levels reading => do
  let text ← Json.decodeString levels reading
  match ClassName.read text with
  | .ok name => return name
  | .error e => throw (.mismatch (.invalid e.message))

end WrapperGen.ClassName
