import FilterGateway.Json.Merge
import FilterGateway.Shape.Decode
import FilterGateway.Shape.Encode

/-!
# Binding options

Options are bound by laying them over the written form of the current value and reading the result
back. A value that is not written as an object has nothing that an option could name.
-/

namespace FilterGateway

namespace Shape

/-- The written form with options laid over it. -/
def overlay (current : Json) (options : Fields) : Json :=
  match current with
  | .object fields => .object (Fields.merge fields options)
  | current => current

/-- The value that a configuration becomes when `options` are bound onto it. -/
def bind (s : Shape) (value : s.Value) (options : Fields) : Except BindError s.Value :=
  match encode s value with
  | .error cause => .error (.unwritable cause)
  | .ok current =>
    match decode s (overlay current options) with
    | .error cause => .error (.unreadable cause)
    | .ok value => .ok value

end Shape

end FilterGateway
