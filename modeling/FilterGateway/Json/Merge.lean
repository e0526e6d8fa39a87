import FilterGateway.Json.Basic

/-!
# Merging objects

Merging lays the fields of one object over those of another. Two objects under one key are merged
in the same way, at every depth; any other value replaces what stood under its key.
-/

namespace FilterGateway

mutual

/-- `upper` laid over `base`. -/
def Fields.merge (base : Fields) : Fields → Fields
  | [] => base
  | (key, value) :: rest =>
    Fields.merge (base.insert key (Json.mergeOver (base.get? key) value)) rest

/-- What stands under a key once a value is laid over what stood there. -/
def Json.mergeOver (base : Option Json) : Json → Json
  | .object upper =>
    match base with
    | some (.object fields) => .object (Fields.merge fields upper)
    | _ => .object upper
  | value => value

end

@[simp] theorem Fields.merge_nil (base : Fields) : base.merge [] = base := by
  simp [Fields.merge]

end FilterGateway
