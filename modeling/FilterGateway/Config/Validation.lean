import FilterGateway.Config.Basic
import FilterGateway.Text.Blank

/-!
# Validating a configuration

A configuration that can be read may still be senseless: a filter with a blank name can never be
found, and a poll interval of zero would never rest. All such faults are reported together.
-/

namespace FilterGateway

inductive ValidationError where
  | emptyFilterName (index : Nat)
  | zeroPollInterval
deriving DecidableEq, Repr

namespace ValidationError

def message : ValidationError → String
  | emptyFilterName index => "filter #" ++ toString index ++ " has an empty name"
  | zeroPollInterval => "reload.poll_interval_secs must be greater than zero"

/-- The error as a term. -/
def term : ValidationError → String
  | emptyFilterName index => "EmptyFilterName \x7b index: " ++ toString index ++ " \x7d"
  | zeroPollInterval => "ZeroPollInterval"

end ValidationError

/-- One error for each descriptor with a blank name; the first descriptor stands at `index`. -/
def blankNames (index : Nat) : List Descriptor → List ValidationError
  | [] => []
  | d :: ds =>
    if Text.isBlank d.name then .emptyFilterName index :: blankNames (index + 1) ds
    else blankNames (index + 1) ds

/-- The faults of a configuration: blank names by position, then the poll interval. -/
def GatewayConfig.faults (config : GatewayConfig) : List ValidationError :=
  blankNames 0 config.filters ++
    (if config.reload.pollInterval = 0 then [.zeroPollInterval] else [])

def GatewayConfig.validate (config : GatewayConfig) : Except (List ValidationError) Unit :=
  if config.faults.isEmpty then .ok () else .error config.faults

end FilterGateway
