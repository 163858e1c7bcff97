import SubmissionRouting.Forwarding
import SubmissionRouting.Form.Table
import SubmissionRouting.Condition.Codec

/-! # Settings

How submissions are routed can be set: the name under which the remaining hosts are handed on, the
parameters that are not handed on, whether a host must remain, and the message of a fallback that a
form lacks.

* `Settings`: the settings; their default values.
* `Settings.ofPayload?`: reads settings; what is left out keeps its default. -/

namespace SubmissionRouting

/-- How submissions are routed. -/
structure Settings where
  hostsParam : Value := defaultHostsParam
  controlParams : List Value := defaultControlParams
  requireEligibleHost : Value := .bool true
  fallbackMessage : Value := defaultFallbackMessage

namespace Settings

/-- The names of the settings. -/
def names : List String :=
  ["routed_hosts_param", "routing_control_params", "require_eligible_host", "fallback_message"]

/-- The keys of a payload that are no setting's name. -/
def unknownKeys (es : Mapping Value) : List Value :=
  es.keys.filter fun k => !names.any fun n => k.same (.text n)

/-- The settings in a mapping whose keys are all known. -/
def ofEntries? (es : Mapping Value) : Except Misuse Settings := do
  let defaults : Settings := {}
  let controls ←
    match Value.member? es "routing_control_params" with
    | none => pure defaults.controlParams
    | some v => v.items
  pure
    { hostsParam := Value.memberD es "routed_hosts_param" defaults.hostsParam
      controlParams := controls
      requireEligibleHost := Value.memberD es "require_eligible_host" defaults.requireEligibleHost
      fallbackMessage := Value.memberD es "fallback_message" defaults.fallbackMessage }

/-- The settings in a payload. A payload that does not count as given leaves the defaults. -/
def ofPayload? (v : Value) : Result Settings :=
  if !v.isTruthy then pure {}
  else
    match v.opened with
    | .map es => do
      match unknownKeys es with
      | [] => orFault (ofEntries? es)
      | unknown =>
        let texts ← orFault (Value.textsOf unknown)
        .error (.payload (.unknownSettings (texts.mergeSort fun s t => s ≤ t)))
    | _ => .error (.payload .settingsNotAMapping)

end Settings

end SubmissionRouting
