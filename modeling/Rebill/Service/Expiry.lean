import Rebill.Service.Basic

/-!
# Refreshing expiry dates

`Expiry.refresh` asks a gateway that can tell when its credentials expire for the dates of the
tokens of its stored methods, and writes every date that changed. The answer is the number of
methods changed. A gateway that cannot tell changes nothing; a failed question is counted and
reported as a gateway error.
-/

namespace Rebill.Expiry

open Svc

def writeChanged (answers : List (String × Date)) : List Method → Nat → Svc Nat
  | [], n => pure n
  | m :: rest, n =>
    match answers.find? (·.1 == m.token) with
    | none => writeChanged answers rest n
    | some (_, d) =>
      if m.expiresOn == some d then writeChanged answers rest n
      else do
        match (← store).setMethodExpiry m.id d with
        | .ok s => setStore s
        | .error f => throw (.storage f)
        writeChanged answers rest (n + 1)

/-- Refreshes the expiry dates of the methods of a gateway; how many changed. -/
def refresh (gatewayId : String) : Svc Nat := do
  let g ← requireGateway gatewayId
  if !g.expiryCheck then return 0
  let methods := (← store).methodsOfGateway gatewayId
  if methods.isEmpty then return 0
  match g.checkExpire (methods.map (·.token)) with
  | .error f =>
    count (.error "gateway" "check_expire")
    throw (.gateway f.message)
  | .ok answers => writeChanged answers methods 0

end Rebill.Expiry
