import GatewayClient.Payload.Reading

/-!
# Contract queries

A read-only call of a contract, and the node's answer to it.
-/

set_option autoImplicit false

namespace GatewayClient

/-- A read-only call of a contract. Arguments are in hexadecimal, the value in decimal. -/
structure VmQuery where
  scAddress : String
  funcName : String
  args : List String := []
  caller : Option String := none
  value : Option String := none
deriving DecidableEq, Repr

/-- The body that asks the query. Caller and value are left out where they are not given. -/
def VmQuery.toFields (q : VmQuery) : Json.Fields :=
  ([("scAddress", .str q.scAddress), ("funcName", .str q.funcName),
    ("args", .arr (q.args.map fun (arg : String) => .str arg))] : Json.Fields)
    ++ (q.caller.map fun caller => (("caller" : Text), Json.str caller)).toList
    ++ (q.value.map fun value => (("value" : Text), Json.str value)).toList

/-- The answer to a query. The data is as the contract returned it. -/
structure VmQueryResult where
  returnData : List Text
  returnCode : Text
  returnMessage : Text := ""
  raw : Json.Fields := []

/-- Read an answer. -/
def VmQueryResult.decode? (data : Json.Fields) : Option VmQueryResult := do
  return {
    returnData := ← (← data.items? "returnData").mapM Json.text?
    returnCode := ← data.text? "returnCode"
    returnMessage := (← data.optional? "returnMessage" Json.text?).getD ""
    raw := data }

end GatewayClient
