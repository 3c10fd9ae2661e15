import Launcher.Currency.Rates
import Launcher.Json.Fields

namespace Launcher.Currency

/-!
# Rates from the web

* `address` — the address of a service for a key and a base currency.
* `requestLine` — the line by which an address is asked for.
* `ratesOfReply` — the rates in the reply of a service.
-/

/-- The address of the service that is asked for rates, if no other is given. -/
def defaultAddress : String :=
  "https://v6.exchangerate-api.com/v6/\x7bkey\x7d/latest/\x7bbase\x7d"

/-- An address with the trimmed key and the base currency in their places. -/
def address (key base : String) (template : String := defaultAddress) : String :=
  Text.replaceAllIn "\x7bbase\x7d" base
    (Text.replaceAllIn "\x7bkey\x7d" (Text.trimmed key) template)

/-- What an address names on its host, without what follows a `#`. -/
def targetOf (address : String) : String :=
  let s := address.toList
  let afterScheme := ((Text.cutAt? "://".toList s).map (·.2)).getD s
  let target :=
    (afterScheme.dropWhile fun c => c != '/' && c != '?' && c != '#').takeWhile (· != '#')
  String.ofList (if target.head? = some '/' then target else '/' :: target)

/-- The line by which an address is asked for. -/
def requestLine (address : String) : String :=
  "GET " ++ targetOf address ++ " HTTP/1.1"

open Json

/-- The rates of an object; of rates with one code the last counts. -/
def ratesOf? : Document → Option Rates
  | .object members => do
    let fields ← keyedMembers? members
    fields.foldlM (fun rates (code, d) => do return insertRate code (← d.float?) rates) []
  | _ => none

/-- The members of a reply; the rates have two names. -/
def replyMembers? : Document → Option Fields
  | .object members => do
    let fields ← keyedMembers? members
    return fields.map fun (name, d) => (if name = "rates" then "conversion_rates" else name, d)
  | d => membersOf? ["result", "conversion_rates"] 2 d

/-- The result and the rates in the text of a reply. -/
def readReply? (body : String) : Option (Option String × Rates) := do
  let fields ← replyMembers? (← document? body.toList)
  let result ← fields.getOptional? "result" Document.text?
  let rates ← match ← fields.find? "conversion_rates" with
    | some d => ratesOf? d
    | none => some []
  return (result, rates)

/-- The rates in the reply of a service. -/
def ratesOfReply (status : Nat) (body : String) : Except FetchFault Rates :=
  if 400 ≤ status then .error (.network s!"http status: {status}")
  else
    match readReply? body with
    | none => .error (.invalidResponse "malformed response")
    | some (result, rates) =>
      match result.filter (· != "success") with
      | some result => .error (.invalidResponse s!"result={result}")
      | none =>
        if rates.isEmpty then .error (.invalidResponse "no rates in response") else .ok rates

end Launcher.Currency
