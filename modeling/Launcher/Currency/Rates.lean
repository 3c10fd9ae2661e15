import Launcher.Currency.Amount
import Launcher.Settings.Basic

namespace Launcher.Currency

/-!
# Exchange rates

* `Snapshot` — the rates of one base currency, as they were fetched at some time.
* `RateSettings` — key, base and life times under which rates are asked for.
* `RateState.enter` — the beginning of a request: it is refused, answered from the cache, or has to
  wait for a fetch, of which there is one for each base at most.
* `RateState.leave` — the end of a request that waited: the first to learn how its fetch ended
  writes the cache, unless the fetch was superseded.

Times are milliseconds of one clock; life times are whole seconds.
-/

/-- Why rates could not be fetched. -/
inductive FetchFault where
  | network (reason : String)
  | invalidResponse (reason : String)
deriving Repr, DecidableEq

/-- The wording of a fault of a fetch. -/
def FetchFault.message : FetchFault → String
  | .network reason => s!"rate request failed: {reason}"
  | .invalidResponse reason => s!"rate response was invalid: {reason}"

/-- Why an amount could not be converted. -/
inductive Fault where
  | notConfigured
  | unknownCurrency (name : String)
  | missingRate (code : String)
  | unavailable (cause : FetchFault)
  /-- The life times add up to more seconds than sixty-four bits can hold. -/
  | graceOverflow
deriving Repr, DecidableEq

/-- The wording of a fault. -/
def Fault.message : Fault → String
  | .notConfigured => "currency API key is not configured"
  | .unknownCurrency name => s!"unknown currency '{name}'"
  | .missingRate code => s!"no exchange rate for {code}"
  | .unavailable cause => s!"exchange rates unavailable: {cause.message}"
  | .graceOverflow => "overflow when adding durations"

/-! ### Snapshots -/

/-- Rates by currency code. -/
abbrev Rates : Type := List (String × Float)

/-- The rates of one base currency, as they were fetched at some time. -/
structure Snapshot where
  base : String
  /-- In the order of codes, each once. -/
  rates : Rates
  fetchedAt : Nat
  ttl : UInt64
deriving Repr

/-- Puts the rate of a code where it belongs in the order of codes; a rate with that code is
replaced. -/
def insertRate (code : String) (rate : Float) : Rates → Rates
  | [] => [(code, rate)]
  | (c, r) :: rest =>
    if code < c then (code, rate) :: (c, r) :: rest
    else if code = c then (code, rate) :: rest
    else (c, r) :: insertRate code rate rest

/-- The rates under upper-case codes, in order; of rates with one code the last. -/
def sortRates (rates : Rates) : Rates :=
  rates.foldl (fun sorted (code, rate) => insertRate (Text.uppered code) rate sorted) []

namespace Snapshot

/-- The age of a snapshot. -/
def age (s : Snapshot) (now : Nat) : Nat :=
  now - s.fetchedAt

/-- A snapshot is stale when it is older than its life time. -/
def isStale (s : Snapshot) (now : Nat) : Bool :=
  s.ttl.toNat * 1000 < s.age now

/-- A snapshot may still stand in for a failed fetch while its age is within its life time and a
time of grace; no answer if these times do not add up to a duration. -/
def withinGrace? (s : Snapshot) (now : Nat) (grace : UInt64) : Option Bool :=
  let seconds := s.ttl.toNat + grace.toNat
  if seconds < UInt64.size then some (s.age now ≤ seconds * 1000) else none

/-- The rate of a code against the base. -/
def rate? (s : Snapshot) (code : String) : Option Float :=
  if Text.equalIgnoringCase code s.base then some 1.0
  else (s.rates.find? (·.1 == Text.uppered code)).map (·.2)

end Snapshot

/-- Key, base and life times under which rates are asked for. -/
structure RateSettings where
  apiKey : String
  base : String
  ttl : UInt64
  grace : UInt64
deriving Repr, DecidableEq

/-- The rate settings of a configuration. -/
def RateSettings.ofSettings (s : Settings) : RateSettings where
  apiKey := Text.trimmed s.currencyApiKey
  base := Text.uppered (Text.trimmed s.currencyBase)
  ttl := s.rateTtlSecs
  grace := s.rateGraceSecs

/-! ### Requests -/

/-- A fetch that requests wait for, by its generation. -/
structure InFlight where
  generation : Nat
  base : String
deriving Repr, DecidableEq

/-- What is known about rates: the last snapshot, the fetch that requests wait for, and the
generation of the last fetch. -/
structure RateState where
  cache : Option Snapshot := none
  inFlight : Option InFlight := none
  generation : Nat := 0
deriving Repr

/-- How a request begins. -/
inductive Entry where
  | refused
  | ready (snapshot : Snapshot)
  /-- Waits for a fetch that is under way. -/
  | join (generation : Nat)
  /-- Waits for a fetch that starts now. -/
  | start (generation : Nat)
deriving Repr

namespace RateState

/-- The snapshot that answers a request at once: one of its base that is not stale. -/
def fresh? (st : RateState) (s : RateSettings) (now : Nat) : Option Snapshot :=
  st.cache.filter fun c => c.base == s.base && !c.isStale now

/-- The beginning of a request. -/
def enter (st : RateState) (s : RateSettings) (now : Nat) : Entry × RateState :=
  if s.apiKey.isEmpty then (.refused, st)
  else
    match st.fresh? s now, st.inFlight.filter (·.base == s.base) with
    | some snapshot, _ => (.ready snapshot, st)
    | none, some fetch => (.join fetch.generation, st)
    | none, none =>
      let generation := st.generation + 1
      (.start generation, { st with inFlight := some ⟨generation, s.base⟩, generation })

/-- The fetch that requests wait for is of the given generation. -/
def owns (st : RateState) (generation : Nat) : Bool :=
  st.inFlight.any (·.generation == generation)

/-- The snapshot that stands in for a failed fetch. -/
def fallback (st : RateState) (s : RateSettings) (cause : FetchFault) (now : Nat) :
    Except Fault Snapshot :=
  match st.cache.filter (·.base == s.base) with
  | none => .error (.unavailable cause)
  | some snapshot =>
    match snapshot.withinGrace? now s.grace with
    | none => .error .graceOverflow
    | some true => .ok snapshot
    | some false => .error (.unavailable cause)

/-- The end of a request that waited for the fetch of a generation. -/
def leave (st : RateState) (s : RateSettings) (generation : Nat)
    (outcome : Except FetchFault Snapshot) (now : Nat) : Except Fault Snapshot × RateState :=
  let owner := st.owns generation
  let st := if owner then { st with inFlight := none } else st
  match outcome with
  | .ok snapshot => (.ok snapshot, if owner then { st with cache := some snapshot } else st)
  | .error cause => (st.fallback s cause now, st)

end RateState

/-! ### Conversions -/

/-- An amount to be taken from one currency to another. -/
structure Exchange where
  amount : Float
  source : Currency
  target : Currency
deriving Repr

/-- A converted amount. -/
structure Quote where
  exchange : Exchange
  rate : Float
  value : Float
deriving Repr

/-- An amount between two named currencies. -/
def Exchange.ofNames (amount : Float) (source target : String) : Except Fault Exchange :=
  match lookup? source, lookup? target with
  | none, _ => .error (.unknownCurrency source)
  | some _, none => .error (.unknownCurrency target)
  | some m, some n => .ok ⟨amount, m, n⟩

/-- Converts an amount with the rates of a snapshot. -/
def Exchange.quote (e : Exchange) (s : Snapshot) : Except Fault Quote :=
  match s.rate? e.source.code, s.rate? e.target.code with
  | none, _ => .error (.missingRate e.source.code)
  | some _, none => .error (.missingRate e.target.code)
  | some m, some n =>
    if m == 0.0 then .error (.missingRate e.source.code)
    else
      let rate := n / m
      .ok ⟨e, rate, rate * e.amount⟩

/-- The converted amount as text. -/
def Quote.text (q : Quote) : String :=
  formatAmount q.value q.exchange.target.code

end Launcher.Currency
