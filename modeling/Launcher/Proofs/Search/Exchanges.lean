import Launcher.Proofs.Intent.Phrases
import Launcher.Proofs.Search.Dispatch

namespace Launcher

/-!
# Only exchanges have to do with rates

Rates cost a request to somebody else and a key to make it with. A user who asks for something else
should never cause one, nor see a notice about rates that could not be had.

* `Conversion.IsExchange` — both names are names of currencies, and not both are names of units.
* `Intent.exists_of_plan_exchange` — an intent that needs rates is such a conversion.
* `Interpretation.Reached` — an interpretation that a query can come to, whatever happens to the
  rates meanwhile.
* `Interpretation.InvolvesRates` — interpreting a query changes what is known about rates, or calls
  for a notice.
* `Interpretation.IsSettled` — without a key every interpretation has its answer from the beginning.
* `Interpretation.only_exchanges_involve_rates` — this happens for exchanges only, and without a key
  nothing is changed.
-/

/-- Both names are names of currencies, and not both are names of units. -/
structure Conversion.IsExchange (c : Conversion) : Prop where
  source : (Currency.lookup? c.source).isSome = true
  target : (Currency.lookup? c.target).isSome = true
  not_measured : ¬c.IsMeasured

/-- An exchange is made of two names of currencies. -/
theorem Currency.Exchange.isSome_of_ofNames {amount : Float} {source target : String}
    {exchange : Exchange} (h : ofNames amount source target = .ok exchange) :
    (Currency.lookup? source).isSome = true ∧ (Currency.lookup? target).isSome = true := by
  unfold ofNames at h
  split at h
  next => exact nomatch h
  next => exact nomatch h
  next m n hm hn =>
    rw [hm, hn]
    exact ⟨rfl, rfl⟩

/-- **An intent that needs rates** is a conversion between two currencies. -/
theorem Intent.exists_of_plan_exchange {settings : Settings} {intent : Intent}
    {exchange : Currency.Exchange} (h : intent.plan settings = .exchange exchange) :
    ∃ c, intent = .conversion c ∧ c.IsExchange := by
  unfold plan at h
  cases intent with
  | conversion c =>
    rcases Interpret.conversionPlan_cases c with
      ⟨m, n, -, -, hplan⟩ | ⟨hunits, ⟨exchange', hnames, -⟩ | ⟨fault, -, hplan⟩⟩
    · exact nomatch hplan.symm.trans h
    · obtain ⟨hsource, htarget⟩ := Currency.Exchange.isSome_of_ofNames hnames
      exact ⟨c, rfl, hsource, htarget, hunits⟩
    · exact nomatch hplan.symm.trans h
  | tool | color | arithmetic | freeText => exact nomatch h

namespace Interpretation

variable {settings : Settings} {query : String} {i : Interpretation}

/-- What a query can come to: its interpretation begins at some moment, and is looked at again at
any others; what is known about rates may be anything each time. -/
inductive Reached (settings : Settings) (query : String) : Interpretation → Prop
  | begun (desk : Currency.Desk) (now : Nat) :
      Reached settings query (begin settings desk now query).1
  | again {i : Interpretation} (h : Reached settings query i) (desk : Currency.Desk) (now : Nat) :
      Reached settings query (i.again settings desk now).1

/-- Interpreting a query changes what is known about rates, or calls for a notice. -/
inductive InvolvesRates (settings : Settings) (query : String) : Prop
  | begun (desk : Currency.Desk) (now : Nat) (h : (begin settings desk now query).2 ≠ desk)
  | again {i : Interpretation} (hi : Reached settings query i) (desk : Currency.Desk) (now : Nat)
      (h : (i.again settings desk now).2 ≠ desk)
  | notice {answer : Answer} (hanswer : Reached settings query (answered answer))
      (h : answer.notices ≠ [])

/-- What a query comes to stems from what it means. -/
theorem Reached.stemsFrom (h : Reached settings query i) :
    StemsFrom ((Intent.classify query.toList).plan settings) i := by
  induction h with
  | begun desk now => exact stemsFrom_begin settings desk now query
  | again _ desk now ih => exact ih.again settings desk now

/-- What involves rates is an exchange. -/
theorem InvolvesRates.exists_exchange (h : InvolvesRates settings query) :
    ∃ exchange, (Intent.classify query.toList).plan settings = .exchange exchange := by
  cases h with
  | begun desk now h =>
    unfold begin at h
    split at h
    next => exact absurd rfl h
    next exchange hplan => exact ⟨exchange, hplan⟩
  | again hi desk now h =>
    -- Only an interpretation that waits asks for rates again.
    have hstems := hi.stemsFrom
    generalize (Intent.classify query.toList).plan settings = plan at hstems
    cases hstems with
    | waiting exchange generation => exact ⟨exchange, rfl⟩
    | answered answer => exact absurd rfl h
    | broken exchange => exact absurd rfl h
    | ended exchange rates => exact absurd rfl h
  | notice hanswer h =>
    have hstems := hanswer.stemsFrom
    generalize hplan : (Intent.classify query.toList).plan settings = plan at hstems
    cases hstems with
    | answered => exact absurd (Intent.notices_plan hplan) h
    | ended exchange rates => exact ⟨exchange, rfl⟩

/-! ### Without a key -/

/-- The interpretation waits for nothing. -/
def IsSettled : Interpretation → Prop
  | waiting _ _ => False
  | answered _ | broken => True

/-- A further look at an answer changes nothing, neither the answer nor the desk. -/
theorem IsSettled.again_eq (h : i.IsSettled) (settings : Settings) (desk : Currency.Desk)
    (now : Nat) :
    i.again settings desk now = (i, desk) := by
  cases i with
  | waiting => exact h.elim
  | answered | broken => rfl

/-- Without a key an interpretation begins with its answer, and changes nothing. -/
theorem begin_without_key (hkey : Text.trimmed settings.currencyApiKey = "") (desk : Currency.Desk)
    (now : Nat) (query : String) :
    (begin settings desk now query).1.IsSettled ∧ (begin settings desk now query).2 = desk := by
  have hempty : (Currency.RateSettings.ofSettings settings).apiKey.isEmpty = true := by
    rw [Currency.RateSettings.ofSettings, hkey]
    rfl
  unfold begin
  split
  next => exact ⟨trivial, rfl⟩
  next exchange _ =>
    rw [Currency.Desk.look_without_key hempty]
    exact ⟨trivial, rfl⟩

/-- Without a key nothing that a query comes to waits. -/
theorem Reached.isSettled (hkey : Text.trimmed settings.currencyApiKey = "")
    (h : Reached settings query i) : i.IsSettled := by
  induction h with
  | begun desk now => exact (begin_without_key hkey desk now query).1
  | again _ desk now ih =>
    rw [ih.again_eq]
    exact ih

/-! ### Main theorem -/

/-- **Only exchanges have to do with rates.** Interpreting a query changes what is known about
rates, or calls for a notice, only if the query means a conversion between two currencies that are
not both units. Without a key it changes nothing. No answer has both results and notices. -/
theorem only_exchanges_involve_rates (settings : Settings) (query : String) :
    (InvolvesRates settings query →
      ∃ c, Intent.classify query.toList = .conversion c ∧ c.IsExchange) ∧
    (Text.trimmed settings.currencyApiKey = "" →
      (∀ desk now, (begin settings desk now query).2 = desk) ∧
        ∀ i, Reached settings query i → ∀ desk now, (i.again settings desk now).2 = desk) ∧
    ∀ answer, Reached settings query (answered answer) →
      answer.hits = [] ∨ answer.notices = [] := by
  refine
    ⟨fun h => ?_, fun hkey => ⟨fun desk now => ?_, fun i hi desk now => ?_⟩, fun answer h => ?_⟩
  · obtain ⟨exchange, hplan⟩ := h.exists_exchange
    exact Intent.exists_of_plan_exchange hplan
  · exact (begin_without_key hkey desk now query).2
  · rw [(hi.isSettled hkey).again_eq]
  · have hstems := h.stemsFrom
    generalize hplan : (Intent.classify query.toList).plan settings = plan at hstems
    cases hstems with
    | answered => exact .inr (Intent.notices_plan hplan)
    | ended exchange rates =>
      rcases Answer.ofRates_cases exchange rates with ⟨quote, -, hanswer⟩ | ⟨fault, -, hanswer⟩
      · exact .inr (by rw [hanswer])
      · exact .inl (by rw [hanswer])

/-- Dollars to euros start a fetch, if there is a key for it; without one there is a notice. -/
theorem only_exchanges_involve_rates_dollars :
    let keyed : Settings := { Settings.defaults {} with currencyApiKey := " key " }
    let unkeyed : Settings := { Settings.defaults {} with currencyApiKey := "  " }
    let desk : Currency.Desk := { script := ⟨[]⟩ }
    let query := "10 usd to eur"
    (begin keyed desk 0 query).2 ≠ desk ∧
      (∃ c, Intent.classify query.toList = .conversion c ∧ c.IsExchange) ∧
      (begin unkeyed desk 0 query).2 = desk ∧
      ∃ answer, Reached unkeyed query (answered answer) ∧
        (answer.hits = [] ∨ answer.notices = []) ∧ answer.notices ≠ [] := by
  intro keyed unkeyed desk query
  have hnames : (Conversion.parse? query.toList).map (fun c => (c.source, c.target)) =
      some ("usd", "eur") := by decide +kernel
  have hunit : (Measure.lookup? "usd").isNone = true := by decide +kernel
  have hcurrencies : (Currency.lookup? "usd").isSome = true ∧
      (Currency.lookup? "eur").isSome = true := by decide +kernel
  obtain ⟨c, hparse, hc⟩ := Option.map_eq_some_iff.mp hnames
  obtain ⟨hsource, htarget⟩ : c.source = "usd" ∧ c.target = "eur" := Prod.mk.inj hc
  obtain ⟨m, hm⟩ := Option.isSome_iff_exists.mp hcurrencies.1
  obtain ⟨n, hn⟩ := Option.isSome_iff_exists.mp hcurrencies.2
  have hplan (settings : Settings) :
      (Intent.classify query.toList).plan settings = .exchange ⟨c.amount, m, n⟩ := by
    rw [Intent.classify_of_conversion hparse, Intent.plan, Interpret.conversionPlan, hsource,
      htarget, Option.isNone_iff_eq_none.mp hunit, Currency.Exchange.ofNames, hm, hn]
  have hkeyed : (begin keyed desk 0 query).2 ≠ desk := by
    have hlog : (desk.look (.ofSettings keyed) 0).2.log = ["USD"] := by decide +kernel
    rw [begin, hplan]
    rcases hlook : desk.look (.ofSettings keyed) 0 with ⟨progress, desk'⟩
    rw [hlook] at hlog
    rintro rfl
    exact absurd hlog (List.cons_ne_nil "USD" []).symm
  have hunkeyed : (begin unkeyed desk 0 query).1 =
      answered ⟨[], [.ratesNotConfigured]⟩ := by
    have hempty : (Currency.RateSettings.ofSettings unkeyed).apiKey.isEmpty = true := by
      decide +kernel
    rw [begin, hplan]
    dsimp only
    rw [Currency.Desk.look_without_key hempty]
    rfl
  obtain ⟨hinvolves, -, -⟩ := only_exchanges_involve_rates keyed query
  obtain ⟨-, hblank, hanswers⟩ := only_exchanges_involve_rates unkeyed query
  have hreached : Reached unkeyed query (answered ⟨[], [.ratesNotConfigured]⟩) :=
    hunkeyed ▸ .begun desk 0
  exact ⟨hkeyed, hinvolves (.begun desk 0 hkeyed), (hblank (by decide +kernel)).1 desk 0,
    _, hreached, hanswers _ hreached, by simp⟩

end Interpretation

end Launcher
