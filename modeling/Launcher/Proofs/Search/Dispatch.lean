import Launcher.Proofs.Rates.Looks
import Launcher.Search.Run

namespace Launcher

/-!
# What comes of an interpreter

A query is classified, and the interpreter of what it means either answers at once or asks for
rates. From then on the desk of rates may change in any way before the query is looked at again. So
what an interpretation can come to is said here without any desk: it stems from the plan of the
intent.

* `Interpret.conversionPlan_cases` — the two readings of a conversion: between units, and else
  between currencies.
* `Intent.Fails`, `Intent.Fails.plan_eq` — an interpreter that meets an error answers with nothing.
* `Answer.ofRates_cases` — an exchange has a result or calls for a notice, but not both.
* `Interpretation.StemsFrom` — an interpretation follows a plan; `Interpretation.stemsFrom_begin`
  and `Interpretation.StemsFrom.again` say that interpretations follow the plan of their intent,
  whatever happens to the rates meanwhile.
* `Interpretation.begin_again` — a second look at the same moment finds nothing new.
* `Answer.IsFailure` — the answer is that of an interpreter with an error, or of rates that make no
  quote; such an answer has no results (`Interpretation.StemsFrom.hits_eq`), and every answer with a
  notice is one (`Interpretation.StemsFrom.isFailure`).
-/

/-! ### Plans -/

/-- The names of a conversion are both names of units. -/
def Conversion.IsMeasured (c : Conversion) : Prop :=
  (Measure.lookup? c.source).isSome = true ∧ (Measure.lookup? c.target).isSome = true

namespace Interpret

/-- **The two readings of a conversion.** Units come first; only what they do not know goes to the
currencies. -/
theorem conversionPlan_cases (c : Conversion) :
    (∃ m n, Measure.lookup? c.source = some m ∧ Measure.lookup? c.target = some n ∧
      conversionPlan c = .answered { hits := measureHits c.amount m n }) ∨
    (¬c.IsMeasured ∧
      ((∃ exchange, Currency.Exchange.ofNames c.amount c.source c.target = .ok exchange ∧
        conversionPlan c = .exchange exchange) ∨
      ∃ fault, Currency.Exchange.ofNames c.amount c.source c.target = .error fault ∧
        conversionPlan c = .answered {})) := by
  unfold conversionPlan
  split
  next m n hm hn => exact .inl ⟨m, n, hm, hn, rfl⟩
  next hnot =>
    refine .inr ⟨fun h => ?_, ?_⟩
    · obtain ⟨m, hm⟩ := Option.isSome_iff_exists.mp h.1
      obtain ⟨n, hn⟩ := Option.isSome_iff_exists.mp h.2
      exact hnot m n hm hn
    · split
      next exchange h => exact .inl ⟨exchange, h, rfl⟩
      next fault h => exact .inr ⟨fault, h, rfl⟩

end Interpret

/-- The interpreter of an intent meets an error. -/
inductive Intent.Fails (settings : Settings) : Intent → Prop
  | text {call : Tool.Call} {fault : Tool.Fault} (hweb : call.tool ≠ .webSearch)
      (hshell : call.tool ≠ .shell) (h : call.run = .error fault) : Fails settings (.tool call)
  | web {call : Tool.Call} (htool : call.tool = .webSearch)
      (h : settings.webSearchUrl? call.argument = none) : Fails settings (.tool call)
  | color {text : String} {fault : Color.Fault} (h : Color.parse text.toList = .error fault) :
      Fails settings (.color text)
  | measure {c : Conversion} {m n : Measure} {fault : Measure.Fault}
      (hsource : Measure.lookup? c.source = some m) (htarget : Measure.lookup? c.target = some n)
      (h : Measure.convert c.amount m n = .error fault) : Fails settings (.conversion c)
  | currency {c : Conversion} {fault : Currency.Fault} (hunits : ¬c.IsMeasured)
      (h : Currency.Exchange.ofNames c.amount c.source c.target = .error fault) :
      Fails settings (.conversion c)
  | arithmetic {text : String} {fault : Arith.Fault}
      (h : Arith.evaluate text.toList = .error fault) :
      Fails settings (.arithmetic text)

open Interpret in
/-- An interpreter that meets an error answers with nothing. -/
theorem Intent.Fails.plan_eq {settings : Settings} {intent : Intent} (h : intent.Fails settings) :
    intent.plan settings = .answered {} := by
  cases h with
  | @text call fault hweb hshell h =>
    have hhits : textToolHits settings call = [] := by rw [textToolHits, h]
    rw [plan]
    -- The error is that of a text tool, so the call is neither a search nor a command for the
    -- shell.
    unfold toolHits
    split
    next htool => exact absurd htool hweb
    next htool => exact absurd htool hshell
    next => rw [hhits]
  | web htool h => rw [plan, toolHits, htool, webHits, h]
  | color h => rw [plan, colorHits, h]
  | @measure c m n fault hsource htarget h =>
    have hhits : measureHits c.amount m n = [] := by rw [measureHits, h]
    rw [plan, conversionPlan, hsource, htarget]
    exact congrArg (fun hits => Plan.answered { hits := hits }) hhits
  | @currency c fault hunits h =>
    rcases conversionPlan_cases c with
      ⟨m, n, hsource, htarget, -⟩ | ⟨-, ⟨exchange, hok, -⟩ | ⟨fault', -, hplan⟩⟩
    · exact absurd ⟨by rw [hsource]; rfl, by rw [htarget]; rfl⟩ hunits
    · exact nomatch hok.symm.trans h
    · exact hplan
  | arithmetic h => rw [plan, arithmeticHits, h]

/-- A conversion that is answered at once calls for no notice. -/
theorem Interpret.notices_conversionPlan {c : Conversion} {answer : Answer}
    (h : conversionPlan c = .answered answer) : answer.notices = [] := by
  rcases conversionPlan_cases c with
    ⟨m, n, -, -, hplan⟩ | ⟨-, ⟨exchange, -, hplan⟩ | ⟨fault, -, hplan⟩⟩
  · obtain rfl := Plan.answered.inj (hplan.symm.trans h)
    rfl
  · exact nomatch hplan.symm.trans h
  · obtain rfl := Plan.answered.inj (hplan.symm.trans h)
    rfl

/-- What is answered without rates calls for no notice. -/
theorem Intent.notices_plan {settings : Settings} {intent : Intent} {answer : Answer}
    (h : intent.plan settings = .answered answer) : answer.notices = [] := by
  unfold plan at h
  cases intent with
  | conversion c => exact Interpret.notices_conversionPlan h
  | tool | color | arithmetic | freeText =>
    obtain rfl := Plan.answered.inj h
    rfl

/-- **An exchange has a result or calls for a notice**, as there is a quote for it or not. -/
theorem Answer.ofRates_cases (exchange : Currency.Exchange)
    (rates : Except Currency.Fault Currency.Snapshot) :
    (∃ quote, rates.bind exchange.quote = .ok quote ∧ ofRates exchange rates = ⟨[quote.hit], []⟩) ∨
    ∃ fault, rates.bind exchange.quote = .error fault ∧
      ofRates exchange rates = ⟨[], fault.notice?.toList⟩ := by
  unfold ofRates
  cases rates.bind exchange.quote with
  | ok quote => exact .inl ⟨quote, rfl, rfl⟩
  | error fault => exact .inr ⟨fault, rfl, rfl⟩

/-! ### Interpretations -/

namespace Interpretation

/-- The interpretation is what a plan says, or what has come of the exchange that it names. -/
inductive StemsFrom : Plan → Interpretation → Prop
  | answered (answer : Answer) : StemsFrom (.answered answer) (answered answer)
  | waiting (exchange : Currency.Exchange) (generation : Nat) :
      StemsFrom (.exchange exchange) (waiting exchange generation)
  | broken (exchange : Currency.Exchange) : StemsFrom (.exchange exchange) broken
  | ended (exchange : Currency.Exchange) (rates : Except Currency.Fault Currency.Snapshot) :
      StemsFrom (.exchange exchange) (Interpretation.answered (.ofRates exchange rates))

/-- Whatever a request for rates comes to is something that an exchange can come to. -/
theorem stemsFrom_ofProgress (exchange : Currency.Exchange) (progress : Currency.Progress) :
    StemsFrom (.exchange exchange) (ofProgress exchange progress) := by
  unfold ofProgress
  split
  next => exact .waiting exchange _
  next => exact .broken exchange
  next => exact .ended exchange _

/-- An interpretation begins with what the plan of its intent says. -/
theorem stemsFrom_begin (settings : Settings) (desk : Currency.Desk) (now : Nat) (query : String) :
    StemsFrom ((Intent.classify query.toList).plan settings) (begin settings desk now query).1 := by
  unfold begin
  split
  next answer hplan =>
    rw [hplan]
    exact .answered answer
  next exchange hplan =>
    rw [hplan]
    rcases desk.look (.ofSettings settings) now with ⟨progress, desk'⟩
    exact stemsFrom_ofProgress exchange progress

/-- A further look stays with the plan, whatever the desk is by then. -/
theorem StemsFrom.again {plan : Plan} {i : Interpretation} (h : StemsFrom plan i)
    (settings : Settings) (desk : Currency.Desk) (now : Nat) :
    StemsFrom plan (i.again settings desk now).1 := by
  cases h with
  | waiting exchange generation => exact stemsFrom_ofProgress exchange _
  | answered answer => exact .answered answer
  | broken exchange => exact .broken exchange
  | ended exchange rates => exact .ended exchange rates

/-! ### A second look -/

/-- If a request still waits when it is looked at again, so does its interpretation; one that has
ended is not looked at. -/
theorem ofProgress_again {settings : Settings} {desk : Currency.Desk} {now : Nat}
    {progress : Currency.Progress}
    (h : ∀ generation, progress = .waiting generation →
      desk.poll (.ofSettings settings) generation now = (.waiting generation, desk))
    (exchange : Currency.Exchange) :
    (ofProgress exchange progress).again settings desk now =
      (ofProgress exchange progress, desk) := by
  unfold ofProgress
  split
  next generation =>
    rw [again, h generation rfl]
    rfl
  next => rfl
  next => rfl

/-- A second look at the same moment finds nothing new. -/
theorem begin_again (settings : Settings) (desk : Currency.Desk) (now : Nat) (query : String) :
    (begin settings desk now query).1.again settings (begin settings desk now query).2 now =
      begin settings desk now query := by
  unfold begin
  split
  next => rfl
  next exchange _ =>
    rcases hlook : desk.look (.ofSettings settings) now with ⟨progress, desk'⟩
    refine ofProgress_again (fun generation hwaiting => ?_) exchange
    rw [hwaiting] at hlook
    exact Currency.Desk.look_again hlook

end Interpretation

/-! ### Failures -/

/-- The answer to an intent is that of an interpreter with an error, or of rates that make no
quote. -/
inductive Answer.IsFailure (settings : Settings) (intent : Intent) : Answer → Prop
  | interpreter (answer : Answer) (h : intent.Fails settings) : IsFailure settings intent answer
  | rates {exchange : Currency.Exchange} {rates : Except Currency.Fault Currency.Snapshot}
      {fault : Currency.Fault} (h : rates.bind exchange.quote = .error fault) :
      IsFailure settings intent (.ofRates exchange rates)

namespace Interpretation.StemsFrom

variable {settings : Settings} {intent : Intent} {answer : Answer}

/-- What is answered without rates is what the plan says. -/
theorem answer_eq {planned : Answer} (h : StemsFrom (.answered planned) (.answered answer)) :
    answer = planned := by
  cases h
  rfl

/-- A failure has no results. -/
theorem hits_eq (h : StemsFrom (intent.plan settings) (.answered answer))
    (hfails : answer.IsFailure settings intent) : answer.hits = [] := by
  cases hfails with
  | interpreter _ hfails =>
    rw [hfails.plan_eq] at h
    rw [h.answer_eq]
  | @rates exchange rates fault hfault =>
    rcases Answer.ofRates_cases exchange rates with ⟨quote, hquote, -⟩ | ⟨fault', -, hanswer⟩
    · exact nomatch hquote.symm.trans hfault
    · rw [hanswer]

/-- An answer with a notice is a failure of the rates. -/
theorem isFailure (h : StemsFrom (intent.plan settings) (.answered answer))
    (hnotices : answer.notices ≠ []) : answer.IsFailure settings intent := by
  generalize hplan : intent.plan settings = plan at h
  cases h with
  | answered => exact absurd (Intent.notices_plan hplan) hnotices
  | ended exchange rates =>
    rcases Answer.ofRates_cases exchange rates with ⟨quote, -, hanswer⟩ | ⟨fault, hfault, -⟩
    · rw [hanswer] at hnotices
      exact absurd rfl hnotices
    · exact .rates hfault

end Interpretation.StemsFrom

end Launcher
