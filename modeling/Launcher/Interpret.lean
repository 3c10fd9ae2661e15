import Launcher.Arith.Display
import Launcher.Arith.Parser
import Launcher.Currency.Rates
import Launcher.Hit
import Launcher.Intent
import Launcher.Measure.Table

namespace Launcher

/-!
# Answers of the interpreters

* `Answer` — results and notices.
* `Plan` — an answer, or a conversion that needs exchange rates first.
* `Intent.plan` — what the interpreter of a query makes of it.
* `Answer.ofRates` — the answer to a conversion once its request for rates has ended.

An interpreter that fails answers with nothing.
-/

/-- Results and notices. -/
structure Answer where
  hits : List Hit := []
  notices : List Notice := []
deriving Repr

/-- An answer, or a conversion that needs exchange rates first. -/
inductive Plan where
  | answered (answer : Answer)
  | exchange (exchange : Currency.Exchange)
deriving Repr

namespace Interpret

/-- A result of an interpreter, which has the highest score. -/
def hit (title subtitle group : String) (kind : HitKind) (action : Action) : Hit :=
  { title, subtitle, group, kind, action, score := 1.0 }

/-- The number of characters of a tool's output that are shown. -/
def previewLength : Nat := 96

/-- The beginning of a text, its words with single spaces between them. -/
def preview (text : String) : String :=
  String.ofList ((Text.joinWith [' '] (Text.words text.toList)).take previewLength)

/-- A long text offered as a QR code. -/
def qrHit? (settings : Settings) (text source : String) : Option Hit :=
  let threshold := settings.qrThreshold.toNat
  if threshold = 0 || text.length < threshold then none
  else some (hit "Show as QR code" source "Text Tools" .textTool (.showQr text))

/-! ### Tools -/

/-- The results of a tool that makes a text of its argument. -/
def textToolHits (settings : Settings) (call : Tool.Call) : List Hit :=
  match call.run with
  | .ok output =>
    hit (preview output) call.tool.label "Text Tools" .textTool (.copyText output) ::
      (qrHit? settings output call.tool.label).toList
  | .error _ => []

/-- The result of a web search. -/
def webHits (settings : Settings) (argument : String) : List Hit :=
  match settings.webSearchUrl? argument with
  | some url =>
    [hit ("Search the web for \"" ++ argument ++ "\"") url "Web" .builtInCommand (.openUrl url)]
  | none => []

/-- The results of a tool. -/
def toolHits (settings : Settings) (call : Tool.Call) : List Hit :=
  match call.tool with
  | .webSearch => webHits settings call.argument
  | .shell =>
    [hit ("Run " ++ call.argument) "Shell command" "Shell" .builtInCommand
      (.runShell call.argument)]
  | _ => textToolHits settings call

/-! ### Colors, numbers and units -/

/-- A color in each of its notations. -/
def colorHits (text : String) : List Hit :=
  match Color.parse text.toList with
  | .ok c =>
    let hsl : Color.Hsl Float := c.toHsl
    [(c.hex, "HEX"), (c.text, "RGB"), (hsl.text, "HSL")].map fun (shown, label) =>
      hit shown label "Color" .colorConversion (.copyText shown)
  | .error _ => []

/-- The value of an expression. -/
def arithmeticHits (text : String) : List Hit :=
  match Arith.evaluate text.toList with
  | .ok x =>
    let shown := Arith.displayed x
    [hit shown text "Calculator" .calculator (.copyText shown)]
  | .error _ => []

/-- An amount in another unit. -/
def measureHits (amount : Float) (source target : Measure) : List Hit :=
  match Measure.convert amount source target with
  | .ok x =>
    let shown := Arith.displayed x
    let subtitle := s!"{Arith.displayed amount} {source.symbol} to {target.symbol}"
    [hit (shown ++ " " ++ target.symbol) subtitle "Conversion" .unitConversion (.copyText shown)]
  | .error _ => []

/-- A conversion between units, or else between currencies. -/
def conversionPlan (c : Conversion) : Plan :=
  match Measure.lookup? c.source, Measure.lookup? c.target with
  | some m, some n => .answered { hits := measureHits c.amount m n }
  | _, _ =>
    match Currency.Exchange.ofNames c.amount c.source c.target with
    | .ok exchange => .exchange exchange
    | .error _ => .answered {}

end Interpret

open Interpret in
/-- What the interpreter of a query makes of it. -/
def Intent.plan (settings : Settings) : Intent → Plan
  | .tool call => .answered { hits := toolHits settings call }
  | .color text => .answered { hits := colorHits text }
  | .conversion c => conversionPlan c
  | .arithmetic text => .answered { hits := arithmeticHits text }
  | .freeText text => .answered { hits := (qrHit? settings text "Query text").toList }

/-! ### Currencies -/

/-- The result for a converted amount of money. -/
def Currency.Quote.hit (q : Currency.Quote) : Hit :=
  let shown := q.text
  let amount := Arith.displayed q.exchange.amount
  let rate := String.ofList (Decimal.fixed 4 q.rate)
  let subtitle := s!"{amount} {q.exchange.source.code} to {q.exchange.target.code} at {rate}"
  Interpret.hit shown subtitle "Currency" .currencyConversion (.copyText shown)

/-- The notice that a fault calls for. -/
def Currency.Fault.notice? : Currency.Fault → Option Notice
  | .notConfigured => some .ratesNotConfigured
  | .unavailable cause => some (.ratesUnavailable cause.message)
  | _ => none

/-- The answer to a conversion once its request for rates has ended. -/
def Answer.ofRates (exchange : Currency.Exchange)
    (rates : Except Currency.Fault Currency.Snapshot) : Answer :=
  match rates.bind exchange.quote with
  | .ok quote => { hits := [quote.hit] }
  | .error fault => { notices := fault.notice?.toList }

end Launcher
