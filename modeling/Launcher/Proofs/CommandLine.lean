import Launcher.CommandLine

namespace Launcher.Options

/-!
# Command lines are read segment by segment

A command line gives values to two options. A value stands in the argument after the option, or in
the same one behind an equals sign. What is read is described by the other direction: a list of
segments is written out as arguments, and reading is undone by that. Where the arguments are no
segments, they have a longest beginning that is, and what follows it determines the fault.

* `Segment` — an option with its value, in two arguments or joined to one.
* `given` — the options after some segments: the last value of each counts.
* `Stuck` — arguments that begin with no segment, and the fault that is told then.
* `parseFrom_segments` — segments are read one after the other, whatever follows them.
* `exists_segments` — any arguments are some segments, with nothing behind them or something stuck.
* `parse_by_segments` — reading succeeds exactly for segments, and fails exactly where it is stuck.

Both directions of the equivalences come from `exists_segments`: the arguments are split, and only
one of the two endings fits what was read.
-/

/-- What an option is for. -/
inductive Flag where
  | config
  | query
deriving Repr, DecidableEq

/-- The argument that announces an option. -/
def Flag.text : Flag → String
  | .config => "--config"
  | .query => "--query"

/-- The fault of an option without a value. -/
def Flag.fault : Flag → UsageFault
  | .config => .noPath
  | .query => .noQuery

/-- The options with one of them set. -/
def Flag.set (flag : Flag) (value : String) (o : Options) : Options :=
  match flag with
  | .config => { o with settingsPath := some value }
  | .query => { o with query := some value }

/-- An option and its value, joined to one argument or not. -/
structure Segment where
  flag : Flag
  value : String
  isJoined : Bool
deriving Repr, DecidableEq

/-- The arguments of a segment. -/
def Segment.arguments (g : Segment) : List String :=
  if g.isJoined then [g.flag.text ++ "=" ++ g.value] else [g.flag.text, g.value]

/-- The last value that some segments give to an option. -/
def last? (flag : Flag) (segments : List Segment) : Option String :=
  ((segments.filter (·.flag = flag)).getLast?).map (·.value)

/-- The options after some segments. -/
def given (o : Options) (segments : List Segment) : Options where
  settingsPath := (last? .config segments).or o.settingsPath
  query := (last? .query segments).or o.query

/-- Arguments begin with no segment: an option comes last and has no value, or an argument is none
that announces or holds an option. -/
inductive Stuck : List String → UsageFault → Prop
  | valueless (flag : Flag) : Stuck [flag.text] flag.fault
  | unknown {argument : String} (rest : List String) (hbare : ∀ flag, argument ≠ Flag.text flag)
      (hjoined : ∀ flag value, argument ≠ Flag.text flag ++ "=" ++ value) :
      Stuck (argument :: rest) (.unknown argument)

variable {o : Options}

/-! ### Last values -/

/-- The first segment counts if no later one gives a value to its option. -/
theorem last?_cons (flag : Flag) (g : Segment) (segments : List Segment) :
    last? flag (g :: segments) =
      (last? flag segments).or (if g.flag = flag then some g.value else none) := by
  unfold last?
  rw [List.filter_cons]
  by_cases h : g.flag = flag
  · rw [if_pos (by simpa using h), if_pos h, List.getLast?_cons]
    cases (segments.filter (·.flag = flag)).getLast? <;> rfl
  · rw [if_neg (by simpa using h), if_neg h, Option.or_none]

/-- Segments are taken in from the first on. -/
theorem given_cons (g : Segment) (segments : List Segment) :
    given o (g :: segments) = given (g.flag.set g.value o) segments := by
  unfold given Flag.set
  rw [last?_cons .config, last?_cons .query]
  cases g.flag <;> simp

/-- How a segment is spelled does not matter for what it gives. -/
theorem given_respelled (isJoined : Segment → Bool) (segments : List Segment) :
    given o (segments.map fun g => { g with isJoined := isJoined g }) = given o segments := by
  induction segments generalizing o with
  | nil => rfl
  | cons g segments ih =>
    rw [List.map_cons, given_cons, ih, given_cons g]

/-! ### Single segments -/

/-- A value is what stands behind the beginning of an argument. -/
theorem valueAfter?_eq_some_iff {start argument value : String} :
    valueAfter? start argument = some value ↔ argument = start ++ value := by
  rw [valueAfter?, Option.map_eq_some_iff, ← String.toList_inj, String.toList_append]
  simp only [Text.stripStart?_eq_some_iff]
  constructor
  · rintro ⟨rest, h, rfl⟩
    rw [h, String.toList_ofList]
  · intro h
    exact ⟨value.toList, h, String.ofList_toList⟩

/-- An option takes the next argument as its value. -/
theorem parseFrom_apart (flag : Flag) (value : String) (rest : List String) :
    parseFrom o (flag.text :: value :: rest) = parseFrom (flag.set value o) rest := by
  cases flag with
  | config => rw [Flag.text, parseFrom, if_pos rfl, Flag.set]
  | query => rw [Flag.text, parseFrom, if_neg (by decide), if_pos rfl, Flag.set]

/-- An option that comes last has no value. -/
theorem parseFrom_valueless (flag : Flag) : parseFrom o [flag.text] = .error flag.fault := by
  cases flag with
  | config => rw [Flag.text, parseFrom, if_pos rfl, Flag.fault]
  | query => rw [Flag.text, parseFrom, if_neg (by decide), if_pos rfl, Flag.fault]

/-- An argument that announces no option has to hold one. -/
theorem parseFrom_bare {argument : String} (h : ∀ flag, argument ≠ Flag.text flag)
    (rest : List String) : parseFrom o (argument :: rest) =
      (parseJoined argument o).bind fun o => parseFrom o rest := by
  have hconfig : argument ≠ "--config" := h .config
  have hquery : argument ≠ "--query" := h .query
  rw [parseFrom.eq_def]
  dsimp only
  rw [if_neg hconfig, if_neg hquery]
  cases parseJoined argument o <;> rfl

/-- An argument that holds a value does not only announce the option. -/
theorem joined_ne_text (flag flag' : Flag) (value : String) :
    flag.text ++ "=" ++ value ≠ flag'.text := by
  intro h
  rw [← String.toList_inj] at h
  cases flag <;> cases flag' <;> simp [Flag.text] at h

/-- A joined argument gives its value to its option. -/
theorem parseJoined_joined (flag : Flag) (value : String) :
    parseJoined (flag.text ++ "=" ++ value) o = .ok (flag.set value o) := by
  have hself : valueAfter? (flag.text ++ "=") (flag.text ++ "=" ++ value) = some value :=
    valueAfter?_eq_some_iff.mpr rfl
  unfold parseJoined
  cases flag with
  | config =>
    rw [show "--config=" = Flag.config.text ++ "=" from rfl, hself, Flag.set]
  | query =>
    have hother : valueAfter? "--config=" (Flag.query.text ++ "=" ++ value) = none := by
      simp [valueAfter?, Flag.text, Text.stripStart?]
    rw [hother, show "--query=" = Flag.query.text ++ "=" from rfl, hself, Flag.set]

/-- An argument that holds no option is unknown. -/
theorem parseJoined_unknown {argument : String}
    (h : ∀ flag value, argument ≠ Flag.text flag ++ "=" ++ value) :
    parseJoined argument o = .error (.unknown argument) := by
  have hnone {start : String} (hstart : ∀ value, argument ≠ start ++ value) :
      valueAfter? start argument = none :=
    Option.eq_none_iff_forall_ne_some.mpr fun value hvalue =>
      hstart value (valueAfter?_eq_some_iff.mp hvalue)
  have hconfig : valueAfter? "--config=" argument = none := hnone (h .config)
  have hquery : valueAfter? "--query=" argument = none := hnone (h .query)
  rw [parseJoined, hconfig, hquery]

/-! ### Whole command lines -/

/-- **Segments are read one after the other**, whatever follows them. -/
theorem parseFrom_segments (segments : List Segment) (rest : List String) :
    parseFrom o (segments.flatMap Segment.arguments ++ rest) = parseFrom (given o segments) rest := by
  induction segments generalizing o with
  | nil => rfl
  | cons g segments ih =>
    rw [List.flatMap_cons, List.append_assoc, given_cons, ← ih]
    obtain ⟨flag, value, isJoined⟩ := g
    cases isJoined with
    | false => exact parseFrom_apart flag value _
    | true =>
      rw [Segment.arguments, if_pos rfl, List.singleton_append,
        parseFrom_bare fun flag' => joined_ne_text flag flag' value, parseJoined_joined]
      rfl

/-- Nothing is read of arguments that begin with no segment. -/
theorem parseFrom_stuck {rest : List String} {fault : UsageFault} (h : Stuck rest fault) :
    parseFrom o rest = .error fault := by
  cases h with
  | valueless flag => exact parseFrom_valueless flag
  | unknown rest hbare hjoined =>
    rw [parseFrom_bare hbare, parseJoined_unknown hjoined, Except.bind]

/-- **Any arguments are segments** up to their end, or to where they are stuck. -/
theorem exists_segments (arguments : List String) :
    ∃ (segments : List Segment) (rest : List String),
      arguments = segments.flatMap Segment.arguments ++ rest ∧
        (rest = [] ∨ ∃ fault, Stuck rest fault) := by
  -- The recursion takes away one segment, and so one argument or two.
  match arguments with
  | [] => exact ⟨[], [], rfl, .inl rfl⟩
  | argument :: rest =>
    by_cases hbare : ∃ flag, argument = Flag.text flag
    · obtain ⟨flag, rfl⟩ := hbare
      match rest with
      | [] => exact ⟨[], _, rfl, .inr ⟨_, .valueless flag⟩⟩
      | value :: rest =>
        obtain ⟨segments, left, rfl, hleft⟩ := exists_segments rest
        exact ⟨⟨flag, value, false⟩ :: segments, left, rfl, hleft⟩
    · by_cases hjoined : ∃ flag value, argument = Flag.text flag ++ "=" ++ value
      · obtain ⟨flag, value, rfl⟩ := hjoined
        obtain ⟨segments, left, rfl, hleft⟩ := exists_segments rest
        exact ⟨⟨flag, value, true⟩ :: segments, left, rfl, hleft⟩
      · have hunknown := Stuck.unknown rest (fun flag h => hbare ⟨flag, h⟩)
          fun flag value h => hjoined ⟨flag, value, h⟩
        exact ⟨[], _, rfl, .inr ⟨_, hunknown⟩⟩

/-- Segments alone are read to their end. -/
theorem parse_segments (segments : List Segment) : parse (segments.flatMap Segment.arguments) =
    .ok ⟨last? .config segments, last? .query segments⟩ := by
  rw [parse, ← List.append_nil (segments.flatMap _), parseFrom_segments, parseFrom, given]
  simp

/-- Behind segments, what is stuck tells its fault. -/
theorem parse_stuck (segments : List Segment) {rest : List String} {fault : UsageFault}
    (h : Stuck rest fault) :
    parse (segments.flatMap Segment.arguments ++ rest) = .error fault := by
  rw [parse, parseFrom_segments, parseFrom_stuck h]

/-- **A command line is read exactly if it consists of segments.** The options are then the last
values that are given, whichever way each segment is spelled; otherwise the fault is that of the
arguments behind the last segment that could be read. -/
theorem parse_by_segments (arguments : List String) :
    (∀ o, parse arguments = .ok o ↔
      ∃ segments : List Segment, arguments = segments.flatMap Segment.arguments ∧
        o = ⟨last? .config segments, last? .query segments⟩) ∧
    (∀ fault, parse arguments = .error fault ↔
      ∃ (segments : List Segment) (rest : List String),
        arguments = segments.flatMap Segment.arguments ++ rest ∧ Stuck rest fault) ∧
    ∀ (segments : List Segment) (isJoined : Segment → Bool),
      parse ((segments.map fun g => { g with isJoined := isJoined g }).flatMap Segment.arguments) =
        .ok ⟨last? .config segments, last? .query segments⟩ := by
  obtain ⟨segments, rest, hsplit, hend⟩ := exists_segments arguments
  refine ⟨fun o => ⟨fun h => ?_, ?_⟩, fun fault => ⟨fun h => ?_, ?_⟩, fun segments isJoined => ?_⟩
  · -- Reading has succeeded, so nothing is left behind the segments.
    obtain rfl | ⟨fault, hfault⟩ := hend
    · rw [List.append_nil] at hsplit
      rw [hsplit, parse_segments] at h
      exact ⟨segments, hsplit, (Except.ok.inj h).symm⟩
    · rw [hsplit, parse_stuck segments hfault] at h
      exact nomatch h
  · rintro ⟨segments, rfl, rfl⟩
    exact parse_segments segments
  · -- Reading has failed, so something is left.
    obtain rfl | ⟨fault', hfault⟩ := hend
    · rw [hsplit, List.append_nil, parse_segments] at h
      exact nomatch h
    · rw [hsplit, parse_stuck segments hfault] at h
      obtain rfl := Except.error.inj h
      exact ⟨segments, rest, hsplit, hfault⟩
  · rintro ⟨segments, rest, rfl, hfault⟩
    exact parse_stuck segments hfault
  · have hsame : given {} (segments.map fun g => { g with isJoined := isJoined g }) =
        given {} segments := given_respelled isJoined segments
    simp only [given, Option.or_none] at hsame
    rw [parse_segments, hsame]

/-- A value may look like a flag, and the last value counts, however it is spelled. -/
example : (parse ["--config", "--query", "--query=2+2", "--config=q.json"]).toOption =
    some ⟨some "q.json", some "2+2"⟩ := by
  decide +kernel

end Launcher.Options
