import Launcher.Proofs.Files
import Launcher.Proofs.Settings.Records
import Launcher.Proofs.Settings.Validity

namespace Launcher.Settings

/-!
# Saved settings

Settings are checked before they are saved and when they are loaded, and what was saved should come
back. It does, if three things are so that have nothing to do with validity: the file is read as
what it was written as, its texts can be read, and its numbers are ones that a double holds.

* `check_reread` — settings stay valid when they are read again.
* `Toml.node?_object` — a JSON object is no TOML.
* `parse?_text` — what is read from the text of some settings.
* `load_save` — what comes back after settings were saved.
* `ComesBack`, `load_save_iff` — when that is what was saved.

Settings are written as JSON whatever their file is called, and read as what the name of the file
says. So a file that is named as TOML is refused at its first brace, for which the reader of TOML
has no line. As for JSON, `Launcher.Proofs.Settings.Tokens` and `Launcher.Proofs.Settings.Trees`
take the text apart again, and `Launcher.Proofs.Settings.Records` reads the tree.

That the check does not get in the way when the settings are loaded is not clear at once, for
numbers may have changed. But those that the check bounds are small enough to come back as they are,
or are only asked not to be zero, and no number is rounded to zero.
-/

/-! ### Numbers -/

/-- The number that comes back, as a natural number. -/
theorem wordRead_toNat (n : UInt64) :
    (wordRead n).toNat = min (UInt64.size - 1) (Decimal.nearestWhole n.toNat) := by
  unfold wordRead
  rw [UInt64.toNat_ofNat']
  exact Nat.mod_eq_of_lt (Nat.lt_of_le_of_lt (Nat.min_le_left _ _) (by decide))

/-- A number of fifty-three bits comes back as it is. -/
theorem wordRead_of_lt {n : UInt64} (h : n.toNat < 2 ^ 53) : wordRead n = n := by
  apply UInt64.toNat_inj.mp
  rw [wordRead_toNat, Decimal.nearestWhole_of_lt h]
  exact Nat.min_eq_right (Nat.le_pred_of_lt n.toNat_lt)

/-- No number but zero comes back as zero. -/
theorem wordRead_ne_zero {n : UInt64} (h : n ≠ 0) : wordRead n ≠ 0 := by
  have hn : 0 < n.toNat := Nat.pos_of_ne_zero fun hzero => h (UInt64.toNat_inj.mp hzero)
  have hpos := Decimal.nearestWhole_pos hn
  intro hzero
  have htoNat := wordRead_toNat n
  rw [hzero] at htoNat
  have hmax : 0 < UInt64.size - 1 := by decide
  have hread : (0 : UInt64).toNat = 0 := rfl
  omega

/-- A number of sixty-four bits that a double holds, or the largest of them, to which every larger
one is cut off. -/
def IsRead (n : UInt64) : Prop :=
  Decimal.lastPlace n.toNat ∣ n.toNat ∨ n.toNat = UInt64.size - 1

instance : DecidablePred IsRead :=
  fun n => inferInstanceAs (Decidable (Decimal.lastPlace n.toNat ∣ n.toNat ∨ n.toNat = _))

/-- The numbers that come back as they are. -/
theorem wordRead_eq_iff (n : UInt64) : wordRead n = n ↔ IsRead n := by
  have hn : n.toNat ≤ UInt64.size - 1 := Nat.le_pred_of_lt n.toNat_lt
  unfold IsRead
  rw [← Decimal.nearestWhole_eq_iff, ← UInt64.toNat_inj, wordRead_toNat]
  constructor
  · intro h
    -- A number that is not cut off is the nearest double to itself.
    omega
  · rintro (h | h)
    · rw [h]
      exact Nat.min_eq_right hn
    · rw [h]
      decide +kernel

/-! ### Validity -/

/-- A valid pause is a small number. -/
theorem debounce_le {n : Nat} (h : checkDebounce n = .ok ()) : n ≤ 1000 := by
  unfold checkDebounce at h
  split at h
  next hwithin =>
    unfold isWithin at hwithin
    rw [Bool.and_eq_true] at hwithin
    exact of_decide_eq_true hwithin.2
  next => cases h

/-- The defaults are valid, whatever the environment is and wherever they are kept. -/
theorem check_defaults (env : Environment) (path : String) :
    check { defaults env with path } = .ok () := by
  have hbase : checkCurrencyBase "USD" = .ok () := if_pos (by decide +kernel)
  have httl : (3600 : UInt64) ≠ 0 := by decide
  rw [check_eq_ok_iff]
  exact ⟨rfl, rfl, hbase, httl, rfl, rfl⟩

/-- **Valid settings stay valid** when they are read again, wherever they are kept. -/
theorem check_reread {s : Settings} (h : check s = .ok ()) (path : String) :
    check { reread s with path } = .ok () := by
  obtain ⟨hmax, hdebounce, hbase, httl, hweb, hcommands⟩ := (check_eq_ok_iff s).mp h
  have hkept : wordRead s.debounceMs = s.debounceMs :=
    wordRead_of_lt (Nat.lt_of_le_of_lt (debounce_le hdebounce) (by decide))
  rw [check_eq_ok_iff]
  refine ⟨hmax, ?_, hbase, wordRead_ne_zero httl, hweb, hcommands⟩
  show checkDebounce (wordRead s.debounceMs).toNat = .ok ()
  rw [hkept]
  exact hdebounce

/-! ### The text -/

/-- There are no doubles in written settings. -/
theorem isCounting_toJson (s : Settings) : Json5.isCounting s.toJson = true := by
  have htexts (texts : List String) : Json5.isCounting (textsJson texts) = true :=
    Json5.itemsCounting_map (fun _ => rfl) texts
  have hgroups : Json5.itemsCounting (s.groups.map groupJson) = true :=
    Json5.itemsCounting_map (fun _ => rfl) s.groups
  have hcommands : Json5.itemsCounting (s.commands.map commandJson) = true := by
    refine Json5.itemsCounting_map (fun c => ?_) s.commands
    cases hhotkey : c.hotkey <;> simp [commandJson, hhotkey, Json5.isCounting,
      Json5.membersCounting]
  simp [toJson, Json5.isCounting, Json5.membersCounting, htexts, hgroups, hcommands]

/-- The texts of the settings. -/
def texts (s : Settings) : List String :=
  [s.currencyApiKey, s.currencyBase, s.webSearchTemplate] ++ s.fileRoots ++ s.appRoots ++
    s.sensitivePatterns ++ s.groups.flatMap (fun g => [g.id, g.name]) ++
    s.commands.flatMap (fun c => [c.id, c.keyword, c.displayName, c.template, c.placeholder,
      c.groupId] ++ c.hotkey.toList) ++ [s.historyPath]

/-- The numbers of sixty-four bits among the settings. -/
def words (s : Settings) : List UInt64 :=
  [s.debounceMs, s.qrThreshold, s.rateTtlSecs, s.rateGraceSecs, s.fileScanLimit, s.fileScanDepth,
    s.appScanLimit, s.recentLimit]

/-- The texts in a written group are those of the group. -/
theorem isPlain_groupJson (g : CommandGroup) :
    Json5.isPlain (groupJson g) = [g.id, g.name].all Json5.isPlainText := by
  have hnames : groupRecord.names.all Json5.isPlainText = true := by decide +kernel
  refine (Json5.membersPlain_eq (by rfl) (List.all_eq_true.mp hnames)).trans ?_
  simp [Json5.isPlain]

/-- The texts in a written command are those of the command. -/
theorem isPlain_commandJson (c : Command) :
    Json5.isPlain (commandJson c) = ([c.id, c.keyword, c.displayName, c.template, c.placeholder,
      c.groupId] ++ c.hotkey.toList).all Json5.isPlainText := by
  have hnames : commandRecord.names.all Json5.isPlainText = true := by decide +kernel
  have hkind : Json5.isPlainText c.kind.name = true := by
    cases c.kind <;> decide
  refine (Json5.membersPlain_eq (by rfl) (List.all_eq_true.mp hnames)).trans ?_
  cases hhotkey : c.hotkey <;> simp [Json5.isPlain, hkind]

/-- The texts in written settings are the texts of the settings. -/
theorem isPlain_toJson (s : Settings) :
    Json5.isPlain s.toJson = s.texts.all Json5.isPlainText := by
  have hnames : record.names.all Json5.isPlainText = true := by decide +kernel
  have hwebSearch : Json5.isPlainText s.webSearch.name = true := by
    cases s.webSearch <;> decide
  refine (Json5.membersPlain_eq (by rfl) (List.all_eq_true.mp hnames)).trans ?_
  simp [Json5.isPlain, textsJson, Json5.itemsPlain_map, hwebSearch, texts, isPlain_groupJson,
    isPlain_commandJson, List.all_flatMap]

/-- Settings come back as they were if all of their numbers do. -/
theorem reread_eq_iff (s : Settings) : reread s = s ↔ ∀ n ∈ s.words, IsRead n := by
  cases s
  simp [reread, words, ← wordRead_eq_iff]

/-! ### TOML -/

section Toml

variable (rest : List Char)

theorem Toml.skipLines_brace (fuel : Nat) : Toml.skipLines fuel ('{' :: rest) = '{' :: rest := by
  cases fuel <;> rfl

/-- No line begins with a brace. -/
theorem Toml.readLine?_brace (state : Toml.State) : Toml.readLine? state ('{' :: rest) = none := by
  have hname : Toml.readName? ('{' :: rest) = none := rfl
  show Toml.readMember? state ('{' :: rest) = none
  unfold Toml.readMember? Toml.readPath? Toml.nestingLimit
  rw [Toml.readParts?]
  show ((Toml.readName? ('{' :: rest)).bind _).bind _ = none
  rw [hname]
  rfl

/-- So a text that begins with one is refused, whatever fuel there is. -/
theorem Toml.readLines?_brace (fuel : Nat) (state : Toml.State) :
    Toml.readLines? fuel state ('{' :: rest) = none := by
  cases fuel with
  | zero => rfl
  | succ fuel =>
    rw [Toml.readLines?, Toml.skipLines_brace]
    show (Toml.readLine? state ('{' :: rest)).bind _ = none
    rw [Toml.readLine?_brace]
    rfl

/-- A JSON object is no TOML. -/
theorem Toml.node?_object : Toml.node? ('{' :: rest) = none := by
  have hmark : Text.stripStart? ['\uFEFF'] ('{' :: rest) = none := rfl
  unfold Toml.node?
  simp only [hmark, Option.getD_none, Toml.readLines?_brace]
  rfl

end Toml

/-! ### Saving and loading -/

/-- The text of the settings is that of their value. -/
theorem toList_text (s : Settings) : s.text.toList = s.toJson.lines 0 :=
  String.toList_ofList

/-- What is read from the text of some settings. -/
theorem parse?_text (env : Environment) (path : String) (s : Settings) :
    parse? env path s.text =
      if isTomlPath path = false ∧ ∀ t ∈ s.texts, Json5.isPlainText t = true then
        some { reread s with path := (defaults env).path }
      else none := by
  unfold parse?
  rw [toList_text]
  cases htoml : isTomlPath path
  · rw [if_neg (by decide), Json5.node?_lines s.toJson (isCounting_toJson s), isPlain_toJson]
    simp only [true_and, List.all_eq_true]
    split
    · exact ofNode?_toJson (defaults env) s
    · rfl
  · -- The text of an object begins with its brace.
    have hobject : Toml.node? (s.toJson.lines 0) = none := Toml.node?_object _
    rw [if_pos rfl, hobject]
    rfl

/-- The file is there afterwards, with the text of the settings in it. -/
theorem text?_of_save {fs fs' : Files} {s : Settings} (h : save fs s = .ok fs') :
    fs'.exists? s.path = true ∧ fs'.text? s.path = some s.text := by
  -- All that is known of the write is that the file can be found again.
  have hnode : fs'.node? s.path = some (.text s.text) := by
    unfold save at h
    split at h
    next written hwritten =>
      cases h
      obtain ⟨made, -, hwrite⟩ := Option.bind_eq_some_iff.mp hwritten
      exact Files.node?_write? hwrite
    next => cases h
  constructor
  · obtain ⟨place, hplace, -⟩ := Option.bind_eq_some_iff.mp hnode
    unfold Files.exists?
    rw [hplace]
    rfl
  · unfold Files.text?
    rw [hnode]

/-- **What comes back after settings were saved.** Their file is JSON whatever it is called, so that
one that is named as TOML cannot be read; nor can one with a separator in a text. -/
theorem load_save (env : Environment) {fs fs' : Files} {s : Settings} (hcheck : check s = .ok ())
    (hsave : save fs s = .ok fs') :
    load env fs' s.path =
      if isTomlPath s.path = false ∧ ∀ t ∈ s.texts, Json5.isPlainText t = true then .ok (reread s)
      else .error (.malformed s.path) := by
  obtain ⟨hexists, htext⟩ := text?_of_save hsave
  unfold load
  rw [hexists, htext]
  simp only [Bool.not_true, Bool.false_eq_true, if_false, parse?_text]
  by_cases h : isTomlPath s.path = false ∧ ∀ t ∈ s.texts, Json5.isPlainText t = true
  · have hvalid := check_reread hcheck (defaults env).path
    simp only [if_pos h, hvalid]
    rfl
  · simp only [if_neg h]

/-- What settings need so that they come back as they were saved. -/
structure ComesBack (s : Settings) : Prop where
  /-- The file is not named as one in TOML. -/
  notToml : isTomlPath s.path = false
  /-- No text has a separator of lines or paragraphs in it. -/
  plain : ∀ t ∈ s.texts, Json5.isPlainText t = true
  /-- Every number is one that is read as it is written. -/
  read : ∀ n ∈ s.words, IsRead n

/-- **Settings that were saved come back** as they were exactly if they have what that needs. -/
theorem load_save_iff (env : Environment) {fs fs' : Files} {s : Settings}
    (hcheck : check s = .ok ()) (hsave : save fs s = .ok fs') :
    load env fs' s.path = .ok s ↔ ComesBack s := by
  rw [load_save env hcheck hsave]
  constructor
  · intro h
    split at h
    next hread => exact ⟨hread.1, hread.2, (reread_eq_iff s).mp (Except.ok.inj h)⟩
    next => cases h
  · intro h
    rw [if_pos ⟨h.notToml, h.plain⟩, (reread_eq_iff s).mpr h.read]

/-- Saving under a single name into an empty folder. -/
theorem save_of_parts {s : Settings} {name : String} (hparts : Files.parts s.path = [name])
    (hname : name ∉ ["", ".", ".."]) (hnul : '\x00' ∉ s.path.toList) :
    save {} s = .ok { entries := [(name, .text s.text)] } := by
  have hnames : Files.names s.path = [name] := by
    simp only [List.mem_cons, List.not_mem_nil, or_false, not_or] at hname
    unfold Files.names
    rw [hparts]
    simp [hname]
  have hstart : Files.start {} s.path = [] := by
    unfold Files.start
    exact ite_self _
  -- The folder is there already, so none is made.
  have hparent : Files.makeParent? {} s.path = some {} := by
    unfold Files.makeParent?
    rw [hnames, hstart]
    rfl
  have hwrite : Files.write? {} s.path (.text s.text) =
      some { entries := [(name, .text s.text)] } := by
    unfold Files.write?
    rw [hparts, String.contains_char_eq, decide_eq_false hnul, hstart]
    simp only [List.getLast?_singleton, Option.bind_eq_bind, Option.bind_some, Bool.false_or,
      decide_eq_true_eq, if_neg hname]
    rfl
  unfold save
  rw [hparent, Option.bind_some, hwrite]

/-- The defaults come back from a file named as JSON. -/
theorem load_save_iff_json :
    let s : Settings := { defaults {} with path := "config.json" }
    let fs : Files := { entries := [("config.json", .text s.text)] }
    check s = .ok () ∧ save {} s = .ok fs ∧ load {} fs s.path = .ok s := by
  intro s fs
  have hcheck : check s = .ok () := check_defaults {} _
  have hsave : save {} s = .ok fs :=
    save_of_parts (by decide +kernel) (by decide) (by decide +kernel)
  have htoml : isTomlPath s.path = false := by decide +kernel
  have hplain : s.texts.all Json5.isPlainText = true := by decide +kernel
  have hread : s.words.all (fun n => decide (IsRead n)) = true := by decide +kernel
  refine ⟨hcheck, hsave, (load_save_iff {} hcheck hsave).mpr ⟨htoml, ?_, ?_⟩⟩
  · exact List.all_eq_true.mp hplain
  · exact fun n hn => of_decide_eq_true (List.all_eq_true.mp hread n hn)

/-- The defaults do not come back from a file named as TOML. -/
theorem load_save_toml :
    let s : Settings := { defaults {} with path := "config.toml" }
    let fs : Files := { entries := [("config.toml", .text s.text)] }
    check s = .ok () ∧ save {} s = .ok fs ∧
      load {} fs s.path = .error (.malformed "config.toml") := by
  intro s fs
  have hcheck : check s = .ok () := check_defaults {} _
  have hsave : save {} s = .ok fs :=
    save_of_parts (by decide +kernel) (by decide) (by decide +kernel)
  have htoml : isTomlPath s.path = true := by decide +kernel
  refine ⟨hcheck, hsave, (load_save {} hcheck hsave).trans (if_neg ?_)⟩
  rintro ⟨hjson, -⟩
  rw [htoml] at hjson
  exact nomatch hjson

end Launcher.Settings
