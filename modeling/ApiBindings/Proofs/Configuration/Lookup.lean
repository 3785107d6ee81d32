import ApiBindings.Configuration.Lookup
import ApiBindings.Proofs.Loading.Answers

/-!
# What looking for the configuration comes to

The configuration is in a file that is named or in one that is found.  The same text of YAML gives
the same configuration in both, or the same failure, if it is legible: a text in UTF-8 with a value
of which settings can be gathered.  Of a text that is not, only the named file gives a failure, and
only if the parser tells of an error.  Otherwise the lookup breaks down.  All this holds on every
runtime.

* `Alike`, `Legible`           two outcomes that differ in a path only, and what makes them so;
* `Unprovided`                 the files that the lookup breaks down on;
* `find_agrees_iff_legible`    the two ways to a file agree on what is legible, and the lookup gives
                               an answer unless a file is unprovided for.
-/

namespace ApiBindings

namespace Configuration

/-! ## answers -/

/-- a configuration, or the failure to have one -/
inductive Answer : Attempt Configuration → Prop
  | configuration (c : Configuration) : Answer (.ok c)
  | failure (message : String) (path : Option String) :
      Answer (.fail (.configuration message path none))

/-- two outcomes for the same settings, which differ in the path that is shown only -/
inductive Alike (path path' : String) : Attempt Configuration → Attempt Configuration → Prop
  | configuration (c : Configuration) : Alike path path' (.ok c) (.ok c)
  | failure (message : String) :
      Alike path path' (configurationFailure message path) (configurationFailure message path')

theorem Alike.answer {path path' : String} {x y : Attempt Configuration}
    (h : Alike path path' x y) : Answer x := by
  cases h with
  | configuration c => exact .configuration c
  | failure message => exact .failure message path

theorem Answer.ne_breakDown {x : Attempt Configuration} (h : Answer x) (b : Breakdown) :
    x ≠ .breakDown b := by
  rintro rfl
  cases h

theorem Alike.symm {path path' : String} {x y : Attempt Configuration}
    (h : Alike path path' x y) : Alike path' path y x := by
  cases h with
  | configuration c => exact .configuration c
  | failure message => exact .failure message

/-! ## settings -/

variable {runtime : Runtime}

/-- the settings in a value, which has none if it is empty -/
def settings (v : Value) : Value := if v.truthy then v else .map []

/-- a value of which settings cannot be gathered -/
def Ungathered (runtime : Runtime) (v : Value) : Prop :=
  ∃ b, runtime.gathering (settings v) = .error (.breakdown b)

theorem keysPlain_settings {v : Value} (h : v.KeysPlain) : (settings v).KeysPlain := by
  unfold settings
  split
  · exact h
  · intro fields heq
    cases heq
    exact fun _ hentry => nomatch hentry

theorem keysNamed_of_settings {v : Value} (h : (settings v).KeysNamed) : v.KeysNamed := by
  unfold settings at h
  split at h
  · exact h
  · rename_i hempty
    rintro fields rfl entry hentry
    cases fields with
    | nil => cases hentry
    | cons _ _ => exact absurd rfl hempty

theorem not_ungathered_of_plain {v : Value} (h : v.KeysPlain) : ¬ Ungathered runtime v := by
  rintro ⟨b, hb⟩
  rw [runtime.gathering_plain _ (keysPlain_settings h)] at hb
  cases hb

theorem keysNamed_of_not_ungathered {v : Value} (h : ¬ Ungathered runtime v) : v.KeysNamed := by
  by_contra hkeys
  exact h (runtime.gathering_unnamed _ (mt keysNamed_of_settings hkeys))

theorem ofValue_of_ungathered {v : Value} (h : Ungathered runtime v) :
    ∃ b, ∀ path, ofValue runtime v path = .breakDown b := by
  obtain ⟨b, hb⟩ := h
  refine ⟨b, fun path => ?_⟩
  unfold ofValue
  rw [← settings, hb]

theorem ofValue_alike {v : Value} (h : ¬ Ungathered runtime v) (path path' : String) :
    Alike path path' (ofValue runtime v path) (ofValue runtime v path') := by
  unfold ofValue
  rw [← settings]
  rcases hgather : runtime.gathering (settings v) with (reason | b) | gathered
  · exact .failure _
  · exact absurd ⟨b, hgather⟩ h
  · dsimp only
    cases read gathered with
    | ok c => exact .configuration c
    | error issues => exact .failure _

theorem ofValue_answer {v : Value} (h : ¬ Ungathered runtime v) (path : String) :
    Answer (ofValue runtime v path) :=
  (ofValue_alike h path path).answer

/-! ## texts -/

/-- how the settings are written in a text -/
inductive Format where
  | json
  | namedYaml
  | foundYaml
  | project

/-- the configuration in a text -/
def ofText (runtime : Runtime) (text : List Char) (path : String) : Format → Attempt Configuration
  | .json => ofParsed runtime path Json.SyntaxError.message (runtime.json text)
  | .namedYaml => ofParsed runtime path (fun _ => yamlErrorText) (runtime.yaml text)
  | .foundYaml =>
    match runtime.yaml text with
    | .ok v => ofValue runtime v path
    | .error (.told _) => .breakDown (.yaml .syntaxError)
    | .error (.breakdown b) => .breakDown b
  | .project =>
    match runtime.toml text with
    | .error b => .breakDown b
    | .ok fields => do
      match ← Attempt.ofRaw (projectTable? fields) with
      | some v => ofValue runtime v path
      | none => .fail notFound

/-- the value of the key `tool` in which no table can be looked up -/
inductive NoTables : Value → Prop
  | text {s : String} (h : Text.occursIn "restfulgen".toList s.toList = true) :
      NoTables (.atom (.string s))
  | list {items : List Value} (h : .text "restfulgen" ∈ items) : NoTables (.list items)
  | set {members : List Atom} (h : .string "restfulgen" ∈ members) : NoTables (.set members)
  | atom {a : Atom} (h : ∀ s, a ≠ .string s) : NoTables (.atom a)

/-- a text that stops its parser in a way that was not provided for -/
inductive Unparsed (runtime : Runtime) (text : List Char) : Format → Prop
  | json {b : Breakdown} (hread : runtime.json text = .error (.breakdown b)) :
      Unparsed runtime text .json
  | namedYaml {b : Breakdown} (hread : runtime.yaml text = .error (.breakdown b)) :
      Unparsed runtime text .namedYaml
  | foundYaml {stop : ParserStop Unit} (hread : runtime.yaml text = .error stop) :
      Unparsed runtime text .foundYaml
  | toml {b : Breakdown} (hread : runtime.toml text = .error b) : Unparsed runtime text .project
  | tool {fields : Fields} {tools : Value} (hread : runtime.toml text = .ok fields)
      (htools : fields.get? "tool" = some tools) (h : NoTables tools) :
      Unparsed runtime text .project

/-- the settings in a text -/
inductive SettingsIn (runtime : Runtime) (text : List Char) : Format → Value → Prop
  | json {v : Value} (hread : runtime.json text = .ok v) : SettingsIn runtime text .json v
  | namedYaml {v : Value} (hread : runtime.yaml text = .ok v) :
      SettingsIn runtime text .namedYaml v
  | foundYaml {v : Value} (hread : runtime.yaml text = .ok v) :
      SettingsIn runtime text .foundYaml v
  | project {fields tables : Fields} {v : Value} (hread : runtime.toml text = .ok fields)
      (htools : fields.get? "tool" = some (.map tables))
      (hv : tables.get? "restfulgen" = some v) : SettingsIn runtime text .project v

theorem any_isText_iff {items : List Value} {s : String} :
    items.any (Value.isText s) = true ↔ .text s ∈ items := by
  rw [List.any_eq_true]
  constructor
  · rintro ⟨v, hv, htext⟩
    unfold Value.isText at htext
    split at htext
    · exact beq_iff_eq.mp htext ▸ hv
    · cases htext
  · exact fun h => ⟨_, h, beq_self_eq_true s⟩

theorem ok_ne_false_iff {found : Bool} :
    (.ok found : Except Malformed Bool) ≠ .ok false ↔ found = true := by
  rw [Ne, Except.ok.injEq, Bool.not_eq_false]

theorem noTables_iff {v : Value} :
    NoTables v ↔ v.holds "restfulgen" ≠ .ok false ∧ ∀ tables, v ≠ .map tables := by
  by_cases hmap : ∀ tables, v ≠ .map tables
  · rw [and_iff_left hmap]
    cases v with
    | map tables => exact absurd rfl (hmap tables)
    | list items =>
      rw [Value.holds, ok_ne_false_iff, any_isText_iff]
      refine ⟨fun h => ?_, .list⟩
      cases h
      assumption
    | set members =>
      rw [Value.holds, ok_ne_false_iff, List.any_beq', List.contains_iff_mem]
      refine ⟨fun h => ?_, .set⟩
      cases h
      assumption
    | atom a =>
      cases a with
      | string s =>
        rw [Value.holds, ok_ne_false_iff]
        refine ⟨fun h => ?_, .text⟩
        cases h with
        | text h => exact h
        | atom h => exact absurd rfl (h s)
      | _ => refine iff_of_true (.atom fun s h => ?_) fun h => ?_ <;> cases h
  · refine iff_of_false (fun h => hmap fun tables => ?_) fun h => hmap h.2
    rintro rfl
    cases h

/-- a value of `tool` without the table, or in which it cannot be looked up -/
theorem projectTable?_of_tools {fields : Fields} {tools : Value}
    (h : fields.get? "tool" = some tools) (hmap : ∀ tables, tools ≠ .map tables) :
    (NoTables tools ∧ ∃ m, projectTable? fields = .error m) ∨
      (¬ NoTables tools ∧ projectTable? fields = .ok none) := by
  have hlookup : projectTable? fields =
      (tools.holds "restfulgen" >>= fun found =>
        if found then .error .notIndexable else .ok none) := by
    unfold projectTable?
    rw [h, Option.getD_some]
    cases tools with
    | map tables => exact absurd rfl (hmap tables)
    | _ => rfl
  rw [noTables_iff, hlookup]
  cases tools.holds "restfulgen" with
  | error m => exact .inl ⟨⟨nofun, hmap⟩, m, rfl⟩
  | ok found =>
    cases found with
    | true => exact .inl ⟨⟨nofun, hmap⟩, _, rfl⟩
    | false => exact .inr ⟨fun hnot => hnot.1 rfl, rfl⟩

theorem projectTable?_of_map {fields tables : Fields}
    (h : fields.get? "tool" = some (.map tables)) :
    projectTable? fields = .ok (Fields.get? tables "restfulgen") := by
  have hlookup : projectTable? fields =
      if Fields.has tables "restfulgen" then .ok (Fields.get? tables "restfulgen")
      else .ok none := by
    unfold projectTable?
    rw [h]
    rfl
  rw [hlookup, Fields.has]
  cases Fields.get? tables "restfulgen" <;> rfl

theorem projectTable?_of_none {fields : Fields} (h : fields.get? "tool" = none) :
    projectTable? fields = .ok none := by
  unfold projectTable?
  rw [h]
  rfl

variable {text : List Char} {format : Format}

theorem ofText_of_settingsIn {v : Value} (h : SettingsIn runtime text format v) (path : String) :
    ofText runtime text path format = ofValue runtime v path := by
  cases h with
  | json hread =>
    rw [ofText, hread]
    rfl
  | namedYaml hread =>
    rw [ofText, hread]
    rfl
  | foundYaml hread => rw [ofText, hread]
  | project hread htools hv =>
    rw [ofText, hread]
    dsimp only
    rw [projectTable?_of_map htools, hv]
    rfl

theorem ofText_of_unparsed (h : Unparsed runtime text format) :
    ∃ b, ∀ path, ofText runtime text path format = .breakDown b := by
  cases h with
  | @json b hread =>
    refine ⟨b, fun path => ?_⟩
    rw [ofText, hread]
    rfl
  | @namedYaml b hread =>
    refine ⟨b, fun path => ?_⟩
    rw [ofText, hread]
    rfl
  | @foundYaml stop hread =>
    cases stop with
    | told e =>
      refine ⟨.yaml .syntaxError, fun path => ?_⟩
      rw [ofText, hread]
    | breakdown b =>
      refine ⟨b, fun path => ?_⟩
      rw [ofText, hread]
  | @toml b hread =>
    refine ⟨b, fun path => ?_⟩
    rw [ofText, hread]
  | tool hread htools h =>
    rcases projectTable?_of_tools htools (noTables_iff.mp h).2 with ⟨_, m, hm⟩ | ⟨hnot, _⟩
    · refine ⟨.malformed m, fun path => ?_⟩
      rw [ofText, hread]
      dsimp only
      rw [hm]
      rfl
    · exact absurd h hnot

/-- a text with settings, one that stops its parser, or one that is answered with a failure -/
theorem settingsIn_or_unparsed_or_answer (runtime : Runtime) (text : List Char)
    (format : Format) : (∃ v, SettingsIn runtime text format v) ∨ Unparsed runtime text format ∨
      ∀ path, Answer (ofText runtime text path format) := by
  cases format with
  | json =>
    rcases hread : runtime.json text with (e | b) | v
    · refine .inr (.inr fun path => ?_)
      rw [ofText, hread]
      exact .failure _ path
    · exact .inr (.inl (.json hread))
    · exact .inl ⟨v, .json hread⟩
  | namedYaml =>
    rcases hread : runtime.yaml text with (e | b) | v
    · refine .inr (.inr fun path => ?_)
      rw [ofText, hread]
      exact .failure _ path
    · exact .inr (.inl (.namedYaml hread))
    · exact .inl ⟨v, .namedYaml hread⟩
  | foundYaml =>
    rcases hread : runtime.yaml text with stop | v
    · exact .inr (.inl (.foundYaml hread))
    · exact .inl ⟨v, .foundYaml hread⟩
  | project =>
    rcases hread : runtime.toml text with b | fields
    · exact .inr (.inl (.toml hread))
    · have hnone (h : projectTable? fields = .ok none) :
          ∀ path, Answer (ofText runtime text path .project) := by
        intro path
        rw [ofText, hread]
        dsimp only
        rw [h]
        exact .failure _ none
      cases htools : fields.get? "tool" with
      | none => exact .inr (.inr (hnone (projectTable?_of_none htools)))
      | some tools =>
        by_cases hmap : ∃ tables, tools = .map tables
        · obtain ⟨tables, rfl⟩ := hmap
          have hlookup := projectTable?_of_map htools
          cases hv : Fields.get? tables "restfulgen" with
          | none => exact .inr (.inr (hnone (hv ▸ hlookup)))
          | some v => exact .inl ⟨v, .project hread htools hv⟩
        · rcases projectTable?_of_tools htools (not_exists.mp hmap) with ⟨h, _⟩ | ⟨_, h⟩
          · exact .inr (.inl (.tool hread htools h))
          · exact .inr (.inr (hnone h))

theorem ofText_cases (runtime : Runtime) (text : List Char) (path : String) (format : Format) :
    Answer (ofText runtime text path format) ∨
      ∃ b, ofText runtime text path format = .breakDown b := by
  rcases settingsIn_or_unparsed_or_answer runtime text format with ⟨v, h⟩ | h | h
  · rw [ofText_of_settingsIn h]
    by_cases hsettings : Ungathered runtime v
    · obtain ⟨b, hb⟩ := ofValue_of_ungathered hsettings
      exact .inr ⟨b, hb path⟩
    · exact .inl (ofValue_answer hsettings path)
  · obtain ⟨b, hb⟩ := ofText_of_unparsed h
    exact .inr ⟨b, hb path⟩
  · exact .inl (h path)

theorem ofText_breakDown_iff {path : String} :
    (∃ b, ofText runtime text path format = .breakDown b) ↔
      Unparsed runtime text format ∨
        ∃ v, SettingsIn runtime text format v ∧ Ungathered runtime v := by
  constructor
  · rintro ⟨b, hb⟩
    rcases settingsIn_or_unparsed_or_answer runtime text format with ⟨v, h⟩ | h | h
    · refine .inr ⟨v, h, ?_⟩
      by_contra hsettings
      rw [ofText_of_settingsIn h] at hb
      exact (ofValue_answer hsettings path).ne_breakDown b hb
    · exact .inl h
    · exact absurd hb ((h path).ne_breakDown b)
  · rintro (h | ⟨v, h, hsettings⟩)
    · obtain ⟨b, hb⟩ := ofText_of_unparsed h
      exact ⟨b, hb path⟩
    · rw [ofText_of_settingsIn h]
      obtain ⟨b, hb⟩ := ofValue_of_ungathered hsettings
      exact ⟨b, hb path⟩

/-! ## files -/

def namedFormat (p : Path) : Format := if p.suffix = ".json" then .json else .namedYaml

variable {fs fs' : FileSystem} {path : Option String} {p : Path}

/-- the file that the lookup reads, and how it is written -/
inductive Searched (fs : FileSystem) : Option String → Path → Format → Prop
  | named {path : String} (hpath : path ≠ "") (hthere : fs.isThere (Path.ofText path) = .ok true) :
      Searched fs (some path) (Path.ofText path) (namedFormat (Path.ofText path))
  | usual {path : Option String} {name : String} (hpath : givenText? path = none)
      (hname : firstThere fs usualNames = .ok (some name)) :
      Searched fs path (atHome fs name) .foundYaml
  | project {path : Option String} (hpath : givenText? path = none)
      (hname : firstThere fs usualNames = .ok none)
      (hthere : fs.isThere (atHome fs projectName) = .ok true) :
      Searched fs path (atHome fs projectName) .project

/-- a path that is not followed keeps the lookup from finding its file -/
inductive Refused (fs : FileSystem) : Option String → Prop
  | named {path : String} (hpath : path ≠ "") (h : fs.refuses (Path.ofText path) = true) :
      Refused fs (some path)
  | usual {path : Option String} {b : Breakdown} (hpath : givenText? path = none)
      (h : firstThere fs usualNames = .breakDown b) : Refused fs path
  | project {path : Option String} (hpath : givenText? path = none)
      (hname : firstThere fs usualNames = .ok none)
      (h : fs.refuses (atHome fs projectName) = true) : Refused fs path

/-- what the lookup breaks down on: a path is not followed, the file that it reads has no text in
UTF-8, the text stops its parser in a way that was not provided for, or settings cannot be gathered
of its value -/
inductive Unprovided (runtime : Runtime) (fs : FileSystem) (path : Option String) : Prop
  | refused (h : Refused fs path)
  | noText {p : Path} {format : Format} {e : FileSystem.Unreadable}
      (hfile : Searched fs path p format) (htext : fs.readText p = .error e)
  | parser {p : Path} {format : Format} {text : List Char} (hfile : Searched fs path p format)
      (htext : fs.readText p = .ok text) (h : Unparsed runtime text format)
  | settings {p : Path} {format : Format} {text : List Char} {v : Value}
      (hfile : Searched fs path p format) (htext : fs.readText p = .ok text)
      (hv : SettingsIn runtime text format v) (h : Ungathered runtime v)

theorem neededText_of_readText (h : fs.readText p = .ok text) : fs.neededText p = .ok text := by
  rw [FileSystem.neededText, h]

theorem neededText_of_error {e : FileSystem.Unreadable} (h : fs.readText p = .error e) :
    ∃ b, fs.neededText p = .breakDown b := by
  rw [FileSystem.neededText, h]
  cases e with
  | fault fault => exact ⟨_, rfl⟩
  | undecodable => exact ⟨_, rfl⟩

theorem givenText?_eq_some {path : Option String} {s : String} :
    givenText? path = some s ↔ path = some s ∧ s ≠ "" := by
  cases path with
  | none => exact ⟨nofun, nofun⟩
  | some t =>
    rw [givenText?, Option.ite_none_left_eq_some, Option.some.injEq, and_comm]
    constructor
    · rintro ⟨rfl, hne⟩
      exact ⟨rfl, hne⟩
    · rintro ⟨rfl, hne⟩
      exact ⟨rfl, hne⟩

theorem isThere_cases (fs : FileSystem) (p : Path) :
    fs.refuses p = true ∨ fs.isThere p = .ok true ∨ fs.isThere p = .ok false := by
  cases hrefuses : fs.refuses p with
  | true => exact .inl rfl
  | false =>
    rw [isThere_of_not_refuses hrefuses]
    cases fs.leadsSomewhere p with
    | true => exact .inr (.inl rfl)
    | false => exact .inr (.inr rfl)

theorem firstThere_ne_failure (fs : FileSystem) (names : List String) (f : Failure) :
    firstThere fs names ≠ .fail f := by
  induction names with
  | nil => exact nofun
  | cons name others ih =>
    rw [firstThere]
    rcases isThere_cases fs (atHome fs name) with h | h | h
    · rw [isThere_of_refuses h, breakDown_bind]
      exact nofun
    · rw [h, ok_bind]
      exact nofun
    · rw [h, ok_bind]
      exact ih

theorem find_some {path : String} (hpath : path ≠ "") :
    find fs (some path) runtime = ofFile fs path runtime := by
  rw [find, givenText?_eq_some.mpr ⟨rfl, hpath⟩]

theorem find_named {path : String} (hpath : path ≠ "")
    (hthere : fs.isThere (Path.ofText path) = .ok true) : find fs (some path) runtime =
      fs.neededText (Path.ofText path) >>= fun text =>
        ofText runtime text path (namedFormat (Path.ofText path)) := by
  rw [find_some hpath, ofFile]
  rw [hthere, ok_bind, if_pos rfl, namedFormat]
  refine congrArg _ (funext fun text => ?_)
  split
  · rfl
  · rfl

theorem find_usual {name : String} (hpath : givenText? path = none)
    (hname : firstThere fs usualNames = .ok (some name)) : find fs path runtime =
      fs.neededText (atHome fs name) >>= fun text =>
        ofText runtime text (atHome fs name).text .foundYaml := by
  rw [find, hpath]
  dsimp only
  rw [discovered, hname]
  rfl

theorem find_project (hpath : givenText? path = none)
    (hname : firstThere fs usualNames = .ok none)
    (hthere : fs.isThere (atHome fs projectName) = .ok true) : find fs path runtime =
      fs.neededText (atHome fs projectName) >>= fun text =>
        ofText runtime text (atHome fs projectName).text .project := by
  rw [find, hpath]
  dsimp only
  rw [discovered, hname, ok_bind]
  dsimp only
  rw [hthere]
  rfl

theorem find_of_searched (runtime : Runtime) (h : Searched fs path p format) :
    ∃ shown, find fs path runtime =
      fs.neededText p >>= fun text => ofText runtime text shown format := by
  cases h with
  | named hpath hthere => exact ⟨_, find_named hpath hthere⟩
  | usual hpath hname => exact ⟨_, find_usual hpath hname⟩
  | project hpath hname hthere => exact ⟨_, find_project hpath hname hthere⟩

theorem find_of_refused (h : Refused fs path) : ∃ b, find fs path runtime = .breakDown b := by
  cases h with
  | named hpath h =>
    rw [find_some hpath, ofFile]
    rw [isThere_of_refuses h, breakDown_bind]
    exact ⟨_, rfl⟩
  | usual hpath h =>
    rw [find, hpath]
    dsimp only
    rw [discovered, h, breakDown_bind]
    exact ⟨_, rfl⟩
  | project hpath hname h =>
    rw [find, hpath]
    dsimp only
    rw [discovered, hname, ok_bind]
    dsimp only
    rw [isThere_of_refuses h, breakDown_bind]
    exact ⟨_, rfl⟩

/-- the lookup comes to a file, it is refused, or it finds nothing and tells so -/
theorem searched_or_refused_or_answer (runtime : Runtime) (fs : FileSystem)
    (path : Option String) :
    (∃ p format, Searched fs path p format) ∨ Refused fs path ∨ Answer (find fs path runtime) := by
  cases hpath : givenText? path with
  | some named =>
    obtain ⟨rfl, hne⟩ := givenText?_eq_some.mp hpath
    rcases isThere_cases fs (Path.ofText named) with h | h | h
    · exact .inr (.inl (.named hne h))
    · exact .inl ⟨_, _, .named hne h⟩
    · refine .inr (.inr ?_)
      rw [find_some hne, ofFile]
      rw [h, ok_bind]
      exact .failure _ named
  | none =>
    rcases hname : firstThere fs usualNames with (f | b) | (_ | name)
    · exact absurd hname (firstThere_ne_failure fs usualNames f)
    · exact .inr (.inl (.usual hpath hname))
    · rcases isThere_cases fs (atHome fs projectName) with h | h | h
      · exact .inr (.inl (.project hpath hname h))
      · exact .inl ⟨_, _, .project hpath hname h⟩
      · refine .inr (.inr ?_)
        rw [find, hpath]
        dsimp only
        rw [discovered, hname, ok_bind]
        dsimp only
        rw [h, ok_bind]
        exact .failure _ none
    · exact .inl ⟨_, _, .usual hpath hname⟩

theorem find_answer_or_unprovided (runtime : Runtime) (fs : FileSystem) (path : Option String) :
    Answer (find fs path runtime) ∨ Unprovided runtime fs path := by
  rcases searched_or_refused_or_answer runtime fs path with ⟨p, format, hfile⟩ | h | h
  · obtain ⟨shown, hfind⟩ := find_of_searched runtime hfile
    cases htext : fs.readText p with
    | error e => exact .inr (.noText hfile htext)
    | ok text =>
      rw [hfind, neededText_of_readText htext, ok_bind]
      rcases ofText_cases runtime text shown format with h | hbreak
      · exact .inl h
      · rcases ofText_breakDown_iff.mp hbreak with h | ⟨v, hv, h⟩
        · exact .inr (.parser hfile htext h)
        · exact .inr (.settings hfile htext hv h)
  · exact .inr (.refused h)
  · exact .inl h

theorem find_of_unprovided (h : Unprovided runtime fs path) :
    ∃ b, find fs path runtime = .breakDown b := by
  have hbreaks {p : Path} {format : Format} {text : List Char}
      (hfile : Searched fs path p format) (htext : fs.readText p = .ok text)
      (h : Unparsed runtime text format ∨
        ∃ v, SettingsIn runtime text format v ∧ Ungathered runtime v) :
      ∃ b, find fs path runtime = .breakDown b := by
    obtain ⟨shown, hfind⟩ := find_of_searched runtime hfile
    rw [hfind, neededText_of_readText htext]
    exact ofText_breakDown_iff.mpr h
  cases h with
  | refused h => exact find_of_refused h
  | noText hfile htext =>
    obtain ⟨shown, hfind⟩ := find_of_searched runtime hfile
    obtain ⟨b, hb⟩ := neededText_of_error htext
    exact ⟨b, by rw [hfind, hb]; rfl⟩
  | parser hfile htext h => exact hbreaks hfile htext (.inl h)
  | settings hfile htext hv h => exact hbreaks hfile htext (.inr ⟨_, hv, h⟩)

/-! ## one content in two places -/

/-- a file of YAML that is named, with its content -/
structure NamedYaml (fs : FileSystem) (path : String) (content : ByteArray) : Prop where
  named : path ≠ ""
  yaml : (Path.ofText path).suffix ≠ ".json"
  there : fs.isThere (Path.ofText path) = .ok true
  bytes : fs.readBytes (Path.ofText path) = .ok content

/-- the first of the usual files of YAML that is there, with its content -/
structure FoundYaml (fs : FileSystem) (name : String) (content : ByteArray) : Prop where
  first : firstThere fs usualNames = .ok (some name)
  bytes : fs.readBytes (atHome fs name) = .ok content

/-- what the parser of YAML makes of a content, if it is a text -/
def parsed? (runtime : Runtime) (content : ByteArray) :
    Option (Except (ParserStop Unit) Value) :=
  (String.fromUTF8? content).map fun text => runtime.yaml (FileSystem.unixLines text.toList)

/-- a text of YAML with a value of which settings can be gathered -/
def Legible (runtime : Runtime) (content : ByteArray) : Prop :=
  ∃ v, parsed? runtime content = some (.ok v) ∧ ¬ Ungathered runtime v

def NoYaml (runtime : Runtime) (content : ByteArray) : Prop :=
  parsed? runtime content = some (.error (.told ()))

theorem legible_of_plain {content : ByteArray} {v : Value}
    (hparsed : parsed? runtime content = some (.ok v)) (h : v.KeysPlain) :
    Legible runtime content :=
  ⟨v, hparsed, not_ungathered_of_plain h⟩

theorem Legible.keysNamed {content : ByteArray} {v : Value} (h : Legible runtime content)
    (hparsed : parsed? runtime content = some (.ok v)) : v.KeysNamed := by
  obtain ⟨w, hw, hgathered⟩ := h
  cases hw.symm.trans hparsed
  exact keysNamed_of_not_ungathered hgathered

variable {named name : String} {content : ByteArray}

theorem readText_of_encoding {s : String} (h : fs.readBytes p = .ok content)
    (hencoding : String.fromUTF8? content = some s) :
    fs.readText p = .ok (FileSystem.unixLines s.toList) := by
  rw [FileSystem.readText, h]
  dsimp only
  rw [hencoding]

theorem NamedYaml.find_eq (h : NamedYaml fs named content) : find fs (some named) runtime =
    fs.neededText (Path.ofText named) >>= fun text => ofText runtime text named .namedYaml := by
  rw [find_named h.named h.there, namedFormat, if_neg h.yaml]

section
variable (h : NamedYaml fs named content) (h' : FoundYaml fs' name content)
include h h'

/-- the same text is read in both places -/
theorem find_of_encoding (runtime : Runtime) {s : String}
    (hencoding : String.fromUTF8? content = some s) :
    find fs (some named) runtime =
        ofText runtime (FileSystem.unixLines s.toList) named .namedYaml ∧
      find fs' none runtime =
        ofText runtime (FileSystem.unixLines s.toList) (atHome fs' name).text .foundYaml := by
  rw [h.find_eq, find_usual rfl h'.first,
    neededText_of_readText (readText_of_encoding h.bytes hencoding),
    neededText_of_readText (readText_of_encoding h'.bytes hencoding)]
  exact ⟨rfl, rfl⟩

/-- a content with a value gives the configuration that the value is, in both places -/
theorem find_of_value {v : Value} (hparsed : parsed? runtime content = some (.ok v)) :
    find fs (some named) runtime = ofValue runtime v named ∧
      find fs' none runtime = ofValue runtime v (atHome fs' name).text := by
  obtain ⟨s, hencoding, hread⟩ := Option.map_eq_some_iff.mp hparsed
  obtain ⟨hnamed, hfound⟩ := find_of_encoding h h' runtime hencoding
  rw [hnamed, hfound]
  exact ⟨ofText_of_settingsIn (.namedYaml hread) _, ofText_of_settingsIn (.foundYaml hread) _⟩

/-- a text that is no YAML is told of if the file was named, and breaks the lookup down if not -/
theorem find_of_noYaml (hcontent : NoYaml runtime content) :
    find fs (some named) runtime = unparsable yamlErrorText named ∧
      find fs' none runtime = .breakDown (.yaml .syntaxError) := by
  obtain ⟨s, hencoding, hread⟩ := Option.map_eq_some_iff.mp hcontent
  obtain ⟨hnamed, hfound⟩ := find_of_encoding h h' runtime hencoding
  rw [hnamed, hfound, ofText, ofText, hread]
  exact ⟨rfl, rfl⟩

theorem find_of_illegible (hlegible : ¬ Legible runtime content)
    (hyaml : ¬ NoYaml runtime content) :
    ∃ b, find fs (some named) runtime = .breakDown b ∧ find fs' none runtime = .breakDown b := by
  rcases hparsed : parsed? runtime content with _ | (e | b) | v
  · have hencoding := Option.map_eq_none_iff.mp hparsed
    have htext := readText_undecodable_iff.mpr ⟨content, h.bytes, hencoding⟩
    have htext' := readText_undecodable_iff.mpr ⟨content, h'.bytes, hencoding⟩
    rw [h.find_eq, find_usual rfl h'.first, FileSystem.neededText, htext, FileSystem.neededText,
      htext']
    exact ⟨.undecodable, rfl, rfl⟩
  · exact absurd hparsed hyaml
  · obtain ⟨s, hencoding, hread⟩ := Option.map_eq_some_iff.mp hparsed
    obtain ⟨hnamed, hfound⟩ := find_of_encoding h h' runtime hencoding
    rw [hnamed, hfound, ofText, ofText, hread]
    exact ⟨b, rfl, rfl⟩
  · obtain ⟨b, hb⟩ := ofValue_of_ungathered (not_not.mp fun hgathered =>
      hlegible ⟨v, hparsed, hgathered⟩)
    obtain ⟨hnamed, hfound⟩ := find_of_value h h' hparsed
    rw [hnamed, hfound]
    exact ⟨b, hb _, hb _⟩

end

/-- **On every runtime, the same content of YAML gives the same configuration in a file that is
named and in one that is found, or failures that differ in the path only, if and only if it is
legible.**  If it is not, the named file is told to be unparsable if it is a text but no YAML, while
the found one breaks the lookup down; and otherwise both break down alike.  A value is legible if
the keys at its top are texts that do not begin with an underscore, and only if they are texts.  In
general, the lookup comes to a configuration or the failure to have one, unless it meets what was
not provided for. -/
theorem find_agrees_iff_legible (runtime : Runtime) (fs : FileSystem) (path : Option String) :
    (∀ fs' named name content, NamedYaml fs named content → FoundYaml fs' name content →
      (Alike named (atHome fs' name).text (find fs (some named) runtime)
            (find fs' none runtime) ↔ Legible runtime content) ∧
        (NoYaml runtime content →
          find fs (some named) runtime = unparsable yamlErrorText named ∧
          find fs' none runtime = .breakDown (.yaml .syntaxError)) ∧
        (¬ Legible runtime content → ¬ NoYaml runtime content →
          ∃ b, find fs (some named) runtime = .breakDown b ∧
            find fs' none runtime = .breakDown b) ∧
        (∀ v, parsed? runtime content = some (.ok v) →
          (v.KeysPlain → Legible runtime content) ∧
            (Legible runtime content → v.KeysNamed))) ∧
      (Answer (find fs path runtime) ↔ ¬ Unprovided runtime fs path) ∧
      ((∃ b, find fs path runtime = .breakDown b) ↔ Unprovided runtime fs path) := by
  refine ⟨fun fs' named name content h h' => ⟨⟨fun halike => ?_, ?_⟩, find_of_noYaml h h',
    find_of_illegible h h', fun v hparsed => ⟨legible_of_plain hparsed, fun hlegible =>
      hlegible.keysNamed hparsed⟩⟩, ⟨?_, ?_⟩, ⟨?_, find_of_unprovided⟩⟩
  · by_contra hlegible
    have hanswer := halike.symm.answer
    by_cases hyaml : NoYaml runtime content
    · exact hanswer.ne_breakDown _ (find_of_noYaml h h' hyaml).2
    · obtain ⟨b, _, hb⟩ := find_of_illegible h h' hlegible hyaml
      exact hanswer.ne_breakDown b hb
  · rintro ⟨v, hparsed, hgathered⟩
    obtain ⟨hfind, hfind'⟩ := find_of_value h h' hparsed
    rw [hfind, hfind']
    exact ofValue_alike hgathered _ _
  · intro hanswer hunprovided
    obtain ⟨b, hb⟩ := find_of_unprovided hunprovided
    exact hanswer.ne_breakDown b hb
  · exact (find_answer_or_unprovided runtime fs path).resolve_right
  · rintro ⟨b, hb⟩
    exact (find_answer_or_unprovided runtime fs path).resolve_left fun h => h.ne_breakDown b hb

theorem isThere_of_short {p : Path} {name : String} (hnames : p.names = [name])
    (hpath : p.text.utf8ByteSize ≤ FileSystem.maxPathBytes)
    (hname : name.utf8ByteSize ≤ FileSystem.maxNameBytes) (hbytes : fs.readBytes p = .ok content) :
    fs.isThere p = .ok true := by
  have hfollowed : fs.refuses p = false := by
    rw [FileSystem.refuses, hnames, decide_eq_false (Nat.not_lt.mpr hpath), Bool.false_or,
      FileSystem.meetsLongName]
    split
    · rw [decide_eq_false (Nat.not_lt.mpr hname), Bool.false_or, FileSystem.meetsLongName]
    · rfl
  rw [isThere_of_not_refuses hfollowed, leadsSomewhere_of_readBytes hbytes]

/-- a file that is named and a usual one, with the same content -/
def sameSettings (content : String) : FileSystem where
  nodes := [(["named.yaml"], .file content.toUTF8), (["restfulgen.yaml"], .file content.toUTF8)]
  home := []

theorem fromUTF8?_toUTF8 (s : String) : String.fromUTF8? s.toUTF8 = some s :=
  dif_pos (show s.toUTF8.IsValidUTF8 from s.isValidUTF8)

theorem unixLines_openList :
    FileSystem.unixLines "documents: [".toList = "documents: [".toList := by
  decide +kernel

def isTold {ε α : Type} : Except (ParserStop ε) α → Bool
  | .error (.told _) => true
  | _ => false

theorem eq_told_of_isTold {α : Type} {x : Except (ParserStop Unit) α} (h : isTold x = true) :
    x = .error (.told ()) := by
  match x, h with
  | .error (.told ()), _ => rfl

theorem noYaml_openList : NoYaml .usual "documents: [".toUTF8 := by
  have hyaml : Runtime.usual.yaml = Runtime.usualYaml := rfl
  have htold : isTold (Runtime.usualYaml "documents: [".toList) = true := by decide +kernel
  rw [NoYaml, parsed?, fromUTF8?_toUTF8, Option.map_some, unixLines_openList, hyaml,
    eq_told_of_isTold htold]

theorem legible_empty : Legible .usual "".toUTF8 := by
  have hparsed : parsed? .usual "".toUTF8 = some (.ok .null) := by
    rw [parsed?, fromUTF8?_toUTF8]
    rfl
  exact legible_of_plain hparsed fun _ h => nomatch h

/-- A list that is left open is told of in the named file only; an empty file comes to the same in
both places. -/
theorem find_sameSettings :
    (∀ content, NamedYaml (sameSettings content) "named.yaml" content.toUTF8) ∧
      (∀ content, FoundYaml (sameSettings content) "restfulgen.yaml" content.toUTF8) ∧
      ¬ Alike "named.yaml" "/restfulgen.yaml"
        (find (sameSettings "documents: [") (some "named.yaml"))
        (find (sameSettings "documents: [") none) ∧
      ¬ Answer (find (sameSettings "documents: [") none) ∧
      Alike "named.yaml" "/restfulgen.yaml" (find (sameSettings "") (some "named.yaml"))
        (find (sameSettings "") none) := by
  have hnamed : ∀ content, NamedYaml (sameSettings content) "named.yaml" content.toUTF8 := by
    intro content
    have hbytes : (sameSettings content).readBytes (Path.ofText "named.yaml") =
        .ok content.toUTF8 := rfl
    exact ⟨by decide, by decide +kernel,
      isThere_of_short rfl (by decide +kernel) (by decide +kernel) hbytes, hbytes⟩
  have husual : (Path.text ⟨"/", ["restfulgen.yaml"]⟩).utf8ByteSize ≤ FileSystem.maxPathBytes := by
    decide +kernel
  have hfound : ∀ content, FoundYaml (sameSettings content) "restfulgen.yaml" content.toUTF8 := by
    intro content
    have hbytes : (sameSettings content).readBytes
        (atHome (sameSettings content) "restfulgen.yaml") = .ok content.toUTF8 := rfl
    have hthere : (sameSettings content).isThere
        (atHome (sameSettings content) "restfulgen.yaml") = .ok true :=
      isThere_of_short rfl husual (by decide +kernel) hbytes
    refine ⟨?_, hbytes⟩
    rw [usualNames, firstThere, hthere]
    rfl
  obtain ⟨hopen, hanswer, hbreaksIff⟩ :=
    find_agrees_iff_legible .usual (sameSettings "documents: [") none
  obtain ⟨hempty, _⟩ := find_agrees_iff_legible .usual (sameSettings "") none
  obtain ⟨_, hnoYaml, _, _⟩ := hopen _ _ _ _ (hnamed "documents: [") (hfound "documents: [")
  obtain ⟨hlegible, _⟩ := hempty _ _ _ _ (hnamed "") (hfound "")
  have hbreaks := (hnoYaml noYaml_openList).2
  refine ⟨hnamed, hfound, ?_, ?_, hlegible.mpr legible_empty⟩
  · rintro h
    exact h.symm.answer.ne_breakDown _ hbreaks
  · intro h
    exact hanswer.mp h (hbreaksIff.mp ⟨_, hbreaks⟩)

end Configuration

end ApiBindings
