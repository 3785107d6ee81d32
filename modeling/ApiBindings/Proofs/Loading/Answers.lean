import ApiBindings.Loading
import ApiBindings.Proofs.Document.Extent
import ApiBindings.Proofs.Outcome
import ApiBindings.Proofs.Swagger.Convertible

/-!
# What loading a file comes to

A file that is loaded gives a description, or a failure that tells why it does not.  Some files it
was not prepared for: their names are too long, they are not in UTF-8, they break a parser down, or
they hold documents with which the loader breaks down itself.  Such a document is of the older
version and cannot be converted, or it is too much for the machine: its version cannot be shown, or
its parts cannot be gone through.

* `LoadAnswer`                         the answers that loading is meant to give;
* `Garbled`, `Stubborn`, `Unprepared`  the files that it was not prepared for;
* `load_answers_iff_not_unprepared`    it gives an answer for all others, and breaks down with them.
-/

namespace ApiBindings

/-- a description that was read off a document of a supported version, or one of three failures -/
inductive LoadAnswer (source : String) : Attempt Description → Prop
  | description {document : Fields} {version : Value} {d : Description}
      (hversion : document.present? "openapi" = some version)
      (hsupported : isSupportedVersion version.plain = true)
      (hread : Description.read (.map document) = .ok d) : LoadAnswer source (.ok d)
  | notLoaded (cause : Cause) : LoadAnswer source (.fail (.notLoaded source (some cause)))
  | unsupportedVersion (version : Option String) :
      LoadAnswer source (.fail (.unsupportedVersion version))
  | invalid (issues : List String) : LoadAnswer source (.fail (.invalid source issues))

theorem LoadAnswer.ne_breakDown {source : String} {x : Attempt Description}
    (h : LoadAnswer source x) (b : Breakdown) : x ≠ .breakDown b := by
  rintro rfl
  cases h

/-! ## the value in a file -/

section
variable (runtime : Runtime) (fs : FileSystem) (source : String)

/-- a file that cannot be looked for, whose bytes are no text, or whose text breaks a parser down -/
inductive Garbled : Prop
  | name (hname : fs.refuses (Path.ofText source) = true)
  | encoding {content : ByteArray} (hbytes : fs.readBytes (Path.ofText source) = .ok content)
      (hencoding : String.fromUTF8? content = none)
  | json {text : List Char} {b : Breakdown}
      (htext : fs.readText (Path.ofText source) = .ok text)
      (hsuffix : (Path.ofText source).suffix = ".json")
      (hread : runtime.json text = .error (.breakdown b))
  | yaml {text : List Char} {b : Breakdown}
      (htext : fs.readText (Path.ofText source) = .ok text)
      (hsuffix : (Path.ofText source).suffix ≠ ".json")
      (hread : runtime.yaml text = .error (.breakdown b))

/-- a value, the failure to load one, or a breakdown -/
inductive ContentAnswer : Attempt Value → Prop
  | value (v : Value) : ContentAnswer (.ok v)
  | notLoaded (cause : Cause) : ContentAnswer (.fail (.notLoaded source (some cause)))
  | breakDown (b : Breakdown) : ContentAnswer (.breakDown b)

end

variable {runtime : Runtime} {fs : FileSystem} {source : String}

theorem parsedContent_answer {ε : Type} (cause : ε → Cause) (x : Except (ParserStop ε) Value) :
    ContentAnswer source (parsedContent source cause x) := by
  unfold parsedContent
  split
  · exact .value _
  · exact .notLoaded _
  · exact .breakDown _

theorem parsedContent_breakDown_iff {ε : Type} {cause : ε → Cause}
    {x : Except (ParserStop ε) Value} : (∃ b, parsedContent source cause x = .breakDown b) ↔
      ∃ b, x = .error (.breakdown b) := by
  unfold parsedContent
  constructor
  · rintro ⟨b, h⟩
    split at h
    · cases h
    · cases h
    · exact ⟨_, rfl⟩
  · rintro ⟨b, rfl⟩
    exact ⟨b, rfl⟩

theorem readText_undecodable_iff {p : Path} : fs.readText p = .error .undecodable ↔
    ∃ content, fs.readBytes p = .ok content ∧ String.fromUTF8? content = none := by
  unfold FileSystem.readText
  cases fs.readBytes p with
  | error fault =>
    constructor
    · intro h
      cases h
    · rintro ⟨_, h, _⟩
      cases h
  | ok content =>
    dsimp only
    constructor
    · intro h
      split at h
      · cases h
      · exact ⟨content, rfl, ‹_›⟩
    · rintro ⟨_, h, hnone⟩
      cases h
      rw [hnone]

theorem leadsSomewhere_of_readBytes {p : Path} {content : ByteArray}
    (h : fs.readBytes p = .ok content) : fs.leadsSomewhere p = true := by
  unfold FileSystem.readBytes at h
  unfold FileSystem.leadsSomewhere
  cases hfind : fs.find p with
  | error fault =>
    rw [hfind] at h
    cases h
  | ok node => rfl

theorem leadsSomewhere_of_readText {p : Path} {text : List Char} (h : fs.readText p = .ok text) :
    fs.leadsSomewhere p = true := by
  unfold FileSystem.readText at h
  split at h
  · cases h
  · exact leadsSomewhere_of_readBytes ‹_›

theorem isThere_of_refuses {p : Path} (h : fs.refuses p = true) :
    fs.isThere p = .breakDown (.unreadable .missing) := if_pos h

theorem isThere_of_not_refuses {p : Path} (h : fs.refuses p = false) :
    fs.isThere p = .ok (fs.leadsSomewhere p) :=
  if_neg (by rw [h]; exact Bool.false_ne_true)

theorem ok_bind {α β : Type} (a : α) (f : α → Attempt β) : (Except.ok a >>= f) = f a := rfl

theorem breakDown_bind {α β : Type} (b : Breakdown) (f : α → Attempt β) :
    (Attempt.breakDown b >>= f) = .breakDown b := rfl

theorem content_of_refuses (h : fs.refuses (Path.ofText source) = true) :
    fs.content source runtime = .breakDown (.unreadable .missing) := by
  unfold FileSystem.content
  dsimp only
  rw [isThere_of_refuses h, breakDown_bind]

theorem content_of_missing (h : fs.refuses (Path.ofText source) = false)
    (hthere : fs.leadsSomewhere (Path.ofText source) = false) : fs.content source runtime =
      .fail (.notLoaded source (some (.fileNotFound (Path.ofText source).text))) := by
  unfold FileSystem.content
  dsimp only
  rw [isThere_of_not_refuses h, ok_bind, hthere]
  rfl

theorem content_of_there (h : fs.refuses (Path.ofText source) = false)
    (hthere : fs.leadsSomewhere (Path.ofText source) = true) : fs.content source runtime =
      match fs.readText (Path.ofText source) with
      | .error (.fault fault) =>
        .fail (.notLoaded source (some (.file fault (Path.ofText source).text)))
      | .error .undecodable => .breakDown .undecodable
      | .ok text =>
        if (Path.ofText source).suffix = ".json" then jsonContent runtime source text
        else yamlContent runtime source text := by
  unfold FileSystem.content
  dsimp only
  rw [isThere_of_not_refuses h, ok_bind, hthere]
  rfl

theorem content_of_readText {text : List Char} (h : fs.refuses (Path.ofText source) = false)
    (htext : fs.readText (Path.ofText source) = .ok text) : fs.content source runtime =
      if (Path.ofText source).suffix = ".json" then jsonContent runtime source text
      else yamlContent runtime source text := by
  rw [content_of_there h (leadsSomewhere_of_readText htext), htext]

theorem content_answer (runtime : Runtime) (fs : FileSystem) (source : String) :
    ContentAnswer source (fs.content source runtime) := by
  cases hname : fs.refuses (Path.ofText source) with
  | true =>
    rw [content_of_refuses hname]
    exact .breakDown _
  | false =>
    cases hthere : fs.leadsSomewhere (Path.ofText source) with
    | false =>
      rw [content_of_missing hname hthere]
      exact .notLoaded _
    | true =>
      rw [content_of_there hname hthere]
      split
      · exact .notLoaded _
      · exact .breakDown _
      · split
        · exact parsedContent_answer _ _
        · exact parsedContent_answer _ _

theorem garbled_of_content {b : Breakdown} (h : fs.content source runtime = .breakDown b) :
    Garbled runtime fs source := by
  cases hname : fs.refuses (Path.ofText source) with
  | true => exact .name hname
  | false =>
    cases hthere : fs.leadsSomewhere (Path.ofText source) with
    | false =>
      rw [content_of_missing hname hthere] at h
      cases h
    | true =>
      rw [content_of_there hname hthere] at h
      cases htext : fs.readText (Path.ofText source) with
      | error unreadable =>
        rw [htext] at h
        cases unreadable with
        | fault f => cases h
        | undecodable =>
          obtain ⟨content, hbytes, hencoding⟩ := readText_undecodable_iff.mp htext
          exact .encoding hbytes hencoding
      | ok text =>
        rw [htext] at h
        dsimp only at h
        split at h
        · rename_i hsuffix
          obtain ⟨b, hread⟩ := parsedContent_breakDown_iff.mp ⟨b, h⟩
          exact .json htext hsuffix hread
        · rename_i hsuffix
          obtain ⟨b, hread⟩ := parsedContent_breakDown_iff.mp ⟨b, h⟩
          exact .yaml htext hsuffix hread

theorem content_of_garbled (h : Garbled runtime fs source) :
    ∃ b, fs.content source runtime = .breakDown b := by
  cases hname : fs.refuses (Path.ofText source) with
  | true => exact ⟨_, content_of_refuses hname⟩
  | false =>
    cases h with
    | name h => exact absurd h (by rw [hname]; exact Bool.false_ne_true)
    | encoding hbytes hencoding =>
      have htext := readText_undecodable_iff.mpr ⟨_, hbytes, hencoding⟩
      rw [content_of_there hname (leadsSomewhere_of_readBytes hbytes), htext]
      exact ⟨_, rfl⟩
    | json htext hsuffix hread =>
      rw [content_of_readText hname htext, if_pos hsuffix]
      exact parsedContent_breakDown_iff.mpr ⟨_, hread⟩
    | yaml htext hsuffix hread =>
      rw [content_of_readText hname htext, if_neg hsuffix]
      exact parsedContent_breakDown_iff.mpr ⟨_, hread⟩

theorem content_breakDown_iff :
    (∃ b, fs.content source runtime = .breakDown b) ↔ Garbled runtime fs source :=
  ⟨fun ⟨_, h⟩ => garbled_of_content h, content_of_garbled⟩

/-! ## documents -/

/-- a value that the version of a document is read off -/
inductive TellsVersion (document : Fields) : Value → Prop
  | older {v : Value} (h : document.get? "swagger" = some v) : TellsVersion document v
  | newer {v : Value} (hnone : document.get? "swagger" = none)
      (h : document.present? "openapi" = some v) : TellsVersion document v

/-- a document that the loader breaks down with: its version cannot be shown, or it is of the older
version and cannot be converted, since the machine gives up or since a part has not the form that
the conversion needs -/
inductive Stubborn (runtime : Runtime) (document : Fields) : Prop
  | version {v : Value} {b : Breakdown} (hv : TellsVersion document v)
      (hshow : runtime.showing v = some b)
  | extent {b : Breakdown} (hversion : shown (document.get? "swagger") = "2.0")
      (hconvert : runtime.converting (.map document) = some b)
  | parts (hversion : shown (document.get? "swagger") = "2.0")
      (hparts : ¬ Swagger.Convertible document)

theorem text_of_showing {v : Value} {b : Breakdown} (h : runtime.showing v = some b) :
    runtime.text v = .breakDown b := by
  rw [Runtime.text, h]

theorem text_of_shown {v : Value} (h : runtime.showing v = none) :
    runtime.text v = .ok v.plain := by
  rw [Runtime.text, h]

theorem checkedDescription_of_unshown {document : Fields} {v : Value} {b : Breakdown}
    (hversion : document.present? "openapi" = some v) (hshow : runtime.showing v = some b) :
    ∃ b, checkedDescription (.map document) source runtime = .breakDown b := by
  have hentries : Attempt.ofRaw (Value.map document).entries = .ok document := rfl
  refine ⟨b, ?_⟩
  unfold checkedDescription
  rw [hentries, ok_bind, hversion]
  dsimp only
  rw [text_of_showing hshow, breakDown_bind]

theorem checkedDescription_of_shown {document : Fields} {v : Value}
    (hversion : document.present? "openapi" = some v) (hshow : runtime.showing v = none)
    (source : String) : LoadAnswer source (checkedDescription (.map document) source runtime) := by
  have hentries : Attempt.ofRaw (Value.map document).entries = .ok document := rfl
  unfold checkedDescription
  rw [hentries, ok_bind, hversion]
  dsimp only
  rw [text_of_shown hshow, ok_bind]
  split
  · rename_i hsupported
    split
    · rename_i d hread
      exact .description hversion hsupported hread
    · exact .invalid _
  · exact .unsupportedVersion _

/-- a description is checked, or its version cannot be shown -/
theorem checkedDescription_cases (runtime : Runtime) (document : Fields) (source : String) :
    LoadAnswer source (checkedDescription (.map document) source runtime) ∨
      ∃ v b, document.present? "openapi" = some v ∧ runtime.showing v = some b := by
  cases hversion : document.present? "openapi" with
  | none =>
    refine .inl ?_
    have hentries : Attempt.ofRaw (Value.map document).entries = .ok document := rfl
    unfold checkedDescription
    rw [hentries, ok_bind, hversion]
    exact .unsupportedVersion none
  | some v =>
    cases hshow : runtime.showing v with
    | some b => exact .inr ⟨v, b, rfl, hshow⟩
    | none => exact .inl (checkedDescription_of_shown hversion hshow source)

theorem swaggerVersion?_map (runtime : Runtime) (document : Fields) :
    swaggerVersion? (.map document) runtime =
      match document.get? "swagger" with
      | none => .ok none
      | some v => runtime.text v >>= fun version => .ok (some version) := by
  unfold swaggerVersion?
  show (if document.has "swagger" then _ else _) = _
  unfold Fields.has
  cases document.get? "swagger" with
  | none => rfl
  | some v => rfl

/-- what a conversion gives is a mapping of the version that it writes, and it goes through exactly
if the parts have their forms -/
theorem ofRaw_convert_cases (document : Fields) :
    (∃ (out : Fields) (warnings : List String),
        Attempt.ofRaw (Swagger.convert (.map document)) = .ok ⟨.map out, warnings⟩ ∧
        out.present? "openapi" = some (.text "3.0.3") ∧ Swagger.Convertible document) ∨
      ∃ m, Attempt.ofRaw (Swagger.convert (.map document)) = .breakDown (.malformed m) ∧
        ¬ Swagger.Convertible document := by
  rw [← Swagger.goesThrough_convert_iff]
  cases hconvert : Swagger.convert (.map document) with
  | error m =>
    refine .inr ⟨m, rfl, ?_⟩
    rintro ⟨out, warnings, h⟩
    cases h
  | ok converted =>
    obtain ⟨v, warnings⟩ := converted
    obtain ⟨out, rfl, hversion⟩ := Swagger.convert_gives_map ⟨warnings, hconvert⟩
    exact .inl ⟨out, warnings, rfl, hversion, _, warnings, rfl⟩

theorem parse_of_upgraded {l : Loader} {document : Fields} {u : Noted Value}
    (h : Loader.upgraded (.map document) runtime = .ok u) :
    (l.parse (.map document) source runtime).1 =
      checkedDescription u.value source runtime := by
  unfold Loader.parse
  rw [h]

theorem parse_of_not_upgraded {l : Loader} {document : Fields} {e : Interruption}
    (h : Loader.upgraded (.map document) runtime = .error e) :
    (l.parse (.map document) source runtime).1 = .error e := by
  unfold Loader.parse
  rw [h]

theorem upgraded_of_older {document : Fields} {v : Value}
    (hv : document.get? "swagger" = some v) (hshow : runtime.showing v = none) :
    Loader.upgraded (.map document) runtime =
      if v.plain = "2.0" then runtime.convert (.map document)
      else .fail (.unsupportedVersion (some v.plain)) := by
  unfold Loader.upgraded
  rw [swaggerVersion?_map, hv]
  dsimp only
  rw [text_of_shown hshow, ok_bind, ok_bind]
  split
  · rename_i h
    cases h
  · rename_i h
    rw [if_pos (Option.some.inj h)]
  · rename_i version hother h
    cases h
    rw [if_neg hother]

theorem upgraded_of_newer {document : Fields} (hv : document.get? "swagger" = none) :
    Loader.upgraded (.map document) runtime = .ok ⟨.map document, []⟩ := by
  unfold Loader.upgraded
  rw [swaggerVersion?_map, hv]
  rfl

theorem upgraded_of_unshown {document : Fields} {v : Value} {b : Breakdown}
    (hv : document.get? "swagger" = some v) (hshow : runtime.showing v = some b) :
    Loader.upgraded (.map document) runtime = .breakDown b := by
  unfold Loader.upgraded
  rw [swaggerVersion?_map, hv]
  dsimp only
  rw [text_of_showing hshow]
  rfl

theorem get?_of_shown {document : Fields} (h : shown (document.get? "swagger") = "2.0") :
    ∃ v, document.get? "swagger" = some v ∧ v.plain = "2.0" := by
  cases hv : document.get? "swagger" with
  | none =>
    rw [hv] at h
    exact absurd h (by decide)
  | some v =>
    rw [hv] at h
    exact ⟨v, rfl, h⟩

theorem parse_of_stubborn {document : Fields} (h : Stubborn runtime document) (l : Loader)
    (source : String) : ∃ b, (l.parse (.map document) source runtime).1 = .breakDown b := by
  -- of the older version the machine may fail to show the version, before the rest counts
  have hold (hversion : shown (document.get? "swagger") = "2.0")
      (hconvert : ∃ b, runtime.convert (.map document) = .breakDown b) :
      ∃ b, (l.parse (.map document) source runtime).1 = .breakDown b := by
    obtain ⟨v, hv, htext⟩ := get?_of_shown hversion
    cases hshow : runtime.showing v with
    | some b => exact ⟨b, parse_of_not_upgraded (upgraded_of_unshown hv hshow)⟩
    | none =>
      obtain ⟨b, hb⟩ := hconvert
      have hupgraded := upgraded_of_older hv hshow
      rw [if_pos htext, hb] at hupgraded
      exact ⟨b, parse_of_not_upgraded hupgraded⟩
  cases h with
  | version hv hshow =>
    cases hv with
    | older hv => exact ⟨_, parse_of_not_upgraded (upgraded_of_unshown hv hshow)⟩
    | newer hnone hversion =>
      rw [parse_of_upgraded (upgraded_of_newer hnone)]
      exact checkedDescription_of_unshown hversion hshow
  | extent hversion hconvert =>
    rename_i b
    refine hold hversion ⟨b, ?_⟩
    rw [Runtime.convert, hconvert]
  | parts hversion hparts =>
    refine hold hversion ?_
    unfold Runtime.convert
    split
    · exact ⟨_, rfl⟩
    · rcases ofRaw_convert_cases document with ⟨_, _, _, _, hfits⟩ | ⟨m, hm, _⟩
      · exact absurd hfits hparts
      · exact ⟨_, hm⟩

/-- a document is answered unless it is stubborn -/
theorem parse_answer_or_stubborn (runtime : Runtime) (l : Loader) (document : Fields)
    (source : String) : LoadAnswer source (l.parse (.map document) source runtime).1 ∨
      Stubborn runtime document := by
  cases hv : document.get? "swagger" with
  | none =>
    rw [parse_of_upgraded (upgraded_of_newer hv)]
    rcases checkedDescription_cases runtime document source with h | ⟨v, b, hversion, hshow⟩
    · exact .inl h
    · exact .inr (.version (.newer hv hversion) hshow)
  | some v =>
    cases hshow : runtime.showing v with
    | some b => exact .inr (.version (.older hv) hshow)
    | none =>
      have hupgraded := upgraded_of_older hv hshow
      by_cases htext : v.plain = "2.0"
      · have hversion : shown (document.get? "swagger") = "2.0" := by rw [hv]; exact htext
        rw [if_pos htext, Runtime.convert] at hupgraded
        cases hconvert : runtime.converting (.map document) with
        | some b => exact .inr (.extent hversion hconvert)
        | none =>
          rw [hconvert] at hupgraded
          dsimp only at hupgraded
          rcases ofRaw_convert_cases document with ⟨out, ws, hout, hnewer, _⟩ | ⟨m, _, hparts⟩
          · rw [hout] at hupgraded
            rw [parse_of_upgraded hupgraded]
            refine .inl (checkedDescription_of_shown hnewer ?_ source)
            exact runtime.showing_ordinary _ (Value.ordinary_text _)
          · exact .inr (.parts hversion hparts)
      · rw [if_neg htext] at hupgraded
        rw [parse_of_not_upgraded hupgraded]
        exact .inl (.unsupportedVersion _)

theorem parse_breakDown_iff {l : Loader} {document : Fields} :
    (∃ b, (l.parse (.map document) source runtime).1 = .breakDown b) ↔
      Stubborn runtime document := by
  refine ⟨?_, fun h => parse_of_stubborn h l source⟩
  rintro ⟨b, hb⟩
  rcases parse_answer_or_stubborn runtime l document source with h | h
  · exact absurd hb (h.ne_breakDown b)
  · exact h

/-! ## documents of ordinary extent -/

/-- with a document of ordinary extent, only the forms of its parts count -/
theorem stubborn_iff_of_ordinary (runtime : Runtime) {document : Fields}
    (h : (Value.map document).Ordinary) :
    Stubborn runtime document ↔
      shown (document.get? "swagger") = "2.0" ∧ ¬ Swagger.Convertible document := by
  constructor
  · intro hstubborn
    cases hstubborn with
    | @version v b hv hshow =>
      have hordinary : v.Ordinary := by
        cases hv with
        | older hv => exact h.of_get? hv
        | newer _ hv => exact h.of_get? (Option.filter_eq_some_iff.mp hv).1
      rw [runtime.showing_ordinary v hordinary] at hshow
      cases hshow
    | extent _ hconvert =>
      rw [runtime.converting_ordinary _ h] at hconvert
      cases hconvert
    | parts hversion hparts => exact ⟨hversion, hparts⟩
  · rintro ⟨hversion, hparts⟩
    exact .parts hversion hparts

/-! ## sources -/

/-- a file that loading was not prepared for: it is garbled, or it holds a stubborn document -/
inductive Unprepared (runtime : Runtime) (fs : FileSystem) (source : String) : Prop
  | garbled (h : Garbled runtime fs source)
  | document {document : Fields} (hcontent : fs.content source runtime = .ok (.map document))
      (h : Stubborn runtime document)

variable {sources : Sources}

theorem content_local (hlocal : Web.isUrl source = false) :
    sources.content source runtime = sources.files.content source runtime := by
  rw [Sources.content, hlocal, if_neg Bool.false_ne_true]

theorem load_of_mapping {l : Loader} {document : Fields} (hlocal : Web.isUrl source = false)
    (h : sources.files.content source runtime = .ok (.map document)) :
    (l.load sources source runtime).1 = (l.parse (.map document) source runtime).1 := by
  unfold Loader.load
  rw [content_local hlocal, h]

theorem load_answer_or_unprepared (runtime : Runtime) (l : Loader)
    (hlocal : Web.isUrl source = false) :
    LoadAnswer source (l.load sources source runtime).1 ∨
      Unprepared runtime sources.files source := by
  have hcontent := content_answer runtime sources.files source
  unfold Loader.load
  rw [content_local hlocal]
  split
  · rename_i e h
    rw [h] at hcontent
    cases hcontent with
    | notLoaded cause => exact .inl (.notLoaded cause)
    | breakDown b => exact .inr (.garbled (garbled_of_content h))
  · rename_i document h
    rcases parse_answer_or_stubborn runtime l document source with hanswer | hstubborn
    · exact .inl hanswer
    · exact .inr (.document h hstubborn)
  · exact .inl (.notLoaded .notMapping)

theorem load_of_unprepared {l : Loader} (hlocal : Web.isUrl source = false)
    (h : Unprepared runtime sources.files source) :
    ∃ b, (l.load sources source runtime).1 = .breakDown b := by
  cases h with
  | garbled h =>
    obtain ⟨b, hb⟩ := content_of_garbled h
    unfold Loader.load
    rw [content_local hlocal, hb]
    exact ⟨b, rfl⟩
  | document hcontent h =>
    rw [load_of_mapping hlocal hcontent]
    exact parse_of_stubborn h l source

/-- **Loading a file gives one of its answers, unless the file is garbled or holds a stubborn
document.  Then loading breaks down.**  On any runtime, a document of ordinary extent is stubborn
only if it is of the older version and a part of it has not the form that the conversion needs. -/
theorem load_answers_iff_not_unprepared {l : Loader} (hlocal : Web.isUrl source = false) :
    (LoadAnswer source (l.load sources source runtime).1 ↔
        ¬ Unprepared runtime sources.files source) ∧
      ((∃ b, (l.load sources source runtime).1 = .breakDown b) ↔
        Unprepared runtime sources.files source) ∧
      (∀ document : Fields, sources.files.content source runtime = .ok (.map document) →
        (Value.map document).Ordinary →
        (LoadAnswer source (l.load sources source runtime).1 ↔
          (shown (document.get? "swagger") = "2.0" → Swagger.Convertible document))) := by
  refine ⟨⟨?_, ?_⟩, ⟨?_, load_of_unprepared hlocal⟩, ?_⟩
  · intro hanswer hunprepared
    obtain ⟨b, hb⟩ := load_of_unprepared hlocal hunprepared
    exact hanswer.ne_breakDown b hb
  · exact (load_answer_or_unprepared runtime l hlocal).resolve_right
  · rintro ⟨b, hb⟩
    exact (load_answer_or_unprepared runtime l hlocal).resolve_left fun h => h.ne_breakDown b hb
  · intro document hcontent hordinary
    have hstubborn := stubborn_iff_of_ordinary runtime hordinary
    rw [load_of_mapping hlocal hcontent]
    constructor
    · intro hanswer hversion
      by_contra hparts
      obtain ⟨b, hb⟩ := parse_of_stubborn (hstubborn.mpr ⟨hversion, hparts⟩) l source
      exact hanswer.ne_breakDown b hb
    · intro hparts
      refine (parse_answer_or_stubborn runtime l document source).resolve_right fun h => ?_
      obtain ⟨hversion, hnot⟩ := hstubborn.mp h
      exact hnot (hparts hversion)

theorem Runtime.usual_json_of_read {text : List Char} {v : Value}
    (hread : Json.read text = .ok v) (hdepth : Json.nesting text ≤ nestingLimit) :
    Runtime.usual.json text = .ok v := by
  have hjson : Runtime.usual.json = Runtime.usualJson := rfl
  rw [hjson, Runtime.usualJson, hread]
  exact if_neg (Nat.not_lt.mpr hdepth)

/-- a file that is no text, and a document of the older version whose paths are a number -/
def oddSources : Sources where
  files :=
    { nodes := [(["bad.yaml"], .file ⟨#[255]⟩),
        (["odd.json"], .file "\x7b\"swagger\": \"2.0\", \"paths\": 3\x7d".toUTF8)]
      home := [] }
  web := ⟨[], .unreachable "offline", false⟩

theorem content_odd : oddSources.files.content "odd.json" .usual =
    .ok (.object [("swagger", .text "2.0"), ("paths", .atom (.int 3))]) := by
  have htext : oddSources.files.readText (Path.ofText "odd.json") =
      .ok "\x7b\"swagger\": \"2.0\", \"paths\": 3\x7d".toList :=
    toOption_eq_some.mp (by decide +kernel)
  have hname : oddSources.files.refuses (Path.ofText "odd.json") = false := by decide +kernel
  have hsuffix : (Path.ofText "odd.json").suffix = ".json" := by decide +kernel
  have hread : Json.read "\x7b\"swagger\": \"2.0\", \"paths\": 3\x7d".toList =
      .ok (.object [("swagger", .text "2.0"), ("paths", .atom (.int 3))]) := rfl
  rw [content_of_readText hname htext, if_pos hsuffix, jsonContent,
    Runtime.usual_json_of_read hread (by decide +kernel)]
  rfl

theorem not_convertible_odd :
    ¬ Swagger.Convertible
      [(.string "swagger", .text "2.0"), (.string "paths", .atom (.int 3))] := by
  intro h
  obtain ⟨paths, hpaths, _⟩ := h.paths (.atom (.int 3)) rfl
  cases hpaths

theorem garbled_bad : Garbled .usual oddSources.files "bad.yaml" := by
  have hbytes : oddSources.files.readBytes (Path.ofText "bad.yaml") = .ok ⟨#[255]⟩ := rfl
  exact .encoding hbytes (by decide +kernel)

theorem not_unprepared_gone : ¬ Unprepared .usual oddSources.files "gone.json" := by
  have hcontent : oddSources.files.content "gone.json" .usual =
      .fail (.notLoaded "gone.json" (some (.fileNotFound "gone.json"))) := by
    have hname : oddSources.files.refuses (Path.ofText "gone.json") = false := by decide +kernel
    exact content_of_missing hname rfl
  rintro (hgarbled | ⟨h, _⟩)
  · obtain ⟨b, hb⟩ := content_of_garbled hgarbled
    rw [hcontent] at hb
    cases hb
  · rw [hcontent] at h
    cases h

/-- a file that is not there is told to be missing, but the others break loading down -/
theorem load_oddSources_answers :
    Web.isUrl "bad.yaml" = false ∧ Web.isUrl "odd.json" = false ∧ Web.isUrl "gone.json" = false ∧
      (∃ b, (Loader.load {} oddSources "bad.yaml").1 = .breakDown b) ∧
      ¬ LoadAnswer "odd.json" (Loader.load {} oddSources "odd.json").1 ∧
      LoadAnswer "gone.json" (Loader.load {} oddSources "gone.json").1 := by
  have hbad : Web.isUrl "bad.yaml" = false := by decide +kernel
  have hodd : Web.isUrl "odd.json" = false := by decide +kernel
  have hgone : Web.isUrl "gone.json" = false := by decide +kernel
  refine ⟨hbad, hodd, hgone, ?_, ?_, ?_⟩
  · exact (load_answers_iff_not_unprepared hbad).2.1.mpr (.garbled garbled_bad)
  · intro hanswer
    have hordinary := (load_answers_iff_not_unprepared (l := {}) hodd).2.2 _ content_odd
      ⟨by decide, by decide⟩
    exact not_convertible_odd (hordinary.mp hanswer rfl)
  · exact (load_answers_iff_not_unprepared hgone).1.mpr not_unprepared_gone

end ApiBindings
