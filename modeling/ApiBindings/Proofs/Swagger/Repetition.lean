import ApiBindings.Proofs.Swagger.Document

/-!
# Converting a document again

An upgrader keeps the warnings of its conversions and the names of the bodies that they found.  What
a pointer in a list of parameters becomes depends on these names.  A conversion finds all of them
before it comes to the first list, so what is kept from earlier ones adds nothing.

* `convertPaths_congr`      it only matters which names there are;
* `convertKnowing_eq`       names that are found anyway change nothing;
* `Upgrader.runs_eq`        what a number of conversions in a row give and leave;
* `Upgrader.runs_repeat`    they all give the same, and the warnings are repeated.
-/

namespace ApiBindings.Swagger

open Conversion

/-! ## which names there are -/

section
variable {bodies bodies' : List Atom} (h : ∀ name, name ∈ bodies ↔ name ∈ bodies')
include h

theorem convertPointer_congr : convertPointer bodies = convertPointer bodies' := by
  funext target
  have hcontains : bodies.contains (.string (pointerName target)) =
      bodies'.contains (.string (pointerName target)) := by
    rw [Bool.eq_iff_iff, List.contains_iff_mem, List.contains_iff_mem, h]
  rw [convertPointer, convertPointer, hcontains]

theorem convertParameters_congr : convertParameters bodies = convertParameters bodies' := by
  have hone : convertParameter bodies = convertParameter bodies' := by
    funext consumes parameter
    rw [convertParameter, convertParameter, convertPointer_congr h]
  funext consumes parameters
  rw [convertParameters, convertParameters, hone]

variable (consumes produces : Option Value)

theorem convertOperation_congr :
    convertOperation ⟨bodies, consumes, produces⟩ =
      convertOperation ⟨bodies', consumes, produces⟩ := by
  have hentry : convertOperationEntry ⟨bodies, consumes, produces⟩ =
      convertOperationEntry ⟨bodies', consumes, produces⟩ := by
    funext operation entry
    unfold convertOperationEntry
    rw [convertParameters_congr h]
  funext operation
  rw [convertOperation, convertOperation, hentry]

theorem convertPaths_congr :
    convertPaths ⟨bodies, consumes, produces⟩ = convertPaths ⟨bodies', consumes, produces⟩ := by
  have hentry : convertPathEntry ⟨bodies, consumes, produces⟩ =
      convertPathEntry ⟨bodies', consumes, produces⟩ := by
    funext entry
    unfold convertPathEntry
    rw [convertOperation_congr h, convertParameters_congr h]
  have hpath : convertPath ⟨bodies, consumes, produces⟩ =
      convertPath ⟨bodies', consumes, produces⟩ := by
    funext entry
    unfold convertPath convertPathItem
    rw [hentry]
  funext document
  rw [convertPaths, convertPaths, hpath]

end

/-! ## single conversions -/

/-- **Names that are found anyway change nothing.** -/
theorem convertKnowing_eq {known : List Atom} {document : Value}
    (hknown : known ⊆ bodiesOf document) : convertKnowing known document = convert document := by
  unfold convert convertKnowing
  refine bind_congr_of_gives fun fields hfields => bind_congr_of_gives fun servers _ => ?_
  refine bind_congr_of_gives fun components _ => ?_
  rw [entries_eq_ok (gives_ofExcept.mp hfields)] at hknown
  have hsame : ∀ name, name ∈ known ++ bodyNames fields ↔ name ∈ [] ++ bodyNames fields := by
    intro name
    rw [List.nil_append, List.mem_append]
    exact ⟨fun hname => hname.elim (fun hold => hknown hold) id, .inr⟩
  rw [convertPaths_congr hsame]

namespace Upgrader

def new (document : Value) : Upgrader := ⟨document, []⟩

def Grounded (u : Upgrader) : Prop := u.bodies ⊆ bodiesOf u.document

/-- the upgrader after one more conversion, which left these warnings -/
def after (u : Upgrader) (warnings : List String) : Upgrader :=
  { u with passes := u.passes ++ [⟨warnings, bodiesOf u.document⟩] }

theorem grounded_new (document : Value) : (new document).Grounded := List.nil_subset _

theorem warnings_after (u : Upgrader) (warnings : List String) :
    (u.after warnings).warnings = u.warnings ++ warnings := by
  rw [Upgrader.warnings, Upgrader.warnings, after, List.flatMap_append, List.flatMap_singleton]

theorem Grounded.after {u : Upgrader} (h : u.Grounded) (warnings : List String) :
    (u.after warnings).Grounded := by
  have hbodies : (u.after warnings).bodies = u.bodies ++ bodiesOf u.document := by
    rw [Upgrader.bodies, Upgrader.bodies, Upgrader.after, List.flatMap_append,
      List.flatMap_singleton]
  rw [Grounded, hbodies]
  exact List.append_subset.mpr ⟨h, List.Subset.refl _⟩

/-- a conversion does what the first one does, and the upgrader stays grounded -/
theorem run_eq_ok_iff {u next : Upgrader} {out : Value} (h : u.Grounded) :
    u.run = .ok (out, next) ↔
      ∃ warnings, convert u.document = .ok ⟨out, warnings⟩ ∧ next = u.after warnings := by
  refine map_eq_ok.trans ?_
  rw [convertKnowing_eq h]
  constructor
  · rintro ⟨⟨v, warnings⟩, hconvert, heq⟩
    cases heq
    exact ⟨warnings, hconvert, rfl⟩
  · rintro ⟨warnings, hconvert, rfl⟩
    exact ⟨⟨out, warnings⟩, hconvert, rfl⟩

/-! ## conversions in a row -/

/-- what `n` conversions in a row give, each with the warnings that are kept behind it -/
def runs (u : Upgrader) : Nat → Except Malformed (List (Value × List String) × Upgrader)
  | 0 => .ok ([], u)
  | n + 1 => do
    let (out, next) ← u.run
    let (outs, last) ← next.runs n
    return ((out, next.warnings) :: outs, last)

theorem runs_eq {out : Value} {warnings : List String} {u : Upgrader}
    (h : convert u.document = .ok ⟨out, warnings⟩) (hu : u.Grounded) (n : Nat) :
    ∃ last : Upgrader, u.runs n = .ok ((List.range n).map fun k =>
        (out, u.warnings ++ (List.replicate (k + 1) warnings).flatten), last) ∧
      last.document = u.document ∧
      last.warnings = u.warnings ++ (List.replicate n warnings).flatten := by
  induction n generalizing u with
  | zero => exact ⟨u, rfl, rfl, (List.append_nil _).symm⟩
  | succ n ih =>
    have hrun : u.run = .ok (out, u.after warnings) := (run_eq_ok_iff hu).mpr ⟨warnings, h, rfl⟩
    obtain ⟨last, hlast, hdocument, hwarnings⟩ := ih (u := u.after warnings) h (hu.after warnings)
    rw [warnings_after] at hlast hwarnings
    have hfirst : (List.replicate (0 + 1) warnings).flatten = warnings := by
      rw [List.replicate_one, List.flatten_singleton]
    have hmore : ∀ k, u.warnings ++ warnings ++ (List.replicate k warnings).flatten =
        u.warnings ++ (List.replicate (k + 1) warnings).flatten := by
      intro k
      rw [List.replicate_succ, List.flatten_cons, List.append_assoc]
    refine ⟨last, ?_, hdocument, by rw [hwarnings, hmore]⟩
    rw [runs, hrun]
    show (do
      let (outs, last) ← (u.after warnings).runs n
      return ((out, (u.after warnings).warnings) :: outs, last)) = _
    rw [hlast, warnings_after, List.range_succ_eq_map, List.map_cons, List.map_map, hfirst]
    simp only [hmore]
    rfl

/-- **However often an upgrader converts its document, it gives the same each time**, the document
stays as it is, and the warnings of the first conversion are repeated once for every conversion. -/
theorem runs_repeat {document out : Value} {next : Upgrader}
    (h : (new document).run = .ok (out, next)) (n : Nat) :
    ∃ last : Upgrader, (new document).runs n = .ok ((List.range n).map fun k =>
        (out, (List.replicate (k + 1) next.warnings).flatten), last) ∧
      last.document = document ∧
      last.warnings = (List.replicate n next.warnings).flatten := by
  obtain ⟨warnings, hconvert, rfl⟩ := (run_eq_ok_iff (grounded_new document)).mp h
  rw [warnings_after]
  exact runs_eq hconvert (grounded_new document) n

/-- a document with a body among its components, and with all that is warned about -/
def noisyDocument : Value :=
  .object [("swagger", .text "2.0"),
    ("parameters", .object [("Pet", .object [("in", .text "body"), ("name", .text "pet"),
      ("schema", .object [("type", .text "object")])])]),
    ("paths", .object [("/pets", .object [
      ("post", .object [("operationId", .text "addPet"), ("schemes", .list [.text "https"]),
        ("parameters", .list [.object [("$ref", .text "#/parameters/Pet")],
          .object [("in", .text "query"), ("name", .text "tags"), ("type", .text "array"),
            ("collectionFormat", .text "multi")]])]),
      ("put", .object [("operationId", .text "addPhoto"),
        ("consumes", .list [.text "image/png"]),
        ("parameters", .list [.object [("in", .text "formData"), ("name", .text "photo"),
          ("type", .text "file")]])])])])]

def noisyWarnings : List String :=
  ["No host or basePath specified, defaulting to server URL '/'",
    "collectionFormat 'multi' of parameter 'tags' is not converted",
    "Operation level schemes of 'addPet' are ignored",
    "File upload parameter requires multipart/form-data, but consumes specifies: ['image/png']"]

/-- three conversions with four, eight and twelve warnings -/
theorem runs_repeat_noisyDocument : ∃ out next, (new noisyDocument).run = .ok (out, next) ∧
    next.warnings = noisyWarnings ∧ next.bodies = [.string "Pet"] ∧
    ∃ last : Upgrader, (new noisyDocument).runs 3 = .ok ([(out, noisyWarnings),
        (out, noisyWarnings ++ noisyWarnings),
        (out, noisyWarnings ++ noisyWarnings ++ noisyWarnings)], last) ∧
      last.document = noisyDocument := by
  have hrun : ∃ out next, (new noisyDocument).run = .ok (out, next) ∧
      next.warnings = noisyWarnings ∧ next.bodies = [.string "Pet"] := ⟨_, _, rfl, rfl, rfl⟩
  obtain ⟨out, next, hrun, hwarnings, hbodies⟩ := hrun
  obtain ⟨last, hruns, hdocument, _⟩ := runs_repeat hrun 3
  rw [hwarnings] at hruns
  exact ⟨out, next, hrun, hwarnings, hbodies, last, hruns, hdocument⟩

end Upgrader

end ApiBindings.Swagger
