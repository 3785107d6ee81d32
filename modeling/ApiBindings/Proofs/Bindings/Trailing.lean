import ApiBindings.Proofs.Bindings.PathParameters
import ApiBindings.Proofs.TypeText.Rendering

/-!
# The segment that a deletion cuts off

Whether the last segment of a path is cut off is decided on the template, which has dollar signs
that the path has not.  It can be told from the path all the same, and what the binding takes
instead of the segment is told from the parameters that are declared.

* `Route.TrailingSegment`            a path that ends with a placeholder as its last segment;
* `Route.splitTrailing?_segment`     such an end is found in the template;
* `Endpoint.split_of_segment`        what is then left of the route, and `split_of_not` otherwise;
* `parameterType_ne_empty`           the type of a parameter is never empty, so it can be a body;
* `bind_trailing`                    what a deletion has for the segment, and others have not.
-/

namespace ApiBindings

/-! ## the last segment of a path -/

namespace Route

/-- The path is `first` and behind it a segment that is the placeholder `name`; a line feed at the
very end does not count. -/
def TrailingSegment (path first name : String) : Prop :=
  (name.toList ≠ [] ∧ ∀ c ∈ name.toList, Text.isWordChar c = true) ∧ ∃ ending, IsEnding ending ∧
    path.toList = first.toList ++ '/' :: '{' :: (name.toList ++ '}' :: ending)

theorem templateChars_segment {first name ending : List Char}
    (hword : ∀ c ∈ name, Text.isWordChar c = true) (hending : IsEnding ending) :
    templateChars (first ++ '/' :: '{' :: (name ++ '}' :: ending)) =
      templateChars first ++ '/' :: '$' :: '{' :: (name ++ '}' :: ending) := by
  have hplain := templateChars_of_not_mem (brace_not_mem_segment hword hending)
  rw [templateChars, List.flatMap_append]
  show templateChars first ++ templateChars ('/' :: '{' :: (name ++ '}' :: ending)) = _
  rw [templateChars_cons, templateChars_cons, hplain]
  rfl

theorem dropEnding_append {ending rest : List Char} (h : IsEnding ending) :
    dropEnding (ending ++ '}' :: rest) = '}' :: rest := by
  rcases h with rfl | rfl <;> rfl

/-- read backwards, a word reaches to the brace in front of it -/
theorem splitReversed?_word {name before : List Char} (hne : name ≠ [])
    (hword : ∀ c ∈ name, Text.isWordChar c = true) :
    splitReversed? ('}' :: (name.reverse ++ '{' :: '$' :: '/' :: before.reverse)) =
      some (before, name) := by
  have htake : (name.reverse ++ '{' :: '$' :: '/' :: before.reverse).takeWhile Text.isWordChar =
      name.reverse := by
    rw [List.takeWhile_append_of_pos fun c hc => hword c (List.mem_reverse.mp hc),
      List.takeWhile_cons_of_neg (by decide), List.append_nil]
  have hempty : name.reverse.isEmpty = false := by
    rw [List.isEmpty_eq_false_iff, Ne, List.reverse_eq_nil_iff]
    exact hne
  unfold splitReversed?
  simp only [htake, hempty, List.drop_left, List.reverse_reverse]
  rfl

/-- **The placeholder at the end of a path is found at the end of its template.** -/
theorem splitTrailing?_segment {path first name : String} (h : TrailingSegment path first name) :
    splitTrailing? (template path).toList = some (templateChars first.toList, name.toList) := by
  obtain ⟨⟨hne, hword⟩, ending, hending, hpath⟩ := h
  have hreversed : (template path).toList.reverse = ending ++ '}' :: (name.toList.reverse ++
      '{' :: '$' :: '/' :: (templateChars first.toList).reverse) := by
    rw [template, String.toList_ofList, hpath, templateChars_segment hword hending]
    simp [hending.reverse_eq]
  rw [splitTrailing?_eq, hreversed, dropEnding_append hending, splitReversed?_word hne hword]

end Route

namespace Endpoint

open Route

variable {e : Endpoint} {first name : String}

/-- a deletion cuts its last segment off if that is a placeholder -/
theorem split_of_segment (hmethod : e.method = .delete) (h : TrailingSegment e.path first name) :
    e.split = (template first, some name) := by
  unfold split
  rw [hmethod]
  simp only [splitTrailing?_segment h, String.ofList_toList]
  rfl

/-- otherwise the route is the whole template -/
theorem split_of_not
    (h : ¬ (e.method = .delete ∧ ∃ first name, TrailingSegment e.path first name)) :
    e.split = (template e.path, none) := by
  unfold split
  split
  · rename_i hmethod
    dsimp only
    split
    · rename_i before name htrailing
      rw [template, String.toList_ofList] at htrailing
      obtain ⟨first, ending, hending, hpath, _, hne, hword⟩ := exists_trailing htrailing
      refine absurd ⟨hmethod, String.ofList first, String.ofList name, ?_, ending, hending, ?_⟩ h
      · rw [String.toList_ofList]
        exact ⟨hne, hword⟩
      · rw [String.toList_ofList, String.toList_ofList]
        exact hpath
    · rfl
  · rfl

end Endpoint

/-! ## what the binding has for the segment -/

theorem parameterType_ne_empty {p : Parameter} {type : String} (h : parameterType p = .ok type) :
    type ≠ "" := by
  unfold parameterType at h
  split at h
  · obtain ⟨_, _, hrenders⟩ := nodeType_renders _ h
    exact hrenders.ne_empty
  · cases h
    decide

variable {d : Description} {e : Endpoint} {seen : List String} {b : Binding}

/-- the property that stands for a name: that of the first path parameter with it or, if none is
declared, a required one of any type -/
inductive StandsFor (declared : List Parameter) (name : String) : BindingParameter → Prop
  | declared {p : Parameter} {type : String} (hfirst : FirstPath declared name p)
      (htype : parameterType p = .ok type) :
      StandsFor declared name ⟨name, type, p.required.getD false, p.description.toOption⟩
  | undeclared (hnone : ∀ p ∈ declared, p.location = "path" → p.name ≠ name) :
      StandsFor declared name ⟨name, "any", true, none⟩

theorem StandsFor.type_ne_empty {declared : List Parameter} {name : String}
    {x : BindingParameter} (h : StandsFor declared name x) : x.type ≠ "" := by
  cases h with
  | declared _ htype => exact parameterType_ne_empty htype
  | undeclared _ => exact (by decide : "any" ≠ "")

theorem standsFor_of_trailingParameter {declared : List Parameter} {name : String}
    {trailing : Option BindingParameter}
    (h : trailingParameter (.ofList declared) (some name) = .ok trailing) :
    ∃ x, trailing = some x ∧ StandsFor declared name x := by
  unfold trailingParameter at h
  dsimp only at h
  split at h
  · rename_i hnone
    cases h
    exact ⟨_, rfl, .undeclared (SortedParameters.findPath?_eq_none.mp hnone)⟩
  · rename_i p hfirst
    obtain ⟨x, hx, rfl⟩ := map_eq_ok.mp h
    obtain ⟨type, htype, rfl⟩ := map_eq_ok.mp hx
    rw [SortedParameters.name_of_findPath? hfirst]
    exact ⟨_, rfl, .declared (SortedParameters.findPath?_eq_some.mp hfirst) htype⟩

/-- without a body the type of the segment that was cut off is the last type argument -/
theorem typeArguments_of_trailing {sorted : SortedParameters} {x : BindingParameter}
    (hbuilt : BuiltFrom d e seen sorted b) (hmethod : e.method = .delete)
    (htrailing : b.trailing = some x) (hbody : e.operation.requestBody.toOption = none)
    (hne : x.type ≠ "") : b.typeArguments[2]? = some x.type := by
  have hrequest := hbuilt.body
  unfold requestType at hrequest
  rw [hmethod, htrailing, hbody] at hrequest
  have htype : b.bodyType = some x.type := (Except.ok.inj hrequest).symm
  have hmutation : b.isMutation = true := by
    rw [Binding.isMutation, hbuilt.method, hmethod]
    decide
  have hargument : b.bodyArgument = x.type := by
    rw [Binding.bodyArgument, htype]
    exact if_neg hne
  rw [Binding.typeArguments, hmutation, hargument]
  rfl

/-- a deletion has a property for the segment that is cut off -/
theorem exists_trailing_of_segment {declared : List Parameter} {first name : String}
    (hbuilt : BuiltFrom d e seen (.ofList declared) b) (hmethod : e.method = .delete)
    (hsegment : Route.TrailingSegment e.path first name) :
    ∃ x, b.trailing = some x ∧ StandsFor declared name x := by
  have htrailing := hbuilt.trailing
  rw [Endpoint.split_of_segment hmethod hsegment] at htrailing
  exact standsFor_of_trailingParameter htrailing

/-- without such a segment there is nothing that is cut off -/
theorem whole_of_not {sorted : SortedParameters} (hbuilt : BuiltFrom d e seen sorted b)
    (hnot : ¬ (e.method = .delete ∧ ∃ first name, Route.TrailingSegment e.path first name)) :
    b.route = Route.template e.path ∧ b.trailing = none := by
  have hsplit := Endpoint.split_of_not hnot
  have htrailing := hbuilt.trailing
  rw [hsplit] at htrailing
  rw [hbuilt.route, hsplit]
  exact ⟨rfl, (Except.ok.inj htrailing).symm⟩

/-- **A binding has a trailing parameter if and only if it is a deletion whose path ends with a
placeholder as its last segment.**  The route is then the template of the path before the segment,
the placeholder is no path parameter, its property is that of the first path parameter declared with
its name, or a required one of any type, and stands for the body if there is none.  Otherwise the
route is the whole template. -/
theorem bind_trailing (h : d.bind e seen = .ok b) :
    (b.trailing.isSome = true ↔
        e.method = .delete ∧ ∃ first name, Route.TrailingSegment e.path first name) ∧
      (∀ first name, e.method = .delete → Route.TrailingSegment e.path first name →
        b.route = Route.template first ∧ name ∉ b.pathParameters.map BindingParameter.name ∧
          ∃ declared x, d.resolveParameters
              (e.shared.getD [] ++ e.operation.parameters.getD []) = .ok declared ∧
            b.trailing = some x ∧ StandsFor declared name x ∧
            (e.operation.requestBody.toOption = none → b.typeArguments[2]? = some x.type)) ∧
      (¬ (e.method = .delete ∧ ∃ first name, Route.TrailingSegment e.path first name) →
        b.route = Route.template e.path ∧ b.trailing = none) := by
  obtain ⟨sorted, hbuilt⟩ := Description.bind_eq_ok_iff_parts.mp h
  obtain ⟨declared, hdeclared, rfl⟩ := map_eq_ok.mp hbuilt.sort
  refine ⟨⟨?_, ?_⟩, ?_, whole_of_not hbuilt⟩
  · intro hsome
    by_contra hnot
    rw [(whole_of_not hbuilt hnot).2] at hsome
    cases hsome
  · rintro ⟨hmethod, first, name, hsegment⟩
    obtain ⟨x, hx, _⟩ := exists_trailing_of_segment hbuilt hmethod hsegment
    rw [hx]
    rfl
  · intro first name hmethod hsegment
    obtain ⟨x, hx, hstands⟩ := exists_trailing_of_segment hbuilt hmethod hsegment
    refine ⟨?_, ?_, declared, x, hdeclared, hx, hstands, fun hbody => ?_⟩
    · rw [hbuilt.route, Endpoint.split_of_segment hmethod hsegment]
    · intro hmem
      have hname : x.name = name := by cases hstands <;> rfl
      exact ((mem_pathParameters_iff h).mp hmem).2 x hx hname
    · exact typeArguments_of_trailing hbuilt hmethod hx hbody hstands.type_ne_empty

/-- a deletion whose last segment is declared twice, by its path first -/
def removedPet : Endpoint where
  path := "/pets/{id}"
  method := .delete
  operation :=
    { operationId := .value "removePet"
      summary := .absent
      description := .absent
      parameters := .value [.inline ⟨"id", "path", .absent, .value true,
        .value (.inline { Schema.empty with type := .value "string" }), []⟩]
      requestBody := .absent
      responses := some []
      extras := [] }
  shared := .value [.inline ⟨"id", "path", .absent, .value true,
    .value (.inline { Schema.empty with type := .value "integer" }), []⟩]

theorem bind_removedPet_trailing : ∃ b, bareDescription.bind removedPet [] = .ok b ∧
    b.trailing.isSome = true ∧ b.route = "/pets" ∧
    "id" ∉ b.pathParameters.map BindingParameter.name ∧ b.typeArguments[2]? = some "number" := by
  have h : bareDescription.bind removedPet [] = .ok
      { operationId := "removePet", name := "RemovePet", method := "delete", route := "/pets",
        pathParameters := [], queryParameters := [], responseType := "void",
        errorType := "unknown", bodyType := some "number", summary := none, description := none,
        trailing := some ⟨"id", "number", true, none⟩, responseDeclaration := none,
        polling := false } :=
    toOption_eq_some.mp (by decide +kernel)
  have hsegment : Route.TrailingSegment removedPet.path "/pets" "id" :=
    ⟨⟨by decide, List.all_eq_true.mp (by decide)⟩, [], .inl rfl, by decide⟩
  obtain ⟨hpresent, hcut, _⟩ := bind_trailing h
  obtain ⟨_, hnot, _, x, _, hx, _, hargument⟩ := hcut "/pets" "id" rfl hsegment
  refine ⟨_, h, hpresent.mpr ⟨rfl, _, _, hsegment⟩, rfl, hnot, ?_⟩
  rw [hargument rfl]
  cases hx
  rfl

end ApiBindings
