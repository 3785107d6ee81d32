import ApiBindings.Proofs.Bindings.BareBindings
import ApiBindings.Proofs.OpenApi.ReadOperation
import Mathlib.Data.List.Perm.Subperm

/-!
# Chains of pointers to parameters

A pointer to a component parameter may lead to a pointer again, however the components point to each
other.  The chain that begins at a node is there before anything follows it; what it comes to
decides what the node is resolved to.

* `Description.Leads`                     what a node leads to, pointer by pointer;
* `Description.ChainEnds`                 the four ways in which a chain comes to an end;
* `Description.chainEnds_unique`          a chain ends in one way only;
* `Description.chainEnds_follow`          following it finds that end;
* `resolveParameter_decided_by_chain`     so the end is the outcome, after boundedly many steps.
-/

namespace ApiBindings

namespace Description

variable {d : Description} {node last other : Referable Parameter} {target : String}
  {path more : List String} {r s : Except Failure Parameter}

/-! ## chains -/

def Names (d : Description) (target : String) (node : Referable Parameter) : Prop :=
  ∃ name, target = parameterPrefix ++ name ∧ (name, node) ∈ d.parameters

/-- a pointer names none of the component parameters, though it points among them -/
def Dangles (d : Description) (target : String) : Prop :=
  ∃ name, target = parameterPrefix ++ name ∧ name ∉ d.parameters.map (·.1)

/-- a pointer points to another place than the component parameters -/
def Outside (target : String) : Prop := ¬ parameterPrefix.toList <+: target.toList

/-- Following these pointers, one after the other, leads from a node to another one. -/
inductive Leads (d : Description) :
    Referable Parameter → List String → Referable Parameter → Prop
  | here (node : Referable Parameter) : Leads d node [] node
  | next {target : String} {path : List String} {node last : Referable Parameter}
      (h : d.Names target node) (hrest : Leads d node path last) :
      Leads d (.ref target) (target :: path) last

/-- What a chain comes to at a node: a parameter, a pointer that points elsewhere, one that names
nothing, or one that was followed before, the first to be met again. -/
inductive EndsAt (d : Description) (path : List String) :
    Referable Parameter → Except Failure Parameter → Prop
  | found (p : Parameter) : EndsAt d path (.inline p) (.ok p)
  | outside {target : String} (h : Outside target) :
      EndsAt d path (.ref target) (.error (.unsupportedReference target))
  | missing {target : String} (h : d.Dangles target) :
      EndsAt d path (.ref target) (.error (.unresolvedReference target (some .notFound)))
  | circular {target : String} (hnew : path.Nodup) (hagain : target ∈ path) :
      EndsAt d path (.ref target) (.error (.unresolvedReference target (some .circular)))

/-- the chain that begins at a node comes to an end behind these pointers -/
def ChainEnds (d : Description) (node : Referable Parameter) (path : List String)
    (r : Except Failure Parameter) : Prop :=
  ∃ last, d.Leads node path last ∧ d.EndsAt path last r

def NeverEnds (d : Description) (node : Referable Parameter) : Prop :=
  ∀ n, ∃ path last, n ≤ path.length ∧ d.Leads node path last

theorem Outside.not_dangles (h : Outside target) : ¬ d.Dangles target := by
  rintro ⟨name, rfl, _⟩
  rw [Outside, String.toList_append] at h
  exact h (List.prefix_append _ _)

theorem Outside.not_names (h : Outside target) (next : Referable Parameter) :
    ¬ d.Names target next := by
  rintro ⟨name, rfl, _⟩
  rw [Outside, String.toList_append] at h
  exact h (List.prefix_append _ _)

theorem Dangles.not_names (h : d.Dangles target) (next : Referable Parameter) :
    ¬ d.Names target next := by
  obtain ⟨name, rfl, hnew⟩ := h
  rintro ⟨name', hname, hmem⟩
  have heq : name = name' := (String.append_right_inj _).mp hname
  exact hnew (heq ▸ List.mem_map_of_mem hmem)

/-! ## parts of a chain -/

theorem Leads.append (h : d.Leads node path last) (h' : d.Leads last more other) :
    d.Leads node (path ++ more) other := by
  induction h with
  | here node => exact h'
  | next hnames _ ih => exact .next hnames (ih h')

theorem Leads.split (h : d.Leads node (path ++ more) other) :
    ∃ last, d.Leads node path last ∧ d.Leads last more other := by
  induction path generalizing node with
  | nil => exact ⟨node, .here node, h⟩
  | cons target path ih =>
    cases h with
    | next hnames hrest =>
      obtain ⟨last, hfirst, hmore⟩ := ih hrest
      exact ⟨last, .next hnames hfirst, hmore⟩

/-- a pointer that was followed leads from itself to the end -/
theorem Leads.of_mem (h : d.Leads node path last) (hmem : target ∈ path) :
    ∃ before after, path = before ++ target :: after ∧ d.Leads node before (.ref target) ∧
      d.Leads (.ref target) (target :: after) last := by
  obtain ⟨before, after, rfl⟩ := List.append_of_mem hmem
  obtain ⟨middle, hfirst, hrest⟩ := h.split
  cases hrest with
  | next hnames hrest => exact ⟨before, after, rfl, hfirst, .next hnames hrest⟩

theorem Leads.exists_names (h : d.Leads node path last) (hmem : target ∈ path) :
    ∃ next, d.Names target next := by
  obtain ⟨_, _, _, _, hrest⟩ := h.of_mem hmem
  cases hrest with
  | next hnames _ => exact ⟨_, hnames⟩

/-- nothing was followed from a node that is no pointer to a component -/
theorem Leads.eq_here (hlast : ∀ target next, node = .ref target → ¬ d.Names target next)
    (h : d.Leads node path last) : path = [] ∧ last = node := by
  cases h with
  | here => exact ⟨rfl, rfl⟩
  | next hnames _ => exact absurd hnames (hlast _ _ rfl)

section
variable (hkeys : (d.parameters.map (·.1)).Nodup)
include hkeys

theorem Names.unique {next next' : Referable Parameter} (h : d.Names target next)
    (h' : d.Names target next') : next = next' := by
  obtain ⟨name, rfl, hmem⟩ := h
  obtain ⟨name', hname, hmem'⟩ := h'
  have heq : name = name' := String.append_right_inj _ |>.mp hname
  subst heq
  have hentry := List.inj_on_of_nodup_map hkeys hmem hmem' rfl
  exact congrArg Prod.snd hentry

/-- of two chains from a node, one goes on where the other has come to -/
theorem Leads.comparable {path' : List String} {last' : Referable Parameter}
    (h : d.Leads node path last) (h' : d.Leads node path' last') :
    (∃ more, path' = path ++ more ∧ d.Leads last more last') ∨
      ∃ more, path = path' ++ more ∧ d.Leads last' more last := by
  induction h generalizing path' with
  | here node => exact .inl ⟨path', rfl, h'⟩
  | @next target path node last hnames hrest ih =>
    cases h' with
    | here => exact .inr ⟨target :: path, rfl, .next hnames hrest⟩
    | next hnames' hrest' =>
      rw [hnames'.unique hkeys hnames] at hrest'
      rcases ih hrest' with ⟨more, rfl, hmore⟩ | ⟨more, rfl, hmore⟩
      · exact .inl ⟨more, rfl, hmore⟩
      · exact .inr ⟨more, rfl, hmore⟩

/-! ## the end of a chain -/

/-- A chain to a node that leads nowhere does not meet a pointer twice: from the later place it
would take fewer steps to the same end. -/
theorem Leads.nodup_of_last (hlast : ∀ target next, last = .ref target → ¬ d.Names target next)
    (h : d.Leads node path last) : path.Nodup := by
  induction h with
  | here => exact List.nodup_nil
  | @next target path node last hnames hrest ih =>
    refine List.nodup_cons.mpr ⟨fun hmem => ?_, ih hlast⟩
    obtain ⟨before, after, rfl, _, hshort⟩ := hrest.of_mem hmem
    have hlong : d.Leads (.ref target) (target :: (before ++ target :: after)) last :=
      .next hnames hrest
    rcases hshort.comparable hkeys hlong with ⟨more, heq, hmore⟩ | ⟨more, heq, _⟩
    · obtain ⟨rfl, _⟩ := hmore.eq_here hlast
      have hlength := congrArg List.length heq
      simp only [List.length_cons, List.length_append, List.length_nil] at hlength
      omega
    · have hlength := congrArg List.length heq
      simp only [List.length_cons, List.length_append] at hlength
      omega

end

/-- only a pointer that was followed before leads on from where a chain ends -/
theorem EndsAt.leads_nowhere (h : d.EndsAt path last r)
    (hnot : ∀ target, r ≠ .error (.unresolvedReference target (some .circular))) :
    ∀ target next, last = .ref target → ¬ d.Names target next := by
  rintro target next rfl
  cases h with
  | outside hout => exact hout.not_names next
  | missing hdangles => exact hdangles.not_names next
  | circular => exact absurd rfl (hnot target)

theorem EndsAt.stays (h : d.EndsAt path last r) (hmore : d.Leads last more other)
    (hnew : (path ++ more).Nodup) : more = [] ∧ other = last := by
  by_cases hcircular : ∃ target, r = .error (.unresolvedReference target (some .circular))
  · obtain ⟨target, rfl⟩ := hcircular
    cases h with
    | circular _ hagain =>
      cases hmore with
      | here => exact ⟨rfl, rfl⟩
      | next _ _ =>
        have hdisjoint := (List.nodup_append.mp hnew).2.2
        exact absurd rfl (hdisjoint target hagain target List.mem_cons_self)
  · exact hmore.eq_here (h.leads_nowhere fun target heq => hcircular ⟨target, heq⟩)

theorem EndsAt.unique (hlead : d.Leads node path last) (h : d.EndsAt path last r)
    (h' : d.EndsAt path last s) : r = s := by
  have hnames : ∀ {target}, target ∈ path → ∃ next, d.Names target next := hlead.exists_names
  cases h with
  | found p =>
    cases h'
    rfl
  | outside hout =>
    cases h' with
    | outside => rfl
    | missing hdangles => exact absurd hdangles hout.not_dangles
    | circular _ hagain => exact ((hnames hagain).elim hout.not_names).elim
  | missing hdangles =>
    cases h' with
    | missing => rfl
    | outside hout => exact absurd hdangles hout.not_dangles
    | circular _ hagain => exact ((hnames hagain).elim hdangles.not_names).elim
  | circular _ hagain =>
    cases h' with
    | circular => rfl
    | outside hout => exact ((hnames hagain).elim hout.not_names).elim
    | missing hdangles => exact ((hnames hagain).elim hdangles.not_names).elim

theorem eraseP_eq_filter {α : Type} {entries : List (String × α)}
    (h : (entries.map (·.1)).Nodup) (name : String) :
    (entries.eraseP fun entry => entry.1 == name) =
      entries.filter fun entry => entry.1 != name := by
  induction entries with
  | nil => rfl
  | cons entry rest ih =>
    obtain ⟨hnew, hrest⟩ := List.nodup_cons.mp h
    by_cases hname : entry.1 = name
    · have hkept : rest.filter (fun entry => entry.1 != name) = rest := by
        refine List.filter_eq_self.mpr fun other hother => ?_
        rw [bne_iff_ne, ← hname]
        exact fun heq => hnew (List.mem_map.mpr ⟨other, hother, heq⟩)
      rw [List.eraseP_cons_of_pos (by simp [hname]), List.filter_cons_of_neg (by simp [hname]),
        hkept]
    · rw [List.eraseP_cons_of_neg (by simp [hname]), List.filter_cons_of_pos (by simp [hname]),
        ih hrest]

section
variable (hkeys : (d.parameters.map (·.1)).Nodup)
include hkeys

theorem ChainEnds.nodup (h : d.ChainEnds node path r) : path.Nodup := by
  obtain ⟨last, hlead, hend⟩ := h
  by_cases hcircular : ∃ target, r = .error (.unresolvedReference target (some .circular))
  · obtain ⟨target, rfl⟩ := hcircular
    cases hend with
    | circular hnew _ => exact hnew
  · exact hlead.nodup_of_last hkeys
      (hend.leads_nowhere fun target heq => hcircular ⟨target, heq⟩)

/-- **A chain comes to one end, behind one list of pointers.** -/
theorem chainEnds_unique {path' : List String} (h : d.ChainEnds node path r)
    (h' : d.ChainEnds node path' s) : path = path' ∧ r = s := by
  have hnew := h.nodup hkeys
  have hnew' := h'.nodup hkeys
  obtain ⟨last, hlead, hend⟩ := h
  obtain ⟨last', hlead', hend'⟩ := h'
  rcases hlead.comparable hkeys hlead' with ⟨more, rfl, hmore⟩ | ⟨more, rfl, hmore⟩
  · obtain ⟨rfl, rfl⟩ := hend.stays hmore hnew'
    rw [List.append_nil] at hend' ⊢
    exact ⟨rfl, hend.unique hlead hend'⟩
  · obtain ⟨rfl, rfl⟩ := hend'.stays hmore hnew
    rw [List.append_nil] at hend ⊢
    exact ⟨rfl, hend.unique hlead' hend'⟩

/-- a chain follows no more pointers than there are components -/
theorem ChainEnds.length_le (h : d.ChainEnds node path r) :
    path.length ≤ d.parameters.length := by
  have hnew := h.nodup hkeys
  obtain ⟨last, hlead, _⟩ := h
  have hsub : path ⊆ d.parameters.map fun entry => parameterPrefix ++ entry.1 := by
    intro target hmem
    obtain ⟨next, name, rfl, hentry⟩ := hlead.exists_names hmem
    exact List.mem_map.mpr ⟨_, hentry, rfl⟩
  have hlength := (hnew.subperm hsub).length_le
  rw [List.length_map] at hlength
  exact hlength

/-- **A chain comes back to a pointer if and only if it never ends.** -/
theorem circular_iff_neverEnds (h : d.ChainEnds node path r) :
    (∃ target, r = .error (.unresolvedReference target (some .circular))) ↔
      d.NeverEnds node := by
  obtain ⟨last, hlead, hend⟩ := h
  constructor
  · rintro ⟨target, rfl⟩
    cases hend with
    | circular _ hagain =>
      obtain ⟨before, after, rfl, _, hloop⟩ := hlead.of_mem hagain
      -- going round once more leaves the chain where it is
      have hrounds : ∀ n, ∃ path, n ≤ path.length ∧ d.Leads node path (.ref target) := by
        intro n
        induction n with
        | zero => exact ⟨_, Nat.zero_le _, hlead⟩
        | succ n ih =>
          obtain ⟨path, hlength, hpath⟩ := ih
          refine ⟨_, ?_, hpath.append hloop⟩
          rw [List.length_append, List.length_cons]
          omega
      intro n
      obtain ⟨path, hlength, hpath⟩ := hrounds n
      exact ⟨path, _, hlength, hpath⟩
  · intro hnever
    by_contra hcircular
    obtain ⟨path', last', hlength, hlead'⟩ := hnever (path.length + 1)
    have hnowhere := hend.leads_nowhere fun target heq => hcircular ⟨target, heq⟩
    rcases hlead.comparable hkeys hlead' with ⟨more, rfl, hmore⟩ | ⟨more, rfl, _⟩
    · obtain ⟨rfl, _⟩ := hmore.eq_here hnowhere
      rw [List.append_nil] at hlength
      omega
    · rw [List.length_append] at hlength
      omega

/-! ## following a chain -/

def unfollowed (d : Description) (path : List String) : List (String × Referable Parameter) :=
  d.parameters.filter fun entry => parameterPrefix ++ entry.1 ∉ path

theorem eraseP_unfollowed (path : List String) (name : String) :
    ((d.unfollowed path).eraseP fun entry => entry.1 == name) =
      d.unfollowed (path ++ [parameterPrefix ++ name]) := by
  have hkeys' : ((d.unfollowed path).map (·.1)).Nodup :=
    hkeys.sublist (List.filter_sublist.map _)
  rw [eraseP_eq_filter hkeys', unfollowed, unfollowed, List.filter_filter]
  refine List.filter_congr fun entry _ => Bool.eq_iff_iff.mpr ?_
  simp [String.append_right_inj, and_comm]

/-- **Following a chain finds its end, from any place in it.** -/
theorem chainEnds_follow {start : Referable Parameter}
    {unseen : List (String × Referable Parameter)} (hlead : d.Leads start path node)
    (hnew : path.Nodup) (hunseen : unseen = d.unfollowed path) :
    ∃ path, d.ChainEnds start path (followParameter d.parameters unseen node) := by
  -- no pointer of the path names a component that is still unseen, so none is followed twice
  induction unseen, node using followParameter.induct d.parameters generalizing path with
  | case1 unseen p =>
    rw [followParameter]
    exact ⟨path, _, hlead, .found p⟩
  | case2 unseen target hstart =>
    rw [followParameter, hstart]
    exact ⟨path, _, hlead, .outside (Text.dropStart?_eq_none_iff.mp hstart)⟩
  | case3 unseen target name hstart entry hentry ih =>
    rw [followParameter_found hstart hentry]
    obtain rfl := Text.dropStart?_eq_some_iff.mp hstart
    obtain rfl := hunseen
    have hname := List.find?_some hentry
    obtain rfl : entry.1 = name := beq_iff_eq.mp hname
    obtain ⟨hmem, hfresh⟩ := List.mem_filter.mp (List.mem_of_find?_eq_some hentry)
    have hnames : d.Names (parameterPrefix ++ entry.1) entry.2 := ⟨entry.1, rfl, hmem⟩
    refine ih (hlead.append (.next hnames (.here _))) ?_ (eraseP_unfollowed hkeys path entry.1)
    exact List.nodup_append.mpr ⟨hnew, List.nodup_singleton _, fun target htarget other hother =>
      fun heq => of_decide_eq_true hfresh (List.mem_singleton.mp hother ▸ heq ▸ htarget)⟩
  | case4 unseen target name hstart hnone hany =>
    rw [followParameter_missing hstart hnone, if_pos hany]
    obtain rfl := Text.dropStart?_eq_some_iff.mp hstart
    obtain rfl := hunseen
    obtain ⟨entry, hmem, hname⟩ := List.any_eq_true.mp hany
    have hagain : parameterPrefix ++ name ∈ path := by
      by_contra hfresh
      refine List.find?_eq_none.mp hnone entry (List.mem_filter.mpr ⟨hmem, ?_⟩) hname
      rw [beq_iff_eq.mp hname]
      exact decide_eq_true hfresh
    exact ⟨path, _, hlead, .circular hnew hagain⟩
  | case5 unseen target name hstart hnone hany =>
    rw [followParameter_missing hstart hnone, if_neg hany]
    refine ⟨path, _, hlead, .missing ⟨name, Text.dropStart?_eq_some_iff.mp hstart, ?_⟩⟩
    intro hmem
    obtain ⟨entry, hentry, hname⟩ := List.mem_map.mp hmem
    exact hany (List.any_eq_true.mpr ⟨entry, hentry, beq_iff_eq.mpr hname⟩)

theorem chainEnds_resolveParameter (node : Referable Parameter) :
    ∃ path, d.ChainEnds node path (d.resolveParameter node) := by
  refine chainEnds_follow hkeys (.here node) List.nodup_nil ?_
  simp [unfollowed]

end

/-! ## the components of a document -/

theorem read_components {v : Value} (h : read v = .ok d) : ∃ fields, v = .map fields ∧
    optionalField Components.read fields "components" = .ok d.components := by
  obtain ⟨fields, rfl, hparts⟩ := readObject_eq_ok.mp h
  obtain ⟨_, extras, hfive, _, hd⟩ := Checked.seq_eq_ok.mp hparts
  obtain ⟨_, components, hfour, hcomponents, rfl⟩ := Checked.seq_eq_ok.mp hfive
  obtain ⟨_, paths, hthree, _, rfl⟩ := Checked.seq_eq_ok.mp hfour
  obtain ⟨_, servers, htwo, _, rfl⟩ := Checked.seq_eq_ok.mp hthree
  obtain ⟨_, info, hone, _, rfl⟩ := Checked.seq_eq_ok.mp htwo
  obtain ⟨version, _, rfl⟩ := Checked.fmap_eq_ok.mp hone
  rw [← hd]
  exact ⟨fields, rfl, hcomponents⟩

theorem read_parameters {v : Value} {components : Components}
    (h : Components.read v = .ok components) : ∃ fields, v = .map fields ∧
      optionalField (readMapping (readReferable Parameter.read)) fields "parameters" =
        .ok components.parameters := by
  obtain ⟨fields, rfl, hparts⟩ := readObject_eq_ok.mp h
  obtain ⟨_, extras, hfour, _, hcomponents⟩ := Checked.seq_eq_ok.mp hparts
  obtain ⟨_, bodies, hthree, _, rfl⟩ := Checked.seq_eq_ok.mp hfour
  obtain ⟨_, parameters, htwo, hparameters, rfl⟩ := Checked.seq_eq_ok.mp hthree
  obtain ⟨_, responses, hone, _, rfl⟩ := Checked.seq_eq_ok.mp htwo
  obtain ⟨schemas, _, rfl⟩ := Checked.fmap_eq_ok.mp hone
  rw [← hcomponents]
  exact ⟨fields, rfl, hparameters⟩

/-- the component parameters of a document have names of their own -/
theorem nodup_parameters {v : Value} (h : read v = .ok d) :
    (d.parameters.map (·.1)).Nodup := by
  obtain ⟨fields, rfl, hfield⟩ := read_components h
  have hcomponents := optionalField_eq_ok.mp hfield
  rw [Description.parameters]
  generalize Fields.given fields "components" = given, d.components = own at hcomponents ⊢
  cases hcomponents with
  | absent => exact List.nodup_nil
  | null => exact List.nodup_nil
  | @value _ components hread =>
    obtain ⟨fields', rfl, hfield'⟩ := read_parameters hread
    have hparameters := optionalField_eq_ok.mp hfield'
    show ((components.parameters.getD []).map (·.1)).Nodup
    generalize Fields.given fields' "parameters" = given', components.parameters = entries
      at hparameters ⊢
    cases hparameters with
    | absent => exact List.nodup_nil
    | null => exact List.nodup_nil
    | value hmapping =>
      obtain ⟨_, entries, rfl, _, rfl⟩ := readMapping_eq_ok hmapping
      exact nodup_keys_mergeEntries entries

end Description

/-- **What a parameter node is resolved to is decided by the chain of pointers that begins at it.**
The chain has exactly one end, behind no more pointers than there are components; the outcome is `p`
if it leads to the parameter `p`, and otherwise names the first pointer that points elsewhere, that
names no component, or that is met again.  It comes back to a pointer exactly if it never ends. -/
theorem resolveParameter_decided_by_chain {v : Value} {d : Description}
    (h : Description.read v = .ok d) (node : Referable Parameter) :
    (∀ r, d.resolveParameter node = r ↔ ∃ path, d.ChainEnds node path r) ∧
      (∃! ending : List String × Except Failure Parameter,
        d.ChainEnds node ending.1 ending.2) ∧
      (∀ path r, d.ChainEnds node path r → path.length ≤ d.parameters.length) ∧
      ((∃ target, d.resolveParameter node =
          .error (.unresolvedReference target (some .circular))) ↔ d.NeverEnds node) := by
  have hkeys := Description.nodup_parameters h
  obtain ⟨path, hend⟩ := Description.chainEnds_resolveParameter hkeys node
  refine ⟨fun r => ⟨?_, ?_⟩, ⟨(path, d.resolveParameter node), hend, ?_⟩, ?_, ?_⟩
  · rintro rfl
    exact ⟨path, hend⟩
  · rintro ⟨path', hend'⟩
    exact (Description.chainEnds_unique hkeys hend hend').2
  · rintro ⟨path', r⟩ hend'
    obtain ⟨rfl, rfl⟩ := Description.chainEnds_unique hkeys hend' hend
    rfl
  · intro path' r hend'
    exact hend'.length_le hkeys
  · exact Description.circular_iff_neverEnds hkeys hend

/-- a document whose component parameters point to each other: `A` leads into a circle of two,
`Alias` to a parameter and `Lost` to nothing -/
def aliasedParameters : Value :=
  .object [("openapi", .text "3.0.3"), ("components", .object [("parameters", .object [
    ("A", .object [("$ref", .text "#/components/parameters/B")]),
    ("B", .object [("$ref", .text "#/components/parameters/C")]),
    ("C", .object [("$ref", .text "#/components/parameters/B")]),
    ("Limit", .object [("name", .text "limit"), ("in", .text "query")]),
    ("Alias", .object [("$ref", .text "#/components/parameters/Limit")]),
    ("Lost", .object [("$ref", .text "#/components/parameters/Nowhere")])])])]

/-- the description that this document is read as -/
def aliasedDescription : Description where
  openapi := "3.0.3"
  info := .absent
  servers := .absent
  paths := none
  components := .value
    { schemas := .absent
      responses := .absent
      parameters := .value [("A", .ref "#/components/parameters/B"),
        ("B", .ref "#/components/parameters/C"), ("C", .ref "#/components/parameters/B"),
        ("Limit", .inline ⟨"limit", "query", .absent, .absent, .absent, []⟩),
        ("Alias", .ref "#/components/parameters/Limit"),
        ("Lost", .ref "#/components/parameters/Nowhere")]
      requestBodies := .absent
      extras := [] }
  extras := []

theorem resolveParameter_aliased_decided_by_chain :
    Description.read aliasedParameters = .ok aliasedDescription ∧
      aliasedDescription.resolveParameter (.ref "#/components/parameters/A") =
        .error (.unresolvedReference "#/components/parameters/B" (some .circular)) ∧
      (∃! ending : List String × Except Failure Parameter,
        aliasedDescription.ChainEnds (.ref "#/components/parameters/A") ending.1 ending.2) ∧
      (∀ path r, aliasedDescription.ChainEnds (.ref "#/components/parameters/A") path r →
        path.length ≤ 6) ∧
      aliasedDescription.NeverEnds (.ref "#/components/parameters/A") := by
  have hread : Description.read aliasedParameters = .ok aliasedDescription := rfl
  obtain ⟨hdecided, hunique, hbound, hnever⟩ :=
    resolveParameter_decided_by_chain hread (.ref "#/components/parameters/A")
  have hnames : ∀ name node, (name, node) ∈ aliasedDescription.parameters →
      aliasedDescription.Names (parameterPrefix ++ name) node := fun name _ hmem =>
    ⟨name, rfl, hmem⟩
  have hlead : aliasedDescription.Leads (.ref "#/components/parameters/A")
      ["#/components/parameters/A", "#/components/parameters/B", "#/components/parameters/C"]
      (.ref "#/components/parameters/B") := by
    refine .next (hnames "A" _ ?_) (.next (hnames "B" _ ?_) (.next (hnames "C" _ ?_) (.here _)))
    · exact List.mem_cons_self
    · exact List.mem_cons_of_mem _ List.mem_cons_self
    · exact List.mem_cons_of_mem _ (List.mem_cons_of_mem _ List.mem_cons_self)
  have hcircular := (hdecided _).mpr ⟨_, _, hlead, .circular (by decide) (by decide)⟩
  exact ⟨hread, hcircular, hunique, hbound, hnever.mp ⟨_, hcircular⟩⟩

end ApiBindings
