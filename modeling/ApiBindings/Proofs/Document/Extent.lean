import ApiBindings.Document.Extent

/-!
# Parts of ordinary values

What a value of ordinary extent is made of is of ordinary extent.
-/

namespace ApiBindings.Value

theorem ordinary_text (s : String) : (Value.text s).Ordinary where
  depth := Nat.zero_le _
  integers := rfl

theorem depth_le_of_mem {fields : Fields} {entry : Atom × Value} (h : entry ∈ fields) :
    entry.2.depth ≤ deepestField fields := by
  induction fields with
  | nil => cases h
  | cons first rest ih =>
    rw [deepestField]
    rcases List.mem_cons.mp h with rfl | h
    · exact Nat.le_max_left _ _
    · exact Nat.le_trans (ih h) (Nat.le_max_right _ _)

theorem depth_le_of_mem_items {items : List Value} {v : Value} (h : v ∈ items) :
    v.depth ≤ deepestItem items := by
  induction items with
  | nil => cases h
  | cons first rest ih =>
    rw [deepestItem]
    rcases List.mem_cons.mp h with rfl | h
    · exact Nat.le_max_left _ _
    · exact Nat.le_trans (ih h) (Nat.le_max_right _ _)

theorem atoms_subset_of_mem {fields : Fields} {entry : Atom × Value} (h : entry ∈ fields) :
    entry.2.atoms ⊆ fieldAtoms fields := by
  induction fields with
  | nil => cases h
  | cons first rest ih =>
    rw [fieldAtoms]
    rcases List.mem_cons.mp h with rfl | h
    · exact List.subset_cons_of_subset _ (List.subset_append_left _ _)
    · exact List.subset_cons_of_subset _ (List.Subset.trans (ih h) (List.subset_append_right _ _))

theorem Ordinary.of_mem {fields : Fields} (h : (Value.map fields).Ordinary)
    {entry : Atom × Value} (hentry : entry ∈ fields) : entry.2.Ordinary where
  depth := by
    have hdepth : deepestField fields + 1 ≤ ordinaryDepth := h.depth
    exact Nat.le_trans (depth_le_of_mem hentry) (Nat.le_of_succ_le hdepth)
  integers := by
    have hnone : ∀ a ∈ fieldAtoms fields, ¬ a.isLong = true := List.any_eq_false.mp h.integers
    exact List.any_eq_false.mpr fun a ha => hnone a (atoms_subset_of_mem hentry ha)

theorem Ordinary.of_get? {fields : Fields} (h : (Value.map fields).Ordinary) {key : String}
    {v : Value} (hv : fields.get? key = some v) : v.Ordinary := by
  obtain ⟨entry, hentry, rfl⟩ := Option.map_eq_some_iff.mp hv
  exact h.of_mem (List.mem_of_find?_eq_some hentry)

end ApiBindings.Value
