import ApiBindings.Files.Writing

/-!
# What writing a file leaves

Writing a file makes directories and puts the file at one place.  It never takes away a directory,
so that paths lead where they led before, and it changes no other file.

* `FileSystem.landing`     the place that a path leads to if it leads anywhere;
* `FileSystem.KeptBut`     directories stay, and so do all files but those at given places;
* `run_writeText`          a text that is written is the only file that changes, and one that is
                           not changes no file.
-/

namespace ApiBindings.FileSystem

/-! ## places -/

def onward (place : List String) (name : String) : List String :=
  if name = ".." then place.dropLast else place ++ [name]

/-- the place that a path leads to if it leads anywhere -/
def landing (home : List String) (p : Path) : List String :=
  p.names.foldl onward (if p.root = "" then home else [])

variable {fs fs' : FileSystem} {place target : List String} {p : Path}

theorem walk_cons {name : String} {names : List String} :
    fs.walk place (name :: names) = .ok target ↔
      fs.node? place = some .directory ∧ fs.walk (onward place name) names = .ok target := by
  rw [walk]
  split
  · rename_i h
    rw [h]
    exact ⟨fun h => (nomatch h), fun h => (nomatch h.1)⟩
  · rename_i h
    rw [h]
    exact ⟨fun h => (nomatch h), fun h => (nomatch h.1)⟩
  · rename_i h
    rw [h]
    exact ⟨fun h => ⟨rfl, h⟩, fun h => h.2⟩

theorem walk_eq_foldl {names : List String} (h : fs.walk place names = .ok target) :
    target = names.foldl onward place := by
  induction names generalizing place with
  | nil =>
    cases h
    rfl
  | cons name names ih => exact ih (walk_cons.mp h).2

theorem place_eq_landing (h : fs.place p = .ok place) : place = landing fs.home p :=
  walk_eq_foldl h

/-! ## what is kept -/

/-- directories stay, and so do all files but those at the places written to -/
structure KeptBut (written : List String → Prop) (fs fs' : FileSystem) : Prop where
  home : fs'.home = fs.home
  directory : ∀ place, fs.node? place = some .directory → fs'.node? place = some .directory
  file : ∀ place content, ¬ written place → fs.node? place = some (.file content) →
    fs'.node? place = some (.file content)

namespace KeptBut

variable {written : List String → Prop}

theorem refl (written : List String → Prop) (fs : FileSystem) : KeptBut written fs fs :=
  ⟨rfl, fun _ h => h, fun _ _ _ h => h⟩

theorem trans {fs'' : FileSystem} (h : KeptBut written fs fs') (h' : KeptBut written fs' fs'') :
    KeptBut written fs fs'' :=
  ⟨h'.home.trans h.home, fun place hplace => h'.directory place (h.directory place hplace),
    fun place content hnot hplace => h'.file place content hnot (h.file place content hnot hplace)⟩

theorem mono {other : List String → Prop} (h : KeptBut written fs fs')
    (hall : ∀ place, written place → other place) : KeptBut other fs fs' :=
  ⟨h.home, h.directory, fun place content hnot => h.file place content (mt (hall place) hnot)⟩

/-- a path leads where it led before -/
theorem place_eq_ok (h : KeptBut written fs fs') (hplace : fs.place p = .ok target) :
    fs'.place p = .ok target := by
  have hwalk : ∀ {names : List String} {start : List String},
      fs.walk start names = .ok target → fs'.walk start names = .ok target := by
    intro names
    induction names with
    | nil => exact fun hstart => hstart
    | cons name names ih =>
      intro start hstart
      obtain ⟨hdirectory, hrest⟩ := walk_cons.mp hstart
      exact walk_cons.mpr ⟨h.directory start hdirectory, ih hrest⟩
  unfold FileSystem.place at hplace ⊢
  rw [h.home]
  exact hwalk hplace

end KeptBut

-- The root is a directory, so that nothing else is ever put there.
theorem ne_nil_of_node? (h : fs.node? place ≠ some .directory) : place ≠ [] := by
  rintro rfl
  exact h rfl

theorem keptBut_put_directory (h : fs.node? place = none) :
    KeptBut (fun _ => False) fs (fs.put place .directory) := by
  have hnot : fs.node? place ≠ some .directory := by
    rw [h]
    exact nofun
  have hother : ∀ {other node}, fs.node? other = some node →
      (fs.put place .directory).node? other = some node := by
    intro other node hnode
    rw [node?_put fs place other .directory (ne_nil_of_node? hnot), if_neg, hnode]
    rintro rfl
    rw [h] at hnode
    cases hnode
  exact ⟨rfl, fun _ => hother, fun _ _ _ => hother⟩

theorem node?_put_self {content : ByteArray} (h : fs.node? place ≠ some .directory) :
    (fs.put place (.file content)).node? place = some (.file content) := by
  rw [node?_put fs place place _ (ne_nil_of_node? h), if_pos rfl]

theorem keptBut_put_file {content : ByteArray} (h : fs.node? place ≠ some .directory) :
    KeptBut (· = place) fs (fs.put place (.file content)) := by
  have hput := fun other => node?_put fs place other (.file content) (ne_nil_of_node? h)
  refine ⟨rfl, fun other hother => ?_, fun other own hnot hother => ?_⟩
  · rw [hput, if_neg, hother]
    rintro rfl
    exact h hother
  · rw [hput, if_neg hnot, hother]

/-! ## the bytes of a file -/

theorem readBytes_eq_ok_iff {content : ByteArray} : fs.readBytes p = .ok content ↔
    ∃ place, fs.place p = .ok place ∧ fs.node? place = some (.file content) := by
  unfold readBytes find
  cases fs.place p with
  | error fault => exact ⟨fun h => (nomatch h), fun ⟨_, h, _⟩ => (nomatch h)⟩
  | ok place =>
    dsimp only
    constructor
    · intro h
      cases hnode : fs.node? place with
      | none =>
        rw [hnode] at h
        cases h
      | some node =>
        rw [hnode] at h
        cases node with
        | directory => cases h
        | file own =>
          cases h
          exact ⟨place, rfl, hnode⟩
    · rintro ⟨_, h, hnode⟩
      cases h
      rw [hnode]

/-- a file that was not written to holds what it held before -/
theorem KeptBut.readBytes {written : List String → Prop} (h : KeptBut written fs fs')
    {content : ByteArray} (hread : fs.readBytes p = .ok content)
    (hnot : ¬ written (landing fs.home p)) : fs'.readBytes p = .ok content := by
  obtain ⟨place, hplace, hnode⟩ := readBytes_eq_ok_iff.mp hread
  rw [← place_eq_landing hplace] at hnot
  exact readBytes_eq_ok_iff.mpr ⟨place, h.place_eq_ok hplace, h.file place content hnot hnode⟩

/-! ## making directories -/

theorem withDirectory_keptBut (h : fs.withDirectory p = .ok fs') :
    KeptBut (fun _ => False) fs fs' := by
  unfold withDirectory at h
  split at h
  · cases h
  · split at h
    · cases h
    · rename_i hnone
      cases h
      exact keptBut_put_directory hnone

theorem run_bind {α β : Type} (x : FileAction α) (f : α → FileAction β) (fs : FileSystem) :
    (x >>= f).run.run fs =
      match x.run.run fs with
      | (.ok a, fs') => (f a).run.run fs'
      | (.error e, fs') => (.error e, fs') := by
  rw [ExceptT.run_bind, StateT.run_bind]
  rcases x.run.run fs with ⟨result, fs'⟩
  cases result <;> rfl

theorem run_ensureDirectory (p : Path) (fs : FileSystem) : (ensureDirectory p).run.run fs =
    match fs.withDirectory p with
    | .ok fs' => (.ok (), fs')
    | .error fault => if fs.isDirectory p then (.ok (), fs) else (.error ⟨fault, p⟩, fs) := by
  unfold ensureDirectory
  rw [run_bind]
  show (match fs.withDirectory p with
    | .ok fs' => _
    | .error fault => _ : FileAction Unit).run.run fs = _
  cases fs.withDirectory p with
  | ok fs' => rfl
  | error fault =>
    dsimp only
    rw [run_bind]
    show (if fs.isDirectory p then _ else _ : FileAction Unit).run.run fs = _
    split <;> rfl

def WritesNothing {α : Type} (x : FileAction α) : Prop :=
  ∀ fs, KeptBut (fun _ => False) fs (x.run.run fs).2

theorem WritesNothing.bind {α β : Type} {x : FileAction α} {f : α → FileAction β}
    (hx : WritesNothing x) (hf : ∀ a, WritesNothing (f a)) : WritesNothing (x >>= f) := by
  intro fs
  have hfirst := hx fs
  rw [run_bind]
  rcases hrun : x.run.run fs with ⟨result, fs'⟩
  rw [hrun] at hfirst
  cases result with
  | error e => exact hfirst
  | ok a => exact hfirst.trans (hf a fs')

theorem writesNothing_get : WritesNothing (get : FileAction FileSystem) := KeptBut.refl _

theorem writesNothing_ensureDirectory (p : Path) : WritesNothing (ensureDirectory p) := by
  intro fs
  rw [run_ensureDirectory]
  split
  · exact withDirectory_keptBut ‹_›
  · split <;> exact KeptBut.refl _ fs

theorem writesNothing_ensureDirectories (n : Nat) (p : Path) :
    WritesNothing (ensureDirectories n p) := by
  induction n generalizing p with
  | zero => exact writesNothing_ensureDirectory p
  | succ n ih =>
    refine writesNothing_get.bind fun fs => ?_
    split
    · exact (ih p.parent).bind fun _ => writesNothing_ensureDirectory p
    · exact writesNothing_ensureDirectory p

/-! ## writing a file -/

theorem withFile_eq_ok {content : ByteArray} (h : fs.withFile p content = .ok fs') :
    KeptBut (· = landing fs.home p) fs fs' ∧ fs'.readBytes p = .ok content := by
  unfold withFile at h
  split at h
  · cases h
  · rename_i place hplace
    have hnode : fs.node? place ≠ some .directory ∧ fs' = fs.put place (.file content) := by
      split at h
      · cases h
      · rename_i hnot
        cases h
        exact ⟨hnot, rfl⟩
    obtain ⟨hnot, rfl⟩ := hnode
    rw [← place_eq_landing hplace]
    have hkept : KeptBut (· = place) fs (fs.put place (.file content)) := keptBut_put_file hnot
    exact ⟨hkept, readBytes_eq_ok_iff.mpr ⟨place, hkept.place_eq_ok hplace, node?_put_self hnot⟩⟩

theorem run_change (p : Path) (step : FileSystem → Except FileFault FileSystem) (fs : FileSystem) :
    (change p step).run.run fs =
      match step fs with
      | .ok fs' => (.ok (), fs')
      | .error fault => (.error ⟨fault, p⟩, fs) := by
  unfold change
  rw [run_bind]
  show (match step fs with
    | .ok fs' => _
    | .error fault => _ : FileAction Unit).run.run fs = _
  cases step fs <;> rfl

/-- the outcome of writing a text: a file is written, or none is -/
theorem run_writeText (p : Path) (content : String) (fs : FileSystem) :
    (∃ fs', KeptBut (· = landing fs.home p) fs fs' ∧ fs'.readBytes p = .ok content.toUTF8 ∧
        (writeText p content).run.run fs = (.ok p.text, fs')) ∨
      ∃ e fs', KeptBut (fun _ => False) fs fs' ∧
        (writeText p content).run.run fs = (.error e, fs') := by
  have hmade := writesNothing_ensureDirectories p.parent.names.length p.parent fs
  unfold writeText
  rw [run_bind]
  rcases hrun : (ensureDirectories p.parent.names.length p.parent).run.run fs with ⟨result, made⟩
  rw [hrun] at hmade
  cases result with
  | error e => exact .inr ⟨e, made, hmade, rfl⟩
  | ok _ =>
    dsimp only
    rw [run_bind, run_change]
    cases hwrite : made.withFile p content.toUTF8 with
    | error fault => exact .inr ⟨_, made, hmade, rfl⟩
    | ok fs' =>
      obtain ⟨hkept, hread⟩ := withFile_eq_ok hwrite
      rw [hmade.home] at hkept
      exact .inl ⟨fs', (hmade.mono fun _ h => h.elim).trans hkept, hread, rfl⟩

end ApiBindings.FileSystem
