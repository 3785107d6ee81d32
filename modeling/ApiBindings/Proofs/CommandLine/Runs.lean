import ApiBindings.CommandLine.Run
import ApiBindings.Proofs.Files.Writing
import Mathlib.Data.List.Induction

/-!
# What a run leaves

The jobs of a run share the files: what one writes, a later one may read or write over.  A run goes
through all jobs, or it stops at the first that is not carried out.

* `CarriedOut`                  a job that is carried out;
* `runJobs_append`              a run after a run;
* `runJobs_keptBut`             a run changes no files but the outputs of its jobs;
* `runJobs_all_or_up_to_first`  the files at the end of a run.
-/

namespace ApiBindings

open FileSystem

/-! ## single jobs -/

theorem writeOutput_cases (files : FileSystem) (output content : String) :
    (∃ path files', KeptBut (· = landing files.home (Path.ofText output)) files files' ∧
        files'.readBytes (Path.ofText output) = .ok content.toUTF8 ∧
        writeOutput files output content = (.ok path, files')) ∨
      ∃ f files', KeptBut (fun _ => False) files files' ∧
        writeOutput files output content = (.fail f, files') := by
  unfold writeOutput
  rcases run_writeText (Path.ofText output) content files with
    ⟨files', hkept, hread, hrun⟩ | ⟨e, files', hkept, hrun⟩
  · rw [hrun]
    exact .inl ⟨_, files', hkept, hread, rfl⟩
  · rw [hrun]
    exact .inr ⟨_, files', hkept, rfl⟩

namespace Session

theorem load_job (s : Session) (sources : Sources) : (s.load sources).2.job = s.job := by
  unfold load
  split <;> rfl

theorem ensureLoaded_job (s : Session) (sources : Sources) :
    (s.ensureLoaded sources).2.job = s.job := by
  unfold ensureLoaded
  split
  · rfl
  · exact load_job s sources

theorem text_job (s : Session) (sources : Sources) : (s.text sources).2.job = s.job := by
  have hjob := ensureLoaded_job s sources
  unfold text
  rcases hload : s.ensureLoaded sources with ⟨result, s'⟩
  rw [hload] at hjob
  cases result <;> exact hjob

end Session

namespace CommandLine

def textAt (web : Web) (files : FileSystem) (j : Job) : Attempt String :=
  (Session.text { job := j } ⟨files, web⟩).1

/-- a job is carried out: its text is made and written, and the messages about it are shown -/
structure CarriedOut (web : Web) (files : FileSystem) (j : Job) (files' : FileSystem) : Prop where
  announced : (shown? (progressText j)).isSome
  written : ∃ text path, textAt web files j = .ok text ∧
    writeOutput files j.output text = (.ok path, files')
  told : (shown? (successText j)).isSome ∧ (shown? ("  - " ++ j.output)).isSome

variable {web : Web} {files files' : FileSystem} {j : Job}

/-- a job that is carried out leaves its text at its output and changes no other file -/
theorem CarriedOut.leaves (h : CarriedOut web files j files') :
    KeptBut (· = landing files.home (Path.ofText j.output)) files files' ∧
      ∃ text, textAt web files j = .ok text ∧
        files'.readBytes (Path.ofText j.output) = .ok text.toUTF8 := by
  obtain ⟨text, path, htext, hwrite⟩ := h.written
  rcases writeOutput_cases files j.output text with ⟨_, _, hkept, hread, heq⟩ | ⟨_, _, _, heq⟩
  · rw [hwrite] at heq
    cases heq
    exact ⟨hkept, text, htext, hread⟩
  · rw [hwrite] at heq
    cases heq

/-! ## runs -/

-- The equation that is made for the definition takes too long, since all of a message is unfolded.
theorem runJobs_eq (web : Web) (j : Job) (rest : List Job) (files : FileSystem) :
    runJobs web (j :: rest) files =
      match shown? (progressText j) with
      | none => .finish (.broken .markup) files
      | some _ =>
        match Session.run { job := j } ⟨files, web⟩ with
        | (.error e, _, files) => .interrupted e files
        | (.ok _, _, files) =>
          .print (successText j) files (.print ("  - " ++ j.output) files
            (runJobs web rest files)) := by
  with_unfolding_all rfl

/-- one job of a run: it is announced, its text is made and written, and the rest is left -/
theorem runJobs_cons (web : Web) (j : Job) (rest : List Job) (files : FileSystem) :
    runJobs web (j :: rest) files =
      match shown? (progressText j) with
      | none => .finish (.broken .markup) files
      | some _ =>
        match textAt web files j with
        | .error e => .interrupted e files
        | .ok text =>
          match writeOutput files j.output text with
          | (.error e, files') => .interrupted e files'
          | (.ok _, files') =>
            .print (successText j) files' (.print ("  - " ++ j.output) files'
              (runJobs web rest files')) := by
  have hjob := Session.text_job { job := j } ⟨files, web⟩
  rw [runJobs_eq]
  unfold Session.run textAt
  rcases htext : Session.text { job := j } ⟨files, web⟩ with ⟨result, s⟩
  rw [htext] at hjob
  cases result with
  | error e => rfl
  | ok text =>
    dsimp only
    rw [show s.job = j from hjob]
    rcases writeOutput files j.output text with ⟨result, files'⟩
    cases result <;> rfl

theorem print_of_isSome {text : String} (h : (shown? text).isSome) : ∃ line, ∀ files next,
    Result.print text files next = { next with printed := line :: next.printed } := by
  obtain ⟨line, hline⟩ := Option.isSome_iff_exists.mp h
  refine ⟨line, fun files next => ?_⟩
  rw [Result.print, hline]

/-- a job that is carried out leaves the rest to the jobs behind it -/
theorem runJobs_of_carriedOut (h : CarriedOut web files j files') : ∃ lines, ∀ rest,
    runJobs web (j :: rest) files =
      ⟨lines ++ (runJobs web rest files').printed, (runJobs web rest files').ending,
        (runJobs web rest files').files⟩ := by
  obtain ⟨text, path, htext, hwrite⟩ := h.written
  obtain ⟨announced, hannounced⟩ := Option.isSome_iff_exists.mp h.announced
  obtain ⟨success, hsuccess⟩ := print_of_isSome h.told.1
  obtain ⟨output, houtput⟩ := print_of_isSome h.told.2
  refine ⟨[success, output], fun rest => ?_⟩
  rw [runJobs_cons, hannounced]
  dsimp only
  rw [htext]
  dsimp only
  rw [hwrite]
  dsimp only
  rw [hsuccess, houtput]
  rfl

theorem print_ending_done {text : String} {next : Result}
    (h : (Result.print text files next).ending = .done) :
    (shown? text).isSome ∧ next.ending = .done := by
  unfold Result.print at h
  split at h
  · rename_i hshown
    exact ⟨by rw [hshown]; rfl, h⟩
  · cases h

theorem interrupted_ending (e : Interruption) (files : FileSystem) :
    (Result.interrupted e files).ending.code = 1 ∧ (Result.interrupted e files).files = files := by
  cases e with
  | breakdown b => exact ⟨rfl, rfl⟩
  | failure f =>
    unfold Result.interrupted Result.print
    dsimp only
    split <;> exact ⟨rfl, rfl⟩

/-- a run does not go on behind a job that is not carried out -/
theorem carriedOut_of_done {rest : List Job}
    (h : (runJobs web (j :: rest) files).ending = .done) :
    ∃ files', CarriedOut web files j files' := by
  have hstopped : ∀ {e files'}, (Result.interrupted e files').ending ≠ .done := by
    intro e files' hdone
    have hcode := (interrupted_ending e files').1
    rw [hdone] at hcode
    cases hcode
  rw [runJobs_cons] at h
  split at h
  · cases h
  · rename_i announced hannounced
    split at h
    · exact (hstopped h).elim
    · rename_i text htext
      split at h
      · exact (hstopped h).elim
      · rename_i path files' hwrite
        obtain ⟨hsuccess, h⟩ := print_ending_done h
        obtain ⟨houtput, _⟩ := print_ending_done h
        exact ⟨files', by rw [hannounced]; rfl, ⟨text, path, htext, hwrite⟩, hsuccess, houtput⟩

/-- a run after a run that came to its end -/
theorem runJobs_append {before : List Job} (h : (runJobs web before files).ending = .done)
    (rest : List Job) : runJobs web (before ++ rest) files =
      ⟨(runJobs web before files).printed ++
          (runJobs web rest (runJobs web before files).files).printed,
        (runJobs web rest (runJobs web before files).files).ending,
        (runJobs web rest (runJobs web before files).files).files⟩ := by
  induction before generalizing files with
  | nil => rfl
  | cons j before ih =>
    obtain ⟨files', hcarried⟩ := carriedOut_of_done h
    obtain ⟨lines, hlines⟩ := runJobs_of_carriedOut hcarried
    rw [hlines] at h
    rw [List.cons_append, hlines, hlines, ih h, List.append_assoc]

theorem done_of_append {before rest : List Job}
    (h : (runJobs web (before ++ rest) files).ending = .done) :
    (runJobs web before files).ending = .done := by
  induction before generalizing files with
  | nil => rfl
  | cons j before ih =>
    obtain ⟨files', hcarried⟩ := carriedOut_of_done h
    obtain ⟨lines, hlines⟩ := runJobs_of_carriedOut hcarried
    rw [List.cons_append, hlines] at h
    rw [hlines]
    exact ih h

/-- a job whose text cannot be made stops the run and leaves the files as they are -/
theorem runJobs_of_error {e : Interruption} (h : textAt web files j = .error e) :
    ∃ result, (∀ rest, runJobs web (j :: rest) files = result) ∧ result.ending.code = 1 ∧
      result.files = files := by
  cases hannounced : shown? (progressText j) with
  | none =>
    refine ⟨.finish (.broken .markup) files, fun rest => ?_, rfl, rfl⟩
    rw [runJobs_cons, hannounced]
  | some announced =>
    refine ⟨.interrupted e files, fun rest => ?_, interrupted_ending e files⟩
    rw [runJobs_cons, hannounced]
    dsimp only
    rw [h]

theorem print_keptBut {written : List String → Prop} {text : String} {next : Result}
    (h : KeptBut written files files') (hnext : KeptBut written files next.files) :
    KeptBut written files (Result.print text files' next).files := by
  unfold Result.print
  split
  · exact hnext
  · exact h

def outputPlaces (home : List String) (jobs : List Job) (place : List String) : Prop :=
  ∃ j ∈ jobs, place = landing home (Path.ofText j.output)

/-- a run changes no files but the outputs of its jobs -/
theorem runJobs_keptBut (web : Web) (jobs : List Job) (files : FileSystem) :
    KeptBut (outputPlaces files.home jobs) files (runJobs web jobs files).files := by
  induction jobs generalizing files with
  | nil => exact .refl _ files
  | cons j rest ih =>
    rw [runJobs_cons]
    split
    · exact .refl _ files
    · split
      · rw [(interrupted_ending _ files).2]
        exact .refl _ files
      · rename_i text htext
        rcases writeOutput_cases files j.output text with
          ⟨path, files', hkept, _, hwrite⟩ | ⟨f, files', hkept, hwrite⟩
        · rw [hwrite]
          have hfirst : KeptBut (outputPlaces files.home (j :: rest)) files files' :=
            hkept.mono fun place hplace => ⟨j, List.mem_cons_self, hplace⟩
          have hrest : KeptBut (outputPlaces files.home (j :: rest)) files'
              (runJobs web rest files').files := by
            refine (ih files').mono ?_
            rintro place ⟨other, hother, hplace⟩
            exact ⟨other, List.mem_cons_of_mem j hother, hkept.home ▸ hplace⟩
          exact print_keptBut hfirst (print_keptBut hfirst (hfirst.trans hrest))
        · rw [hwrite]
          show KeptBut _ files (Result.interrupted _ files').files
          rw [(interrupted_ending _ files').2]
          exact hkept.mono fun _ h => h.elim

/-! ## whole runs -/

/-- every job of a run that comes to its end was carried out -/
theorem carriedOut_of_split {before after : List Job}
    (h : (runJobs web (before ++ j :: after) files).ending = .done) :
    ∃ files', CarriedOut web (runJobs web before files).files j files' ∧
      (runJobs web (before ++ j :: after) files).files = (runJobs web after files').files := by
  have hbefore := done_of_append h
  rw [runJobs_append hbefore] at h ⊢
  obtain ⟨files', hcarried⟩ := carriedOut_of_done h
  obtain ⟨lines, hlines⟩ := runJobs_of_carriedOut hcarried
  rw [hlines]
  exact ⟨files', hcarried, rfl⟩

theorem done_of_carriedOut {before : List Job} (h : (runJobs web before files).ending = .done)
    (hcarried : CarriedOut web (runJobs web before files).files j files') :
    (runJobs web (before ++ [j]) files).ending = .done := by
  obtain ⟨lines, hlines⟩ := runJobs_of_carriedOut hcarried
  rw [runJobs_append h, hlines]
  rfl

/-- a run comes to its end if every job is carried out once those before it were -/
theorem done_iff {jobs : List Job} : (runJobs web jobs files).ending = .done ↔
    ∀ before j after, jobs = before ++ j :: after → (runJobs web before files).ending = .done →
      ∃ files', CarriedOut web (runJobs web before files).files j files' := by
  constructor
  · rintro h before j after rfl _
    obtain ⟨files', hcarried, _⟩ := carriedOut_of_split h
    exact ⟨files', hcarried⟩
  · intro h
    -- by induction on how much of the list is done, from the front
    have hprefix : ∀ before after, jobs = before ++ after →
        (runJobs web before files).ending = .done := by
      intro before
      induction before using List.reverseRecOn with
      | nil => exact fun _ _ => rfl
      | append_singleton before j ih =>
        intro after hsplit
        have hsplit : jobs = before ++ j :: after := by
          rw [hsplit, List.append_assoc, List.singleton_append]
        have hbefore := ih (j :: after) hsplit
        obtain ⟨files', hcarried⟩ := h before j after hsplit hbefore
        exact done_of_carriedOut hbefore hcarried
    exact hprefix jobs [] (List.append_nil jobs).symm

/-- **A run that meets a job whose text cannot be made ends there, and the files are those that the
jobs before it left.  Otherwise, if all jobs are carried out, every output holds the text that was
made when its turn came, unless a later job writes to the same place.** -/
theorem runJobs_all_or_up_to_first (web : Web) (jobs : List Job) (files : FileSystem) :
    (∀ before j after e, jobs = before ++ j :: after → (runJobs web before files).ending = .done →
      textAt web (runJobs web before files).files j = .error e →
        (runJobs web jobs files).ending.code = 1 ∧
        (runJobs web jobs files).files = (runJobs web before files).files ∧
        ∀ others, runJobs web (before ++ j :: others) files = runJobs web jobs files) ∧
    ((runJobs web jobs files).ending = .done ↔
      ∀ before j after, jobs = before ++ j :: after → (runJobs web before files).ending = .done →
        ∃ files', CarriedOut web (runJobs web before files).files j files') ∧
    ((runJobs web jobs files).ending = .done → ∀ before j after, jobs = before ++ j :: after →
      ∃ text, textAt web (runJobs web before files).files j = .ok text ∧
        (¬ outputPlaces files.home after (landing files.home (Path.ofText j.output)) →
          (runJobs web jobs files).files.readBytes (Path.ofText j.output) =
            .ok text.toUTF8)) := by
  refine ⟨?_, done_iff, ?_⟩
  · rintro before j after e rfl hbefore herror
    obtain ⟨result, hresult, hcode, hfiles⟩ := runJobs_of_error herror
    rw [runJobs_append hbefore, hresult]
    refine ⟨hcode, hfiles, fun others => ?_⟩
    rw [runJobs_append hbefore, hresult]
  · rintro h before j after rfl
    obtain ⟨files', hcarried, hfiles⟩ := carriedOut_of_split h
    obtain ⟨hkept, text, htext, hread⟩ := hcarried.leaves
    refine ⟨text, htext, fun hlater => ?_⟩
    have hhome : files'.home = files.home :=
      hkept.home.trans (runJobs_keptBut web before files).home
    rw [hfiles]
    refine (runJobs_keptBut web after files').readBytes hread ?_
    rw [hhome]
    exact hlater

/-- a description without operations -/
def bareFiles : FileSystem where
  nodes := [(["api.json"], .file "\x7b\"openapi\": \"3.0.0\", \"paths\": \x7b\x7d\x7d".toUTF8)]
  home := []

def bareJob : Job := { source := "api.json", output := "out/api.tsx" }

def goneJob : Job := { source := "gone.json", output := "out/more/gone.tsx" }

def offline : Web := ⟨[], .unreachable "offline", false⟩

/-- the job behind the one that fails is not reached, and the one before it has left its output -/
theorem runJobs_up_to_goneJob :
    (runJobs offline [bareJob] bareFiles).ending = .done ∧
      (runJobs offline [bareJob, goneJob, bareJob] bareFiles).ending.code = 1 ∧
      (runJobs offline [bareJob, goneJob, bareJob] bareFiles).files =
        (runJobs offline [bareJob] bareFiles).files ∧
      ∃ text, textAt offline bareFiles bareJob = .ok text ∧
        (runJobs offline [bareJob] bareFiles).files.readBytes (Path.ofText bareJob.output) =
          .ok text.toUTF8 := by
  have hdone : (runJobs offline [bareJob] bareFiles).ending = .done := by decide +kernel
  have hfails : (textAt offline (runJobs offline [bareJob] bareFiles).files goneJob).isOk = false :=
    by decide +kernel
  obtain ⟨e, hgone⟩ : ∃ e,
      textAt offline (runJobs offline [bareJob] bareFiles).files goneJob = .error e := by
    cases htext : textAt offline (runJobs offline [bareJob] bareFiles).files goneJob with
    | error e => exact ⟨e, rfl⟩
    | ok text =>
      rw [htext] at hfails
      cases hfails
  obtain ⟨hcode, hfiles, _⟩ :=
    (runJobs_all_or_up_to_first offline [bareJob, goneJob, bareJob] bareFiles).1 [bareJob] goneJob
      [bareJob] e rfl hdone hgone
  obtain ⟨text, htext, hread⟩ :=
    (runJobs_all_or_up_to_first offline [bareJob] bareFiles).2.2 hdone [] bareJob [] rfl
  exact ⟨hdone, hcode, hfiles, text, htext, hread fun ⟨_, hmem, _⟩ => nomatch hmem⟩

end CommandLine

end ApiBindings
