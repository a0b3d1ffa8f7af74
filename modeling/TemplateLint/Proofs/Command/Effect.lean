import TemplateLint.Proofs.Command.Rewriting
import TemplateLint.Proofs.Command.Selection

/-!
# What a run changes

Reporting leaves the tree as it is. A run that fixes files either changes nothing, because the
configuration or a path is refused before the first visit, or it visits the selected files in
order. It stops at the first file that is not UTF-8, with everything in front of it visited,
and it breaks off at a file with a template whose number is too long to be converted.
-/

namespace TemplateLint.Command

/-- A run over files, which visits them in order up to one that stops it. -/
inductive FixRun (config : Config) (files : List Selected) (before after : FileTree) :
    Ending → Prop
  /-- All files are visited. -/
  | finished (hread : ∀ file ∈ files, IsUtf8At before file.location)
      (hmended : MendedBy config files before after) : FixRun config files before after (.exit 0)
  /-- The first file that is not UTF-8 stops the run. -/
  | unreadable {visited later : List Selected} {bad : Selected}
      (hfiles : files = visited ++ bad :: later)
      (hread : ∀ file ∈ visited, IsUtf8At before file.location)
      (hbad : ¬ IsUtf8At before bad.location) (hmended : MendedBy config visited before after) :
    FixRun config files before after (.exit 2)
  /-- A number that is too long breaks the run off. -/
  | oversized {visited later : List Selected} {bad : Selected} {bytes : List UInt8}
      {source : SourceText} {numeral : Text.Oversized} (hfiles : files = visited ++ bad :: later)
      (hread : ∀ file ∈ visited ++ [bad], IsUtf8At before file.location)
      (hmended : MendedBy config visited before after)
      (hbytes : after.file? bad.location = some bytes) (hholds : Holds bytes source)
      (hfix : (Source.applyFixes source.text config (some bad.path)).result = .error numeral) :
    FixRun config files before after (.crash (.oversized numeral))

/-- A run that visits a first file and goes on with the others. -/
theorem FixRun.cons {config : Config} {file : Selected} {files : List Selected}
    {before middle after : FileTree} {ending : Ending}
    (hfile : IsUtf8At before file.location) (hstep : MendedBy config [file] before middle)
    (h : FixRun config files middle after ending) :
    FixRun config (file :: files) before after ending := by
  -- The visit keeps which files are UTF-8, so those that follow can be judged before it.
  have hbefore : ∀ {others : List Selected}, (∀ other ∈ others, IsUtf8At middle other.location) →
      ∀ other ∈ file :: others, IsUtf8At before other.location := by
    intro others hall
    exact List.forall_mem_cons.mpr
      ⟨hfile, fun other hother => hstep.isUtf8At_iff.mp (hall other hother)⟩
  cases h with
  | finished hread hmended => exact .finished (hbefore hread) (hstep.trans hmended)
  | unreadable hfiles hread hbad hmended =>
    subst hfiles
    exact .unreadable rfl (hbefore hread) (mt hstep.isUtf8At_iff.mpr hbad) (hstep.trans hmended)
  | oversized hfiles hread hmended hbytes hholds hfix =>
    subst hfiles
    exact .oversized rfl (hbefore hread) (hstep.trans hmended) hbytes hholds hfix

/-- The ending that a halt gives a run. -/
def Halt.ending : Halt → Ending
  | .failure _ => .exit 2
  | .crash cause => .crash cause

/-- The ending of a run that writes, from what became of its files. -/
def fixEnding : Except Halt Nat → Ending
  | .ok _ => .exit 0
  | .error halt => halt.ending

/-- Counting more fixes does not change how a run ends. -/
theorem fixEnding_map (outcome : Except Halt Nat) (f : Nat → Nat) :
    fixEnding (outcome.map f) = fixEnding outcome := by
  cases outcome <;> rfl

/-- Showing log entries leaves the tree alone. -/
@[simp]
theorem tree_log (session : Session) (verbose : Bool) (entries : List LogEntry) :
    (session.log verbose entries).tree = session.tree := rfl

/-- A halt ends a run and leaves the tree alone. -/
theorem halt_eq (session : Session) (halt : Halt) :
    (session.halt halt).1.tree = session.tree ∧ (session.halt halt).2 = halt.ending := by
  cases halt <;> exact ⟨rfl, rfl⟩

section Steps

variable {verbose : Bool} {config : Config} {session : Session} {files : List Selected}

/-- Collecting diagnostics leaves the tree alone. -/
theorem tree_checkFiles :
    (checkFiles verbose config session files).1.tree = session.tree := by
  induction files generalizing session with
  | nil => rfl
  | cons file files ih =>
    rw [checkFiles]
    dsimp only
    split
    · rfl
    · split
      · rfl
      · rw [ih]
        rfl

/-- Counting fixes leaves the tree alone. -/
theorem tree_fixFiles_checkOnly :
    (fixFiles verbose true config session files).1.tree = session.tree := by
  induction files generalizing session with
  | nil => rfl
  | cons file files ih =>
    rw [fixFiles]
    dsimp only
    split
    · rfl
    · split
      · rfl
      · rw [ih, finishFix]
        split <;> rfl

/-- The end of a visit rewrites the file and no other. -/
theorem mendedBy_finishFix {file : Selected} {old : List UInt8} {source : SourceText}
    {mended : Text} {count : Nat} (hold : session.tree.file? file.location = some old)
    (hholds : Holds old source)
    (hfix : (Source.applyFixes source.text config (some file.path)).result = .ok (mended, count)) :
    MendedBy config [file] session.tree
      (finishFix verbose false file source mended count session).tree := by
  have hrewritten := Rewritten.of_applyFixes hholds hfix
  rw [finishFix]
  split
  · next hzero =>
    -- Nothing is written, and the bytes that would be are those of the file.
    subst hzero
    rw [hholds.bytes_eq_of_zero hfix] at hrewritten
    exact .of_visit rfl rfl rfl (fun _ _ => rfl) hold hold hrewritten
  · refine .of_visit rfl rfl (FileTree.locations_write ..) ?_ hold ?_ hrewritten
    · intro location hne
      exact (FileTree.file?_write ..).trans (if_neg hne)
    · refine (FileTree.file?_write ..).trans ?_
      rw [if_pos rfl, hold, Option.map_some]

/-- Fixing files visits them in order up to one that stops it. -/
theorem fixRun_fixFiles (config : Config) (verbose : Bool) (session : Session)
    (hfiles : ∀ file ∈ files, ∃ bytes, session.tree.file? file.location = some bytes) :
    FixRun config files session.tree (fixFiles verbose false config session files).1.tree
      (fixEnding (fixFiles verbose false config session files).2) := by
  induction files generalizing session with
  | nil => exact .finished (List.forall_mem_nil _) (.refl _)
  | cons file files ih =>
    obtain ⟨⟨old, hold⟩, hlater⟩ := List.forall_mem_cons.mp hfiles
    rw [fixFiles]
    dsimp only
    split
    · next failure hfailed =>
      have hbytes : ¬ IsUtf8 old := (exists_readSource_error_iff hold).mp ⟨failure, hfailed⟩
      refine .unreadable (List.nil_append _).symm (List.forall_mem_nil _) ?_ (.refl _)
      rintro ⟨bytes, hother, hutf8⟩
      cases hold.symm.trans hother
      exact hbytes hutf8
    · next source hsource =>
      have hholds : Holds old source := (readSource_eq_ok_iff hold).mp hsource
      have hfile : IsUtf8At session.tree file.location :=
        ⟨old, hold, isUtf8_iff_exists_holds.mpr ⟨source, hholds⟩⟩
      split
      · next numeral hnumeral =>
        exact .oversized (List.nil_append _).symm (List.forall_mem_singleton.mpr hfile) (.refl _)
          hold hholds hnumeral
      · next mended count hfix =>
        generalize hlogged : (session.log verbose [scanningEntry file]).log verbose _ = logged
        have htree : logged.tree = session.tree := by
          rw [← hlogged, tree_log, tree_log]
        rw [← htree] at hold hfile hlater ⊢
        have hstep : MendedBy config [file] logged.tree
            (finishFix verbose false file source mended count logged).tree :=
          mendedBy_finishFix hold hholds hfix
        rw [fixEnding_map]
        exact .cons hfile hstep
          (ih _ fun other hother => hstep.exists_file?_iff.mpr (hlater other hother))

end Steps

section Commands

variable {homeText : Text} {choice : ConfigChoice} {verbose json checkOnly : Bool} {config : Config}
  {paths : List Text} {tree : FileTree} {session : Session} {halt : Halt}

/-- The report of a check leaves the tree alone. -/
theorem tree_reportCheck {count : Nat} {found : List Diagnostic} :
    (reportCheck json count found session).1.tree = session.tree := by
  unfold reportCheck
  dsimp only
  split
  · rfl
  · split <;> rfl

/-- A check leaves the tree alone. -/
theorem tree_check : (check verbose json config paths session).1.tree = session.tree := by
  unfold check
  split
  · exact (halt_eq _ _).1
  · next files _ =>
    have htree : (checkFiles verbose config (session.log verbose (selectionEntries files))
        files).1.tree = session.tree := tree_checkFiles
    dsimp only
    split
    · next last halt hrun =>
      rw [hrun] at htree
      exact (halt_eq _ _).1.trans htree
    · next last found hrun =>
      rw [hrun] at htree
      exact tree_reportCheck.trans htree

/-- A run that only counts fixes leaves the tree alone. -/
theorem tree_fix_checkOnly : (fix verbose true config paths session).1.tree = session.tree := by
  unfold fix
  split
  · exact (halt_eq _ _).1
  · next files _ =>
    have htree : (fixFiles verbose true config (session.log verbose (selectionEntries files))
        files).1.tree = session.tree := tree_fixFiles_checkOnly
    dsimp only
    split
    · next last halt hrun =>
      rw [hrun] at htree
      exact (halt_eq _ _).1.trans htree
    · next last count hrun =>
      rw [hrun] at htree
      exact htree

/-- Paths that are refused end a run before the first visit. -/
theorem fix_of_select_error (htree : session.tree = tree)
    (h : select tree paths = .error halt) :
    (fix verbose checkOnly config paths session).1.tree = tree ∧
      (fix verbose checkOnly config paths session).2 = halt.ending := by
  subst htree
  rw [fix, h]
  exact halt_eq session halt

/-- A run that fixes the files of its paths visits them in order. -/
theorem fixRun_fix {files : List Selected} (htree : session.tree = tree)
    (h : select tree paths = .ok files) :
    FixRun config files tree (fix verbose false config paths session).1.tree
      (fix verbose false config paths session).2 := by
  have hfiles : ∀ file ∈ files, ∃ bytes, tree.file? file.location = some bytes := by
    intro file hfile
    obtain ⟨path, _, hselects⟩ := (exists_mem_select_iff h).mp ⟨file, hfile, rfl⟩
    exact hselects.exists_file?
  subst htree
  have hrun := fixRun_fixFiles config verbose
    (session.log verbose (selectionEntries files)) hfiles
  unfold fix
  simp only [h]
  split
  · next last halt hlast =>
    rw [hlast] at hrun
    rw [(halt_eq last halt).1, (halt_eq last halt).2]
    exact hrun
  · next last count hlast =>
    rw [hlast] at hrun
    simpa [fixEnding] using hrun

/-- A configuration that is refused ends a run before its command. -/
theorem withConfig_of_error (verbose : Bool) (session : Session)
    (next : Config → Session → Session × Ending)
    (h : (loadConfig session.tree homeText choice).2 = .error halt) :
    (withConfig homeText choice verbose session next).1.tree = session.tree ∧
      (withConfig homeText choice verbose session next).2 = halt.ending := by
  unfold withConfig
  split
  · next entries other hload =>
    rw [hload] at h
    cases h
    exact halt_eq _ _
  · next entries config hload =>
    rw [hload] at h
    cases h

/-- A configuration that is read is handed to the command. -/
theorem withConfig_of_ok (verbose : Bool) (session : Session)
    (next : Config → Session → Session × Ending)
    (h : (loadConfig session.tree homeText choice).2 = .ok config) :
    ∃ logged : Session, logged.tree = session.tree ∧
      withConfig homeText choice verbose session next = next config logged := by
  unfold withConfig
  split
  · next entries other hload =>
    rw [hload] at h
    cases h
  · next entries other hload =>
    rw [hload] at h
    cases h
    exact ⟨session.log verbose entries, rfl, rfl⟩

/-- A command that leaves the tree alone does so with every configuration. -/
theorem tree_withConfig {next : Config → Session → Session × Ending}
    (hnext : ∀ config session, (next config session).1.tree = session.tree) :
    (withConfig homeText choice verbose session next).1.tree = session.tree := by
  cases hload : (loadConfig session.tree homeText choice).2 with
  | error halt => exact (withConfig_of_error verbose session next hload).1
  | ok config =>
    obtain ⟨logged, htree, hlogged⟩ := withConfig_of_ok verbose session next hload
    rw [hlogged, hnext, htree]

end Commands

/-- A command that may write files. -/
def Invocation.Writes : Invocation → Prop
  | .check .. => False
  | .fix _ _ checkOnly _ => checkOnly = false
  | .shapes .. => False

/-- Commands that do not write leave the tree alone. -/
theorem tree_run {invocation : Invocation} (h : ¬ invocation.Writes) (homeText : Text)
    (tree : FileTree) : (invocation.run homeText tree).1.tree = tree := by
  cases invocation with
  | check choice verbose json paths => exact tree_withConfig fun _ _ => tree_check
  | fix choice verbose checkOnly paths =>
    have hcheck : checkOnly = true := Bool.of_not_eq_false h
    subst hcheck
    exact tree_withConfig fun _ _ => tree_fix_checkOnly
  | shapes choice verbose json => exact tree_withConfig fun _ _ => rfl

/-- A run changes only what it should. Commands that do not write leave the tree as it is, and
so does a run of `fix` whose configuration is refused or one of whose paths leads nowhere, as
the ending tells. Every other run of `fix` visits the selected files in order: it rewrites each
of them once for each visit, changes nothing else, and ends with the first file that is not
UTF-8, unless a number that is too long breaks it off before. -/
theorem run_changes_selected (homeText : Text) (tree : FileTree) :
    (∀ invocation : Invocation, ¬ invocation.Writes →
      (invocation.run homeText tree).1.tree = tree) ∧
    ∀ (choice : ConfigChoice) (verbose : Bool) (paths : List Text),
      let run := (Invocation.fix choice verbose false paths).run homeText tree
      (∀ halt, (loadConfig tree homeText choice).2 = .error halt →
        run.1.tree = tree ∧ run.2 = halt.ending) ∧
      ∀ config, (loadConfig tree homeText choice).2 = .ok config →
        ((∃ path ∈ paths, ∀ target, tree.resolve (Path.ofText path) ≠ .ok target) →
          run.1.tree = tree ∧ (run.2 = .exit 2 ∨
            ∃ path ∈ paths, run.2 = .crash (.access .tooLong (Path.ofText path).text))) ∧
        ((∀ path ∈ paths, ∃ target, tree.resolve (Path.ofText path) = .ok target) →
          ∃ files, select tree paths = .ok files ∧
            (∀ location, (∃ file ∈ files, file.location = location) ↔
              ∃ path ∈ paths, Selects tree (Path.ofText path) location) ∧
            FixRun config files tree run.1.tree run.2) := by
  refine ⟨fun invocation hreads => tree_run hreads homeText tree, ?_⟩
  intro choice verbose paths run
  refine ⟨fun halt hload => withConfig_of_error verbose { tree } _ hload, fun config hload => ?_⟩
  obtain ⟨logged, htree, hlogged⟩ := withConfig_of_ok verbose { tree }
    (fun config => fix verbose false config paths) hload
  have hrun : run = fix verbose false config paths logged := hlogged
  rw [hrun]
  refine ⟨?_, ?_⟩
  · rintro ⟨path, hpath, hnowhere⟩
    cases hselect : select tree paths with
    | ok files =>
      obtain ⟨target, htarget⟩ := exists_select_ok_iff.mp ⟨files, hselect⟩ path hpath
      exact absurd htarget (hnowhere target)
    | error halt =>
      have hstop : (fix verbose false config paths logged).1.tree = tree ∧
          (fix verbose false config paths logged).2 = halt.ending :=
        fix_of_select_error htree hselect
      rw [hstop.1, hstop.2]
      refine ⟨rfl, ?_⟩
      rcases exists_of_select_error hselect with ⟨failure, rfl⟩ | ⟨long, hlong, rfl⟩
      · exact .inl rfl
      · exact .inr ⟨long, hlong, rfl⟩
  · intro hall
    obtain ⟨files, hselect⟩ := exists_select_ok_iff.mpr hall
    exact ⟨files, hselect, fun location => exists_mem_select_iff hselect,
      fixRun_fix htree hselect⟩

/-- A file with a mark and a line end of two code points is selected by its name and through
its folder. It keeps both when it is mended; a file of one byte stops the run, and the file
behind it is not visited. -/
theorem run_changes_selected_marked :
    let text : Text := "Error(\"é\",\r\nnew Exception())"
    let mended : Text := "Error(new Exception(),\r\n\"é\")"
    let bytes : List UInt8 := markBytes ++ Text.encodeUtf8 text
    let tree : FileTree := ⟨[(["d", "a.cs"], bytes), (["b.cs"], [0xFF]), (["c.cs"], bytes)], [], []⟩
    let after : FileTree := tree.write ["d", "a.cs"] (markBytes ++ Text.encodeUtf8 mended)
    let paths : List Text := ["d/a.cs", "d", "b.cs", "c.cs"]
    let run := (Invocation.fix .usual false false paths).run "/" tree
    (run.1.tree, run.2) = (after, .exit 2) ∧
      ∃ visited bad later, select tree paths = .ok (visited ++ bad :: later) ∧
        ¬ IsUtf8At tree bad.location ∧ MendedBy {} visited tree after := by
  intro text mended bytes tree after paths run
  have hrun : (run.1.tree, run.2) = (after, .exit 2) := by decide +kernel
  have hload : (loadConfig tree "/" .usual).2 = .ok {} := rfl
  have hpaths : ∀ path ∈ paths, ∃ target, tree.resolve (Path.ofText path) = .ok target := by
    simp only [paths, List.forall_mem_cons]
    refine ⟨⟨.file ["d", "a.cs"] bytes, ?_⟩, ⟨.folder ["d"], ?_⟩, ⟨.file ["b.cs"] [0xFF], ?_⟩,
      ⟨.file ["c.cs"] bytes, ?_⟩, List.forall_mem_nil _⟩
    all_goals decide +kernel
  obtain ⟨files, hselect, _, hvisits⟩ :=
    (((run_changes_selected "/" tree).2 .usual false paths).2 {} hload).2 hpaths
  have hvisits : FixRun {} files tree run.1.tree run.2 := hvisits
  rw [(Prod.mk.inj hrun).1, (Prod.mk.inj hrun).2] at hvisits
  cases hvisits with
  | unreadable hfiles _ hbad hmended =>
    exact ⟨hrun, _, _, _, hfiles ▸ hselect, hbad, hmended⟩

end TemplateLint.Command
