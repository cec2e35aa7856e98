import ModuleNats.Aot.Exact
import ModuleNats.Aot.Preserve

set_option autoImplicit false

/-! # `preserve()` certifies the records

What the script promises for the modules under its root: nothing is run if a module cannot be read,
and after the command every record that was there is there unchanged, or is reported. -/

namespace ModuleNats.Aot

/-! ## Records -/

section Records

variable (root : Path) (files : Files) (path : Path) (record : Bytes)

/-- A module file: something that `rglob()` gives, and that is a file itself. -/
structure IsModule : Prop where
  mem : path ∈ files
  globs : globs root path = true
  notSymlink : isSymlink files path = false
  isFile : isFile files path = true

/-- A module with a metadata record. -/
structure HasRecord : Prop extends IsModule root files path where
  read : readModule files path = .ok record
  ne_nil : record ≠ []

/-- The module is still a file of its own and has this record. -/
structure Carries : Prop where
  notSymlink : isSymlink files path = false
  read : readModule files path = .ok record

/-- The ways in which a module can lose its record, and how they are reported. -/
inductive Damage : PyException → Prop where
  | symlink (h : isSymlink files path = true) :
      Damage (.valueError (path.text ++ ": ELF editing replaced the module with a symlink"))
  /-- deleted, unreadable, truncated, or with a second record -/
  | unreadable {error : PyException} (h : isSymlink files path = false)
      (hread : readModule files path = .error error) : Damage error
  | removed (h : isSymlink files path = false) (hread : readModule files path = .ok []) :
      Damage (.valueError (path.text ++ ": ELF editing removed the AOT module metadata"))
  | changed {current : Bytes} (h : isSymlink files path = false)
      (hread : readModule files path = .ok current) (hsome : current ≠ [])
      (hne : current ≠ record) :
      Damage (.valueError (path.text ++ ": ELF editing changed the AOT module metadata"))

end Records

section Check

variable {files : Files} {path : Path} {record : Bytes}

variable (files path record) in
/-- The check of a module finds its damage, whatever it is. -/
theorem checkRecord_cases :
    (Carries files path record ∧ checkRecord files path record = .ok ()) ∨
      ∃ error, Damage files path record error ∧ checkRecord files path record = .error error := by
  unfold checkRecord
  by_cases hlink : isSymlink files path = true
  · rw [if_pos hlink]
    exact Or.inr ⟨_, Damage.symlink hlink, rfl⟩
  · rw [if_neg hlink]
    rw [Bool.not_eq_true] at hlink
    rcases hread : readModule files path with error | current
    · exact Or.inr ⟨error, Damage.unreadable hlink hread, rfl⟩
    · by_cases hnil : current = []
      · rw [hnil] at hread ⊢
        exact Or.inr ⟨_, Damage.removed hlink hread, rfl⟩
      · by_cases hne : current ≠ record
        · refine Or.inr ⟨_, Damage.changed hlink hread hnil hne, ?_⟩
          exact (if_neg hnil).trans (if_pos hne)
        · rw [not_not.1 hne] at hread hnil ⊢
          refine Or.inl ⟨⟨hlink, hread⟩, ?_⟩
          exact (if_neg hnil).trans (if_neg (not_not.2 rfl))

/-- What the check of a module raises. -/
theorem damage_of_checkRecord {error : PyException}
    (h : checkRecord files path record = .error error) : Damage files path record error := by
  rcases checkRecord_cases files path record with
    ⟨-, hok⟩ | ⟨other, hdamage, hother⟩
  · rw [h] at hok
    exact absurd hok (by simp)
  · rw [h, Except.error.injEq] at hother
    rwa [hother]

theorem Damage.not_carries {error : PyException} (h : Damage files path record error)
    (hsome : record ≠ []) : ¬Carries files path record := by
  rintro ⟨hlink, hread⟩
  rcases h with h | ⟨-, h⟩ | ⟨-, h⟩ | ⟨-, h, -, hne⟩
  · rw [h] at hlink
    exact absurd hlink (by decide)
  · rw [h] at hread
    exact absurd hread (by simp)
  · rw [h, Except.ok.injEq] at hread
    exact hsome hread.symm
  · rw [h, Except.ok.injEq] at hread
    exact hne hread

end Check

/-! ## The first loop -/

section Saved

variable {files : Files} {root : Path}

theorem mem_modulePaths {path : Path} :
    path ∈ modulePaths files root ↔ path ∈ files ∧ globs root path = true := by
  rw [modulePaths, List.mem_insertionSort, List.mem_filter, AList.mem_keys]

theorem nodup_modulePaths : (modulePaths files root).Nodup :=
  (List.perm_insertionSort _ _).nodup_iff.2 (files.keys_nodup.filter _)

/-- What the first loop does not skip. -/
def IsOwnFile (files : Files) (path : Path) : Prop :=
  isSymlink files path = false ∧ isFile files path = true

theorem not_skipped_iff {path : Path} :
    ¬(isSymlink files path = true ∨ ¬isFile files path = true) ↔ IsOwnFile files path := by
  rw [not_or, not_not, Bool.not_eq_true, IsOwnFile]

theorem isModule_iff {path : Path} :
    IsModule root files path ↔ path ∈ modulePaths files root ∧ IsOwnFile files path := by
  rw [mem_modulePaths]
  constructor
  · rintro ⟨hmem, hglobs, hlink, hfile⟩
    exact ⟨⟨hmem, hglobs⟩, hlink, hfile⟩
  · rintro ⟨⟨hmem, hglobs⟩, hlink, hfile⟩
    exact ⟨hmem, hglobs, hlink, hfile⟩

/-- What the first loop has saved at its end: each record of a file among the paths, once. -/
structure SavedFrom (files : Files) (paths : List Path) (saved : List (Path × Bytes)) : Prop where
  sublist : (saved.map Prod.fst).Sublist paths
  readable : ∀ path ∈ paths, IsOwnFile files path → ∃ record, readModule files path = .ok record
  mem_iff : ∀ path record, (path, record) ∈ saved ↔ path ∈ paths ∧ IsOwnFile files path ∧
    readModule files path = .ok record ∧ record ≠ []

theorem SavedFrom.skip {paths : List Path} {saved : List (Path × Bytes)} {path : Path}
    (h : SavedFrom files paths saved) (hskip : ¬IsOwnFile files path) :
    SavedFrom files (path :: paths) saved where
  sublist := h.sublist.cons path
  readable := by
    rintro other hother hown
    rcases List.mem_cons.1 hother with rfl | hother
    · exact absurd hown hskip
    · exact h.readable other hother hown
  mem_iff := by
    intro other record
    rw [h.mem_iff]
    constructor
    · rintro ⟨hmem, hrest⟩
      exact ⟨List.mem_cons_of_mem path hmem, hrest⟩
    · rintro ⟨hmem, hown, hrest⟩
      rcases List.mem_cons.1 hmem with rfl | hmem
      · exact absurd hown hskip
      · exact ⟨hmem, hown, hrest⟩

theorem SavedFrom.read {paths : List Path} {saved : List (Path × Bytes)} {path : Path}
    {record : Bytes} (h : SavedFrom files paths saved) (hown : IsOwnFile files path)
    (hread : readModule files path = .ok record) :
    SavedFrom files (path :: paths)
      (if record ≠ [] then (path, record) :: saved else saved) where
  sublist := by
    by_cases hsome : record ≠ []
    · rw [if_pos hsome]
      exact h.sublist.cons_cons path
    · rw [if_neg hsome]
      exact h.sublist.cons path
  readable := by
    intro other hother hown
    rcases List.mem_cons.1 hother with rfl | hother
    · exact ⟨record, hread⟩
    · exact h.readable other hother hown
  mem_iff := by
    intro other found
    have hsave : (other, found) ∈ (if record ≠ [] then (path, record) :: saved else saved) ↔
        (record ≠ [] ∧ (other, found) = (path, record)) ∨ (other, found) ∈ saved := by
      by_cases hsome : record ≠ []
      · rw [if_pos hsome, List.mem_cons, and_iff_right hsome]
      · rw [if_neg hsome, or_iff_right fun hnew => hsome hnew.1]
    rw [hsave, h.mem_iff, List.mem_cons]
    constructor
    · rintro (⟨hsome, hnew⟩ | ⟨hmem, hrest⟩)
      · rw [Prod.mk.injEq] at hnew
        rw [hnew.1, hnew.2]
        exact ⟨Or.inl rfl, hown, hread, hsome⟩
      · exact ⟨Or.inr hmem, hrest⟩
    · rintro ⟨rfl | hmem, hother, hfound, hsome⟩
      · rw [hread, Except.ok.injEq] at hfound
        rw [← hfound] at hsome ⊢
        exact Or.inl ⟨hsome, rfl⟩
      · exact Or.inr ⟨hmem, hother, hfound, hsome⟩

/-- The first loop ends with the error of a module, or has saved the records of all modules. -/
theorem saveRecords_cases (files : Files) (paths : List Path) :
    (∃ path ∈ paths, ∃ error, IsOwnFile files path ∧ readModule files path = .error error ∧
      saveRecords files paths = .error error) ∨
    ∃ saved, saveRecords files paths = .ok saved ∧ SavedFrom files paths saved := by
  induction paths with
  | nil => exact Or.inr ⟨[], rfl, List.nil_sublist _, by simp, by simp⟩
  | cons path rest ih =>
      rw [saveRecords]
      by_cases hskip : isSymlink files path = true ∨ ¬isFile files path = true
      · rw [if_pos hskip]
        rcases ih with ⟨other, hmem, error, h⟩ | ⟨saved, hsaved, h⟩
        · exact Or.inl ⟨other, List.mem_cons_of_mem path hmem, error, h⟩
        · exact Or.inr ⟨saved, hsaved, h.skip fun hown => not_skipped_iff.2 hown hskip⟩
      · rw [if_neg hskip]
        have hown := not_skipped_iff.1 hskip
        rcases hread : readModule files path with error | record
        · exact Or.inl ⟨path, List.mem_cons_self .., error, hown, hread, rfl⟩
        · rcases ih with ⟨other, hmem, error, hother, herror, hraised⟩ | ⟨saved, hsaved, h⟩
          · refine Or.inl ⟨other, List.mem_cons_of_mem path hmem, error, hother, herror, ?_⟩
            rw [hraised]
            rfl
          · refine Or.inr ⟨_, ?_, h.read hown hread⟩
            rw [hsaved]
            rfl

theorem SavedFrom.hasRecord_iff {saved : List (Path × Bytes)}
    (h : SavedFrom files (modulePaths files root) saved) {path : Path} {record : Bytes} :
    (path, record) ∈ saved ↔ HasRecord root files path record := by
  rw [h.mem_iff]
  constructor
  · rintro ⟨hmem, hown, hread, hsome⟩
    exact ⟨isModule_iff.2 ⟨hmem, hown⟩, hread, hsome⟩
  · rintro ⟨hmodule, hread, hsome⟩
    obtain ⟨hmem, hown⟩ := isModule_iff.1 hmodule
    exact ⟨hmem, hown, hread, hsome⟩

end Saved

/-! ## The second loop -/

section Reports

variable {files : Files} {saved : List (Path × Bytes)}

/-- The error of a saved module, with its path. -/
def report (files : Files) : Path × Bytes → Option (Path × PyException)
  | (path, record) =>
      match checkRecord files path record with
      | .ok _ => none
      | .error error => some (path, error)

theorem report_eq_some {path other : Path} {record : Bytes} {error : PyException} :
    report files (path, record) = some (other, error) ↔
      path = other ∧ checkRecord files path record = .error error := by
  rw [report]
  rcases checkRecord files path record with raised | _
  · simp
  · simp

theorem mem_reports {path : Path} {error : PyException} :
    (path, error) ∈ saved.filterMap (report files) ↔
      ∃ record, (path, record) ∈ saved ∧ checkRecord files path record = .error error := by
  rw [List.mem_filterMap]
  constructor
  · rintro ⟨⟨other, record⟩, hmem, hreport⟩
    obtain ⟨rfl, hcheck⟩ := report_eq_some.1 hreport
    exact ⟨record, hmem, hcheck⟩
  · rintro ⟨record, hmem, hcheck⟩
    exact ⟨(path, record), hmem, report_eq_some.2 ⟨rfl, hcheck⟩⟩

theorem map_snd_reports (files : Files) (saved : List (Path × Bytes)) :
    (saved.filterMap (report files)).map Prod.snd = checkErrors files saved := by
  rw [checkErrors, List.map_filterMap]
  congr 1
  funext ⟨path, record⟩
  simp only [report]
  rcases checkRecord files path record with raised | _
  · rfl
  · rfl

theorem map_fst_reports_sublist (files : Files) (saved : List (Path × Bytes)) :
    ((saved.filterMap (report files)).map Prod.fst).Sublist (saved.map Prod.fst) := by
  induction saved with
  | nil => exact List.nil_sublist _
  | cons first rest ih =>
      obtain ⟨path, record⟩ := first
      rcases hreport : report files (path, record) with _ | ⟨other, error⟩
      · rw [List.filterMap_cons_none hreport]
        exact ih.cons path
      · rw [List.filterMap_cons_some hreport, (report_eq_some.1 hreport).1]
        exact ih.cons_cons other

end Reports

/-! ## The end -/

/-- The errors that are reported. -/
def reported : Except Raised Unit → List PyException
  | .ok _ => []
  | .error (.error error) => [error]
  | .error (.group _ errors) => errors

theorem reported_raiseErrors (errors : List PyException) :
    reported (raiseErrors errors) = errors := by
  rcases errors with _ | ⟨error, _ | ⟨_, _⟩⟩
  · rfl
  · rfl
  · rfl

theorem raiseErrors_eq_ok {errors : List PyException} :
    raiseErrors errors = .ok () ↔ errors = [] := by
  rcases errors with _ | ⟨error, _ | ⟨_, _⟩⟩
  · simp [raiseErrors]
  · simp [raiseErrors]
  · simp [raiseErrors]

theorem failure_eq_none {commandEnd : CommandEnd} :
    commandEnd.failure = none ↔ commandEnd = .exited 0 := by
  rcases commandEnd with status | error
  · simp [CommandEnd.failure]
  · simp [CommandEnd.failure]

section Preserve

variable {root : Path} {command : Files → Files × CommandEnd} {world : World}

/-- An unreadable module ends the script before the command. -/
theorem preserve_error {error : PyException}
    (h : saveRecords world.files (modulePaths world.files root) = .error error) :
    preserve root command world = (world, .error (.error error)) := by
  rw [preserve, h]

theorem preserve_saved {saved : List (Path × Bytes)}
    (h : saveRecords world.files (modulePaths world.files root) = .ok saved) :
    preserve root command world =
      ({ files := (command world.files).1, commandRuns := world.commandRuns + 1 },
        raiseErrors ((command world.files).2.failure.toList ++
          checkErrors (command world.files).1 saved)) := by
  rw [preserve, h]

end Preserve

/-- The reports about the modules under `root` whose records were there before: for each one that no
    longer carries its record there is exactly one error, which says what has happened to it. -/
structure ReportsDamage (root : Path) (before after : Files)
    (reports : List (Path × PyException)) : Prop where
  once : (reports.map Prod.fst).Nodup
  damaged : ∀ path, path ∈ reports.map Prod.fst ↔
    ∃ record, HasRecord root before path record ∧ ¬Carries after path record
  damage : ∀ path error, (path, error) ∈ reports →
    ∃ record, HasRecord root before path record ∧ Damage after path record error

theorem SavedFrom.reportsDamage {root : Path} {before : Files} {saved : List (Path × Bytes)}
    (h : SavedFrom before (modulePaths before root) saved) (after : Files) :
    ReportsDamage root before after (saved.filterMap (report after)) where
  once := nodup_modulePaths.sublist ((map_fst_reports_sublist after saved).trans h.sublist)
  damaged := by
    intro path
    constructor
    · intro hpath
      obtain ⟨⟨other, error⟩, hmem, rfl⟩ := List.mem_map.1 hpath
      obtain ⟨record, hsaved, hcheck⟩ := mem_reports.1 hmem
      have hrecord := h.hasRecord_iff.1 hsaved
      exact ⟨record, hrecord, (damage_of_checkRecord hcheck).not_carries hrecord.ne_nil⟩
    · rintro ⟨record, hrecord, hlost⟩
      rcases checkRecord_cases after path record with
        ⟨hcarries, -⟩ | ⟨error, -, hcheck⟩
      · exact absurd hcarries hlost
      · exact List.mem_map.2 ⟨(path, error),
          mem_reports.2 ⟨record, h.hasRecord_iff.2 hrecord, hcheck⟩, rfl⟩
  damage := by
    intro path error hmem
    obtain ⟨record, hsaved, hcheck⟩ := mem_reports.1 hmem
    exact ⟨record, h.hasRecord_iff.1 hsaved, damage_of_checkRecord hcheck⟩

/-- Nothing is reported if and only if every record is still there. -/
theorem ReportsDamage.eq_nil_iff {root : Path} {before after : Files}
    {reports : List (Path × PyException)} (h : ReportsDamage root before after reports) :
    reports = [] ↔
      ∀ path record, HasRecord root before path record → Carries after path record := by
  rw [List.eq_nil_iff_forall_not_mem]
  constructor
  · intro hnone path record hrecord
    by_contra hlost
    obtain ⟨entry, hentry, -⟩ := List.mem_map.1 ((h.damaged path).2 ⟨record, hrecord, hlost⟩)
    exact hnone entry hentry
  · rintro hall ⟨path, error⟩ hmem
    obtain ⟨record, hrecord, hlost⟩ := (h.damaged path).1 (List.mem_map_of_mem hmem)
    exact hlost (hall path record hrecord)

/-- A module that cannot be read keeps the command from being run, and the script raises the error
    of such a module. Otherwise the command is run once; the script then returns if and only if the
    command has succeeded and every module with a record is still a file with the same record. What
    it raises otherwise has the failure of the command and one error for each damaged module. -/
theorem preserve_certifies (root : Path) (command : Files → Files × CommandEnd) (world : World) :
    ((∃ path error, IsModule root world.files path ∧
        readModule world.files path = .error error) →
      ∃ path error, IsModule root world.files path ∧
        readModule world.files path = .error error ∧
        preserve root command world = (world, .error (.error error))) ∧
    ((∀ path, IsModule root world.files path →
        ∃ record, readModule world.files path = .ok record) →
      let after := (command world.files).1
      let commandEnd := (command world.files).2
      let outcome := (preserve root command world).2
      (preserve root command world).1 =
          { files := after, commandRuns := world.commandRuns + 1 } ∧
        (outcome = .ok () ↔ commandEnd = .exited 0 ∧
          ∀ path record, HasRecord root world.files path record → Carries after path record) ∧
        ∃ reports, ReportsDamage root world.files after reports ∧
          reported outcome = commandEnd.failure.toList ++ reports.map Prod.snd) := by
  rcases saveRecords_cases world.files (modulePaths world.files root) with
    ⟨path, hmem, error, hown, hread, hraised⟩ | ⟨saved, hsaved, h⟩
  · have hmodule : IsModule root world.files path := isModule_iff.2 ⟨hmem, hown⟩
    refine ⟨fun _ => ⟨path, error, hmodule, hread, preserve_error hraised⟩, fun hreadable => ?_⟩
    obtain ⟨record, hrecord⟩ := hreadable path hmodule
    rw [hread] at hrecord
    exact absurd hrecord (by simp)
  · refine ⟨?_, fun _ => ?_⟩
    · rintro ⟨path, error, hmodule, herror⟩
      obtain ⟨hmem, hown⟩ := isModule_iff.1 hmodule
      obtain ⟨record, hrecord⟩ := h.readable path hmem hown
      rw [hrecord] at herror
      exact absurd herror (by simp)
    · have hreports := h.reportsDamage (command world.files).1
      simp only [preserve_saved hsaved, ← map_snd_reports]
      refine ⟨trivial, ?_, _, hreports, reported_raiseErrors _⟩
      rw [raiseErrors_eq_ok, List.append_eq_nil_iff, Option.toList_eq_nil_iff, failure_eq_none,
        List.map_eq_nil_iff, hreports.eq_nil_iff]

/-- Files with one module. -/
def oneModule : World where
  files := AList.singleton ["root", "a.qmod"] ⟨.file, .ok twoNotesImage⟩
  commandRuns := 0

/-- The command deletes the module, and fails. -/
def deleteModule : Files → Files × CommandEnd := fun _ => (∅, .exited 1)

example : reported (preserve ["root"] deleteModule oneModule).2 =
    [.calledProcessError 1, .osError "[Errno 2] No such file or directory: 'root/a.qmod'"] := by
  decide +kernel

theorem preserve_certifies_oneModule :
    ∃ reports, ReportsDamage ["root"] oneModule.files ∅ reports ∧
      reported (preserve ["root"] deleteModule oneModule).2 =
        [.calledProcessError 1] ++ reports.map Prod.snd := by
  refine ((preserve_certifies ["root"] deleteModule oneModule).2 fun path hmodule => ?_).2.2
  have hpath : path = ["root", "a.qmod"] := List.mem_singleton.1 (AList.mem_keys.1 hmodule.mem)
  rw [hpath]
  exact ⟨[7, 8, 9], by decide +kernel⟩

end ModuleNats.Aot
