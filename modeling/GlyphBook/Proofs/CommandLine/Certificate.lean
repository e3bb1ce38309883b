import GlyphBook.Proofs.CommandLine.Records

/-!
# A passing check certifies a configuration

Checking a file and showing paths with it load the same theme, one on behalf of the file and one
because it was asked for, and then go separate ways: the check prints the icon of every slot, and a
line for a path draws one slot. Both commands are reduced to what loading gives (`checkOn_of_ok`,
`whichOn_of_ok` and their partners for errors), and the glyph of a line is looked up in the columns
that the check has printed (`Theme.lists_iff`).
-/

namespace GlyphBook

/-- Each line of a listing shows the glyph that the registry has for the name in that line. -/
theorem Theme.resolve_of_mem_columns {theme : Theme} {row : List String}
    (h : row ∈ columns theme.listing) :
    ∃ slot name glyph, row = [Slot.name slot, name, glyph] ∧ icons.resolve name = .ok ⟨glyph⟩ := by
  rw [Theme.columns_listing, Theme.slots_eq, List.map_map] at h
  obtain ⟨slot, -, rfl⟩ := List.mem_map.mp h
  have hlookup : icons.lookup (icons.name (theme.icon slot)) = .ok (theme.icon slot) :=
    icons.lookup_eq_ok_iff.mpr rfl
  refine ⟨slot, _, _, rfl, ?_⟩
  rw [Registry.resolve, hlookup]
  rfl

namespace CommandLine

/-! ## The check -/

section

variable {world : World} {file : String}

theorem checkOn_of_error {e : Config.LoadError} (h : Config.load world.files file = .error e)
    (outlet : Outlet) : checkOn outlet world.files file = .ofFailure (.badCheck file e) := by
  rw [checkOn, h]

theorem run_check_of_error {e : Config.LoadError} (h : Config.load world.files file = .error e)
    (config? : Option String) (verbosity : Nat) :
    run world ⟨config?, verbosity, some (.check file)⟩ = ([], .failed (.badCheck file e)) := by
  show ([], check world.files file) = _
  rw [check, checkOn_of_error h]
  rfl

theorem run_check_of_ok {theme : Theme} (h : Config.load world.files file = .ok theme)
    (config? : Option String) (verbosity : Nat) :
    run world ⟨config?, verbosity, some (.check file)⟩ = ([], .printed theme.listing) := by
  show ([], check world.files file) = _
  rw [check, checkOn, h, Printout.result_ofLines_accepting]
  rfl

end

/-! ## The slot of a path -/

/-- The slot that stands for what is at a path. -/
inductive ShownAs (table : Extension.Table) (files : Files) (path : String) : Slot → Prop
  | directory (h : files.lookup path = .ok .directory) : ShownAs table files path .folder
  | file {type : FileType} {slot : Slot} {word : String}
      (h : FileType.detect table files path = .ok type) (hshows : Shows type.category slot word) :
      ShownAs table files path slot
  | unreadable {e : FileError} (h : files.lookup path ≠ .ok .directory)
      (he : FileType.detect table files path = .error e) : ShownAs table files path .placeholder

theorem shownAs_iff {table : Extension.Table} {files : Files} {path : String} {slot : Slot} :
    ShownAs table files path slot ↔ slot = (find table files path).slot := by
  rcases find_cases table files path with
    ⟨h, hfind, e, he⟩ | ⟨type, h, hfind, htype⟩ | ⟨h, hfind, e, he⟩
  · rw [hfind]
    constructor
    · rintro (_ | ⟨hdetect, -⟩ | ⟨hnot, -⟩)
      · rfl
      · rw [he] at hdetect
        cases hdetect
      · exact absurd h hnot
    · rintro rfl
      exact .directory h
  · rw [hfind]
    constructor
    · rintro (hdirectory | ⟨hdetect, hshows⟩ | ⟨-, hdetect⟩)
      · exact absurd hdirectory h
      · rw [htype] at hdetect
        cases hdetect
        exact (shows_iff.mp hshows).1
      · rw [htype] at hdetect
        cases hdetect
    · intro hslot
      exact .file htype (shows_iff.mpr ⟨hslot, rfl⟩)
  · rw [hfind]
    constructor
    · rintro (hdirectory | ⟨hdetect, -⟩ | _)
      · exact absurd hdirectory h
      · rw [he] at hdetect
        cases hdetect
      · rfl
    · rintro rfl
      exact .unreadable h he

/-- The line of a path begins with the one glyph that the listing of the theme shows at the slot of
the path. -/
theorem record_glyph (table : Extension.Table) (files : Files) (theme : Theme) (path : String) :
    ∃ slot glyph rest, (∀ other, ShownAs table files path other ↔ other = slot)
      ∧ record table files theme path = glyph ++ " " ++ path ++ "\t" ++ rest ++ "\n"
      ∧ ∀ listed, Lists theme.listing slot listed ↔ listed = glyph :=
  ⟨_, _, _, fun _ => shownAs_iff, record_eq table files theme path, fun _ => Theme.lists_iff⟩

/-- **A passing check certifies a configuration for use.** Checking a file succeeds exactly if paths
can be shown with it. When they fail they fail for the same reason, and no output has taken
anything. When both succeed, the check has printed a line for every slot, each with the glyph that
the registry has for its icon, and every line of a path begins with the glyph that the check has
printed at the slot of what is there. -/
theorem check_certifies (world : World) (file : String) (paths : List String)
    (config? : Option String) (verbosity verbosity' : Nat) :
    let checked := (run world ⟨config?, verbosity, some (.check file)⟩).2
    let shown := (run world ⟨some file, verbosity', some (.which paths)⟩).2
    ((∃ text, checked = .printed text) ↔ ∃ text, shown = .printed text)
      ∧ ((∃ failure, checked = .failed failure) ↔ ∃ failure, shown = .failed failure)
      ∧ (∀ failure failure', checked = .failed failure → shown = .failed failure' →
        ∃ e, failure = .badCheck file e ∧ failure' = .config e
          ∧ ∀ outlet, checkOn outlet world.files file = ⟨"", some failure⟩
            ∧ whichOn outlet world (some file) paths = ⟨"", some failure'⟩)
      ∧ ∀ text text', checked = .printed text → shown = .printed text' →
        (columns text).map List.head? = ["folder", "audio", "image", "video", "document", "binary",
            "play", "pause", "stop", "previous", "next", "placeholder"].map some
          ∧ (∀ row ∈ columns text, ∃ slot name glyph, row = [Slot.name slot, name, glyph]
            ∧ icons.resolve name = .ok ⟨glyph⟩)
          ∧ ∃ line : String → String, text' = String.join (paths.map line)
            ∧ ∀ path ∈ paths, ∃ slot glyph rest,
              (∀ other, ShownAs world.extensions world.files path other ↔ other = slot)
              ∧ line path = glyph ++ " " ++ path ++ "\t" ++ rest ++ "\n"
              ∧ ∀ listed, Lists text slot listed ↔ listed = glyph := by
  intro checked shown
  cases hload : Config.load world.files file with
  | error e =>
      have hloaded : Config.loadOrDefault world.files world.surroundings (some file) = .error e :=
        hload
      have hchecked : checked = .failed (.badCheck file e) :=
        congrArg Prod.snd (run_check_of_error hload config? verbosity)
      have hshown : shown = .failed (.config e) := which_of_error hloaded paths
      rw [hchecked, hshown]
      refine ⟨by simp, by simp, ?_, fun text text' h => by cases h⟩
      rintro failure failure' ⟨⟩ ⟨⟩
      exact ⟨e, rfl, rfl, fun outlet =>
        ⟨checkOn_of_error hload outlet, whichOn_of_error hloaded outlet paths⟩⟩
  | ok theme =>
      have hloaded : Config.loadOrDefault world.files world.surroundings (some file) = .ok theme :=
        hload
      have hchecked : checked = .printed theme.listing :=
        congrArg Prod.snd (run_check_of_ok hload config? verbosity)
      have hshown :
          shown = .printed (String.join (paths.map (record world.extensions world.files theme))) :=
        which_of_ok hloaded paths
      rw [hchecked, hshown]
      refine ⟨by simp, by simp, fun failure failure' h => (by cases h), ?_⟩
      rintro text text' ⟨⟩ ⟨⟩
      refine ⟨?_, fun row hrow => Theme.resolve_of_mem_columns hrow,
        record world.extensions world.files theme, rfl,
        fun path _ => record_glyph world.extensions world.files theme path⟩
      rw [Theme.columns_listing, Theme.slots_eq, List.map_map, List.map_map]
      rfl

end CommandLine

end GlyphBook
