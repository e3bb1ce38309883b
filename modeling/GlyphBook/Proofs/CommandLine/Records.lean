import GlyphBook.CommandLine.Run
import GlyphBook.Proofs.Media.Detection
import GlyphBook.Proofs.Theme.Listing

/-!
# Every path has a line of its own

When paths are shown the theme is loaded before anything is printed; after that a line follows for
each path, and only the output can put an end to it (`Outlet.send`, followed line by line). A line
tells what was found at its path: an icon takes one character, so the texts behind the path can be
compared (`record_eq_iff`), and these are different for different findings (`text_injective`). It is
made from what stands at that path alone (`record_congr`), so no path has a say in the line of
another.
-/

namespace GlyphBook

/-! ## Sending lines -/

namespace Outlet

/-- An output that refuses nothing takes all lines, one behind the other. -/
theorem send_of_accepts {outlet : Outlet} (h : ∀ taken line, outlet.fault? taken line = none) :
    ∀ (lines : List String) (taken : String),
      outlet.send taken lines = (taken ++ String.join lines, none)
  | [], taken => by rw [send, String.join_nil, String.append_empty]
  | line :: lines, taken => by
      rw [send, h, send_of_accepts h lines, String.join_cons, String.append_assoc]

/-- What an output has taken is the lines before the one that it refused, or all of them. -/
theorem exists_sent (outlet : Outlet) : ∀ (lines : List String) (taken : String),
    ∃ first later, lines = first ++ later
      ∧ (outlet.send taken lines).1 = taken ++ String.join first
      ∧ ((outlet.send taken lines).2 = none ↔ later = [])
  | [], taken => ⟨[], [], rfl, by rw [send, String.join_nil, String.append_empty], by simp [send]⟩
  | line :: lines, taken => by
      cases hfault : outlet.fault? taken line with
      | some fault =>
          refine ⟨[], line :: lines, rfl, ?_, ?_⟩
          · rw [send, hfault, String.join_nil, String.append_empty]
          · simp [send, hfault]
      | none =>
          obtain ⟨first, later, hlines, htaken, hrefused⟩ :=
            exists_sent outlet lines (taken ++ line)
          refine ⟨line :: first, later, by rw [hlines, List.cons_append], ?_, ?_⟩
          · rw [send, hfault, htaken, String.join_cons, String.append_assoc]
          · rw [send, hfault]
            exact hrefused

end Outlet

namespace CommandLine

/-! ## Findings -/

/-- What can stand at a path, what is found there then, and what detection makes of it. -/
theorem find_cases (table : Extension.Table) (files : Files) (path : String) :
    (files.lookup path = .ok .directory ∧ find table files path = .directory
        ∧ ∃ e, FileType.detect table files path = .error e)
      ∨ (∃ type, files.lookup path ≠ .ok .directory ∧ find table files path = .file type
        ∧ FileType.detect table files path = .ok type)
      ∨ (files.lookup path ≠ .ok .directory ∧ find table files path = .unreadable
        ∧ ∃ e, FileType.detect table files path = .error e) := by
  have hunreadable {e : FileError} (hread : files.read path = .error e)
      (hnot : files.lookup path ≠ .ok .directory) :
      files.lookup path ≠ .ok .directory ∧ find table files path = .unreadable
        ∧ ∃ e, FileType.detect table files path = .error e := by
    have hdetect : FileType.detect table files path = .error e :=
      FileType.detect_eq_error_iff.mpr hread
    have hdirectory : files.isDirectory path = false := by
      rw [Files.isDirectory]
      split
      · next h => exact absurd h hnot
      · rfl
    exact ⟨hnot, by simp [find, hdirectory, hdetect], e, hdetect⟩
  cases hlookup : files.lookup path with
  | error e =>
      have hread : files.read path = .error e := by rw [Files.read, hlookup]
      exact Or.inr (Or.inr (hlookup ▸ hunreadable hread (by simp [hlookup])))
  | ok node =>
      cases node with
      | directory =>
          have hread : files.read path = .error .isDirectory := by rw [Files.read, hlookup]
          have hfind : find table files path = .directory := by
            simp [find, Files.isDirectory, hlookup]
          exact Or.inl ⟨rfl, hfind, _, FileType.detect_eq_error_iff.mpr hread⟩
      | file content =>
          have hdetect := FileType.detect_of_file table hlookup
          have hfind : find table files path = .file (FileType.ofContent table path content) := by
            simp [find, Files.isDirectory, hlookup, hdetect]
          exact Or.inr (Or.inl ⟨_, by simp, hfind, hdetect⟩)
      | locked reason =>
          have hread : files.read path = .error (.other reason) := by rw [Files.read, hlookup]
          exact Or.inr (Or.inr (hlookup ▸ hunreadable hread (by simp [hlookup])))

theorem find_eq_directory_iff (table : Extension.Table) {files : Files} {path : String} :
    find table files path = .directory ↔ files.lookup path = .ok .directory := by
  rcases find_cases table files path with ⟨h, hfind, -⟩ | ⟨type, h, hfind, -⟩ | ⟨h, hfind, -⟩
  · simp [h, hfind]
  · simp [h, hfind]
  · simp [h, hfind]

theorem find_eq_file_iff {table : Extension.Table} {files : Files} {path : String}
    {type : FileType} :
    find table files path = .file type ↔
      files.lookup path ≠ .ok .directory ∧ FileType.detect table files path = .ok type := by
  rcases find_cases table files path with
    ⟨h, hfind, -⟩ | ⟨found, h, hfind, hdetect⟩ | ⟨h, hfind, e, he⟩
  · simp [h, hfind]
  · simp [h, hfind, hdetect]
  · simp [hfind, he]

theorem find_eq_unreadable_iff {table : Extension.Table} {files : Files} {path : String} :
    find table files path = .unreadable ↔
      files.lookup path ≠ .ok .directory ∧ ∃ e, FileType.detect table files path = .error e := by
  rcases find_cases table files path with
    ⟨h, hfind, -⟩ | ⟨found, h, hfind, hdetect⟩ | ⟨h, hfind, e, he⟩
  · simp [h, hfind]
  · simp [hfind, hdetect]
  · simp [h, hfind, he]

/-- The slot that shows a finding. -/
def Finding.slot : Finding → Slot
  | .directory => .folder
  | .file type => Slot.ofCategory type.category
  | .unreadable => .placeholder

/-- How the files of a category are shown: in a slot and by a word of their own. -/
inductive Shows : Category → Slot → String → Prop
  | image : Shows .image .image "Image"
  | audio : Shows .audio .audio "Audio"
  | video : Shows .video .video "Video"
  | document : Shows .document .document "Document"
  | binary : Shows .binary .binary "Binary"

theorem shows_iff {category : Category} {slot : Slot} {word : String} :
    Shows category slot word ↔ slot = Slot.ofCategory category ∧ word = category.name := by
  constructor
  · rintro (_ | _ | _ | _ | _)
    all_goals exact ⟨rfl, rfl⟩
  · rintro ⟨rfl, rfl⟩
    cases category with
    | image => exact .image
    | audio => exact .audio
    | video => exact .video
    | document => exact .document
    | binary => exact .binary

theorem Finding.icon_eq (theme : Theme) (finding : Finding) :
    finding.icon theme = theme.drawn finding.slot := by
  cases finding <;> rfl

/-! ## What a line tells -/

theorem tab_notMem_categoryName (category : Category) : '\t' ∉ category.name.toList := by
  cases category <;> decide

theorem categoryName_injective {a b : Category} (h : a.name = b.name) : a = b := by
  have hall : ∀ a ∈ Category.all, ∀ b ∈ Category.all, a.name = b.name → a = b := by decide
  exact hall a a.mem_all b b.mem_all h

theorem tab_mem_text_file (type : FileType) : '\t' ∈ (Finding.file type).text.toList := by
  simp [Finding.text]

/-- The text of a file is cut at its first tab, so it tells the category and the media type. -/
theorem text_file_injective {a b : FileType}
    (h : (Finding.file a).text = (Finding.file b).text) : a = b := by
  have htext : a.category.name.toList ++ '\t' :: a.mime.toList
      = b.category.name.toList ++ '\t' :: b.mime.toList := by
    have := congrArg String.toList h
    simpa [Finding.text] using this
  have hcolumns := congrArg (List.splitOn '\t') htext
  rw [splitOn_append_cons (tab_notMem_categoryName _),
    splitOn_append_cons (tab_notMem_categoryName _)] at hcolumns
  have hname : a.category.name.toList = b.category.name.toList := (List.cons.inj hcolumns).1
  have hmime : a.mime = b.mime := by
    rw [hname] at htext
    have := List.append_cancel_left htext
    exact String.toList_inj.mp (List.cons.inj this).2
  have hcategory := categoryName_injective (String.toList_inj.mp hname)
  cases a
  cases b
  simp only at hmime hcategory
  rw [hmime, hcategory]

theorem text_injective {a b : Finding} (h : a.text = b.text) : a = b := by
  have hdirectory : '\t' ∉ Finding.directory.text.toList := by decide
  have hunreadable : '\t' ∉ Finding.unreadable.text.toList := by decide
  cases a with
  | directory =>
      cases b with
      | directory => rfl
      | file type => exact absurd (h ▸ tab_mem_text_file type) hdirectory
      | unreadable => exact absurd h (by decide)
  | file type =>
      cases b with
      | directory => exact absurd (h ▸ tab_mem_text_file type) hdirectory
      | file type' => rw [text_file_injective h]
      | unreadable => exact absurd (h ▸ tab_mem_text_file type) hunreadable
  | unreadable =>
      cases b with
      | directory => exact absurd h (by decide)
      | file type => exact absurd (h ▸ tab_mem_text_file type) hunreadable
      | unreadable => rfl

theorem record_eq (table : Extension.Table) (files : Files) (theme : Theme) (path : String) :
    record table files theme path
      = (theme.drawn (find table files path).slot).glyph ++ " " ++ path ++ "\t"
        ++ (find table files path).text ++ "\n" := by
  rw [record, Finding.icon_eq]

/-- The line of a path is that of a finding exactly if this is what is found there. -/
theorem record_eq_iff {table : Extension.Table} {files : Files} {path : String} {finding : Finding}
    (theme : Theme) :
    record table files theme path = (theme.drawn finding.slot).glyph ++ " " ++ path ++ "\t"
        ++ finding.text ++ "\n" ↔ find table files path = finding := by
  constructor
  · intro h
    rw [record_eq] at h
    have hchars := congrArg String.toList h
    simp only [String.toList_append, List.append_assoc] at hchars
    have hlength : (theme.drawn (find table files path).slot).glyph.toList.length
        = (theme.drawn finding.slot).glyph.toList.length := by
      rw [Theme.drawn, Theme.drawn, length_glyph, length_glyph]
    have hbehind := (List.append_inj hchars hlength).2
    have htext : (find table files path).text.toList ++ "\n".toList
        = finding.text.toList ++ "\n".toList :=
      List.append_cancel_left (List.append_cancel_left (List.append_cancel_left hbehind))
    exact text_injective (String.toList_inj.mp (List.append_cancel_right htext))
  · rintro rfl
    exact record_eq table files theme path

/-- What stands at other paths plays no part in the line of a path. -/
theorem record_congr (table : Extension.Table) {files files' : Files} {path : String}
    (h : files'.lookup path = files.lookup path) (theme : Theme) :
    record table files' theme path = record table files theme path := by
  have hread : files'.read path = files.read path := by rw [Files.read, Files.read, h]
  have hfind : find table files' path = find table files path := by
    rw [find, find, Files.isDirectory, Files.isDirectory, h, FileType.detect, FileType.detect,
      hread]
  rw [record_eq, record_eq, hfind]

/-- A line tells what is at its path: a directory, a file of a type, or neither. -/
structure Tells (table : Extension.Table) (files : Files) (theme : Theme) (path line : String) :
    Prop where
  directory : line = (theme.drawn .folder).glyph ++ " " ++ path ++ "\tDirectory\n" ↔
    files.lookup path = .ok .directory
  file : ∀ (type : FileType) (slot : Slot) (word : String), Shows type.category slot word →
    (line = (theme.drawn slot).glyph ++ " " ++ path ++ "\t" ++ word ++ "\t" ++ type.mime ++ "\n" ↔
      files.lookup path ≠ .ok .directory ∧ FileType.detect table files path = .ok type)
  unreadable : line = (theme.drawn .placeholder).glyph ++ " " ++ path ++ "\tunreadable\n" ↔
    files.lookup path ≠ .ok .directory ∧ ∃ e, FileType.detect table files path = .error e

theorem tells_record (table : Extension.Table) (files : Files) (theme : Theme) (path : String) :
    Tells table files theme path (record table files theme path) where
  directory := by
    rw [← find_eq_directory_iff table, ← record_eq_iff theme]
    simp [Finding.slot, Finding.text, String.append_assoc]
  file type slot word hshows := by
    obtain ⟨rfl, rfl⟩ := shows_iff.mp hshows
    rw [← find_eq_file_iff, ← record_eq_iff theme]
    simp [Finding.slot, Finding.text, String.append_assoc]
  unreadable := by
    rw [← find_eq_unreadable_iff, ← record_eq_iff theme]
    simp [Finding.slot, Finding.text, String.append_assoc]

/-! ## Showing paths -/

theorem Printout.ofLines_of_accepts {outlet : Outlet}
    (h : ∀ taken line, outlet.fault? taken line = none) (lines : List String) :
    ofLines outlet lines = ⟨String.join lines, none⟩ := by
  rw [ofLines, Outlet.send_of_accepts h, String.empty_append]
  rfl

theorem Printout.result_ofLines_accepting (lines : List String) :
    (ofLines .accepting lines).result = .printed (String.join lines) := by
  rw [ofLines_of_accepts fun _ _ => rfl]
  rfl

section

variable {world : World} {config? : Option String}

theorem whichOn_of_error {e : Config.LoadError}
    (h : Config.loadOrDefault world.files world.surroundings config? = .error e)
    (outlet : Outlet) (paths : List String) :
    whichOn outlet world config? paths = .ofFailure (.config e) := by
  rw [whichOn, h]

theorem whichOn_of_ok {theme : Theme}
    (h : Config.loadOrDefault world.files world.surroundings config? = .ok theme)
    (outlet : Outlet) (paths : List String) :
    whichOn outlet world config? paths
      = .ofLines outlet (paths.map (record world.extensions world.files theme)) := by
  rw [whichOn, h]

theorem which_of_error {e : Config.LoadError}
    (h : Config.loadOrDefault world.files world.surroundings config? = .error e)
    (paths : List String) : which world config? paths = .failed (.config e) := by
  rw [which, whichOn_of_error h]
  rfl

theorem which_of_ok {theme : Theme}
    (h : Config.loadOrDefault world.files world.surroundings config? = .ok theme)
    (paths : List String) :
    which world config? paths
      = .printed (String.join (paths.map (record world.extensions world.files theme))) := by
  rw [which, whichOn_of_ok h, Printout.result_ofLines_accepting]

theorem run_which (verbosity : Nat) (paths : List String) :
    run world ⟨config?, verbosity, some (.which paths)⟩ = ([], which world config? paths) := rfl

end

/-- **Showing paths is all or nothing as to the configuration, and path by path after that.** If the
theme cannot be had, nothing is printed on any output, and the command fails for that reason. If it
can, an output that refuses nothing takes one line for each path, in their order, and the command
succeeds; one that refuses a line has taken those of the paths before, and nothing else makes the
command fail. The line of a path tells what is found there, whatever the other paths are, and it
depends on the files only by what stands at that path; this is so by every table of extensions. -/
theorem which_path_by_path (world : World) (config? : Option String) (paths : List String) :
    (∀ e, Config.loadOrDefault world.files world.surroundings config? = .error e →
      (∀ outlet, whichOn outlet world config? paths = ⟨"", some (.config e)⟩)
        ∧ ∀ verbosity, run world ⟨config?, verbosity, some (.which paths)⟩
          = ([], .failed (.config e)))
      ∧ (∀ theme, Config.loadOrDefault world.files world.surroundings config? = .ok theme →
        (∀ outlet : Outlet, (∀ taken line, outlet.fault? taken line = none) →
            whichOn outlet world config? paths
              = ⟨String.join (paths.map (record world.extensions world.files theme)), none⟩)
          ∧ (∀ outlet, ∃ first later, paths = first ++ later
            ∧ (whichOn outlet world config? paths).taken
              = String.join (first.map (record world.extensions world.files theme))
            ∧ ((whichOn outlet world config? paths).failure? = none ↔ later = [])
            ∧ ∀ failure, (whichOn outlet world config? paths).failure? = some failure →
              ∃ fault, failure = .output fault)
          ∧ ∀ verbosity, run world ⟨config?, verbosity, some (.which paths)⟩
            = ([], .printed (String.join (paths.map (record world.extensions world.files theme)))))
      ∧ ∀ table files theme path, Tells table files theme path (record table files theme path)
        ∧ ∀ files', Files.lookup files' path = Files.lookup files path →
          record table files' theme path = record table files theme path := by
  refine ⟨?failed, ?printed, fun table files theme path =>
    ⟨tells_record table files theme path, fun files' h => record_congr table h theme⟩⟩
  case failed =>
    intro e he
    refine ⟨fun outlet => whichOn_of_error he outlet paths, fun verbosity => ?_⟩
    rw [run_which, which_of_error he]
  case printed =>
    intro theme htheme
    refine ⟨?_, ?_, ?_⟩
    · intro outlet haccepts
      rw [whichOn_of_ok htheme, Printout.ofLines_of_accepts haccepts]
    · intro outlet
      obtain ⟨first, later, hlines, htaken, hrefused⟩ :=
        outlet.exists_sent (paths.map (record world.extensions world.files theme)) ""
      obtain ⟨first, later, rfl, rfl, rfl⟩ := List.map_eq_append_iff.mp hlines
      rw [whichOn_of_ok htheme, Printout.ofLines]
      refine ⟨first, later, rfl, by rw [htaken, String.empty_append], ?_, ?_⟩
      · rw [Option.map_eq_none_iff, hrefused, List.map_eq_nil_iff]
      · intro failure hfailure
        obtain ⟨fault, -, rfl⟩ := Option.map_eq_some_iff.mp hfailure
        exact ⟨fault, rfl⟩
    · intro verbosity
      rw [run_which, which_of_ok htheme]

end CommandLine

end GlyphBook
