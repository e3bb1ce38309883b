import GlyphBook.Proofs.CommandLine.Certificate
import GlyphBook.Proofs.Config.Loading
import GlyphBook.Proofs.Config.Spellings

/-!
# Printed themes come back

A theme can be given to every slot by name, and it is then the only theme that follows these choices
(`Config.resolve_choices`). A listing has the same choices in its first two columns
(`choicesIn_listing`), so a configuration can be made of what a check has printed. Whatever the
order of its lines, it is read as the theme that was printed, and checking it prints that theme
again.
-/

namespace GlyphBook

/-! ## A theme as its choices -/

namespace Theme

variable {theme : Theme} {order : List Slot}

theorem mem_choices {slot : Slot} {name : String} :
    (slot, name) ∈ theme.choices order ↔ slot ∈ order ∧ icons.name (theme.icon slot) = name := by
  unfold choices
  constructor
  · intro h
    obtain ⟨slot', hslot', heq⟩ := List.mem_map.mp h
    obtain ⟨rfl, rfl⟩ := Prod.mk.inj heq
    exact ⟨hslot', rfl⟩
  · rintro ⟨hslot, rfl⟩
    exact List.mem_map.mpr ⟨slot, hslot, rfl⟩

theorem map_fst_choices (theme : Theme) (order : List Slot) :
    (theme.choices order).map Prod.fst = order := by
  rw [choices, List.map_map]
  exact List.map_id order

end Theme

namespace Config

variable {theme : Theme} {order : List Slot} {given : Choices}

theorem distinct_choices (h : order.Nodup) : Distinct (theme.choices order) := by
  unfold Distinct
  rwa [Theme.map_fst_choices]

/-- The one theme that follows its own choices in every slot is the theme itself. -/
theorem resolve_choices (theme : Theme) : resolve (theme.choices Slot.all) = .ok theme := by
  refine resolve_eq_ok_iff.mpr fun slot => ?_
  have hname : nameFor? (theme.choices Slot.all) slot = some (icons.name (theme.icon slot)) :=
    (nameFor?_eq_some_iff (distinct_choices Slot.nodup_all)).mpr
      (Theme.mem_choices.mpr ⟨slot.mem_all, rfl⟩)
  unfold Follows
  rw [hname]

/-- Slots with their icons, as choices by name. -/
def named (pairs : List (Slot × IconId)) : Choices :=
  pairs.map fun (slot, id) => (slot, icons.name id)

theorem named_slots (theme : Theme) : named theme.slots = theme.choices Slot.all := by
  rw [named, Theme.slots_eq, List.map_map]
  rfl

/-- A text that gives every slot the name of its icon is read as the theme. -/
theorem parse_of_spells_choices {form : Form} {source : String}
    (hperm : given.Perm (theme.choices Slot.all)) (h : Spells form given source) :
    parse source = .ok theme := by
  have hall : Distinct (theme.choices Slot.all) := distinct_choices Slot.nodup_all
  have hgiven : Distinct given := (hperm.map Prod.fst).nodup_iff.mpr hall
  rw [(parse_of_spells h).1 hgiven, settle, resolve_perm hperm hall, resolve_choices]
  rfl

theorem load_of_spells_choices {form : Form} {source : String} {files : Files} {path : String}
    (hperm : given.Perm (theme.choices Slot.all)) (h : Spells form given source)
    (hholds : Holds files path source) : load files path = .ok theme :=
  load_eq_ok_iff.mpr ⟨source, hholds, parse_of_spells_choices hperm h⟩

end Config

/-! ## The choices in a listing -/

/-- The first two columns of a text. -/
def slotColumns (text : String) : List (List String) := (columns text).map (List.take 2)

/-- The choices that the first two columns of a text make. -/
def choicesIn (text : String) : Config.Choices :=
  (slotColumns text).filterMap fun row =>
    match row with
    | [slot, name] => (Slot.ofName? slot).map fun slot => (slot, name)
    | _ => none

theorem slotColumns_listing (theme : Theme) :
    slotColumns theme.listing
      = Slot.all.map fun slot => [slot.name, icons.name (theme.icon slot)] := by
  rw [slotColumns, Theme.columns_listing, Theme.slots_eq, List.map_map, List.map_map]
  rfl

theorem choicesIn_listing (theme : Theme) : choicesIn theme.listing = theme.choices Slot.all := by
  rw [choicesIn, slotColumns_listing, List.filterMap_map, Theme.choices, ← List.filterMap_eq_map]
  refine List.filterMap_congr fun slot _ => ?_
  simp only [Function.comp_apply, Slot.ofName?_name, Option.map_some]

/-- Two themes that show the same names at the slots are the same. -/
theorem eq_of_slotColumns_eq {theme theme' : Theme}
    (h : slotColumns theme.listing = slotColumns theme'.listing) : theme = theme' := by
  have hchoices : theme.choices Slot.all = theme'.choices Slot.all := by
    rw [← choicesIn_listing, ← choicesIn_listing, choicesIn, choicesIn, h]
  have hresolve := Config.resolve_choices theme
  rw [hchoices, Config.resolve_choices] at hresolve
  exact (Except.ok.inj hresolve).symm

/-! ## Checking what was printed -/

namespace CommandLine

variable {world : World} {file text : String}

/-- A check prints nothing but the listing of a theme that it has loaded. -/
theorem exists_theme_of_run_check {config? : Option String} {verbosity : Nat}
    (h : run world ⟨config?, verbosity, some (.check file)⟩ = ([], .printed text)) :
    ∃ theme : Theme, Config.load world.files file = .ok theme ∧ text = theme.listing := by
  cases hload : Config.load world.files file with
  | error e =>
      rw [run_check_of_error hload] at h
      exact Result.noConfusion (Prod.mk.inj h).2
  | ok theme =>
      rw [run_check_of_ok hload] at h
      exact ⟨theme, rfl, (Result.printed.inj (Prod.mk.inj h).2).symm⟩

/-- A file whose text gives every slot the name of its icon is loaded as the theme, and the check
prints it. -/
theorem run_check_of_spells_choices {theme : Theme} {given : Config.Choices} {source : String}
    (hperm : given.Perm (theme.choices Slot.all)) (h : Config.Spells .headed given source)
    (hholds : Config.Holds world.files file source) (config? : Option String) (verbosity : Nat) :
    run world ⟨config?, verbosity, some (.check file)⟩ = ([], .printed theme.listing) :=
  run_check_of_ok (Config.load_of_spells_choices hperm h hholds) config? verbosity

/-- **Printed themes come back.** A configuration that gives every slot the name of its icon, in any
order, is loaded as the theme, and checking it prints the theme. The theme can be read back from the
first two columns of what is printed, so no two themes are printed alike. What any check has printed
makes a configuration again, and checking that one prints the same text. -/
theorem printed_themes_come_back :
    (∀ (theme : Theme) (pairs : List (Slot × IconId)) (source : String),
        pairs.Perm theme.slots → Config.Spells .headed (Config.named pairs) source →
        Config.parse source = .ok theme
          ∧ ∀ (world : World) (file : String), Config.Holds world.files file source →
            Config.load world.files file = .ok theme
              ∧ ∀ config? verbosity, run world ⟨config?, verbosity, some (.check file)⟩
                = ([], .printed theme.listing))
      ∧ (∀ given, Config.Spells .headed given (Config.write .headed given))
      ∧ (∀ theme : Theme, Config.resolve (choicesIn theme.listing) = .ok theme)
      ∧ (∀ theme theme' : Theme, slotColumns theme.listing = slotColumns theme'.listing →
        theme = theme')
      ∧ Function.Injective Theme.listing
      ∧ ∀ (world : World) (file : String) (config? : Option String) (verbosity : Nat)
          (text : String),
        run world ⟨config?, verbosity, some (.check file)⟩ = ([], .printed text) →
        ∀ (given : Config.Choices) (source : String), given.Perm (choicesIn text) →
          Config.Spells .headed given source →
          ∀ (world' : World) (file' : String), Config.Holds world'.files file' source →
            ∀ config? verbosity, run world' ⟨config?, verbosity, some (.check file')⟩
              = ([], .printed text) := by
  refine ⟨?loads, fun given => Config.spells_write .headed given, ?reads,
    fun _ _ => eq_of_slotColumns_eq, ?injective, ?again⟩
  case loads =>
    intro theme pairs source hpairs hspells
    have hperm : (Config.named pairs).Perm (theme.choices Slot.all) := by
      rw [← Config.named_slots]
      exact hpairs.map _
    refine ⟨Config.parse_of_spells_choices hperm hspells, fun world file hholds => ⟨?_, ?_⟩⟩
    · exact Config.load_of_spells_choices hperm hspells hholds
    · intro config? verbosity
      exact run_check_of_spells_choices hperm hspells hholds config? verbosity
  case reads =>
    intro theme
    rw [choicesIn_listing]
    exact Config.resolve_choices theme
  case injective =>
    intro theme theme' h
    exact eq_of_slotColumns_eq (congrArg slotColumns h)
  case again =>
    intro world file config? verbosity text hchecked given source hperm hspells world' file' hholds
    obtain ⟨theme, -, rfl⟩ := exists_theme_of_run_check hchecked
    rw [choicesIn_listing] at hperm
    intro config? verbosity
    exact run_check_of_spells_choices hperm hspells hholds config? verbosity

end CommandLine

end GlyphBook
