import GlyphBook.Config.Writing
import GlyphBook.Proofs.Config.Schema
import GlyphBook.Proofs.Toml.Tables

/-!
# Every spelling of a configuration means the same

The same choices can be written below a header, with dotted keys, or in braces, in any order, with
keys in quotes, names with escapes, and comments, blanks and empty lines between everything.
`Spells` is what all these texts have in common: the lines of data that they have. The choices of
the first slots can also be written as a list (`SpellsList`).

Two things carry the main result. However the choices are written, the document gives them back in
the order in which they were written (`choices_of_isTable`, `choicesOfList_of_texts`); and the order
does not matter, because the theme only depends on which name a slot is given (`resolve_perm`).
A slot that is given twice makes the text no TOML at all.
-/

namespace GlyphBook

namespace Config

/-! ## Spellings -/

def byName (choices : Choices) : List (String × String) :=
  choices.map fun choice => (choice.1.name, choice.2)

/-- The lines of data of a configuration. -/
def lines (form : Form) (choices : Choices) : List Toml.Line :=
  match form with
  | .headed => .header ["icons"] :: (byName choices).map Toml.entryLine
  | .dotted => (byName choices).map (Toml.dottedLine "icons")
  | .braced => [.entry ["icons"] (.table (byName choices))]

/-- The text gives these choices in this form, one after the other. -/
def Spells (form : Form) (choices : Choices) (source : String) : Prop :=
  Toml.Document source (lines form choices)

/-- The text gives these names to the first slots, as a list. -/
def SpellsList (names : List String) (source : String) : Prop :=
  Toml.Document source [.entry ["icons"] (.list names)]

/-- No slot is given twice. -/
def Distinct (choices : Choices) : Prop := (choices.map Prod.fst).Nodup

/-- What a text with these choices is read as: the theme, or the first icon that is unknown. -/
def settle (choices : Choices) : Except Error Theme :=
  (resolve choices).mapError fun bad => .unknownIcon bad.1 bad.2

theorem name_injective : Function.Injective Slot.name := fun _ _ h => Slot.eq_of_name_eq h

theorem nodup_byName_iff {choices : Choices} :
    ((byName choices).map Prod.fst).Nodup ↔ Distinct choices := by
  have hnames : (byName choices).map Prod.fst = (choices.map Prod.fst).map Slot.name := by
    rw [byName, List.map_map, List.map_map]
    rfl
  rw [hnames, List.nodup_map_iff name_injective, Distinct]

/-! ## The choices of a document -/

theorem choicesOfTable_of_bare {choices : Choices} {sub : List Toml.Member}
    (h : sub.map Toml.Member.bare = (byName choices).map Toml.named) :
    choicesOfTable sub = .ok choices := by
  induction choices generalizing sub with
  | nil =>
      obtain rfl := List.map_eq_nil_iff.mp h
      rfl
  | cons choice choices ih =>
      obtain ⟨slot, name⟩ := choice
      obtain ⟨⟨key, extent, value⟩, later, rfl, hmember, hlater⟩ := List.map_eq_cons_iff.mp h
      obtain ⟨hkey, rfl⟩ := Prod.mk.inj hmember
      have hslot : Slot.ofName? key.name = some slot := by
        rw [show key.name = slot.name from hkey, Slot.ofName?_name]
      rw [choicesOfTable, hslot]
      simp only [ih hlater]
      rfl

theorem choicesOfList_of_texts {choices : Choices} {slots : List Slot}
    {items : List (Toml.Extent × Toml.Value)}
    (hslots : choices.map Prod.fst = slots.take choices.length)
    (hitems : items.map Prod.snd = (choices.map Prod.snd).map .text) :
    choicesOfList slots items = .ok choices := by
  induction choices generalizing slots items with
  | nil =>
      obtain rfl := List.map_eq_nil_iff.mp hitems
      cases slots <;> rfl
  | cons choice choices ih =>
      obtain ⟨slot, name⟩ := choice
      obtain ⟨⟨extent, value⟩, later, rfl, rfl, hlater⟩ := List.map_eq_cons_iff.mp hitems
      cases slots with
      | nil => cases hslots
      | cons slot' slots =>
          obtain ⟨hslot, hothers⟩ := List.cons.inj hslots
          obtain rfl : slot = slot' := hslot
          rw [choicesOfList, ih hothers hlater]
          rfl

theorem choices_singleton {key : Toml.Key} (hkey : key.name = "icons") {extent : Toml.Extent}
    {value : Toml.Value} {given : Choices} (h : choicesOfIcons extent value = .ok given) :
    choices [(key, extent, value)] = .ok given := by
  rw [choices, if_pos hkey, h]
  show Except.ok (given ++ []) = _
  rw [List.append_nil]

theorem choices_of_isTable {given : Choices} {members : List Toml.Member}
    (h : Toml.IsTable "icons" (byName given) members) : choices members = .ok given := by
  obtain ⟨key, extent, form, sub, rfl, hkey, hbare⟩ := h
  exact choices_singleton hkey (choicesOfTable_of_bare hbare)

theorem parse_of_choices {source : String} {members : List Toml.Member} {given : Choices}
    (h : Toml.parse? source = some members) (hgiven : choices members = .ok given) :
    parse source = settle given := by
  simp only [parse, h, decode, hgiven, settle]
  cases resolve given with
  | error bad => rfl
  | ok theme => rfl

/-- Choices in any form are read as they are written. -/
theorem parse_of_spells {form : Form} {given : Choices} {source : String}
    (h : Spells form given source) :
    (Distinct given → parse source = settle given)
      ∧ (¬ Distinct given → parse source = .error .notToml) := by
  have hread : Toml.ParsesWhenDistinct source (byName given) fun members =>
      choices members = .ok given := by
    cases form with
    | headed => exact (Toml.parse?_headed h).imp fun _ => choices_of_isTable
    | braced => exact (Toml.parse?_braced h).imp fun _ => choices_of_isTable
    | dotted =>
        refine (Toml.parse?_dotted h).imp fun members hmembers => ?_
        rcases hmembers with ⟨hempty, rfl⟩ | htable
        · obtain rfl : given = [] := List.map_eq_nil_iff.mp hempty
          rfl
        · exact choices_of_isTable htable
  obtain ⟨hreads, hrefuses⟩ := hread
  constructor
  · intro hdistinct
    obtain ⟨members, hparse, hgiven⟩ := hreads (nodup_byName_iff.mpr hdistinct)
    exact parse_of_choices hparse hgiven
  · intro hrepeats
    rw [parse, hrefuses (mt nodup_byName_iff.mp hrepeats)]

theorem parse_of_spellsList {given : Choices} {source : String}
    (hslots : given.map Prod.fst = Slot.all.take given.length)
    (h : SpellsList (given.map Prod.snd) source) : parse source = settle given := by
  obtain ⟨key, extent, items, hparse, hkey, hitems⟩ := Toml.parse?_list h
  exact parse_of_choices hparse (choices_singleton hkey (choicesOfList_of_texts hslots hitems))

/-! ## The order of the choices -/

theorem nameFor?_eq_some_iff {choices : Choices} (h : Distinct choices) {slot : Slot}
    {name : String} : nameFor? choices slot = some name ↔ (slot, name) ∈ choices := by
  induction choices with
  | nil => simp [nameFor?]
  | cons choice choices ih =>
      obtain ⟨slot', name'⟩ := choice
      obtain ⟨hnew, hlater⟩ := List.nodup_cons.mp h
      by_cases heq : slot' = slot
      · subst heq
        have hout : (slot', name) ∉ choices := fun hmem =>
          hnew (List.mem_map.mpr ⟨_, hmem, rfl⟩)
        simp [nameFor?, hout, eq_comm]
      · have hne : (slot, name) ≠ (slot', name') := fun h => heq (Prod.mk.inj h).1.symm
        rw [List.mem_cons, or_iff_right hne, ← ih hlater]
        simp [nameFor?, heq]

theorem resolveFrom_congr {a b : Choices} (h : ∀ slot, nameFor? a slot = nameFor? b slot)
    (slots : List Slot) (theme : Theme) :
    resolveFrom a slots theme = resolveFrom b slots theme := by
  induction slots generalizing theme with
  | nil => rfl
  | cons slot slots ih =>
      rw [resolveFrom, resolveFrom, h slot]
      simp only [ih]

/-- **The order does not matter** when every slot is given once. -/
theorem resolve_perm {choices choices' : Choices} (hperm : choices'.Perm choices)
    (h : Distinct choices) : resolve choices' = resolve choices := by
  have h' : Distinct choices' := (hperm.map Prod.fst).nodup_iff.mpr h
  refine resolveFrom_congr (fun slot => Option.ext fun name => ?_) _ _
  rw [nameFor?_eq_some_iff h, nameFor?_eq_some_iff h', hperm.mem_iff]

/-! ## The written documents -/

open Toml in
/-- The names of the slots can be written without quotes, as that of the whole table can. -/
theorem keyForm_of_mem {name : String} (h : name ∈ "icons" :: Slot.all.map Slot.name) :
    KeyForm name.toList name := by
  have hchars : ∀ name ∈ "icons" :: Slot.all.map Slot.name,
      name.toList ≠ [] ∧ name.toList.all isBareKeyChar = true := by
    decide +kernel
  obtain ⟨hne, hall⟩ := hchars name h
  have hkey := KeyForm.bare hne (List.all_eq_true.mp hall)
  rwa [String.ofList_toList] at hkey

theorem keyForm_icons : Toml.KeyForm "icons".toList "icons" :=
  keyForm_of_mem (List.mem_cons_self ..)

theorem keyForm_slot (slot : Slot) : Toml.KeyForm slot.name.toList slot.name :=
  keyForm_of_mem (List.mem_cons_of_mem _ (List.mem_map_of_mem slot.mem_all))

open Toml in
theorem lineForm_writeChoice (slot : Slot) (name : String) :
    LineForm (writeChoice (slot, name)) (entryLine (slot.name, name)) := by
  have hline := LineForm.entry (.last (keyForm_slot slot) blank_space)
    (show 1 < nestingLimit by decide) blank_space (.text (textForm_writeText name))
  rw [List.append_assoc] at hline
  exact hline

open Toml in
theorem lines_writeChoices (choices : Choices) :
    Lines (choices.flatMap fun choice => writeChoice choice ++ ['\n'])
      ((byName choices).map entryLine) := by
  induction choices with
  | nil => exact .nil
  | cons choice choices ih =>
      obtain ⟨slot, name⟩ := choice
      rw [List.flatMap_cons, List.append_assoc]
      exact lines_cons (lineForm_writeChoice slot name) ih

open Toml in
theorem lines_writeDotted (choices : Choices) :
    Lines (choices.flatMap fun choice => "icons.".toList ++ writeChoice choice ++ ['\n'])
      ((byName choices).map (dottedLine "icons")) := by
  induction choices with
  | nil => exact .nil
  | cons choice choices ih =>
      obtain ⟨slot, name⟩ := choice
      have hpath := PathForm.more keyForm_icons blank_nil blank_nil
        (.last (keyForm_slot slot) blank_space)
      have hline := LineForm.entry hpath (show 2 < nestingLimit by decide) blank_space
        (.text (textForm_writeText name))
      have hdot : "icons.".toList = "icons".toList ++ ['.'] := by decide +kernel
      have hlines := lines_cons hline ih
      simp only [List.flatMap_cons, hdot, writeChoice, List.append_assoc, List.cons_append,
        List.nil_append] at hlines ⊢
      exact hlines

open Toml in
/-- The choices in braces, from the first one to the closing brace. -/
theorem membersForm_write {empty : Bool} (choice : Slot × String) (choices : Choices) :
    MembersForm empty
      (' ' :: (commaSeparated ((choice :: choices).map writeChoice) ++ [' ', '\x7d']))
      (byName (choice :: choices)) := by
  induction choices generalizing empty choice with
  | nil =>
      obtain ⟨slot, name⟩ := choice
      have hform : MembersForm empty _ _ := .last blank_space
        (.last (keyForm_slot slot) blank_space) blank_space (textForm_writeText name) blank_space
      simp only [List.append_assoc, List.cons_append, List.nil_append] at hform
      simp only [List.map_cons, List.map_nil, commaSeparated, writeChoice, List.append_assoc,
        List.cons_append]
      exact hform
  | cons next choices ih =>
      obtain ⟨slot, name⟩ := choice
      have hform : MembersForm empty _ _ := .more blank_space
        (.last (keyForm_slot slot) blank_space) blank_space (textForm_writeText name) blank_nil
        (ih next)
      simp only [List.append_assoc, List.cons_append, List.nil_append] at hform
      simp only [List.map_cons, commaSeparated, writeChoice, List.append_assoc, List.cons_append]
      exact hform

open Toml in
theorem itemsForm_write {g : List Char} (hg : Gap g) (name : String) (names : List String) :
    ItemsForm (g ++ (commaSeparated ((name :: names).map writeText) ++ [']'])) (name :: names) := by
  induction names generalizing g name with
  | nil =>
      exact ItemsForm.last hg (textForm_writeText name) .nil
  | cons next names ih =>
      have hspace : Gap [' '] := gap_of_blank blank_space
      have hform := ItemsForm.more hg (textForm_writeText name) .nil (ih hspace next)
      simp only [List.map_cons, commaSeparated, List.append_assoc, List.cons_append]
      exact hform

open Toml in
/-- A document of one written line that gives `icons` a value. -/
theorem lines_icons {v : List Char} {content : Content} (hv : ValueForm v content) :
    Lines ("icons = ".toList ++ (v ++ ['\n'])) [.entry ["icons"] content] := by
  have hsign : "icons = ".toList = "icons".toList ++ [' ', '=', ' '] := by decide +kernel
  have hline := LineForm.entry (.last keyForm_icons blank_space) (show 1 < nestingLimit by decide)
    blank_space hv
  have hlines := lines_cons hline .nil
  simp only [hsign, List.append_assoc, List.cons_append, List.nil_append] at hlines ⊢
  exact hlines

open Toml in
/-- **The writer spells its choices**, in every form. -/
theorem spells_write (form : Form) (choices : Choices) :
    Spells form choices (write form choices) := by
  cases form with
  | headed =>
      have hopen : "[icons]\n".toList = '[' :: ("icons".toList ++ [']', '\n']) := by decide +kernel
      have hpath : PathForm ("icons".toList ++ []) ["icons"] := .last keyForm_icons blank_nil
      have hheader := LineForm.header blank_nil hpath (show 1 < nestingLimit by decide)
      have hlines := (lines_cons hheader (lines_writeChoices choices)).document
      simp only [List.append_assoc, List.cons_append, List.nil_append] at hlines
      show Document (String.ofList ("[icons]\n".toList ++ _)) _
      rw [hopen]
      simp only [List.append_assoc, List.cons_append, List.nil_append]
      exact hlines
  | dotted => exact (lines_writeDotted choices).document
  | braced =>
      have hopen : "icons = \x7b ".toList = "icons = ".toList ++ ['\x7b', ' '] := by decide +kernel
      have hclose : " \x7d\n".toList = [' ', '\x7d', '\n'] := by decide +kernel
      have htable : MembersForm true
          (' ' :: (commaSeparated (choices.map writeChoice) ++ [' ', '\x7d']))
          (byName choices) := by
        cases choices with
        | nil =>
            exact .close (b := [' ', ' ']) (List.forall_mem_cons.mpr ⟨by decide, blank_space⟩)
        | cons choice choices => exact membersForm_write choice choices
      have hlines := (lines_icons (.table htable)).document
      simp only [List.append_assoc, List.cons_append, List.nil_append] at hlines
      show Document (String.ofList ("icons = \x7b ".toList ++ _ ++ " \x7d\n".toList)) _
      rw [hopen, hclose]
      simp only [List.append_assoc, List.cons_append, List.nil_append]
      exact hlines

open Toml in
theorem spellsList_writeList (names : List String) : SpellsList names (writeList names) := by
  have hopen : "icons = [".toList = "icons = ".toList ++ ['['] := by decide +kernel
  have hclose : "]\n".toList = [']', '\n'] := by decide +kernel
  have hitems : ItemsForm (commaSeparated (names.map writeText) ++ [']']) names := by
    cases names with
    | nil => exact .close .nil
    | cons name names => exact itemsForm_write .nil name names
  have hlines := (lines_icons (.list hitems)).document
  simp only [List.append_assoc, List.cons_append, List.nil_append] at hlines
  show Document (String.ofList ("icons = [".toList ++ _ ++ "]\n".toList)) _
  rw [hopen, hclose]
  simp only [List.append_assoc, List.cons_append, List.nil_append]
  exact hlines

/-- **Every spelling of the choices means the same.** If no slot is given twice, all texts that give
the choices in any order and form are read as one theme or refused for one unknown icon, and so are
the lists of names if the choices are those of the first slots. If a slot is given twice, no text
that gives the choices under their keys is TOML. Every form does have texts for all choices. -/
theorem spellings_agree (choices : Choices) :
    (Distinct choices →
        (∀ form choices' source, choices'.Perm choices → Spells form choices' source →
          parse source = settle choices)
        ∧ ∀ source, choices.map Prod.fst = Slot.all.take choices.length →
          SpellsList (choices.map Prod.snd) source → parse source = settle choices)
      ∧ (¬ Distinct choices → ∀ form choices' source, choices'.Perm choices →
          Spells form choices' source → parse source = .error .notToml)
      ∧ (∀ form, Spells form choices (write form choices))
      ∧ SpellsList (choices.map Prod.snd) (writeList (choices.map Prod.snd)) := by
  refine ⟨?distinct, ?repeated, fun form => spells_write form choices, spellsList_writeList _⟩
  case distinct =>
    intro hdistinct
    refine ⟨fun form choices' source hperm hspells => ?_, fun source hslots hspells => ?_⟩
    · have hdistinct' : Distinct choices' := (hperm.map Prod.fst).nodup_iff.mpr hdistinct
      rw [(parse_of_spells hspells).1 hdistinct', settle, resolve_perm hperm hdistinct, settle]
    · exact parse_of_spellsList hslots hspells
  case repeated =>
    intro hrepeats form choices' source hperm hspells
    have hrepeats' : ¬ Distinct choices' := fun h =>
      hrepeats ((hperm.map Prod.fst).nodup_iff.mp h)
    exact (parse_of_spells hspells).2 hrepeats'

end Config

end GlyphBook
