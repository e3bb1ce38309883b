import GlyphBook.Config.Faults
import GlyphBook.Proofs.Registry.Lookup

/-!
# What decoding a document decides

Decoding stops at the first problem it meets, and it meets three kinds of them in two orders:
problems of shape in the order of the document, unknown names in the fixed order of the slots.
Here it is tied to the lists of all problems (`faults`, `unknownNames`) and to what a document of
the right shape gives (`given`).

The step that carries everything is `checked_bind`: two checks in a row stop where the first of
both fault lists does, so every check of the reader equals `checked` of its own fault list
(`choices_eq_checked`), by one induction over the members of each table. Names are settled by a
second induction, over the slots (`resolveFrom_eq`).
-/

namespace GlyphBook

namespace Config

/-! ## Checks with a list of faults -/

/-- A check that finds `faults`: it stops at the first one, and gives `a` when there is none. -/
def checked (faults : List Fault) (a : α) : Except Fault α :=
  match faults with
  | [] => .ok a
  | fault :: _ => .error fault

/-- Two checks in a row find the faults of the first before those of the second. -/
theorem checked_bind (first second : List Fault) (a : α) (b : β) (join : α → β → γ) :
    (do
      let a ← checked first a
      let b ← checked second b
      return join a b) = checked (first ++ second) (join a b) := by
  cases first with
  | nil => cases second <;> rfl
  | cons fault later => rfl

/-! ## Shape -/

theorem ofName?_eq_some_iff {name : String} {slot : Slot} :
    Slot.ofName? name = some slot ↔ slot.name = name := by
  constructor
  · intro h
    have := List.find?_some (p := fun slot : Slot => slot.name == name) h
    exact eq_of_beq this
  · rintro rfl
    exact Slot.ofName?_name slot

/-- The names a table may have as keys are those that some slot has. -/
theorem mem_slotNames {name : String} :
    name ∈ slotNames ↔ ∃ slot, Slot.ofName? name = some slot := by
  simp only [slotNames, fields_eq, List.mem_map, ofName?_eq_some_iff]
  constructor
  · rintro ⟨slot, -, h⟩
    exact ⟨slot, h⟩
  · rintro ⟨slot, h⟩
    exact ⟨slot, slot.mem_all, h⟩

theorem choicesOfTable_eq_checked (form : Toml.TableForm) : ∀ members : List Toml.Member,
    choicesOfTable members = checked (tableFaults members) (iconsGiven (.table form members))
  | [] => rfl
  | (key, extent, value) :: rest => by
      have ih := choicesOfTable_eq_checked form rest
      cases hslot : Slot.ofName? key.name with
      | none =>
          have hkey : key.name ∉ slotNames := by simp [mem_slotNames, hslot]
          simp [choicesOfTable, tableFaults, hslot, hkey, checked]
      | some slot =>
          have hkey : key.name ∈ slotNames := mem_slotNames.mpr ⟨slot, hslot⟩
          simp only [choicesOfTable, hslot, ih, tableFaults, List.flatMap_cons, if_pos hkey,
            iconsGiven, List.filterMap_cons]
          cases value with
          | text name => exact checked_bind [] _ name _ fun name choices => (slot, name) :: choices
          | _ => rfl

theorem choicesOfList_eq_checked : ∀ (slots : List Slot) (items : List (Toml.Extent × Toml.Value)),
    choicesOfList slots items =
      checked ((items.take slots.length).flatMap fun (extent, value) => valueFaults extent value)
        ((slots.zip items).filterMap fun (slot, _, value) => do return (slot, ← name? value))
  | [], _ => rfl
  | _ :: _, [] => rfl
  | slot :: slots, (extent, value) :: items => by
      simp only [choicesOfList, choicesOfList_eq_checked slots items, List.length_cons,
        List.take_succ_cons, List.flatMap_cons, List.zip_cons_cons, List.filterMap_cons]
      cases value with
      | text name => exact checked_bind [] _ name _ fun name choices => (slot, name) :: choices
      | _ => rfl

theorem choicesOfIcons_eq_checked (extent : Toml.Extent) (value : Toml.Value) :
    choicesOfIcons extent value = checked (iconsFaults extent value) (iconsGiven value) := by
  cases value with
  | table form members => exact choicesOfTable_eq_checked form members
  | list form items =>
      rw [choicesOfIcons, fields_eq]
      exact choicesOfList_eq_checked Slot.all items
  | _ => rfl

/-- The reader's check of a document stops at the first fault in the order of the document, and
gives the document's choices when there is none. -/
theorem choices_eq_checked : ∀ members : List Toml.Member,
    choices members = checked (faults members) (given members)
  | [] => rfl
  | (key, extent, value) :: rest => by
      by_cases hkey : key.name = "icons"
      · simp only [choices, faults, given, List.flatMap_cons, if_pos hkey,
          choicesOfIcons_eq_checked, choices_eq_checked rest]
        exact checked_bind _ _ _ _ fun here later => here ++ later
      · simp [choices, faults, hkey, checked]

/-- What the value of `icons` looks like in a document of the right shape: a table from slots to
strings, or a list that starts with strings, as many as there are slots. -/
def IconsShaped : Toml.Value → Prop
  | .table _ members => ∀ key extent value, (key, extent, value) ∈ members →
      (∃ slot : Slot, slot.name = key.name) ∧ ∃ name, value = .text name
  | .list _ items => ∀ extent value, (extent, value) ∈ items.take Slot.all.length →
      ∃ name, value = .text name
  | _ => False

/-- A document of the right shape: `icons` is its only key. -/
def WellShaped (members : List Toml.Member) : Prop :=
  ∀ key extent value, (key, extent, value) ∈ members → key.name = "icons" ∧ IconsShaped value

theorem valueFaults_eq_nil_iff {extent : Toml.Extent} {value : Toml.Value} :
    valueFaults extent value = [] ↔ ∃ name, value = .text name := by
  cases value <;> simp [valueFaults]

theorem iconsFaults_eq_nil_iff {extent : Toml.Extent} {value : Toml.Value} :
    iconsFaults extent value = [] ↔ IconsShaped value := by
  cases value with
  | table form members =>
      simp only [iconsFaults, tableFaults, List.flatMap_eq_nil_iff, IconsShaped, Prod.forall]
      refine forall_congr' fun key => forall_congr' fun extent => forall_congr' fun value =>
        imp_congr_right fun _ => ?_
      by_cases hkey : key.name ∈ slotNames
      · have hslot : ∃ slot : Slot, slot.name = key.name := by
          simpa only [mem_slotNames, ofName?_eq_some_iff] using hkey
        simp only [if_pos hkey, valueFaults_eq_nil_iff, hslot, true_and]
      · have hslot : ¬ ∃ slot : Slot, slot.name = key.name := by
          simpa only [mem_slotNames, ofName?_eq_some_iff] using hkey
        simp [if_neg hkey, hslot]
  | list form items =>
      simp only [iconsFaults, listFaults, List.flatMap_eq_nil_iff, IconsShaped, Prod.forall,
        valueFaults_eq_nil_iff]
  | _ => simp [iconsFaults, IconsShaped]

theorem faults_eq_nil_iff {members : List Toml.Member} :
    faults members = [] ↔ WellShaped members := by
  simp only [faults, List.flatMap_eq_nil_iff, WellShaped, Prod.forall]
  refine forall_congr' fun key => forall_congr' fun extent => forall_congr' fun value =>
    imp_congr_right fun _ => ?_
  by_cases hkey : key.name = "icons"
  · rw [if_pos hkey, iconsFaults_eq_nil_iff]
    exact (and_iff_right hkey).symm
  · simp [hkey]

/-! ## Names -/

/-- A slot is given a name that no icon has. -/
def IsUnknown (choices : Choices) (slot : Slot) (name : String) : Prop :=
  nameFor? choices slot = some name ∧ ¬ icons.Declares name

/-- Of the slots that are given unknown names, this one comes first in the fixed order. -/
def FirstUnknown (choices : Choices) (slot : Slot) (name : String) : Prop :=
  IsUnknown choices slot name ∧ ∃ before after, Slot.all = before ++ slot :: after
    ∧ ∀ other ∈ before, ∀ text, ¬ IsUnknown choices other text

/-- A slot of `theme` has the icon that is chosen for it, or that of `base` when none is. -/
def Follows (choices : Choices) (base theme : Theme) (slot : Slot) : Prop :=
  match nameFor? choices slot with
  | none => theme.icon slot = base.icon slot
  | some name => icons.name (theme.icon slot) = name

/-- The slot with its name, if the name is unknown. -/
def unknownName? (choices : Choices) (slot : Slot) : Option (Slot × UnknownIcon) := do
  let name ← nameFor? choices slot
  if icons.entries.any fun entry => entry.name == name then none else some (slot, ⟨name⟩)

theorem unknownName?_eq_some_iff {choices : Choices} {slot other : Slot} {e : UnknownIcon} :
    unknownName? choices slot = some (other, e) ↔ other = slot ∧ IsUnknown choices slot e.id := by
  obtain ⟨text⟩ := e
  cases hname : nameFor? choices slot with
  | none => simp [unknownName?, IsUnknown, hname]
  | some name =>
      by_cases hdecl : icons.Declares name
      · have hany := icons.any_name_iff.mpr hdecl
        simp only [unknownName?, IsUnknown, hname, Option.bind_eq_bind, Option.bind_some,
          if_pos hany, reduceCtorEq, Option.some.injEq, false_iff]
        rintro ⟨-, rfl, hnot⟩
        exact hnot hdecl
      · have hany := mt icons.any_name_iff.mp hdecl
        simp only [unknownName?, IsUnknown, hname, Option.bind_eq_bind, Option.bind_some,
          if_neg hany, Option.some.injEq, Prod.mk.injEq, UnknownIcon.mk.injEq]
        constructor
        · rintro ⟨rfl, rfl⟩
          exact ⟨rfl, rfl, hdecl⟩
        · rintro ⟨rfl, rfl, -⟩
          exact ⟨rfl, rfl⟩

theorem unknownName?_eq_none_iff {choices : Choices} {slot : Slot} :
    unknownName? choices slot = none ↔ ∀ text, ¬ IsUnknown choices slot text := by
  constructor
  · intro h text hbad
    rw [unknownName?_eq_some_iff.mpr ⟨rfl, hbad⟩] at h
    cases h
  · intro h
    cases hbad : unknownName? choices slot with
    | none => rfl
    | some bad => exact absurd (unknownName?_eq_some_iff.mp hbad).2 (h _)

/-- The first entry of the list of unknown names is the first unknown name. -/
theorem head?_unknownNames {choices : Choices} {slot : Slot} {e : UnknownIcon} :
    (unknownNames choices).head? = some (slot, e) ↔ FirstUnknown choices slot e.id := by
  rw [show unknownNames choices = Slot.all.filterMap (unknownName? choices) from rfl,
    List.head?_filterMap, List.findSome?_eq_some_iff]
  simp only [unknownName?_eq_none_iff]
  constructor
  · rintro ⟨before, a, after, hall, ha, hbefore⟩
    obtain ⟨rfl, hbad⟩ := unknownName?_eq_some_iff.mp ha
    exact ⟨hbad, before, after, hall, hbefore⟩
  · rintro ⟨hbad, before, after, hall, hbefore⟩
    exact ⟨before, slot, after, hall, unknownName?_eq_some_iff.mpr ⟨rfl, hbad⟩, hbefore⟩

/-! ## Settling the slots -/

/-- Settling the slots of a list fails at the first unknown name among them. -/
theorem resolveFrom_eq_error_iff {choices : Choices} {bad : Slot × UnknownIcon} :
    ∀ {slots : List Slot} {base : Theme},
      resolveFrom choices slots base = .error bad ↔
        (slots.filterMap (unknownName? choices)).head? = some bad
  | [], _ => by simp [resolveFrom]
  | slot :: slots, base => by
      cases hname : nameFor? choices slot with
      | none =>
          have hnone : unknownName? choices slot = none := by simp [unknownName?, hname]
          rw [List.filterMap_cons_none hnone]
          simpa only [resolveFrom, hname] using resolveFrom_eq_error_iff
      | some name =>
          cases hlookup : icons.lookup name with
          | ok id =>
              have hid : icons.name id = name := icons.lookup_eq_ok_iff.mp hlookup
              have hnone : unknownName? choices slot = none := by
                refine unknownName?_eq_none_iff.mpr fun text hbad => ?_
                obtain rfl : name = text := Option.some.inj (hname.symm.trans hbad.1)
                exact hbad.2 ⟨id, hid⟩
              rw [List.filterMap_cons_none hnone]
              simpa only [resolveFrom, hname, hlookup] using resolveFrom_eq_error_iff
          | error e =>
              obtain ⟨he, hdecl⟩ := icons.lookup_eq_error_iff.mp hlookup
              have hsome : unknownName? choices slot = some (slot, e) :=
                unknownName?_eq_some_iff.mpr ⟨rfl, he ▸ hname, he ▸ hdecl⟩
              rw [List.filterMap_cons_some hsome]
              simp [resolveFrom, hname, hlookup]

/-- Following the choices is a matter of one slot only. -/
theorem follows_congr {choices : Choices} {base base' theme theme' : Theme} {slot : Slot}
    (hbase : base.icon slot = base'.icon slot) (htheme : theme.icon slot = theme'.icon slot) :
    Follows choices base theme slot ↔ Follows choices base' theme' slot := by
  simp only [Follows, hbase, htheme]

/-- Settling one slot: it follows its choice, and every other slot stays as it was. -/
def Settles (choices : Choices) (base theme : Theme) (slot : Slot) : Prop :=
  Follows choices base theme slot ∧ ∀ other, other ≠ slot → theme.icon other = base.icon other

/-- Settling the slots of a list succeeds when the first one can be settled and then the others. -/
theorem resolveFrom_cons_eq_ok_iff {choices : Choices} {slot : Slot} {slots : List Slot}
    {base theme : Theme} :
    resolveFrom choices (slot :: slots) base = .ok theme ↔
      ∃ next, Settles choices base next slot ∧ resolveFrom choices slots next = .ok theme := by
  cases hname : nameFor? choices slot with
  | none =>
      simp only [resolveFrom, Settles, Follows, hname]
      constructor
      · exact fun h => ⟨base, ⟨rfl, fun _ _ => rfl⟩, h⟩
      · rintro ⟨next, ⟨hhere, hkeep⟩, h⟩
        have hnext : next = base := Theme.ext (funext fun other => by
          by_cases heq : other = slot
          · rw [heq, hhere]
          · exact hkeep other heq)
        rw [← hnext, h]
  | some name =>
      cases hlookup : icons.lookup name with
      | ok id =>
          have hid : icons.name id = name := icons.lookup_eq_ok_iff.mp hlookup
          simp only [resolveFrom, Settles, Follows, hname, hlookup]
          constructor
          · intro h
            refine ⟨base.assign slot id, ⟨?_, fun _ => base.icon_assign_of_ne id⟩, h⟩
            rw [Theme.icon_assign_self, hid]
          · rintro ⟨next, ⟨hhere, hkeep⟩, h⟩
            have hnext : next = base.assign slot id := Theme.ext (funext fun other => by
              by_cases heq : other = slot
              · rw [heq, Theme.icon_assign_self]
                exact icons.eq_of_name_eq (hhere.trans hid.symm)
              · rw [hkeep other heq, base.icon_assign_of_ne id heq])
            rw [← hnext, h]
      | error e =>
          have hdecl := (icons.lookup_eq_error_iff.mp hlookup).2
          simp only [resolveFrom, Settles, Follows, hname, hlookup, reduceCtorEq, false_iff]
          rintro ⟨next, ⟨hhere, -⟩, -⟩
          exact hdecl ⟨next.icon slot, hhere⟩

/-- Settling the slots of a list succeeds when each of them can follow its choice, and it touches
no other slot. -/
theorem resolveFrom_eq_ok_iff {choices : Choices} {theme : Theme} :
    ∀ {slots : List Slot} {base : Theme}, slots.Nodup →
      (resolveFrom choices slots base = .ok theme ↔
        (∀ slot ∈ slots, Follows choices base theme slot)
          ∧ ∀ slot, slot ∉ slots → theme.icon slot = base.icon slot)
  | [], base, _ => by
      simp only [resolveFrom, Except.ok.injEq, List.not_mem_nil, false_imp_iff, implies_true,
        not_false_eq_true, true_imp_iff, true_and]
      exact ⟨fun h _ => h ▸ rfl, fun h => Theme.ext (funext fun slot => (h slot).symm)⟩
  | slot :: slots, base, hnodup => by
      obtain ⟨hslot, hslots⟩ := List.nodup_cons.mp hnodup
      have hne {other : Slot} (h : other ∈ slots) : other ≠ slot := fun heq => hslot (heq ▸ h)
      rw [resolveFrom_cons_eq_ok_iff, List.forall_mem_cons]
      simp only [resolveFrom_eq_ok_iff hslots, List.mem_cons, not_or]
      constructor
      · rintro ⟨next, ⟨hhere, hkeep⟩, hfollow, hrest⟩
        refine ⟨⟨?_, fun other h => ?_⟩, fun other h => ?_⟩
        · exact (follows_congr rfl (hrest slot hslot)).mpr hhere
        · exact (follows_congr (hkeep other (hne h)) rfl).mp (hfollow other h)
        · rw [hrest other h.2, hkeep other h.1]
      · rintro ⟨⟨hhere, hfollow⟩, hrest⟩
        refine ⟨base.assign slot (theme.icon slot), ⟨?_, fun _ => base.icon_assign_of_ne _⟩,
          fun other h => ?_, fun other h => ?_⟩
        · exact (follows_congr rfl (base.icon_assign_self slot _)).mpr hhere
        · exact (follows_congr (base.icon_assign_of_ne _ (hne h)) rfl).mpr (hfollow other h)
        · by_cases heq : other = slot
          · rw [heq, Theme.icon_assign_self]
          · rw [base.icon_assign_of_ne _ heq, hrest other ⟨heq, h⟩]

/-! ## Documents -/

/-- The choices of a document are settled on top of the default theme. -/
theorem resolve_eq_ok_iff {choices : Choices} {theme : Theme} :
    resolve choices = .ok theme ↔ ∀ slot, Follows choices Theme.default theme slot := by
  rw [resolve, resolveOrder_eq, resolveFrom_eq_ok_iff Slot.nodup_all]
  constructor
  · exact fun h slot => h.1 slot slot.mem_all
  · exact fun h => ⟨fun slot _ => h slot, fun slot hslot => absurd slot.mem_all hslot⟩

theorem resolve_eq_error_iff {choices : Choices} {slot : Slot} {e : UnknownIcon} :
    resolve choices = .error (slot, e) ↔ FirstUnknown choices slot e.id := by
  rw [resolve, resolveOrder_eq, resolveFrom_eq_error_iff]
  exact head?_unknownNames

theorem decode_of_fault {members : List Toml.Member} {fault : Fault} {later : List Fault}
    (h : faults members = fault :: later) : decode members = .error (.inl fault) := by
  simp only [decode, choices_eq_checked, h, checked]

theorem decode_of_wellShaped {members : List Toml.Member} (h : WellShaped members) :
    decode members = (resolve (given members)).mapError .inr := by
  simp only [decode, choices_eq_checked, faults_eq_nil_iff.mpr h, checked]
  cases resolve (given members) <;> rfl

theorem mapError_eq_ok_iff {result : Except ε α} {f : ε → ε'} {v : α} :
    result.mapError f = .ok v ↔ result = .ok v := by
  cases result with
  | error e =>
      constructor
      · intro h
        cases h
      · intro h
        cases h
  | ok v' => exact ⟨fun h => congrArg _ (Except.ok.inj h), fun h => congrArg _ (Except.ok.inj h)⟩

theorem mapError_eq_error_iff {result : Except ε α} {f : ε → ε'} {e' : ε'} :
    result.mapError f = .error e' ↔ ∃ e, result = .error e ∧ f e = e' := by
  cases result with
  | error e =>
      constructor
      · intro h
        exact ⟨e, rfl, Except.error.inj h⟩
      · rintro ⟨_, h, rfl⟩
        rw [Except.error.inj h]
        rfl
  | ok v =>
      constructor
      · intro h
        cases h
      · rintro ⟨_, h, -⟩
        cases h

theorem decode_eq_fault_iff {members : List Toml.Member} {fault : Fault} :
    decode members = .error (.inl fault) ↔ (faults members).head? = some fault := by
  cases hfaults : faults members with
  | nil =>
      simp [decode_of_wellShaped (faults_eq_nil_iff.mp hfaults), mapError_eq_error_iff]
  | cons first later => simp [decode_of_fault hfaults]

theorem decode_eq_unknown_iff {members : List Toml.Member} {slot : Slot} {e : UnknownIcon} :
    decode members = .error (.inr (slot, e)) ↔
      WellShaped members ∧ FirstUnknown (given members) slot e.id := by
  rw [← faults_eq_nil_iff, ← resolve_eq_error_iff]
  cases hfaults : faults members with
  | nil =>
      simp [decode_of_wellShaped (faults_eq_nil_iff.mp hfaults), mapError_eq_error_iff]
  | cons first later => simp [decode_of_fault hfaults]

theorem decode_eq_ok_iff {members : List Toml.Member} {theme : Theme} :
    decode members = .ok theme ↔
      WellShaped members ∧ ∀ slot, Follows (given members) Theme.default theme slot := by
  rw [← faults_eq_nil_iff, ← resolve_eq_ok_iff]
  cases hfaults : faults members with
  | nil =>
      simp [decode_of_wellShaped (faults_eq_nil_iff.mp hfaults), mapError_eq_ok_iff]
  | cons first later => simp [decode_of_fault hfaults]

/-- The error of a text whose document is refused: a fault is looked up in the text. -/
def Error.located (source : String) : Fault ⊕ (Slot × UnknownIcon) → Error
  | .inl fault => .badShape (Toml.sight source.toList fault.extent) fault.problem
  | .inr (slot, e) => .unknownIcon slot e

/-- A text that is TOML is decoded as the document it spells. -/
theorem parse_of_parse? {source : String} {members : List Toml.Member}
    (h : Toml.parse? source = some members) :
    parse source = (decode members).mapError (Error.located source) := by
  simp only [parse, h]
  cases decode members with
  | ok theme => rfl
  | error bad => cases bad <;> rfl

/-- **Decoding decides the schema.** A document with a fault is refused with its first fault in
the order of the document. One without is refused with the first unknown name in the order of the
slots, if it gives any. Any other document is accepted, with the theme in which every slot follows
the document's choice or else keeps its default. A text is refused or accepted as its document
is. -/
theorem decode_decides (members : List Toml.Member) :
    (faults members = [] ↔ WellShaped members)
      ∧ (∀ fault, decode members = .error (.inl fault) ↔ (faults members).head? = some fault)
      ∧ (∀ slot e, decode members = .error (.inr (slot, e)) ↔
          WellShaped members ∧ FirstUnknown (given members) slot e.id)
      ∧ (∀ theme, decode members = .ok theme ↔
          WellShaped members ∧ ∀ slot, Follows (given members) Theme.default theme slot)
      ∧ ∀ source, Toml.parse? source = some members →
          parse source = (decode members).mapError (Error.located source) :=
  ⟨faults_eq_nil_iff, fun _ => decode_eq_fault_iff, fun _ _ => decode_eq_unknown_iff,
    fun _ => decode_eq_ok_iff, fun _ => parse_of_parse?⟩

end Config

end GlyphBook
