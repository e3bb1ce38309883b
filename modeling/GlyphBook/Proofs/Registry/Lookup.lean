import GlyphBook.Registry.Basic

/-!
# Names that are declared and names that are not

`lookup` as a decision: it finds the identifier whose name is the given string, and fails with that
very string when there is none.
-/

namespace GlyphBook

namespace Registry

variable (R : Registry)

/-- Some identifier has exactly this name. -/
def Declares (name : String) : Prop := ∃ id, R.name id = name

theorem lookup_of_not_declares {name : String} (h : ¬ R.Declares name) :
    R.lookup name = .error ⟨name⟩ := by
  rw [lookup]
  split
  · next id hid => exact absurd ⟨id, R.find?_eq_some_iff.mp hid⟩ h
  · rfl

theorem lookup_eq_error_iff {name : String} {e : UnknownIcon} :
    R.lookup name = .error e ↔ e.id = name ∧ ¬ R.Declares name := by
  constructor
  · intro h
    have hnone : ¬ R.Declares name := by
      rintro ⟨id, hid⟩
      rw [R.lookup_eq_ok_iff.mpr hid] at h
      cases h
    rw [R.lookup_of_not_declares hnone] at h
    obtain rfl := Except.error.inj h
    exact ⟨rfl, hnone⟩
  · rintro ⟨rfl, hnone⟩
    exact R.lookup_of_not_declares hnone

theorem entry_mem (id : R.Id) : R.entry id ∈ R.entries := List.getElem_mem id.isLt

theorem exists_entry_of_mem {e : Entry} (h : e ∈ R.entries) : ∃ id, R.entry id = e := by
  obtain ⟨i, hi, he⟩ := List.mem_iff_getElem.mp h
  exact ⟨⟨i, hi⟩, he⟩

/-- A name is declared when some entry has it. -/
theorem any_name_iff {name : String} :
    (R.entries.any fun entry => entry.name == name) = true ↔ R.Declares name := by
  rw [List.any_eq_true]
  constructor
  · rintro ⟨e, he, hname⟩
    obtain ⟨id, rfl⟩ := R.exists_entry_of_mem he
    exact ⟨id, eq_of_beq hname⟩
  · rintro ⟨id, rfl⟩
    exact ⟨R.entry id, R.entry_mem id, beq_self_eq_true _⟩

end Registry

end GlyphBook
