import GlyphBook.Theme
import Mathlib.Data.List.FinRange
import Mathlib.Data.List.Nodup
import Mathlib.Data.List.Perm.Lattice

/-!
# The slots that use an icon

The lists of slots that the icons are used in are the inverse of a theme: every slot stands in the
list of its own icon and in no other (`mem_slotsUsing`), so the lists together are all slots, each
once (`flatMap_slotsUsing_perm`). Each list is a part of the fixed order, and giving a slot another
icon moves it from one list to its place in another. That is seen at the slot itself: the order is
what stands before it, the slot, and what stands behind it (`exists_split`), and in the two other
parts nothing changes.
-/

namespace GlyphBook

namespace Slot

theorem nodup_names : (all.map name).Nodup := by decide

/-- The fixed order around a slot; it stands there only once. -/
theorem exists_split (slot : Slot) :
    ∃ before after, all = before ++ slot :: after ∧ slot ∉ before ∧ slot ∉ after := by
  obtain ⟨before, after, hall⟩ := List.append_of_mem slot.mem_all
  have hnodup : (before ++ slot :: after).Nodup := hall ▸ nodup_all
  refine ⟨before, after, hall, fun h => ?_, ?_⟩
  · exact List.disjoint_of_nodup_append hnodup h (List.mem_cons_self ..)
  · exact (List.nodup_cons.mp (List.nodup_append.mp hnodup).2.1).1

end Slot

namespace Theme

theorem nodup_slotsUsing (theme : Theme) (id : IconId) : (theme.slotsUsing id).Nodup :=
  (theme.slotsUsing_sublist id).nodup Slot.nodup_all

/-! ## All lists together -/

theorem flatMap_slotsUsing_perm (theme : Theme) :
    (icons.keys.flatMap theme.slotsUsing).Perm Slot.all := by
  have hkeys : icons.keys.Nodup := List.nodup_finRange _
  have hnodup : (icons.keys.flatMap theme.slotsUsing).Nodup := by
    rw [List.nodup_flatMap]
    refine ⟨fun id _ => theme.nodup_slotsUsing id, hkeys.imp ?_⟩
    intro a b hab slot ha hb
    exact hab ((mem_slotsUsing.mp ha).symm.trans (mem_slotsUsing.mp hb))
  refine (List.perm_ext_iff_of_nodup hnodup Slot.nodup_all).mpr fun slot => ?_
  refine iff_of_true (List.mem_flatMap.mpr ⟨theme.icon slot, ?_, ?_⟩) slot.mem_all
  · exact List.mem_finRange _
  · exact mem_slotsUsing.mpr rfl

/-! ## Reassigning a slot -/

/-- Where the slot does not stand, as many slots use an icon after it was reassigned. -/
theorem filter_assign_of_notMem (theme : Theme) {slot : Slot} (id other : IconId)
    {part : List Slot} (h : slot ∉ part) :
    part.filter (fun s => (theme.assign slot id).icon s == other)
      = part.filter fun s => theme.icon s == other := by
  refine List.filter_congr fun s hs => ?_
  have hne : s ≠ slot := by
    rintro rfl
    exact h hs
  rw [theme.icon_assign_of_ne id hne]

theorem slotsUsing_assign_self (theme : Theme) {slot : Slot} {id : IconId}
    (h : id ≠ theme.icon slot) :
    ∃ before after, theme.slotsUsing id = before ++ after
      ∧ (theme.assign slot id).slotsUsing id = before ++ slot :: after
      ∧ (before ++ slot :: after).Sublist Slot.all := by
  obtain ⟨before, after, hall, hbefore, hafter⟩ := slot.exists_split
  have hout : (theme.icon slot == id) = false := beq_eq_false_iff_ne.mpr (Ne.symm h)
  have hnew : (theme.assign slot id).slotsUsing id
      = before.filter (fun s => theme.icon s == id)
        ++ slot :: after.filter (fun s => theme.icon s == id) := by
    rw [slotsUsing_eq, hall, List.filter_append, theme.filter_assign_of_notMem id id hbefore,
      List.filter_cons_of_pos (by simp), theme.filter_assign_of_notMem id id hafter]
  refine ⟨_, _, ?_, hnew, hnew ▸ slotsUsing_sublist _ id⟩
  rw [slotsUsing_eq, hall, List.filter_append, List.filter_cons_of_neg (by simp [hout])]

theorem slotsUsing_assign_icon (theme : Theme) {slot : Slot} {id : IconId}
    (h : id ≠ theme.icon slot) :
    (theme.assign slot id).slotsUsing (theme.icon slot)
      = (theme.slotsUsing (theme.icon slot)).erase slot := by
  rw [(theme.nodup_slotsUsing _).erase_eq_filter, slotsUsing_eq, slotsUsing_eq, List.filter_filter]
  refine List.filter_congr fun s _ => ?_
  by_cases hs : s = slot
  · simp [hs, h]
  · simp [theme.icon_assign_of_ne id hs, hs]

theorem slotsUsing_assign_of_ne (theme : Theme) {slot : Slot} {id other : IconId}
    (hid : other ≠ id) (hicon : other ≠ theme.icon slot) :
    (theme.assign slot id).slotsUsing other = theme.slotsUsing other := by
  rw [slotsUsing_eq, slotsUsing_eq]
  refine List.filter_congr fun s _ => ?_
  by_cases hs : s = slot
  · simp [hs, Ne.symm hid, Ne.symm hicon]
  · rw [theme.icon_assign_of_ne id hs]

/-- **The lists of users invert the theme.** They share out the slots: a slot stands in the list of
its own icon and in no other, all lists together hold every slot once, and no two slots have one
name. Each list holds no slot twice and keeps to the fixed order. Giving a slot another icon takes
it out of the list of the one it had, puts it into the list of the new one where the fixed order
has it, and changes no other list. -/
theorem users_invert (theme : Theme) :
    ((∀ slot id, slot ∈ theme.slotsUsing id ↔ id = theme.icon slot)
        ∧ (icons.keys.flatMap theme.slotsUsing).Perm Slot.all
        ∧ (Slot.all.map Slot.name).Nodup)
      ∧ (∀ id, (theme.slotsUsing id).Nodup ∧ (theme.slotsUsing id).Sublist Slot.all)
      ∧ ∀ slot id, id ≠ theme.icon slot →
          (theme.assign slot id).slotsUsing (theme.icon slot)
              = (theme.slotsUsing (theme.icon slot)).erase slot
            ∧ (∃ before after, theme.slotsUsing id = before ++ after
                ∧ (theme.assign slot id).slotsUsing id = before ++ slot :: after
                ∧ (before ++ slot :: after).Sublist Slot.all)
            ∧ ∀ other, other ≠ id → other ≠ theme.icon slot →
                (theme.assign slot id).slotsUsing other = theme.slotsUsing other := by
  refine ⟨⟨fun slot id => ?_, theme.flatMap_slotsUsing_perm, Slot.nodup_names⟩, fun id => ?_,
    fun slot id h => ?_⟩
  · rw [mem_slotsUsing, eq_comm]
  · exact ⟨theme.nodup_slotsUsing id, theme.slotsUsing_sublist id⟩
  · exact ⟨theme.slotsUsing_assign_icon h, theme.slotsUsing_assign_self h,
      fun _ hid hicon => theme.slotsUsing_assign_of_ne hid hicon⟩

end Theme

end GlyphBook
