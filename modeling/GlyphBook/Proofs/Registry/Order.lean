import GlyphBook.Registry.Basic
import Mathlib.Data.List.FinRange
import Mathlib.Data.List.Sort

/-!
# Identifiers are ordered as they are declared

The keys of a registry are its identifiers from the least to the greatest (`pairwise_keys`), so the
place of an identifier among the keys is the identifier itself (`idxOf_keys`), and whatever is
sorted stands in the order of declaration. A sorted list is determined by how often it holds each
key: it is the keys, each as often as it occurs (`sorted_eq_tally`). The least and the greatest
identifier of a list are the first and the last key that occur in it, because the keys that occur
are sorted too.
-/

namespace GlyphBook

namespace Registry

variable (R : Registry)

/-! ## Places -/

theorem pairwise_keys : R.keys.Pairwise (· < ·) := List.pairwise_lt_finRange _

theorem mem_keys (id : R.Id) : id ∈ R.keys := List.mem_finRange id

theorem idxOf_keys (id : R.Id) : R.keys.idxOf id = id.val := by
  have hlt : id.val < R.keys.length := by
    rw [keys, List.length_finRange]
    exact id.isLt
  have hat : R.keys[id.val] = id := by simp [keys]
  have hnodup : R.keys.Nodup := List.nodup_finRange _
  have hplace := hnodup.idxOf_getElem id.val hlt
  rwa [hat] at hplace

theorem compare_eq_compare_idxOf (a b : R.Id) :
    compare a b = compare (R.keys.idxOf a) (R.keys.idxOf b) := by
  rw [R.idxOf_keys, R.idxOf_keys]
  rfl

/-! ## Sorted lists -/

theorem sorted_perm (ids : List R.Id) : (R.sorted ids).Perm ids := List.mergeSort_perm _ _

theorem pairwise_sorted (ids : List R.Id) : (R.sorted ids).Pairwise (· ≤ ·) :=
  List.pairwise_mergeSort' (· ≤ ·) ids

/-- The keys, each as often as it occurs in the list. -/
def tally (ids : List R.Id) : List R.Id :=
  R.keys.flatMap fun id => List.replicate (ids.count id) id

theorem pairwise_tally (ids : List R.Id) : (R.tally ids).Pairwise (· ≤ ·) := by
  rw [tally, List.pairwise_flatMap]
  refine ⟨fun id _ => List.pairwise_replicate.mpr (Or.inr (le_refl _)), R.pairwise_keys.imp ?_⟩
  intro a b hab x hx y hy
  rw [List.eq_of_mem_replicate hx, List.eq_of_mem_replicate hy]
  exact le_of_lt hab

theorem count_tally (ids : List R.Id) (id : R.Id) : (R.tally ids).count id = ids.count id := by
  obtain ⟨before, after, hkeys⟩ := List.append_of_mem (R.mem_keys id)
  have hnodup : (before ++ id :: after).Nodup := hkeys ▸ List.nodup_finRange _
  -- No other key adds to how often this one occurs.
  have hother (part : List R.Id) (h : id ∉ part) :
      (part.flatMap fun key => List.replicate (ids.count key) key).count id = 0 := by
    rw [List.count_eq_zero, List.mem_flatMap]
    rintro ⟨key, hkey, hmem⟩
    rw [List.eq_of_mem_replicate hmem] at h
    exact h hkey
  have hbefore : id ∉ before := fun h =>
    List.disjoint_of_nodup_append hnodup h (List.mem_cons_self ..)
  have hafter : id ∉ after := (List.nodup_cons.mp (List.nodup_append.mp hnodup).2.1).1
  rw [tally, hkeys, List.flatMap_append, List.flatMap_cons, List.count_append, List.count_append,
    hother before hbefore, hother after hafter, List.count_replicate_self, Nat.add_zero,
    Nat.zero_add]

theorem sorted_eq_tally (ids : List R.Id) : R.sorted ids = R.tally ids := by
  have hperm : (R.sorted ids).Perm (R.tally ids) :=
    (R.sorted_perm ids).trans (List.perm_iff_count.mpr fun id => (R.count_tally ids id).symm)
  exact hperm.eq_of_pairwise' (R.pairwise_sorted ids) (R.pairwise_tally ids)

theorem tally_eq_of_perm {ids ids' : List R.Id} (h : ids'.Perm ids) : R.tally ids' = R.tally ids :=
  List.flatMap_congr fun id _ => by rw [h.count_eq]

/-! ## The least and the greatest -/

/-- Keeping the better of two, from the first member of a list to its last, ends with a member that
no other is better than. -/
theorem foldl_keeps {better : α → α → Prop} [DecidableRel better]
    (hasymm : ∀ a b, better a b → ¬ better b a)
    (htrans : ∀ a b c, ¬ better a b → ¬ better b c → ¬ better a c) (kept : α) (later : List α) :
    (later.foldl (fun kept b => if better b kept then b else kept) kept) ∈ kept :: later
      ∧ ∀ a ∈ kept :: later,
          ¬ better a (later.foldl (fun kept b => if better b kept then b else kept) kept) := by
  induction later generalizing kept with
  | nil =>
      refine ⟨List.mem_singleton_self _, List.forall_mem_singleton.mpr ?_⟩
      exact fun h => hasymm kept kept h h
  | cons b later ih =>
      rw [List.foldl_cons]
      by_cases hb : better b kept
      · rw [if_pos hb]
        obtain ⟨hmem, hbest⟩ := ih b
        refine ⟨List.mem_cons_of_mem _ hmem, List.forall_mem_cons.mpr ⟨?_, hbest⟩⟩
        exact htrans _ _ _ (hasymm b kept hb) (hbest b (List.mem_cons_self ..))
      · rw [if_neg hb]
        obtain ⟨hmem, hbest⟩ := ih kept
        obtain ⟨hkept, hlater⟩ := List.forall_mem_cons.mp hbest
        refine ⟨?_, List.forall_mem_cons.mpr ⟨hkept, List.forall_mem_cons.mpr ⟨?_, hlater⟩⟩⟩
        · exact (List.sublist_cons_self b later).cons_cons kept |>.subset hmem
        · exact htrans _ _ _ hb hkept

theorem first?_cons (id : R.Id) (ids : List R.Id) :
    ∃ least, R.first? (id :: ids) = some least ∧ least ∈ id :: ids
      ∧ ∀ other ∈ id :: ids, least ≤ other := by
  obtain ⟨hmem, hleast⟩ := @foldl_keeps R.Id (fun a b => a < b) _ (fun _ _ => lt_asymm)
    (fun _ _ _ hab hbc => not_lt.mpr ((not_lt.mp hbc).trans (not_lt.mp hab))) id ids
  exact ⟨_, rfl, hmem, fun other hother => not_lt.mp (hleast other hother)⟩

theorem last?_cons (id : R.Id) (ids : List R.Id) :
    ∃ greatest, R.last? (id :: ids) = some greatest ∧ greatest ∈ id :: ids
      ∧ ∀ other ∈ id :: ids, other ≤ greatest := by
  obtain ⟨hmem, hgreatest⟩ := @foldl_keeps R.Id (fun a b => b < a) _ (fun _ _ => lt_asymm)
    (fun _ _ _ hab hbc => not_lt.mpr ((not_lt.mp hab).trans (not_lt.mp hbc))) id ids
  exact ⟨_, rfl, hmem, fun other hother => not_lt.mp (hgreatest other hother)⟩

/-- The keys that occur in the list, in the order of declaration. -/
def occurring (ids : List R.Id) : List R.Id := R.keys.filter (· ∈ ids)

theorem mem_occurring {ids : List R.Id} {id : R.Id} : id ∈ R.occurring ids ↔ id ∈ ids := by
  simp [occurring, R.mem_keys]

theorem pairwise_occurring (ids : List R.Id) : (R.occurring ids).Pairwise (· < ·) :=
  R.pairwise_keys.filter _

theorem occurring_eq_nil_iff {ids : List R.Id} : R.occurring ids = [] ↔ ids = [] := by
  simp only [List.eq_nil_iff_forall_not_mem, R.mem_occurring]

theorem first?_eq_head?_occurring (ids : List R.Id) :
    R.first? ids = (R.occurring ids).head? := by
  cases ids with
  | nil => rw [R.occurring_eq_nil_iff.mpr rfl]; rfl
  | cons id ids =>
      obtain ⟨least, hfirst, hmem, hleast⟩ := R.first?_cons id ids
      cases hkeys : R.occurring (id :: ids) with
      | nil => cases R.occurring_eq_nil_iff.mp hkeys
      | cons key keys =>
          have hsorted : (key :: keys).Pairwise (· < ·) := hkeys ▸ R.pairwise_occurring _
          have hkey : key ∈ id :: ids :=
            R.mem_occurring.mp (hkeys ▸ List.mem_cons_self ..)
          have hle : key ≤ least := by
            rcases List.mem_cons.mp (hkeys ▸ R.mem_occurring.mpr hmem) with rfl | hlater
            · exact le_refl _
            · exact le_of_lt ((List.pairwise_cons.mp hsorted).1 least hlater)
          rw [hfirst, List.head?_cons, le_antisymm hle (hleast key hkey)]

theorem last?_eq_getLast?_occurring (ids : List R.Id) :
    R.last? ids = (R.occurring ids).getLast? := by
  cases ids with
  | nil => rw [R.occurring_eq_nil_iff.mpr rfl]; rfl
  | cons id ids =>
      obtain ⟨greatest, hlast, hmem, hgreatest⟩ := R.last?_cons id ids
      rcases List.eq_nil_or_concat (R.occurring (id :: ids)) with hkeys | ⟨keys, key, hkeys⟩
      · cases R.occurring_eq_nil_iff.mp hkeys
      · rw [List.concat_eq_append] at hkeys
        have hsorted : (keys ++ [key]).Pairwise (· < ·) := hkeys ▸ R.pairwise_occurring _
        have hkey : key ∈ id :: ids :=
          R.mem_occurring.mp (hkeys ▸ List.mem_append_right _ (List.mem_singleton_self _))
        have hle : greatest ≤ key := by
          rcases List.mem_append.mp (hkeys ▸ R.mem_occurring.mpr hmem) with hearlier | hsame
          · exact le_of_lt ((List.pairwise_append.mp hsorted).2.2 greatest hearlier key
              (List.mem_singleton_self _))
          · exact le_of_eq (List.mem_singleton.mp hsame)
        rw [hlast, hkeys, List.getLast?_concat, le_antisymm hle (hgreatest key hkey)]

/-- **The order of identifiers is the order of declaration.** Two identifiers compare as their
places among the keys do. Sorting a list gives the keys, each as often as it occurs there, whatever
order the list had. The least and the greatest identifier of a list are the first and the last key
that occur in it, and a list that is not empty has both. -/
theorem declaration_order (ids : List R.Id) :
    (∀ a b : R.Id, compare a b = compare (R.keys.idxOf a) (R.keys.idxOf b))
      ∧ R.sorted ids = R.keys.flatMap (fun id => List.replicate (ids.count id) id)
      ∧ (∀ ids' : List R.Id, ids'.Perm ids → R.sorted ids' = R.sorted ids)
      ∧ R.first? ids = (R.keys.filter (· ∈ ids)).head?
      ∧ R.last? ids = (R.keys.filter (· ∈ ids)).getLast?
      ∧ (ids ≠ [] → R.keys.filter (· ∈ ids) ≠ []) := by
  refine ⟨R.compare_eq_compare_idxOf, R.sorted_eq_tally ids, fun ids' hperm => ?_, ?_, ?_, ?_⟩
  · rw [R.sorted_eq_tally, R.sorted_eq_tally, R.tally_eq_of_perm hperm]
  · exact R.first?_eq_head?_occurring ids
  · exact R.last?_eq_getLast?_occurring ids
  · exact mt R.occurring_eq_nil_iff.mp

end Registry

end GlyphBook
