import GlyphBook.Json.Icons
import Mathlib.Data.List.Induction
import Mathlib.Data.List.Sort
import Mathlib.Data.String.Basic

/-!
# Tables from the members of a text

A table is held in the order of its keys. It is built from the members of a text one after the
other (`tableOf`), and `mem_bind` says what one more member changes. From that one step, by
induction over the members from the last one back, the table binds every key that occurs to the
value of its last occurrence (`mem_tableOf_iff`). These two facts and the order determine the table
(`isTable_iff`).
-/

namespace GlyphBook

namespace Registry

/-- The keys of a table stand in their order, each of them once. -/
def SortedKeys (table : List (String × α)) : Prop := table.Pairwise fun a b => a.1 < b.1

/-- The last of the members with this key has this value. -/
def LastBinding (members : List (String × α)) (key : String) (v : α) : Prop :=
  ∃ before after, members = before ++ (key, v) :: after ∧ ∀ m ∈ after, m.1 ≠ key

/-- A table in key order that binds each key of the members to the value of its last occurrence. -/
def IsTable (members table : List (String × α)) : Prop :=
  SortedKeys table ∧ ∀ key v, (key, v) ∈ table ↔ LastBinding members key v

/-! ## One more member -/

theorem sortedKeys_cons {m : String × α} {table : List (String × α)} :
    SortedKeys (m :: table) ↔ (∀ m' ∈ table, m.1 < m'.1) ∧ SortedKeys table :=
  List.pairwise_cons

theorem mem_bind {R : Registry} {key : String} {id : R.Id} {m : String × R.Id} :
    ∀ {table : List (String × R.Id)}, SortedKeys table →
      (m ∈ R.bind key id table ↔ m = (key, id) ∨ m ∈ table ∧ m.1 ≠ key)
  | [], _ => by simp [bind]
  | (k, v) :: rest, hsorted => by
      obtain ⟨hfirst, hrest⟩ := sortedKeys_cons.mp hsorted
      rw [bind]
      split
      · next hlt =>
          have hne (h : m ∈ (k, v) :: rest) : m.1 ≠ key := by
            rcases List.mem_cons.mp h with rfl | h
            · exact ne_of_gt hlt
            · exact ne_of_gt (hlt.trans (hfirst m h))
          rw [List.mem_cons]
          exact or_congr_right ⟨fun h => ⟨h, hne h⟩, And.left⟩
      · split
        · next heq =>
            subst heq
            have hne (h : m ∈ rest) : m.1 ≠ key := ne_of_gt (hfirst m h)
            rw [List.mem_cons, List.mem_cons]
            refine or_congr_right ⟨fun h => ⟨Or.inr h, hne h⟩, ?_⟩
            rintro ⟨rfl | h, hm⟩
            · exact absurd rfl hm
            · exact h
        · next heq =>
            rw [List.mem_cons, List.mem_cons, mem_bind hrest]
            constructor
            · rintro (rfl | rfl | ⟨h, hm⟩)
              · exact Or.inr ⟨Or.inl rfl, fun h => heq h.symm⟩
              · exact Or.inl rfl
              · exact Or.inr ⟨Or.inr h, hm⟩
            · rintro (rfl | ⟨rfl | h, hm⟩)
              · exact Or.inr (Or.inl rfl)
              · exact Or.inl rfl
              · exact Or.inr (Or.inr ⟨h, hm⟩)

theorem sortedKeys_bind {R : Registry} {key : String} {id : R.Id} :
    ∀ {table : List (String × R.Id)}, SortedKeys table → SortedKeys (R.bind key id table)
  | [], _ => List.pairwise_singleton ..
  | (k, v) :: rest, hsorted => by
      obtain ⟨hfirst, hrest⟩ := sortedKeys_cons.mp hsorted
      rw [bind]
      split
      · next hlt =>
          refine sortedKeys_cons.mpr ⟨fun m h => ?_, hsorted⟩
          rcases List.mem_cons.mp h with rfl | h
          · exact hlt
          · exact hlt.trans (hfirst m h)
      · split
        · next heq => exact sortedKeys_cons.mpr ⟨fun m h => heq ▸ hfirst m h, hrest⟩
        · next hlt heq =>
            have hgt : k < key := lt_of_le_of_ne (not_lt.mp hlt) fun h => heq h.symm
            refine sortedKeys_cons.mpr ⟨fun m h => ?_, sortedKeys_bind hrest⟩
            rcases (mem_bind hrest).mp h with rfl | ⟨h, -⟩
            · exact hgt
            · exact hfirst m h

/-! ## All members -/

theorem tableOf_concat (R : Registry) (members : List (String × R.Id)) (m : String × R.Id) :
    R.tableOf (members ++ [m]) = R.bind m.1 m.2 (R.tableOf members) := by
  simp [tableOf, List.foldl_append]

theorem lastBinding_concat {members : List (String × α)} {m : String × α} {key : String} {v : α} :
    LastBinding (members ++ [m]) key v ↔ (key, v) = m ∨ LastBinding members key v ∧ key ≠ m.1 := by
  constructor
  · rintro ⟨before, after, heq, hafter⟩
    rcases List.eq_nil_or_concat after with rfl | ⟨after, last, rfl⟩
    · exact Or.inl (List.singleton_inj.mp (List.append_inj' heq rfl).2).symm
    · rw [List.concat_eq_append] at hafter heq
      have heq' : members ++ [m] = (before ++ (key, v) :: after) ++ [last] := by simpa using heq
      obtain ⟨hmembers, hlast⟩ := List.append_inj' heq' rfl
      obtain rfl := List.singleton_inj.mp hlast
      refine Or.inr ⟨⟨before, after, hmembers, fun m' h => hafter m' ?_⟩, (hafter m ?_).symm⟩
      · exact List.mem_append_left _ h
      · exact List.mem_append_right _ (List.mem_singleton_self m)
  · rintro (rfl | ⟨⟨before, after, rfl, hafter⟩, hne⟩)
    · exact ⟨members, [], rfl, fun _ h => (List.not_mem_nil h).elim⟩
    · refine ⟨before, after ++ [m], by simp, fun m' h => ?_⟩
      rcases List.mem_append.mp h with h | h
      · exact hafter m' h
      · rw [List.mem_singleton.mp h]
        exact hne.symm

theorem sortedKeys_tableOf (R : Registry) (members : List (String × R.Id)) :
    SortedKeys (R.tableOf members) := by
  induction members using List.reverseRecOn with
  | nil => exact List.Pairwise.nil
  | append_singleton members m ih =>
      rw [tableOf_concat]
      exact sortedKeys_bind ih

theorem mem_tableOf_iff (R : Registry) (members : List (String × R.Id)) {key : String} {id : R.Id} :
    (key, id) ∈ R.tableOf members ↔ LastBinding members key id := by
  induction members using List.reverseRecOn with
  | nil => simp [tableOf, LastBinding]
  | append_singleton members m ih =>
      rw [tableOf_concat, mem_bind (sortedKeys_tableOf R members), lastBinding_concat, ih]

theorem isTable_tableOf (R : Registry) (members : List (String × R.Id)) :
    IsTable members (R.tableOf members) :=
  ⟨sortedKeys_tableOf R members, fun _ _ => mem_tableOf_iff R members⟩

/-- In key order a table is determined by what it binds. -/
theorem eq_of_sortedKeys {table table' : List (String × α)} (h : SortedKeys table)
    (h' : SortedKeys table') (hmem : ∀ key v, (key, v) ∈ table ↔ (key, v) ∈ table') :
    table = table' := by
  have : Std.Irrefl fun a b : String × α => a.1 < b.1 := ⟨fun a => lt_irrefl a.1⟩
  have : Std.Antisymm fun a b : String × α => a.1 < b.1 :=
    ⟨fun a b hab hba => absurd hab (lt_asymm hba)⟩
  exact List.Pairwise.eq_of_mem_iff h h' fun m => hmem m.1 m.2

theorem isTable_iff {R : Registry} {members table : List (String × R.Id)} :
    IsTable members table ↔ table = R.tableOf members := by
  constructor
  · rintro ⟨hsorted, hmem⟩
    refine eq_of_sortedKeys hsorted (sortedKeys_tableOf R members) fun key id => ?_
    rw [hmem, mem_tableOf_iff]
  · rintro rfl
    exact isTable_tableOf R members

/-- A table in key order is its own table: each key occurs in it once. -/
theorem isTable_self {table : List (String × α)} (h : SortedKeys table) : IsTable table table := by
  refine ⟨h, fun key v => ⟨fun hmem => ?_, ?_⟩⟩
  · obtain ⟨before, after, rfl⟩ := List.append_of_mem hmem
    obtain ⟨-, hrest, -⟩ := List.pairwise_append.mp h
    exact ⟨before, after, rfl, fun m hm => ne_of_gt ((sortedKeys_cons.mp hrest).1 m hm)⟩
  · rintro ⟨before, after, rfl, -⟩
    exact List.mem_append_right _ List.mem_cons_self

end Registry

end GlyphBook
