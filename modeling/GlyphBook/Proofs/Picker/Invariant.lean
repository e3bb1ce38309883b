import GlyphBook.Picker.History
import GlyphBook.Picker.Walk
import GlyphBook.Proofs.Terminal.Painting

/-!
# The two copies of the highlight agree

A picker knows the place of the highlight twice: for itself and for its list. Three parties write
it, the start, the keys and the settling of the list when it is drawn, and keys that end the picker
write nothing. `Sound` is what holds at every moment between them: the place is one of the list and
both copies are the same. What a key can do is said once (`act_cases`); that one happening keeps a
picker sound (`sound_after`), and hence any history (`sound_afterAll`), follows from it.
-/

namespace GlyphBook

/-! ## Settling a list -/

namespace ListView

theorem settle_of_isEmpty {view : ListView} {count : Nat} {room : Rect} (h : room.isEmpty = true) :
    view.settle count room = view := by
  rw [settle, if_pos h]

/-- A selected entry of the list stays selected, and the list scrolls to it. -/
theorem settle_of_lt {view : ListView} {count s : Nat} {room : Rect} (hroom : room.isEmpty = false)
    (hview : view.selection? = some s) (hs : s < count) :
    view.settle count room = ⟨some s, scroll (min view.offset (count - 1)) room.height s⟩ := by
  have hcount : count ≠ 0 := by omega
  have hmin : min s (count - 1) = s := by omega
  have hfollow : follow (min view.offset (count - 1)) room.height count s
      = scroll (min view.offset (count - 1)) room.height s :=
    follow_eq_scroll (Rect.isEmpty_eq_false_iff.mp hroom).2 (by omega) hs
  simp [settle, hroom, hcount, hview, hmin, hfollow]

/-- Drawing never moves the selection away from an entry of the list. -/
theorem selection?_settle {view : ListView} {count s : Nat} (room : Rect)
    (hview : view.selection? = some s) (hs : s < count) :
    (view.settle count room).selection? = some s := by
  cases hroom : room.isEmpty with
  | true => rw [settle_of_isEmpty hroom, hview]
  | false => rw [settle_of_lt hroom hview hs]

end ListView

namespace Picker

/-! ## One action -/

/-- Everything a key can do: choose the highlighted icon or give up and leave the picker as it was,
or go on with the highlight where a walk along the list has moved it. -/
theorem act_cases {p : Picker} (h : p.selected < p.keys.length) (action : Action) :
    (action = .select ∧ p.act action = (.chosen p.keys[p.selected], p))
      ∨ (action = .quit ∧ p.act action = (.cancelled, p))
      ∨ (action ≠ .select ∧ action ≠ .quit
        ∧ p.act action = (.proceed, p.moveTo (Walk.move p.keys.length p.selected action))) := by
  cases action with
  | select =>
      have hid : p.selectedId? = some p.keys[p.selected] := List.getElem?_eq_getElem h
      exact Or.inl ⟨rfl, by rw [act, hid]⟩
  | quit => exact Or.inr (Or.inl ⟨rfl, rfl⟩)
  | down =>
      have hplace : (if p.selected + 1 < p.keys.length then p.selected + 1 else p.selected)
          = min (p.selected + 1) (p.keys.length - 1) := by
        split <;> omega
      exact Or.inr (Or.inr ⟨by simp, by simp, by rw [act, Walk.move, ← hplace]⟩)
  | up => exact Or.inr (Or.inr ⟨by simp, by simp, rfl⟩)
  | top => exact Or.inr (Or.inr ⟨by simp, by simp, rfl⟩)
  | bottom => exact Or.inr (Or.inr ⟨by simp, by simp, rfl⟩)
  | ignore => exact Or.inr (Or.inr ⟨by simp, by simp, rfl⟩)

/-! ## The invariant -/

/-- A picker for all icons with the highlight on one of them, which its list knows as well. -/
structure Sound (theme : Theme) (p : Picker) : Prop where
  theme_eq : p.theme = theme
  keys_eq : p.keys = icons.keys
  selected_lt : p.selected < p.keys.length
  selection_eq : p.view.selection? = some p.selected

theorem keys_length_pos : 0 < icons.keys.length := by decide

theorem sound_start (theme : Theme) : Sound theme (start theme) where
  theme_eq := rfl
  keys_eq := rfl
  selected_lt := keys_length_pos
  selection_eq := rfl

theorem sound_moveTo {theme : Theme} {p : Picker} (h : Sound theme p) {place : Nat}
    (hplace : place < p.keys.length) : Sound theme (p.moveTo place) where
  theme_eq := h.theme_eq
  keys_eq := h.keys_eq
  selected_lt := hplace
  selection_eq := rfl

theorem sound_press {theme : Theme} {p : Picker} (h : Sound theme p) (key : Key) :
    Sound theme (p.press key).2 := by
  rw [press]
  rcases act_cases h.selected_lt (Action.ofKey key) with
    ⟨-, hact⟩ | ⟨-, hact⟩ | ⟨-, -, hact⟩
  · rwa [hact]
  · rwa [hact]
  · rw [hact]
    exact sound_moveTo h (Walk.move_lt h.selected_lt _)

theorem sound_settled {theme : Theme} {p : Picker} (h : Sound theme p) (area : Rect) :
    Sound theme (p.settled area) where
  theme_eq := h.theme_eq
  keys_eq := h.keys_eq
  selected_lt := h.selected_lt
  selection_eq := ListView.selection?_settle _ h.selection_eq h.selected_lt

theorem sound_after {theme : Theme} {p : Picker} (h : Sound theme p) (happening : Happening) :
    Sound theme (p.after happening) := by
  cases happening with
  | key key => exact sound_press h key
  | draw area => exact sound_settled h area

/-- A sound picker is sound after any history. -/
theorem sound_afterAll {theme : Theme} : ∀ {p : Picker}, Sound theme p →
    ∀ history : List Happening, Sound theme (p.afterAll history)
  | _, h, [] => h
  | _, h, happening :: history => sound_afterAll (sound_after h happening) history

/-! ## Presses that end the picker -/

/-- A press of which the picker does not go on leaves it as it was. -/
theorem press_of_ne_proceed {p : Picker} (h : p.selected < p.keys.length) {key : Key}
    (hpress : (p.press key).1 ≠ .proceed) : (p.press key).2 = p := by
  rw [press] at hpress ⊢
  rcases act_cases h (Action.ofKey key) with ⟨-, hact⟩ | ⟨-, hact⟩ | ⟨-, -, hact⟩
  · rw [hact]
  · rw [hact]
  · rw [hact] at hpress
    exact absurd rfl hpress

/-- What is chosen is the highlighted icon. -/
theorem press_chosen {p : Picker} (h : p.selected < p.keys.length) {key : Key} {id : IconId}
    (hpress : (p.press key).1 = .chosen id) : id = p.keys[p.selected] := by
  rw [press] at hpress
  rcases act_cases h (Action.ofKey key) with ⟨-, hact⟩ | ⟨-, hact⟩ | ⟨-, -, hact⟩
  · rw [hact] at hpress
    exact (Outcome.chosen.inj hpress).symm
  · rw [hact] at hpress
    cases hpress
  · rw [hact] at hpress
    cases hpress

theorem ofKey_of_enter {key : Key} (h : key.code = .enter) : Action.ofKey key = .select := by
  simp [Action.ofKey, h]

theorem press_enter {p : Picker} (h : p.selected < p.keys.length) {key : Key}
    (hkey : key.code = .enter) : p.press key = (.chosen p.keys[p.selected], p) := by
  rw [press, ofKey_of_enter hkey]
  rcases act_cases h .select with ⟨-, hact⟩ | ⟨hquit, -⟩ | ⟨hne, -, -⟩
  · exact hact
  · cases hquit
  · exact absurd rfl hne

end Picker

end GlyphBook
