import GlyphBook.Proofs.Toml.Assembly
import GlyphBook.Proofs.Toml.Spelling
import Mathlib.Data.List.TakeWhile

/-!
# The forms of TOML keys

A key is written bare or in quotes, and a path as keys with points between them and blanks around
each. The reader of a key stops at the first character that does not continue it, so a form is read
up to what follows it, whatever that is: behind a bare key no key character may stand
(`readKey?_of_keyForm`), and behind a path an equals sign or a closing bracket does
(`readPath?_of_pathForm`).
-/

namespace GlyphBook

namespace Toml

/-! ## Blanks -/

def Blank (b : List Char) : Prop := ∀ c ∈ b, isBlank c = true

theorem blank_nil : Blank [] := fun _ h => (List.not_mem_nil h).elim

theorem blank_space : Blank [' '] := by
  intro c hc
  obtain rfl := List.mem_singleton.mp hc
  decide

theorem skipBlanks_append {b : List Char} (h : Blank b) (cs : List Char) :
    skipBlanks (b ++ cs) = skipBlanks cs :=
  List.dropWhile_append_of_pos h

theorem skipBlanks_cons {c : Char} (h : isBlank c = false) (cs : List Char) :
    skipBlanks (c :: cs) = c :: cs :=
  List.dropWhile_cons_of_neg (by rw [h]; exact Bool.false_ne_true)

theorem skipBlanks_append_cons {b : List Char} (hb : Blank b) {c : Char} (hc : isBlank c = false)
    (cs : List Char) : skipBlanks (b ++ c :: cs) = c :: cs := by
  rw [skipBlanks_append hb, skipBlanks_cons hc]

/-! ## Keys -/

/-- A key: bare, or in quotes. -/
inductive KeyForm : List Char → String → Prop where
  | bare {w : List Char} :
      w ≠ [] → (∀ c ∈ w, isBareKeyChar c = true) → KeyForm w (String.ofList w)
  | quoted {w : List Char} {name : String} : TextForm w name → KeyForm w name

def isKeyStart (c : Char) : Bool := isBareKeyChar c || c = '"' || c = '\x27'

theorem ne_of_isKeyStart {c d : Char} (hc : isKeyStart c = true) (hd : isKeyStart d = false) :
    c ≠ d := by
  rintro rfl
  rw [hc] at hd
  cases hd

theorem isBlank_of_isKeyStart {c : Char} (hc : isKeyStart c = true) : isBlank c = false := by
  have hspace : c ≠ ' ' := ne_of_isKeyStart hc (by decide)
  have htab : c ≠ '\t' := ne_of_isKeyStart hc (by decide)
  simp [isBlank, hspace, htab]

theorem KeyForm.exists_start {w : List Char} {name : String} (h : KeyForm w name) :
    ∃ c w', w = c :: w' ∧ isKeyStart c = true := by
  cases h with
  | bare hne hchars =>
      obtain ⟨c, w', rfl⟩ := List.exists_cons_of_ne_nil hne
      exact ⟨c, w', rfl, by simp [isKeyStart, hchars c (List.mem_cons_self ..)]⟩
  | quoted htext =>
      cases htext with
      | basic _ => exact ⟨_, _, rfl, by decide⟩
      | literal _ => exact ⟨_, _, rfl, by decide⟩

theorem KeyForm.length_pos {w : List Char} {name : String} (h : KeyForm w name) : 0 < w.length := by
  obtain ⟨c, w', rfl, -⟩ := h.exists_start
  exact Nat.succ_pos _

/-- The text does not continue a bare key. -/
def EndsKey (tail : List Char) : Prop := ∀ c ∈ tail.head?, isBareKeyChar c = false

theorem readKeyName?_of_bare {w : List Char} (hne : w ≠ [])
    (hchars : ∀ c ∈ w, isBareKeyChar c = true) {tail : List Char} (htail : EndsKey tail) :
    readKeyName? (w ++ tail) = some (w, tail) := by
  have htake : (w ++ tail).takeWhile isBareKeyChar = w := by
    rw [List.takeWhile_append_of_pos hchars]
    cases tail with
    | nil => simp
    | cons c tail => simp [htail c rfl]
  have hdrop : (w ++ tail).dropWhile isBareKeyChar = tail := by
    rw [List.dropWhile_append_of_pos hchars]
    cases tail with
    | nil => rfl
    | cons c tail => simp [htail c rfl]
  obtain ⟨c, w', rfl⟩ := List.exists_cons_of_ne_nil hne
  have hc := hchars c (List.mem_cons_self ..)
  rw [readKeyName?, htake, hdrop]
  · rintro rest h
    obtain rfl : c = '"' := (List.cons.inj h).1
    cases hc
  · rintro rest h
    obtain rfl : c = '\x27' := (List.cons.inj h).1
    cases hc

/-- **A key is read** up to what does not continue it. -/
theorem readKey?_of_keyForm {w : List Char} {name : String} (h : KeyForm w name)
    {tail : List Char} (htail : EndsKey tail) :
    ∃ extent, readKey? (w ++ tail) = some (⟨name, extent⟩, tail) := by
  rw [readKey?]
  cases h with
  | bare hne hchars => exact ⟨_, by rw [readKeyName?_of_bare hne hchars htail]; rfl⟩
  | quoted htext =>
      cases htext with
      | basic hw =>
          have hread := readBasic?_of_spells hw tail
          rw [List.cons_append, List.append_assoc, List.singleton_append, readKeyName?, hread]
          exact ⟨_, rfl⟩
      | literal hw =>
          have hread := readLiteral?_of_literal hw tail
          rw [List.cons_append, List.append_assoc, List.singleton_append, readKeyName?, hread]
          exact ⟨_, rfl⟩

/-! ## Paths -/

/-- Keys with points between them, from the first key on; blanks may stand behind each token. -/
inductive PathForm : List Char → List String → Prop where
  | last {k b : List Char} {name : String} :
      KeyForm k name → Blank b → PathForm (k ++ b) [name]
  | more {k b b' w : List Char} {name : String} {names : List String} :
      KeyForm k name → Blank b → Blank b' → PathForm w names →
      PathForm (k ++ (b ++ '.' :: (b' ++ w))) (name :: names)

theorem PathForm.exists_start {w : List Char} {names : List String} (h : PathForm w names) :
    ∃ c w', w = c :: w' ∧ isKeyStart c = true := by
  cases h with
  | last hk _ =>
      obtain ⟨c, k', rfl, hc⟩ := hk.exists_start
      exact ⟨c, _, rfl, hc⟩
  | more hk _ _ _ =>
      obtain ⟨c, k', rfl, hc⟩ := hk.exists_start
      exact ⟨c, _, rfl, hc⟩

theorem PathForm.length_le {w : List Char} {names : List String} (h : PathForm w names) :
    names.length ≤ w.length := by
  induction h with
  | last hk _ =>
      have := hk.length_pos
      simp only [List.length_cons, List.length_nil, List.length_append]
      omega
  | more hk _ _ _ ih =>
      have := hk.length_pos
      simp only [List.length_cons, List.length_append]
      omega

theorem endsKey_append_cons {b : List Char} (hb : Blank b) {c : Char}
    (hc : isBareKeyChar c = false) (cs : List Char) : EndsKey (b ++ c :: cs) := by
  intro d hd
  cases b with
  | nil =>
      obtain rfl : c = d := Option.some.inj hd
      exact hc
  | cons e b =>
      obtain rfl : e = d := Option.some.inj hd
      have he := hb e (List.mem_cons_self ..)
      simp only [isBlank, Bool.or_eq_true, decide_eq_true_eq] at he
      rcases he with rfl | rfl
      · decide
      · decide

theorem readKeys?_append {b : List Char} (hb : Blank b) (fuel : Nat) (cs : List Char) :
    readKeys? fuel (b ++ cs) = readKeys? fuel cs := by
  cases fuel with
  | zero => rfl
  | succ fuel => rw [readKeys?, readKeys?, skipBlanks_append hb]

/-- A key that no point follows is the last one of its path. -/
theorem readKeys?_last {k tail rest : List Char} {name : String} (hk : KeyForm k name)
    (htail : EndsKey tail) {c : Char} (hc : c ≠ '.') (hrest : skipBlanks tail = c :: rest)
    (fuel : Nat) :
    ∃ key, readKeys? (fuel + 1) (k ++ tail) = some (⟨[], key⟩, c :: rest) ∧ key.name = name := by
  obtain ⟨extent, hread⟩ := readKey?_of_keyForm hk htail
  obtain ⟨d, k', rfl, hd⟩ := hk.exists_start
  refine ⟨⟨name, extent⟩, ?_, rfl⟩
  rw [List.cons_append] at hread ⊢
  rw [readKeys?, skipBlanks_cons (isBlank_of_isKeyStart hd), hread]
  simp only [hrest]
  split
  · next hdot => exact absurd (List.cons.inj hdot).1 hc
  · rfl

/-- Behind a key and a point the path goes on. -/
theorem readKeys?_more {k tail rest : List Char} {name : String} (hk : KeyForm k name)
    (htail : EndsKey tail) (hrest : skipBlanks tail = '.' :: rest) (fuel : Nat) :
    ∃ key, readKeys? (fuel + 1) (k ++ tail)
        = (readKeys? fuel rest).map (fun (path, after) => (path.cons key, after))
      ∧ key.name = name := by
  obtain ⟨extent, hread⟩ := readKey?_of_keyForm hk htail
  obtain ⟨d, k', rfl, hd⟩ := hk.exists_start
  refine ⟨⟨name, extent⟩, ?_, rfl⟩
  rw [List.cons_append] at hread ⊢
  rw [readKeys?, skipBlanks_cons (isBlank_of_isKeyStart hd), hread]
  simp only [hrest]

/-- A path is read up to an equals sign or a closing bracket. -/
theorem readKeys?_of_pathForm {w : List Char} {names : List String} (h : PathForm w names)
    {c : Char} (hc : c = '=' ∨ c = ']') (rest : List Char) {fuel : Nat}
    (hfuel : names.length ≤ fuel) :
    ∃ path, readKeys? fuel (w ++ c :: rest) = some (path, c :: rest) ∧ path.names = names := by
  -- Each key takes one unit of fuel, the last one too.
  induction h generalizing fuel with
  | @last k b name hk hb =>
      obtain ⟨fuel, rfl⟩ := Nat.exists_eq_add_of_lt hfuel
      have hkey : isBareKeyChar c = false := by rcases hc with rfl | rfl <;> decide
      have hblank : isBlank c = false := by rcases hc with rfl | rfl <;> decide
      have hdot : c ≠ '.' := by rcases hc with rfl | rfl <;> decide
      obtain ⟨key, hread, rfl⟩ := readKeys?_last hk (endsKey_append_cons hb hkey rest) hdot
        (skipBlanks_append_cons hb hblank rest) (0 + fuel)
      rw [List.append_assoc]
      exact ⟨_, hread, rfl⟩
  | @more k b b' w name names hk hb hb' _ ih =>
      obtain ⟨fuel, rfl⟩ := Nat.exists_eq_add_of_le' hfuel
      have hlater : names.length ≤ fuel + names.length := Nat.le_add_left ..
      obtain ⟨path, hpath, rfl⟩ := ih hlater
      obtain ⟨key, hread, rfl⟩ := readKeys?_more hk
        (endsKey_append_cons hb (by decide) (b' ++ (w ++ c :: rest)))
        (skipBlanks_append_cons hb (by decide) _) (fuel + path.names.length)
      refine ⟨path.cons key, ?_, rfl⟩
      rw [readKeys?_append hb', hpath] at hread
      simp only [List.append_assoc, List.cons_append]
      exact hread

/-- **A path is read** behind blanks, if it is not too long. -/
theorem readPath?_of_pathForm {b w : List Char} {names : List String} (hb : Blank b)
    (h : PathForm w names) (hsize : names.length < nestingLimit) {c : Char}
    (hc : c = '=' ∨ c = ']') (rest : List Char) :
    ∃ path, readPath? (b ++ (w ++ c :: rest)) = some (path, c :: rest) ∧ path.names = names := by
  have hfuel : names.length ≤ (b ++ (w ++ c :: rest)).length := by
    have := h.length_le
    simp only [List.length_append]
    omega
  obtain ⟨path, hread, rfl⟩ := readKeys?_of_pathForm h hc rest hfuel
  have hpath : path.size < nestingLimit := by
    simpa [Path.names, Path.keys, Path.size] using hsize
  refine ⟨path, ?_, rfl⟩
  rw [readPath?, readKeys?_append hb, hread]
  exact if_pos hpath

end Toml

end GlyphBook
