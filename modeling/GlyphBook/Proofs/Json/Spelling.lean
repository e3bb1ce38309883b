import GlyphBook.Json.Text
import Mathlib.Tactic.SplitIfs

/-!
# The spellings of a JSON string

A string can be written in many ways: most characters stand for themselves or behind a short
escape, every character of sixteen bits can be given by its code unit, and the others by a pair of
surrogates. `Spells` is that relation between what stands between two quotes and what it means,
and the reader decides it (`readText?_eq_some_iff`).

The reader works in two phases, so the relation is met half-way by `Scans`, the spelling of a list
of pieces in which code units are not joined yet. What the writer puts between quotes is one of the
spellings (`spells_escapeAll`), so reading undoes writing for every text.
-/

namespace GlyphBook

namespace Json

/-- One half of a surrogate pair. -/
def IsSurrogate (n : Nat) : Prop := isHighSurrogate n = true ∨ isLowSurrogate n = true

/-- `Spells w cs`: between quotes, `w` is a way to write the characters `cs`. -/
inductive Spells : List Char → List Char → Prop where
  | nil : Spells [] []
  | plain {c : Char} {w cs : List Char} :
      c ≠ '"' → c ≠ '\\' → 0x20 ≤ c.toNat → Spells w cs → Spells (c :: w) (c :: cs)
  | short {e c : Char} {w cs : List Char} :
      shortEscape? e = some c → Spells w cs → Spells ('\\' :: e :: w) (c :: cs)
  | unit {p q r s : Char} {n : Nat} {w cs : List Char} :
      Hex.number? [p, q, r, s] = some n → ¬ IsSurrogate n → Spells w cs →
      Spells ('\\' :: 'u' :: p :: q :: r :: s :: w) (Char.ofNat n :: cs)
  | pair {p q r s p' q' r' s' : Char} {n m : Nat} {w cs : List Char} :
      Hex.number? [p, q, r, s] = some n → Hex.number? [p', q', r', s'] = some m →
      isHighSurrogate n = true → isLowSurrogate m = true → Spells w cs →
      Spells ('\\' :: 'u' :: p :: q :: r :: s :: '\\' :: 'u' :: p' :: q' :: r' :: s' :: w)
        (joinSurrogates n m :: cs)

/-! ## Pieces -/

/-- `Scans w ps`: between quotes, `w` is a way to write the pieces `ps`. -/
inductive Scans : List Char → List Piece → Prop where
  | nil : Scans [] []
  | plain {c : Char} {w : List Char} {ps : List Piece} :
      c ≠ '"' → c ≠ '\\' → 0x20 ≤ c.toNat → Scans w ps → Scans (c :: w) (.plain c :: ps)
  | short {e c : Char} {w : List Char} {ps : List Piece} :
      shortEscape? e = some c → Scans w ps → Scans ('\\' :: e :: w) (.plain c :: ps)
  | unit {p q r s : Char} {n : Nat} {w : List Char} {ps : List Piece} :
      Hex.number? [p, q, r, s] = some n → Scans w ps →
      Scans ('\\' :: 'u' :: p :: q :: r :: s :: w) (.unit n :: ps)

theorem scanText?_of_scans {w : List Char} {ps : List Piece} (h : Scans w ps) (rest : List Char) :
    scanText? (w ++ '"' :: rest) = some (ps, rest) := by
  induction h with
  | nil => simp [scanText?]
  | @plain c w ps hq hb hc _ ih =>
      have hlow : ¬ (c = '\\' ∨ c.toNat < 0x20) := by
        rintro (h | h)
        · exact hb h
        · omega
      rw [List.cons_append, scanText?, if_neg hlow, ih]
      · rfl
      all_goals simp_all
  | @short e c w ps he _ ih =>
      have hu : e ≠ 'u' := by
        rintro rfl
        simp [shortEscape?] at he
      rw [List.cons_append, List.cons_append, scanText?, he, ih]
      · rfl
      · simp_all
  | unit hn _ ih => simp [scanText?, hn, ih]

theorem scans_of_scanText? {text rest : List Char} {ps : List Piece}
    (h : scanText? text = some (ps, rest)) : ∃ w, text = w ++ '"' :: rest ∧ Scans w ps := by
  fun_induction scanText? text generalizing ps rest with
  | case1 => cases h
  | case2 rest' =>
      obtain ⟨rfl, rfl⟩ := Prod.mk.inj (Option.some.inj h)
      exact ⟨[], rfl, .nil⟩
  | case3 p q r s rest' ih =>
      simp only [Option.bind_eq_bind, Option.bind_eq_some_iff, Prod.exists, Option.pure_def,
        Option.some.injEq, Prod.mk.injEq] at h
      obtain ⟨n, hn, ps', after, hps, rfl, rfl⟩ := h
      obtain ⟨w, rfl, hw⟩ := ih hps
      exact ⟨_, rfl, .unit hn hw⟩
  | case4 e rest' _ ih =>
      simp only [Option.bind_eq_bind, Option.bind_eq_some_iff, Prod.exists, Option.pure_def,
        Option.some.injEq, Prod.mk.injEq] at h
      obtain ⟨c, hc, ps', after, hps, rfl, rfl⟩ := h
      obtain ⟨w, rfl, hw⟩ := ih hps
      exact ⟨_, rfl, .short hc hw⟩
  | case5 => cases h
  | case6 c rest' hquote _ _ hlow ih =>
      simp only [Option.bind_eq_bind, Option.bind_eq_some_iff, Prod.exists, Option.pure_def,
        Option.some.injEq, Prod.mk.injEq] at h
      obtain ⟨ps', after, hps, rfl, rfl⟩ := h
      obtain ⟨w, rfl, hw⟩ := ih hps
      obtain ⟨hb, hc⟩ := not_or.mp hlow
      exact ⟨_, rfl, .plain (fun hq => hquote hq) hb (Nat.le_of_not_lt hc) hw⟩

/-! ## Joining the pieces -/

theorem joinPieces?_unit {n : Nat} (h : ¬ IsSurrogate n) (ps : List Piece) :
    joinPieces? (.unit n :: ps) = (joinPieces? ps).map (Char.ofNat n :: ·) := by
  obtain ⟨hhigh, hlow⟩ := not_or.mp h
  cases ps with
  | nil => simp [joinPieces?, hhigh, hlow]
  | cons p ps =>
      cases p with
      | plain c => simp [joinPieces?, hhigh, hlow]
      | unit m => simp [joinPieces?, hhigh, hlow]

/-- A spelling is scanned into pieces that join to what it spells. -/
theorem scans_of_spells {w cs : List Char} (h : Spells w cs) :
    ∃ ps, Scans w ps ∧ joinPieces? ps = some cs := by
  induction h with
  | nil => exact ⟨[], .nil, rfl⟩
  | plain hq hb hc _ ih =>
      obtain ⟨ps, hps, hjoin⟩ := ih
      exact ⟨_, .plain hq hb hc hps, by simp [joinPieces?, hjoin]⟩
  | short he _ ih =>
      obtain ⟨ps, hps, hjoin⟩ := ih
      exact ⟨_, .short he hps, by simp [joinPieces?, hjoin]⟩
  | unit hn hsurrogate _ ih =>
      obtain ⟨ps, hps, hjoin⟩ := ih
      exact ⟨_, .unit hn hps, by rw [joinPieces?_unit hsurrogate, hjoin]; rfl⟩
  | pair hn hm hhigh hlow _ ih =>
      obtain ⟨ps, hps, hjoin⟩ := ih
      exact ⟨_, .unit hn (.unit hm hps), by simp [joinPieces?, hhigh, hlow, hjoin]⟩

/-- Pieces that can be joined were spelled as what they join to. -/
theorem spells_of_scans {ps : List Piece} {w cs : List Char} (hw : Scans w ps)
    (hjoin : joinPieces? ps = some cs) : Spells w cs := by
  fun_induction joinPieces? ps generalizing w cs with
  | case1 =>
      obtain rfl := Option.some.inj hjoin
      cases hw
      exact .nil
  | case2 c ps ih =>
      obtain ⟨cs', hcs, rfl⟩ := Option.map_eq_some_iff.mp hjoin
      cases hw with
      | plain hq hb hc hw => exact .plain hq hb hc (ih hw hcs)
      | short he hw => exact .short he (ih hw hcs)
  | case3 n m ps hhigh hlow ih =>
      obtain ⟨cs', hcs, rfl⟩ := Option.map_eq_some_iff.mp hjoin
      cases hw with
      | unit hn hw =>
          cases hw with
          | unit hm hw => exact .pair hn hm hhigh hlow (ih hw hcs)
  | case4 => cases hjoin
  | case5 => cases hjoin
  | case6 n m ps hhigh hlow ih =>
      obtain ⟨cs', hcs, rfl⟩ := Option.map_eq_some_iff.mp hjoin
      cases hw with
      | unit hn hw => exact .unit hn (not_or.mpr ⟨hhigh, hlow⟩) (ih hw hcs)
  | case7 => cases hjoin
  | case8 n ps _ hsurrogate ih =>
      obtain ⟨cs', hcs, rfl⟩ := Option.map_eq_some_iff.mp hjoin
      rw [Bool.or_eq_true] at hsurrogate
      cases hw with
      | unit hn hw => exact .unit hn hsurrogate (ih hw hcs)

/-- **The reader decides the spelling relation**: it reads a string up to its first quote, and
gives what is spelled there. -/
theorem readText?_eq_some_iff {text cs rest : List Char} :
    readText? text = some (cs, rest) ↔ ∃ w, text = w ++ '"' :: rest ∧ Spells w cs := by
  simp only [readText?, Option.bind_eq_bind, Option.bind_eq_some_iff, Prod.exists, Option.pure_def,
    Option.some.injEq, Prod.mk.injEq]
  constructor
  · rintro ⟨ps, after, hscan, cs', hjoin, rfl, rfl⟩
    obtain ⟨w, rfl, hw⟩ := scans_of_scanText? hscan
    exact ⟨w, rfl, spells_of_scans hw hjoin⟩
  · rintro ⟨w, rfl, hw⟩
    obtain ⟨ps, hps, hjoin⟩ := scans_of_spells hw
    exact ⟨ps, rest, scanText?_of_scans hps rest, cs, hjoin, rfl, rfl⟩

/-! ## The writer's spelling -/

/-- The digits of a control character are read back as its code point. -/
theorem number?_controlDigits : ∀ n < 0x20,
    Hex.number? ('0' :: '0' :: controlDigits n) = some n := by
  decide

/-- A character is written in one of its spellings. -/
theorem spells_escape (c : Char) {w cs : List Char} (h : Spells w cs) :
    Spells (escape c ++ w) (c :: cs) := by
  unfold escape
  split_ifs with hq hb hbs hff hlf hcr htab hlow
  · exact .short (e := '"') (by rw [hq]; rfl) h
  · exact .short (e := '\\') (by rw [hb]; rfl) h
  · exact .short (e := 'b') (by rw [hbs]; rfl) h
  · exact .short (e := 'f') (by rw [hff]; rfl) h
  · exact .short (e := 'n') (by rw [hlf]; rfl) h
  · exact .short (e := 'r') (by rw [hcr]; rfl) h
  · exact .short (e := 't') (by rw [htab]; rfl) h
  · have hsurrogate : ¬ IsSurrogate c.toNat := by
      simp only [IsSurrogate, isHighSurrogate, isLowSurrogate, Bool.and_eq_true, decide_eq_true_eq]
      omega
    have hunit := Spells.unit (number?_controlDigits c.toNat hlow) hsurrogate h
    rwa [Char.ofNat_toNat] at hunit
  · exact .plain hq hb (Nat.le_of_not_lt hlow) h

theorem spells_escapeAll : ∀ cs : List Char, Spells (escapeAll cs) cs
  | [] => .nil
  | c :: cs => spells_escape c (spells_escapeAll cs)

end Json

end GlyphBook
