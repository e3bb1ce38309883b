import GlyphBook.Json.Reader
import GlyphBook.Proofs.Json.Spelling
import Mathlib.Data.List.TakeWhile

/-!
# The forms of JSON values

A form of a value is a text that means it, from its first character to its last: a string in any
spelling, `null`, or values in brackets with commas between them and blanks anywhere. Each reader
decides a relation of forms (`Reads`): behind blanks it accepts the forms of a value and nothing
else, and it leaves what follows them.

Lists and tables are read by two loops that differ in the closing bracket and in what an item is.
Both loops are shown to take the same steps (`ItemsStep`), and what a run of such steps accepts is
proved once (`items_iff_of_step`).
-/

namespace GlyphBook

namespace Json

/-! ## Blanks -/

def Blank (b : List Char) : Prop := ∀ c ∈ b, isBlank c = true

theorem blank_nil : Blank [] := fun _ h => (List.not_mem_nil h).elim

theorem skipBlanks_append {b : List Char} (h : Blank b) (cs : List Char) :
    skipBlanks (b ++ cs) = skipBlanks cs :=
  List.dropWhile_append_of_pos h

theorem skipBlanks_cons {c : Char} (h : isBlank c = false) (cs : List Char) :
    skipBlanks (c :: cs) = c :: cs :=
  List.dropWhile_cons_of_neg (by rw [h]; exact Bool.false_ne_true)

theorem exists_blank_append (cs : List Char) : ∃ b, Blank b ∧ cs = b ++ skipBlanks cs :=
  ⟨cs.takeWhile isBlank, fun _ h => List.mem_takeWhile_imp h, List.takeWhile_append_dropWhile.symm⟩

theorem skipBlanks_eq_nil_iff {cs : List Char} : skipBlanks cs = [] ↔ Blank cs :=
  List.dropWhile_eq_nil_iff

/-- What is found behind the blanks, with the blanks put back. -/
theorem skipBlanks_eq_cons {cs rest : List Char} {c : Char} (h : skipBlanks cs = c :: rest) :
    ∃ b, Blank b ∧ cs = b ++ c :: rest := by
  obtain ⟨b, hb, hcs⟩ := exists_blank_append cs
  exact ⟨b, hb, by rw [← h]; exact hcs⟩

/-! ## Forms and readers -/

/-- The reader accepts the forms of each value, with blanks in front of them, and nothing else. -/
def Reads (reader : Reader α) (form : List Char → α → Prop) : Prop :=
  ∀ text v rest, reader text = .ok (v, rest) ↔
    ∃ b w, Blank b ∧ form w v ∧ text = b ++ (w ++ rest)

/-- A whole text that means a value: one of its forms with blanks around it. -/
def Denotes (form : List Char → α → Prop) (text : String) (v : α) : Prop :=
  ∃ b w b', Blank b ∧ form w v ∧ Blank b' ∧ text.toList = b ++ (w ++ b')

theorem readAll_eq_ok_iff {reader : Reader α} {form : List Char → α → Prop}
    (hreader : Reads reader form) {text : String} {v : α} :
    readAll reader text = .ok v ↔ Denotes form text v := by
  have hsteps : readAll reader text = .ok v ↔
      ∃ rest, reader text.toList = .ok (v, rest) ∧ skipBlanks rest = [] := by
    rw [readAll]
    cases reader text.toList with
    | error e => simp [bind, Except.bind]
    | ok result =>
        obtain ⟨v', rest⟩ := result
        cases hrest : skipBlanks rest with
        | nil =>
            simp only [bind, Except.bind, hrest, pure, Except.pure, Except.ok.injEq, Prod.mk.injEq]
            exact ⟨fun h => ⟨rest, ⟨h, rfl⟩, hrest⟩, fun ⟨_, h, _⟩ => h.1⟩
        | cons c cs => simp [bind, Except.bind, hrest, throw, throwThe, MonadExceptOf.throw]
  rw [hsteps]
  simp only [hreader text.toList v, skipBlanks_eq_nil_iff, Denotes]
  constructor
  · rintro ⟨rest, ⟨b, w, hb, hw, htext⟩, hrest⟩
    exact ⟨b, w, rest, hb, hw, hrest, htext⟩
  · rintro ⟨b, w, rest, hb, hw, hrest, htext⟩
    exact ⟨rest, ⟨b, w, hb, hw, htext⟩, hrest⟩

/-! ## Strings -/

/-- A string in quotes. -/
def StringForm (w : List Char) (s : String) : Prop :=
  ∃ u, w = '"' :: (u ++ ['"']) ∧ Spells u s.toList

/-- Values that are written as strings. -/
def Quoted (form : List Char → α → Prop) : Prop := ∀ w v, form w v → ∃ u, w = '"' :: u

theorem quoted_stringForm : Quoted StringForm := by
  rintro w s ⟨u, rfl, -⟩
  exact ⟨_, rfl⟩

theorem skipBlanks_quote (cs : List Char) : skipBlanks ('"' :: cs) = '"' :: cs :=
  skipBlanks_cons (by decide) cs

theorem readString_reads : Reads readString StringForm := by
  intro text s rest
  rw [readString]
  constructor
  · intro h
    split at h
    · next rest' hfront =>
        obtain ⟨b, hb, rfl⟩ := skipBlanks_eq_cons hfront
        split at h
        · next cs after hread =>
            obtain ⟨rfl, rfl⟩ := Prod.mk.inj (Except.ok.inj h)
            obtain ⟨u, rfl, hu⟩ := readText?_eq_some_iff.mp hread
            exact ⟨b, _, hb, ⟨u, rfl, by rwa [String.toList_ofList]⟩, by simp⟩
        · cases h
    · cases h
  · rintro ⟨b, w, hb, ⟨u, rfl, hu⟩, rfl⟩
    have hread : readText? (u ++ '"' :: rest) = some (s.toList, rest) :=
      readText?_eq_some_iff.mpr ⟨u, rfl, hu⟩
    simp [skipBlanks_append hb, skipBlanks_quote, hread]

/-- Blanks in front of a value that is written as a string do not matter. -/
theorem Reads.skipBlanks_iff {reader : Reader α} {form : List Char → α → Prop}
    (hreader : Reads reader form) (hquoted : Quoted form) {text rest : List Char} {v : α} :
    reader (skipBlanks text) = .ok (v, rest) ↔ reader text = .ok (v, rest) := by
  obtain ⟨b₀, hb₀, htext⟩ := exists_blank_append text
  rw [hreader, hreader]
  constructor
  · rintro ⟨b, w, hb, hw, hrest⟩
    refine ⟨b₀ ++ b, w, fun c hc => (List.mem_append.mp hc).elim (hb₀ c) (hb c), hw, ?_⟩
    rw [htext, hrest, List.append_assoc]
  · rintro ⟨b, w, hb, hw, rfl⟩
    obtain ⟨u, rfl⟩ := hquoted w v hw
    refine ⟨[], _, blank_nil, hw, ?_⟩
    rw [skipBlanks_append hb, List.cons_append, skipBlanks_quote]
    rfl

theorem Reads.afterBlanks {reader : Reader α} {form : List Char → α → Prop}
    (hreader : Reads reader form) (hquoted : Quoted form) :
    Reads (fun cs => reader (skipBlanks cs)) form :=
  fun text v rest => (hreader.skipBlanks_iff hquoted).trans (hreader text v rest)

/-! ## Optional values -/

/-- A value, or `null` for none. -/
inductive OptionalForm (form : List Char → α → Prop) : List Char → Option α → Prop where
  | none : OptionalForm form ['n', 'u', 'l', 'l'] none
  | some {w : List Char} {v : α} : form w v → OptionalForm form w (some v)

theorem afterWord?_eq_some_iff {word cs rest : List Char} :
    afterWord? word cs = some rest ↔ cs = word ++ rest := by
  rw [afterWord?]
  split
  · next h =>
      obtain ⟨tail, rfl⟩ := List.isPrefixOf_iff_prefix.mp h
      simp
  · next h =>
      simp only [reduceCtorEq, false_iff]
      rintro rfl
      exact h (List.isPrefixOf_iff_prefix.mpr (List.prefix_append word rest))

theorem readOptional_reads {reader : Reader α} {form : List Char → α → Prop}
    (hreader : Reads reader form) (hquoted : Quoted form) :
    Reads (readOptional reader) (OptionalForm form) := by
  intro text v rest
  rw [readOptional]
  constructor
  · intro h
    split at h
    · next rest' hfront =>
        obtain ⟨b, hb, rfl⟩ := skipBlanks_eq_cons hfront
        split at h
        · next after hword =>
            obtain ⟨rfl, rfl⟩ := Prod.mk.inj (Except.ok.inj h)
            rw [afterWord?_eq_some_iff] at hword
            subst hword
            exact ⟨b, _, hb, .none, rfl⟩
        · cases h
    · cases hvalue : reader (skipBlanks text) with
      | error e => rw [hvalue] at h; cases h
      | ok result =>
          rw [hvalue] at h
          obtain ⟨v', after⟩ := result
          obtain ⟨rfl, rfl⟩ := Prod.mk.inj (Except.ok.inj h)
          obtain ⟨b, w, hb, hw, htext⟩ :=
            (hreader _ _ _).mp ((hreader.skipBlanks_iff hquoted).mp hvalue)
          exact ⟨b, w, hb, .some hw, htext⟩
  · rintro ⟨b, w, hb, hform, rfl⟩
    cases hform with
    | none =>
        have hword : afterWord? ['u', 'l', 'l'] ('u' :: 'l' :: 'l' :: rest) = some rest :=
          afterWord?_eq_some_iff.mpr rfl
        have hn : isBlank 'n' = false := by decide
        simp [skipBlanks_append hb, skipBlanks_cons hn, hword]
    | @some _ v hw =>
        obtain ⟨u, rfl⟩ := hquoted w v hw
        have hvalue : reader ('"' :: (u ++ rest)) = .ok (v, rest) :=
          (hreader _ _ _).mpr ⟨[], _, blank_nil, hw, rfl⟩
        simp [skipBlanks_append hb, skipBlanks_quote, hvalue, Except.map]

/-! ## Items behind the first one -/

/-- What follows an item, up to the closing bracket: the bracket, or a comma and further items. -/
inductive Items (closing : Char) (form : List Char → α → Prop) : List Char → List α → Prop where
  | close {b : List Char} : Blank b → Items closing form (b ++ [closing]) []
  | next {b b' w t : List Char} {v : α} {vs : List α} :
      Blank b → Blank b' → form w v → Items closing form t vs →
      Items closing form (b ++ ',' :: (b' ++ (w ++ t))) (v :: vs)

theorem Items.length_lt {closing : Char} {form : List Char → α → Prop} {t : List Char}
    {vs : List α} (h : Items closing form t vs) : vs.length < t.length := by
  induction h with
  | close _ => simp
  | next _ _ _ _ ih =>
      simp only [List.length_cons, List.length_append]
      omega

/-- There are not as many items as characters, so the length of the text is enough fuel. -/
theorem Items.length_lt_append {closing : Char} {form : List Char → α → Prop} {t : List Char}
    {vs : List α} (h : Items closing form t vs) (rest : List Char) :
    vs.length < (t ++ rest).length + 1 := by
  have := h.length_lt
  rw [List.length_append]
  omega

/-- One step of a loop over items: it meets the closing bracket, or a comma and an item and goes
on with `later`. -/
def ItemsStep (closing : Char) (form : List Char → α → Prop)
    (later : List Char → List α → List Char → Prop) (text : List Char) (vs : List α)
    (rest : List Char) : Prop :=
  (∃ b, Blank b ∧ text = b ++ closing :: rest ∧ vs = [])
    ∨ ∃ b b' w v after vs', Blank b ∧ Blank b' ∧ form w v
      ∧ text = b ++ ',' :: (b' ++ (w ++ after)) ∧ later after vs' rest ∧ vs = v :: vs'

/-- A loop that takes such steps accepts items, as many as its fuel allows. -/
theorem items_iff_of_step {closing : Char} {form : List Char → α → Prop}
    (loop : Nat → Reader (List α))
    (hzero : ∀ text result, loop 0 text ≠ .ok result)
    (hsucc : ∀ fuel text vs rest, loop (fuel + 1) text = .ok (vs, rest) ↔
      ItemsStep closing form (fun after vs' rest => loop fuel after = .ok (vs', rest))
        text vs rest) :
    ∀ {fuel : Nat} {text rest : List Char} {vs : List α},
      loop fuel text = .ok (vs, rest) ↔
        vs.length < fuel ∧ ∃ t, Items closing form t vs ∧ text = t ++ rest
  | 0, text, rest, vs => by
      simp only [hzero, Nat.not_lt_zero, false_and]
  | fuel + 1, text, rest, vs => by
      have ih := @items_iff_of_step α closing form loop hzero hsucc fuel
      rw [hsucc]
      constructor
      · rintro (⟨b, hb, rfl, rfl⟩ | ⟨b, b', w, v, after, vs', hb, hb', hw, rfl, hlater, rfl⟩)
        · exact ⟨Nat.succ_pos fuel, _, .close hb, by simp⟩
        · obtain ⟨hlength, t, ht, rfl⟩ := ih.mp hlater
          exact ⟨Nat.succ_lt_succ hlength, _, .next hb hb' hw ht, by simp⟩
      · rintro ⟨hlength, t, ht, rfl⟩
        cases ht with
        | close hb => exact Or.inl ⟨_, hb, by simp, rfl⟩
        | next hb hb' hw ht =>
            refine Or.inr ⟨_, _, _, _, _, _, hb, hb', hw, by simp, ih.mpr ⟨?_, _, ht, rfl⟩, rfl⟩
            exact Nat.lt_of_succ_lt_succ hlength

theorem bind_eq_ok_iff {x : Except Error α} {f : α → Except Error β} {b : β} :
    (x >>= f) = .ok b ↔ ∃ a, x = .ok a ∧ f a = .ok b := by
  cases x with
  | error e => simp [bind, Except.bind]
  | ok a => simp [bind, Except.bind]

/-- An item and what a loop reads behind it. -/
theorem item_bind_eq_ok_iff {item : Reader α} {form : List Char → α → Prop}
    (hitem : Reads item form) (later : Reader (List α)) {text rest : List Char} {vs : List α} :
    (do
      let (v, after) ← item text
      let (vs, after) ← later after
      return (v :: vs, after)) = .ok (vs, rest) ↔
      ∃ b w v after vs', Blank b ∧ form w v ∧ text = b ++ (w ++ after)
        ∧ later after = .ok (vs', rest) ∧ vs = v :: vs' := by
  simp only [bind_eq_ok_iff, Prod.exists, hitem text, pure, Except.pure, Except.ok.injEq,
    Prod.mk.injEq]
  constructor
  · rintro ⟨v, after, ⟨b, w, hb, hw, htext⟩, vs', rest', hlater, rfl, rfl⟩
    exact ⟨b, w, v, after, vs', hb, hw, htext, hlater, rfl⟩
  · rintro ⟨b, w, v, after, vs', hb, hw, htext, hlater, rfl⟩
    exact ⟨v, after, ⟨b, w, hb, hw, htext⟩, vs', rest, hlater, rfl, rfl⟩

/-- The loop over the elements of a list. -/
theorem readElements_step {reader : Reader α} {form : List Char → α → Prop}
    (hreader : Reads reader form) (hquoted : Quoted form) (fuel : Nat) (text : List Char)
    (vs : List α) (rest : List Char) :
    readElements reader (fuel + 1) text = .ok (vs, rest) ↔
      ItemsStep ']' form (fun after vs' rest => readElements reader fuel after = .ok (vs', rest))
        text vs rest := by
  rw [readElements]
  constructor
  · intro h
    split at h
    · next after hfront =>
        obtain ⟨b, hb, rfl⟩ := skipBlanks_eq_cons hfront
        obtain ⟨rfl, rfl⟩ := Prod.mk.inj (Except.ok.inj h)
        exact Or.inl ⟨b, hb, rfl, rfl⟩
    · next inner hfront =>
        obtain ⟨b, hb, rfl⟩ := skipBlanks_eq_cons hfront
        split at h
        · cases h
        · cases h
        · obtain ⟨b', w, v, after, vs', hb', hw, rfl, hlater, rfl⟩ :=
            (item_bind_eq_ok_iff (hreader.afterBlanks hquoted) _).mp h
          exact Or.inr ⟨b, b', w, v, after, vs', hb, hb', hw, rfl, hlater, rfl⟩
    · cases h
  · rintro (⟨b, hb, rfl, rfl⟩ | ⟨b, b', w, v, after, vs', hb, hb', hw, rfl, hlater, rfl⟩)
    · have hclose : isBlank ']' = false := by decide
      simp only [skipBlanks_append hb, skipBlanks_cons hclose]
    · obtain ⟨u, rfl⟩ := hquoted w v hw
      have hcomma : isBlank ',' = false := by decide
      simp only [skipBlanks_append hb, skipBlanks_cons hcomma, skipBlanks_append hb',
        List.cons_append, skipBlanks_quote]
      exact (item_bind_eq_ok_iff hreader _).mpr
        ⟨[], _, v, after, vs', blank_nil, hw, rfl, hlater, rfl⟩

theorem readElements_eq_ok_iff {reader : Reader α} {form : List Char → α → Prop}
    (hreader : Reads reader form) (hquoted : Quoted form) {fuel : Nat} {text rest : List Char}
    {vs : List α} :
    readElements reader fuel text = .ok (vs, rest) ↔
      vs.length < fuel ∧ ∃ t, Items ']' form t vs ∧ text = t ++ rest :=
  items_iff_of_step (readElements reader) (fun text result h => by cases h)
    (readElements_step hreader hquoted)

/-! ## Lists -/

/-- Items in brackets. -/
inductive Bracketed (opening closing : Char) (form : List Char → α → Prop) :
    List Char → List α → Prop where
  | empty {b : List Char} : Blank b →
      Bracketed opening closing form (opening :: (b ++ [closing])) []
  | items {b w t : List Char} {v : α} {vs : List α} :
      Blank b → form w v → Items closing form t vs →
      Bracketed opening closing form (opening :: (b ++ (w ++ t))) (v :: vs)

theorem readList_reads {reader : Reader α} {form : List Char → α → Prop}
    (hreader : Reads reader form) (hquoted : Quoted form) :
    Reads (readList reader) (Bracketed '[' ']' form) := by
  intro text vs rest
  rw [readList]
  constructor
  · intro h
    split at h
    · next inner hfront =>
        obtain ⟨b, hb, rfl⟩ := skipBlanks_eq_cons hfront
        split at h
        · cases h
        · next after hclose =>
            obtain ⟨b', hb', rfl⟩ := skipBlanks_eq_cons hclose
            obtain ⟨rfl, rfl⟩ := Prod.mk.inj (Except.ok.inj h)
            exact ⟨b, _, hb, .empty hb', by simp⟩
        · obtain ⟨b', w, v, after, vs', hb', hw, rfl, hlater, rfl⟩ :=
            (item_bind_eq_ok_iff (hreader.afterBlanks hquoted)
              fun after => readElements reader (after.length + 1) after).mp h
          obtain ⟨-, t, ht, rfl⟩ := (readElements_eq_ok_iff hreader hquoted).mp hlater
          exact ⟨b, _, hb, .items hb' hw ht, by simp⟩
    · cases h
  · rintro ⟨b, w, hb, hform, rfl⟩
    have hopen : isBlank '[' = false := by decide
    cases hform with
    | empty hb' =>
        have hclose : isBlank ']' = false := by decide
        simp [skipBlanks_append hb, skipBlanks_append hb', skipBlanks_cons hopen,
          skipBlanks_cons hclose]
    | @items b' w t v vs hb' hw ht =>
        obtain ⟨u, rfl⟩ := hquoted w v hw
        simp only [skipBlanks_append hb, skipBlanks_cons hopen, skipBlanks_append hb',
          List.cons_append, List.append_assoc, skipBlanks_quote]
        exact (item_bind_eq_ok_iff hreader
            fun after => readElements reader (after.length + 1) after).mpr
          ⟨[], _, v, t ++ rest, vs, blank_nil, hw, rfl,
            (readElements_eq_ok_iff hreader hquoted).mpr ⟨ht.length_lt_append rest, t, ht, rfl⟩,
            rfl⟩

/-! ## Tables -/

/-- A key with its value. -/
def MemberForm (form : List Char → α → Prop) (w : List Char) (m : String × α) : Prop :=
  ∃ k b b' u, StringForm k m.1 ∧ Blank b ∧ Blank b' ∧ form u m.2 ∧
    w = k ++ (b ++ ':' :: (b' ++ u))

theorem quoted_memberForm {form : List Char → α → Prop} : Quoted (MemberForm form) := by
  rintro w m ⟨k, b, b', u, hk, -, -, -, rfl⟩
  obtain ⟨k', rfl⟩ := quoted_stringForm k m.1 hk
  exact ⟨_, rfl⟩

theorem readMember_reads {reader : Reader α} {form : List Char → α → Prop}
    (hreader : Reads reader form) :
    Reads (fun cs => readMember reader (skipBlanks cs)) (MemberForm form) := by
  rintro text ⟨key, v⟩ rest
  simp only [readMember]
  constructor
  · intro h
    split at h
    · next inner hfront =>
        obtain ⟨b, hb, rfl⟩ := skipBlanks_eq_cons hfront
        split at h
        · cases h
        · next key' after hkey =>
            obtain ⟨k, rfl, hk⟩ := readText?_eq_some_iff.mp hkey
            split at h
            · next tail hcolon =>
                obtain ⟨b', hb', rfl⟩ := skipBlanks_eq_cons hcolon
                cases hvalue : reader tail with
                | error e => rw [hvalue] at h; cases h
                | ok result =>
                    obtain ⟨v', after⟩ := result
                    rw [hvalue] at h
                    simp only [Except.map, Except.ok.injEq, Prod.mk.injEq] at h
                    obtain ⟨⟨rfl, rfl⟩, rfl⟩ := h
                    obtain ⟨b'', w, hb'', hw, rfl⟩ := (hreader _ _ _).mp hvalue
                    refine ⟨b, _, hb, ⟨_, b', b'', w, ⟨k, rfl, ?_⟩, hb', hb'', hw, rfl⟩, by simp⟩
                    rwa [String.toList_ofList]
            · cases h
    · cases h
  · rintro ⟨b, w, hb, ⟨_, b', b'', u, ⟨k, rfl, hk⟩, hb', hb'', hu, rfl⟩, rfl⟩
    have hkey : readText? (k ++ '"' :: (b' ++ ':' :: (b'' ++ (u ++ rest))))
        = some (key.toList, b' ++ ':' :: (b'' ++ (u ++ rest))) :=
      readText?_eq_some_iff.mpr ⟨k, rfl, hk⟩
    have hv : reader (b'' ++ (u ++ rest)) = .ok (v, rest) :=
      (hreader _ _ _).mpr ⟨b'', u, hb'', hu, rfl⟩
    have hcolon : isBlank ':' = false := by decide
    simp only [List.cons_append, List.append_assoc, List.nil_append, skipBlanks_append hb,
      skipBlanks_quote, hkey]
    simp [skipBlanks_append hb', skipBlanks_cons hcolon, hv, Except.map]

/-- The loop over the members of a table. -/
theorem readMembers_step {reader : Reader α} {form : List Char → α → Prop}
    (hreader : Reads reader form) (fuel : Nat) (text : List Char) (ms : List (String × α))
    (rest : List Char) :
    readMembers reader (fuel + 1) text = .ok (ms, rest) ↔
      ItemsStep '}' (MemberForm form)
        (fun after ms' rest => readMembers reader fuel after = .ok (ms', rest)) text ms rest := by
  rw [readMembers]
  constructor
  · intro h
    split at h
    · next after hfront =>
        obtain ⟨b, hb, rfl⟩ := skipBlanks_eq_cons hfront
        obtain ⟨rfl, rfl⟩ := Prod.mk.inj (Except.ok.inj h)
        exact Or.inl ⟨b, hb, rfl, rfl⟩
    · next inner hfront =>
        obtain ⟨b, hb, rfl⟩ := skipBlanks_eq_cons hfront
        obtain ⟨b', w, m, after, ms', hb', hw, rfl, hlater, rfl⟩ :=
          (item_bind_eq_ok_iff (readMember_reads hreader) _).mp h
        exact Or.inr ⟨b, b', w, m, after, ms', hb, hb', hw, rfl, hlater, rfl⟩
    · cases h
  · rintro (⟨b, hb, rfl, rfl⟩ | ⟨b, b', w, m, after, ms', hb, hb', hw, rfl, hlater, rfl⟩)
    · have hclose : isBlank '}' = false := by decide
      simp only [skipBlanks_append hb, skipBlanks_cons hclose]
    · have hcomma : isBlank ',' = false := by decide
      simp only [skipBlanks_append hb, skipBlanks_cons hcomma]
      exact (item_bind_eq_ok_iff (readMember_reads hreader) _).mpr
        ⟨b', w, m, after, ms', hb', hw, rfl, hlater, rfl⟩

theorem readMembers_eq_ok_iff {reader : Reader α} {form : List Char → α → Prop}
    (hreader : Reads reader form) {fuel : Nat} {text rest : List Char} {ms : List (String × α)} :
    readMembers reader fuel text = .ok (ms, rest) ↔
      ms.length < fuel ∧ ∃ t, Items '}' (MemberForm form) t ms ∧ text = t ++ rest :=
  items_iff_of_step (readMembers reader) (fun text result h => by cases h)
    (readMembers_step hreader)

theorem readTable_reads {reader : Reader α} {form : List Char → α → Prop}
    (hreader : Reads reader form) :
    Reads (readTable reader) (Bracketed '{' '}' (MemberForm form)) := by
  intro text ms rest
  rw [readTable]
  constructor
  · intro h
    split at h
    · next inner hfront =>
        obtain ⟨b, hb, rfl⟩ := skipBlanks_eq_cons hfront
        split at h
        · next after hclose =>
            obtain ⟨b', hb', rfl⟩ := skipBlanks_eq_cons hclose
            obtain ⟨rfl, rfl⟩ := Prod.mk.inj (Except.ok.inj h)
            exact ⟨b, _, hb, .empty hb', by simp⟩
        · obtain ⟨b', w, m, after, ms', hb', hw, rfl, hlater, rfl⟩ :=
            (item_bind_eq_ok_iff (readMember_reads hreader)
              fun after => readMembers reader (after.length + 1) after).mp h
          obtain ⟨-, t, ht, rfl⟩ := (readMembers_eq_ok_iff hreader).mp hlater
          exact ⟨b, _, hb, .items hb' hw ht, by simp⟩
    · cases h
  · rintro ⟨b, w, hb, hform, rfl⟩
    have hopen : isBlank '{' = false := by decide
    cases hform with
    | empty hb' =>
        have hclose : isBlank '}' = false := by decide
        simp [skipBlanks_append hb, skipBlanks_append hb', skipBlanks_cons hopen,
          skipBlanks_cons hclose]
    | @items b' w t m ms hb' hw ht =>
        obtain ⟨u, rfl⟩ := quoted_memberForm w m hw
        simp only [skipBlanks_append hb, skipBlanks_cons hopen, skipBlanks_append hb',
          List.cons_append, List.append_assoc, skipBlanks_quote]
        rw [← skipBlanks_quote]
        exact (item_bind_eq_ok_iff (readMember_reads hreader)
            fun after => readMembers reader (after.length + 1) after).mpr
          ⟨[], _, m, t ++ rest, ms, blank_nil, hw, rfl,
            (readMembers_eq_ok_iff hreader).mpr ⟨ht.length_lt_append rest, t, ht, rfl⟩, rfl⟩

end Json

end GlyphBook
