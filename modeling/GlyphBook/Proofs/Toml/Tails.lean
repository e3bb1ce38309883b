import GlyphBook.Proofs.Toml.Lines
import GlyphBook.Proofs.Toml.Tokens
import GlyphBook.Toml.Highlight

/-!
# Other lines at the end of a document

Two documents that agree up to the end of a line are read alike up to there: entry by entry they
have the same keys and values, and the places differ only by what stands behind
(`statements?_alike`), so that an error shows them in the same way (`sight_alike`). Both documents
are read here. What is shown is not that the second one can be read but that the two readings keep
in step.

Keeping in step is shown reader by reader. Each time the first reading has left all of its end
over, so the piece it read lies in the common front, and the second reading met the same piece.
-/

namespace GlyphBook

namespace Toml

/-! ## Places -/

/-- The same place in front of another end. -/
def Moved (t t' : List Char) (extent extent' : Extent) : Prop :=
  ∃ start stop, extent = ⟨start + t.length, stop + t.length⟩
    ∧ extent' = ⟨start + t'.length, stop + t'.length⟩

theorem moved_of_append (u v t t' : List Char) :
    Moved t t' ⟨(u ++ t).length, (v ++ t).length⟩ ⟨(u ++ t').length, (v ++ t').length⟩ :=
  ⟨u.length, v.length, by simp only [List.length_append], by simp only [List.length_append]⟩

/-- The same key in front of another end. -/
structure Key.Alike (t t' : List Char) (key key' : Key) : Prop where
  name : key'.name = key.name
  extent : Moved t t' key.extent key'.extent

/-- The same line in front of another end, as far as an error about it tells. -/
inductive Statement.Alike (t t' : List Char) : Statement → Statement → Prop where
  | header {path path' : Path} {extent extent' : Extent} :
      List.Forall₂ (Key.Alike t t') path.keys path'.keys →
      Alike t t' (.header path extent) (.header path' extent')
  | listHeader {path path' : Path} {extent extent' : Extent} :
      List.Forall₂ (Key.Alike t t') path.keys path'.keys →
      Alike t t' (.listHeader path extent) (.listHeader path' extent')
  | entry {path path' : Path} {extent extent' : Extent} {value value' : Value} :
      List.Forall₂ (Key.Alike t t') path.keys path'.keys → Moved t t' extent extent' →
      value'.seen = value.seen →
      Alike t t' (.entry path extent value) (.entry path' extent' value')

/-! ## What is left -/

theorem readKeys?_suffix {fuel : Nat} {cs after : List Char} {path : Path}
    (h : readKeys? fuel cs = some (path, after)) : after <:+ cs :=
  (readKeys?_sound (List.suffix_refl cs) h).suffix

theorem readValue?_suffix {fuel depth : Nat} {cs after : List Char} {extent : Extent}
    {value : Value} (h : readValue? fuel depth cs = some ((extent, value), after)) :
    after <:+ cs :=
  (readValue?_sound (List.suffix_refl cs) h).suffix

theorem readItems?_suffix {fuel depth : Nat} {cs after : List Char}
    {items : List (Extent × Value)} (h : readItems? fuel depth cs = some (items, after)) :
    after <:+ cs :=
  (readItems?_sound (List.suffix_refl cs) h).1

theorem readMembers?_suffix {fuel depth : Nat} {first : Bool} {cs after : List Char}
    {entries : List (Path × Extent × Value)}
    (h : readMembers? fuel depth first cs = some (entries, after)) : after <:+ cs :=
  (readMembers?_sound (List.suffix_refl cs) h).1

theorem EntryStep.suffix {fuel depth : Nat} {cs after : List Char} {path : Path} {extent : Extent}
    {value : Value} (h : EntryStep fuel depth cs path extent value after) : after <:+ cs :=
  (h.sound (List.suffix_refl cs) readValue?_sound).suffix

/-- What is left is longer than the end, so it has the end behind it. -/
theorem exists_append_of_length {u t rest : List Char} (h : rest <:+ u ++ t)
    (hlength : t.length ≤ rest.length) : ∃ v, rest = v ++ t := by
  have hsuffix := List.suffix_of_suffix_length_le (List.suffix_append u t) h hlength
  obtain ⟨v, hv⟩ := hsuffix
  exact ⟨v, hv.symm⟩

/-- Where more is left than the end, some of the front is. -/
theorem exists_append_of_length_lt {u t rest : List Char} (h : rest <:+ u ++ t)
    (hlength : t.length < rest.length) : ∃ v, v ≠ [] ∧ rest = v ++ t ∧ u ≠ [] := by
  have hu := h.length_le
  obtain ⟨v, rfl⟩ := exists_append_of_length h hlength.le
  simp only [List.length_append] at hlength hu
  exact ⟨v, List.ne_nil_of_length_pos (by omega), rfl, List.ne_nil_of_length_pos (by omega)⟩

/-- A value does not begin with a carriage return. -/
theorem head?_of_readValue? {fuel depth : Nat} {cs after : List Char} {extent : Extent}
    {value : Value} (h : readValue? fuel depth cs = some ((extent, value), after)) :
    cs.head? ≠ some '\r' := by
  intro hhead
  obtain ⟨rest, rfl⟩ := List.head?_eq_some_iff.mp hhead
  cases fuel with
  | zero => cases h
  | succ fuel =>
      obtain ⟨-, hstep⟩ := valueStep_of_readValue? h
      cases hstep with
      | scalar _ _ hscalar => cases hscalar

/-- An entry begins with a key. -/
theorem not_entryStep {c : Char} (hblank : isBlank c = false) (hkey : isKeyStart c = false)
    {fuel depth : Nat} {cs after : List Char} {path : Path} {extent : Extent} {value : Value} :
    ¬ EntryStep fuel depth (c :: cs) path extent value after := by
  rintro ⟨hpath, -⟩
  obtain ⟨key, rest, hread⟩ : ∃ key rest, readKey? (c :: cs) = some (key, rest) := by
    rw [← skipBlanks_cons hblank cs]
    cases pathStep_of_readKeys? (readKeys?_of_readPath? hpath) with
    | last hkey _ _ => exact ⟨_, _, hkey⟩
    | more hkey _ _ => exact ⟨_, _, hkey⟩
  obtain ⟨w, hw, hform, -⟩ := readKey?_sound hread
  obtain ⟨d, w', rfl, hd⟩ := hform.exists_start
  obtain rfl : c = d := (List.cons.inj hw).1
  rw [hkey] at hd
  cases hd

/-- The end of a value lies behind the equals sign in front of it. -/
theorem stop_lt_of_placed {cs : List Char} {path : Path} {extent : Extent} {value : Value}
    (h : Statement.Placed cs (.entry path extent value)) : extent.stop < cs.length := by
  rcases h with _ | _ | ⟨-, hentry, -⟩
  obtain ⟨before, k, b, b', w, after, -, -, -, -, ⟨rfl, -, hstop⟩, -⟩ := hentry
  simp only [hstop, List.length_append, List.length_cons]
  omega

theorem EntryStep.stop {fuel depth : Nat} {cs after : List Char} {path : Path} {extent : Extent}
    {value : Value} (h : EntryStep fuel depth cs path extent value after) :
    extent.stop = after.length ∧ extent.stop < cs.length := by
  refine ⟨?_, stop_lt_of_placed (h.sound (List.suffix_refl cs) readValue?_sound).placed⟩
  obtain ⟨-, hread⟩ := h
  rw [(readValue?_sound (List.suffix_refl _) hread).extent]

/-- What is left in front of an entry that is still to come is longer than the entry's value. -/
theorem stop_lt_of_readStatements? {fuel : Nat} {rest : List Char} {pre post : List Statement}
    {path : Path} {extent : Extent} {value : Value}
    (h : readStatements? fuel rest = some (pre ++ .entry path extent value :: post)) :
    extent.stop < rest.length := by
  have hmem : Statement.entry path extent value ∈ pre ++ .entry path extent value :: post := by
    simp
  exact stop_lt_of_placed ((readStatements?_sound (List.suffix_refl rest) h).1 _ hmem)

/-! ## Ends of lines -/

variable {t t' : List Char}

section

variable (ht : LineEnd t)

include ht

theorem head?_of_append {v : List Char} {c : Char} (hc : c ≠ '\n')
    (h : (v ++ t).head? = some c) : v.head? = some c := by
  cases v with
  | nil => exact absurd h (ht.head?_ne hc)
  | cons d v => exact h

/-- A character that ends no line was met in front. -/
theorem exists_cons_of_append {v rest : List Char} {c : Char} (hc : c ≠ '\n')
    (h : v ++ t = c :: rest) : ∃ v', v = c :: v' ∧ rest = v' ++ t := by
  obtain ⟨v', rfl⟩ := List.head?_eq_some_iff.mp (head?_of_append ht hc (by rw [h]; rfl))
  exact ⟨v', rfl, (List.cons.inj h).2.symm⟩

theorem skipBlanks_append_lineEnd (u : List Char) : skipBlanks (u ++ t) = skipBlanks u ++ t := by
  have h := (steady_dropWhile (p := isBlank) (by decide)).append u ht
  exact (Prod.mk.inj (Option.some.inj h)).2

theorem skipComment_append_lineEnd (u : List Char) :
    skipComment (u ++ t) = skipComment u ++ t := by
  cases u with
  | nil =>
      cases ht with
      | stop => rfl
      | newline => rfl
  | cons c u =>
      by_cases hc : c = '#'
      · subst hc
        have h := (steady_dropWhile (p := isCommentChar) (by decide)).append u ht
        exact (Prod.mk.inj (Option.some.inj h)).2
      · have hkeep (cs : List Char) : skipComment (c :: cs) = c :: cs := by
          rw [skipComment]
          exact fun _ h => hc (List.cons.inj h).1
        rw [List.cons_append, hkeep, hkeep]
        rfl

theorem takeWhile_append_lineEnd (f : List Char) :
    (f ++ t).takeWhile (· ≠ '\n') = f.takeWhile (· ≠ '\n') := by
  have h := (steady_span (p := (· ≠ '\n')) (by decide)).append f ht
  exact (Prod.mk.inj (Option.some.inj h)).1

end

/-! ## Paths -/

section

variable (ht : LineEnd t) (ht' : LineEnd t')

include ht ht'

theorem readKey?_alike {u v rest : List Char} {key key' : Key}
    (h : readKey? (u ++ t) = some (key, v ++ t)) (h' : readKey? (u ++ t') = some (key', rest)) :
    rest = v ++ t' ∧ key.Alike t t' key' := by
  obtain ⟨⟨name, after⟩, hname, heq⟩ := Option.map_eq_some_iff.mp h
  obtain ⟨rfl, rfl⟩ := Prod.mk.inj heq
  rw [readKey?, keeps_readKeyName.keep ht ht' hname] at h'
  obtain ⟨rfl, rfl⟩ := Prod.mk.inj (Option.some.inj h')
  exact ⟨rfl, rfl, moved_of_append u v t t'⟩

/-- The key at the front, with the blanks around it. -/
theorem readKey?_skipBlanks_alike {u v rest rest' : List Char} {key key' : Key}
    (h : readKey? (skipBlanks (u ++ t)) = some (key, rest)) (hrest : skipBlanks rest = v ++ t)
    (h' : readKey? (skipBlanks (u ++ t')) = some (key', rest')) :
    skipBlanks rest' = v ++ t' ∧ key.Alike t t' key' := by
  obtain ⟨r, rfl⟩ := exists_append_of_suffix (hrest ▸ skipBlanks_suffix rest)
  rw [skipBlanks_append_lineEnd ht] at h hrest
  rw [skipBlanks_append_lineEnd ht'] at h'
  obtain ⟨rfl, hkey⟩ := readKey?_alike ht ht' h h'
  exact ⟨by rw [skipBlanks_append_lineEnd ht', List.append_cancel_right hrest], hkey⟩

theorem readKeys?_alike {fuel fuel' : Nat} {u v rest : List Char} {path path' : Path}
    (h : readKeys? fuel (u ++ t) = some (path, v ++ t))
    (h' : readKeys? fuel' (u ++ t') = some (path', rest)) :
    rest = v ++ t' ∧ List.Forall₂ (Key.Alike t t') path.keys path'.keys := by
  induction fuel generalizing fuel' u path path' with
  | zero => cases h
  | succ fuel ih =>
      cases fuel' with
      | zero => cases h'
      | succ fuel' =>
          cases pathStep_of_readKeys? h with
          | last hkey hrest hdot =>
              cases pathStep_of_readKeys? h' with
              | last hkey' hrest' _ =>
                  obtain ⟨hafter, halike⟩ := readKey?_skipBlanks_alike ht ht' hkey hrest hkey'
                  exact ⟨hrest'.symm.trans hafter, .cons halike .nil⟩
              | more hkey' hrest' _ =>
                  obtain ⟨hafter, -⟩ := readKey?_skipBlanks_alike ht ht' hkey hrest hkey'
                  obtain ⟨v', rfl, -⟩ :=
                    exists_cons_of_append ht' (by decide) (hafter.symm.trans hrest')
                  exact absurd rfl hdot
          | @more key path r later _ hkey hrest hread =>
              obtain ⟨p, hp⟩ := exists_append_of_suffix (readKeys?_suffix hread)
              have hfront : skipBlanks r = ('.' :: (p ++ v)) ++ t := by rw [hrest, hp]; rfl
              cases pathStep_of_readKeys? h' with
              | last hkey' hrest' hdot' =>
                  obtain ⟨hafter, -⟩ := readKey?_skipBlanks_alike ht ht' hkey hfront hkey'
                  rw [← hrest', hafter] at hdot'
                  exact absurd rfl hdot'
              | more hkey' hrest' hread' =>
                  obtain ⟨hafter, halike⟩ := readKey?_skipBlanks_alike ht ht' hkey hfront hkey'
                  obtain rfl := (List.cons.inj (hrest'.symm.trans hafter)).2
                  rw [hp] at hread
                  obtain ⟨hlast, hkeys⟩ := ih hread hread'
                  exact ⟨hlast, .cons halike hkeys⟩

theorem readPath?_alike {u v rest : List Char} {path path' : Path}
    (h : readPath? (u ++ t) = some (path, v ++ t))
    (h' : readPath? (u ++ t') = some (path', rest)) :
    rest = v ++ t' ∧ List.Forall₂ (Key.Alike t t') path.keys path'.keys :=
  readKeys?_alike ht ht' (readKeys?_of_readPath? h) (readKeys?_of_readPath? h')

end

/-! ## Gaps -/

theorem skipVoid?_return {inComment : Bool} {cs : List Char} (h : cs.head? ≠ some '\n') :
    skipVoid? inComment ('\r' :: cs) = if inComment then none else some ('\r' :: cs) := by
  cases cs with
  | nil => rfl
  | cons d cs =>
      rw [skipVoid?]
      · rfl
      · intro h
        cases h
      · rintro rest - heq
        exact h (congrArg some (List.cons.inj heq).1)

/-- Where a gap ends in front, no carriage return alone stands in it. -/
theorem head?_of_skipVoid?_return {inComment : Bool} {u v t : List Char} (hv : v ≠ [])
    (hreturn : v.head? ≠ some '\r') (h : skipVoid? inComment ('\r' :: u ++ t) = some (v ++ t)) :
    u.head? = some '\n' := by
  by_contra hfeed
  have hpos := List.length_pos_of_ne_nil hv
  by_cases hnext : (u ++ t).head? = some '\n'
  · obtain ⟨rest, hrest⟩ := List.head?_eq_some_iff.mp hnext
    obtain rfl : u = [] := by
      cases u with
      | nil => rfl
      | cons c u => exact absurd (congrArg List.head? hrest) hfeed
    rw [List.cons_append, hrest] at h
    have hlength := (@skipVoid?_suffix false rest _ h).length_le
    have hlength' := congrArg List.length hrest
    simp only [List.length_append, List.length_cons, List.length_nil] at hlength hlength'
    omega
  · rw [List.cons_append, skipVoid?_return hnext] at h
    split at h
    · cases h
    · have hhead := congrArg List.head? (Option.some.inj h)
      rw [List.head?_append_of_ne_nil _ hv] at hhead
      exact hreturn hhead.symm

/-- Gaps in front of something that is left in front of the end. -/
theorem skipVoid?_keep {v t : List Char} (hv : v ≠ []) (hreturn : v.head? ≠ some '\r')
    (inComment : Bool) (u t' : List Char)
    (h : skipVoid? inComment (u ++ t) = some (v ++ t)) :
    skipVoid? inComment (u ++ t') = some (v ++ t') := by
  match u with
  | [] =>
      have hlength := (skipVoid?_suffix h).length_le
      have hpos := List.length_pos_of_ne_nil hv
      simp only [List.nil_append, List.length_append] at hlength
      omega
  | c :: u =>
      by_cases hfeed : c = '\n'
      · subst hfeed
        exact skipVoid?_keep hv hreturn false u t' h
      · by_cases hline : c = '\r'
        · subst hline
          obtain ⟨u, rfl⟩ := List.head?_eq_some_iff.mp (head?_of_skipVoid?_return hv hreturn h)
          exact skipVoid?_keep hv hreturn false u t' h
        · have hcons (cs : List Char) : skipVoid? inComment (c :: cs) = if inComment then
                if isCommentChar c then skipVoid? true cs else none
              else if isBlank c then skipVoid? false cs
              else if c = '#' then skipVoid? true cs
              else some (c :: cs) := by
            rw [skipVoid?]
            · exact hfeed
            · exact fun _ h => absurd h hline
          rw [List.cons_append, hcons] at h ⊢
          split_ifs at h ⊢
          · exact skipVoid?_keep hv hreturn true u t' h
          · exact skipVoid?_keep hv hreturn false u t' h
          · exact skipVoid?_keep hv hreturn true u t' h
          · obtain rfl : c :: u = v :=
              List.append_cancel_right (Option.some.inj h)
            rfl
  termination_by u.length

/-! ## Values -/

/-- What two readings of a value, of the same text in front of two ends, have in common. -/
structure ValueAlike (t t' v : List Char) (extent extent' : Extent) (value value' : Value)
    (rest : List Char) : Prop where
  rest : rest = v ++ t'
  extent : Moved t t' extent extent'
  seen : value'.seen = value.seen

/-- The readings of values with this fuel keep in step. -/
def ValuesAlike (t t' : List Char) (fuel : Nat) : Prop :=
  ∀ ⦃fuel' depth depth' : Nat⦄ ⦃u v rest : List Char⦄ ⦃extent extent' : Extent⦄
    ⦃value value' : Value⦄, readValue? fuel depth (u ++ t) = some ((extent, value), v ++ t) →
    readValue? fuel' depth' (u ++ t') = some ((extent', value'), rest) →
    ValueAlike t t' v extent extent' value value' rest

/-- An item with what stands around it, up to the character behind it. -/
theorem item_alike {fuel depth : Nat} (hvalues : ValuesAlike t t' fuel) {c : Char} (hc : c ≠ '\r')
    {u w front rest : List Char} {item : Extent × Value}
    (hvoid : skipVoid? false (u ++ t) = some front)
    (hread : readValue? fuel depth front = some (item, rest))
    (hbehind : skipVoid? false rest = some (c :: (w ++ t))) :
    ∃ f, front = f ++ t ∧ skipVoid? false (u ++ t') = some (f ++ t')
      ∧ ∀ {fuel' depth' : Nat} {item' : Extent × Value} {rest' : List Char},
          readValue? fuel' depth' (f ++ t') = some (item', rest') →
          skipVoid? false rest' = some (c :: (w ++ t')) := by
  have hhead : (c :: w).head? ≠ some '\r' := fun h => hc (Option.some.inj h)
  obtain ⟨p, rfl⟩ := exists_append_of_suffix (v := c :: w) (skipVoid?_suffix hbehind)
  obtain ⟨q, rfl⟩ := exists_append_of_suffix (readValue?_suffix hread)
  have hne : q ++ (p ++ c :: w) ≠ [] := by simp
  have hfront : (q ++ (p ++ c :: w)).head? ≠ some '\r' := by
    have hvalue := head?_of_readValue? hread
    rwa [List.head?_append_of_ne_nil _ hne] at hvalue
  refine ⟨_, rfl, skipVoid?_keep hne hfront false u t' hvoid, fun {_ _ item' _} hread' => ?_⟩
  obtain ⟨extent', value'⟩ := item'
  obtain ⟨rfl, -, -⟩ := hvalues hread hread'
  exact skipVoid?_keep (List.cons_ne_nil c w) hhead false (p ++ c :: w) t' hbehind

section

variable (ht : LineEnd t) (ht' : LineEnd t')

include ht ht'

theorem EntryStep.alike {fuel fuel' depth depth' : Nat} {u v rest : List Char} {path path' : Path}
    {extent extent' : Extent} {value value' : Value} (hvalues : ValuesAlike t t' fuel)
    (h : EntryStep fuel depth (u ++ t) path extent value (v ++ t))
    (h' : EntryStep fuel' depth' (u ++ t') path' extent' value' rest) :
    rest = v ++ t' ∧ Statement.Alike t t' (.entry path extent value)
      (.entry path' extent' value') := by
  obtain ⟨hpath, hread⟩ := h
  obtain ⟨hpath', hread'⟩ := h'
  obtain ⟨r, rfl⟩ :=
    exists_append_of_suffix ((readValue?_suffix hread).trans (skipBlanks_suffix _))
  obtain ⟨hrest, hkeys⟩ := readPath?_alike ht ht' (v := '=' :: (r ++ v)) hpath hpath'
  obtain rfl := (List.cons.inj hrest).2
  rw [skipBlanks_append_lineEnd ht] at hread
  rw [List.append_eq, skipBlanks_append_lineEnd ht'] at hread'
  obtain ⟨hafter, hextent, hseen⟩ := hvalues hread hread'
  exact ⟨hafter, .entry hkeys hextent hseen⟩

/-- A character behind blanks is met again. -/
theorem skipBlanks_alike {c : Char} {u w : List Char} (h : skipBlanks (u ++ t) = c :: (w ++ t)) :
    skipBlanks (u ++ t') = c :: (w ++ t') := by
  rw [skipBlanks_append_lineEnd ht, ← List.cons_append] at h
  rw [skipBlanks_append_lineEnd ht', List.append_cancel_right h]
  rfl

/-- An entry in braces with the blanks around it, up to the character behind it. -/
theorem braced_alike {fuel depth : Nat} (hvalues : ValuesAlike t t' fuel) {c : Char}
    {u w rest : List Char} {path : Path} {extent : Extent} {value : Value}
    (h : EntryStep fuel depth (skipBlanks (u ++ t)) path extent value rest)
    (hbehind : skipBlanks rest = c :: (w ++ t)) :
    (∀ cs, skipBlanks (u ++ t') ≠ '\x7d' :: cs) ∧
      ∀ {fuel' depth' : Nat} {path' : Path} {extent' : Extent} {value' : Value}
        {rest' : List Char},
        EntryStep fuel' depth' (skipBlanks (u ++ t')) path' extent' value' rest' →
        skipBlanks rest' = c :: (w ++ t') := by
  obtain ⟨p, rfl⟩ := exists_append_of_suffix (v := c :: w) (hbehind ▸ skipBlanks_suffix rest)
  rw [skipBlanks_append_lineEnd ht] at h
  rw [skipBlanks_append_lineEnd ht']
  refine ⟨fun cs hbrace => ?_, fun h' => ?_⟩
  · obtain ⟨u', hu, -⟩ := exists_cons_of_append ht' (by decide) hbrace
    rw [hu] at h
    exact not_entryStep (by decide) (by decide) h
  · obtain ⟨rfl, -⟩ := h.alike ht ht' hvalues h'
    exact skipBlanks_alike ht ht' hbehind

end

mutual

theorem readValue?_alike (ht : LineEnd t) (ht' : LineEnd t') : ∀ fuel : Nat, ValuesAlike t t' fuel
  | 0 => by
      intro _ _ _ _ _ _ _ _ _ _ h
      cases h
  | fuel + 1 => by
      intro fuel' depth depth' u v rest extent extent' value value' h h'
      cases fuel' with
      | zero => cases h'
      | succ fuel' =>
          obtain ⟨rfl, hstep⟩ := valueStep_of_readValue? h
          obtain ⟨rfl, hstep'⟩ := valueStep_of_readValue? h'
          obtain ⟨hrest, hseen⟩ : rest = v ++ t' ∧ value'.seen = value.seen := by
            generalize hcs : u ++ t = cs at hstep
            cases hstep with
            | list hread =>
                obtain ⟨u, rfl, rfl⟩ := exists_cons_of_append ht (by decide) hcs
                cases hstep' with
                | list hread' => exact ⟨readItems?_alike ht ht' hread hread', rfl⟩
                | scalar hbracket _ _ => exact absurd rfl hbracket
            | table hread _ =>
                obtain ⟨u, rfl, rfl⟩ := exists_cons_of_append ht (by decide) hcs
                cases hstep' with
                | table hread' _ => exact ⟨readMembers?_alike ht ht' hread hread', rfl⟩
                | scalar _ hbrace _ => exact absurd rfl hbrace
            | scalar hbracket hbrace hscalar =>
                subst hcs
                generalize hcs' : u ++ t' = cs' at hstep'
                cases hstep' with
                | list _ =>
                    obtain ⟨u, rfl, -⟩ := exists_cons_of_append ht' (by decide) hcs'
                    exact absurd rfl hbracket
                | table _ _ =>
                    obtain ⟨u, rfl, -⟩ := exists_cons_of_append ht' (by decide) hcs'
                    exact absurd rfl hbrace
                | scalar _ _ hscalar' =>
                    rw [← hcs', keeps_readScalar.keep ht ht' hscalar] at hscalar'
                    obtain ⟨rfl, rfl⟩ := Prod.mk.inj (Option.some.inj hscalar')
                    exact ⟨rfl, rfl⟩
          exact ⟨hrest, by rw [hrest]; exact moved_of_append u v t t', hseen⟩

theorem readItems?_alike (ht : LineEnd t) (ht' : LineEnd t') :
    ∀ {fuel fuel' depth depth' : Nat} {u v rest : List Char}
      {items items' : List (Extent × Value)},
    readItems? fuel depth (u ++ t) = some (items, v ++ t) →
    readItems? fuel' depth' (u ++ t') = some (items', rest) → rest = v ++ t'
  | 0, _, _, _, _, _, _, _, _, h, _ => by cases h
  | _ + 1, 0, _, _, _, _, _, _, _, _, h' => by cases h'
  | fuel + 1, fuel' + 1, depth, depth', u, v, rest, items, items', h, h' => by
      cases itemsStep_of_readItems? h with
      | close hclose =>
          have hkeep := skipVoid?_keep (v := ']' :: v) (List.cons_ne_nil _ _)
            (fun h => nomatch h) false u t' hclose
          cases itemsStep_of_readItems? h' with
          | close hclose' =>
              exact (List.cons.inj (Option.some.inj (hkeep.symm.trans hclose'))).2.symm
          | last hvoid' hne' _ _ =>
              exact absurd (congrArg List.head? (Option.some.inj (hvoid'.symm.trans hkeep))) hne'
          | more hvoid' hne' _ _ _ =>
              exact absurd (congrArg List.head? (Option.some.inj (hvoid'.symm.trans hkeep))) hne'
      | last hvoid hne hread hclose =>
          obtain ⟨f, rfl, hfront, hbehind⟩ :=
            item_alike (readValue?_alike ht ht' fuel) (by decide) hvoid hread hclose
          cases itemsStep_of_readItems? h' with
          | close hclose' =>
              obtain ⟨_, rfl, -⟩ := exists_cons_of_append ht' (by decide)
                (Option.some.inj (hfront.symm.trans hclose'))
              exact absurd rfl hne
          | last hvoid' _ hread' hclose' =>
              obtain rfl := Option.some.inj (hfront.symm.trans hvoid')
              have hsame := Option.some.inj ((hbehind hread').symm.trans hclose')
              exact (List.cons.inj hsame).2.symm
          | more hvoid' _ hread' hcomma' _ =>
              obtain rfl := Option.some.inj (hfront.symm.trans hvoid')
              have hsame := Option.some.inj ((hbehind hread').symm.trans hcomma')
              exact absurd (List.cons.inj hsame).1 (by decide)
      | more hvoid hne hread hcomma hitems =>
          obtain ⟨l, rfl⟩ := exists_append_of_suffix (readItems?_suffix hitems)
          obtain ⟨f, rfl, hfront, hbehind⟩ :=
            item_alike (readValue?_alike ht ht' fuel) (by decide) hvoid hread hcomma
          cases itemsStep_of_readItems? h' with
          | close hclose' =>
              obtain ⟨_, rfl, -⟩ := exists_cons_of_append ht' (by decide)
                (Option.some.inj (hfront.symm.trans hclose'))
              exact absurd rfl hne
          | last hvoid' _ hread' hclose' =>
              obtain rfl := Option.some.inj (hfront.symm.trans hvoid')
              have hsame := Option.some.inj ((hbehind hread').symm.trans hclose')
              exact absurd (List.cons.inj hsame).1 (by decide)
          | more hvoid' _ hread' hcomma' hitems' =>
              obtain rfl := Option.some.inj (hfront.symm.trans hvoid')
              have hsame := Option.some.inj ((hbehind hread').symm.trans hcomma')
              obtain rfl := (List.cons.inj hsame).2
              exact readItems?_alike ht ht' hitems hitems'

theorem readMembers?_alike (ht : LineEnd t) (ht' : LineEnd t') :
    ∀ {fuel fuel' depth depth' : Nat} {first first' : Bool} {u v rest : List Char}
      {entries entries' : List (Path × Extent × Value)},
    readMembers? fuel depth first (u ++ t) = some (entries, v ++ t) →
    readMembers? fuel' depth' first' (u ++ t') = some (entries', rest) → rest = v ++ t'
  | 0, _, _, _, _, _, _, _, _, _, _, h, _ => by cases h
  | _ + 1, 0, _, _, _, _, _, _, _, _, _, _, h' => by cases h'
  | fuel + 1, fuel' + 1, depth, depth', first, first', u, v, rest, entries, entries', h, h' => by
      cases membersStep_of_readMembers? h with
      | close hclose =>
          have hfront := skipBlanks_alike ht ht' hclose
          cases membersStep_of_readMembers? h' with
          | close hclose' => exact (List.cons.inj (hfront.symm.trans hclose')).2.symm
          | last hentry' _ =>
              rw [hfront] at hentry'
              exact absurd hentry' (not_entryStep (by decide) (by decide))
          | more hentry' _ _ =>
              rw [hfront] at hentry'
              exact absurd hentry' (not_entryStep (by decide) (by decide))
      | last hentry hclose =>
          obtain ⟨hbrace, hbehind⟩ :=
            braced_alike ht ht' (readValue?_alike ht ht' fuel) hentry hclose
          cases membersStep_of_readMembers? h' with
          | close hclose' => exact absurd hclose' (hbrace _)
          | last hentry' hclose' =>
              exact (List.cons.inj ((hbehind hentry').symm.trans hclose')).2.symm
          | more hentry' hcomma' _ =>
              have hsame := (hbehind hentry').symm.trans hcomma'
              exact absurd (List.cons.inj hsame).1 (by decide)
      | more hentry hcomma hread =>
          obtain ⟨l, rfl⟩ := exists_append_of_suffix (readMembers?_suffix hread)
          obtain ⟨hbrace, hbehind⟩ :=
            braced_alike ht ht' (readValue?_alike ht ht' fuel) hentry hcomma
          cases membersStep_of_readMembers? h' with
          | close hclose' => exact absurd hclose' (hbrace _)
          | last hentry' hclose' =>
              have hsame := (hbehind hentry').symm.trans hclose'
              exact absurd (List.cons.inj hsame).1 (by decide)
          | more hentry' hcomma' hread' =>
              obtain rfl := (List.cons.inj ((hbehind hentry').symm.trans hcomma')).2
              exact readMembers?_alike ht ht' hread hread'

end

/-! ## Lines -/

theorem newline_of_afterNewline? {cs after : List Char} (h : afterNewline? cs = some after) :
    ∃ n, Newline n ∧ cs = n ++ after := by
  unfold afterNewline? at h
  split at h
  · exact ⟨['\n'], Or.inl rfl, by rw [← Option.some.inj h]; rfl⟩
  · exact ⟨['\r', '\n'], Or.inr rfl, by rw [← Option.some.inj h]; rfl⟩
  · cases h

theorem afterNewline?_of_newline {n : List Char} (h : Newline n) (after : List Char) :
    afterNewline? (n ++ after) = some after := by
  rcases h with rfl | rfl
  · rfl
  · rfl

/-- A line that ends in front of the end does so in front of another. -/
theorem afterNewline?_keep {u v : List Char} (t' : List Char)
    (h : afterNewline? (u ++ t) = some (v ++ t)) : afterNewline? (u ++ t') = some (v ++ t') := by
  obtain ⟨n, hn, heq⟩ := newline_of_afterNewline? h
  rw [← List.append_assoc] at heq
  rw [List.append_cancel_right heq, List.append_assoc]
  exact afterNewline?_of_newline hn _

theorem afterLine?_keep {u v : List Char} (hv : v ≠ []) (t' : List Char)
    (h : afterLine? (u ++ t) = some (v ++ t)) : afterLine? (u ++ t') = some (v ++ t') := by
  have hline {cs : List Char} (hcs : cs ≠ []) : afterLine? cs = afterNewline? cs := by
    rw [afterLine?]
    exact hcs
  have hu : u ++ t ≠ [] := by
    intro hnil
    have hlength := (afterLine?_suffix h).length_le
    have hpos := List.length_pos_of_ne_nil hv
    rw [hnil, List.length_append, List.length_nil] at hlength
    omega
  rw [hline hu] at h
  have hkeep := afterNewline?_keep t' h
  have hu' : u ++ t' ≠ [] := by
    intro hnil
    rw [hnil] at hkeep
    cases hkeep
  rwa [hline hu']

/-- A line of data does not begin like a line without. -/
theorem afterVoidLine?_of_readStatement? {u rest : List Char} {line : Statement} (hu : u ≠ [])
    (h : readStatement? (u ++ t) = some (line, rest)) : afterVoidLine? (u ++ t') = none := by
  obtain ⟨c, u, rfl⟩ := List.exists_cons_of_ne_nil hu
  by_cases hc : c = '#' ∨ c = '\n' ∨ c = '\r'
  · have hkey : isBlank c = false ∧ isKeyStart c = false := by
      rcases hc with rfl | rfl | rfl <;> decide
    have hstep := lineStep_of_readStatement? h
    rw [List.cons_append] at hstep
    generalize u ++ t = cs at hstep
    cases hstep with
    | header _ _ _ => simp at hc
    | listHeader _ _ => simp at hc
    | entry _ hentry _ => exact absurd hentry (not_entryStep hkey.1 hkey.2)
  · simp only [not_or] at hc
    rw [List.cons_append, afterVoidLine?, afterNewline?]
    · exact fun _ h => hc.2.1 (List.cons.inj h).1
    · exact fun _ h => hc.2.2 (List.cons.inj h).1
    · exact fun _ h => hc.1 (List.cons.inj h).1

section

variable (ht : LineEnd t) (ht' : LineEnd t')

include ht ht'

theorem finishLine?_keep {u v : List Char} (hv : v ≠ [])
    (h : finishLine? (u ++ t) = some (v ++ t)) : finishLine? (u ++ t') = some (v ++ t') := by
  rw [finishLine?, skipBlanks_append_lineEnd ht, skipComment_append_lineEnd ht] at h
  rw [finishLine?, skipBlanks_append_lineEnd ht', skipComment_append_lineEnd ht']
  exact afterLine?_keep hv t' h

theorem afterVoidLine?_keep {u v : List Char} (hv : v ≠ [])
    (h : afterVoidLine? (u ++ t) = some (v ++ t)) : afterVoidLine? (u ++ t') = some (v ++ t') := by
  by_cases hhash : (u ++ t).head? = some '#'
  · obtain ⟨u, rfl⟩ := List.head?_eq_some_iff.mp (head?_of_append ht (by decide) hhash)
    have hstep : afterLine? (skipComment ('#' :: u ++ t)) = some (v ++ t) := h
    rw [skipComment_append_lineEnd ht] at hstep
    show afterLine? (skipComment ('#' :: u ++ t')) = some (v ++ t')
    rw [skipComment_append_lineEnd ht']
    exact afterLine?_keep hv t' hstep
  · have hvoid {cs : List Char} (hcs : cs.head? ≠ some '#') :
        afterVoidLine? cs = afterNewline? cs := by
      rw [afterVoidLine?]
      rintro rest rfl
      exact hcs rfl
    rw [hvoid hhash] at h
    have hkeep := afterNewline?_keep t' h
    rw [hvoid, hkeep]
    intro hhead
    obtain ⟨rest, hrest⟩ := List.head?_eq_some_iff.mp hhead
    rw [hrest] at hkeep
    cases hkeep

/-- An entry whose value was read in front of the end. -/
theorem entry_alike {fuel depth : Nat} {u v rest : List Char} {path : Path} {extent : Extent}
    {value : Value} {line' : Statement} (hbracket : (u ++ t).head? ≠ some '[')
    (h : EntryStep fuel depth (u ++ t) path extent value (v ++ t))
    (h' : readStatement? (u ++ t') = some (line', rest)) :
    finishLine? (v ++ t') = some rest
      ∧ (Statement.entry path extent value).Alike t t' line' := by
  have hstep' := lineStep_of_readStatement? h'
  generalize hcs' : u ++ t' = cs' at hstep'
  cases hstep' with
  | header _ _ _ =>
      obtain ⟨u, rfl, -⟩ := exists_cons_of_append ht' (by decide) hcs'
      exact absurd rfl hbracket
  | listHeader _ _ =>
      obtain ⟨u, rfl, -⟩ := exists_cons_of_append ht' (by decide) hcs'
      exact absurd rfl hbracket
  | entry _ hentry' hfinish' =>
      subst hcs'
      obtain ⟨rfl, halike⟩ := h.alike ht ht' (readValue?_alike ht ht' fuel) hentry'
      exact ⟨hfinish', halike⟩

/-- A line that was read in front of the end, with its line end. -/
theorem readStatement?_alike {u v rest : List Char} {line line' : Statement} (hv : v ≠ [])
    (h : readStatement? (u ++ t) = some (line, v ++ t))
    (h' : readStatement? (u ++ t') = some (line', rest)) :
    rest = v ++ t' ∧ line.Alike t t' line' := by
  have hstep := lineStep_of_readStatement? h
  have hstep' := lineStep_of_readStatement? h'
  generalize hcs : u ++ t = cs at hstep
  cases hstep with
  | header hinner hpath hfinish =>
      obtain ⟨u, rfl, rfl⟩ := exists_cons_of_append ht (by decide) hcs
      obtain ⟨p, rfl⟩ := exists_append_of_suffix (finishLine?_suffix hfinish)
      rw [List.cons_append] at hstep'
      generalize hinner' : u ++ t' = inner' at hstep'
      cases hstep' with
      | header _ hpath' hfinish' =>
          subst hinner'
          obtain ⟨hafter, hkeys⟩ := readPath?_alike ht ht' (v := ']' :: (p ++ v)) hpath hpath'
          have hkeep := finishLine?_keep ht ht' hv hfinish
          rw [(List.cons.inj hafter).2, List.append_eq, hkeep] at hfinish'
          exact ⟨(Option.some.inj hfinish').symm, .header hkeys⟩
      | listHeader _ _ =>
          obtain ⟨u, rfl, -⟩ := exists_cons_of_append ht' (by decide) hinner'
          exact absurd rfl hinner
      | entry hbracket _ _ => exact absurd rfl hbracket
  | listHeader hpath hfinish =>
      obtain ⟨u, rfl, hu⟩ := exists_cons_of_append ht (by decide) hcs
      obtain ⟨u, rfl, rfl⟩ := exists_cons_of_append ht (by decide) hu.symm
      obtain ⟨p, rfl⟩ := exists_append_of_suffix (finishLine?_suffix hfinish)
      cases hstep' with
      | header hinner' _ _ => exact absurd rfl hinner'
      | listHeader hpath' hfinish' =>
          obtain ⟨hafter, hkeys⟩ :=
            readPath?_alike ht ht' (v := ']' :: ']' :: (p ++ v)) hpath hpath'
          have hrest := (List.cons.inj (List.cons.inj hafter).2).2
          rw [hrest, List.append_eq, finishLine?_keep ht ht' hv hfinish] at hfinish'
          exact ⟨(Option.some.inj hfinish').symm, .listHeader hkeys⟩
      | entry hbracket _ _ => exact absurd rfl hbracket
  | entry hbracket hentry hfinish =>
      subst hcs
      obtain ⟨p, rfl⟩ := exists_append_of_suffix (finishLine?_suffix hfinish)
      obtain ⟨hfinish', halike⟩ := entry_alike ht ht' hbracket hentry h'
      rw [finishLine?_keep ht ht' hv hfinish] at hfinish'
      exact ⟨(Option.some.inj hfinish').symm, halike⟩

omit ht in
/-- Where one reading meets a line of data, so does the other. -/
theorem data_alike {fuel : Nat} {u rest : List Char} {line : Statement} {lines' : List Statement}
    (hu : skipBlanks u ≠ []) (hline : readStatement? (skipBlanks u ++ t) = some (line, rest))
    (h' : readStatements? (fuel + 1) (u ++ t') = some lines') :
    ∃ line' rest' later', lines' = line' :: later'
      ∧ readStatement? (skipBlanks u ++ t') = some (line', rest')
      ∧ readStatements? fuel rest' = some later' := by
  have hblanks := skipBlanks_append_lineEnd ht' u
  cases linesStep_of_readStatements? h' with
  | stop hstop =>
      rw [hblanks] at hstop
      exact absurd (List.append_eq_nil_iff.mp hstop).1 hu
  | void hvoid _ =>
      rw [hblanks, afterVoidLine?_of_readStatement? hu hline] at hvoid
      cases hvoid
  | data hline' hread' => exact ⟨_, _, _, rfl, hblanks ▸ hline', hread'⟩

/-- Where one reading meets a line without data, so does the other. -/
theorem void_alike {fuel : Nat} {u v : List Char} {lines' : List Statement} (hv : v ≠ [])
    (hu : skipBlanks u ≠ []) (hvoid : afterVoidLine? (skipBlanks u ++ t) = some (v ++ t))
    (h' : readStatements? (fuel + 1) (u ++ t') = some lines') :
    readStatements? fuel (v ++ t') = some lines' := by
  have hblanks := skipBlanks_append_lineEnd ht' u
  have hkeep := afterVoidLine?_keep ht ht' hv hvoid
  cases linesStep_of_readStatements? h' with
  | stop hstop =>
      rw [← hblanks, hstop] at hkeep
      cases hkeep
  | void hvoid' hread' =>
      rw [hblanks, hkeep] at hvoid'
      rwa [Option.some.inj hvoid']
  | data hline' _ =>
      rw [hblanks] at hline'
      rw [afterVoidLine?_of_readStatement? hu hline'] at hkeep
      cases hkeep

/-- **The lines in front of another end are read alike**, up to any entry whose value ends in front
of it. -/
theorem readStatements?_alike {fuel fuel' : Nat} {u : List Char} {pre post lines' : List Statement}
    {path : Path} {extent : Extent} {value : Value}
    (h : readStatements? fuel (u ++ t) = some (pre ++ .entry path extent value :: post))
    (hstop : t.length ≤ extent.stop) (h' : readStatements? fuel' (u ++ t') = some lines') :
    ∃ pre' line' post', lines' = pre' ++ line' :: post'
      ∧ List.Forall₂ (Statement.Alike t t') pre pre'
      ∧ (Statement.entry path extent value).Alike t t' line' := by
  induction fuel generalizing fuel' u pre lines' with
  | zero => cases h
  | succ fuel ih =>
      obtain ⟨fuel', rfl⟩ : ∃ n, fuel' = n + 1 := by
        cases fuel' with
        | zero => cases h'
        | succ n => exact ⟨n, rfl⟩
      have hblanks := skipBlanks_append_lineEnd ht u
      have hstep := linesStep_of_readStatements? h
      generalize hlines : pre ++ Statement.entry path extent value :: post = lines at hstep
      cases hstep with
      | stop _ => exact absurd hlines (by simp)
      | void hvoid hread =>
          rw [hblanks] at hvoid
          subst hlines
          obtain ⟨v, hv, rfl, hu⟩ := exists_append_of_length_lt (afterVoidLine?_suffix hvoid)
            (hstop.trans_lt (stop_lt_of_readStatements? hread))
          exact ih hread (void_alike ht ht' hv hu hvoid h')
      | data hline hread =>
          rw [hblanks] at hline
          cases pre with
          | nil =>
              obtain ⟨rfl, rfl⟩ := List.cons.inj hlines
              have hentry := lineStep_of_readStatement? hline
              generalize hcs : skipBlanks u ++ t = cs at hentry
              cases hentry with
              | entry hbracket hentry _ =>
                  subst hcs
                  obtain ⟨hafter, hlt⟩ := hentry.stop
                  obtain ⟨v, rfl⟩ := exists_append_of_length hentry.suffix (hafter ▸ hstop)
                  have hu : skipBlanks u ≠ [] := by
                    rintro hnil
                    rw [hnil, List.nil_append] at hlt
                    omega
                  obtain ⟨line', rest', later', rfl, hline', -⟩ := data_alike ht' hu hline h'
                  exact ⟨[], line', later', rfl, .nil,
                    (entry_alike ht ht' hbracket hentry hline').2⟩
          | cons first pre =>
              obtain ⟨rfl, rfl⟩ := List.cons.inj hlines
              have hsuffix := (readStatement?_sound (List.suffix_refl _) hline).1
              obtain ⟨v, hv, rfl, hu⟩ := exists_append_of_length_lt hsuffix
                (hstop.trans_lt (stop_lt_of_readStatements? hread))
              obtain ⟨line', rest', later', rfl, hline', hread'⟩ := data_alike ht' hu hline h'
              obtain ⟨rfl, halike⟩ := readStatement?_alike ht ht' hv hline hline'
              obtain ⟨pre', line', post', rfl, hpre, hentry⟩ := ih hread hread'
              exact ⟨_ :: pre', line', post', rfl, .cons halike hpre, hentry⟩

/-! ## Documents -/

omit ht ht' in
theorem dropMark_append_of_ne_nil {front : List Char} (hfront : front ≠ []) (t : List Char) :
    dropMark (front ++ t) = dropMark front ++ t := by
  obtain ⟨c, front, rfl⟩ := List.exists_cons_of_ne_nil hfront
  by_cases hc : c = '\ufeff'
  · subst hc
    rfl
  · rw [dropMark_cons hc, List.cons_append, dropMark_cons hc]

/-- **Documents that agree up to the end of a line** are read alike up to any entry whose value ends
there. -/
theorem statements?_alike {front : List Char} {pre post lines' : List Statement} {path : Path}
    {extent : Extent} {value : Value}
    (h : statements? (front ++ t) = some (pre ++ .entry path extent value :: post))
    (hstop : t.length ≤ extent.stop) (h' : statements? (front ++ t') = some lines') :
    ∃ pre' line' post', lines' = pre' ++ line' :: post'
      ∧ List.Forall₂ (Statement.Alike t t') pre pre'
      ∧ (Statement.entry path extent value).Alike t t' line' := by
  have hfront : front ≠ [] := by
    rintro rfl
    have hlt := stop_lt_of_readStatements? h
    have hmark := length_dropMark_le t
    simp only [List.nil_append] at hlt
    omega
  rw [statements?, dropMark_append_of_ne_nil hfront] at h h'
  exact readStatements?_alike ht ht' h hstop h'

/-- What stands in front of the end is sighted alike. -/
theorem sight_alike {front : List Char} {extent extent' : Extent} (h : Moved t t' extent extent')
    (hstart : extent.start ≤ (front ++ t).length) :
    sight (front ++ t') extent' = sight (front ++ t) extent := by
  obtain ⟨start, stop, rfl, rfl⟩ := h
  have hfront : start ≤ front.length := by
    rw [List.length_append] at hstart
    exact Nat.le_of_add_le_add_right hstart
  -- In either text the place is that of `start` characters of the front.
  have hplace {t : List Char} (ht : LineEnd t) :
      sight (front ++ t) ⟨start + t.length, stop + t.length⟩ = sight front ⟨start, stop⟩ := by
    have hstart : (front ++ t).length - (start + t.length) = front.length - start := by
      rw [List.length_append, Nat.add_sub_add_right]
    have htoken : start - stop ≤ (front.drop (front.length - start)).length := by
      rw [List.length_drop]
      omega
    have hbefore : front.length - start ≤ front.length := Nat.sub_le _ _
    simp only [sight, hstart, Nat.add_sub_add_right, List.take_append_of_le_length hbefore,
      List.drop_append_of_le_length hbefore, List.take_append_of_le_length htoken,
      takeWhile_append_lineEnd ht]
  rw [hplace ht, hplace ht']

end

end Toml

end GlyphBook
