import GlyphBook.Proofs.Json.Form

/-!
# Texts are read from front to back

What a reader makes of a text depends on what it has met so far and on nothing behind it. This has
two sides. When the items in front are good and the next one is not, its error is the error of the
whole text (`readBracketed_of_leading`). And a text that breaks off before its value is complete is
no JSON (`readAll_of_cut`), because a reader that is given less of a text finds the same or runs
into the end (`Streams`).

Lists and tables differ in their brackets and in what an item is, so both are read by one reader
with these as parameters (`readBracketed`).
-/

namespace GlyphBook

namespace Json

/-! ## One reader for lists and tables -/

/-- An element of a list. Behind the bracket or a comma it may not be missing. -/
def element (value : Reader α) : Reader α := fun cs =>
  match skipBlanks cs with
  | [] => .error .notJson
  | ']' :: _ => .error .notJson
  | front => value front

def member (value : Reader α) : Reader (String × α) := fun cs => readMember value (skipBlanks cs)

def followed (item : Reader α) (later : Reader (List α)) : Reader (List α) := fun cs => do
  let (v, after) ← item cs
  let (vs, after) ← later after
  return (v :: vs, after)

def readItems (closing : Char) (item : Reader α) : Nat → Reader (List α)
  | 0, _ => .error .notJson
  | fuel + 1, cs =>
    match skipBlanks cs with
    | [] => .error .notJson
    | c :: rest =>
      if c = closing then .ok ([], rest)
      else if c = ',' then followed item (readItems closing item fuel) rest
      else .error .notJson

/-- The items behind the first one, with as much fuel as there are characters. -/
def readRest (closing : Char) (item : Reader α) : Reader (List α) := fun cs =>
  readItems closing item (cs.length + 1) cs

def readBracketed (opening closing : Char) (expected : String) (item : Reader α) :
    Reader (List α) := fun cs =>
  match skipBlanks cs with
  | [] => .error .notJson
  | c :: rest =>
    if c = opening then
      match skipBlanks rest with
      | [] => .error .notJson
      | c :: after =>
        if c = closing then .ok ([], after) else followed item (readRest closing item) rest
    else .error (refuse expected (seenAt? (c :: rest)))

theorem readElements_eq (value : Reader α) (fuel : Nat) (cs : List Char) :
    readElements value fuel cs = readItems ']' (element value) fuel cs := by
  induction fuel generalizing cs with
  | zero => rfl
  | succ fuel ih =>
      unfold readElements readItems
      cases skipBlanks cs with
      | nil => rfl
      | cons c rest =>
          by_cases hclose : c = ']'
          · subst hclose
            rfl
          · by_cases hcomma : c = ','
            · subst hcomma
              have hlater : readElements value fuel = readItems ']' (element value) fuel :=
                funext ih
              simp only [Char.reduceEq, if_false, if_true, followed, element, ← hlater]
              cases skipBlanks rest with
              | nil => rfl
              | cons c rest =>
                  by_cases hclose : c = ']'
                  · subst hclose
                    rfl
                  · simp [hclose]
            · simp [hclose, hcomma]

theorem readMembers_eq (value : Reader α) (fuel : Nat) (cs : List Char) :
    readMembers value fuel cs = readItems '}' (member value) fuel cs := by
  induction fuel generalizing cs with
  | zero => rfl
  | succ fuel ih =>
      unfold readMembers readItems
      cases skipBlanks cs with
      | nil => rfl
      | cons c rest =>
          by_cases hclose : c = '}'
          · subst hclose
            rfl
          · by_cases hcomma : c = ','
            · subst hcomma
              have hlater : readMembers value fuel = readItems '}' (member value) fuel := funext ih
              simp only [Char.reduceEq, if_false, if_true, followed, member, ← hlater]
            · simp [hclose, hcomma]

theorem readList_eq (value : Reader α) :
    readList value = readBracketed '[' ']' "a sequence" (element value) := by
  funext cs
  unfold readList readBracketed
  cases skipBlanks cs with
  | nil => rfl
  | cons c rest =>
      by_cases hopen : c = '['
      · subst hopen
        simp only [if_true, followed, element, readRest, ← readElements_eq]
        cases skipBlanks rest with
        | nil => rfl
        | cons c rest =>
            by_cases hclose : c = ']'
            · subst hclose
              rfl
            · simp [hclose]
      · simp [hopen]

theorem readTable_eq (value : Reader α) :
    readTable value = readBracketed '{' '}' "a map" (member value) := by
  funext cs
  unfold readTable readBracketed
  cases skipBlanks cs with
  | nil => rfl
  | cons c rest =>
      by_cases hopen : c = '{'
      · subst hopen
        simp only [if_true, followed, member, readRest, ← readMembers_eq]
        cases skipBlanks rest with
        | nil => rfl
        | cons c rest =>
            by_cases hclose : c = '}'
            · subst hclose
              rfl
            · simp [hclose]
      · simp [hopen]

section

variable {opening closing : Char} {expected : String} {item : Reader α} {cs t t' : List Char}

theorem readBracketed_broken (h : skipBlanks cs = opening :: t) (ht : skipBlanks t = []) :
    readBracketed opening closing expected item cs = .error .notJson := by
  simp [readBracketed, h, ht]

theorem readBracketed_empty (h : skipBlanks cs = opening :: t) (ht : skipBlanks t = closing :: t') :
    readBracketed opening closing expected item cs = .ok ([], t') := by
  simp [readBracketed, h, ht]

theorem readBracketed_items {c : Char} (h : skipBlanks cs = opening :: t)
    (ht : skipBlanks t = c :: t') (hc : c ≠ closing) :
    readBracketed opening closing expected item cs = followed item (readRest closing item) t := by
  simp [readBracketed, h, ht, hc]

end

theorem element_of_cons (value : Reader α) {cs t : List Char} {c : Char}
    (h : skipBlanks cs = c :: t) (hc : c ≠ ']') : element value cs = value (c :: t) := by
  rw [element, h]
  simp [hc]

theorem element_reads {value : Reader α} {form : List Char → α → Prop} (hvalue : Reads value form)
    (hquoted : Quoted form) : Reads (element value) form := by
  intro text v rest
  rw [← hvalue.afterBlanks hquoted text v rest]
  constructor
  · intro h
    unfold element at h
    split at h
    · cases h
    · cases h
    · exact h
  · intro h
    obtain ⟨b, w, hb, hw, rfl⟩ := (hvalue.afterBlanks hquoted text v rest).mp h
    obtain ⟨u, rfl⟩ := hquoted w v hw
    have hfront : skipBlanks (b ++ ('"' :: u ++ rest)) = '"' :: (u ++ rest) := by
      rw [skipBlanks_append hb, List.cons_append, skipBlanks_quote]
    rw [element_of_cons value hfront (by decide), ← hfront]
    exact h

/-! ## The first problem -/

/-- Good items in front, each with a comma behind it. -/
inductive Leading (form : List Char → α → Prop) : List Char → List α → Prop where
  | nil : Leading form [] []
  | cons {b w b' t : List Char} {v : α} {vs : List α} :
      Blank b → form w v → Blank b' → Leading form t vs →
      Leading form (b ++ (w ++ (b' ++ ',' :: t))) (v :: vs)

theorem Leading.length_le {form : List Char → α → Prop} {lead : List Char} {vs : List α}
    (h : Leading form lead vs) : vs.length ≤ lead.length := by
  induction h with
  | nil => exact Nat.le_refl 0
  | cons _ _ _ _ ih =>
      simp only [List.length_cons, List.length_append]
      omega

section

variable {item : Reader α} {form : List Char → α → Prop} {closing : Char} {lead bad : List Char}
  {vs : List α} {e : Error}

theorem followed_of_ok {cs after : List Char} {v : α} (h : item cs = .ok (v, after))
    (later : Reader (List α)) :
    followed item later cs = (later after).map fun (vs, after) => (v :: vs, after) := by
  rw [followed, h]
  show (later after >>= fun result => Except.ok (v :: result.1, result.2)) = _
  cases later after <;> rfl

theorem followed_of_error {cs : List Char} (h : item cs = .error e) (later : Reader (List α)) :
    followed item later cs = .error e := by
  rw [followed, h]
  rfl

theorem readItems_comma (hclosing : closing ≠ ',') (item : Reader α) (fuel : Nat) {b : List Char}
    (hb : Blank b) (rest : List Char) :
    readItems closing item (fuel + 1) (b ++ ',' :: rest)
      = followed item (readItems closing item fuel) rest := by
  have hfront : skipBlanks (b ++ ',' :: rest) = ',' :: rest := by
    rw [skipBlanks_append hb, skipBlanks_cons (by decide)]
  rw [readItems, hfront]
  show (if ',' = closing then _ else _) = _
  rw [if_neg hclosing.symm, if_pos rfl]

/-- Behind good items the loop meets the problem. -/
theorem readItems_of_leading (hitem : Reads item form) (hclosing : closing ≠ ',')
    (hlead : Leading form lead vs) (hbad : item bad = .error e) {fuel : Nat} {b : List Char}
    (hfuel : vs.length < fuel) (hb : Blank b) :
    readItems closing item fuel (b ++ ',' :: (lead ++ bad)) = .error e := by
  induction hlead generalizing fuel b with
  | nil =>
      obtain ⟨fuel, rfl⟩ := Nat.exists_eq_succ_of_ne_zero (Nat.ne_of_gt hfuel)
      rw [List.nil_append, readItems_comma hclosing item fuel hb]
      exact followed_of_error hbad _
  | @cons b₀ w b' t v vs hb₀ hw hb' _ ih =>
      obtain ⟨fuel, rfl⟩ := Nat.exists_eq_succ_of_ne_zero (Nat.ne_of_gt (Nat.zero_lt_of_lt hfuel))
      have hlater := ih (Nat.lt_of_succ_lt_succ hfuel) hb'
      have hfirst : item (b₀ ++ (w ++ (b' ++ ',' :: (t ++ bad))))
          = .ok (v, b' ++ ',' :: (t ++ bad)) := (hitem _ _ _).mpr ⟨b₀, w, hb₀, hw, rfl⟩
      rw [readItems_comma hclosing item fuel hb]
      simp only [List.append_assoc, List.cons_append]
      rw [followed_of_ok hfirst, hlater]
      rfl

/-- Good items do not start with the closing bracket, so there is a first item. -/
theorem Leading.starts (hquoted : Quoted form) (hquote : closing ≠ '"')
    (hlead : Leading form lead vs) (hstart : ∃ c t, skipBlanks bad = c :: t ∧ c ≠ closing) :
    ∃ c t, skipBlanks (lead ++ bad) = c :: t ∧ c ≠ closing := by
  cases hlead with
  | nil => exact hstart
  | @cons b w b' t v vs hb hw _ _ =>
      obtain ⟨u, rfl⟩ := hquoted w v hw
      refine ⟨'"', u ++ (b' ++ ',' :: (t ++ bad)), ?_, hquote.symm⟩
      simp [skipBlanks_append hb, skipBlanks_quote]

/-- **The first problem decides**, whatever its text goes on with. -/
theorem readBracketed_of_leading {opening : Char} {expected : String} (hitem : Reads item form)
    (hquoted : Quoted form) (hopening : isBlank opening = false) (hclosing : closing ≠ ',')
    (hquote : closing ≠ '"') (hlead : Leading form lead vs) (hbad : item bad = .error e)
    (hstart : ∃ c t, skipBlanks bad = c :: t ∧ c ≠ closing) {b : List Char} (hb : Blank b) :
    readBracketed opening closing expected item (b ++ opening :: (lead ++ bad)) = .error e := by
  have hfront : skipBlanks (b ++ opening :: (lead ++ bad)) = opening :: (lead ++ bad) := by
    rw [skipBlanks_append hb, skipBlanks_cons hopening]
  obtain ⟨c, t, hstart, hc⟩ := hlead.starts hquoted hquote hstart
  rw [readBracketed_items hfront hstart hc]
  cases hlead with
  | nil => exact followed_of_error hbad _
  | @cons b₀ w b' t v vs hb₀ hw hb' ht =>
      have hfirst : item (b₀ ++ (w ++ (b' ++ ',' :: (t ++ bad))))
          = .ok (v, b' ++ ',' :: (t ++ bad)) := (hitem _ _ _).mpr ⟨b₀, w, hb₀, hw, rfl⟩
      -- Every good item takes a comma at least, so there is fuel left when the problem is reached.
      have hfuel : vs.length < (b' ++ ',' :: (t ++ bad)).length + 1 := by
        have := ht.length_le
        simp only [List.length_append, List.length_cons]
        omega
      have hlater : readRest closing item (b' ++ ',' :: (t ++ bad)) = .error e :=
        readItems_of_leading hitem hclosing ht hbad hfuel hb'
      simp only [List.append_assoc, List.cons_append]
      rw [followed_of_ok hfirst, hlater]
      rfl

end

/-! ## Less of a text -/

/-- A reader that is given only the front of a text finds the same or meets the end. Both readers of
the statement are the same, but for loops, which may have less fuel for less of a text. -/
def Streams (reader reader' : Reader α) : Prop :=
  ∀ p q v rest, reader (p ++ q) = .ok (v, rest) →
    reader' p = .error .notJson ∨ ∃ rest', reader' p = .ok (v, rest') ∧ rest = rest' ++ q

theorem skipBlanks_append_of_cons {p rest : List Char} {c : Char} (h : skipBlanks p = c :: rest)
    (q : List Char) : skipBlanks (p ++ q) = c :: (rest ++ q) := by
  unfold skipBlanks at h ⊢
  rw [List.dropWhile_append, h]
  rfl

theorem readString_quote {cs t : List Char} (h : skipBlanks cs = '"' :: t) :
    readString cs = match readText? t with
      | some (text, after) => .ok (String.ofList text, after)
      | none => .error .notJson := by
  rw [readString, h]
  rfl

/-- Of less of a text a string is read alike, or its closing quote is missing. -/
theorem readText?_of_append {t q cs rest : List Char} (h : readText? (t ++ q) = some (cs, rest)) :
    readText? t = none ∨ ∃ after, readText? t = some (cs, after) ∧ rest = after ++ q := by
  cases hread : readText? t with
  | none => exact Or.inl rfl
  | some result =>
      obtain ⟨cs', after⟩ := result
      obtain ⟨w, rfl, hw⟩ := readText?_eq_some_iff.mp hread
      have hmore : readText? (w ++ '"' :: after ++ q) = some (cs', after ++ q) :=
        readText?_eq_some_iff.mpr ⟨w, by simp, hw⟩
      rw [hmore] at h
      obtain ⟨rfl, rfl⟩ := Prod.mk.inj (Option.some.inj h)
      exact Or.inr ⟨after, rfl, rfl⟩

theorem streams_readString : Streams readString readString := by
  intro p q v rest h
  cases hfront : skipBlanks p with
  | nil =>
      left
      rw [readString, hfront]
      rfl
  | cons c t =>
      by_cases hquote : c = '"'
      · subst hquote
        rw [readString_quote (skipBlanks_append_of_cons hfront q)] at h
        rw [readString_quote hfront]
        split at h
        · next text after hread =>
            obtain ⟨rfl, rfl⟩ := Prod.mk.inj (Except.ok.inj h)
            rcases readText?_of_append hread with hnone | ⟨rest', hsome, rfl⟩
            · rw [hnone]
              exact Or.inl rfl
            · rw [hsome]
              exact Or.inr ⟨rest', rfl, rfl⟩
        · cases h
      · rw [readString, skipBlanks_append_of_cons hfront] at h
        simp [hquote] at h

theorem streams_followed {item : Reader α} {later later' : Reader (List α)}
    (hitem : Streams item item) (hlater : Streams later later') :
    Streams (followed item later) (followed item later') := by
  intro p q vs rest h
  obtain ⟨⟨v, after⟩, hv, h⟩ := bind_eq_ok_iff.mp h
  obtain ⟨⟨vs', after'⟩, hvs, h⟩ := bind_eq_ok_iff.mp h
  obtain ⟨rfl, rfl⟩ := Prod.mk.inj (Except.ok.inj h)
  rcases hitem p q v after hv with herror | ⟨rest', hread, rfl⟩
  · exact Or.inl (followed_of_error herror later')
  · rw [followed_of_ok hread]
    rcases hlater rest' q vs' after' hvs with herror | ⟨rest'', hread', rfl⟩
    · rw [herror]
      exact Or.inl rfl
    · rw [hread']
      exact Or.inr ⟨rest'', rfl, rfl⟩

theorem streams_element {value : Reader α} (hvalue : Streams value value) :
    Streams (element value) (element value) := by
  intro p q v rest h
  cases hfront : skipBlanks p with
  | nil =>
      left
      rw [element, hfront]
  | cons c t =>
      by_cases hclose : c = ']'
      · subst hclose
        rw [element, skipBlanks_append_of_cons hfront] at h
        cases h
      · rw [element_of_cons value (skipBlanks_append_of_cons hfront q) hclose] at h
        rw [element_of_cons value hfront hclose]
        exact hvalue (c :: t) q v rest h

/-- A key has been read: what follows is a colon and a value. -/
def readKeyed (value : Reader α) (key : List Char) : Reader (String × α) := fun cs =>
  match skipBlanks cs with
  | ':' :: rest => (value rest).map fun (v, after) => ((String.ofList key, v), after)
  | _ => .error .notJson

theorem readMember_quote (value : Reader α) (t : List Char) :
    readMember value ('"' :: t) = match readText? t with
      | none => .error .notJson
      | some (key, after) => readKeyed value key after := rfl

theorem readKeyed_colon (value : Reader α) (key : List Char) {cs t : List Char}
    (h : skipBlanks cs = ':' :: t) : readKeyed value key cs
      = (value t).map fun (v, after) => ((String.ofList key, v), after) := by
  rw [readKeyed, h]
  rfl

theorem streams_readKeyed {value : Reader α} (hvalue : Streams value value) (key : List Char) :
    Streams (readKeyed value key) (readKeyed value key) := by
  intro p q m rest h
  cases hfront : skipBlanks p with
  | nil =>
      left
      rw [readKeyed, hfront]
  | cons c t =>
      by_cases hcolon : c = ':'
      · subst hcolon
        rw [readKeyed_colon value key (skipBlanks_append_of_cons hfront q)] at h
        rw [readKeyed_colon value key hfront]
        cases hread : value (t ++ q) with
        | error e =>
            rw [hread] at h
            cases h
        | ok result =>
            obtain ⟨v, after⟩ := result
            rw [hread] at h
            obtain ⟨rfl, rfl⟩ := Prod.mk.inj (Except.ok.inj h)
            rcases hvalue t q v after hread with herror | ⟨rest', hsome, rfl⟩
            · rw [herror]
              exact Or.inl rfl
            · rw [hsome]
              exact Or.inr ⟨rest', rfl, rfl⟩
      · rw [readKeyed, skipBlanks_append_of_cons hfront] at h
        simp [hcolon] at h

theorem streams_member {value : Reader α} (hvalue : Streams value value) :
    Streams (member value) (member value) := by
  intro p q m rest h
  cases hfront : skipBlanks p with
  | nil =>
      left
      rw [member, hfront]
      rfl
  | cons c t =>
      rw [member, skipBlanks_append_of_cons hfront] at h
      rw [member, hfront]
      by_cases hquote : c = '"'
      · subst hquote
        rw [readMember_quote] at h ⊢
        split at h
        · cases h
        · next key after hread =>
            rcases readText?_of_append hread with hnone | ⟨after', hsome, rfl⟩
            · rw [hnone]
              exact Or.inl rfl
            · rw [hsome]
              exact streams_readKeyed hvalue key after' q m rest h
      · simp [readMember, hquote] at h

theorem streams_readItems {item : Reader α} (hitem : Streams item item) (closing : Char)
    (fuel fuel' : Nat) :
    Streams (readItems closing item fuel) (readItems closing item fuel') := by
  -- The loop over less of a text may run out of fuel: that is the error of a text that breaks off.
  induction fuel' generalizing fuel with
  | zero => exact fun _ _ _ _ _ => Or.inl rfl
  | succ fuel' ih =>
      intro p q vs rest h
      cases fuel with
      | zero => cases h
      | succ fuel =>
          cases hfront : skipBlanks p with
          | nil =>
              left
              rw [readItems, hfront]
          | cons c t =>
              rw [readItems, skipBlanks_append_of_cons hfront] at h
              rw [readItems, hfront]
              simp only at h ⊢
              by_cases hclose : c = closing
              · rw [if_pos hclose] at h ⊢
                obtain ⟨rfl, rfl⟩ := Prod.mk.inj (Except.ok.inj h)
                exact Or.inr ⟨t, rfl, rfl⟩
              · rw [if_neg hclose] at h ⊢
                by_cases hcomma : c = ','
                · rw [if_pos hcomma] at h ⊢
                  exact streams_followed hitem (ih fuel) t q vs rest h
                · rw [if_neg hcomma] at h
                  cases h

theorem streams_readBracketed {item : Reader α} (hitem : Streams item item)
    (opening closing : Char) (expected : String) :
    Streams (readBracketed opening closing expected item)
      (readBracketed opening closing expected item) := by
  have hrest : Streams (readRest closing item) (readRest closing item) := fun p q =>
    streams_readItems hitem closing _ _ p q
  intro p q vs rest h
  cases hfront : skipBlanks p with
  | nil =>
      left
      rw [readBracketed, hfront]
  | cons c t =>
      by_cases hopen : c = opening
      · subst hopen
        cases hinner : skipBlanks t with
        | nil => exact Or.inl (readBracketed_broken hfront hinner)
        | cons c' t' =>
            have hmore := skipBlanks_append_of_cons hinner q
            by_cases hclose : c' = closing
            · subst hclose
              rw [readBracketed_empty (skipBlanks_append_of_cons hfront q) hmore] at h
              obtain ⟨rfl, rfl⟩ := Prod.mk.inj (Except.ok.inj h)
              exact Or.inr ⟨t', readBracketed_empty hfront hinner, rfl⟩
            · rw [readBracketed_items (skipBlanks_append_of_cons hfront q) hmore hclose] at h
              rw [readBracketed_items hfront hinner hclose]
              exact streams_followed hitem hrest t q vs rest h
      · rw [readBracketed, skipBlanks_append_of_cons hfront] at h
        simp [hopen] at h

/-- **A text that breaks off is no JSON.** -/
theorem readAll_of_cut {reader : Reader α} {form : List Char → α → Prop}
    (hreader : Reads reader form) (hstreams : Streams reader reader) {b w p q : List Char} {v : α}
    (hb : Blank b) (hw : form w v) (hcut : b ++ w = p ++ q) (hq : q ≠ []) :
    readAll reader (String.ofList p) = .error .notJson := by
  have hread : reader (p ++ q) = .ok (v, []) :=
    (hreader _ _ _).mpr ⟨b, w, hb, hw, by rw [List.append_nil, hcut]⟩
  rcases hstreams p q v [] hread with herror | ⟨rest', -, hrest⟩
  · rw [readAll, String.toList_ofList, herror]
    rfl
  · exact absurd (List.append_eq_nil_iff.mp hrest.symm).2 hq

/-- Behind a value there may be nothing but blanks. -/
theorem readAll_of_trailing {reader : Reader α} {form : List Char → α → Prop}
    (hreader : Reads reader form) {b w rest : List Char} {v : α} (hb : Blank b) (hw : form w v)
    (hrest : ¬ Blank rest) :
    readAll reader (String.ofList (b ++ (w ++ rest))) = .error .notJson := by
  have hread : reader (b ++ (w ++ rest)) = .ok (v, rest) :=
    (hreader _ _ _).mpr ⟨b, w, hb, hw, rfl⟩
  obtain ⟨c, t, hfront⟩ := List.exists_cons_of_ne_nil (mt skipBlanks_eq_nil_iff.mp hrest)
  simp only [readAll, String.toList_ofList, hread, Bind.bind, Except.bind, hfront]
  rfl

end Json

end GlyphBook
