import GlyphBook.Proofs.Toml.Places
import GlyphBook.Proofs.Toml.Quotes
import GlyphBook.Proofs.Toml.Steps

/-!
# The readers write down where they are

A reader takes the text that is left and leaves less of it, so the place of a token is told by what
is left before and behind it. Each reader of a part of a document is shown to leave an end of what
it was given and to give extents that cover what it took, for keys, values and lines in turn. So
every token of a document that is read stands in its place (`allPlaced_parse?`), and its lines and
their keys come in the order in which they are written (`inOrder_statements?`).
-/

namespace GlyphBook

namespace Toml

variable {source : List Char}

/-! ## Keys -/

theorem exists_blank (cs : List Char) : ∃ b, Blank b ∧ cs = b ++ skipBlanks cs :=
  ⟨cs.takeWhile isBlank, fun _ hc => List.mem_takeWhile_imp hc,
    (List.takeWhile_append_dropWhile).symm⟩

theorem suffix_of_cons {c : α} {cs l : List α} (h : c :: cs <:+ l) : cs <:+ l :=
  (List.suffix_cons c cs).trans h

theorem skipBlanks_suffix (cs : List Char) : skipBlanks cs <:+ cs := List.dropWhile_suffix _

theorem keyForm_of_readKeyName? {cs name after : List Char}
    (h : readKeyName? cs = some (name, after)) :
    ∃ w, cs = w ++ after ∧ KeyForm w (String.ofList name) := by
  unfold readKeyName? at h
  split at h
  · obtain ⟨w, rfl, hw⟩ := readBasic?_eq_some_iff.mp h
    exact ⟨'"' :: (w ++ ['"']), by simp, .quoted (.basic hw)⟩
  · obtain ⟨rfl, hw⟩ := readLiteral?_eq_some_iff.mp h
    exact ⟨'\x27' :: (name ++ ['\x27']), by simp, .quoted (.literal hw)⟩
  · split at h
    · cases h
    · next hne =>
      obtain ⟨rfl, rfl⟩ := Prod.mk.inj (Option.some.inj h)
      exact ⟨_, (List.takeWhile_append_dropWhile).symm,
        .bare hne fun c hc => List.mem_takeWhile_imp hc⟩

theorem readKey?_sound {cs after : List Char} {key : Key} (h : readKey? cs = some (key, after)) :
    ∃ w, cs = w ++ after ∧ KeyForm w key.name ∧ key.extent = ⟨cs.length, after.length⟩ := by
  obtain ⟨⟨name, after⟩, hname, heq⟩ := Option.map_eq_some_iff.mp h
  obtain ⟨rfl, rfl⟩ := Prod.mk.inj heq
  obtain ⟨w, hcs, hw⟩ := keyForm_of_readKeyName? hname
  exact ⟨w, hcs, hw, rfl⟩

/-- The keys are written one behind the other, between the places where `high` and `low` characters
are left. -/
structure InOrder (high low : Nat) (keys : List Key) : Prop where
  sorted : keys.Pairwise fun k k' => k'.extent.start ≤ k.extent.stop
  bounds : ∀ key ∈ keys, low ≤ key.extent.stop ∧ key.extent.stop ≤ key.extent.start
    ∧ key.extent.start ≤ high

theorem InOrder.nil {high low : Nat} : InOrder high low [] :=
  ⟨.nil, fun _ h => (List.not_mem_nil h).elim⟩

theorem InOrder.mono {high low high' low' : Nat} {keys : List Key} (h : InOrder high low keys)
    (hhigh : high ≤ high') (hlow : low' ≤ low) : InOrder high' low' keys where
  sorted := h.sorted
  bounds key hkey := by
    have := h.bounds key hkey
    omega

theorem InOrder.append {high mid low : Nat} {keys keys' : List Key} (h : InOrder high mid keys)
    (h' : InOrder mid low keys') (hhigh : mid ≤ high) (hlow : low ≤ mid) :
    InOrder high low (keys ++ keys') where
  sorted := List.pairwise_append.mpr ⟨h.sorted, h'.sorted, fun k hk k' hk' => by
    have := h.bounds k hk
    have := h'.bounds k' hk'
    omega⟩
  bounds key hkey := by
    rcases List.mem_append.mp hkey with hkey | hkey
    · have := h.bounds key hkey
      omega
    · have := h'.bounds key hkey
      omega

/-- The key is written in its place, and blanks stand between it and what is left. -/
def LastAt (source : List Char) (key : Key) (after : List Char) : Prop :=
  ∃ before w b, Blank b ∧ KeyForm w key.name ∧ key.extent.Covers source before w (b ++ after)

/-- What the reader of a path says about the text that it read. -/
structure PathRead (source cs : List Char) (path : Path) (after : List Char) : Prop where
  suffix : after <:+ cs
  keys : ∀ key ∈ path.keys, KeyAt source key
  last : LastAt source path.last after
  order : InOrder cs.length after.length path.keys

theorem covers_of_suffix {cs : List Char} (hcs : cs <:+ source) {w after : List Char}
    (h : cs = w ++ after) {extent : Extent} (hextent : extent = ⟨cs.length, after.length⟩) :
    ∃ before, extent.Covers source before w after := by
  obtain ⟨before, rfl⟩ := hcs
  exact ⟨before, by rw [h], by rw [hextent, h], by rw [hextent]⟩

theorem readKey?_skipBlanks_sound {cs rest : List Char} {key : Key} (hcs : cs <:+ source)
    (h : readKey? (skipBlanks cs) = some (key, rest)) :
    PathRead source cs ⟨[], key⟩ (skipBlanks rest) := by
  obtain ⟨w, hw, hform, hextent⟩ := readKey?_sound h
  have hfront : skipBlanks cs <:+ source := (skipBlanks_suffix cs).trans hcs
  have hrest : rest <:+ skipBlanks cs := hw ▸ List.suffix_append w rest
  obtain ⟨before, hcovers⟩ := covers_of_suffix hfront hw hextent
  obtain ⟨b, hb, hsplit⟩ := exists_blank rest
  refine ⟨(skipBlanks_suffix rest).trans (hrest.trans (skipBlanks_suffix cs)),
    List.forall_mem_singleton.mpr ⟨before, w, rest, hcovers, hform⟩,
    ⟨before, w, b, hb, hform, hsplit ▸ hcovers⟩,
    List.pairwise_singleton _ _, List.forall_mem_singleton.mpr ?_⟩
  rw [hextent]
  exact ⟨(skipBlanks_suffix rest).length_le, hrest.length_le, (skipBlanks_suffix cs).length_le⟩

theorem readKeys?_sound {fuel : Nat} {cs after : List Char} {path : Path} (hcs : cs <:+ source)
    (h : readKeys? fuel cs = some (path, after)) : PathRead source cs path after := by
  induction fuel generalizing cs path with
  | zero => cases h
  | succ fuel ih =>
      cases pathStep_of_readKeys? h with
      | last hkey hafter _ => exact hafter ▸ readKey?_skipBlanks_sound hcs hkey
      | @more key path rest later _ hkey hdot hread =>
          have hhere := readKey?_skipBlanks_sound hcs hkey
          rw [hdot] at hhere
          have hlater : later <:+ cs := suffix_of_cons hhere.suffix
          obtain ⟨hsuffix, hkeys, hlast, horder⟩ := ih (hlater.trans hcs) hread
          have hlength : later.length ≤ ('.' :: later).length := Nat.le_succ _
          have hkey : KeyAt source key := hhere.keys key (List.mem_singleton_self key)
          exact ⟨hsuffix.trans hlater, List.forall_mem_cons.mpr ⟨hkey, hkeys⟩, hlast,
            hhere.order.append (horder.mono hlength (Nat.le_refl _)) hhere.suffix.length_le
              (Nat.le_trans hsuffix.length_le hlength)⟩

theorem readPath?_sound {cs after : List Char} {path : Path} (hcs : cs <:+ source)
    (h : readPath? cs = some (path, after)) : PathRead source cs path after :=
  readKeys?_sound hcs (readKeys?_of_readPath? h)

/-! ## Values -/

/-- Whatever is read is no list and no table. -/
def Scalars (read : Option (Value × List Char)) : Prop :=
  ∀ value after, read = some (value, after) → value.isScalar = true

theorem scalars_none : Scalars none := fun _ _ h => nomatch h

theorem scalars_some {value : Value} (h : value.isScalar = true) (after : List Char) :
    Scalars (some (value, after)) := by
  intro value' after' heq
  obtain ⟨rfl, -⟩ := Prod.mk.inj (Option.some.inj heq)
  exact h

theorem scalars_bind {read : Option α} {later : α → Option (Value × List Char)}
    (h : ∀ x, Scalars (later x)) : Scalars (read.bind later) := by
  cases read with
  | none => exact scalars_none
  | some x => exact h x

theorem scalars_map {read : Option α} {f : α → Value × List Char}
    (h : ∀ x, (f x).1.isScalar = true) : Scalars (read.map f) := by
  cases read with
  | none => exact scalars_none
  | some x => exact scalars_some (h x) _

theorem scalars_orElse {read other : Option (Value × List Char)} (h : Scalars read)
    (hother : Scalars other) : Scalars (read <|> other) := by
  cases read with
  | none => exact hother
  | some p => exact h

theorem scalars_integer (n : Int) (after : List Char) :
    Scalars ((integer? n).map fun v => (v, after)) := by
  rw [integer?]
  split
  · exact scalars_some rfl after
  · exact scalars_none

theorem scalars_readInteger (cs : List Char) : Scalars (readInteger? cs) := by
  fun_cases readInteger? cs with
  | case1 => exact scalars_bind fun _ => scalars_integer _ _
  | case2 => exact scalars_bind fun _ => scalars_integer _ _
  | case3 => exact scalars_bind fun _ => scalars_integer _ _
  | case4 => exact scalars_bind fun _ => scalars_integer _ _

theorem scalars_double (x : Binary64) (after : List Char) :
    Scalars ((double? x).bind fun v => some (v, after)) := by
  unfold double?
  split
  · exact scalars_none
  · exact scalars_some rfl after

theorem scalars_readDecimal (cs : List Char) : Scalars (readDecimal? cs) := by
  rw [readDecimal?]
  generalize Binary64.ofDecimal = toDouble
  refine scalars_bind fun p => ?_
  dsimp only
  split
  · exact scalars_double _ _
  · exact scalars_bind fun _ => scalars_double _ _

theorem scalars_readDoubleWord (cs : List Char) : Scalars (readDoubleWord? cs) := by
  rw [readDoubleWord?]
  dsimp only
  split
  · exact scalars_some rfl _
  · exact scalars_map fun _ => rfl

theorem scalars_readMoment (cs : List Char) : Scalars (readMoment? cs) := by
  rw [readMoment?]
  split
  · exact scalars_some rfl _
  · exact scalars_map fun _ => rfl

theorem scalars_readBoolean (cs : List Char) : Scalars (readBoolean? cs) := by
  rw [readBoolean?]
  split
  · exact scalars_some rfl _
  · exact scalars_map fun _ => rfl

theorem scalars_readScalar (cs : List Char) : Scalars (readScalar? cs) := by
  unfold readScalar?
  split
  · exact scalars_none
  · split_ifs
    · exact scalars_map fun _ => rfl
    · exact scalars_readBoolean _
    · exact scalars_readDoubleWord _
    · exact scalars_orElse (scalars_readMoment _) <| scalars_orElse (scalars_readDecimal _) <|
        scalars_orElse (scalars_readDoubleWord _) (scalars_readInteger _)
    · exact scalars_none

theorem skipVoid?_suffix {inComment : Bool} {cs after : List Char}
    (h : skipVoid? inComment cs = some after) : after <:+ cs := by
  fun_induction skipVoid? inComment cs with
  | case1 => cases h
  | case2 => exact Option.some.inj h ▸ List.suffix_refl _
  | case3 _ _ ih => exact (ih h).trans (List.suffix_cons _ _)
  | case4 _ _ ih =>
      exact (ih h).trans ((List.suffix_cons _ _).trans (List.suffix_cons _ _))
  | case5 _ _ _ _ _ ih => exact (ih h).trans (List.suffix_cons _ _)
  | case6 => cases h
  | case7 _ _ _ _ _ _ _ ih => exact (ih h).trans (List.suffix_cons _ _)
  | case8 _ _ _ _ _ _ ih => exact (ih h).trans (List.suffix_cons _ _)
  | case9 => exact Option.some.inj h ▸ List.suffix_refl _

/-- What the reader of a value says about the text that it read. -/
structure ValueRead (source cs : List Char) (extent : Extent) (value : Value)
    (after : List Char) : Prop where
  suffix : after <:+ cs
  extent : extent = ⟨cs.length, after.length⟩
  value : Stands source value

theorem valueAt_of_read {fuel depth : Nat} {cs after : List Char} {extent : Extent} {value : Value}
    (hcs : cs <:+ source) (hread : readValue? fuel depth cs = some ((extent, value), after))
    (h : ValueRead source cs extent value after) : ValueAt source extent value := by
  obtain ⟨w, hw⟩ := h.suffix
  obtain ⟨before, hcovers⟩ := covers_of_suffix hcs hw.symm h.extent
  exact ⟨before, w, after, hcovers, fuel, depth, by rw [hw]; exact hread⟩

/-- A value behind its key and an equals sign. -/
theorem entryAt_of_read {fuel depth : Nat} {rest after : List Char} {key : Key} {extent : Extent}
    {value : Value} (hkey : LastAt source key ('=' :: rest))
    (hread : readValue? fuel depth (skipBlanks rest) = some ((extent, value), after))
    (h : ValueRead source (skipBlanks rest) extent value after) :
    EntryAt source key extent value := by
  obtain ⟨before, k, b, hb, hform, hcovers⟩ := hkey
  obtain ⟨b', hb', hrest⟩ := exists_blank rest
  obtain ⟨w, hw⟩ := h.suffix
  rw [← hw] at hrest hread
  refine ⟨before, k, b, b', w, after, hb, hb', hform, hrest ▸ hcovers, ⟨?_, ?_, ?_⟩, fuel, depth,
    hread⟩
  · rw [hcovers.text, hrest]
    simp only [List.append_assoc, List.cons_append]
  · rw [h.extent, hw]
  · rw [h.extent]

/-- What the reader of an entry says, if the reader of its value says so. -/
structure EntryRead (source cs : List Char) (path : Path) (extent : Extent) (value : Value)
    (after : List Char) : Prop where
  suffix : after <:+ cs
  placed : Statement.Placed source (.entry path extent value)
  order : InOrder cs.length after.length path.keys

theorem EntryStep.sound {fuel depth : Nat} {cs after : List Char} {path : Path} {extent : Extent}
    {value : Value} (hcs : cs <:+ source)
    (hvalue : ∀ {cs after : List Char} {extent : Extent} {value : Value}, cs <:+ source →
      readValue? fuel depth cs = some ((extent, value), after) →
      ValueRead source cs extent value after)
    (h : EntryStep fuel depth cs path extent value after) :
    EntryRead source cs path extent value after := by
  obtain ⟨hpath, hread⟩ := h
  obtain ⟨hsuffix, hkeys, hlast, horder⟩ := readPath?_sound hcs hpath
  have hrest := (skipBlanks_suffix _).trans (suffix_of_cons hsuffix)
  have hsound := hvalue (hrest.trans hcs) hread
  have hlength := (hsound.suffix.trans (skipBlanks_suffix _)).length_le
  exact ⟨hsound.suffix.trans hrest,
    .entry hkeys (entryAt_of_read hlast hread hsound) hsound.value,
    horder.mono (Nat.le_refl _) (Nat.le_succ_of_le hlength)⟩

mutual

theorem readValue?_sound : ∀ {fuel depth : Nat} {cs after : List Char} {extent : Extent}
    {value : Value}, cs <:+ source →
    readValue? fuel depth cs = some ((extent, value), after) →
    ValueRead source cs extent value after
  | 0, _, _, _, _, _, _, h => by cases h
  | fuel + 1, depth, cs, after, extent, value, hcs, h => by
      obtain ⟨hextent, hstep⟩ := valueStep_of_readValue? h
      cases hstep with
      | @list rest _ items hread =>
          have hrest := List.suffix_cons '[' rest
          obtain ⟨hsuffix, hat, hstands⟩ := readItems?_sound (hrest.trans hcs) hread
          exact ⟨hsuffix.trans hrest, hextent, .list (fun item hitem _ => hat item hitem) hstands⟩
      | @table rest _ entries members hread hmembers =>
          have hrest := List.suffix_cons '\x7b' rest
          obtain ⟨hsuffix, hentries, -⟩ := readMembers?_sound (hrest.trans hcs) hread
          exact ⟨hsuffix.trans hrest, hextent,
            stands_table_iff.mpr (allPlaced_assembleInline? hentries hmembers)⟩
      | scalar _ _ hread =>
          exact ⟨keeps_readScalar.suffix hread, hextent, .scalar (scalars_readScalar _ _ _ hread)⟩

theorem readItems?_sound : ∀ {fuel depth : Nat} {cs after : List Char}
    {items : List (Extent × Value)}, cs <:+ source →
    readItems? fuel depth cs = some (items, after) →
    after <:+ cs ∧ (∀ item ∈ items, ValueAt source item.1 item.2)
      ∧ ∀ item ∈ items, Stands source item.2
  | 0, _, _, _, _, _, h => by cases h
  | fuel + 1, depth, cs, after, items, hcs, h => by
      cases itemsStep_of_readItems? h with
      | close hclose =>
          exact ⟨suffix_of_cons (skipVoid?_suffix hclose),
            fun _ h => (List.not_mem_nil h).elim, fun _ h => (List.not_mem_nil h).elim⟩
      | last hvoid _ hread hclose =>
          have hfront := skipVoid?_suffix hvoid
          have hvalue := readValue?_sound (hfront.trans hcs) hread
          have hrest := (skipVoid?_suffix hclose).trans (hvalue.suffix.trans hfront)
          exact ⟨suffix_of_cons hrest,
            List.forall_mem_singleton.mpr (valueAt_of_read (hfront.trans hcs) hread hvalue),
            List.forall_mem_singleton.mpr hvalue.value⟩
      | more hvoid _ hread hcomma hitems =>
          have hfront := skipVoid?_suffix hvoid
          have hvalue := readValue?_sound (hfront.trans hcs) hread
          have hlater :=
            suffix_of_cons ((skipVoid?_suffix hcomma).trans (hvalue.suffix.trans hfront))
          obtain ⟨hsuffix, hat, hstands⟩ := readItems?_sound (hlater.trans hcs) hitems
          exact ⟨hsuffix.trans hlater,
            List.forall_mem_cons.mpr ⟨valueAt_of_read (hfront.trans hcs) hread hvalue, hat⟩,
            List.forall_mem_cons.mpr ⟨hvalue.value, hstands⟩⟩

theorem readMembers?_sound : ∀ {fuel depth : Nat} {first : Bool} {cs after : List Char}
    {entries : List (Path × Extent × Value)}, cs <:+ source →
    readMembers? fuel depth first cs = some (entries, after) →
    after <:+ cs
      ∧ (∀ entry ∈ entries, Statement.Placed source (.entry entry.1 entry.2.1 entry.2.2))
      ∧ InOrder cs.length after.length (entries.flatMap fun entry => entry.1.keys)
  | 0, _, _, _, _, _, _, h => by cases h
  | fuel + 1, depth, first, cs, after, entries, hcs, h => by
      have hfront := skipBlanks_suffix cs
      cases membersStep_of_readMembers? h with
      | close hclose =>
          exact ⟨suffix_of_cons (hclose ▸ hfront), fun _ h => (List.not_mem_nil h).elim, .nil⟩
      | last hentry hclose =>
          obtain ⟨hsuffix, hplaced, horder⟩ := hentry.sound (hfront.trans hcs) readValue?_sound
          have hafter := suffix_of_cons (hclose ▸ skipBlanks_suffix _)
          refine ⟨hafter.trans (hsuffix.trans hfront), List.forall_mem_singleton.mpr hplaced, ?_⟩
          rw [List.flatMap_singleton]
          exact horder.mono hfront.length_le hafter.length_le
      | more hentry hcomma hread =>
          obtain ⟨hsuffix, hplaced, horder⟩ := hentry.sound (hfront.trans hcs) readValue?_sound
          have hlater := suffix_of_cons (hcomma ▸ skipBlanks_suffix _)
          have hsource := hlater.trans (hsuffix.trans hfront)
          obtain ⟨hlast, hentries, horders⟩ := readMembers?_sound (hsource.trans hcs) hread
          refine ⟨hlast.trans hsource, List.forall_mem_cons.mpr ⟨hplaced, hentries⟩, ?_⟩
          rw [List.flatMap_cons]
          exact (horder.mono hfront.length_le hlater.length_le).append horders
            hsource.length_le hlast.length_le

end

/-! ## Lines -/

theorem afterNewline?_suffix {cs after : List Char} (h : afterNewline? cs = some after) :
    after <:+ cs := by
  unfold afterNewline? at h
  split at h
  · exact Option.some.inj h ▸ List.suffix_cons _ _
  · exact Option.some.inj h ▸ suffix_of_cons (List.suffix_cons _ _)
  · cases h

theorem afterLine?_suffix {cs after : List Char} (h : afterLine? cs = some after) :
    after <:+ cs := by
  unfold afterLine? at h
  split at h
  · exact Option.some.inj h ▸ List.suffix_refl _
  · exact afterNewline?_suffix h

theorem skipComment_suffix (cs : List Char) : skipComment cs <:+ cs := by
  unfold skipComment
  split
  · exact (List.dropWhile_suffix _).trans (List.suffix_cons _ _)
  · exact List.suffix_refl _

theorem finishLine?_suffix {cs after : List Char} (h : finishLine? cs = some after) :
    after <:+ cs :=
  (afterLine?_suffix h).trans ((skipComment_suffix _).trans (skipBlanks_suffix cs))

theorem afterVoidLine?_suffix {cs after : List Char} (h : afterVoidLine? cs = some after) :
    after <:+ cs := by
  unfold afterVoidLine? at h
  split at h
  · exact (afterLine?_suffix h).trans (skipComment_suffix _)
  · exact afterNewline?_suffix h

/-- The keys of a line as they are written. -/
def Statement.keys : Statement → List Key
  | .header path _ => path.keys
  | .listHeader path _ => path.keys
  | .entry path _ _ => path.keys

theorem readStatement?_sound {cs rest : List Char} {line : Statement} (hcs : cs <:+ source)
    (h : readStatement? cs = some (line, rest)) :
    rest <:+ cs ∧ line.Placed source ∧ InOrder cs.length rest.length line.keys := by
  cases lineStep_of_readStatement? h with
  | @header inner after _ path _ _ hpath hfinish =>
      have hinner := List.suffix_cons '[' inner
      obtain ⟨hsuffix, hkeys, -, horder⟩ := readPath?_sound (hinner.trans hcs) hpath
      have hrest : _ <:+ ']' :: after :=
        (finishLine?_suffix hfinish).trans (List.suffix_cons _ _)
      exact ⟨hrest.trans (hsuffix.trans hinner), .header hkeys,
        horder.mono hinner.length_le hrest.length_le⟩
  | @listHeader inner after _ path _ hpath hfinish =>
      have hinner := (List.suffix_cons '[' inner).trans (List.suffix_cons '[' _)
      obtain ⟨hsuffix, hkeys, -, horder⟩ := readPath?_sound (hinner.trans hcs) hpath
      have hrest : _ <:+ ']' :: ']' :: after :=
        (finishLine?_suffix hfinish).trans ((List.suffix_cons _ _).trans (List.suffix_cons _ _))
      exact ⟨hrest.trans (hsuffix.trans hinner), .listHeader hkeys,
        horder.mono hinner.length_le hrest.length_le⟩
  | entry _ hentry hfinish =>
      obtain ⟨hsuffix, hplaced, horder⟩ := hentry.sound hcs readValue?_sound
      have hrest := finishLine?_suffix hfinish
      exact ⟨hrest.trans hsuffix, hplaced, horder.mono (Nat.le_refl _) hrest.length_le⟩

theorem readStatements?_sound {fuel : Nat} {cs : List Char} {lines : List Statement}
    (hcs : cs <:+ source) (h : readStatements? fuel cs = some lines) :
    (∀ line ∈ lines, line.Placed source)
      ∧ InOrder cs.length 0 (lines.flatMap Statement.keys) := by
  induction fuel generalizing cs lines with
  | zero => cases h
  | succ fuel ih =>
      have hfront := skipBlanks_suffix cs
      cases linesStep_of_readStatements? h with
      | stop _ => exact ⟨fun _ h => (List.not_mem_nil h).elim, .nil⟩
      | void hvoid hread =>
          have hrest := (afterVoidLine?_suffix hvoid).trans hfront
          obtain ⟨hplaced, horder⟩ := ih (hrest.trans hcs) hread
          exact ⟨hplaced, horder.mono hrest.length_le (Nat.le_refl _)⟩
      | data hline hread =>
          obtain ⟨hsuffix, hhere, hkeys⟩ := readStatement?_sound (hfront.trans hcs) hline
          have hrest := hsuffix.trans hfront
          obtain ⟨hplaced, horder⟩ := ih (hrest.trans hcs) hread
          refine ⟨List.forall_mem_cons.mpr ⟨hhere, hplaced⟩, ?_⟩
          rw [List.flatMap_cons]
          exact (hkeys.mono hfront.length_le (Nat.le_refl _)).append horder hrest.length_le
            (Nat.zero_le _)

/-! ## Documents -/

theorem dropMark_suffix (cs : List Char) : dropMark cs <:+ cs := by
  unfold dropMark
  split
  · exact List.suffix_cons _ _
  · exact List.suffix_refl _

/-- **The lines are in order**, and so are the keys in each. -/
theorem inOrder_statements? {source : List Char} {lines : List Statement}
    (h : statements? source = some lines) :
    (lines.flatMap Statement.keys).Pairwise fun k k' => k'.extent.start ≤ k.extent.stop :=
  (readStatements?_sound (dropMark_suffix source) h).2.sorted

/-- **Every token of a document stands in its place.** -/
theorem allPlaced_parse? {source : String} {members : List Member}
    (h : parse? source = some members) : AllPlaced source.toList members := by
  obtain ⟨lines, hlines, hassemble⟩ := Option.bind_eq_some_iff.mp h
  exact allPlaced_assemble? (readStatements?_sound (dropMark_suffix _) hlines).1 hassemble

end Toml

end GlyphBook
