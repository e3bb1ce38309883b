import GlyphBook.Proofs.Toml.Form

/-!
# Where the tokens of a document stand

Every key and every value in the tree of a document has an extent, and an error is pointed to by
nothing else. Here an extent is tied to the text that it is the extent of: a key stands where it is
spelled (`KeyAt`), and a value directly behind its key, a run of blanks and the equals sign
(`EntryAt`), or among the items of a list (`ValueAt`). Only the tables and lists that headers and
dotted keys bring about stand nowhere as a whole.

That every token of a tree stands so (`Stands`, `Placed`) is kept by each of the ways in which a
line changes the tree. What a line adds is placed when the line is, and what was there before is
moved at most inside the tree.
-/

namespace GlyphBook

namespace Toml

/-! ## Tokens in a text -/

/-- The extent is that of `w`, with `before` in front of it and `after` behind. -/
structure Extent.Covers (extent : Extent) (source before w after : List Char) : Prop where
  text : source = before ++ (w ++ after)
  start : extent.start = (w ++ after).length
  stop : extent.stop = after.length

theorem Extent.Covers.start_le {extent : Extent} {source before w after : List Char}
    (h : extent.Covers source before w after) : extent.start ≤ source.length := by
  rw [h.start, h.text]
  exact (List.suffix_append before _).length_le

/-- The key is written in its place. -/
def KeyAt (source : List Char) (key : Key) : Prop :=
  ∃ before w after, key.extent.Covers source before w after ∧ KeyForm w key.name

/-- What stands there is read as the value, up to the end of the extent. -/
def ReadsAs (extent : Extent) (value : Value) (w after : List Char) : Prop :=
  ∃ fuel depth, readValue? fuel depth (w ++ after) = some ((extent, value), after)

/-- The value is written in its place. -/
def ValueAt (source : List Char) (extent : Extent) (value : Value) : Prop :=
  ∃ before w after, extent.Covers source before w after ∧ ReadsAs extent value w after

/-- The key and the value are written in their places, with nothing between them but an equals
sign and blanks. -/
def EntryAt (source : List Char) (key : Key) (extent : Extent) (value : Value) : Prop :=
  ∃ before k b b' w after, Blank b ∧ Blank b' ∧ KeyForm k key.name
    ∧ key.extent.Covers source before k (b ++ '=' :: (b' ++ (w ++ after)))
    ∧ extent.Covers source (before ++ (k ++ (b ++ '=' :: b'))) w after
    ∧ ReadsAs extent value w after

theorem EntryAt.valueAt {source : List Char} {key : Key} {extent : Extent} {value : Value}
    (h : EntryAt source key extent value) : ValueAt source extent value := by
  obtain ⟨before, k, b, b', w, after, -, -, -, -, hcovers, hreads⟩ := h
  exact ⟨_, w, after, hcovers, hreads⟩

/-- A value that is written out in one piece. -/
def Value.isWritten : Value → Bool
  | .list form _ => form = .written
  | .table form _ => form = .inline
  | _ => true

/-- A value that contains no other. -/
def Value.isScalar : Value → Bool
  | .list _ _ => false
  | .table _ _ => false
  | _ => true

/-- Every token in the value stands in its place. -/
inductive Stands (source : List Char) : Value → Prop where
  | scalar {value : Value} : value.isScalar = true → Stands source value
  | list {form : ListForm} {items : List (Extent × Value)} :
      (∀ item ∈ items, form = .written → ValueAt source item.1 item.2) →
      (∀ item ∈ items, Stands source item.2) → Stands source (.list form items)
  | table {form : TableForm} {members : List Member} :
      (∀ m ∈ members, KeyAt source m.1) →
      (∀ m ∈ members, m.2.2.isWritten = true → EntryAt source m.1 m.2.1 m.2.2) →
      (∀ m ∈ members, Stands source m.2.2) → Stands source (.table form members)

/-- Every token in the member stands in its place. -/
structure Placed (source : List Char) (m : Member) : Prop where
  key : KeyAt source m.1
  entry : m.2.2.isWritten = true → EntryAt source m.1 m.2.1 m.2.2
  value : Stands source m.2.2

/-- Every token in the members stands in its place. -/
def AllPlaced (source : List Char) (members : List Member) : Prop :=
  ∀ m ∈ members, Placed source m

section

variable {source : List Char}

theorem stands_table_iff {form : TableForm} {members : List Member} :
    Stands source (.table form members) ↔ AllPlaced source members := by
  constructor
  · rintro (h | _ | ⟨hkey, hentry, hvalue⟩)
    · cases h
    · exact fun m hm => ⟨hkey m hm, hentry m hm, hvalue m hm⟩
  · exact fun h => .table (fun m hm => (h m hm).key) (fun m hm => (h m hm).entry)
      fun m hm => (h m hm).value

theorem stands_items {form : ListForm} {items : List (Extent × Value)}
    (h : Stands source (.list form items)) : ∀ item ∈ items, Stands source item.2 := by
  rcases h with h | ⟨-, hitems⟩ | _
  · cases h
  · exact hitems

theorem valueAt_of_stands {items : List (Extent × Value)}
    (h : Stands source (.list .written items)) {extent : Extent} {value : Value}
    (hmem : (extent, value) ∈ items) : ValueAt source extent value := by
  rcases h with h | ⟨hitems, -⟩ | _
  · cases h
  · exact hitems _ hmem rfl

theorem allPlaced_nil : AllPlaced source [] := fun _ h => (List.not_mem_nil h).elim

theorem AllPlaced.append_single {members : List Member} {m : Member}
    (h : AllPlaced source members) (hm : Placed source m) : AllPlaced source (members ++ [m]) := by
  intro other hother
  rcases List.mem_append.mp hother with hother | hother
  · exact h other hother
  · rwa [List.mem_singleton.mp hother]

/-! ## Changing one member -/

theorem allPlaced_alter {key : Key} {change : Option (Extent × Value) → Option (Extent × Value)}
    {members members' : List Member} (h : AllPlaced source members)
    (hsome : ∀ k v v', Placed source (k, v) → change (some v) = some v' → Placed source (k, v'))
    (hnone : ∀ v, change none = some v → Placed source (key, v))
    (halter : alter key change members = some members') : AllPlaced source members' := by
  induction members generalizing members' with
  | nil =>
      obtain ⟨v, hv, rfl⟩ := Option.map_eq_some_iff.mp halter
      intro m hm
      rw [List.mem_singleton.mp hm]
      exact hnone v hv
  | cons m members ih =>
      obtain ⟨k, v⟩ := m
      obtain ⟨hm, hlater⟩ := List.forall_mem_cons.mp h
      rw [alter] at halter
      split at halter
      · obtain ⟨v', hv', rfl⟩ := Option.map_eq_some_iff.mp halter
        exact List.forall_mem_cons.mpr ⟨hsome k v v' hm hv', hlater⟩
      · obtain ⟨members'', hmembers, rfl⟩ := Option.map_eq_some_iff.mp halter
        exact List.forall_mem_cons.mpr ⟨hm, ih hlater hmembers⟩

/-- A change of members that keeps them in their places. -/
def KeepsPlaces (source : List Char)
    (change : TableForm → List Member → Option (List Member)) : Prop :=
  ∀ form members members', AllPlaced source members → change form members = some members' →
    AllPlaced source members'

theorem stands_changeLast {change : TableForm → List Member → Option (List Member)}
    (hchange : KeepsPlaces source change) {items items' : List (Extent × Value)}
    (h : ∀ item ∈ items, Stands source item.2) (hlast : changeLast change items = some items') :
    ∀ item ∈ items', Stands source item.2 := by
  fun_induction changeLast change items generalizing items' with
  | case1 => cases hlast
  | case2 extent form members =>
      obtain ⟨members', hmembers, rfl⟩ := Option.map_eq_some_iff.mp hlast
      have hstands : Stands source (.table form members) := h _ (List.mem_cons_self ..)
      intro item hitem
      rw [List.mem_singleton.mp hitem]
      exact stands_table_iff.mpr
        (hchange form members members' (stands_table_iff.mp hstands) hmembers)
  | case3 => cases hlast
  | case4 item next rest ih =>
      obtain ⟨later, hlater, rfl⟩ := Option.map_eq_some_iff.mp hlast
      obtain ⟨hitem, hrest⟩ := List.forall_mem_cons.mp h
      exact List.forall_mem_cons.mpr ⟨hitem, ih hrest hlater⟩

/-- A table that is no piece of the text is placed when its members are. -/
theorem placed_table {key : Key} {extent : Extent} {form : TableForm} {members : List Member}
    (hkey : KeyAt source key) (hform : form ≠ .inline) (h : AllPlaced source members) :
    Placed source (key, extent, .table form members) where
  key := hkey
  entry hwritten := absurd (of_decide_eq_true hwritten) hform
  value := stands_table_iff.mpr h

theorem placed_tables {key : Key} {extent : Extent} {items : List (Extent × Value)}
    (hkey : KeyAt source key) (h : ∀ item ∈ items, Stands source item.2) :
    Placed source (key, extent, .list .tables items) where
  key := hkey
  entry hwritten := by cases hwritten
  value := .list (fun _ _ hform => absurd hform (by decide)) h

theorem keepsPlaces_within {dotted : Bool}
    {change : TableForm → List Member → Option (List Member)}
    (hchange : KeepsPlaces source change) :
    ∀ {way : List Key}, (∀ key ∈ way, KeyAt source key) →
      KeepsPlaces source (within dotted change way)
  | [], _ => hchange
  | key :: way, hway => by
      obtain ⟨hkey, hlater⟩ := List.forall_mem_cons.mp hway
      have hwithin : KeepsPlaces source (within dotted change way) :=
        keepsPlaces_within hchange hlater
      intro form members members' h halter
      refine allPlaced_alter h (fun k v v' hv hchanged => ?_) (fun v hmade => ?_) halter
      · obtain ⟨extent, value⟩ := v
        cases value with
        | table form' sub =>
            simp only at hchanged
            split at hchanged
            · cases hchanged
            · next hform =>
              obtain ⟨sub', hsub, rfl⟩ := Option.map_eq_some_iff.mp hchanged
              exact placed_table hv.key (fun heq => hform (Or.inl heq))
                (hwithin form' sub sub' (stands_table_iff.mp hv.value) hsub)
        | list form' items =>
            cases form' with
            | written => cases hchanged
            | tables =>
                obtain ⟨items', hitems, rfl⟩ := Option.map_eq_some_iff.mp hchanged
                exact placed_tables hv.key
                  (stands_changeLast hwithin (stands_items hv.value) hitems)
        | _ => cases hchanged
      · obtain ⟨sub, hsub, rfl⟩ := Option.map_eq_some_iff.mp hmade
        refine placed_table hkey ?_ (hwithin _ [] sub allPlaced_nil hsub)
        cases dotted <;> decide

/-! ## The three kinds of line -/

theorem AllPlaced.of_find? {members : List Member} (h : AllPlaced source members) {name : String}
    {extent : Extent} {value : Value} (hfind : find? name members = some (extent, value)) :
    Stands source value := by
  obtain ⟨m, hm, heq⟩ := Option.map_eq_some_iff.mp hfind
  have hplaced := h m (List.mem_of_find?_eq_some hm)
  rw [← show m.2.2 = value from congrArg Prod.snd heq]
  exact hplaced.value

theorem keepsPlaces_startTable {path : Path} {extent : Extent}
    (hkeys : ∀ key ∈ path.keys, KeyAt source key) :
    KeepsPlaces source (startTable path extent) := by
  have hlast : KeyAt source path.last :=
    hkeys _ (List.mem_append_right _ (List.mem_singleton_self _))
  refine keepsPlaces_within (fun form members members' h hstart => ?_)
    fun key hkey => hkeys key (List.mem_append_left _ hkey)
  split at hstart
  · obtain rfl := Option.some.inj hstart
    exact h.append_single (placed_table hlast (by decide) allPlaced_nil)
  · next sub hfind =>
    obtain rfl := Option.some.inj hstart
    have hrest : AllPlaced source (erase path.last.name members) :=
      fun m hm => h m (List.mem_of_mem_filter hm)
    exact hrest.append_single
      (placed_table hlast (by decide) (stands_table_iff.mp (h.of_find? hfind)))
  · cases hstart

theorem keepsPlaces_startListTable {path : Path} {extent : Extent}
    (hkeys : ∀ key ∈ path.keys, KeyAt source key) :
    KeepsPlaces source (startListTable path extent) := by
  have hlast : KeyAt source path.last :=
    hkeys _ (List.mem_append_right _ (List.mem_singleton_self _))
  have hempty : Stands source (.table .header []) := stands_table_iff.mpr allPlaced_nil
  refine keepsPlaces_within (fun form members members' h halter => ?_)
    fun key hkey => hkeys key (List.mem_append_left _ hkey)
  refine allPlaced_alter h (fun k v v' hv hchanged => ?_) (fun v hmade => ?_) halter
  · split at hchanged
    · next heq => cases heq
    · next whole items heq =>
      obtain rfl := Option.some.inj heq
      obtain rfl := Option.some.inj hchanged
      refine placed_tables hv.key fun item hitem => ?_
      rcases List.mem_append.mp hitem with hitem | hitem
      · exact stands_items hv.value item hitem
      · rwa [List.mem_singleton.mp hitem]
    · cases hchanged
  · obtain rfl := Option.some.inj hmade
    refine placed_tables hlast fun item hitem => ?_
    rwa [List.mem_singleton.mp hitem]

/-- Every token of the line stands in its place. -/
inductive Statement.Placed (source : List Char) : Statement → Prop where
  | header {path : Path} {extent : Extent} :
      (∀ key ∈ path.keys, KeyAt source key) → Placed source (.header path extent)
  | listHeader {path : Path} {extent : Extent} :
      (∀ key ∈ path.keys, KeyAt source key) → Placed source (.listHeader path extent)
  | entry {path : Path} {extent : Extent} {value : Value} :
      (∀ key ∈ path.keys, KeyAt source key) → EntryAt source path.last extent value →
      Stands source value → Placed source (.entry path extent value)

theorem keepsPlaces_addEntry {path : Path} {extent : Extent} {value : Value}
    (h : Statement.Placed source (.entry path extent value)) :
    KeepsPlaces source (addEntry path extent value) := by
  rcases h with _ | _ | ⟨hkeys, hentry, hvalue⟩
  have hlast : KeyAt source path.last :=
    hkeys _ (List.mem_append_right _ (List.mem_singleton_self _))
  refine keepsPlaces_within (fun form members members' h hadd => ?_)
    fun key hkey => hkeys key (List.mem_append_left _ hkey)
  split at hadd
  · cases hadd
  · rw [appendNew] at hadd
    split at hadd
    · cases hadd
    · obtain rfl := Option.some.inj hadd
      exact h.append_single ⟨hlast, fun _ => hentry, hvalue⟩

/-! ## Documents and tables in braces -/

/-- What every step keeps is kept by a run of them. -/
theorem foldlM_keeps {step : σ → α → Option σ} {p : σ → Prop} {steps : List α}
    (hstep : ∀ a ∈ steps, ∀ s s', p s → step s a = some s' → p s') {s s' : σ} (hs : p s)
    (hrun : steps.foldlM step s = some s') : p s' := by
  induction steps generalizing s with
  | nil =>
      obtain rfl := Option.some.inj hrun
      exact hs
  | cons a steps ih =>
      obtain ⟨ha, hlater⟩ := List.forall_mem_cons.mp hstep
      rw [List.foldlM_cons] at hrun
      obtain ⟨next, hnext, hrun⟩ := Option.bind_eq_some_iff.mp hrun
      exact ih hlater (ha s next hs hnext) hrun

/-- The members of the draft and the keys of its current header stand in their places. -/
structure Draft.Placed (source : List Char) (draft : Draft) : Prop where
  members : AllPlaced source draft.members
  current : ∀ key ∈ draft.current, KeyAt source key

theorem Draft.Placed.add? {draft draft' : Draft} {line : Statement} (h : draft.Placed source)
    (hline : line.Placed source) (hadd : draft.add? line = some draft') : draft'.Placed source := by
  obtain ⟨hmembers, hcurrent⟩ := h
  cases line with
  | header path extent =>
      obtain ⟨members, hstart, rfl⟩ := Option.map_eq_some_iff.mp hadd
      rcases hline with ⟨hkeys⟩ | _ | _
      exact ⟨keepsPlaces_startTable hkeys _ _ _ hmembers hstart, hkeys⟩
  | listHeader path extent =>
      obtain ⟨members, hstart, rfl⟩ := Option.map_eq_some_iff.mp hadd
      rcases hline with _ | ⟨hkeys⟩ | _
      exact ⟨keepsPlaces_startListTable hkeys _ _ _ hmembers hstart, hkeys⟩
  | entry path extent value =>
      obtain ⟨members, hwithin, rfl⟩ := Option.map_eq_some_iff.mp hadd
      have hchange := keepsPlaces_addEntry hline
      exact ⟨keepsPlaces_within hchange hcurrent _ _ _ hmembers hwithin, hcurrent⟩

/-- The reach of a header changes no place. -/
theorem placed_reachValues {lines : List Statement} (h : ∀ line ∈ lines, line.Placed source) :
    ∀ line ∈ reachValues lines, line.Placed source := by
  induction lines with
  | nil => exact h
  | cons line lines ih =>
      obtain ⟨hline, hlater⟩ := List.forall_mem_cons.mp h
      cases hline with
      | header hkeys => exact List.forall_mem_cons.mpr ⟨.header hkeys, ih hlater⟩
      | listHeader hkeys => exact List.forall_mem_cons.mpr ⟨.listHeader hkeys, ih hlater⟩
      | entry hkeys hentry hvalue =>
          exact List.forall_mem_cons.mpr ⟨.entry hkeys hentry hvalue, ih hlater⟩

/-- **A document is placed** when its lines are. -/
theorem allPlaced_assemble? {lines : List Statement} {members : List Member}
    (hlines : ∀ line ∈ lines, line.Placed source) (h : assemble? lines = some members) :
    AllPlaced source members := by
  obtain ⟨draft, hdraft, rfl⟩ := Option.map_eq_some_iff.mp h
  have hempty : Draft.Placed source {} := ⟨allPlaced_nil, fun _ h => (List.not_mem_nil h).elim⟩
  have hkeeps : draft.Placed source := foldlM_keeps
    (fun line hline draft draft' hdraft hadd =>
      hdraft.add? (placed_reachValues hlines line hline) hadd) hempty hdraft
  exact hkeeps.members

/-- **A table in braces is placed** when its entries are. -/
theorem allPlaced_assembleInline? {entries : List (Path × Extent × Value)}
    {members : List Member}
    (hentries : ∀ entry ∈ entries, Statement.Placed source (.entry entry.1 entry.2.1 entry.2.2))
    (h : assembleInline? entries = some members) : AllPlaced source members :=
  foldlM_keeps (fun entry hentry _ _ hmembers hadd =>
    keepsPlaces_addEntry (hentries entry hentry) _ _ _ hmembers hadd) allPlaced_nil h

end

end Toml

end GlyphBook
