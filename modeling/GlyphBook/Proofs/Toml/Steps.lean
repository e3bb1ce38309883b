import GlyphBook.Toml.Reader

/-!
# What the readers did when they succeeded

One inversion for each reader that calls others: when it gives a result, this is how it came about.
The relations have a constructor for each way through the reader's branches and are no recursion
themselves, so a proof about nested values follows the calls and takes them apart one at a time.
-/

namespace GlyphBook

namespace Toml

/-! ## Paths -/

/-- How a path is read: it ends with this key, or a point follows. -/
inductive PathStep (fuel : Nat) (cs : List Char) : Path → List Char → Prop where
  | last {key : Key} {rest after : List Char} :
      readKey? (skipBlanks cs) = some (key, rest) → skipBlanks rest = after →
      after.head? ≠ some '.' → PathStep fuel cs ⟨[], key⟩ after
  | more {key : Key} {path : Path} {rest later after : List Char} :
      readKey? (skipBlanks cs) = some (key, rest) → skipBlanks rest = '.' :: later →
      readKeys? fuel later = some (path, after) → PathStep fuel cs (path.cons key) after

theorem pathStep_of_readKeys? {fuel : Nat} {cs after : List Char} {path : Path}
    (h : readKeys? (fuel + 1) cs = some (path, after)) : PathStep fuel cs path after := by
  rw [readKeys?] at h
  split at h
  · cases h
  · next key rest hkey =>
    split at h
    · next later hlater =>
      obtain ⟨⟨path, after⟩, hread, heq⟩ := Option.map_eq_some_iff.mp h
      obtain ⟨rfl, rfl⟩ := Prod.mk.inj heq
      exact .more hkey hlater hread
    · next hdot =>
      obtain ⟨rfl, rfl⟩ := Prod.mk.inj (Option.some.inj h)
      refine .last hkey rfl fun hhead => ?_
      obtain ⟨later, hlater⟩ := List.head?_eq_some_iff.mp hhead
      exact hdot later hlater

theorem readKeys?_of_readPath? {cs after : List Char} {path : Path}
    (h : readPath? cs = some (path, after)) : readKeys? cs.length cs = some (path, after) := by
  rw [readPath?] at h
  split at h
  · cases h
  · next hread =>
    split at h
    · rwa [← h]
    · cases h

/-! ## Values -/

/-- How a value is read. -/
inductive ValueStep (fuel depth : Nat) : List Char → Value → List Char → Prop where
  | list {rest after : List Char} {items : List (Extent × Value)} :
      readItems? fuel (depth + 1) rest = some (items, after) →
      ValueStep fuel depth ('[' :: rest) (.list .written items) after
  | table {rest after : List Char} {entries : List (Path × Extent × Value)}
      {members : List Member} :
      readMembers? fuel (depth + 1) true rest = some (entries, after) →
      assembleInline? entries = some members →
      ValueStep fuel depth ('\x7b' :: rest) (.table .inline members) after
  | scalar {cs after : List Char} {value : Value} :
      cs.head? ≠ some '[' → cs.head? ≠ some '\x7b' → readScalar? cs = some (value, after) →
      ValueStep fuel depth cs value after

theorem valueStep_of_readValue? {fuel depth : Nat} {cs after : List Char} {extent : Extent}
    {value : Value} (h : readValue? (fuel + 1) depth cs = some ((extent, value), after)) :
    extent = ⟨cs.length, after.length⟩ ∧ ValueStep fuel depth cs value after := by
  unfold readValue? at h
  split at h
  · split at h
    · obtain ⟨⟨items, after'⟩, hread, heq⟩ := Option.map_eq_some_iff.mp h
      obtain ⟨hvalue, rfl⟩ := Prod.mk.inj heq
      obtain ⟨rfl, rfl⟩ := Prod.mk.inj hvalue
      exact ⟨rfl, .list hread⟩
    · cases h
  · split at h
    · split at h
      · cases h
      · next hread =>
        obtain ⟨members, hmembers, heq⟩ := Option.map_eq_some_iff.mp h
        obtain ⟨hvalue, rfl⟩ := Prod.mk.inj heq
        obtain ⟨rfl, rfl⟩ := Prod.mk.inj hvalue
        exact ⟨rfl, .table hread hmembers⟩
    · cases h
  · next hbracket hbrace =>
    obtain ⟨⟨value', after'⟩, hread, heq⟩ := Option.map_eq_some_iff.mp h
    obtain ⟨hvalue, rfl⟩ := Prod.mk.inj heq
    obtain ⟨rfl, rfl⟩ := Prod.mk.inj hvalue
    refine ⟨rfl, .scalar (fun hhead => ?_) (fun hhead => ?_) hread⟩
    · obtain ⟨rest, hrest⟩ := List.head?_eq_some_iff.mp hhead
      exact hbracket rest hrest
    · obtain ⟨rest, hrest⟩ := List.head?_eq_some_iff.mp hhead
      exact hbrace rest hrest

/-- How the items of a list are read. -/
inductive ItemsStep (fuel depth : Nat) (cs : List Char) :
    List (Extent × Value) → List Char → Prop where
  | close {after : List Char} :
      skipVoid? false cs = some (']' :: after) → ItemsStep fuel depth cs [] after
  | last {front rest after : List Char} {item : Extent × Value} :
      skipVoid? false cs = some front → front.head? ≠ some ']' →
      readValue? fuel depth front = some (item, rest) →
      skipVoid? false rest = some (']' :: after) → ItemsStep fuel depth cs [item] after
  | more {front rest later after : List Char} {item : Extent × Value}
      {items : List (Extent × Value)} :
      skipVoid? false cs = some front → front.head? ≠ some ']' →
      readValue? fuel depth front = some (item, rest) →
      skipVoid? false rest = some (',' :: later) →
      readItems? fuel depth later = some (items, after) →
      ItemsStep fuel depth cs (item :: items) after

theorem itemsStep_of_readItems? {fuel depth : Nat} {cs after : List Char}
    {items : List (Extent × Value)} (h : readItems? (fuel + 1) depth cs = some (items, after)) :
    ItemsStep fuel depth cs items after := by
  rw [readItems?] at h
  split at h
  · cases h
  · next hvoid =>
    obtain ⟨rfl, rfl⟩ := Prod.mk.inj (Option.some.inj h)
    exact .close hvoid
  · next front hbracket hvoid =>
    have hne : front.head? ≠ some ']' := fun hhead => by
      obtain ⟨rest, hrest⟩ := List.head?_eq_some_iff.mp hhead
      exact hbracket rest hrest
    split at h
    · cases h
    · next item rest hread =>
      split at h
      · next later hcomma =>
        obtain ⟨⟨items, after⟩, hlater, heq⟩ := Option.map_eq_some_iff.mp h
        obtain ⟨rfl, rfl⟩ := Prod.mk.inj heq
        exact .more hvoid hne hread hcomma hlater
      · next hclose =>
        obtain ⟨rfl, rfl⟩ := Prod.mk.inj (Option.some.inj h)
        exact .last hvoid hne hread hclose
      · cases h

/-- An entry at the front of the text, as far as the end of its value. -/
inductive EntryStep (fuel depth : Nat) (cs : List Char) :
    Path → Extent → Value → List Char → Prop where
  | intro {path : Path} {rest after : List Char} {extent : Extent} {value : Value} :
      readPath? cs = some (path, '=' :: rest) →
      readValue? fuel depth (skipBlanks rest) = some ((extent, value), after) →
      EntryStep fuel depth cs path extent value after

/-- How the entries of a table in braces are read. -/
inductive MembersStep (fuel depth : Nat) (cs : List Char) :
    List (Path × Extent × Value) → List Char → Prop where
  | close {after : List Char} :
      skipBlanks cs = '\x7d' :: after → MembersStep fuel depth cs [] after
  | last {rest after : List Char} {path : Path} {extent : Extent} {value : Value} :
      EntryStep fuel depth (skipBlanks cs) path extent value rest →
      skipBlanks rest = '\x7d' :: after → MembersStep fuel depth cs [(path, extent, value)] after
  | more {rest later after : List Char} {path : Path} {extent : Extent} {value : Value}
      {entries : List (Path × Extent × Value)} :
      EntryStep fuel depth (skipBlanks cs) path extent value rest →
      skipBlanks rest = ',' :: later → readMembers? fuel depth false later = some (entries, after) →
      MembersStep fuel depth cs ((path, extent, value) :: entries) after

theorem membersStep_of_readMembers? {fuel depth : Nat} {first : Bool} {cs after : List Char}
    {entries : List (Path × Extent × Value)}
    (h : readMembers? (fuel + 1) depth first cs = some (entries, after)) :
    MembersStep fuel depth cs entries after := by
  unfold readMembers? at h
  split at h
  · next hclose =>
    obtain ⟨rfl, rfl⟩ := Prod.mk.inj (Option.some.inj h)
    exact .close hclose
  · split at h
    · next hpath =>
      split at h
      · cases h
      · next hread =>
        split at h
        · next hcomma =>
          obtain ⟨⟨entries, after⟩, hlater, heq⟩ := Option.map_eq_some_iff.mp h
          obtain ⟨rfl, rfl⟩ := Prod.mk.inj heq
          exact .more ⟨hpath, hread⟩ hcomma hlater
        · next hclose =>
          obtain ⟨rfl, rfl⟩ := Prod.mk.inj (Option.some.inj h)
          exact .last ⟨hpath, hread⟩ hclose
        · cases h
    · cases h

/-! ## Lines -/

/-- How a line of data is read. -/
inductive LineStep : List Char → Statement → List Char → Prop where
  | header {inner after rest : List Char} {path : Path} {extent : Extent} :
      inner.head? ≠ some '[' → readPath? inner = some (path, ']' :: after) →
      finishLine? after = some rest → LineStep ('[' :: inner) (.header path extent) rest
  | listHeader {inner after rest : List Char} {path : Path} {extent : Extent} :
      readPath? inner = some (path, ']' :: ']' :: after) → finishLine? after = some rest →
      LineStep ('[' :: '[' :: inner) (.listHeader path extent) rest
  | entry {fuel : Nat} {cs after rest : List Char} {path : Path} {extent : Extent} {value : Value} :
      cs.head? ≠ some '[' → EntryStep fuel 0 cs path extent value after →
      finishLine? after = some rest → LineStep cs (.entry path extent value) rest

theorem lineStep_of_readStatement? {cs rest : List Char} {line : Statement}
    (h : readStatement? cs = some (line, rest)) : LineStep cs line rest := by
  unfold readStatement? at h
  split at h
  · unfold readHeader? at h
    split at h
    · next hpath _ =>
      obtain ⟨after, hfinish, heq⟩ := Option.map_eq_some_iff.mp h
      obtain ⟨rfl, rfl⟩ := Prod.mk.inj heq
      exact .listHeader hpath hfinish
    · next hdouble => cases hdouble
    · cases h
  · next hbracket =>
    unfold readHeader? at h
    split at h
    · next hdouble => cases hdouble
    · next hpath _ =>
      obtain ⟨after, hfinish, heq⟩ := Option.map_eq_some_iff.mp h
      obtain ⟨rfl, rfl⟩ := Prod.mk.inj heq
      refine .header (fun hhead => ?_) hpath hfinish
      obtain ⟨inner, rfl⟩ := List.head?_eq_some_iff.mp hhead
      exact hbracket inner rfl
    · cases h
  · next hbracket =>
    unfold readEntry? at h
    split at h
    · next hpath =>
      split at h
      · cases h
      · next hread =>
        obtain ⟨after, hfinish, heq⟩ := Option.map_eq_some_iff.mp h
        obtain ⟨rfl, rfl⟩ := Prod.mk.inj heq
        refine .entry (fun hhead => ?_) ⟨hpath, hread⟩ hfinish
        obtain ⟨inner, rfl⟩ := List.head?_eq_some_iff.mp hhead
        exact hbracket inner rfl
    · cases h

/-- The text behind a line without data. -/
def afterVoidLine? (cs : List Char) : Option (List Char) :=
  match cs with
  | '#' :: rest => afterLine? (skipComment ('#' :: rest))
  | cs => afterNewline? cs

/-- How the lines of a document are read. -/
inductive LinesStep (fuel : Nat) (cs : List Char) : List Statement → Prop where
  | stop : skipBlanks cs = [] → LinesStep fuel cs []
  | void {rest : List Char} {lines : List Statement} :
      afterVoidLine? (skipBlanks cs) = some rest → readStatements? fuel rest = some lines →
      LinesStep fuel cs lines
  | data {rest : List Char} {line : Statement} {lines : List Statement} :
      readStatement? (skipBlanks cs) = some (line, rest) → readStatements? fuel rest = some lines →
      LinesStep fuel cs (line :: lines)

theorem linesStep_of_readStatements? {fuel : Nat} {cs : List Char} {lines : List Statement}
    (h : readStatements? (fuel + 1) cs = some lines) : LinesStep fuel cs lines := by
  rw [readStatements?] at h
  split at h
  · next hstop =>
    obtain rfl := Option.some.inj h
    exact .stop hstop
  · next hcomment =>
    split at h
    · next hafter => exact .void (by rw [hcomment]; exact hafter) h
    · cases h
  · next hcomment =>
    split at h
    · next hafter =>
      refine .void ?_ h
      unfold afterVoidLine?
      split
      · next heq => exact absurd heq (hcomment _)
      · exact hafter
    · split at h
      · next hread =>
        obtain ⟨lines, hlines, rfl⟩ := Option.map_eq_some_iff.mp h
        exact .data hread hlines
      · cases h

end Toml

end GlyphBook
