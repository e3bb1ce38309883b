import GlyphBook.Proofs.Json.Form
import GlyphBook.Proofs.Registry.Lookup
import GlyphBook.Proofs.Registry.Table

/-!
# Identifiers across the JSON boundary

For each of the four shapes that cross the boundary the reader decides what a text means
(`Boundary.parse_iff`), and what the writer makes of a value is one of the texts that mean it. The
round trip follows: a value is read back from what is written for it, and any text that is read
can be replaced by the one text that is written for its value.

Nothing here looks into a reader again: the readers are those of `Proofs.Json.Form`, given the
forms of an identifier.
-/

namespace GlyphBook

namespace Registry

open Json

variable (R : Registry)

/-! ## Forms of identifiers -/

/-- An identifier is written as its name, in any spelling. -/
def IdForm (w : List Char) (id : R.Id) : Prop := StringForm w (R.name id)

theorem quoted_idForm : Quoted R.IdForm := fun w id => quoted_stringForm w (R.name id)

/-- The members of a table in braces. -/
def TableForm : List Char → List (String × R.Id) → Prop :=
  Bracketed '{' '}' (MemberForm R.IdForm)

theorem readId_reads : Reads R.readId R.IdForm := by
  intro text id rest
  have hsteps : R.readId text = .ok (id, rest) ↔ readString text = .ok (R.name id, rest) := by
    rw [readId, bind_eq_ok_iff]
    constructor
    · rintro ⟨⟨name, after⟩, hread, h⟩
      cases hlookup : R.lookup name with
      | error e => simp [hlookup, throw, throwThe, MonadExceptOf.throw] at h
      | ok id' =>
          simp only [hlookup, pure, Except.pure, Except.ok.injEq, Prod.mk.injEq] at h
          obtain ⟨rfl, rfl⟩ := h
          rw [hread, R.lookup_eq_ok_iff.mp hlookup]
    · intro hread
      exact ⟨_, hread, by simp [R.lookup_eq_ok_iff.mpr rfl, pure, Except.pure]⟩
  rw [hsteps]
  exact readString_reads text (R.name id) rest

/-! ## What is written -/

theorem stringForm_writeText (s : String) : StringForm (writeText s) s :=
  ⟨escapeAll s.toList, rfl, spells_escapeAll s.toList⟩

theorem idForm_writeId (id : R.Id) : R.IdForm (R.writeId id) id := stringForm_writeText (R.name id)

theorem optionalForm_writeOptional : ∀ id? : Option R.Id,
    OptionalForm R.IdForm (R.writeOptional id?) id?
  | none => .none
  | some id => .some (R.idForm_writeId id)

/-- Written values with commas between them are items, up to the closing bracket. -/
theorem items_joinValues {closing : Char} {form : List Char → α → Prop} {write : α → List Char}
    (hwrite : ∀ v, form (write v) v) : ∀ (v : α) (vs : List α),
      ∃ t, Items closing form t vs
        ∧ joinValues ((v :: vs).map write) ++ [closing] = write v ++ t
  | v, [] => ⟨[closing], .close blank_nil, rfl⟩
  | v, v' :: vs => by
      obtain ⟨t, ht, heq⟩ := items_joinValues hwrite v' vs
      refine ⟨_, .next blank_nil blank_nil (hwrite v') ht, ?_⟩
      rw [List.map_cons] at heq
      simp only [List.map_cons, joinValues, List.append_assoc, List.cons_append, List.nil_append,
        heq]

theorem bracketed_joinValues {opening closing : Char} {form : List Char → α → Prop}
    {write : α → List Char} (hwrite : ∀ v, form (write v) v) : ∀ vs : List α,
      Bracketed opening closing form (opening :: joinValues (vs.map write) ++ [closing]) vs
  | [] => .empty blank_nil
  | v :: vs => by
      obtain ⟨t, ht, heq⟩ : ∃ t, Items closing form t vs
          ∧ joinValues ((v :: vs).map write) ++ [closing] = write v ++ t :=
        items_joinValues hwrite v vs
      rw [List.cons_append, heq]
      exact .items blank_nil (hwrite v) ht

theorem listForm_writeList (ids : List R.Id) :
    Bracketed '[' ']' R.IdForm (R.writeList ids) ids :=
  bracketed_joinValues R.idForm_writeId ids

theorem tableForm_writeTable (members : List (String × R.Id)) :
    R.TableForm (R.writeTable members) members :=
  bracketed_joinValues (fun m => ⟨_, [], [], _, stringForm_writeText m.1, blank_nil, blank_nil,
    R.idForm_writeId m.2, rfl⟩) members

/-! ## The boundary -/

/-- A form alone, without blanks around it, is a text that means its value. -/
theorem denotes_ofList {form : List Char → α → Prop} {w : List Char} {v : α} (h : form w v) :
    Denotes form (String.ofList w) v :=
  ⟨[], w, [], blank_nil, h, blank_nil, by simp⟩

/-- What a text means as a table: its members, each key bound to its last value. -/
def MeansTable (text : String) (table : List (String × R.Id)) : Prop :=
  ∃ members, Denotes R.TableForm text members ∧ IsTable members table

theorem parseTable_eq_ok_iff {text : String} {table : List (String × R.Id)} :
    R.parseTable text = .ok table ↔ R.MeansTable text table := by
  have hreads : ∀ members, readAll (readTable R.readId) text = .ok members ↔
      Denotes R.TableForm text members :=
    fun _ => readAll_eq_ok_iff (readTable_reads R.readId_reads)
  simp only [MeansTable, ← hreads, isTable_iff, parseTable]
  cases readAll (readTable R.readId) text with
  | error e => simp [Except.map]
  | ok members => simp [Except.map, eq_comm]

/-- A shape of values at the boundary: what a text of that shape means, and what is written. -/
structure Boundary (parse : String → Except Json.Error α) (write : α → List Char)
    (Means : String → α → Prop) (Valid : α → Prop) : Prop where
  /-- A text is read as what it means. -/
  parse_iff : ∀ text v, parse text = .ok v ↔ Means text v
  /-- Only values of the shape are read. -/
  valid : ∀ text v, parse text = .ok v → Valid v
  /-- Reading undoes writing. -/
  parse_write : ∀ v, Valid v → parse (String.ofList (write v)) = .ok v
  /-- What is written for a text that was read is read as the same value and written as it is. -/
  canonical : ∀ text v, parse text = .ok v →
    parse (String.ofList (write v)) = .ok v
      ∧ (parse (String.ofList (write v))).map write = .ok (write v)

/-- It is enough that readers accept what a text means and that written values mean themselves. -/
theorem boundary_of_means {parse : String → Except Json.Error α} {write : α → List Char}
    {Means : String → α → Prop} {Valid : α → Prop}
    (hparse : ∀ text v, parse text = .ok v ↔ Means text v)
    (hwrite : ∀ v, Valid v → Means (String.ofList (write v)) v)
    (hvalid : ∀ text v, Means text v → Valid v) : Boundary parse write Means Valid := by
  have hround : ∀ v, Valid v → parse (String.ofList (write v)) = .ok v :=
    fun v hv => (hparse _ v).mpr (hwrite v hv)
  refine ⟨hparse, fun text v h => hvalid text v ((hparse text v).mp h), hround, fun text v h => ?_⟩
  have hread := hround v (hvalid text v ((hparse text v).mp h))
  refine ⟨hread, ?_⟩
  rw [hread]
  rfl

/-- A shape that is read by one reader, every value of which is written in one of its forms. -/
theorem boundary_of_reads {reader : Reader α} {form : List Char → α → Prop}
    (hreader : Reads reader form) {write : α → List Char} (hwrite : ∀ v, form (write v) v) :
    Boundary (readAll reader) write (Denotes form) fun _ => True :=
  boundary_of_means (fun _ _ => readAll_eq_ok_iff hreader) (fun v _ => denotes_ofList (hwrite v))
    fun _ _ _ => trivial

/-- **What crosses the JSON boundary comes back.** Identifiers, optional identifiers, lists and
tables in key order are read from exactly the texts that mean them, whatever the spelling of their
strings; they are read back from what is written for them; and what is written for a text that was
read is its canonical text. A table binds each key of the text once, to its last value. -/
theorem json_boundary :
    Boundary R.parseId R.writeId (Denotes R.IdForm) (fun _ => True)
      ∧ Boundary R.parseOptional R.writeOptional (Denotes (OptionalForm R.IdForm)) (fun _ => True)
      ∧ Boundary R.parseList R.writeList (Denotes (Bracketed '[' ']' R.IdForm)) (fun _ => True)
      ∧ Boundary R.parseTable R.writeTable R.MeansTable SortedKeys := by
  refine ⟨?identifier, ?optional, ?list, ?table⟩
  case identifier => exact boundary_of_reads R.readId_reads R.idForm_writeId
  case optional =>
    exact boundary_of_reads (readOptional_reads R.readId_reads R.quoted_idForm)
      R.optionalForm_writeOptional
  case list =>
    exact boundary_of_reads (readList_reads R.readId_reads R.quoted_idForm) R.listForm_writeList
  case table =>
    refine boundary_of_means (fun _ _ => R.parseTable_eq_ok_iff) (fun table hsorted => ?_)
      fun _ _ ⟨_, _, hsorted, _⟩ => hsorted
    exact ⟨table, denotes_ofList (R.tableForm_writeTable table), isTable_self hsorted⟩

end Registry

end GlyphBook
