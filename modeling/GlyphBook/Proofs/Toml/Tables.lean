import GlyphBook.Proofs.Toml.Lines

/-!
# Documents with one table

A document that only gives texts to the keys of one table can do so below a header, with dotted
keys, or in braces. However it is written, it is read as that table with the keys in their order,
and refused if a key is given twice (`parse?_headed`, `parse?_dotted`, `parse?_braced`).

All three rest on the same two facts: the lines of the document are read as what they say, and
putting them together appends one member after the other.
-/

namespace GlyphBook

namespace Toml

/-- Texts under the keys of a table, below its header. -/
def entryLine (pair : String × String) : Line := .entry [pair.1] (.text pair.2)

/-- Texts under the keys of a table that every line names. -/
def dottedLine (table : String) (pair : String × String) : Line :=
  .entry [table, pair.1] (.text pair.2)

/-- A document whose only key is a table with these texts. -/
def IsTable (table : String) (pairs : List (String × String)) (members : List Member) : Prop :=
  ∃ key extent form sub, members = [(key, extent, .table form sub)] ∧ key.name = table
    ∧ sub.map Member.bare = pairs.map named

/-- The source is read as a document that is as described, if the keys are distinct. -/
def ParsesWhenDistinct (source : String) (pairs : List (String × String))
    (described : List Member → Prop) : Prop :=
  ((pairs.map Prod.fst).Nodup → ∃ members, parse? source = some members ∧ described members)
    ∧ (¬ (pairs.map Prod.fst).Nodup → parse? source = none)

theorem ParsesWhenDistinct.imp {source : String} {pairs : List (String × String)}
    {described described' : List Member → Prop} (h : ParsesWhenDistinct source pairs described)
    (himp : ∀ members, described members → described' members) :
    ParsesWhenDistinct source pairs described' := by
  obtain ⟨hreads, hrefuses⟩ := h
  refine ⟨fun hnodup => ?_, hrefuses⟩
  obtain ⟨members, hparse, hmembers⟩ := hreads hnodup
  exact ⟨members, hparse, himp members hmembers⟩

/-! ## Statements as members -/

theorem exists_members_of_entryLines {pairs : List (String × String)} {statements : List Statement}
    (h : List.Forall₂ Statement.Says statements (pairs.map entryLine)) :
    ∃ entries : List Member, statements = entries.map Member.line
      ∧ entries.map Member.bare = pairs.map named := by
  induction pairs generalizing statements with
  | nil =>
      cases h
      exact ⟨[], rfl, rfl⟩
  | cons pair pairs ih =>
      obtain ⟨name, text⟩ := pair
      rcases h with _ | ⟨hsaid, hlater⟩
      obtain ⟨entries, rfl, hbare⟩ := ih hlater
      rcases hsaid with _ | ⟨hnames, hholds⟩
      obtain ⟨key, rfl, rfl⟩ := Path.eq_of_names hnames
      rcases hholds with ⟨⟩
      refine ⟨(key, _, .text text) :: entries, rfl, ?_⟩
      rw [List.map_cons, List.map_cons, hbare]
      rfl

theorem exists_members_of_dottedLines {table : String} {pairs : List (String × String)}
    {statements : List Statement}
    (h : List.Forall₂ Statement.Says statements (pairs.map (dottedLine table))) :
    ∃ entries : List (Key × Member), statements = entries.map Member.dottedLine
      ∧ (∀ entry ∈ entries, entry.1.name = table)
      ∧ (entries.map Prod.snd).map Member.bare = pairs.map named := by
  induction pairs generalizing statements with
  | nil =>
      cases h
      exact ⟨[], rfl, fun _ hentry => (nomatch hentry), rfl⟩
  | cons pair pairs ih =>
      obtain ⟨name, text⟩ := pair
      rcases h with _ | ⟨hsaid, hlater⟩
      obtain ⟨entries, rfl, htables, hbare⟩ := ih hlater
      rcases hsaid with _ | ⟨hnames, hholds⟩
      obtain ⟨tableKey, key, rfl, htable, rfl⟩ := Path.eq_of_names_pair hnames
      rcases hholds with ⟨⟩
      refine ⟨(tableKey, key, _, .text text) :: entries, rfl, ?_, ?_⟩
      · exact List.forall_mem_cons.mpr ⟨htable, htables⟩
      · rw [List.map_cons, List.map_cons, List.map_cons, hbare]
        rfl

/-! ## The three ways to write the table -/

theorem appendAll_cases {entries : List Member} {pairs : List (String × String)}
    (h : entries.map Member.bare = pairs.map named) :
    ((pairs.map Prod.fst).Nodup → appendAll [] entries = some entries)
      ∧ (¬ (pairs.map Prod.fst).Nodup → appendAll [] entries = none) := by
  have hnone : (keyNames []).Nodup := List.nodup_nil
  rw [appendAll_eq hnone, List.nil_append, keyNames_of_bare h]
  exact ⟨fun hdistinct => if_pos hdistinct, fun hrepeats => if_neg hrepeats⟩

/-- **Below a header.** -/
theorem parse?_headed {source table : String} {pairs : List (String × String)}
    (h : Document source (.header [table] :: pairs.map entryLine)) :
    ParsesWhenDistinct source pairs (IsTable table pairs) := by
  have hlines : ∀ line ∈ Line.header [table] :: pairs.map entryLine, line.Distinct := by
    refine List.forall_mem_cons.mpr ⟨trivial, fun line hline => ?_⟩
    obtain ⟨pair, -, rfl⟩ := List.mem_map.mp hline
    exact trivial
  obtain ⟨statements, hread, hsaid⟩ := (statements?_of_document h).1 hlines
  rcases hsaid with _ | ⟨hheader, hentries⟩
  rcases hheader with ⟨hnames⟩ | _
  obtain ⟨key, rfl, rfl⟩ := Path.eq_of_names hnames
  obtain ⟨entries, rfl, hbare⟩ := exists_members_of_entryLines hentries
  obtain ⟨reach, hassemble⟩ := assemble?_headed key _ entries
  obtain ⟨hdistinct, hrepeats⟩ := appendAll_cases hbare
  have hparse : parse? source = _ := (congrArg (Option.bind · assemble?) hread).trans hassemble
  constructor
  · intro hnodup
    rw [hparse, hdistinct hnodup]
    exact ⟨_, rfl, key, reach, .header, entries, rfl, rfl, hbare⟩
  · intro hnodup
    rw [hparse, hrepeats hnodup]
    rfl

/-- **With dotted keys.** Without any key there is no table either. -/
theorem parse?_dotted {source table : String} {pairs : List (String × String)}
    (h : Document source (pairs.map (dottedLine table))) :
    ParsesWhenDistinct source pairs fun members =>
      (pairs = [] ∧ members = []) ∨ IsTable table pairs members := by
  have hlines : ∀ line ∈ pairs.map (dottedLine table), line.Distinct := by
    intro line hline
    obtain ⟨pair, -, rfl⟩ := List.mem_map.mp hline
    exact trivial
  obtain ⟨statements, hread, hsaid⟩ := (statements?_of_document h).1 hlines
  obtain ⟨entries, rfl, htables, hbare⟩ := exists_members_of_dottedLines hsaid
  have hparse : parse? source = assemble? (entries.map Member.dottedLine) :=
    congrArg (Option.bind · assemble?) hread
  cases entries with
  | nil =>
      have hpairs : pairs = [] := List.map_eq_nil_iff.mp hbare.symm
      refine ⟨fun _ => ⟨[], hparse, Or.inl ⟨hpairs, rfl⟩⟩, fun hrepeats => ?_⟩
      rw [hpairs] at hrepeats
      exact absurd List.nodup_nil hrepeats
  | cons entry entries =>
      obtain ⟨key, member⟩ := entry
      obtain ⟨hkey, hkeys⟩ := List.forall_mem_cons.mp htables
      obtain ⟨hdistinct, hrepeats⟩ := appendAll_cases hbare
      rw [List.map_cons] at hdistinct hrepeats
      rw [assemble?_dotted hkey hkeys] at hparse
      constructor
      · intro hnodup
        rw [hparse, hdistinct hnodup]
        exact ⟨_, rfl, Or.inr ⟨key, key.extent, .dotted, _, rfl, hkey, hbare⟩⟩
      · intro hnodup
        rw [hparse, hrepeats hnodup]
        rfl

/-- **In braces.** -/
theorem parse?_braced {source table : String} {pairs : List (String × String)}
    (h : Document source [.entry [table] (.table pairs)]) :
    ParsesWhenDistinct source pairs (IsTable table pairs) := by
  have hlines : (∀ line ∈ [Line.entry [table] (.table pairs)], line.Distinct)
      ↔ (pairs.map Prod.fst).Nodup := by
    rw [List.forall_mem_singleton]
    exact Iff.rfl
  obtain ⟨hreads, hrefuses⟩ := statements?_of_document h
  constructor
  · intro hnodup
    obtain ⟨statements, hread, hsaid⟩ := hreads (hlines.mpr hnodup)
    rcases hsaid with _ | ⟨hentry, hlater⟩
    rcases hlater with _ | _
    rcases hentry with _ | ⟨hnames, hholds⟩
    obtain ⟨key, rfl, rfl⟩ := Path.eq_of_names hnames
    rcases hholds with _ | _ | hbare
    refine ⟨_, congrArg (Option.bind · assemble?) hread, ?_⟩
    exact ⟨key, _, .inline, _, rfl, rfl, hbare⟩
  · intro hrepeats
    exact congrArg (Option.bind · assemble?) (hrefuses (mt hlines.mp hrepeats))

/-- **A list of texts** under the only key of a document. -/
theorem parse?_list {source name : String} {names : List String}
    (h : Document source [.entry [name] (.list names)]) :
    ∃ key extent items, parse? source = some [(key, extent, .list .written items)]
      ∧ key.name = name ∧ items.map Prod.snd = names.map .text := by
  have hlines : ∀ line ∈ [Line.entry [name] (.list names)], line.Distinct :=
    List.forall_mem_singleton.mpr trivial
  obtain ⟨statements, hread, hsaid⟩ := (statements?_of_document h).1 hlines
  rcases hsaid with _ | ⟨hentry, hlater⟩
  rcases hlater with _ | _
  rcases hentry with _ | ⟨hnames, hholds⟩
  obtain ⟨key, rfl, rfl⟩ := Path.eq_of_names hnames
  rcases hholds with _ | hitems | _
  exact ⟨key, _, _, congrArg (Option.bind · assemble?) hread, rfl, hitems⟩

end Toml

end GlyphBook
