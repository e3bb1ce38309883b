import GlyphBook.Toml.Assembly
import Mathlib.Data.List.Nodup

/-!
# How entries become a table

The same entries can be put into a table in three ways: below a header, behind dotted keys that
begin with the name of the table, and in braces. Each way appends one member at a time to the
members that the table has so far (`appendAll`), and none of them lets a name be given twice
(`appendAll_eq`).

What carries this is that a line changes nothing but the members of its table: the draft of a
document is a function of those members (`headed`, `dotted`), a line acts on the draft as
`appendNew` does on the members (`add?_headed`, `add?_dotted`), and so does a run of lines
(`foldlM_of_commutes`).
-/

namespace GlyphBook

namespace Toml

def Path.names (path : Path) : List String := path.keys.map Key.name

/-- A member without the places where it is written. -/
def Member.bare (member : Member) : String × Value := (member.1.name, member.2.2)

def keyNames (members : List Member) : List String := members.map fun member => member.1.name

theorem Path.eq_of_names {path : Path} {name : String} (h : path.names = [name]) :
    ∃ key, path = ⟨[], key⟩ ∧ key.name = name := by
  obtain ⟨way, last⟩ := path
  cases way with
  | nil => exact ⟨last, rfl, (List.cons.inj h).1⟩
  | cons key way =>
      have hlength := congrArg List.length h
      simp [Path.names, Path.keys] at hlength

theorem Path.eq_of_names_pair {path : Path} {table name : String}
    (h : path.names = [table, name]) :
    ∃ key last, path = ⟨[key], last⟩ ∧ key.name = table ∧ last.name = name := by
  obtain ⟨way, last⟩ := path
  cases way with
  | nil =>
      have hlength := congrArg List.length h
      simp [Path.names, Path.keys] at hlength
  | cons key way =>
      obtain ⟨hkey, hlater⟩ := List.cons.inj h
      have hnames : (Path.mk way last).names = [name] := hlater
      obtain ⟨last', hpath, hlast⟩ := Path.eq_of_names hnames
      obtain ⟨rfl, rfl⟩ := Path.mk.inj hpath
      exact ⟨key, last, rfl, hkey, hlast⟩

/-! ## Appending members -/

theorem find?_eq_none_iff {name : String} {members : List Member} :
    find? name members = none ↔ name ∉ keyNames members := by
  simp only [find?, keyNames, Option.map_eq_none_iff, List.find?_eq_none, List.mem_map, beq_iff_eq]
  constructor
  · rintro h ⟨member, hmember, hname⟩
    exact h member hmember hname
  · intro h member hmember hname
    exact h ⟨member, hmember, hname⟩

theorem appendNew_of_notMem {key : Key} {members : List Member} (h : key.name ∉ keyNames members)
    (extent : Extent) (value : Value) :
    appendNew key extent value members = some (members ++ [(key, extent, value)]) := by
  rw [appendNew, find?_eq_none_iff.mpr h]

theorem appendNew_of_mem {key : Key} {members : List Member} (h : key.name ∈ keyNames members)
    (extent : Extent) (value : Value) : appendNew key extent value members = none := by
  rw [appendNew]
  cases hfind : find? key.name members with
  | none => exact absurd h (find?_eq_none_iff.mp hfind)
  | some found => rfl

/-- Appends one member after the other, each only if its name is new. -/
def appendAll (members entries : List Member) : Option (List Member) :=
  entries.foldlM (fun members entry => appendNew entry.1 entry.2.1 entry.2.2 members) members

/-- Members can be appended if and only if no name is given twice. -/
theorem appendAll_eq {members : List Member} (h : (keyNames members).Nodup)
    (entries : List Member) :
    appendAll members entries
      = if (keyNames (members ++ entries)).Nodup then some (members ++ entries) else none := by
  induction entries generalizing members with
  | nil =>
      rw [List.append_nil, if_pos h]
      rfl
  | cons entry entries ih =>
      obtain ⟨key, extent, value⟩ := entry
      rw [appendAll, List.foldlM_cons]
      by_cases hkey : key.name ∈ keyNames members
      · have hrepeats : ¬ (keyNames (members ++ (key, extent, value) :: entries)).Nodup := by
          intro hnodup
          rw [keyNames, List.map_append] at hnodup
          exact List.disjoint_of_nodup_append hnodup hkey (List.mem_cons_self ..)
        rw [appendNew_of_mem hkey, if_neg hrepeats]
        rfl
      · have hnext : (keyNames (members ++ [(key, extent, value)])).Nodup := by
          rw [keyNames, List.map_append]
          exact List.Nodup.append h (List.nodup_singleton _)
            (List.disjoint_singleton.mpr hkey)
        rw [appendNew_of_notMem hkey, Option.bind_eq_bind, Option.bind_some]
        exact (ih hnext).trans (by rw [List.append_assoc, List.singleton_append])

/-- A run of steps on states that are made from others, when each step can be done before. -/
theorem foldlM_of_commutes {step : σ → α → Option σ} {inner : τ → α → Option τ} {make : τ → σ}
    {lines : List α} (h : ∀ t, ∀ line ∈ lines, step (make t) line = (inner t line).map make)
    (t : τ) : lines.foldlM step (make t) = (lines.foldlM inner t).map make := by
  induction lines generalizing t with
  | nil => rfl
  | cons line lines ih =>
      rw [List.foldlM_cons, List.foldlM_cons, h t line (List.mem_cons_self ..)]
      cases inner t line with
      | none => rfl
      | some next => exact ih (fun t line hline => h t line (List.mem_cons_of_mem _ hline)) next

/-! ## Braces -/

def Member.inBraces (member : Member) : Path × Extent × Value := (⟨[], member.1⟩, member.2)

theorem assembleInline?_map (entries : List Member) :
    assembleInline? (entries.map Member.inBraces) = appendAll [] entries := by
  rw [assembleInline?, appendAll, List.foldlM_map]
  rfl

/-! ## Lines -/

/-- A line below a table that adds to one of its members, which is a table itself. -/
theorem within_single {dotted : Bool} {change : TableForm → List Member → Option (List Member)}
    {key key' : Key} (hname : key.name = key'.name) {form : TableForm}
    (hform : ¬ (form = .inline ∨ (dotted = true ∧ form.isOpen = false))) (outer : TableForm)
    (extent : Extent) (sub : List Member) :
    within dotted change [key'] outer [(key, extent, .table form sub)]
      = (change form sub).map fun sub => [(key, extent, .table form sub)] := by
  simp only [within, alter, if_pos hname, if_neg hform, Option.map_map]
  rfl

/-- The draft of a document with a table below a header. -/
def headed (key : Key) (extent : Extent) (sub : List Member) : Draft :=
  ⟨[(key, extent, .table .header sub)], [key]⟩

/-- The draft of a document with a table that dotted keys made. -/
def dotted (key : Key) (sub : List Member) : Draft :=
  ⟨[(key, key.extent, .table .dotted sub)], []⟩

def Member.line (member : Member) : Statement := .entry ⟨[], member.1⟩ member.2.1 member.2.2

def Member.dottedLine : Key × Member → Statement
  | (key, member) => .entry ⟨[key], member.1⟩ member.2.1 member.2.2

theorem add?_headed (key : Key) (extent : Extent) (sub : List Member) (entry : Member) :
    (headed key extent sub).add? entry.line
      = (appendNew entry.1 entry.2.1 entry.2.2 sub).map (headed key extent) := by
  have hform :
      ¬ (TableForm.header = .inline ∨ (false = true ∧ TableForm.header.isOpen = false)) := by
    decide
  rw [headed, Member.line, Draft.add?, within_single rfl hform, Option.map_map]
  rfl

theorem add?_dotted {key key' : Key} (hname : key.name = key'.name) (sub : List Member)
    (entry : Member) :
    (dotted key sub).add? (Member.dottedLine (key', entry))
      = (appendNew entry.1 entry.2.1 entry.2.2 sub).map (dotted key) := by
  have hform :
      ¬ (TableForm.dotted = .inline ∨ (true = true ∧ TableForm.dotted.isOpen = false)) := by
    decide
  rw [dotted, Member.dottedLine, Draft.add?, within, addEntry, within_single hname hform,
    Option.map_map]
  rfl

/-- The first line that names a table makes it. -/
theorem add?_dotted_first (key : Key) (entry : Member) :
    Draft.add? {} (Member.dottedLine (key, entry))
      = (appendNew entry.1 entry.2.1 entry.2.2 []).map (dotted key) := rfl

theorem reachValues_entries (lines : List Statement)
    (h : ∀ line ∈ lines, ∃ path extent value, line = .entry path extent value) :
    reachValues lines = lines := by
  induction lines with
  | nil => rfl
  | cons line lines ih =>
      obtain ⟨⟨path, extent, value, rfl⟩, hlater⟩ := List.forall_mem_cons.mp h
      rw [reachValues, ih hlater]
      · rintro _ _ h
        cases h
      · rintro _ _ h
        cases h

/-! ## Documents -/

/-- **Below a header** a table has the members of the lines, each name given once. -/
theorem assemble?_headed (key : Key) (extent : Extent) (entries : List Member) :
    ∃ reach, assemble? (.header ⟨[], key⟩ extent :: entries.map Member.line)
      = (appendAll [] entries).map fun sub => [(key, reach, .table .header sub)] := by
  have hlines : reachValues (entries.map Member.line) = entries.map Member.line := by
    refine reachValues_entries _ fun line hline => ?_
    obtain ⟨entry, -, rfl⟩ := List.mem_map.mp hline
    exact ⟨_, _, _, rfl⟩
  refine ⟨⟨extent.start, (lastValueStop? (entries.map Member.line)).getD extent.stop⟩, ?_⟩
  rw [assemble?, reachValues, hlines, List.foldlM_cons]
  show ((entries.map Member.line).foldlM Draft.add? (headed key _ [])).map Draft.members = _
  rw [List.foldlM_map, foldlM_of_commutes (fun sub entry _ => add?_headed key _ sub entry),
    Option.map_map]
  rfl

/-- **Dotted keys** make a table with the members of the lines, each name given once. -/
theorem assemble?_dotted {name : String} {key : Key} {first : Member}
    {entries : List (Key × Member)} (hkey : key.name = name)
    (hkeys : ∀ entry ∈ entries, entry.1.name = name) :
    assemble? (((key, first) :: entries).map Member.dottedLine)
      = (appendAll [] (first :: entries.map Prod.snd)).map fun sub =>
          [(key, key.extent, .table .dotted sub)] := by
  have hlines : reachValues (((key, first) :: entries).map Member.dottedLine)
      = ((key, first) :: entries).map Member.dottedLine := by
    refine reachValues_entries _ fun line hline => ?_
    obtain ⟨entry, -, rfl⟩ := List.mem_map.mp hline
    exact ⟨_, _, _, rfl⟩
  have hrun (sub : List Member) : (entries.map Member.dottedLine).foldlM Draft.add? (dotted key sub)
      = (appendAll sub (entries.map Prod.snd)).map (dotted key) := by
    rw [List.foldlM_map, appendAll, List.foldlM_map]
    refine foldlM_of_commutes (fun sub entry hentry => ?_) sub
    exact add?_dotted (hkey.trans (hkeys entry hentry).symm) sub entry.2
  rw [assemble?, hlines, List.map_cons, List.foldlM_cons, add?_dotted_first, appendAll,
    List.foldlM_cons]
  -- The first line makes the table; the others find it as `dotted` describes it.
  cases appendNew first.1 first.2.1 first.2.2 [] with
  | none => rfl
  | some sub =>
      show ((entries.map Member.dottedLine).foldlM Draft.add? (dotted key sub)).map Draft.members
        = _
      rw [hrun, Option.map_map]
      rfl

end Toml

end GlyphBook
