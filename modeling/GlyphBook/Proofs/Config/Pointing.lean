import GlyphBook.Proofs.Config.Schema
import GlyphBook.Proofs.Toml.Assembly
import GlyphBook.Proofs.Toml.Order
import GlyphBook.Proofs.Toml.Sight
import GlyphBook.Proofs.Toml.Tails
import Mathlib

/-!
# A refused document points at its first offence

Which fault of a document is reported was settled on its tree. Here the tree is tied back to the
text. The entries of the tree come in the order of the text (`InWrittenOrder`), so the first offence
in the tree (`FirstOffence`) is the first one written, and the token that the error is about stands
in its place (`Token.Written`). What the report then shows is what `PointsAt` spells.

The report depends on nothing behind the offence. For documents that are one table below a header
this is shown by reading the two documents side by side (`statements?_alike`): up to the offence
their lines are alike, so the same fault comes first, and it is sighted in the same place.
-/

namespace GlyphBook

namespace Config

open Toml

/-! ## The first offence -/

/-- What an error points at: a key, the value of an entry, or an item of a list. -/
inductive Token where
  | key (key : Toml.Key)
  | value (key : Toml.Key) (extent : Extent) (value : Value)
  | item (extent : Extent) (value : Value)

def Token.extent : Token → Extent
  | .key k => k.extent
  | .value _ extent _ => extent
  | .item extent _ => extent

/-- The token is the text `w`, which stands behind `before`; a value of an entry stands behind its
key and an equals sign. -/
inductive Token.Written (source : List Char) :
    List Char → List Char → List Char → Token → Prop where
  | key {before w after : List Char} {key : Toml.Key} :
      key.extent.Covers source before w after → KeyForm w key.name →
      Written source before w after (.key key)
  | value {front k b b' w after : List Char} {key : Toml.Key} {extent : Extent} {value : Value} :
      Blank b → Blank b' → KeyForm k key.name →
      key.extent.Covers source front k (b ++ '=' :: (b' ++ (w ++ after))) →
      extent.Covers source (front ++ (k ++ (b ++ '=' :: b'))) w after →
      ReadsAs extent value w after →
      Written source (front ++ (k ++ (b ++ '=' :: b'))) w after (.value key extent value)
  | item {before w after : List Char} {extent : Extent} {value : Value} :
      extent.Covers source before w after → ReadsAs extent value w after →
      Written source before w after (.item extent value)

theorem Token.Written.covers {source before w after : List Char} {token : Token}
    (h : token.Written source before w after) : token.extent.Covers source before w after := by
  cases h with
  | key hcovers _ => exact hcovers
  | value _ _ _ _ hcovers _ => exact hcovers
  | item hcovers _ => exact hcovers

/-- The first entry, from top to bottom, that a document may not have: all that is in front of it
has the right shape. -/
inductive FirstOffence : List Member → Token → Problem → Prop where
  /-- A key next to `icons`. -/
  | documentKey {front later : List Member} {key : Toml.Key} {extent : Extent} {value : Value} :
      WellShaped front → key.name ≠ "icons" →
      FirstOffence (front ++ (key, extent, value) :: later) (.key key)
        (.unknownKey key.name ["icons"])
  /-- A key that is no slot's. -/
  | slotKey {front later given rest : List Member} {icons key : Toml.Key} {whole extent : Extent}
      {form : TableForm} {value : Value} :
      WellShaped front → icons.name = "icons" → IconsShaped (.table form given) →
      key.name ∉ slotNames →
      FirstOffence
        (front ++ (icons, whole, .table form (given ++ (key, extent, value) :: rest)) :: later)
        (.key key) (.unknownKey key.name slotNames)
  /-- A slot's value that is no string, written out in one piece. -/
  | slotValue {front later given rest : List Member} {icons key : Toml.Key} {whole extent : Extent}
      {form : TableForm} {value : Value} :
      WellShaped front → icons.name = "icons" → IconsShaped (.table form given) →
      key.name ∈ slotNames → (∀ name, value ≠ .text name) → value.isWritten = true →
      FirstOffence
        (front ++ (icons, whole, .table form (given ++ (key, extent, value) :: rest)) :: later)
        (.value key extent value) (.mismatch ⟨value.seen, "a string"⟩)
  /-- An item in the place of a slot that is no string. -/
  | item {front later : List Member} {given rest : List (Extent × Value)} {icons : Toml.Key}
      {whole extent : Extent} {value : Value} :
      WellShaped front → icons.name = "icons" → IconsShaped (.list .written given) →
      given.length < Slot.all.length → (∀ name, value ≠ .text name) →
      FirstOffence
        (front ++ (icons, whole, .list .written (given ++ (extent, value) :: rest)) :: later)
        (.item extent value) (.mismatch ⟨value.seen, "a string"⟩)

theorem head?_flatMap_append_cons {f : α → List Fault} {front later : List α} {a : α}
    {fault : Fault} (hfront : front.flatMap f = []) (h : (f a).head? = some fault) :
    ((front ++ a :: later).flatMap f).head? = some fault := by
  rw [List.flatMap_append, hfront, List.nil_append, List.flatMap_cons, List.head?_append, h]
  rfl

theorem tableFaults_singleton (key : Toml.Key) (extent : Extent) (value : Value) :
    tableFaults [(key, extent, value)] = if key.name ∈ slotNames then valueFaults extent value
      else [⟨key.extent, .unknownKey key.name slotNames⟩] := List.flatMap_singleton ..

theorem valueFaults_of_not_text {extent : Extent} {value : Value}
    (h : ∀ name, value ≠ .text name) :
    valueFaults extent value = [⟨extent, .mismatch ⟨value.seen, "a string"⟩⟩] := by
  cases value with
  | text name => exact absurd rfl (h name)
  | _ => rfl

/-- The faults of the value of `icons` come first when nothing is wrong in front of it. -/
theorem head?_faults_icons {front later : List Member} {icons : Toml.Key} {whole : Extent}
    {value : Value} {fault : Fault} (hfront : WellShaped front) (hicons : icons.name = "icons")
    (h : (iconsFaults whole value).head? = some fault) :
    (faults (front ++ (icons, whole, value) :: later)).head? = some fault := by
  refine head?_flatMap_append_cons (faults_eq_nil_iff.mpr hfront) ?_
  dsimp only
  rwa [if_pos hicons]

theorem head?_tableFaults {form : TableForm} {given rest : List Member} {m : Member} {fault : Fault}
    (hgiven : IconsShaped (.table form given)) (h : (tableFaults [m]).head? = some fault) :
    (tableFaults (given ++ m :: rest)).head? = some fault := by
  have hnil : iconsFaults m.2.1 (.table form given) = [] := iconsFaults_eq_nil_iff.mpr hgiven
  refine head?_flatMap_append_cons hnil ?_
  rwa [tableFaults, List.flatMap_singleton] at h

theorem head?_listFaults {given rest : List (Extent × Value)} {extent : Extent} {value : Value}
    {fault : Fault} (hgiven : IconsShaped (.list .written given))
    (hlength : given.length < Slot.all.length)
    (h : (valueFaults extent value).head? = some fault) :
    (listFaults (given ++ (extent, value) :: rest)).head? = some fault := by
  have hnil : iconsFaults extent (.list .written given) = [] := iconsFaults_eq_nil_iff.mpr hgiven
  rw [iconsFaults, listFaults, List.take_of_length_le hlength.le] at hnil
  obtain ⟨n, hn⟩ := Nat.exists_eq_add_of_lt hlength
  rw [listFaults, List.take_append, List.take_of_length_le hlength.le,
    show Slot.all.length - given.length = n + 1 by omega, List.take_succ_cons]
  exact head?_flatMap_append_cons hnil h

/-- **The first offence is the first fault.** -/
theorem FirstOffence.head?_faults {members : List Member} {token : Token} {problem : Problem}
    (h : FirstOffence members token problem) :
    (faults members).head? = some ⟨token.extent, problem⟩ := by
  cases h with
  | documentKey hfront hkey =>
      refine head?_flatMap_append_cons (faults_eq_nil_iff.mpr hfront) ?_
      dsimp only
      rw [if_neg hkey]
      rfl
  | slotKey hfront hicons hgiven hkey =>
      refine head?_faults_icons hfront hicons (head?_tableFaults hgiven ?_)
      rw [tableFaults_singleton, if_neg hkey]
      rfl
  | slotValue hfront hicons hgiven hkey hvalue _ =>
      refine head?_faults_icons hfront hicons (head?_tableFaults hgiven ?_)
      rw [tableFaults_singleton, if_pos hkey, valueFaults_of_not_text hvalue]
      rfl
  | item hfront hicons hgiven hlength hvalue =>
      refine head?_faults_icons hfront hicons (head?_listFaults hgiven hlength ?_)
      rw [valueFaults_of_not_text hvalue]
      rfl

/-! ## Where it stands -/

theorem written_of_keyAt {source : List Char} {key : Toml.Key} (h : KeyAt source key) :
    ∃ before w after, (Token.key key).Written source before w after := by
  obtain ⟨before, w, after, hcovers, hform⟩ := h
  exact ⟨before, w, after, .key hcovers hform⟩

/-- **The token of the first offence** stands in its place. -/
theorem FirstOffence.written {source : List Char} {members : List Member} {token : Token}
    {problem : Problem} (h : FirstOffence members token problem)
    (hplaced : AllPlaced source members) :
    ∃ before w after, token.Written source before w after := by
  have hmember {α : Type} {front later : List α} {a : α} : a ∈ front ++ a :: later := by simp
  cases h with
  | documentKey _ _ => exact written_of_keyAt (hplaced _ hmember).key
  | slotKey _ _ _ _ =>
      have htable := stands_table_iff.mp (hplaced _ hmember).value
      exact written_of_keyAt (htable _ hmember).key
  | slotValue _ _ _ _ _ hwritten =>
      have htable := stands_table_iff.mp (hplaced _ hmember).value
      obtain ⟨front, k, b, b', w, after, hb, hb', hkey, hkeyAt, hcovers, hreads⟩ :=
        (htable _ hmember).entry hwritten
      exact ⟨_, w, after, .value hb hb' hkey hkeyAt hcovers hreads⟩
  | item _ _ _ _ _ =>
      obtain ⟨before, w, after, hcovers, hreads⟩ :=
        valueAt_of_stands (hplaced _ hmember).value hmember
      exact ⟨before, w, after, .item hcovers hreads⟩

/-- The entries of a document stand in their places, and they come in the order in which they are
written, and so do those of its tables in braces and lists in brackets. -/
structure InWrittenOrder (source : List Char) (members : List Member) : Prop where
  placed : AllPlaced source members
  lines : InTextOrder source members
  braces : ∀ key extent sub, (key, extent, Value.table .inline sub) ∈ members →
    ∃ before w after, extent.Covers source before w after ∧ InBraceOrder w after sub
  brackets : ∀ key extent items, (key, extent, Value.list .written items) ∈ members →
    ∃ before w after, extent.Covers source before w after ∧ InBracketOrder w after items

theorem inWrittenOrder_parse? {source : String} {members : List Member}
    (h : parse? source = some members) : InWrittenOrder source.toList members where
  placed := allPlaced_parse? h
  lines := inTextOrder_parse? h
  braces key extent sub hmember := by
    obtain ⟨before, w, after, hcovers, hreads⟩ :=
      ((allPlaced_parse? h _ hmember).entry rfl).valueAt
    exact ⟨before, w, after, hcovers, inBraceOrder_of_readsAs hreads⟩
  brackets key extent items hmember := by
    obtain ⟨before, w, after, hcovers, hreads⟩ :=
      ((allPlaced_parse? h _ hmember).entry rfl).valueAt
    exact ⟨before, w, after, hcovers, inBracketOrder_of_readsAs hreads⟩

theorem parse_of_fault {source : String} {members : List Member} {fault : Fault}
    (h : parse? source = some members) (hfault : (faults members).head? = some fault) :
    parse source = .error (.badShape (sight source.toList fault.extent) fault.problem) := by
  rw [parse_of_parse? h, decode_eq_fault_iff.mpr hfault]
  rfl

/-- An error points at the first offence of the text that was refused. -/
theorem pointsAt_firstOffence {source : String} {members : List Member} {token : Token}
    {problem : Problem} (h : parse? source = some members)
    (hoffence : FirstOffence members token problem) :
    ∃ e before w after report, parse source = .error e
      ∧ e.message = "invalid config: " ++ report
      ∧ token.Written source.toList before w after
      ∧ PointsAt source.toList before w problem.message report := by
  obtain ⟨before, w, after, hwritten⟩ := hoffence.written (allPlaced_parse? h)
  exact ⟨_, before, w, after, _, parse_of_fault h hoffence.head?_faults, rfl, hwritten,
    pointsAt_report hwritten.covers _⟩

/-! ## What stands behind it -/

/-- The text is the header of `icons` with these entries below it, a line for each, with keys of one
part. -/
def IsIconsTable (source : String) (entries : List Member) : Prop :=
  ∃ key extent, key.name = "icons"
    ∧ statements? source.toList = some (.header ⟨[], key⟩ extent :: entries.map Member.line)

theorem IsIconsTable.parse? {source : String} {entries : List Member}
    (h : IsIconsTable source entries) (hvalid : (parse? source).isSome) :
    ∃ key extent, key.name = "icons"
      ∧ Toml.parse? source = some [(key, extent, .table .header entries)] := by
  obtain ⟨key, extent, hkey, hlines⟩ := h
  obtain ⟨reach, hassemble⟩ := assemble?_headed key extent entries
  have hnone : (keyNames []).Nodup := List.nodup_nil
  rw [appendAll_eq hnone, List.nil_append] at hassemble
  have hparse : Toml.parse? source
      = assemble? (.header ⟨[], key⟩ extent :: entries.map Member.line) := by
    rw [Toml.parse?, hlines, Option.bind_some]
  rw [hparse, hassemble] at hvalid ⊢
  split at hvalid
  · next hnodup => exact ⟨key, reach, hkey, by rw [if_pos hnodup]; rfl⟩
  · cases hvalid

theorem IsIconsTable.parse_of_fault {source : String} {entries : List Member} {fault : Fault}
    (h : IsIconsTable source entries) (hvalid : (Toml.parse? source).isSome)
    (hfault : (tableFaults entries).head? = some fault) :
    parse source = .error (.badShape (sight source.toList fault.extent) fault.problem) := by
  obtain ⟨key, extent, hkey, hparse⟩ := h.parse? hvalid
  have hnil : WellShaped [] := fun _ _ _ h => (List.not_mem_nil h).elim
  exact Config.parse_of_fault hparse (head?_faults_icons hnil hkey hfault)

/-- A fault is found in the text. -/
theorem start_le_of_mem_tableFaults {source : List Char} {entries : List Member}
    (h : ∀ m ∈ entries, m.line.Placed source) {fault : Fault}
    (hfault : fault ∈ tableFaults entries) :
    fault.extent.start ≤ source.length := by
  obtain ⟨⟨key, extent, value⟩, hm, hfault⟩ := List.mem_flatMap.mp hfault
  rcases h _ hm with _ | _ | ⟨-, ⟨before, k, b, b', w, after, -, -, -, hkey, hvalue, -⟩, -⟩
  have hkey := hkey.start_le
  have hvalue := hvalue.start_le
  dsimp only at hfault
  split at hfault
  · cases value with
    | text _ => exact (List.not_mem_nil hfault).elim
    | _ =>
        rw [List.mem_singleton.mp hfault]
        exact hvalue
  · rw [List.mem_singleton.mp hfault]
    exact hkey

section

variable {tail tail' : List Char}

/-- The same fault in front of another end. -/
structure Fault.Alike (tail tail' : List Char) (fault fault' : Fault) : Prop where
  extent : Moved tail tail' fault.extent fault'.extent
  problem : fault'.problem = fault.problem

theorem valueFaults_eq (extent : Extent) (value : Value) :
    valueFaults extent value = match value.seen with
      | .text _ => []
      | seen => [⟨extent, .mismatch ⟨seen, "a string"⟩⟩] := by
  cases value <;> rfl

theorem entryFaults_alike {m m' : Member} (h : m.line.Alike tail tail' m'.line) :
    List.Forall₂ (Fault.Alike tail tail') (tableFaults [m]) (tableFaults [m']) := by
  obtain ⟨key, extent, value⟩ := m
  obtain ⟨key', extent', value'⟩ := m'
  rcases h with _ | _ | ⟨hkeys, hextent, hseen⟩
  obtain ⟨⟨hname, hkey⟩, -⟩ := List.forall₂_cons.mp hkeys
  have hvalue : List.Forall₂ (Fault.Alike tail tail') (valueFaults extent value)
      (valueFaults extent' value') := by
    rw [valueFaults_eq, valueFaults_eq, hseen]
    cases value.seen with
    | text _ => exact .nil
    | _ => exact .cons ⟨hextent, rfl⟩ .nil
  rw [tableFaults_singleton, tableFaults_singleton, hname]
  split
  · exact hvalue
  · exact .cons ⟨hkey, rfl⟩ .nil

theorem tableFaults_alike {entries entries' : List Member}
    (h : List.Forall₂ (Statement.Alike tail tail') (entries.map Member.line)
      (entries'.map Member.line)) :
    List.Forall₂ (Fault.Alike tail tail') (tableFaults entries) (tableFaults entries') := by
  induction entries generalizing entries' with
  | nil =>
      obtain rfl := List.map_eq_nil_iff.mp (List.forall₂_nil_left_iff.mp h)
      exact .nil
  | cons m entries ih =>
      cases entries' with
      | nil => cases h
      | cons m' entries' =>
          obtain ⟨hm, hlater⟩ := List.forall₂_cons.mp h
          have hhead := entryFaults_alike hm
          simp only [tableFaults, List.flatMap_singleton] at hhead
          exact List.rel_append hhead (ih hlater)

/-- The entries up to the end of a line are alike. -/
theorem IsIconsTable.alike (htail : LineEnd tail) (htail' : LineEnd tail') {front : List Char}
    {given rest entries' : List Member} {m : Member}
    (hlines : IsIconsTable (String.ofList (front ++ tail)) (given ++ m :: rest))
    (hlines' : IsIconsTable (String.ofList (front ++ tail')) entries')
    (hstop : tail.length ≤ m.2.1.stop) :
    ∃ given' rest', entries' = given' ++ rest'
      ∧ List.Forall₂ (Statement.Alike tail tail') ((given ++ [m]).map Member.line)
        (given'.map Member.line) := by
  obtain ⟨key, extent, -, hread⟩ := hlines
  obtain ⟨key', extent', -, hread'⟩ := hlines'
  rw [String.toList_ofList] at hread hread'
  rw [List.map_append, ← List.cons_append, List.map_cons] at hread
  obtain ⟨pre', line', post', hlines, hpre, hm⟩ :=
    statements?_alike htail htail' hread hstop hread'
  obtain ⟨_, pre', -, hgiven, rfl⟩ := List.forall₂_cons_left_iff.mp hpre
  rw [List.append_cons, List.cons_append, List.cons_append] at hlines
  obtain ⟨-, hentries⟩ := List.cons.inj hlines
  obtain ⟨given', rest', rfl, hgiven', -⟩ := List.map_eq_append_iff.mp hentries
  refine ⟨given', rest', rfl, ?_⟩
  rw [hgiven', List.map_append]
  exact List.rel_append hgiven (.cons hm .nil)

theorem head?_tableFaults_append {entries rest : List Member} {fault : Fault} {later : List Fault}
    (h : tableFaults entries = fault :: later) :
    (tableFaults (entries ++ rest)).head? = some fault := by
  rw [tableFaults, List.flatMap_append, ← tableFaults, h]
  rfl

/-- **Lines behind an offence** are no part of the error. -/
theorem parse_append_lineEnd (htail : LineEnd tail) (htail' : LineEnd tail') {front : List Char}
    {given rest entries' : List Member} {m : Member}
    (hlines : IsIconsTable (String.ofList (front ++ tail)) (given ++ m :: rest))
    (hlines' : IsIconsTable (String.ofList (front ++ tail')) entries')
    (hvalid : (Toml.parse? (String.ofList (front ++ tail))).isSome)
    (hvalid' : (Toml.parse? (String.ofList (front ++ tail'))).isSome)
    (hoffence : ¬ IconsShaped (.table .header (given ++ [m]))) (hstop : tail.length ≤ m.2.1.stop) :
    ∃ e, parse (String.ofList (front ++ tail)) = .error e
      ∧ parse (String.ofList (front ++ tail')) = .error e := by
  obtain ⟨given', rest', rfl, halike⟩ := hlines.alike htail htail' hlines' hstop
  have hfaults : tableFaults (given ++ [m]) ≠ [] := by
    intro hnil
    have hicons : iconsFaults m.2.1 (.table .header (given ++ [m])) = [] := hnil
    exact hoffence (iconsFaults_eq_nil_iff.mp hicons)
  obtain ⟨fault, later, hfault⟩ := List.exists_cons_of_ne_nil hfaults
  have hboth := tableFaults_alike halike
  rw [hfault] at hboth
  obtain ⟨fault', later', ⟨hmoved, hproblem⟩, -, hfault'⟩ := List.forall₂_cons_left_iff.mp hboth
  have hhead : (tableFaults (given ++ m :: rest)).head? = some fault := by
    rw [List.append_cons]
    exact head?_tableFaults_append hfault
  have herror := hlines.parse_of_fault hvalid hhead
  have herror' := hlines'.parse_of_fault hvalid' (head?_tableFaults_append hfault')
  refine ⟨_, herror, ?_⟩
  rw [herror', hproblem, String.toList_ofList, String.toList_ofList,
    sight_alike htail htail' hmoved (start_le_of_mem_tableFaults ?_ (List.mem_of_head? hhead))]
  obtain ⟨key, extent, -, hread⟩ := hlines
  rw [String.toList_ofList] at hread
  intro m hm
  exact (readStatements?_sound (dropMark_suffix _) hread).1 _
    (List.mem_cons_of_mem _ (List.mem_map_of_mem hm))

end

/-! ## Errors about the shape of a document -/

/-- **A refused document points at its first offence.** The entries of a document stand in their
places and come in the order of its text. Where the first one that it may not have is a key, or a
written value in the place of a name, the error names the line and the column in which that token
starts, quotes its line and marks it there. In a table below a header nothing behind the line in
which the offence ends is part of the error. -/
theorem error_points_at_first_offence :
    (∀ {source : String} {members : List Member}, Toml.parse? source = some members →
      InWrittenOrder source.toList members
        ∧ ∀ {token : Token} {problem : Problem}, FirstOffence members token problem →
          ∃ e before w after report, parse source = .error e
            ∧ e.message = "invalid config: " ++ report
            ∧ token.Written source.toList before w after
            ∧ PointsAt source.toList before w problem.message report)
      ∧ ∀ {front tail tail' : List Char} {given rest entries' : List Member} {m : Member},
        LineEnd tail → LineEnd tail' →
        IsIconsTable (String.ofList (front ++ tail)) (given ++ m :: rest) →
        IsIconsTable (String.ofList (front ++ tail')) entries' →
        (Toml.parse? (String.ofList (front ++ tail))).isSome →
        (Toml.parse? (String.ofList (front ++ tail'))).isSome →
        ¬ IconsShaped (.table .header (given ++ [m])) → tail.length ≤ m.2.1.stop →
        ∃ e, parse (String.ofList (front ++ tail)) = .error e
          ∧ parse (String.ofList (front ++ tail')) = .error e :=
  ⟨fun h => ⟨inWrittenOrder_parse? h, pointsAt_firstOffence h⟩,
    fun htail htail' => parse_append_lineEnd htail htail'⟩

/-- An error about an unknown slot, with two ends of the document. -/
theorem points_at_unknown_slot :
    (∃ e before w after report, parse "[icons]\nfile = 'a'\n" = .error e
        ∧ e.message = "invalid config: " ++ report
        ∧ (Token.key ⟨"file", ⟨11, 7⟩⟩).Written "[icons]\nfile = 'a'\n".toList before w after
        ∧ PointsAt "[icons]\nfile = 'a'\n".toList before w
            (Problem.unknownKey "file" slotNames).message report)
      ∧ ∃ e, parse (String.ofList ("[icons]\nfile = 'a'".toList ++ "\n".toList)) = .error e
        ∧ parse (String.ofList ("[icons]\nfile = 'a'".toList ++ "\nplay = 'b'\n".toList))
          = .error e := by
  have hnone : IconsShaped (.table .header []) := fun _ _ _ h => (List.not_mem_nil h).elim
  have hfile : "file" ∉ slotNames := by decide +kernel
  have hoffence : FirstOffence
      [(⟨"icons", ⟨18, 13⟩⟩, ⟨19, 1⟩, .table .header [(⟨"file", ⟨11, 7⟩⟩, ⟨4, 1⟩, .text "a")])]
      (.key ⟨"file", ⟨11, 7⟩⟩) (.unknownKey "file" slotNames) :=
    @FirstOffence.slotKey [] [] [] [] _ _ _ _ _ _ (fun _ _ _ h => (List.not_mem_nil h).elim) rfl
      hnone hfile
  have hfront : ¬ IconsShaped (.table .header [(⟨"file", ⟨11, 7⟩⟩, ⟨4, 1⟩, .text "a")]) := by
    intro h
    obtain ⟨⟨slot, hslot⟩, -⟩ := h _ _ _ (List.mem_singleton_self _)
    exact hfile (mem_slotNames.mpr ⟨slot, ofName?_eq_some_iff.mpr hslot⟩)
  refine ⟨(error_points_at_first_offence.1 (by cbv)).2 hoffence, ?_⟩
  have hlines : IsIconsTable (String.ofList ("[icons]\nfile = 'a'".toList ++ "\n".toList))
      [(⟨"file", ⟨11, 7⟩⟩, ⟨4, 1⟩, .text "a")] := ⟨⟨"icons", ⟨18, 13⟩⟩, ⟨19, 12⟩, rfl, by cbv⟩
  have hlines' : IsIconsTable
      (String.ofList ("[icons]\nfile = 'a'".toList ++ "\nplay = 'b'\n".toList))
      [(⟨"file", ⟨22, 18⟩⟩, ⟨15, 12⟩, .text "a"), (⟨"play", ⟨11, 7⟩⟩, ⟨4, 1⟩, .text "b")] :=
    ⟨⟨"icons", ⟨29, 24⟩⟩, ⟨30, 23⟩, rfl, by cbv⟩
  exact @error_points_at_first_offence.2 _ _ _ [] [] _ _ .newline .newline hlines hlines' (by cbv)
    (by cbv) hfront (by decide)

/-- A header moves the table that it takes up again, and marks under a token of several lines reach
further behind text that takes more bytes than characters. -/
theorem header_moves_and_marks_reach_further :
    (∃ e, parse "[a.b]\n[c]\n[a]\n" = .error e
      ∧ e.message = "invalid config: TOML parse error at line 2, column 2\n"
        ++ "  |\n2 | [c]\n  |  ^\nunknown field `c`, expected `icons`\n")
      ∧ ∃ e, parse "icons = [\"é\", [\n]]\n" = .error e
        ∧ e.message = "invalid config: TOML parse error at line 1, column 15\n"
          ++ "  |\n1 | icons = [\"é\", [\n  |               ^^\n"
          ++ "invalid type: sequence, expected a string\n" :=
  ⟨⟨.badShape ⟨1, 1, "[c]".toList, 1⟩ (.unknownKey "c" ["icons"]), by decide +kernel,
      by decide +kernel⟩,
    .badShape ⟨0, 14, "icons = [\"é\", [".toList, 3⟩ (.mismatch ⟨.sequence, "a string"⟩),
    by decide +kernel, by decide +kernel⟩

end Config

end GlyphBook
