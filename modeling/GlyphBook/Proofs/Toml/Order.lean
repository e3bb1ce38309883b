import GlyphBook.Proofs.Toml.Tokens

/-!
# The order of keys

The keys of a table stand in the order in which the lines of the document first give them, with one
exception: a table that longer headers have made, and that then gets a header of its own, counts
from its own header. `keysIn` says so about the routes that the lines give, without building any
tree.

That the tree of a document is ordered like that at every depth (`Ordered`) is shown by following a
route down the tree: each key on the way passes the rest of the route on to its table (`through`),
and at its end one key is added, moved or left.
-/

namespace GlyphBook

namespace Toml

/-! ## Routes -/

/-- The keys that a line gives from the outermost table on: those of the header above it and its
own. `heads` says whether the line is the header of the table that the last key names. -/
structure Route where
  keys : List Key
  heads : Bool

/-- The routes of the lines that stand below a header with the keys `current`. -/
def routesBelow : List Key → List Statement → List Route
  | _, [] => []
  | _, .header path _ :: lines => ⟨path.keys, true⟩ :: routesBelow path.keys lines
  | _, .listHeader path _ :: lines => ⟨path.keys, false⟩ :: routesBelow path.keys lines
  | current, .entry path _ _ :: lines =>
    ⟨current ++ path.keys, false⟩ :: routesBelow current lines

/-- The routes of the lines of a document. -/
def routes (lines : List Statement) : List Route := routesBelow [] lines

/-- The rest of a route that leads through the table with this name. -/
def Route.through? (name : String) : Route → Option Route
  | ⟨key :: next :: later, heads⟩ => if key.name = name then some ⟨next :: later, heads⟩ else none
  | _ => none

/-- The routes inside the table with this name. -/
def through (name : String) (routes : List Route) : List Route :=
  routes.filterMap (Route.through? name)

/-- The keys of a table after one more route: its first key is added if it is new. The header of a
table puts its key behind all the others. -/
def appear (keys : List Key) : Route → List Key
  | ⟨[], _⟩ => keys
  | ⟨[key], true⟩ => keys.filter (fun k => k.name != key.name) ++ [key]
  | ⟨key :: _, _⟩ => if key.name ∈ keys.map Key.name then keys else keys ++ [key]

/-- The keys that the routes give to the outermost table, in order. -/
def keysIn (routes : List Route) : List Key := routes.foldl appear []

/-- The keys of the members come in the order of the routes, and so do those of all the tables
below that are not written in braces. -/
inductive Ordered : List Route → List Member → Prop where
  | intro {routes : List Route} {members : List Member} :
      members.map Prod.fst = keysIn routes →
      (∀ key extent form sub, (key, extent, Value.table form sub) ∈ members → form ≠ .inline →
        Ordered (through key.name routes) sub) →
      Ordered routes members

/-! ## The keys of one table -/

theorem keysIn_append (routes : List Route) (route : Route) :
    keysIn (routes ++ [route]) = appear (keysIn routes) route := List.foldl_append

theorem through_append (name : String) (routes : List Route) (route : Route) :
    through name (routes ++ [route]) = through name routes ++ through name [route] :=
  List.filterMap_append

/-- A route of one key leads into no table. -/
theorem through_append_last (name : String) (routes : List Route) (key : Key) (heads : Bool) :
    through name (routes ++ [⟨[key], heads⟩]) = through name routes := by
  rw [through_append]
  exact List.append_nil _

theorem names_appear {keys : List Key} {name : String} (h : name ∈ keys.map Key.name)
    (route : Route) : name ∈ (appear keys route).map Key.name := by
  fun_cases appear keys route with
  | case1 => exact h
  | case2 key =>
      by_cases hname : name = key.name
      · simp [hname]
      · obtain ⟨k, hk, rfl⟩ := List.mem_map.mp h
        rw [List.map_append]
        have hkept : k ∈ keys.filter (fun k => k.name != key.name) :=
          List.mem_filter.mpr ⟨hk, by simpa using hname⟩
        exact List.mem_append_left _ (List.mem_map_of_mem hkept)
  | case3 => exact h
  | case4 =>
      rw [List.map_append]
      exact List.mem_append_left _ h

theorem appear_cons {key : Key} {later : List Key} {heads : Bool}
    (h : later ≠ [] ∨ heads = false) (keys : List Key) :
    appear keys ⟨key :: later, heads⟩
      = if key.name ∈ keys.map Key.name then keys else keys ++ [key] := by
  rw [appear]
  rintro rfl rfl
  rcases h with h | h
  · exact h rfl
  · cases h

theorem nodup_appear {keys : List Key} (h : (keys.map Key.name).Nodup) (route : Route) :
    ((appear keys route).map Key.name).Nodup := by
  fun_cases appear keys route with
  | case1 => exact h
  | case2 key =>
      rw [List.map_append, List.map_singleton, ← List.concat_eq_append]
      refine List.Nodup.concat (fun hmem => ?_) (h.sublist (List.filter_sublist.map Key.name))
      obtain ⟨k, hk, hname⟩ := List.mem_map.mp hmem
      have hne := (List.mem_filter.mp hk).2
      rw [hname, bne_self_eq_false] at hne
      cases hne
  | case3 => exact h
  | case4 key _ _ _ hnew =>
      rw [List.map_append, List.map_singleton, ← List.concat_eq_append]
      exact List.Nodup.concat hnew h

theorem nodup_keysIn (routes : List Route) : ((keysIn routes).map Key.name).Nodup := by
  induction routes using List.reverseRecOn with
  | nil => exact List.nodup_nil
  | append_singleton routes route ih =>
      rw [keysIn_append]
      exact nodup_appear ih route

/-- No route leads through a table that is not there. -/
theorem through_eq_nil {name : String} {routes : List Route}
    (h : name ∉ (keysIn routes).map Key.name) : through name routes = [] := by
  induction routes using List.reverseRecOn with
  | nil => rfl
  | append_singleton routes route ih =>
      rw [keysIn_append] at h
      rw [through_append, ih fun hmem => h (names_appear hmem route), List.nil_append]
      obtain ⟨keys, heads⟩ := route
      rcases keys with _ | ⟨key, _ | ⟨next, later⟩⟩
      · rfl
      · rfl
      · have hkey : key.name ≠ name := by
          rintro rfl
          rw [appear_cons (Or.inl (List.cons_ne_nil _ _))] at h
          split at h
          · next hmem => exact h hmem
          · exact h (by simp)
        exact List.filterMap_cons_none (if_neg hkey)

/-! ## Changing one member -/

theorem Ordered.keys {routes : List Route} {members : List Member} (h : Ordered routes members) :
    members.map Prod.fst = keysIn routes := by
  obtain ⟨hkeys, -⟩ := h
  exact hkeys

theorem Ordered.sub {routes : List Route} {members : List Member} (h : Ordered routes members)
    {key : Key} {extent : Extent} {form : TableForm} {sub : List Member}
    (hmem : (key, extent, Value.table form sub) ∈ members) (hform : form ≠ .inline) :
    Ordered (through key.name routes) sub := by
  obtain ⟨-, hthrough⟩ := h
  exact hthrough key extent form sub hmem hform

theorem Ordered.nil : Ordered [] [] := .intro rfl fun _ _ _ _ h => (List.not_mem_nil h).elim

theorem Ordered.keyNames {routes : List Route} {members : List Member}
    (h : Ordered routes members) : keyNames members = (keysIn routes).map Key.name := by
  rw [← h.keys, List.map_map]
  rfl

theorem Ordered.nodup {routes : List Route} {members : List Member} (h : Ordered routes members) :
    (Toml.keyNames members).Nodup := by
  rw [h.keyNames]
  exact nodup_keysIn routes

/-- No route leads through a member that is not there. -/
theorem Ordered.through_eq_nil {routes : List Route} {members : List Member}
    (h : Ordered routes members) {name : String} (hname : name ∉ Toml.keyNames members) :
    through name routes = [] :=
  Toml.through_eq_nil (h.keyNames ▸ hname)

theorem map_fst_alter {key : Key} {change : Option (Extent × Value) → Option (Extent × Value)}
    {members members' : List Member} (h : alter key change members = some members') :
    members'.map Prod.fst = if key.name ∈ keyNames members then members.map Prod.fst
      else members.map Prod.fst ++ [key] := by
  induction members generalizing members' with
  | nil =>
      obtain ⟨v, -, rfl⟩ := Option.map_eq_some_iff.mp h
      rfl
  | cons m members ih =>
      obtain ⟨k, v⟩ := m
      rw [alter] at h
      split at h
      · next hname =>
        obtain ⟨v', -, rfl⟩ := Option.map_eq_some_iff.mp h
        rw [if_pos (by simp [keyNames, hname])]
        rfl
      · next hname =>
        obtain ⟨later, hlater, rfl⟩ := Option.map_eq_some_iff.mp h
        rw [List.map_cons, ih hlater]
        have hmem : key.name ∈ keyNames ((k, v) :: members) ↔ key.name ∈ keyNames members := by
          simp [keyNames, Ne.symm hname]
        by_cases hkey : key.name ∈ keyNames members
        · rw [if_pos hkey, if_pos (hmem.mpr hkey), List.map_cons]
        · rw [if_neg hkey, if_neg (mt hmem.mp hkey), List.map_cons, List.cons_append]

/-- Where a member comes from when one was changed. -/
inductive Altered (key : Key) (change : Option (Extent × Value) → Option (Extent × Value))
    (members : List Member) : Member → Prop where
  | kept {m : Member} : m ∈ members → m.1.name ≠ key.name → Altered key change members m
  | changed {k : Key} {v v' : Extent × Value} : (k, v) ∈ members → k.name = key.name →
      change (some v) = some v' → Altered key change members (k, v')
  | added {v : Extent × Value} : key.name ∉ keyNames members → change none = some v →
      Altered key change members (key, v)

theorem Altered.cons {key : Key} {change : Option (Extent × Value) → Option (Extent × Value)}
    {members : List Member} {m first : Member} (h : Altered key change members m)
    (hfirst : first.1.name ≠ key.name) : Altered key change (first :: members) m := by
  cases h with
  | kept hold hne => exact .kept (List.mem_cons_of_mem _ hold) hne
  | changed hmem hname hchange => exact .changed (List.mem_cons_of_mem _ hmem) hname hchange
  | added hnew hmade =>
      refine .added (fun hmem => ?_) hmade
      rcases List.mem_cons.mp hmem with heq | hmem
      · exact hfirst heq.symm
      · exact hnew hmem

theorem altered_of_mem {key : Key}
    {change : Option (Extent × Value) → Option (Extent × Value)} {members members' : List Member}
    (hnodup : (keyNames members).Nodup) (h : alter key change members = some members') :
    ∀ m ∈ members', Altered key change members m := by
  induction members generalizing members' with
  | nil =>
      obtain ⟨v, hv, rfl⟩ := Option.map_eq_some_iff.mp h
      exact List.forall_mem_singleton.mpr (.added List.not_mem_nil hv)
  | cons m members ih =>
      obtain ⟨k, v⟩ := m
      obtain ⟨hk, hnodup⟩ := List.nodup_cons.mp hnodup
      rw [alter] at h
      split at h
      · next hname =>
        obtain ⟨v', hv', rfl⟩ := Option.map_eq_some_iff.mp h
        refine List.forall_mem_cons.mpr ⟨.changed (List.mem_cons_self ..) hname hv', ?_⟩
        intro m hm
        have hk : k.name ∉ keyNames members := hk
        refine .kept (List.mem_cons_of_mem _ hm) fun heq => hk ?_
        rw [hname, ← heq]
        exact List.mem_map_of_mem hm
      · next hname =>
        obtain ⟨later, hlater, rfl⟩ := Option.map_eq_some_iff.mp h
        exact List.forall_mem_cons.mpr ⟨.kept (List.mem_cons_self ..) hname,
          fun m hm => (ih hnodup hlater m hm).cons hname⟩

/-! ## Following a route -/

/-- The change does to ordered members what one more route does to their keys. -/
def Follows (change : TableForm → List Member → Option (List Member)) (route : Route) : Prop :=
  ∀ form routes members members', Ordered routes members → change form members = some members' →
    Ordered (routes ++ [route]) members'

theorem follows_within {dotted : Bool} {change : TableForm → List Member → Option (List Member)}
    {later : List Key} {heads : Bool} (hlater : later ≠ []) (h : Follows change ⟨later, heads⟩) :
    ∀ way : List Key, Follows (within dotted change way) ⟨way ++ later, heads⟩
  | [] => h
  | key :: way => by
      have hway : Follows (within dotted change way) ⟨way ++ later, heads⟩ :=
        follows_within hlater h way
      have hrest : way ++ later ≠ [] := fun hnil => hlater (List.append_eq_nil_iff.mp hnil).2
      intro form routes members members' hordered halter
      have hthrough (name : String) : through name (routes ++ [⟨key :: (way ++ later), heads⟩])
          = through name routes ++ if key.name = name then [⟨way ++ later, heads⟩] else [] := by
        obtain ⟨next, rest, hnext⟩ := List.exists_cons_of_ne_nil hrest
        rw [through_append, hnext]
        by_cases hname : key.name = name
        · rw [if_pos hname]
          exact congrArg _ (List.filterMap_cons_some (if_pos hname))
        · rw [if_neg hname]
          exact congrArg _ (List.filterMap_cons_none (if_neg hname))
      refine .intro ?_ fun k extent form' sub hmem hform => ?_
      · rw [keysIn_append, List.cons_append, appear_cons (Or.inl hrest), ← hordered.keyNames,
          ← hordered.keys]
        exact map_fst_alter halter
      · rw [List.cons_append, hthrough]
        generalize hm : (k, extent, Value.table form' sub) = m at hmem
        cases altered_of_mem hordered.nodup halter m hmem with
        | kept hold hne =>
            subst hm
            rw [if_neg (Ne.symm hne), List.append_nil]
            exact hordered.sub hold hform
        | @changed k' v v' hold hname hchange =>
            obtain ⟨rfl, rfl⟩ := Prod.mk.inj hm
            rw [if_pos hname.symm]
            obtain ⟨extent', value⟩ := v
            cases value with
            | table form'' sub'' =>
                simp only at hchange
                split at hchange
                · cases hchange
                · next hopen =>
                  obtain ⟨sub', hsub, heq⟩ := Option.map_eq_some_iff.mp hchange
                  obtain ⟨rfl, hvalue⟩ := Prod.mk.inj heq
                  obtain ⟨rfl, rfl⟩ := Value.table.inj hvalue
                  exact hway _ _ _ _
                    (hordered.sub hold fun hinline => hopen (Or.inl hinline)) hsub
            | list form'' items =>
                cases form'' with
                | written => cases hchange
                | tables =>
                    obtain ⟨items', -, heq⟩ := Option.map_eq_some_iff.mp hchange
                    cases heq
            | _ => cases hchange
        | @added v hnew hmade =>
            obtain ⟨rfl, rfl⟩ := Prod.mk.inj hm
            rw [if_pos rfl, hordered.through_eq_nil hnew]
            obtain ⟨sub', hsub, heq⟩ := Option.map_eq_some_iff.mp hmade
            obtain ⟨rfl, hvalue⟩ := Prod.mk.inj heq
            obtain ⟨rfl, rfl⟩ := Value.table.inj hvalue
            exact hway _ _ _ _ .nil hsub

/-! ## The three kinds of line -/

/-- A value in one piece has no tables below but those in braces. -/
theorem inline_of_isWritten {form : TableForm} {sub : List Member}
    (h : (Value.table form sub).isWritten = true) : form = .inline :=
  of_decide_eq_true h

theorem follows_appendNew {key : Key} {extent : Extent} {value : Value}
    (hvalue : value.isWritten = true) :
    Follows (fun _ => appendNew key extent value) ⟨[key], false⟩ := by
  intro form routes members members' hordered hadd
  have hnew : key.name ∉ keyNames members := by
    intro hmem
    simp only [appendNew_of_mem hmem] at hadd
    cases hadd
  simp only [appendNew_of_notMem hnew, Option.some.injEq] at hadd
  subst hadd
  refine .intro ?_ fun k extent' form' sub hmem hform => ?_
  · rw [keysIn_append, appear_cons (Or.inr rfl), ← hordered.keyNames, if_neg hnew, List.map_append,
      hordered.keys]
    rfl
  · rw [through_append_last]
    rcases List.mem_append.mp hmem with hmem | hmem
    · exact hordered.sub hmem hform
    · obtain ⟨-, hmem⟩ := Prod.mk.inj (List.mem_singleton.mp hmem)
      obtain ⟨-, rfl⟩ := Prod.mk.inj hmem
      exact absurd (inline_of_isWritten hvalue) hform

theorem follows_addEntry {path : Path} {extent : Extent} {value : Value}
    (hvalue : value.isWritten = true) :
    Follows (addEntry path extent value) ⟨path.keys, false⟩ := by
  refine follows_within (List.cons_ne_nil _ _)
    (fun form routes members members' hordered hadd => ?_)
    path.way
  split at hadd
  · cases hadd
  · exact follows_appendNew hvalue form routes members members' hordered hadd

theorem follows_startTable (path : Path) (extent : Extent) :
    Follows (startTable path extent) ⟨path.keys, true⟩ := by
  refine follows_within (List.cons_ne_nil _ _)
    (fun form routes members members' hordered hstart => ?_)
    path.way
  -- Either way the other members stay as they are, and the new one comes last.
  obtain ⟨sub, hsub, rfl⟩ : ∃ sub, Ordered (through path.last.name routes) sub
      ∧ members' = erase path.last.name members ++ [(path.last, extent, .table .header sub)] := by
    split at hstart
    · next hfind =>
      have hnew := find?_eq_none_iff.mp hfind
      have herase : erase path.last.name members = members := by
        refine List.filter_eq_self.mpr fun m hm => ?_
        rw [bne_iff_ne]
        exact fun hname => hnew (hname ▸ List.mem_map_of_mem hm)
      refine ⟨[], ?_, by rw [herase]; exact (Option.some.inj hstart).symm⟩
      rw [hordered.through_eq_nil hnew]
      exact .nil
    · next extent' sub hfind =>
      obtain ⟨⟨k, v⟩, hfound, hv⟩ := Option.map_eq_some_iff.mp hfind
      obtain rfl : v = (extent', .table .implied sub) := hv
      have hname : k.name = path.last.name := eq_of_beq
        (List.find?_some (p := fun m : Member => m.1.name == path.last.name) hfound)
      refine ⟨sub, ?_, (Option.some.inj hstart).symm⟩
      rw [← hname]
      exact hordered.sub (List.mem_of_find?_eq_some hfound) (by decide)
    · cases hstart
  refine .intro ?_ fun k extent' form' sub' hmem hform => ?_
  · rw [keysIn_append, appear, ← hordered.keys, List.map_append, erase, List.filter_map]
    rfl
  · rw [through_append_last]
    rcases List.mem_append.mp hmem with hmem | hmem
    · exact hordered.sub (List.mem_of_mem_filter hmem) hform
    · obtain ⟨rfl, hvalue⟩ := Prod.mk.inj (List.mem_singleton.mp hmem)
      obtain ⟨-, hvalue⟩ := Prod.mk.inj hvalue
      obtain ⟨-, rfl⟩ := Value.table.inj hvalue
      exact hsub

theorem follows_startListTable (path : Path) (extent : Extent) :
    Follows (startListTable path extent) ⟨path.keys, false⟩ := by
  refine follows_within (List.cons_ne_nil _ _)
    (fun form routes members members' hordered halter => ?_)
    path.way
  refine .intro ?_ fun k extent' form' sub hmem hform => ?_
  · rw [keysIn_append, appear_cons (Or.inr rfl), ← hordered.keyNames, ← hordered.keys]
    exact map_fst_alter halter
  · rw [through_append_last]
    generalize hm : (k, extent', Value.table form' sub) = m at hmem
    cases altered_of_mem hordered.nodup halter m hmem with
    | kept hold hne =>
        subst hm
        exact hordered.sub hold hform
    | changed hold hname hchange =>
        obtain ⟨rfl, rfl⟩ := Prod.mk.inj hm
        split at hchange
        · next heq => cases heq
        · cases hchange
        · cases hchange
    | added hnew hmade =>
        obtain ⟨rfl, rfl⟩ := Prod.mk.inj hm
        cases hmade

/-! ## Documents and tables in braces -/

/-- The values that lines give are in one piece. -/
def Statement.Whole : Statement → Prop
  | .entry _ _ value => value.isWritten = true
  | _ => True

theorem ordered_foldlM {lines : List Statement} (hlines : ∀ line ∈ lines, line.Whole)
    {draft draft' : Draft} {routes : List Route} (h : Ordered routes draft.members)
    (hfold : lines.foldlM Draft.add? draft = some draft') :
    Ordered (routes ++ routesBelow draft.current lines) draft'.members := by
  induction lines generalizing draft routes with
  | nil =>
      obtain rfl := Option.some.inj hfold
      rwa [routesBelow, List.append_nil]
  | cons line lines ih =>
      obtain ⟨hline, hlater⟩ := List.forall_mem_cons.mp hlines
      rw [List.foldlM_cons] at hfold
      obtain ⟨next, hnext, hfold⟩ := Option.bind_eq_some_iff.mp hfold
      cases line with
      | header path extent =>
          obtain ⟨members, hmembers, rfl⟩ := Option.map_eq_some_iff.mp hnext
          have hstep := follows_startTable path extent _ _ _ _ h hmembers
          simpa only [routesBelow, List.append_assoc, List.singleton_append]
            using ih hlater hstep hfold
      | listHeader path extent =>
          obtain ⟨members, hmembers, rfl⟩ := Option.map_eq_some_iff.mp hnext
          have hstep := follows_startListTable path extent _ _ _ _ h hmembers
          simpa only [routesBelow, List.append_assoc, List.singleton_append]
            using ih hlater hstep hfold
      | entry path extent value =>
          obtain ⟨members, hmembers, rfl⟩ := Option.map_eq_some_iff.mp hnext
          have hpath : path.keys ≠ [] := List.append_ne_nil_of_right_ne_nil _ (List.cons_ne_nil _ _)
          have hentry : Follows (addEntry path extent value) ⟨path.keys, false⟩ :=
            follows_addEntry hline
          have hstep := follows_within hpath hentry draft.current _ _ _ _ h hmembers
          simpa only [routesBelow, List.append_assoc, List.singleton_append]
            using ih hlater hstep hfold

theorem routesBelow_reachValues (current : List Key) (lines : List Statement) :
    routesBelow current (reachValues lines) = routesBelow current lines := by
  induction lines generalizing current with
  | nil => rfl
  | cons line lines ih => cases line <;> simp only [reachValues, routesBelow, ih]

theorem whole_reachValues {lines : List Statement} (h : ∀ line ∈ lines, line.Whole) :
    ∀ line ∈ reachValues lines, line.Whole := by
  induction lines with
  | nil => exact h
  | cons line lines ih =>
      obtain ⟨hline, hlater⟩ := List.forall_mem_cons.mp h
      cases line <;> exact List.forall_mem_cons.mpr ⟨hline, ih hlater⟩

/-- **The keys of a document** stand in the order of its lines. -/
theorem ordered_assemble? {lines : List Statement} {members : List Member}
    (hlines : ∀ line ∈ lines, line.Whole) (h : assemble? lines = some members) :
    Ordered (routes lines) members := by
  obtain ⟨draft, hdraft, rfl⟩ := Option.map_eq_some_iff.mp h
  have hempty : Ordered [] (Draft.members {}) := .nil
  have hordered := ordered_foldlM (whole_reachValues hlines) hempty hdraft
  rwa [routesBelow_reachValues] at hordered

/-- **The keys of a table in braces** stand in the order of its entries. -/
theorem ordered_assembleInline? {entries : List (Path × Extent × Value)} {members : List Member}
    (hentries : ∀ entry ∈ entries, entry.2.2.isWritten = true)
    (h : assembleInline? entries = some members) :
    Ordered (entries.map fun entry => ⟨entry.1.keys, false⟩) members := by
  have hfold {before : List Route} {members members' : List Member}
      (hordered : Ordered before members)
      (hrun : entries.foldlM (fun members entry =>
        addEntry entry.1 entry.2.1 entry.2.2 .inline members) members = some members') :
      Ordered (before ++ entries.map fun entry => ⟨entry.1.keys, false⟩) members' := by
    clear h
    induction entries generalizing before members with
    | nil =>
        obtain rfl := Option.some.inj hrun
        rwa [List.map_nil, List.append_nil]
    | cons entry entries ih =>
        obtain ⟨hentry, hlater⟩ := List.forall_mem_cons.mp hentries
        rw [List.foldlM_cons] at hrun
        obtain ⟨next, hnext, hrun⟩ := Option.bind_eq_some_iff.mp hrun
        have hstep := follows_addEntry hentry _ _ _ _ hordered hnext
        simpa only [List.map_cons, List.append_assoc, List.singleton_append]
          using ih hlater hstep hrun
  exact hfold .nil h

/-! ## What was read -/

theorem isWritten_of_readsAs {extent : Extent} {value : Value} {w after : List Char}
    (h : ReadsAs extent value w after) : value.isWritten = true := by
  obtain ⟨fuel, depth, hread⟩ := h
  cases fuel with
  | zero => cases hread
  | succ fuel =>
      obtain ⟨-, hstep⟩ := valueStep_of_readValue? hread
      generalize w ++ after = cs at hstep
      cases hstep with
      | list _ => rfl
      | table _ _ => rfl
      | scalar _ _ hscalar =>
          have hvalue := scalars_readScalar _ _ _ hscalar
          cases value with
          | list _ _ => cases hvalue
          | table _ _ => cases hvalue
          | _ => rfl

theorem whole_of_placed {source : List Char} {line : Statement} (h : line.Placed source) :
    line.Whole := by
  cases h with
  | header _ => trivial
  | listHeader _ => trivial
  | entry _ hentry _ =>
      obtain ⟨_, _, _, _, _, _, -, -, -, -, -, hreads⟩ := hentry
      exact isWritten_of_readsAs hreads

/-- The members come in the order in which the lines of the text give them. -/
def InTextOrder (source : List Char) (members : List Member) : Prop :=
  ∃ lines, statements? source = some lines
    ∧ ((lines.flatMap Statement.keys).Pairwise fun k k' => k'.extent.start ≤ k.extent.stop)
    ∧ Ordered (routes lines) members

/-- The members come in the order in which the entries in the braces give them. -/
def InBraceOrder (w after : List Char) (members : List Member) : Prop :=
  ∃ fuel depth inner entries, w ++ after = '\x7b' :: inner
    ∧ readMembers? fuel depth true inner = some (entries, after)
    ∧ ((entries.flatMap fun entry => entry.1.keys).Pairwise fun k k' =>
        k'.extent.start ≤ k.extent.stop)
    ∧ Ordered (entries.map fun entry => ⟨entry.1.keys, false⟩) members

/-- The items are those between the brackets, one behind the other. -/
def InBracketOrder (w after : List Char) (items : List (Extent × Value)) : Prop :=
  ∃ fuel depth inner, w ++ after = '[' :: inner
    ∧ readItems? fuel depth inner = some (items, after)
    ∧ items.Pairwise fun item item' => item'.1.start < item.1.stop

theorem inTextOrder_parse? {source : String} {members : List Member}
    (h : parse? source = some members) : InTextOrder source.toList members := by
  obtain ⟨lines, hlines, hassemble⟩ := Option.bind_eq_some_iff.mp h
  have hplaced := (readStatements?_sound (dropMark_suffix _) hlines).1
  exact ⟨lines, hlines, inOrder_statements? hlines,
    ordered_assemble? (fun line hline => whole_of_placed (hplaced line hline)) hassemble⟩

theorem inBraceOrder_of_readsAs {extent : Extent} {members : List Member} {w after : List Char}
    (h : ReadsAs extent (.table .inline members) w after) : InBraceOrder w after members := by
  obtain ⟨fuel, depth, hread⟩ := h
  cases fuel with
  | zero => cases hread
  | succ fuel =>
      obtain ⟨-, hstep⟩ := valueStep_of_readValue? hread
      obtain ⟨cs, hcs⟩ : ∃ cs, w ++ after = cs := ⟨_, rfl⟩
      rw [hcs] at hstep
      cases hstep with
      | @table inner _ entries _ hmembers hassemble =>
          obtain ⟨-, hplaced, horder⟩ := readMembers?_sound (List.suffix_refl _) hmembers
          refine ⟨fuel, depth + 1, inner, entries, hcs, hmembers, horder.sorted,
            ordered_assembleInline? (fun entry hentry => ?_) hassemble⟩
          exact whole_of_placed (hplaced entry hentry)
      | scalar _ _ hscalar => cases scalars_readScalar _ _ _ hscalar

theorem sorted_readItems? {fuel depth : Nat} {cs after : List Char} {items : List (Extent × Value)}
    (h : readItems? fuel depth cs = some (items, after)) :
    (items.Pairwise fun item item' => item'.1.start < item.1.stop)
      ∧ ∀ item ∈ items, item.1.start ≤ cs.length := by
  induction fuel generalizing cs items with
  | zero => cases h
  | succ fuel ih =>
      cases itemsStep_of_readItems? h with
      | close _ => exact ⟨.nil, fun _ h => (List.not_mem_nil h).elim⟩
      | last hvoid _ hread _ =>
          have hextent := (readValue?_sound (List.suffix_refl _) hread).extent
          refine ⟨List.pairwise_singleton _ _, List.forall_mem_singleton.mpr ?_⟩
          rw [hextent]
          exact (skipVoid?_suffix hvoid).length_le
      | more hvoid _ hread hcomma hitems =>
          obtain ⟨hsuffix, hextent, -⟩ := readValue?_sound (List.suffix_refl _) hread
          obtain ⟨hsorted, hbelow⟩ := ih hitems
          have hfront := (skipVoid?_suffix hvoid).length_le
          have hrest := hsuffix.length_le
          have hlater := (skipVoid?_suffix hcomma).length_le
          rw [List.length_cons] at hlater
          constructor
          · refine List.pairwise_cons.mpr ⟨fun item hitem => ?_, hsorted⟩
            rw [hextent]
            exact Nat.lt_of_lt_of_le (Nat.lt_succ_of_le (hbelow item hitem)) hlater
          · refine List.forall_mem_cons.mpr ⟨by rw [hextent]; exact hfront, fun item hitem => ?_⟩
            have := hbelow item hitem
            omega

theorem inBracketOrder_of_readsAs {extent : Extent} {items : List (Extent × Value)}
    {w after : List Char} (h : ReadsAs extent (.list .written items) w after) :
    InBracketOrder w after items := by
  obtain ⟨fuel, depth, hread⟩ := h
  cases fuel with
  | zero => cases hread
  | succ fuel =>
      obtain ⟨-, hstep⟩ := valueStep_of_readValue? hread
      obtain ⟨cs, hcs⟩ : ∃ cs, w ++ after = cs := ⟨_, rfl⟩
      rw [hcs] at hstep
      cases hstep with
      | @list inner _ _ hitems =>
          exact ⟨fuel, depth + 1, inner, hcs, hitems, (sorted_readItems? hitems).1⟩
      | scalar _ _ hscalar => cases scalars_readScalar _ _ _ hscalar

end Toml

end GlyphBook
