import GlyphBook.Proofs.Registry.Boundary

/-!
# One registry behind every door

A string meets a registry in several places: it is looked up, read as an identifier, resolved to an
icon or decoded from JSON. All of them do the same with it (`ReadsName`): they find the identifier
declared with exactly that name, and they report any other string as it is. The views of a
registry, on the other side, all list its entries as they were declared (`Lists`).
-/

namespace GlyphBook

namespace Registry

open Json

variable (R : Registry)

/-! ## Names -/

/-- What is done with the string `s`: the identifier of exactly that name is `found`, and any other
string is reported as `unknown`. -/
structure ReadsName (s : String) (found : R.Id → α) (unknown : UnknownIcon → ε)
    (outcome : Except ε α) : Prop where
  ok_iff : ∀ v, outcome = .ok v ↔ ∃ id, R.name id = s ∧ found id = v
  error_iff : ∀ e, outcome = .error e ↔ ¬ R.Declares s ∧ unknown ⟨s⟩ = e

/-- The identifier of a name is unique, so it is enough to know the outcome for it and the outcome
where there is none. -/
theorem readsName_of_cases {s : String} {found : R.Id → α} {unknown : UnknownIcon → ε}
    {outcome : Except ε α} (hfound : ∀ id, R.name id = s → outcome = .ok (found id))
    (hunknown : ¬ R.Declares s → outcome = .error (unknown ⟨s⟩)) :
    R.ReadsName s found unknown outcome := by
  by_cases hs : R.Declares s
  · obtain ⟨id, hid⟩ := hs
    have hok := hfound id hid
    refine ⟨fun v => ?_, fun e => ?_⟩
    · rw [hok, Except.ok.injEq]
      constructor
      · intro hv
        exact ⟨id, hid, hv⟩
      · rintro ⟨id', hid', hv⟩
        rwa [R.eq_of_name_eq (hid.trans hid'.symm)]
    · rw [hok]
      constructor
      · intro h
        cases h
      · rintro ⟨hnone, -⟩
        exact absurd ⟨id, hid⟩ hnone
  · have herror := hunknown hs
    refine ⟨fun v => ?_, fun e => ?_⟩
    · rw [herror]
      constructor
      · intro h
        cases h
      · rintro ⟨id, hid, -⟩
        exact absurd ⟨id, hid⟩ hs
    · rw [herror, Except.error.injEq]
      exact ⟨fun h => ⟨hs, h⟩, And.right⟩

theorem lookup_readsName (s : String) : R.ReadsName s id id (R.lookup s) :=
  R.readsName_of_cases (fun _ hid => R.lookup_eq_ok_iff.mpr hid) R.lookup_of_not_declares

theorem resolve_readsName (s : String) : R.ReadsName s R.icon id (R.resolve s) := by
  refine R.readsName_of_cases (fun id hid => ?_) fun hs => ?_
  · rw [resolve, R.lookup_eq_ok_iff.mpr hid]
    rfl
  · rw [resolve, R.lookup_of_not_declares hs]
    rfl

/-- A reader that fails on a text fails on the whole of it. -/
theorem readAll_eq_error {reader : Reader α} {text : String} {e : Json.Error}
    (h : reader text.toList = .error e) : readAll reader text = .error e := by
  rw [readAll, h]
  rfl

/-- The string of a JSON text is decoded before it is looked up: what is reported is the string. -/
theorem readId_of_not_declares {text rest : List Char} {s : String}
    (hread : readString text = .ok (s, rest)) (hs : ¬ R.Declares s) :
    R.readId text = .error (.unknownIcon ⟨s⟩) := by
  simp only [readId, hread, Bind.bind, Except.bind, R.lookup_of_not_declares hs]
  rfl

theorem parseId_readsName {text : String} {s : String} (h : Denotes StringForm text s) :
    R.ReadsName s id .unknownIcon (R.parseId text) := by
  obtain ⟨b, w, b', hb, hw, hb', htext⟩ := h
  refine R.readsName_of_cases (fun id hid => ?_) fun hs => ?_
  · subst hid
    exact (readAll_eq_ok_iff R.readId_reads).mpr ⟨b, w, b', hb, hw, hb', htext⟩
  · have hread : readString text.toList = .ok (s, b') :=
      (readString_reads _ _ _).mpr ⟨b, w, hb, hw, htext⟩
    exact readAll_eq_error (R.readId_of_not_declares hread hs)

/-! ## Entries -/

theorem keys_map_entry : R.keys.map R.entry = R.entries := by
  refine List.ext_getElem (by simp [keys]) fun i h h' => ?_
  simp [keys, entry]

theorem toList_map (f : Entry → α) :
    (R.toList.map fun (id, icon) => f ⟨R.name id, icon⟩) = R.entries.map f := by
  rw [toList, List.map_map, ← R.keys_map_entry, List.map_map]
  rfl

/-- Every view of the registry lists its entries, each of them once and as they were declared. -/
structure Lists : Prop where
  keys : R.keys.map R.entry = R.entries
  keys_nodup : R.keys.Nodup
  mem_keys : ∀ id, id ∈ R.keys
  toList : (R.toList.map fun (id, icon) => (⟨R.name id, icon⟩ : Entry)) = R.entries
  toList_keys : R.toList.map Prod.fst = R.keys
  toList_icon : ∀ id icon, (id, icon) ∈ R.toList → icon = R.icon id
  size : R.size = R.entries.length
  isEmpty : R.isEmpty = true ↔ R.entries = []
  summary : R.summary = "\x7b" ++ String.intercalate ", "
    (R.entries.map fun e => quoted e.name ++ ": " ++ quoted e.icon.glyph) ++ "\x7d"

theorem lists : R.Lists where
  keys := R.keys_map_entry
  keys_nodup := List.nodup_finRange _
  mem_keys := List.mem_finRange
  toList := (R.toList_map id).trans (List.map_id _)
  toList_keys := by
    rw [Registry.toList, List.map_map]
    exact List.map_id _
  toList_icon := by
    intro id icon h
    obtain ⟨id', -, heq⟩ := List.mem_map.mp h
    obtain ⟨rfl, rfl⟩ := Prod.mk.inj heq
    rfl
  size := rfl
  isEmpty := List.isEmpty_iff
  summary := by
    rw [Registry.summary, ← R.toList_map fun e => quoted e.name ++ ": " ++ quoted e.icon.glyph]

/-- **A registry is exact.** A string is the name of at most one identifier, and looking it up finds
that identifier, comparing character by character, or fails with the string as it is. Reading a
string as an identifier, resolving it to an icon and decoding any JSON text that means it do the
same with it, and nothing but JSON strings is decoded. All views list the same entries. -/
theorem registry_exact :
    (∀ s a b, R.name a = s → R.name b = s → a = b)
      ∧ (∀ s id, R.lookup s = .ok id ↔ R.name id = s)
      ∧ (∀ s e, R.lookup s = .error e ↔ e.id = s ∧ ¬ R.Declares s)
      ∧ (∀ s, R.ReadsName s id id (R.lookup s) ∧ R.ReadsName s id id (R.ofString s)
        ∧ R.ReadsName s R.icon id (R.resolve s)
        ∧ ∀ text, Denotes StringForm text s → R.ReadsName s id .unknownIcon (R.parseId text))
      ∧ (∀ s, Denotes StringForm (String.ofList (writeText s)) s)
      ∧ (∀ text id, R.parseId text = .ok id → Denotes StringForm text (R.name id))
      ∧ R.Lists := by
  refine ⟨?unique, fun _ _ => R.lookup_eq_ok_iff, fun _ _ => R.lookup_eq_error_iff, ?names,
    fun s => denotes_ofList (stringForm_writeText s), ?strings, R.lists⟩
  case unique =>
    intro s a b ha hb
    exact R.eq_of_name_eq (ha.trans hb.symm)
  case names =>
    intro s
    exact ⟨R.lookup_readsName s, R.lookup_readsName s, R.resolve_readsName s,
      fun text h => R.parseId_readsName h⟩
  case strings =>
    intro text id h
    exact (readAll_eq_ok_iff R.readId_reads).mp h

end Registry

end GlyphBook
