import GlyphBook.Media.FileType

/-!
# What decides the type of a file

The type of a readable file is decided by its first bytes or else by its extension, and what does
not decide is not seen. `Signature.FirstFit` says which signature those bytes are taken for, and
`Suggests` which type an extension has by a table, the first row that lists it
(`Extension.Table.StandsFor`); each of the two alone determines the type (`ofContent_of_firstFit`,
`ofContent_of_not_sniffed`). Two files can therefore be compared by what decides their types,
whatever else they are: their first bytes (`detect_interference_free`), or their extensions, in
which the case of ASCII letters is not seen either (`mime?_congr`). All of this holds by whatever
table the extensions are looked up.
-/

namespace GlyphBook

/-! ## Extensions -/

namespace CaseFold

theorem fold_toLower (c : Char) : fold c.toLower = fold c := by
  have hcapitals : ∀ n < 26, fold (Char.ofNat (65 + n)).toLower = fold (Char.ofNat (65 + n)) := by
    decide
  by_cases hcapital : 65 ≤ c.toNat ∧ c.toNat ≤ 90
  · have hc := hcapitals (c.toNat - 65) (by omega)
    rwa [Nat.add_sub_cancel' hcapital.1, Char.ofNat_toNat] at hc
  · have hself : c.toLower = c := dif_neg hcapital
    rw [hself]

theorem foldWord_congr {a b : String}
    (h : a.toList.map Char.toLower = b.toList.map Char.toLower) : foldWord a = foldWord b := by
  have hfold (s : String) : s.toList.flatMap fold = (s.toList.map Char.toLower).flatMap fold := by
    rw [List.flatMap_map]
    simp only [fold_toLower]
  rw [foldWord, foldWord, hfold a, hfold b, h]

end CaseFold

namespace Extension

/-- Two extensions, if there are any, are the same apart from the case of ASCII letters. -/
def SameLetters (a b : Option String) : Prop :=
  (a.map fun s => s.toList.map Char.toLower) = b.map fun s => s.toList.map Char.toLower

/-- Extensions that are the same apart from case stand for the same media type. -/
theorem mime?_congr (table : Table) {a b : Option String} (h : SameLetters a b) :
    a.bind table.mime? = b.bind table.mime? := by
  cases a with
  | none =>
      cases b with
      | none => rfl
      | some b => cases h
  | some a =>
      cases b with
      | none => cases h
      | some b =>
          have hword : CaseFold.foldWord a = CaseFold.foldWord b :=
            CaseFold.foldWord_congr (Option.some.inj h)
          rw [Option.bind_some, Option.bind_some, Table.mime?, Table.mime?, hword]

/-- An extension is among those listed, in whatever case. -/
def Listed (extensions : List String) (extension : String) : Prop :=
  ∃ listed ∈ extensions, CaseFold.foldWord listed = CaseFold.foldWord extension

namespace Table

variable {table : Table} {extension : String}

/-- The first row that lists the extension has this media type. -/
def StandsFor (table : Table) (extension mime : String) : Prop :=
  ∃ before extensions after, table.rows = before ++ (mime, extensions) :: after
    ∧ Listed extensions extension ∧ ∀ row ∈ before, ¬ Listed row.2 extension

/-- Some row lists the extension. -/
def Knows (table : Table) (extension : String) : Prop :=
  ∃ row ∈ table.rows, Listed row.2 extension

theorem any_listed_iff {extensions : List String} :
    (extensions.any fun listed => CaseFold.foldWord listed == CaseFold.foldWord extension) = true ↔
      Listed extensions extension := by
  simp only [List.any_eq_true, beq_iff_eq, Listed]

theorem mime?_eq_some_iff {mime : String} :
    table.mime? extension = some mime ↔ table.StandsFor extension mime := by
  simp only [mime?, Option.map_eq_some_iff, List.find?_eq_some_iff_append, any_listed_iff,
    Bool.not_eq_true', ← Bool.not_eq_true]
  constructor
  · rintro ⟨⟨_, extensions⟩, ⟨hlisted, before, after, hrows, hbefore⟩, rfl⟩
    exact ⟨before, extensions, after, hrows, hlisted, hbefore⟩
  · rintro ⟨before, extensions, after, hrows, hlisted, hbefore⟩
    exact ⟨(mime, extensions), ⟨hlisted, before, after, hrows, hbefore⟩, rfl⟩

theorem mime?_eq_none_iff : table.mime? extension = none ↔ ¬ table.Knows extension := by
  simp only [mime?, Option.map_eq_none_iff, List.find?_eq_none, any_listed_iff, Knows, not_exists,
    not_and]

end Table

end Extension

/-! ## Signatures -/

namespace Signature

/-- Some signature fits the bytes. -/
def Fits (bytes : Bytes) : Prop := ∃ s ∈ all, s.found bytes = true

/-- The signature fits the bytes, and none that is tried before it does. -/
def FirstFit (bytes : Bytes) (s : Signature) : Prop :=
  s.found bytes = true
    ∧ ∃ before after, all = before ++ s :: after ∧ ∀ other ∈ before, other.found bytes = false

theorem match?_eq_some_iff {bytes : Bytes} {s : Signature} :
    match? bytes = some s ↔ FirstFit bytes s := by
  simp only [match?, FirstFit, List.find?_eq_some_iff_append, Bool.not_eq_true']

theorem match?_eq_none_iff {bytes : Bytes} : match? bytes = none ↔ ¬ Fits bytes := by
  simp only [match?, List.find?_eq_none, Fits, not_exists, not_and]

theorem FirstFit.mem {bytes : Bytes} {s : Signature} (h : FirstFit bytes s) : s ∈ all :=
  List.mem_of_find?_eq_some (match?_eq_some_iff.mpr h)

theorem Fits.exists_firstFit {bytes : Bytes} (h : Fits bytes) : ∃ s, FirstFit bytes s := by
  cases hmatch : match? bytes with
  | none => exact absurd h (match?_eq_none_iff.mp hmatch)
  | some s => exact ⟨s, match?_eq_some_iff.mp hmatch⟩

end Signature

/-! ## Types -/

namespace FileType

/-- A signature fits the first bytes of a file, of which 8192 are looked at. -/
def Sniffed (content : Bytes) : Prop := Signature.Fits (content.take 8192)

/-- The category that a media type stands for by its two halves. -/
def suggested (mime : String) : Category :=
  Category.ofMediaType (halves mime).1 (halves mime).2

/-- The type that an extension stands for: the media type it is listed with, in the category of
that type, or plain bytes when it is not listed. -/
def Suggests (table : Extension.Table) (extension? : Option String) (type : FileType) : Prop :=
  (∃ extension mime, extension? = some extension ∧ table.StandsFor extension mime
      ∧ type = ⟨mime, suggested mime⟩)
    ∨ ((∀ extension, extension? = some extension → ¬ table.Knows extension)
      ∧ type = ⟨"application/octet-stream", .binary⟩)

section

variable (table : Extension.Table)

theorem suggests_ofExtension (extension? : Option String) :
    Suggests table extension? (ofExtension table extension?) := by
  rw [ofExtension]
  cases hmime : extension?.bind table.mime? with
  | none =>
      refine Or.inr ⟨fun extension hextension => ?_, rfl⟩
      rw [hextension] at hmime
      exact Extension.Table.mime?_eq_none_iff.mp hmime
  | some mime =>
      obtain ⟨extension, hextension, hmime⟩ := Option.bind_eq_some_iff.mp hmime
      exact Or.inl ⟨extension, mime, hextension, Extension.Table.mime?_eq_some_iff.mp hmime, rfl⟩

theorem ofExtension_congr {a b : Option String} (h : Extension.SameLetters a b) :
    ofExtension table a = ofExtension table b := by
  rw [ofExtension, ofExtension, Extension.mime?_congr table h]

/-- A file whose first bytes are taken for a signature has the type of that signature. -/
theorem ofContent_of_firstFit {content : Bytes} {s : Signature}
    (h : Signature.FirstFit (content.take 8192) s) (path : String) :
    ofContent table path content = ⟨s.mime, s.family.category⟩ := by
  rw [ofContent, sniff?, sniffLength, Signature.match?_eq_some_iff.mpr h]
  rfl

/-- A file whose first bytes fit no signature has the type that its extension stands for. -/
theorem ofContent_of_not_sniffed {content : Bytes} (h : ¬ Sniffed content) (path : String) :
    ofContent table path content = ofExtension table (Extension.ofPath? path) := by
  rw [ofContent, sniff?, sniffLength, Signature.match?_eq_none_iff.mpr h]
  rfl

end

/-! ## Files -/

theorem exists_read_eq_error_iff {files : Files} {path : String} :
    (∃ e, files.read path = .error e) ↔ ∀ content, files.lookup path ≠ .ok (.file content) := by
  rw [Files.read]
  cases files.lookup path with
  | error e => simp
  | ok node => cases node <;> simp

theorem read_eq_ok_iff {files : Files} {path : String} {content : Bytes} :
    files.read path = .ok content ↔ files.lookup path = .ok (.file content) := by
  rw [Files.read]
  cases files.lookup path with
  | error e => simp
  | ok node => cases node <;> simp

theorem detect_of_file (table : Extension.Table) {files : Files} {path : String} {content : Bytes}
    (h : files.lookup path = .ok (.file content)) :
    detect table files path = .ok (ofContent table path content) := by
  rw [detect, read_eq_ok_iff.mpr h]
  rfl

/-- Detection fails when reading does, and for the same reason. -/
theorem detect_eq_error_iff {table : Extension.Table} {files : Files} {path : String}
    {e : FileError} : detect table files path = .error e ↔ files.read path = .error e := by
  rw [detect]
  cases files.read path with
  | error e' =>
      show (.error e' : Except FileError FileType) = .error e ↔ _
      rw [Except.error.injEq, Except.error.injEq]
  | ok content =>
      constructor
      · intro h
        cases h
      · intro h
        cases h

/-- **First bytes and extensions do not interfere**, by whatever table the extensions are looked up.
Detection fails exactly where no file can be read, for the reason why it cannot. Files whose first
8192 bytes are the same and fit a signature have the same type, that of the first signature that
fits, whatever their names and their other bytes are. Files whose first bytes fit none and whose
extensions are the same apart from the case of ASCII letters have the same type, the one that the
extension stands for, whatever their bytes are. -/
theorem detect_interference_free (table : Extension.Table) (files files' : Files)
    (path path' : String) :
    ((∃ e, detect table files path = .error e) ↔ ∀ content, files.lookup path ≠ .ok (.file content))
      ∧ (∀ e, detect table files path = .error e ↔ files.read path = .error e)
      ∧ ∀ content content', files.lookup path = .ok (.file content) →
          files'.lookup path' = .ok (.file content') →
          (content.take 8192 = content'.take 8192 → Sniffed content →
            ∃ s type, Signature.FirstFit (content.take 8192) s
              ∧ type = ⟨s.mime, s.family.category⟩
              ∧ detect table files path = .ok type ∧ detect table files' path' = .ok type)
          ∧ (¬ Sniffed content → ¬ Sniffed content' →
            Extension.SameLetters (Extension.ofPath? path) (Extension.ofPath? path') →
            ∃ type, Suggests table (Extension.ofPath? path) type
              ∧ detect table files path = .ok type ∧ detect table files' path' = .ok type) := by
  refine ⟨?failure, fun e => detect_eq_error_iff, ?types⟩
  case failure =>
    simp only [detect_eq_error_iff]
    exact exists_read_eq_error_iff
  case types =>
    intro content content' hfile hfile'
    rw [detect_of_file table hfile, detect_of_file table hfile']
    refine ⟨?_, ?_⟩
    · intro hfront hsniffed
      obtain ⟨s, hs⟩ := hsniffed.exists_firstFit
      refine ⟨s, _, hs, rfl, ?_, ?_⟩
      · rw [ofContent_of_firstFit table hs]
      · rw [hfront] at hs
        rw [ofContent_of_firstFit table hs]
    · intro hcontent hcontent' hletters
      refine ⟨_, suggests_ofExtension table _, ?_, ?_⟩
      · rw [ofContent_of_not_sniffed table hcontent]
      · rw [ofContent_of_not_sniffed table hcontent', ofExtension_congr table hletters]

end FileType

end GlyphBook
