import GlyphBook.Proofs.Media.Detection
import GlyphBook.Theme
import Mathlib.Logic.Basic

/-!
# When a media type decides the category

A media type can be found in two ways. When an extension suggests it, its category is read off the
two halves of its name (`FileType.suggested`); when the first bytes show it, the category is that of
the family of its signature. The two rules agree on all media types but six (`disputed`): two
document formats have signatures among the archives, and two kinds of books and two kinds of office
documents are no documents by their names.

The table of signatures is compared with the names once, row by row (`category_of_mem`), with the
characters of the names read off their bytes. What it
cannot tell is the one media type that stands in two rows of different families; of these only the
first is ever found (`family_of_electronicBook`). From both, the category of a file follows from its
media type and from whether its bytes showed it (`category_ofContent`), and two files with one media
type are in one category unless the type is disputed and only one of them showed it.
-/

namespace GlyphBook

namespace Category

theorem isDocumentSubtype_eq (subtype : String) :
    isDocumentSubtype subtype
      = (["pdf", "json", "xml", "rtf", "msword"].contains subtype
        || "vnd.openxmlformats-".toList.isPrefixOf subtype.toList
        || "vnd.oasis.opendocument.".toList.isPrefixOf subtype.toList) := by
  have hstarts (text part : String) :
      text.startsWith part = part.toList.isPrefixOf text.toList := by
    rw [Bool.eq_iff_iff, String.startsWith_string_iff, List.isPrefixOf_iff_prefix]
  rw [isDocumentSubtype, hstarts, hstarts]

end Category

namespace Extension

/-! ## Splitting a path -/

/-- Splitting passes a character that the separator does not begin with. -/
theorem splitOnAux_next {text sep : String} {b i : String.Pos.Raw} {r : List String}
    (hend : i.atEnd text = false) (hne : (i.get text == String.Pos.Raw.get sep 0) = false) :
    text.splitOnAux sep b i 0 r = text.splitOnAux sep b (i.next text) 0 r := by
  rw [String.splitOnAux, hend, hne]
  rfl

theorem splitOnAux_end {text sep : String} {b i : String.Pos.Raw} {r : List String}
    (hend : i.atEnd text = true) :
    text.splitOnAux sep b i 0 r = (String.Pos.Raw.extract text b i :: r).reverse := by
  rw [String.splitOnAux, hend]
  rfl

end Extension

namespace FileType

/-! ## Media types in ASCII

The characters of a literal are slow to compute, since they are decoded from its bytes. The table is
therefore compared through the bytes themselves, which in ASCII are the characters. -/

def isAscii (text : String) : Bool := text.toByteArray.data.toList.all fun b => b < 128

def asciiChars (text : String) : List Char :=
  text.toByteArray.data.toList.map fun b => Char.ofNat b.toNat

theorem utf8Encode_ascii {bytes : List UInt8} (h : bytes.all fun b => b < 128) :
    (bytes.map fun b => Char.ofNat b.toNat).flatMap String.utf8EncodeChar = bytes := by
  have hchar : ∀ n < 128, String.utf8EncodeChar (Char.ofNat n) = [UInt8.ofNat n] := by
    decide +kernel
  induction bytes with
  | nil => rfl
  | cons b bytes ih =>
      simp only [List.all_cons, Bool.and_eq_true, decide_eq_true_eq] at h
      rw [List.map_cons, List.flatMap_cons, ih h.2, hchar b.toNat h.1, UInt8.ofNat_toNat]
      rfl

theorem toList_eq_asciiChars {text : String} (h : isAscii text) :
    text.toList = asciiChars text := by
  have htext : String.ofList (asciiChars text) = text := by
    rw [← String.toByteArray_inj, String.toByteArray_ofList, List.utf8Encode, asciiChars,
      utf8Encode_ascii h]
    exact ByteArray.ext List.data_toByteArray
  rw [← String.toList_ofList (l := asciiChars text), htext]

/-- What a media type suggests, by its bytes. -/
def asciiSuggested (mime : String) : Category :=
  Category.ofMediaType (String.ofList ((asciiChars mime).takeWhile (· ≠ '/')))
    (String.ofList (withoutSuffix (((asciiChars mime).dropWhile (· ≠ '/')).drop 1)))

theorem suggested_eq_asciiSuggested {mime : String} (h : isAscii mime) :
    suggested mime = asciiSuggested mime := by
  rw [suggested, halves, toList_eq_asciiChars h]
  rfl

/-! ## Disputed types -/

/-- The media types whose category depends on how they were found. -/
def disputed : List String :=
  ["application/epub+zip", "application/x-mobipocket-ebook", "application/vnd.ms-excel",
    "application/vnd.ms-powerpoint", "application/pdf", "application/rtf"]

/-- The category in which a disputed type is shown when the first bytes of a file show it: the one
of documents and plain bytes that its name does not stand for. -/
def opposite : Category → Category
  | .document => .binary
  | .binary => .document
  | category => category

theorem opposite_suggested_ne {mime : String} (h : mime ∈ disputed) :
    opposite (suggested mime) ≠ suggested mime := by
  have hdisputed : ∀ mime ∈ disputed, isAscii mime
      ∧ opposite (asciiSuggested mime) ≠ asciiSuggested mime := by
    simp only [asciiSuggested, Category.ofMediaType, Category.isDocumentSubtype_eq,
      String.toList_ofList]
    decide +kernel
  obtain ⟨hascii, hne⟩ := hdisputed mime h
  rwa [suggested_eq_asciiSuggested hascii]

/-- The category of a file that shows its media type with its first bytes. -/
def shown (mime : String) : Category :=
  if mime ∈ disputed then opposite (suggested mime) else suggested mime

/-! ## The table of signatures -/

/-- Every signature has the category that its media type is shown with, except for the second of the
two that electronic books have. -/
theorem category_of_mem {s : Signature} (h : s ∈ Signature.all) :
    s.family.category = shown s.mime ∨ (s.mime = "application/epub+zip" ∧ s.family = .archive) := by
  have hrows : ∀ row ∈ Signature.all.map fun s => (s.family, s.mime), isAscii row.2
      ∧ (row.1.category
            = (if row.2 ∈ disputed then opposite (asciiSuggested row.2) else asciiSuggested row.2)
          ∨ (row.2 = "application/epub+zip" ∧ row.1 = .archive)) := by
    simp only [asciiSuggested, Category.ofMediaType, Category.isDocumentSubtype_eq,
      String.toList_ofList]
    decide +kernel
  obtain ⟨hascii, hcategory⟩ := hrows (s.family, s.mime) (List.mem_map.mpr ⟨s, h, rfl⟩)
  rwa [shown, suggested_eq_asciiSuggested hascii]

/-- An electronic book is found as a book: its signature among the archives asks the same of the
bytes, and stands behind the one among the books. -/
theorem family_of_electronicBook {bytes : Bytes} {s : Signature}
    (h : Signature.FirstFit bytes s) (hmime : s.mime = "application/epub+zip") :
    s.family = .book := by
  have hrows : Signature.all.filter (fun s => s.mime == "application/epub+zip")
      = [⟨.book, "application/epub+zip", Signature.isElectronicBook⟩,
        ⟨.archive, "application/epub+zip", Signature.isElectronicBook⟩] := rfl
  have hs : s ∈ Signature.all.filter fun s => s.mime == "application/epub+zip" :=
    List.mem_filter.mpr ⟨h.mem, beq_iff_eq.mpr hmime⟩
  rw [hrows, List.mem_cons, List.mem_singleton] at hs
  rcases hs with rfl | rfl
  · rfl
  · have hbook : ((Signature.programs ++ Signature.books).find? fun s => s.found bytes).isSome :=
      List.find?_isSome.mpr ⟨⟨.book, "application/epub+zip", Signature.isElectronicBook⟩,
        List.mem_append_right _ (List.mem_cons_self ..), h.1⟩
    obtain ⟨other, hother⟩ := Option.isSome_iff_exists.mp hbook
    have hmatch : Signature.match? bytes = some other := by
      simp only [Signature.match?, Signature.all, List.append_assoc]
      rw [← List.append_assoc, List.find?_append, hother, Option.some_or]
    rw [Signature.match?_eq_some_iff.mpr h] at hmatch
    obtain rfl := Option.some.inj hmatch
    have hfamilies : ∀ family ∈ (Signature.programs ++ Signature.books).map Signature.family,
        family ≠ .archive := by
      decide
    exact absurd rfl
      (hfamilies _ (List.mem_map_of_mem (List.mem_of_find?_eq_some hother)))

theorem category_of_firstFit {bytes : Bytes} {s : Signature} (h : Signature.FirstFit bytes s) :
    s.family.category = shown s.mime := by
  rcases category_of_mem h.mem with hcategory | ⟨hmime, hfamily⟩
  · exact hcategory
  · rw [family_of_electronicBook h hmime] at hfamily
    cases hfamily

/-! ## Files -/

theorem suggested_plain : suggested plain.mime = plain.category := by
  simp only [suggested, Category.ofMediaType, Category.isDocumentSubtype_eq]
  decide +kernel

/-- What an extension suggests is in the category that its media type stands for. -/
theorem category_ofExtension (table : Extension.Table) (extension? : Option String) :
    (ofExtension table extension?).category = suggested (ofExtension table extension?).mime := by
  rw [ofExtension]
  cases extension?.bind table.mime? with
  | none => exact suggested_plain.symm
  | some mime => rfl

/-- **The category of a file** follows from its media type and from whether its first bytes show
it. -/
theorem category_ofContent (table : Extension.Table) (path : String) (content : Bytes) :
    (Sniffed content →
        (ofContent table path content).category = shown (ofContent table path content).mime)
      ∧ (¬ Sniffed content →
        (ofContent table path content).category
          = suggested (ofContent table path content).mime) := by
  constructor
  · intro hsniffed
    obtain ⟨s, hs⟩ := hsniffed.exists_firstFit
    rw [ofContent_of_firstFit table hs]
    exact category_of_firstFit hs
  · intro hnot
    rw [ofContent_of_not_sniffed table hnot]
    exact category_ofExtension table _

/-- A disputed type is shown in another category than its name suggests, any other in the same. -/
theorem shown_eq_suggested_iff {mime : String} : shown mime = suggested mime ↔ mime ∉ disputed := by
  rw [shown]
  by_cases hmime : mime ∈ disputed
  · rw [if_pos hmime]
    exact ⟨fun h => absurd h (opposite_suggested_ne hmime), fun h => absurd hmime h⟩
  · rw [if_neg hmime]
    exact ⟨fun _ => hmime, fun _ => rfl⟩

/-- Files of one media type are in one category, unless the type is disputed and just one of them
shows it with its first bytes. -/
theorem category_eq_iff {table : Extension.Table} {path path' : String} {content content' : Bytes}
    (hmime : (ofContent table path content).mime = (ofContent table path' content').mime) :
    (ofContent table path content).category = (ofContent table path' content').category ↔
      ((ofContent table path content).mime ∈ disputed → (Sniffed content ↔ Sniffed content')) := by
  obtain ⟨hshown, hsuggested⟩ := category_ofContent table path content
  obtain ⟨hshown', hsuggested'⟩ := category_ofContent table path' content'
  by_cases hsniffed : Sniffed content
  · by_cases hsniffed' : Sniffed content'
    · rw [hshown hsniffed, hshown' hsniffed', hmime]
      exact ⟨fun _ _ => iff_of_true hsniffed hsniffed', fun _ => rfl⟩
    · rw [hshown hsniffed, hsuggested' hsniffed', ← hmime, shown_eq_suggested_iff]
      exact ⟨fun h hdisputed => absurd hdisputed h,
        fun h hdisputed => hsniffed' ((h hdisputed).mp hsniffed)⟩
  · by_cases hsniffed' : Sniffed content'
    · rw [hsuggested hsniffed, hshown' hsniffed', ← hmime, eq_comm, shown_eq_suggested_iff]
      exact ⟨fun h hdisputed => absurd hdisputed h,
        fun h hdisputed => hsniffed ((h hdisputed).mpr hsniffed')⟩
    · rw [hsuggested hsniffed, hsuggested' hsniffed', hmime]
      exact ⟨fun _ _ => iff_of_false hsniffed hsniffed', fun _ => rfl⟩

/-- Categories are told apart by the icon of some theme, already by those of the default one. -/
theorem category_eq_of_icons {a b : Category}
    (h : ∀ theme : Theme, theme.categoryIcon a = theme.categoryIcon b) : a = b := by
  have hdefault : ∀ a ∈ Category.all, ∀ b ∈ Category.all,
      Theme.default.categoryIcon a = Theme.default.categoryIcon b → a = b := by
    decide
  exact hdefault a a.mem_all b b.mem_all (h Theme.default)

/-- **When the category follows from the media type.** By whatever table extensions are looked up,
two readable files of one media type are in one category, and are drawn with one icon under every
theme, unless the type is disputed and is shown by the first bytes of just one of them. -/
theorem category_follows_iff {table : Extension.Table} {files files' : Files}
    {path path' : String} {content content' : Bytes} {type type' : FileType}
    (hfile : files.lookup path = .ok (.file content))
    (hfile' : files'.lookup path' = .ok (.file content'))
    (htype : detect table files path = .ok type) (htype' : detect table files' path' = .ok type')
    (hmime : type.mime = type'.mime) :
    (type.category = type'.category ↔
        (type.mime ∈ disputed → (Sniffed content ↔ Sniffed content')))
      ∧ ((∀ theme : Theme,
            theme.entryIcon (.file type.category) = theme.entryIcon (.file type'.category)) ↔
          (type.mime ∈ disputed → (Sniffed content ↔ Sniffed content'))) := by
  rw [detect_of_file table hfile] at htype
  rw [detect_of_file table hfile'] at htype'
  obtain rfl := Except.ok.inj htype
  obtain rfl := Except.ok.inj htype'
  have hcategory := category_eq_iff hmime
  refine ⟨hcategory, ?_⟩
  rw [← hcategory]
  exact ⟨category_eq_of_icons, fun h theme => by rw [h]⟩

theorem draft_not_sniffed : ¬ Sniffed (Bytes.ascii "draft\n") :=
  Signature.match?_eq_none_iff.mp (by decide +kernel)

/-- A picture that its bytes show and one that only has its extension are in one category. -/
theorem png_categories_agree :
    let table : Extension.Table := ⟨[("image/png", ["png"])]⟩
    let files := Files.ofList
      [("photo.png", .ok (.file [0x89, 0x50, 0x4E, 0x47, 0x0D, 0x0A, 0x1A, 0x0A])),
        ("draft.png", .ok (.file (Bytes.ascii "draft\n")))]
    ∃ type type', detect table files "photo.png" = .ok type
      ∧ detect table files "draft.png" = .ok type'
      ∧ type.mime = type'.mime ∧ type.category = type'.category := by
  intro table files
  have hfile : files.lookup "photo.png"
      = .ok (.file [0x89, 0x50, 0x4E, 0x47, 0x0D, 0x0A, 0x1A, 0x0A]) := rfl
  have hfile' : files.lookup "draft.png" = .ok (.file (Bytes.ascii "draft\n")) := rfl
  have hshown : (ofContent table "photo.png" [0x89, 0x50, 0x4E, 0x47, 0x0D, 0x0A, 0x1A, 0x0A]).mime
      = "image/png" := by
    decide +kernel
  have hguessed : (ofContent table "draft.png" (Bytes.ascii "draft\n")).mime = "image/png" := by
    have hnames : "draft.png".splitOn "/" = ["draft.png"] := by
      rw [String.splitOn, if_neg (by decide)]
      simp (disch := decide +kernel) only [Extension.splitOnAux_next, Extension.splitOnAux_end]
      decide +kernel
    rw [ofContent_of_not_sniffed table draft_not_sniffed, Extension.ofPath?, Extension.fileName?,
      hnames]
    decide +kernel
  have hmime := hshown.trans hguessed.symm
  refine ⟨_, _, detect_of_file table hfile, detect_of_file table hfile', hmime, ?_⟩
  refine (category_follows_iff hfile hfile' (detect_of_file table hfile)
    (detect_of_file table hfile') hmime).1.mpr fun hdisputed => ?_
  rw [hshown] at hdisputed
  exact absurd hdisputed (by decide)

/-- A portable document that its bytes show and one that only has its extension are in two
categories, by every table in which that extension stands for portable documents; there are such
tables. -/
theorem pdf_categories_differ :
    let files := Files.ofList [("report.pdf", .ok (.file (Bytes.ascii "%PDF-1.7\n"))),
      ("draft.pdf", .ok (.file (Bytes.ascii "draft\n")))]
    (∀ table : Extension.Table, table.mime? "pdf" = some "application/pdf" →
      detect table files "report.pdf" = .ok ⟨"application/pdf", .binary⟩
        ∧ detect table files "draft.pdf" = .ok ⟨"application/pdf", .document⟩)
      ∧ Extension.Table.mime? ⟨[("application/pdf", ["pdf"])]⟩ "pdf" = some "application/pdf" := by
  intro files
  refine ⟨fun table hpdf => ?_, by decide +kernel⟩
  have hfile : files.lookup "report.pdf" = .ok (.file (Bytes.ascii "%PDF-1.7\n")) := rfl
  have hfile' : files.lookup "draft.pdf" = .ok (.file (Bytes.ascii "draft\n")) := rfl
  rw [detect_of_file table hfile, detect_of_file table hfile']
  constructor
  case left =>
    have hsniff : sniff? (Bytes.ascii "%PDF-1.7\n") = some ⟨"application/pdf", .binary⟩ := by
      decide +kernel
    rw [ofContent, hsniff]
    rfl
  case right =>
    have hnames : "draft.pdf".splitOn "/" = ["draft.pdf"] := by
      rw [String.splitOn, if_neg (by decide)]
      simp (disch := decide +kernel) only [Extension.splitOnAux_next, Extension.splitOnAux_end]
      decide +kernel
    have hextension : Extension.ofPath? "draft.pdf" = some "pdf" := by
      rw [Extension.ofPath?, Extension.fileName?, hnames]
      decide +kernel
    have hsuggested : suggested "application/pdf" = .document := by
      decide +kernel
    have htype :
        ofExtension table (some "pdf") = ⟨"application/pdf", suggested "application/pdf"⟩ := by
      rw [ofExtension, Option.bind_some, hpdf]
      rfl
    rw [ofContent_of_not_sniffed table draft_not_sniffed, hextension, htype, hsuggested]

end FileType

end GlyphBook
