import GlyphBook.Config.Load
import GlyphBook.Proofs.Config.Schema

/-!
# Loading hides nothing

What is wrong with a file that is loaded is reported, and the built-in theme stands in for a file
only where there is none. Loading sees a file system through its questions alone, so both halves
are read off an inquiry: its result, by what the one question about bytes was answered
(`load_eq_ok_iff`, `load_eq_unreadable_iff`, `load_eq_invalid_iff`), and the questions that were
asked. That a question was not asked means that its answer plays no part (`Inquiry.result_congr`).
-/

namespace GlyphBook

/-! ## Inquiries -/

/-- Two file systems give the same answer to a question. -/
def Question.Agree (files files' : Files) : Question → Prop
  | .isFile path => files'.isFile path = files.isFile path
  | .read path => files'.read path = files.read path

/-- The result of an inquiry depends on the answers to what was asked, and on nothing else. -/
theorem Inquiry.result_congr {α : Type} {files files' : Files} (inquiry : Inquiry α)
    (h : ∀ question ∈ inquiry.asked files, question.Agree files files') :
    inquiry.result files' = inquiry.result files := by
  induction inquiry with
  | done a => rfl
  | isFile path next ih =>
      have hanswer : files'.isFile path = files.isFile path := h _ List.mem_cons_self
      rw [Inquiry.result, Inquiry.result, hanswer]
      exact ih _ fun question hquestion => h question (List.mem_cons_of_mem _ hquestion)
  | read path next ih =>
      have hanswer : files'.read path = files.read path := h _ List.mem_cons_self
      rw [Inquiry.result, Inquiry.result, hanswer]
      exact ih _ fun question hquestion => h question (List.mem_cons_of_mem _ hquestion)

/-! ## Files -/

namespace Files

theorem isFile_eq_false_iff {files : Files} {path : String} :
    files.isFile path = false ↔
      files.lookup path = .ok .directory ∨ ∃ e, files.lookup path = .error e := by
  rw [isFile]
  cases files.lookup path with
  | error e => simp
  | ok node => cases node <;> simp

/-- A file that is there may be locked, but it is not missing. -/
theorem read_ne_notFound {files : Files} {path : String} (h : files.isFile path = true) :
    files.read path ≠ .error .notFound := by
  rw [isFile] at h
  rw [read]
  cases hnode : files.lookup path with
  | error e => simp [hnode] at h
  | ok node => cases node <;> simp

end Files

/-! ## Texts -/

/-- The bytes that spell a text. -/
def Bytes.utf8 (text : String) : Bytes := text.toUTF8.data.toList

/-- Bytes are decoded to a text exactly if they spell it. -/
theorem Bytes.fromUTF8?_eq_some_iff {bytes : Bytes} {text : String} :
    String.fromUTF8? ⟨bytes.toArray⟩ = some text ↔ bytes = utf8 text := by
  constructor
  · intro h
    rw [String.fromUTF8?] at h
    split at h
    · obtain rfl := Option.some.inj h
      rfl
    · cases h
  · rintro rfl
    have hbytes : (⟨(utf8 text).toArray⟩ : ByteArray) = text.toUTF8 := by
      rw [utf8, Array.toArray_toList]
    rw [hbytes, String.fromUTF8?, String.toUTF8_eq_toByteArray, dif_pos text.isValidUTF8]
    rfl

namespace Config

theorem textOf_eq_ok_iff {answer : Except FileError Bytes} {source : String} :
    textOf answer = .ok source ↔ answer = .ok (Bytes.utf8 source) := by
  cases answer with
  | error e => simp [textOf]
  | ok bytes =>
      rw [textOf, Except.ok.injEq, ← Bytes.fromUTF8?_eq_some_iff]
      cases String.fromUTF8? ⟨bytes.toArray⟩ with
      | none => simp
      | some text => simp

/-- What an answer is like of which no text can be made, for a given reason. -/
def ReadError.Explains (answer : Except FileError Bytes) : ReadError → Prop
  | .file e => answer = .error e
  | .notUtf8 => ∃ bytes, answer = .ok bytes ∧ ∀ source, bytes ≠ Bytes.utf8 source

theorem textOf_eq_error_iff {answer : Except FileError Bytes} {e : ReadError} :
    textOf answer = .error e ↔ e.Explains answer := by
  cases answer with
  | error e' => cases e <;> simp [textOf, ReadError.Explains]
  | ok bytes =>
      rw [textOf]
      cases htext : String.fromUTF8? ⟨bytes.toArray⟩ with
      | none =>
          have hnot : ∀ source, bytes ≠ Bytes.utf8 source := by
            intro source hsource
            rw [Bytes.fromUTF8?_eq_some_iff.mpr hsource] at htext
            cases htext
          cases e with
          | file e => simp [ReadError.Explains]
          | notUtf8 => simp [ReadError.Explains, hnot]
      | some text =>
          have hsource := Bytes.fromUTF8?_eq_some_iff.mp htext
          cases e with
          | file e => simp [ReadError.Explains]
          | notUtf8 =>
              constructor
              · intro h
                cases h
              · rintro ⟨_, hbytes, hnot⟩
                exact absurd hsource (Except.ok.inj hbytes ▸ hnot text)

/-! ## Loading from a path -/

/-- The file at a path can be read and spells a text. -/
def Holds (files : Files) (path source : String) : Prop :=
  files.read path = .ok (Bytes.utf8 source)

variable {files : Files} {surroundings : Surroundings} {path : String}

theorem load_of_text {source : String} (h : textOf (files.read path) = .ok source) :
    load files path = (parse source).mapError LoadError.invalid := by
  simp only [load, loading, Inquiry.result, h]

theorem load_of_noText {e : ReadError} (h : textOf (files.read path) = .error e) :
    load files path = .error (.unreadable path e) := by
  simp only [load, loading, Inquiry.result, h]

theorem load_eq_ok_iff {theme : Theme} :
    load files path = .ok theme ↔ ∃ source, Holds files path source ∧ parse source = .ok theme := by
  simp only [Holds, ← textOf_eq_ok_iff]
  cases htext : textOf (files.read path) with
  | error e => simp [load_of_noText htext]
  | ok source => simp [load_of_text htext, mapError_eq_ok_iff]

theorem load_eq_unreadable_iff {place : String} {e : ReadError} :
    load files path = .error (.unreadable place e) ↔
      place = path ∧ e.Explains (files.read path) := by
  rw [← textOf_eq_error_iff]
  cases htext : textOf (files.read path) with
  | error e' => simp [load_of_noText htext, eq_comm]
  | ok source => simp [load_of_text htext, mapError_eq_error_iff]

theorem load_eq_invalid_iff {e : Error} :
    load files path = .error (.invalid e) ↔
      ∃ source, Holds files path source ∧ parse source = .error e := by
  simp only [Holds, ← textOf_eq_ok_iff]
  cases htext : textOf (files.read path) with
  | error e' => simp [load_of_noText htext]
  | ok source => simp [load_of_text htext, mapError_eq_error_iff]

theorem asked_loading : (loading path).asked files = [.read path] := by
  rw [loading, Inquiry.asked]
  cases textOf (files.read path) <;> rfl

/-! ## Without a path -/

/-- There is no file at the default path, if there is a default path at all. -/
def NoDefaultFile (files : Files) (surroundings : Surroundings) : Prop :=
  ∀ path, surroundings.defaultPath? = some path →
    files.lookup path = .ok .directory ∨ ∃ e, files.lookup path = .error e

theorem loadOrDefault_of_noDefaultFile (h : NoDefaultFile files surroundings) :
    loadOrDefault files surroundings none = .ok Theme.default
      ∧ (loadingOrDefault surroundings none).asked files
        = surroundings.defaultPath?.toList.map Question.isFile := by
  rw [loadOrDefault, loadingOrDefault]
  cases hpath : surroundings.defaultPath? with
  | none => exact ⟨rfl, rfl⟩
  | some path =>
      have hfile := Files.isFile_eq_false_iff.mpr (h path hpath)
      simp [Inquiry.result, Inquiry.asked, hfile]

theorem loadOrDefault_of_file (hpath : surroundings.defaultPath? = some path)
    (hfile : files.isFile path = true) :
    loadOrDefault files surroundings none = load files path := by
  simp [loadOrDefault, loadingOrDefault, Inquiry.result, load, hpath, hfile]

theorem noDefaultFile_or_file (files : Files) (surroundings : Surroundings) :
    NoDefaultFile files surroundings
      ∨ ∃ path, surroundings.defaultPath? = some path ∧ files.isFile path = true := by
  by_cases h : ∃ path, surroundings.defaultPath? = some path ∧ files.isFile path = true
  · exact Or.inr h
  · refine Or.inl fun path hpath => Files.isFile_eq_false_iff.mp ?_
    rw [← Bool.not_eq_true]
    intro hfile
    exact h ⟨path, hpath, hfile⟩

/-- A file that no path was given for is either not there or read, so it is never reported as
missing. -/
theorem loadOrDefault_none_ne_notFound (place : String) :
    loadOrDefault files surroundings none ≠ .error (.unreadable place (.file .notFound)) := by
  intro h
  rcases noDefaultFile_or_file files surroundings with hno | ⟨path, hpath, hfile⟩
  · rw [(loadOrDefault_of_noDefaultFile hno).1] at h
    cases h
  · rw [loadOrDefault_of_file hpath hfile] at h
    exact Files.read_ne_notFound hfile (load_eq_unreadable_iff.mp h).2

/-- **Loading hides nothing.** A path that is given is loaded. Loading makes the theme that the text
of the file configures, or else says of that very path why it has no text, or says what is wrong
with the text; so the built-in theme comes of it only if the text configures it. Without a path
the built-in theme is taken where no file is at the default path, and nothing is read then; a file
that is there is loaded, and whatever is wrong with it is reported, except that it is never
missing. Answers to questions that are not asked play no part in any of this. -/
theorem load_hides_nothing (files : Files) (surroundings : Surroundings) :
    (∀ path, loadOrDefault files surroundings (some path) = load files path
        ∧ (loadingOrDefault surroundings (some path)).asked files = [.read path])
      ∧ (∀ path theme, load files path = .ok theme ↔
          ∃ source, Holds files path source ∧ parse source = .ok theme)
      ∧ (∀ path place e, load files path = .error (.unreadable place e) ↔
          place = path ∧ e.Explains (files.read path))
      ∧ (∀ path e, load files path = .error (.invalid e) ↔
          ∃ source, Holds files path source ∧ parse source = .error e)
      ∧ (∀ path, loadOrDefault files surroundings (some path) = .ok Theme.default →
          ∃ source, Holds files path source ∧ parse source = .ok Theme.default)
      ∧ (NoDefaultFile files surroundings →
          loadOrDefault files surroundings none = .ok Theme.default
            ∧ (loadingOrDefault surroundings none).asked files
              = surroundings.defaultPath?.toList.map Question.isFile)
      ∧ (∀ path, surroundings.defaultPath? = some path → files.lookup path ≠ .ok .directory →
          (∀ e, files.lookup path ≠ .error e) →
          loadOrDefault files surroundings none = load files path
            ∧ (∀ e, e.Explains (files.read path) →
              loadOrDefault files surroundings none = .error (.unreadable path e))
            ∧ ∀ source e, Holds files path source → parse source = .error e →
              loadOrDefault files surroundings none = .error (.invalid e))
      ∧ (∀ place, loadOrDefault files surroundings none
          ≠ .error (.unreadable place (.file .notFound)))
      ∧ ∀ path? files', (∀ question ∈ (loadingOrDefault surroundings path?).asked files,
          question.Agree files files') →
        loadOrDefault files' surroundings path? = loadOrDefault files surroundings path? := by
  refine ⟨fun path => ⟨rfl, asked_loading⟩, fun path theme => load_eq_ok_iff,
    fun path place e => load_eq_unreadable_iff, fun path e => load_eq_invalid_iff,
    fun path h => load_eq_ok_iff.mp h, loadOrDefault_of_noDefaultFile, ?file,
    loadOrDefault_none_ne_notFound, fun path? files' h => Inquiry.result_congr _ h⟩
  case file =>
    intro path hpath hdirectory herror
    have hfile : files.isFile path = true := by
      rw [← Bool.not_eq_false, Files.isFile_eq_false_iff]
      rintro (h | ⟨e, h⟩)
      · exact hdirectory h
      · exact herror e h
    rw [loadOrDefault_of_file hpath hfile]
    refine ⟨rfl, ?_, ?_⟩
    · intro e he
      exact load_eq_unreadable_iff.mpr ⟨rfl, he⟩
    · intro source e hsource he
      exact load_eq_invalid_iff.mpr ⟨source, hsource, he⟩

end Config

end GlyphBook
