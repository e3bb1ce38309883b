import GlyphBook.CommandLine.Parse
import Mathlib.Algebra.GroupWithZero.Nat

/-!
# Global options

The options that may stand before a command as well as behind it, with the words that spell them,
and what the options of one side ask for together.
-/

namespace GlyphBook

/-- An option that every command knows: how often it asks for more, and the path it gives. Its
letters can stand in one word, so one option may do both. -/
structure GlobalOption where
  count : Nat
  path? : Option String
  deriving Repr, DecidableEq

/-- A word that does not look like an option. -/
def IsPlain (word : String) : Prop := word = "-" ∨ word.toList.head? ≠ some '-'

namespace GlobalOption

/-! ## Spellings -/

/-- A dash, the letter of the verbosity flag a number of times, and what else the word has. -/
def cluster (n : Nat) (rest : List Char) : String :=
  String.ofList ('-' :: (List.replicate n 'v' ++ rest))

/-- The words that spell an option. A path stands in a word of its own, or behind a sign or the
letter of its option. -/
inductive Spells : List String → GlobalOption → Prop where
  | letters (n : Nat) : Spells [cluster (n + 1) []] ⟨n + 1, none⟩
  | verbose : Spells ["--verbose"] ⟨1, none⟩
  | shortApart (n : Nat) {path : String} :
      IsPlain path → Spells [cluster n ['c'], path] ⟨n, some path⟩
  | shortSigned (n : Nat) (path : String) :
      Spells [cluster n ('c' :: '=' :: path.toList)] ⟨n, some path⟩
  | shortJoined (n : Nat) {path : String} :
      path ≠ "" → path.toList.head? ≠ some '=' →
      Spells [cluster n ('c' :: path.toList)] ⟨n, some path⟩
  | longApart {path : String} : IsPlain path → Spells ["--config", path] ⟨0, some path⟩
  | longSigned (path : String) : Spells ["--config=" ++ path] ⟨0, some path⟩

/-- The words that spell several options, one after the other. -/
inductive SpellsAll : List String → List GlobalOption → Prop where
  | nil : SpellsAll [] []
  | cons {words later : List String} {option : GlobalOption} {options : List GlobalOption} :
      Spells words option → SpellsAll later options → SpellsAll (words ++ later) (option :: options)

/-! ## What several options ask for -/

/-- How often several options ask for more together. -/
def total (options : List GlobalOption) : Nat := (options.map count).sum

def given (options : List GlobalOption) : List String := options.filterMap path?

/-- The path that is chosen when these are given: there may be one, and it is not empty. -/
def chosen : List String → Except CommandLine.Refusal (Option String)
  | [] => .ok none
  | path :: more =>
    if path = "" then .error (.noValue .config)
    else if more = [] then .ok (some path)
    else .error .repeatedConfig

end GlobalOption

end GlyphBook
