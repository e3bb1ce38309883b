import GlyphBook.Text.CaseFold

/-!
# Media types by file extension

A file whose bytes tell nothing is judged by its name. The extension is what stands behind the last
dot of the name, provided something stands before that dot; it is looked up without regard to case.
Which media type it stands for is a matter of convention, so the table of extensions is given from
outside.
-/

namespace GlyphBook

namespace Extension

/-- The last name of a path. Slashes at the end and names that stay in the same directory do not
count, and a path that ends by going up has none. -/
def fileName? (path : String) : Option String :=
  match ((path.splitOn "/").filter fun name => name ≠ "" && name ≠ ".").getLast? with
  | some ".." => none
  | name => name

/-- The extension of a file name. -/
def ofName? (name : String) : Option String :=
  let reversed := name.toList.reverse
  match reversed.dropWhile (· ≠ '.') with
  | [] => none
  | [_] => none
  | _ => some (String.ofList (reversed.takeWhile (· ≠ '.')).reverse)

/-- The extension of the file that a path names. -/
def ofPath? (path : String) : Option String := (fileName? path).bind ofName?

/-- A table of extensions: each row has a media type, in lower case and without parameters, and
the extensions that stand for it, words in ASCII none of which is empty. Where two rows have the
same extension the first one counts. -/
structure Table where
  rows : List (String × List String)

/-- The media type that an extension stands for by a table. -/
def Table.mime? (table : Table) (extension : String) : Option String :=
  let word := CaseFold.foldWord extension
  (table.rows.find? fun (_, extensions) =>
    extensions.any fun listed => CaseFold.foldWord listed == word).map Prod.fst

end Extension

end GlyphBook
