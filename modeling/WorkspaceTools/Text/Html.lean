import WorkspaceTools.Text.Blank

/-!
# Text of marked-up documents

* `dropTags` leaves out everything from a `<` to the next `>`; a `<` that no `>` follows stays.
* `words` cuts a text at its blanks.
* `stripHtml` gives the words of a document outside its tags, one space between two of them.
-/

namespace WorkspaceTools.Text

/-- Without tags; `opened` holds an unfinished tag, last character first. -/
def dropTagsFrom : (opened : Option (List Char)) → List Char → List Char
  | none, [] => []
  | some tag, [] => tag.reverse
  | none, c :: rest => if c == '<' then dropTagsFrom (some [c]) rest else c :: dropTagsFrom none rest
  | some tag, c :: rest =>
    if c == '>' then dropTagsFrom none rest else dropTagsFrom (some (c :: tag)) rest

/-- Without tags. -/
def dropTags (cs : List Char) : List Char := dropTagsFrom none cs

/-- The words of a text; `word` is the one that has begun, last character first. -/
def wordsFrom : (word : List Char) → List Char → List (List Char)
  | [], [] => []
  | word, [] => [word.reverse]
  | [], c :: rest => if isBlank c then wordsFrom [] rest else wordsFrom [c] rest
  | word, c :: rest => if isBlank c then word.reverse :: wordsFrom [] rest else wordsFrom (c :: word) rest

/-- The longest runs of characters that are no blanks. -/
def words (cs : List Char) : List (List Char) := wordsFrom [] cs

/-- The words outside the tags of a document. -/
def stripHtml (s : String) : String :=
  String.ofList ([' '].intercalate (words (dropTags s.toList)))

end WorkspaceTools.Text
