import EnvConfig.Text.Alphanumeric
import EnvConfig.Text.LetterCase

-- Snake case: the words of a text in lower case, joined by underscores. A word ends at a character that
-- is no letter and no numeral, before an upper case letter that follows a lower case one (`aB` is
-- `a_b`), and before the last of several upper case letters if a lower case one follows (`HTTPServer`
-- is `http_server`).

namespace EnvConfig.Text

namespace SnakeCase

-- The case of the last cased character of the current word. Numerals and caseless letters leave it as
-- it is.
inductive Case where
  | none
  | lower
  | upper
  deriving DecidableEq

def Case.next (mode : Case) (c : Char) : Case :=
  if isLower c then .lower else if isUpper c then .upper else mode

-- Splits a run of letters and numerals into words. `word` holds the current word in reverse.
def words (mode : Case) (word : List Char) : List Char → List (List Char)
  | []      => if word.isEmpty then [] else [word.reverse]
  | [c]     => [(c :: word).reverse]
  | c :: d :: cs =>
    if mode.next c = .lower && isUpper d then
      (c :: word).reverse :: words .none [] (d :: cs)
    else if mode = .upper && isUpper c && isLower d then
      word.reverse :: words .none [c] (d :: cs)
    else
      words (mode.next c) (c :: word) (d :: cs)

-- The maximal runs of letters and numerals.
def alphanumericRuns (run : List Char) : List Char → List (List Char)
  | []      => [run.reverse]
  | c :: cs =>
    if isAlphanumeric c then alphanumericRuns (c :: run) cs else run.reverse :: alphanumericRuns [] cs

-- A sigma that ends its word takes its final form.
def lowerWord : List Char → List Char
  | []      => []
  | ['Σ']   => ['ς']
  | c :: cs => toLower c ++ lowerWord cs

end SnakeCase

open SnakeCase in
def snakeCase (s : List Char) : List Char :=
  let words := (alphanumericRuns [] s).flatMap (words .none [])
  ['_'].intercalate (words.map lowerWord)

end EnvConfig.Text
