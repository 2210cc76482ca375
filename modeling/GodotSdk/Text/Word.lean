import GodotSdk.Text.Case
import GodotSdk.Text.Word.Table

/-!
# Words of a name

A name in any style falls into words at characters that are neither letters nor numbers
and where its case changes. Its snake case joins the lower case of those words with
underscores.
-/

namespace GodotSdk.Text

def isAlphanumeric (char : Char) : Bool :=
  alphanumerics.contains char

def isUppercase (char : Char) : Bool :=
  uppercases.contains char

def isLowercase (char : Char) : Bool :=
  lowercases.contains char

/-- What the characters of the current word have been so far. Characters without case
leave it as it is. -/
inductive WordCase
  | fresh
  | lower
  | upper
deriving DecidableEq, Repr

/-- The case of a word after one more character. -/
def WordCase.next (current : WordCase) (char : Char) : WordCase :=
  if isLowercase char then .lower
  else if isUppercase char then .upper
  else current

/-- The words of a run of letters and numbers, where `reversed` holds the current word
so far. A word ends after a lower-case character that an upper-case one follows, and
before the last of several upper-case characters that a lower-case one follows. -/
def wordsFrom (state : WordCase) (reversed : List Char) : List Char → List (List Char)
  | [] => []
  | [char] => [(char :: reversed).reverse]
  | char :: follower :: rest =>
      if state.next char = .lower && isUppercase follower then
        (char :: reversed).reverse :: wordsFrom .fresh [] (follower :: rest)
      else if state = .upper && isUppercase char && isLowercase follower then
        reversed.reverse :: wordsFrom .fresh [char] (follower :: rest)
      else
        wordsFrom (state.next char) (char :: reversed) (follower :: rest)

/-- The maximal runs of letters and numbers, possibly empty, where `reversed` holds the
current one. -/
def runsFrom (reversed : List Char) : List Char → List (List Char)
  | [] => [reversed.reverse]
  | char :: rest =>
      if isAlphanumeric char then runsFrom (char :: reversed) rest
      else reversed.reverse :: runsFrom [] rest

/-- The words of a name. -/
def words (name : List Char) : List (List Char) :=
  (runsFrom [] name).flatMap (wordsFrom .fresh [])

/-- The lower case of a word, character by character. Only a capital sigma in last place
is final. -/
def lowerWord : List Char → List Char
  | [] => []
  | ['Σ'] => ['ς']
  | char :: rest => lowerChar char ++ lowerWord rest

/-- The snake case of a name. -/
def snakeCase (name : String) : String :=
  String.ofList (List.intercalate ['_'] ((words name.toList).map lowerWord))

end GodotSdk.Text
