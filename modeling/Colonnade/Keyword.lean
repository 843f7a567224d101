import Colonnade.Text.Case
/-!
# Keywords

The eight keywords of the language, known by their lower case, in three categories: `nm`, `dc` and
`wl` carry text, `ar`, `ad` and `rm` work on arrays, `im` and `ex` are commands.
-/

namespace Colonnade

/-- A keyword of the language. -/
inductive Keyword where
  | nm | dc | wl | ar | ad | rm | im | ex
  deriving DecidableEq, Repr

/-- What a keyword's lines produce. -/
inductive Keyword.Category where
  | string | array | command
  deriving DecidableEq, Repr

namespace Keyword

def all : List Keyword := [.nm, .dc, .wl, .ar, .ad, .rm, .im, .ex]

def text : Keyword → String
  | .nm => "nm" | .dc => "dc" | .wl => "wl" | .ar => "ar"
  | .ad => "ad" | .rm => "rm" | .im => "im" | .ex => "ex"

def category : Keyword → Category
  | .nm | .dc | .wl => .string
  | .ar | .ad | .rm => .array
  | .im | .ex => .command

def ofText? (s : String) : Option Keyword := all.find? (fun k => k.text == s)

def lookup? (s : String) : Option Keyword := ofText? (Text.lower s)

/-- Whether a spelling is one of the keywords, so that no handler may take it. -/
def isReserved (s : String) : Bool := (ofText? s).isSome

def Category.text : Category → String
  | .string => "string" | .array => "array" | .command => "command"

theorem ofText?_text (k : Keyword) : ofText? k.text = some k := by
  cases k <;> rfl

end Keyword

end Colonnade
