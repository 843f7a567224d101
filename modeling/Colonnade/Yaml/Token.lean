import Colonnade.Yaml.Error
/-!
# Tokens of a YAML text

The tokens that a YAML text is cut into: the start and end of the stream, directives, the
markers of documents, the starts and ends of blocks and flows, the indicators of keys, values and
entries, aliases, anchors, tags and scalars. Each token has the places where it begins and ends.
A token's name is what messages call it when it is not the one expected.
-/

namespace Colonnade.Yaml

/-- The value of a directive: a version of YAML, a tag handle with its prefix, or nothing read. -/
inductive DirectiveValue where
  | version (major minor : Nat)
  | tag (handle pfx : String)
  | none
  deriving Repr, Inhabited

/-- The kinds of token. A scalar carries its text, whether it is plain, its style (a quote or a
block indicator) and whether an escape in it named a lone surrogate. -/
inductive TokenKind where
  | streamStart
  | streamEnd
  | directive (name : String) (value : DirectiveValue)
  | documentStart
  | documentEnd
  | blockSequenceStart
  | blockMappingStart
  | blockEnd
  | flowSequenceStart
  | flowMappingStart
  | flowSequenceEnd
  | flowMappingEnd
  | key
  | value
  | blockEntry
  | flowEntry
  | alias (name : String)
  | anchor (name : String)
  | tag (handle : Option String) (suffix : String)
  | scalar (text : String) (plain : Bool) (style : Option Char) (unpaired : Bool)
  deriving Repr, Inhabited

/-- A token with the places where it begins and ends. -/
structure Token where
  kind : TokenKind
  start : Mark
  stop : Mark
  deriving Repr, Inhabited

namespace TokenKind

def name : TokenKind → String
  | .streamStart => "<stream start>"
  | .streamEnd => "<stream end>"
  | .directive .. => "<directive>"
  | .documentStart => "<document start>"
  | .documentEnd => "<document end>"
  | .blockSequenceStart => "<block sequence start>"
  | .blockMappingStart => "<block mapping start>"
  | .blockEnd => "<block end>"
  | .flowSequenceStart => "["
  | .flowMappingStart => "\x7b"
  | .flowSequenceEnd => "]"
  | .flowMappingEnd => "\x7d"
  | .key => "?"
  | .value => ":"
  | .blockEntry => "-"
  | .flowEntry => ","
  | .alias _ => "<alias>"
  | .anchor _ => "<anchor>"
  | .tag .. => "<tag>"
  | .scalar .. => "<scalar>"

/-- Whether two token kinds are the same kind, whatever they carry. -/
def sameAs (a b : TokenKind) : Bool := a.name == b.name

end TokenKind

end Colonnade.Yaml
