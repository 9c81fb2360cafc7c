import EdgeCsv.Yaml.Mark

/-!
# Faults of a document

Why a text is no YAML document: the problem and where it was met, and what was being read at the
time and where that started.
-/

namespace EdgeCsv.Yaml

/-- What is wrong with a document. -/
inductive Problem
  /-- A character that may not stand in a document. -/
  | controlCharacter
  -- Directives
  | noDirectiveName
  | badDirectiveName
  | unknownDirective
  | noDirectiveEnd
  | noVersionPoint
  | longVersionNumber
  | noVersionNumber
  | noWhitespace
  | noWhitespaceOrBreak
  | duplicateVersion
  | incompatibleVersion
  | duplicateTagDirective
  -- Anchors and tags
  | noAnchorName
  | noTagMark
  | noTagClose
  | noTagUri
  | noEscapedOctet
  | badLeadingOctet
  | badTrailingOctet
  | undefinedTagHandle
  -- Scalars
  | zeroIndentation
  | noBlockHeaderEnd
  | tabInIndentation
  | tabInPlain
  | documentInsideQuotes
  | endInsideQuotes
  | unknownEscape
  | badHexadecimal
  | badCodePoint
  | colonInPlain
  -- Structure
  | noKeyColon
  | misplacedEntry
  | misplacedKey
  | misplacedValue
  | noToken
  | noDocumentStart
  | noContent
  | noEntry
  | noKey
  | noSequenceComma
  | noMappingComma
  deriving DecidableEq, Repr

/-- The problem in words. -/
def Problem.text : Problem → String
  | .controlCharacter => "control characters are not allowed"
  | .noDirectiveName => "could not find expected directive name"
  | .badDirectiveName => "found unexpected non-alphabetical character"
  | .unknownDirective => "found unknown directive name"
  | .noDirectiveEnd => "did not find expected comment or line break"
  | .noVersionPoint => "did not find expected digit or '.' character"
  | .longVersionNumber => "found extremely long version number"
  | .noVersionNumber => "did not find expected version number"
  | .noWhitespace => "did not find expected whitespace"
  | .noWhitespaceOrBreak => "did not find expected whitespace or line break"
  | .duplicateVersion => "found duplicate %YAML directive"
  | .incompatibleVersion => "found incompatible YAML document"
  | .duplicateTagDirective => "found duplicate %TAG directive"
  | .noAnchorName => "did not find expected alphabetic or numeric character"
  | .noTagMark => "did not find expected '!'"
  | .noTagClose => "did not find the expected '>'"
  | .noTagUri => "did not find expected tag URI"
  | .noEscapedOctet => "did not find URI escaped octet"
  | .badLeadingOctet => "found an incorrect leading UTF-8 octet"
  | .badTrailingOctet => "found an incorrect trailing UTF-8 octet"
  | .undefinedTagHandle => "found undefined tag handle"
  | .zeroIndentation => "found an indentation indicator equal to 0"
  | .noBlockHeaderEnd => "did not find expected comment or line break"
  | .tabInIndentation => "found a tab character where an indentation space is expected"
  | .tabInPlain => "found a tab character that violates indentation"
  | .documentInsideQuotes => "found unexpected document indicator"
  | .endInsideQuotes => "found unexpected end of stream"
  | .unknownEscape => "found unknown escape character"
  | .badHexadecimal => "did not find expected hexadecimal number"
  | .badCodePoint => "found invalid Unicode character escape code"
  | .colonInPlain => "found unexpected ':'"
  | .noKeyColon => "could not find expected ':'"
  | .misplacedEntry => "block sequence entries are not allowed in this context"
  | .misplacedKey => "mapping keys are not allowed in this context"
  | .misplacedValue => "mapping values are not allowed in this context"
  | .noToken => "found character that cannot start any token"
  | .noDocumentStart => "did not find expected <document start>"
  | .noContent => "did not find expected node content"
  | .noEntry => "did not find expected '-' indicator"
  | .noKey => "did not find expected key"
  | .noSequenceComma => "did not find expected ',' or ']'"
  | .noMappingComma => "did not find expected ',' or '\x7d'"

/-- What was being read when a problem was met. -/
inductive Activity
  | directive
  | versionDirective
  | tagDirective
  | tagDirectiveHandle
  | tagDirectiveHandleEnd
  | tagDirectiveUri
  | anchor
  | alias
  | tag
  | tagUri
  | blockScalar
  | quotedScalar
  | quotedEscape
  | plainScalar
  | simpleKey
  | nextToken
  | node
  | blockNode
  | flowNode
  | blockCollection
  | blockMapping
  | flowSequence
  | flowMapping
  deriving DecidableEq, Repr

/-- The activity in words. -/
def Activity.text : Activity → String
  | .directive => "while scanning a directive"
  | .versionDirective => "while scanning a %YAML directive"
  | .tagDirective => "while scanning a %TAG directive"
  | .tagDirectiveHandle => "while scanning a tag directive"
  | .tagDirectiveHandleEnd => "while parsing a tag directive"
  | .tagDirectiveUri => "while parsing a %TAG directive"
  | .anchor => "while scanning an anchor"
  | .alias => "while scanning an alias"
  | .tag => "while scanning a tag"
  | .tagUri => "while parsing a tag"
  | .blockScalar => "while scanning a block scalar"
  | .quotedScalar => "while scanning a quoted scalar"
  | .quotedEscape => "while parsing a quoted scalar"
  | .plainScalar => "while scanning a plain scalar"
  | .simpleKey => "while scanning a simple key"
  | .nextToken => "while scanning for the next token"
  | .node => "while parsing a node"
  | .blockNode => "while parsing a block node"
  | .flowNode => "while parsing a flow node"
  | .blockCollection => "while parsing a block collection"
  | .blockMapping => "while parsing a block mapping"
  | .flowSequence => "while parsing a flow sequence"
  | .flowMapping => "while parsing a flow mapping"

/-- Where a problem was met. -/
inductive Place
  /-- At a place that was read. -/
  | mark (m : Mark)
  /-- Behind this many bytes, in a part that was not read. -/
  | offset (bytes : Nat)
  deriving DecidableEq, Repr

/-- The place in words, if it is mentioned at all. -/
def Place.mention : Place → String
  | .mark m => m.mention
  | .offset 0 => ""
  | .offset n => " at position " ++ toString n

/-- Whether a mark is on the line and column of a place. A place that was not read counts as the
first one. -/
def Place.isAt : Place → Mark → Bool
  | .mark p, m => p.line = m.line && p.column = m.column
  | .offset _, m => m.isFirst

/-- Why a text is no document. -/
structure Fault where
  /-- What is wrong. -/
  problem : Problem
  /-- Where it was met. -/
  place : Place
  /-- What was being read, and where that started. -/
  context : Option (Activity × Mark) := none
  deriving DecidableEq, Repr

namespace Fault

/-- A problem met at a place while something was being read. -/
def within (activity : Activity) (start : Mark) (problem : Problem) (m : Mark) : Fault where
  problem := problem
  place := .mark m
  context := some (activity, start)

/-- A problem met at a place, with nothing to say about what was being read. -/
def bare (problem : Problem) (m : Mark) : Fault where
  problem := problem
  place := .mark m

/-- The context in words, if there is one. The place where it started is left out if it is the place
of the problem. -/
def contextText (f : Fault) : String :=
  match f.context with
  | none => ""
  | some (activity, start) =>
    ", " ++ activity.text ++ if f.place.isAt start then "" else start.mention

/-- The fault in words. -/
def message (f : Fault) : String :=
  f.problem.text ++ f.place.mention ++ f.contextText

end Fault

end EdgeCsv.Yaml
