import ThemeLint.Text.Wide

set_option autoImplicit false

namespace ThemeLint.Yaml

/-- Why a text has no tokens, or its tokens no nodes. Two kinds of faults are told apart from every
other error: numbers out of range, of characters or in a version, and nodes that lie too deep. -/
inductive Malformed where
  | grammar
  | tooDeep
  | noSuchCharacter
  | codeTooLarge
  | tooManyDigits (count : Nat)
  deriving DecidableEq, Repr

structure TagName where
  handle : Option String
  suffix : String
  deriving DecidableEq, Repr

inductive Directive where
  | version (major minor : Nat)
  | tag (handle : String) (beginning : String)
  | other
  deriving DecidableEq, Repr

inductive Token where
  | directive (d : Directive)
  | documentStart
  | documentEnd
  | blockSequenceStart
  | blockMappingStart
  | blockEnd
  | flowSequenceStart
  | flowSequenceEnd
  | flowMappingStart
  | flowMappingEnd
  | blockEntry
  | flowEntry
  | key
  | value
  | alias (name : String)
  | anchor (name : String)
  | tag (name : TagName)
  | scalar (text : WideText) (plain : Bool)
  | streamEnd
  | fault (why : Malformed)
  deriving DecidableEq, Repr

end ThemeLint.Yaml
