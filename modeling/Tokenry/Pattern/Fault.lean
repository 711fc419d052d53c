import Tokenry.Text.Literal

namespace Tokenry.Pattern

inductive Reason where
  | danglingEscape
  | unterminatedGroup
  | unterminatedSet
  | unterminatedComment
  | unbalanced
  | nothingToRepeat
  | multipleRepeat
  | reversedRepeat
  | badRange (low high : String)
  | badEscape (escape : String)
  | incompleteEscape (escape : String)
  | octalTooLarge (escape : String)
  | missingBrace
  | missingCharacterName
  | undefinedCharacter (name : String)
  | invalidReference (index : Nat)
  | openGroup
  | sameLookBehind
  | unknownGroup (name : String)
  | missingName
  | badName (name : String)
  | unterminatedName (closing : Char)
  | redefinedGroup (name : String) (index first : Nat)
  | unexpectedEnd
  | unknownExtension (text : String)
  | badGroupNumber
  | tooManyBranches
  | misplacedFlags
  | missingFlagEnd
  | missingFlag
  | missingColon
  | unknownFlag
  | localeFlag
  | mixedAlphabets
  | globalFlagOn
  | globalFlagOff
  | alphabetOff
  | flagOnAndOff
  | variableLookBehind
  | farLookBehind
  deriving DecidableEq, Repr

def Reason.message : Reason → String
  | .danglingEscape => "bad escape (end of pattern)"
  | .unterminatedGroup => "missing ), unterminated subpattern"
  | .unterminatedSet => "unterminated character set"
  | .unterminatedComment => "missing ), unterminated comment"
  | .unbalanced => "unbalanced parenthesis"
  | .nothingToRepeat => "nothing to repeat"
  | .multipleRepeat => "multiple repeat"
  | .reversedRepeat => "min repeat greater than max repeat"
  | .badRange low high => "bad character range " ++ low ++ "-" ++ high
  | .badEscape escape => "bad escape " ++ escape
  | .incompleteEscape escape => "incomplete escape " ++ escape
  | .octalTooLarge escape => "octal escape value " ++ escape ++ " outside of range 0-0o377"
  | .missingBrace => "missing \x7b"
  | .missingCharacterName => "missing character name"
  | .undefinedCharacter name => "undefined character name " ++ Text.Literal.encode name
  | .invalidReference index => "invalid group reference " ++ toString index
  | .openGroup => "cannot refer to an open group"
  | .sameLookBehind => "cannot refer to group defined in the same lookbehind subpattern"
  | .unknownGroup name => "unknown group name " ++ Text.Literal.encode name
  | .missingName => "missing group name"
  | .badName name => "bad character in group name " ++ Text.Literal.encode name
  | .unterminatedName closing => "missing " ++ closing.toString ++ ", unterminated name"
  | .redefinedGroup name index first =>
    "redefinition of group name " ++ Text.Literal.encode name ++ " as group " ++ toString index
      ++ "; was group " ++ toString first
  | .unexpectedEnd => "unexpected end of pattern"
  | .unknownExtension text => "unknown extension " ++ text
  | .badGroupNumber => "bad group number"
  | .tooManyBranches => "conditional backref with more than two branches"
  | .misplacedFlags => "global flags not at the start of the expression"
  | .missingFlagEnd => "missing -, : or )"
  | .missingFlag => "missing flag"
  | .missingColon => "missing :"
  | .unknownFlag => "unknown flag"
  | .localeFlag => "bad inline flags: cannot use 'L' flag with a str pattern"
  | .mixedAlphabets => "bad inline flags: flags 'a', 'u' and 'L' are incompatible"
  | .globalFlagOn => "bad inline flags: cannot turn on global flag"
  | .globalFlagOff => "bad inline flags: cannot turn off global flag"
  | .alphabetOff => "bad inline flags: cannot turn off flags 'a', 'u' and 'L'"
  | .flagOnAndOff => "bad inline flags: flag turned on and off"
  | .variableLookBehind => "look-behind requires fixed-width pattern"
  | .farLookBehind => "looks too much behind"

inductive Fault where
  | malformed (reason : Reason) (position : Option Nat)
  | repetitionTooLarge
  | alphabetsClash
  deriving DecidableEq, Repr

def lineAndColumn (text : List Char) (position : Nat) : Nat × Nat :=
  let before := text.take position
  let line := (before.filter (· == '\n')).length + 1
  let column := (before.reverse.takeWhile (· != '\n')).length + 1
  (line, column)

/-- A reason with its place; the line is told only for texts of several lines. -/
def Reason.describe (reason : Reason) (position : Option Nat) (text : List Char) : String :=
  match position with
  | none => reason.message
  | some p =>
    let placed := reason.message ++ " at position " ++ toString p
    if text.contains '\n' then
      let (line, column) := lineAndColumn text p
      placed ++ " (line " ++ toString line ++ ", column " ++ toString column ++ ")"
    else placed

end Tokenry.Pattern
