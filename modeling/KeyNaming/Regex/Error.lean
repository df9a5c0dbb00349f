import KeyNaming.Regex.Syntax
import KeyNaming.Text.Quoted

/-!
Why a text is no regular expression.

A cause is worded here once; where it arose is an offset into the source, and
its line and column are given as well where the source has several lines.
-/

namespace KeyNaming.Regex

/-- A fault of a regular expression. -/
inductive Cause where
  | escapeAtEnd
  | badEscape (escape : Text)
  | incompleteEscape (escape : Text)
  | octalEscapeTooLarge (escape : Text)
  | missingOpeningBrace
  | undefinedCharacterName (name : Text)
  | missingName (kind : Text)
  | unterminatedName (closer : CodePoint)
  | badGroupName (name : Text)
  | unknownGroupName (name : Text)
  | badGroupNumber
  | invalidGroupReference (group : Nat)
  | openGroupReference
  | lookBehindGroupReference
  | groupRedefinition (name : Text) (group previous : Nat)
  | unterminatedSet
  | badRange (first last : Text)
  | minimumAboveMaximum
  | nothingToRepeat
  | multipleRepeat
  | unexpectedEnd
  | unknownExtension (extension : Text)
  | unterminatedComment
  | unterminatedGroup
  | unbalancedParenthesis
  | thirdConditionalBranch
  | lateGlobalFlags
  | byteFlag
  | incompatibleFlags
  | unknownFlag
  | missingFlag
  | missingFlagsEnd
  | missingColon
  | globalFlagTurnedOn
  | globalFlagTurnedOff
  | fixedFlagTurnedOff
  | flagTurnedOnAndOff
  | variableLookBehind
  | looksTooFarBehind
  | repetitionInTemplate (greed : Greed)
deriving DecidableEq

def Greed.name : Greed → Text
  | .greedy => "MAX_REPEAT"
  | .lazy => "MIN_REPEAT"
  | .possessive => "POSSESSIVE_REPEAT"

def Cause.message : Cause → Text
  | .escapeAtEnd => "bad escape (end of pattern)"
  | .badEscape escape => "bad escape " ++ escape
  | .incompleteEscape escape => "incomplete escape " ++ escape
  | .octalEscapeTooLarge escape =>
    "octal escape value " ++ escape ++ " outside of range 0-0o377"
  | .missingOpeningBrace => "missing \x7b"
  | .undefinedCharacterName name => "undefined character name " ++ name.quoted
  | .missingName kind => "missing " ++ kind
  | .unterminatedName closer => "missing " ++ [closer] ++ ", unterminated name"
  | .badGroupName name => "bad character in group name " ++ name.quoted
  | .unknownGroupName name => "unknown group name " ++ name.quoted
  | .badGroupNumber => "bad group number"
  | .invalidGroupReference group => "invalid group reference " ++ Text.ofNat group
  | .openGroupReference => "cannot refer to an open group"
  | .lookBehindGroupReference =>
    "cannot refer to group defined in the same lookbehind subpattern"
  | .groupRedefinition name group previous =>
    "redefinition of group name " ++ name.quoted ++ " as group " ++ Text.ofNat group ++
      "; was group " ++ Text.ofNat previous
  | .unterminatedSet => "unterminated character set"
  | .badRange first last => "bad character range " ++ first ++ "-" ++ last
  | .minimumAboveMaximum => "min repeat greater than max repeat"
  | .nothingToRepeat => "nothing to repeat"
  | .multipleRepeat => "multiple repeat"
  | .unexpectedEnd => "unexpected end of pattern"
  | .unknownExtension extension => "unknown extension " ++ extension
  | .unterminatedComment => "missing ), unterminated comment"
  | .unterminatedGroup => "missing ), unterminated subpattern"
  | .unbalancedParenthesis => "unbalanced parenthesis"
  | .thirdConditionalBranch => "conditional backref with more than two branches"
  | .lateGlobalFlags => "global flags not at the start of the expression"
  | .byteFlag => "bad inline flags: cannot use 'L' flag with a str pattern"
  | .incompatibleFlags => "bad inline flags: flags 'a', 'u' and 'L' are incompatible"
  | .unknownFlag => "unknown flag"
  | .missingFlag => "missing flag"
  | .missingFlagsEnd => "missing -, : or )"
  | .missingColon => "missing :"
  | .globalFlagTurnedOn => "bad inline flags: cannot turn on global flag"
  | .globalFlagTurnedOff => "bad inline flags: cannot turn off global flag"
  | .fixedFlagTurnedOff => "bad inline flags: cannot turn off flags 'a', 'u' and 'L'"
  | .flagTurnedOnAndOff => "bad inline flags: flag turned on and off"
  | .variableLookBehind => "look-behind requires fixed-width pattern"
  | .looksTooFarBehind => "looks too much behind"
  | .repetitionInTemplate greed => "internal: unsupported template operator " ++ greed.name

/-- What stops the reading of a regular expression. -/
inductive Error where
  /-- A fault, and the offset it was found at where there is one. -/
  | rejected (cause : Cause) (position : Option Nat)
  /-- A repetition count that does not fit its field. -/
  | countTooLarge
  /-- The number of a code point that does not fit its field. -/
  | numberTooLarge
  /-- A count of more digits than a number may have. -/
  | numeralTooLong (digits : Nat)
  /-- Both ASCII and Unicode are asked for. -/
  | flagsClash
  /-- Parts are nested deeper than there is room for on the stack. -/
  | tooDeep
deriving DecidableEq

/-- The wording of a fault at an offset of a source: the offset, and the line
and the column where the source has several lines. -/
def positionedMessage (source : Text) (cause : Cause) (position : Nat) : Text :=
  let newline : CodePoint := '\n'
  let before := source.take position
  let line := before.count newline + 1
  let column := (before.reverse.takeWhile (· != newline)).length + 1
  cause.message ++ " at position " ++ Text.ofNat position ++
    if source.contains newline then
      " (line " ++ Text.ofNat line ++ ", column " ++ Text.ofNat column ++ ")"
    else []

end KeyNaming.Regex
