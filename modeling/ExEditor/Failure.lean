import ExEditor.Text.Basic

/-! Why a command fails, and what is shown for it. A failure is a cause; its wording is chosen in one
place, `Failure.message`. -/
namespace ExEditor

/-- What is wrong with the text of a command, or missing for what it asks. -/
inductive Malformed
  | unknownCommand (line : Text)
  | rangeRefused (verb : Text)
  | emptyAddress
  | unexpectedInAddress (c : Char)
  | trailingInAddress (c : Char) (address : Text)
  | numberTooLarge
  | numeralTooLarge (digits : Text)
  | missingMarkName
  | invalidMarkName (name : Text)
  | missingParenthesis
  | incompleteAddress
  | divisionByZero
  | noPreviousSearch
  | badSearchOffset (c : Char)
  | badPattern (pattern : Text)
  | missingDelimiter (delimiter : Char)
  | emptyPattern
  | unsupportedSubstituteFlag (c : Char)
  | noPreviousSubstitution
  | invalidRegister (c : Char)
  | trailingCharacters (rest : Text)
  | unsupportedSortFlag (c : Char)
  | badSortColumn (columns : Text)
  | nothingToPut
  | missingFilterCommand
  | nestedGlobal
  | missingGlobalPattern
  | missingDestination
  | unknownOption (option : Text)
  | invalidShiftWidth (value : Text)
  | noSuchAbbreviation (name : Text)
  | noSuchMapping (name : Text)
  | missingExpansion (name : Text)
  | missingRightHandSide (name : Text)
  | notRecording
  | alreadyRecording (name : Text)
  | invalidMacroName (name : Text)
  | missingMacroName
  | noSuchMacro (name : Text)
  | missingShellCommand
  | noHomeDirectory
  | missingScriptName
  | syntaxState (text : Text)
  | variableWithoutCommand (name : Text)
  | variableWithoutTemplate (name : Text)
  | unterminatedToken (rest : Text)
  | unknownBuiltin (name : Text)
  | badDateFormat (format : Text)
  deriving DecidableEq, Repr

/-- What an address refers to and the buffer does not have. -/
inductive Unresolved
  | markNotSet (name : Char)
  | patternNotFound (pattern : Text)
  deriving DecidableEq, Repr

/-- What was about to run inside itself. -/
inductive Recursion
  | sourcing (path : Text)
  | scriptLine (line : Text)
  | recordedMacro (name : Text)
  | playingMacro (name : Text)
  | templateCycle (name : Text) (chain : List Text)
  | tooDeep
  deriving DecidableEq, Repr

/-- What the surroundings refused. -/
inductive IoFault
  | environmentUnset (name : Text)
  | notADirectory (path : Text)
  | unreadable (path : Text) (reason : Text)
  deriving DecidableEq, Repr

/-- The reason a command failed. -/
inductive Failure
  | invalidRange
  | notEditable
  | malformed (cause : Malformed)
  | unresolved (cause : Unresolved)
  | process (report : Text)
  | recursion (cause : Recursion)
  | cancelled
  | io (cause : IoFault)
  deriving DecidableEq, Repr

/-- The result of a command. -/
inductive Outcome
  | success
  | message (text : Text)
  | failure (cause : Failure)
  deriving DecidableEq, Repr

/-- Wording of a complaint about command text. -/
def Malformed.message : Malformed → Text
  | unknownCommand line => "unknown command: " ++ line
  | rangeRefused verb => verb ++ " does not take a range"
  | emptyAddress => "empty address"
  | unexpectedInAddress c => "unexpected '" ++ c :: "' in address"
  | trailingInAddress c address => "unexpected '" ++ c :: "' in address: " ++ address
  | numberTooLarge => "number too large"
  | numeralTooLarge digits => "number too large: " ++ digits
  | missingMarkName => "missing mark name"
  | invalidMarkName name => "invalid mark name: " ++ name
  | missingParenthesis => "missing ) in address"
  | incompleteAddress => "incomplete address"
  | divisionByZero => "division by zero in address"
  | noPreviousSearch => "no previous search pattern"
  | badSearchOffset c => "bad search offset: " ++ [c]
  | badPattern pattern => "bad pattern " ++ pattern
  | missingDelimiter delimiter => "substitute: missing " ++ [delimiter]
  | emptyPattern => "pattern is empty"
  | unsupportedSubstituteFlag c => "unsupported substitute flag: " ++ [c]
  | noPreviousSubstitution => "no previous substitution"
  | invalidRegister c => "invalid register: " ++ [c]
  | trailingCharacters rest => "trailing characters: " ++ rest
  | unsupportedSortFlag c => "unsupported sort flag: " ++ [c]
  | badSortColumn columns => "bad sort column: " ++ columns
  | nothingToPut => "nothing to put"
  | missingFilterCommand => "missing filter command"
  | nestedGlobal => "global cannot be nested"
  | missingGlobalPattern => "global: missing pattern"
  | missingDestination => "missing destination"
  | unknownOption option => "unknown option: " ++ option
  | invalidShiftWidth value => "invalid shiftwidth: " ++ value
  | noSuchAbbreviation name => "no such abbreviation: " ++ name
  | noSuchMapping name => "no such mapping: " ++ name
  | missingExpansion name => "abbreviate: missing expansion for " ++ name
  | missingRightHandSide name => "map: missing right-hand side for " ++ name
  | notRecording => "not recording"
  | alreadyRecording name => "already recording " ++ name
  | invalidMacroName name => "invalid macro name: " ++ name
  | missingMacroName => "missing macro name"
  | noSuchMacro name => "no macro named " ++ name
  | missingShellCommand => "missing shell command"
  | noHomeDirectory => "no home directory"
  | missingScriptName => "missing script name"
  | syntaxState text => "syntax: expected on or off, got " ++ text
  | variableWithoutCommand name => "variable " ++ name ++ " has no command"
  | variableWithoutTemplate name => "variable " ++ name ++ " has no template"
  | unterminatedToken rest => "unterminated @ in template: " ++ rest
  | unknownBuiltin name => "unknown builtin variable: " ++ name
  | badDateFormat format => "bad date format: " ++ format

/-- Wording of what could not be resolved. -/
def Unresolved.message : Unresolved → Text
  | markNotSet name => "mark " ++ name :: " not set"
  | patternNotFound pattern => "pattern not found: " ++ pattern

/-- Wording of what would have run inside itself. -/
def Recursion.message : Recursion → Text
  | sourcing path => path ++ " is already being sourced"
  | scriptLine line => "script runs itself: " ++ line
  | recordedMacro name => "macro " ++ name ++ " is being recorded"
  | playingMacro name => "macro " ++ name ++ " is already playing"
  | templateCycle name chain => "variable " ++ name ++ " (" ++ Text.join " -> " chain ++ ")"
  | tooDeep => "too many nested commands"

/-- Wording of what the surroundings refused. -/
def IoFault.message : IoFault → Text
  | environmentUnset name => "environment variable " ++ name ++ " is not set"
  | notADirectory path => "not a directory: " ++ path
  | unreadable path reason => path ++ ": " ++ reason

/-- What is shown for a failure. -/
def Failure.message : Failure → Text
  | invalidRange => "invalid range"
  | notEditable => "buffer is read-only or binary"
  | malformed cause => cause.message
  | unresolved cause => "address unresolved: " ++ cause.message
  | process report => report
  | recursion cause => "recursion detected: " ++ cause.message
  | cancelled => "cancelled"
  | io cause => cause.message

namespace Outcome

/-- Whether the command failed. -/
def isFailure : Outcome → Bool
  | failure _ => true
  | _ => false

/-- The text to show for a result, if any. -/
def shown : Outcome → Option Text
  | success => none
  | message text => some text
  | failure cause => some cause.message

end Outcome

/-- A count with its noun: "1 line", "3 lines". -/
def plural (count : Nat) (noun : Text) : Text :=
  Text.ofNat count ++ ' ' :: noun ++ if count = 1 then [] else ['s']

end ExEditor
