/-
Why a text is no condition, and how each cause is worded.
-/

import BotHost.Condition.Token

namespace BotHost.Condition

/-- What the grammar asks for at a place where something else stands. -/
inductive Expectation where
  | value
  | memberName
  | openParenthesis
  | closeParenthesis
  | memberOfMessage
  | textOfMessage
  | endOfExpression
deriving DecidableEq, Repr

def Expectation.wording : Expectation → String
  | .value => "a value"
  | .memberName => "a member name"
  | .openParenthesis => "'('"
  | .closeParenthesis => "')'"
  | .memberOfMessage => "'.text' after 'msg'"
  | .textOfMessage => "'text' after 'msg.'"
  | .endOfExpression => "end of expression"

/-- The place of an operand whose type is fixed. -/
inductive OperandPlace where
  | disjunction
  | conjunction
  | negation
  | length
  | test (kind : TextTest)
  | condition
deriving DecidableEq, Repr

def OperandPlace.wording : OperandPlace → String
  | .disjunction => "'||'"
  | .conjunction => "'&&'"
  | .negation => "'!'"
  | .length => "'.length'"
  | .test kind => "'." ++ kind.member ++ "()'"
  | .condition => "a condition"

/-- Conditions have at most this many characters. -/
def greatestLength : Nat := 1024

/-- Parentheses, arguments and negations are nested at most this deep, and no tree is higher. -/
def greatestDepth : Nat := 64

inductive Fault where
  | empty
  | tooLong
  | tooDeep
  | unexpectedCharacter (character : Char) (offset : Nat)
  | unterminatedString (offset : Nat)
  | integerOutOfRange (digits : String)
  | unexpected (expected : Expectation) (found : Option Token)
  | unknownVariable (name : String)
  | unknownMember (name : String)
  | operandType (place : OperandPlace) (expected found : ValueType)
  | comparedTypes (comparison : Comparison) (left right : ValueType)
deriving DecidableEq, Repr

/-- The name of the kind of a fault. -/
def Fault.kind : Fault → String
  | .empty => "Empty"
  | .tooLong => "TooLong"
  | .tooDeep => "TooDeep"
  | .unexpectedCharacter _ _ => "UnexpectedChar"
  | .unterminatedString _ => "UnterminatedString"
  | .integerOutOfRange _ => "IntOutOfRange"
  | .unexpected _ _ => "Unexpected"
  | .unknownVariable _ => "UnknownVariable"
  | .unknownMember _ => "UnknownMember"
  | .operandType _ _ _ | .comparedTypes _ _ _ => "TypeMismatch"

def Fault.message : Fault → String
  | .empty => "empty expression"
  | .tooLong => s!"expression longer than {greatestLength} characters"
  | .tooDeep => s!"expression nested deeper than {greatestDepth} levels"
  | .unexpectedCharacter character offset =>
    "unexpected character '" ++ character.toString ++ "' at offset " ++ toString offset
  | .unterminatedString offset => "unterminated string literal at offset " ++ toString offset
  | .integerOutOfRange digits => "integer literal '" ++ digits ++ "' out of range"
  | .unexpected expected found =>
    let found := match found with
      | some token => token.display
      | none => "end of expression"
    "expected " ++ expected.wording ++ ", found " ++ found
  | .unknownVariable name => "unknown variable '" ++ name ++ "'"
  | .unknownMember name => "unknown member '." ++ name ++ "'"
  | .operandType place expected found =>
    "type mismatch: " ++ place.wording ++ " expects " ++ expected.name ++ ", found " ++ found.name
  | .comparedTypes comparison left right =>
    "type mismatch: cannot compare " ++ left.name ++ " " ++ comparison.symbol ++ " " ++ right.name

end BotHost.Condition
