/-
Quoted texts, as they stand in messages for people: between double quotes, with every character that
has no visible form of its own written as an escape.
-/

import BotHost.Text.Extending
import BotHost.Text.Unprintable

namespace BotHost.Text

/-- The digits of a code point in base sixteen. -/
def hexDigits (code : Nat) : List Char :=
  Nat.toDigits 16 code

/-- A character by its code point. -/
def escapeCode (character : Char) : List Char :=
  ['\\', 'u', '\x7b'] ++ hexDigits character.toNat ++ ['\x7d']

/-- The characters that stand for one character inside quotes. -/
def quoteCharacter (character : Char) : List Char :=
  if character = '"' then ['\\', '"']
  else if character = '\\' then ['\\', '\\']
  else if character = '\n' then ['\\', 'n']
  else if character = '\r' then ['\\', 'r']
  else if character = '\t' then ['\\', 't']
  else if character.toNat = 0 then ['\\', '0']
  else if isExtending character || isUnprintable character then escapeCode character
  else [character]

/-- The text between double quotes. -/
def quoted (text : String) : String :=
  String.ofList ('"' :: text.toList.flatMap quoteCharacter ++ ['"'])

end BotHost.Text
