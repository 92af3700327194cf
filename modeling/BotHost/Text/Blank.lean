/-
The characters with the Unicode property White_Space, and the ways of cutting a text at them:
trimming both ends and taking the words between.
-/

namespace BotHost.Text

/-- Whether the character has the property White_Space. -/
def isBlank (character : Char) : Bool :=
  let code := character.toNat
  (0x9 ≤ code && code ≤ 0xd) || code == 0x20 || code == 0x85 || code == 0xa0 || code == 0x1680 ||
  (0x2000 ≤ code && code ≤ 0x200a) || code == 0x2028 || code == 0x2029 || code == 0x202f ||
  code == 0x205f || code == 0x3000

/-- The text without the blank characters at its two ends. -/
def trimBlank (text : List Char) : List Char :=
  ((text.dropWhile isBlank).reverse.dropWhile isBlank).reverse

/-- The first word: what stands between the leading blanks and the next blank. -/
def firstWord (text : List Char) : List Char :=
  (text.dropWhile isBlank).takeWhile fun character => !isBlank character

end BotHost.Text
