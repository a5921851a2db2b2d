/-
  Text/Terminal.lean --- texts that are safe to show on a terminal.

  A terminal obeys some characters instead of showing them.  A text is shown
  with the codes of these characters in their place, so that nothing it quotes
  can ring, erase what stands before or colour what follows.
-/

set_option autoImplicit false

namespace TypeProjection

/-- Whether a terminal obeys a character: bell, backspace, form feed, escape,
delete and the controls from 0x80 to 0x9f.  Tabs, line breaks and the other
controls are harmless. -/
def isTerminalControl (c : Char) : Bool :=
  c ∈ ['\x07', '\x08', '\x0c', '\x1b', '\x7f'] || (0x80 ≤ c.toNat && c.toNat ≤ 0x9f)

/-- A number below 256 in two digits of base 16. -/
def twoHexDigits (n : Nat) : List Char :=
  [Nat.digitChar (n / 16), Nat.digitChar (n % 16)]

/-- The code of a control character, as it is shown: one form for those that a
byte of a text holds, and one for the others. -/
def controlCode (c : Char) : List Char :=
  if c.toNat < 0x80 then ['\\', 'x'] ++ twoHexDigits c.toNat
  else ['\\', 'u', '\x7b'] ++ twoHexDigits c.toNat ++ ['\x7d']

/-- How one character is shown. -/
def shownCharacter (c : Char) : List Char :=
  if isTerminalControl c then controlCode c else [c]

/-- A text as it is safe to show on a terminal. -/
def terminalSafe (text : String) : String :=
  String.ofList (text.toList.flatMap shownCharacter)

end TypeProjection
