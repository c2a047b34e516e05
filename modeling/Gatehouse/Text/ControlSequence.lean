/-
  Text without the commands that steer a terminal.

  An escape character begins a command: a sequence of parameters and a letter, a string for a
  device, a title, or a single character.  What is printed for a person to read must not steer the
  terminal, so `visible` leaves out commands and control characters.  Of the controls only white
  space stays.

  White space is shown also in the middle of a command, and then what follows it is shown as well,
  up to the next control character, where the command goes on.
-/

namespace Gatehouse.Text

/-- Where the reading of a text with commands stands. -/
inductive Steering where
  /-- Outside of commands. -/
  | outside
  /-- After an escape character. -/
  | escape
  /-- After an escape character and punctuation. -/
  | intermediate
  /-- In a sequence, which a letter ends. -/
  | sequence
  /-- At the beginning of a string for a device. -/
  | device
  /-- After parameters at the beginning of a string for a device. -/
  | deviceParameter
  /-- After punctuation at the beginning of a string for a device. -/
  | deviceIntermediate
  /-- In a string, which nothing visible ends. -/
  | string
  /-- In a title, which the bell ends. -/
  | title
deriving DecidableEq, Repr

namespace Steering

/-- Tells whether the code of a character lies between two others, ends included. -/
def within (c first last : Char) : Bool := first ≤ c && c ≤ last

/-- What a character begins that follows an escape character and is no punctuation. -/
def opened (c : Char) : Steering :=
  if c = '[' then sequence
  else if c = ']' then title
  else if c = 'P' then device
  else if c = 'X' ∨ c = '^' ∨ c = '_' then string
  else outside

/-- What a visible ASCII character does to a command. -/
def onVisible (s : Steering) (c : Char) : Steering :=
  match s with
  | outside => outside
  | escape => if within c ' ' '/' then intermediate else opened c
  | intermediate => if within c ' ' '/' then intermediate else outside
  | sequence => if within c '@' '~' then outside else sequence
  | device =>
    if within c ' ' '/' then deviceIntermediate
    else if within c '0' '?' then deviceParameter
    else string
  | deviceParameter =>
    if within c ' ' '/' then deviceIntermediate
    else if within c '0' ';' then deviceParameter
    else string
  | deviceIntermediate => if within c ' ' '/' then deviceIntermediate else string
  | string => string
  | title => title

/-- What a control character does to a command. -/
def onControl (s : Steering) (c : Char) : Steering :=
  if c = '\x1b' then escape
  else if c = '\x18' ∨ c = '\x1a' then outside
  else if c = '\x07' ∧ s = title then outside
  else s

/-- What a character beyond ASCII does to a command: a string ends if one of its bytes is that of
the string terminator. -/
def onWide (s : Steering) (c : Char) : Steering :=
  if s = string ∧ 0x9c ∈ String.utf8EncodeChar c then outside else s

/-- Tells whether white space is shown in a command. -/
def showsSpace : Steering → Bool
  | outside | escape | intermediate | sequence => true
  | _ => false

end Steering

/-- Tells whether a character is a control that is shown all the same. -/
def isShownControl (c : Char) : Bool := c = '\t' || c = '\n' || c = '\x0c' || c = '\r'

/-- Tells whether a character is a control of ASCII. -/
def isControl (c : Char) : Bool := c < ' ' || c = '\x7f'

/-- What is shown of characters.  `run` tells whether the character before was shown. -/
def visibleChars (run : Bool) (s : Steering) : List Char → List Char
  | [] => []
  | c :: rest =>
    if 0x80 ≤ c.toNat then
      if run || s = .outside then c :: visibleChars true .outside rest
      else visibleChars false (s.onWide c) rest
    else if isShownControl c then
      if run || s.showsSpace then c :: visibleChars true s rest else visibleChars false s rest
    else if isControl c then visibleChars false (s.onControl c) rest
    else if run || s = .outside then c :: visibleChars true s rest
    else visibleChars false (s.onVisible c) rest

/-- What is shown of a text. -/
def visible (s : String) : String := String.ofList (visibleChars false .outside s.toList)

/-- A text without control characters is shown as it is. -/
theorem visibleChars_eq_self {l : List Char} (h : ∀ c ∈ l, isControl c = false) (run : Bool) :
    visibleChars run .outside l = l := by
  induction l generalizing run with
  | nil => rfl
  | cons c rest ih =>
    have hc := h c (by simp)
    have hs : isShownControl c = false := by
      simp only [isControl, Bool.or_eq_false_iff, decide_eq_false_iff_not] at hc
      simp only [isShownControl, Bool.or_eq_false_iff, decide_eq_false_iff_not]
      refine ⟨⟨⟨?_, ?_⟩, ?_⟩, ?_⟩ <;> rintro rfl <;> exact hc.1 (by decide)
    have ih := ih fun d hd => h d (by simp [hd])
    by_cases hw : 0x80 ≤ c.toNat <;> simp [visibleChars, hw, hs, hc, ih]

example : visible "a\x1b[31mb\x1b]0;t\x07c\x07" = "abc" := by decide

end Gatehouse.Text
