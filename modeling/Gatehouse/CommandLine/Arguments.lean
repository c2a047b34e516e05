/-
  Reading the words of a command line.

  A word that begins with two hyphens names an option, perhaps with its value after an equals sign;
  otherwise the value is the next word.  A value in a word of its own is taken in only when the
  next option comes or the words end, so what is wrong with a word is found before what is wrong
  with the value before it.  Settings that are not given are then looked for in variables.
-/
import Gatehouse.CommandLine.Setting

namespace Gatehouse.CommandLine

/-! ## Words -/

/-- A word, told by its form. -/
inductive Word where
  /-- Two hyphens: no options follow. -/
  | separator
  /-- An option, and what follows an equals sign. -/
  | long (name : String) (attached : Option String)
  /-- Letters after one hyphen. -/
  | short (first : Char) (rest : List Char)
  /-- Anything else. -/
  | plain
deriving DecidableEq, Repr

/-- The text after the first equals sign. -/
def attachedValue? (l : List Char) : Option String :=
  match l.dropWhile (· != '=') with
  | [] => none
  | _ :: value => some (String.ofList value)

/-- The form of a word. -/
def Word.ofText (text : String) : Word :=
  match text.toList with
  | ['-', '-'] => separator
  | '-' :: '-' :: l => long (String.ofList (l.takeWhile (· != '='))) (attachedValue? l)
  | '-' :: first :: rest => short first rest
  | _ => plain

/-- Tells whether characters go on with a number.  `point` tells whether a point may still come, and
`exponent` whether an exponent may. -/
def continuesNumber (point exponent : Bool) : List Char → Bool
  | [] => true
  | c :: rest =>
    if c.isDigit then continuesNumber point exponent rest
    else if c = '.' then point && continuesNumber false exponent rest
    else if c = 'e' ∨ c = 'E' then exponent && !rest.isEmpty && continuesNumber false false rest
    else false

/-- Tells whether letters after a hyphen are a number. -/
def isNumber (first : Char) (rest : List Char) : Bool :=
  first.isDigit && continuesNumber true true rest

/-! ## Progress -/

/-- Why the words give no settings. -/
inductive Stop where
  /-- Help was asked for. -/
  | help
  /-- They are wrong. -/
  | misuse (m : Misuse)
deriving DecidableEq, Repr

/-- The settings that have been given, each with its value. -/
abbrev Given : Type := (s : Setting) → Option s.Value

/-- The settings with one more. -/
def Given.insert (g : Given) (s : Setting) (x : s.Value) : Given := fun t =>
  if h : s = t then some (h ▸ x) else g t

/-- Takes in the text of a setting that has not been given before. -/
def Given.accept (g : Given) (s : Setting) (text : String) : Except Misuse Given := do
  if (g s).isSome then throw (.repeated s.label)
  return g.insert s (← s.read text)

/-- What has become of the words read so far. -/
structure Progress where
  /-- The settings that were taken in. -/
  given : Given := fun _ => none
  /-- The option that was named last and is not taken in yet, with its value if that is known. -/
  pending : Option (Setting × Option String) := none

namespace Progress

/-- Takes in the option that is pending. -/
def settle (p : Progress) : Except Misuse Given :=
  match p.pending with
  | none => .ok p.given
  | some (s, none) => .error (.valueMissing s.label)
  | some (s, some text) => p.given.accept s text

/-- Takes in the option that is pending, and then a setting with this text. -/
def accept (p : Progress) (s : Setting) (text : String) : Except Misuse Progress := do
  return { given := ← (← p.settle).accept s text }

/-- Takes a word as the value of the option before it. -/
def value (p : Progress) (word : String) : Except Misuse Progress :=
  match p.pending with
  | some (s, none) => .ok { p with pending := some (s, some word) }
  | _ => .error (.unexpected word)

/-- Takes an option. -/
def option (p : Progress) (s : Setting) (attached : Option String) : Except Misuse Progress :=
  match attached, s.takesValue with
  | some text, true => p.accept s text
  | some text, false => .error (.unneeded text s.label)
  | none, true => do return { given := ← p.settle, pending := some (s, none) }
  | none, false => p.accept s "true"

/-- Answers a request for help, once everything before it is found right. -/
def help {α : Type} (p : Progress) : Except Stop α :=
  match p.settle with
  | .ok _ => .error .help
  | .error m => .error (.misuse m)

/-- Takes an option by its name. -/
def long (p : Progress) (name : String) (attached : Option String) : Except Stop Progress :=
  match Setting.ofName? name, attached with
  | some s, _ => (p.option s attached).mapError .misuse
  | none, some text =>
    .error (.misuse (if name = "help" then .unneeded text "--help" else .unexpected ("--" ++ name)))
  | none, none =>
    if name = "help" then p.help else .error (.misuse (.unexpected ("--" ++ name)))

/-- Tells whether the option before a word may have a negative number as its value. -/
def awaitsNumber (p : Progress) : Bool :=
  match p.pending with
  | some (s, none) => s.takesNegative
  | _ => false

/-- Takes letters after one hyphen. -/
def short (p : Progress) (first : Char) (rest : List Char) (word : String) :
    Except Stop Progress :=
  if p.awaitsNumber && isNumber first rest then (p.value word).mapError .misuse
  else if first = 'h' then p.help
  else .error (.misuse (.unexpected (String.ofList ['-', first])))

/-- Takes a word. -/
def word (p : Progress) (text : String) : Except Stop Progress :=
  match Word.ofText text with
  | .long name attached => p.long name attached
  | .short first rest => p.short first rest text
  | .separator | .plain => (p.value text).mapError .misuse

end Progress

/-- Reads the words of a command line.  After two hyphens no word may follow. -/
def readWords : List String → Progress → Except Stop Given
  | [], p => p.settle.mapError .misuse
  | text :: rest, p =>
    if text = "--" then
      match rest with
      | [] => p.settle.mapError .misuse
      | extra :: _ => .error (.misuse (.unexpected extra))
    else
      match p.word text with
      | .ok p => readWords rest p
      | .error e => .error e

/-! ## Variables -/

/-- Looks in variables for the settings that are not given yet. -/
def fill (vars : Variables) : List Setting → Given → Except Misuse Given
  | [], g => .ok g
  | s :: rest, g =>
    match g s, vars s.source with
    | none, some text => do fill vars rest (g.insert s (← s.read text))
    | _, _ => fill vars rest g

/-! ## Options -/

/-- What the command line and the variables settle. -/
structure Options where
  /-- The settings of the server, not checked yet. -/
  config : ServerConfig
  /-- The greatest number of database connections. -/
  maxConnections : Nat
deriving DecidableEq, Repr

/-- The number of database connections if none is chosen. -/
def defaultConnections : Nat := 10

/-- The options with defaults for what is not given.  Only the signing key has none. -/
def Given.options (g : Given) : Except Misuse Options :=
  match g .secret with
  | none => .error (.required (Setting.label .secret))
  | some secret => .ok {
      config := {
        bindAddress := (g .bindAddress).getD defaultBindAddress
        databaseUrl := (g .databaseUrl).getD defaultDatabaseUrl
        tokens := {
          secret
          issuer := (g .issuer).getD defaultIssuer
          expirationHours := (g .expirationHours).getD defaultExpirationHours
          refreshDays := (g .refreshDays).getD defaultRefreshDays }
        rateLimit := normalizeRateLimit ((g .rateLimit).getD defaultRateLimit)
        resetUrl := (g .resetUrl).getD defaultResetUrl
        trustProxy := (g .trustProxy).getD false }
      maxConnections := (g .maxConnections).getD defaultConnections }

/-- The options that words and variables settle. -/
def Options.read (words : List String) (vars : Variables) : Except Stop Options := do
  let given ← readWords words {}
  Except.mapError .misuse do (← fill vars Setting.all given).options

end Gatehouse.CommandLine
