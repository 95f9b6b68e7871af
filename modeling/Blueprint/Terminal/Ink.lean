/-!
# Colors

Text is colored by escape sequences around it. `muted` ink writes the sequences without their
colors, as the environment may ask for; `plain` ink writes none.
-/

namespace Blueprint.Terminal

/-- What a color says. -/
inductive Tone where
  | success
  | error
  | warning
  | info
  | dim
  deriving DecidableEq, Inhabited

inductive Ink where
  | plain
  | colored
  | muted
  deriving DecidableEq, Inhabited

/-- How a terminal is written to. -/
structure Look where
  ink : Ink
  unicode : Bool
  deriving DecidableEq, Inhabited

namespace Tone

/-- The number of the color in the terminal's palette. -/
def code : Tone → String
  | .success => "10"
  | .error => "9"
  | .warning => "11"
  | .info => "14"
  | .dim => "8"

end Tone

/-- An escape sequence with the given parameters. -/
def escape (parameters : String) : String := "\x1b[" ++ parameters ++ "m"

namespace Ink

def foreground : Ink → Tone → String
  | .plain, _ => ""
  | .colored, t => escape ("38;5;" ++ t.code)
  | .muted, _ => escape ""

def default : Ink → String
  | .plain => ""
  | .colored => escape "39"
  | .muted => escape ""

def ofBool (color : Bool) : Ink := if color then .colored else .plain

end Ink

def paint (ink : Ink) (tone : Tone) (text : String) : String :=
  ink.foreground tone ++ text ++ ink.default

def paintBold (ink : Ink) (tone : Tone) (text : String) : String :=
  match ink with
  | .plain => text
  | ink => ink.foreground tone ++ escape "1" ++ text ++ escape "0"

/-- A text with a tone, which is shown when there is color. -/
structure Styled where
  text : String
  tone : Tone
  bold : Bool
  deriving DecidableEq

def Styled.render (s : Styled) (ink : Ink) : String :=
  if s.bold then paintBold ink s.tone s.text else paint ink s.tone s.text

end Blueprint.Terminal
