/-!
# Colours on a terminal

A text is shown in a colour, or in another weight, by control sequences around it. The end of a
colour sets the colour back; the end of a weight sets everything back, so a weight goes around a
colour and not into it.
-/

namespace EnvSchema.Text

/-- A text with one setting of the terminal switched on before it and off after it. -/
def styled (on off : Nat) (text : String) : String :=
  "\x1b[" ++ toString on ++ "m" ++ text ++ "\x1b[" ++ toString off ++ "m"

/-- Bold. -/
def bold : String → String := styled 1 0

/-- Faint. -/
def dim : String → String := styled 2 0

/-- Red. -/
def red : String → String := styled 31 39

/-- Green. -/
def green : String → String := styled 32 39

/-- Yellow. -/
def yellow : String → String := styled 33 39

/-- Cyan. -/
def cyan : String → String := styled 36 39

end EnvSchema.Text
