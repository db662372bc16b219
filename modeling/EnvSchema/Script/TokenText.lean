import EnvSchema.Number.Shortest
import EnvSchema.Script.Numeral
import EnvSchema.Script.Token

/-!
# Tokens in diagnostics

A diagnostic that says which token was found shows a word or a mark as it is written, and any other
token by its kind and what it is made of.

* `Token.shown` — a token as a diagnostic shows it.
-/

namespace EnvSchema.Script.Token

/-- **A token as a diagnostic shows it.** -/
def shown : Token → String
  | word text => text
  | mark text => text
  | string value raw => "string literal (" ++ value ++ ", " ++ raw ++ ")"
  | number raw => "numeric literal (" ++ Number.plain (numeralValue raw) ++ ", " ++ raw ++ ")"
  | bigint raw => "bigint literal (" ++ toString (bigNumeralValue raw) ++ ", " ++ raw ++ ")"
  | regexp body flags => "regexp literal (" ++ body ++ ", " ++ flags ++ ")"
  | template raw _ => "template token (" ++ raw ++ ")"
  | elementName name => "jsx name (" ++ name ++ ")"
  | elementText _ raw => "jsx text (" ++ raw ++ ")"
  | tagStart => "< (jsx tag start)"
  | tagEnd => "> (jsx tag end)"
  | hashbang _ => "#!"
  | faulty d => d.fault.message

end EnvSchema.Script.Token
