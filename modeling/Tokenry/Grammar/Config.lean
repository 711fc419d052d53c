import Tokenry.Schema.Load

namespace Tokenry.Grammar

structure TokenConfig where
  name : String
  exact : Option String := none
  regex : Option String := none
  capture : Option Int := none
  doc : Option String := none
  deriving DecidableEq, Repr

structure Config where
  tokens : List TokenConfig := []
  skip : Option String := none
  deriving DecidableEq, Repr

def fieldOf (fields : List (String × Value)) (name : String) : Value :=
  (fields.lookup name).getD .null

def textOf? : Value → Option String
  | .text s => some s
  | _ => none

def intOf? : Value → Option Int
  | .int n => some n
  | _ => none

def TokenConfig.ofFields (fields : List (String × Value)) : TokenConfig where
  name := (textOf? (fieldOf fields "name")).getD ""
  exact := textOf? (fieldOf fields "exact")
  regex := textOf? (fieldOf fields "regex")
  capture := intOf? (fieldOf fields "capture")
  doc := textOf? (fieldOf fields "doc")

def TokenConfig.ofValue? : Value → Option TokenConfig
  | .record _ fields => some (.ofFields fields)
  | _ => none

def Config.ofFields (fields : List (String × Value)) : Config where
  tokens :=
    match fieldOf fields "tokens" with
    | .list items => items.filterMap TokenConfig.ofValue?
    | _ => []
  skip := textOf? (fieldOf fields "skip")

def Config.ofValue : Value → Config
  | .record _ fields => .ofFields fields
  | _ => {}

def TokenConfig.mistake? (t : TokenConfig) : Option String :=
  if t.exact.isNone == t.regex.isNone then
    some s!"token '{t.name}' must set exactly one of 'exact' or 'regex'"
  else if t.exact.isSome && t.capture.isSome then
    some s!"token '{t.name}': 'capture' applies to 'regex' tokens only"
  else none

def repeatedName? (seen : List String) : List TokenConfig → Option String
  | [] => none
  | t :: rest => if seen.contains t.name then some t.name else repeatedName? (t.name :: seen) rest

def Config.mistake? (c : Config) : Option String :=
  match repeatedName? [] c.tokens with
  | some name => some s!"duplicate token name '{name}'"
  | none =>
    match c.skip with
    | some name =>
      if c.tokens.any (·.name == name) then none else some s!"skip token '{name}' is not declared"
    | none => none

def optionalField (name : String) (schema : Schema) : String × FieldRule × Schema :=
  (name, { default := some .null }, .optional schema)

def TokenConfig.schema : Schema :=
  .record "TokenDeclCfg"
    [("name", {}, .text), optionalField "exact" .text, optionalField "regex" .text,
      optionalField "capture" .int, optionalField "doc" .text]
    fun fields ↦ (TokenConfig.ofFields fields).mistake?

def Config.schema : Schema :=
  .record "GrammarCfg"
    [("tokens", { default := some (.list []) }, .list TokenConfig.schema),
      optionalField "skip" .text]
    fun fields ↦ (Config.ofFields fields).mistake?

/-- Loads a configuration from raw data; `source` names the data in messages. -/
def Config.load (source : String) (raw : Value) : Except LoadError Config :=
  (Config.schema.load ⟨source, []⟩ raw).map Config.ofValue

end Tokenry.Grammar
