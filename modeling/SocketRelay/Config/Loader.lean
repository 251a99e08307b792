import SocketRelay.Config.Error
import SocketRelay.Config.Validation

/-!
# Loading

Loading reads a configuration and puts it before validators in order. The first
validator that finds an error ends the loading; the warnings found up to then
are handed on in any case.
-/

namespace SocketRelay.Config

open Net

/-- What a file path leads to. -/
inductive FileContent where
  | absent
  | unreadable (cause : IoError)
  | bytes (content : ByteArray)

/-- The validators every configuration has to pass. -/
def standard : List Validator := [basic, portConflicts]

/-- What validation says: the warnings in order, and the error if one was found. -/
structure Verdict where
  warnings : List Issue
  result : Except ConfigError Unit

/-- Puts a configuration before validators, up to the first that finds an error. -/
def validate (c : Config) : List Validator → Verdict
  | [] => ⟨[], .ok ()⟩
  | v :: vs =>
    let report := v c
    if report.isValid then
      let verdict := validate c vs
      ⟨report.warnings ++ verdict.warnings, verdict.result⟩
    else ⟨report.warnings, .error (.rejected report.summary)⟩

/-- What loading says. -/
structure Loaded where
  warnings : List Issue
  result : Except ConfigError Config

/-- A parsed configuration with the verdict of validators. -/
def Loaded.of (validators : List Validator) : Except ConfigError Config → Loaded
  | .error e => ⟨[], .error e⟩
  | .ok c =>
    let verdict := validate c validators
    ⟨verdict.warnings, verdict.result.map fun () => c⟩

/-- Parses a text without validating it. -/
def parseText (text : String) : Except ConfigError Config := (parse text).mapError .unparsable

/-- Parses a file without validating it. -/
def parseFile (path : String) : FileContent → Except ConfigError Config
  | .absent => .error (.notFound path)
  | .unreadable cause => .error (.unreadable path cause)
  | .bytes content =>
    match String.fromUTF8? content with
    | some text => parseText text
    | none => .error (.unreadable path .invalidUtf8)

def loadText (validators : List Validator) (text : String) : Loaded :=
  .of validators (parseText text)

def loadFile (validators : List Validator) (path : String) (content : FileContent) : Loaded :=
  .of validators (parseFile path content)

end SocketRelay.Config
