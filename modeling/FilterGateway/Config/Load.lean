import FilterGateway.Config.Decode
import FilterGateway.Config.Validation
import FilterGateway.Toml.Reader

/-!
# Loading a configuration

A configuration file is a TOML document in UTF-8. Loading reads it, decodes the document and
validates the result; each of these steps has its own errors.
-/

namespace FilterGateway

/-- What stands under the path of a file. A path that leads through a file as if it were a directory
is below that file, and nothing can have a name that is too long. -/
inductive FileState where
  | missing
  | directory
  | belowFile
  | nameTooLong
  | denied
  | bytes (content : ByteArray)

/-- Why a file cannot be read as text. -/
inductive ReadError where
  | notFound
  | isDirectory
  | notDirectory
  | nameTooLong
  | accessDenied
  | notUnicode
deriving DecidableEq, Repr

def ReadError.message : ReadError → String
  | notFound => "No such file or directory (os error 2)"
  | isDirectory => "Is a directory (os error 21)"
  | notDirectory => "Not a directory (os error 20)"
  | nameTooLong => "File name too long (os error 36)"
  | accessDenied => "Permission denied (os error 13)"
  | notUnicode => "stream did not contain valid UTF-8"

/-- The text of a file. -/
def FileState.text : FileState → Except ReadError String
  | missing => .error .notFound
  | directory => .error .isDirectory
  | belowFile => .error .notDirectory
  | nameTooLong => .error .nameTooLong
  | denied => .error .accessDenied
  | bytes content =>
    match String.fromUTF8? content with
    | some text => .ok text
    | none => .error .notUnicode

/-- A text that was written in UTF-8 is read as it is. -/
@[simp] theorem FileState.text_toByteArray (text : String) :
    (bytes text.toByteArray).text = .ok text := by
  have hvalid : text.toByteArray.IsValidUTF8 := text.isValidUTF8
  simp only [FileState.text, String.fromUTF8?, dif_pos hvalid]
  rfl

/-- Why a text is no configuration: it is not a TOML document, or the document does not fit. -/
inductive ParseError where
  | malformed
  | unfit (cause : DecodeError)

/-- The text of a parse error. Where a malformed document goes wrong is not told. -/
def ParseError.message : ParseError → String
  | malformed => "malformed document"
  | unfit cause => cause.message .positional

inductive ConfigError where
  | io (cause : ReadError)
  | parse (cause : ParseError)
  | validation (faults : List ValidationError)

def ConfigError.message : ConfigError → String
  | io cause => "IO error: " ++ cause.message
  | parse cause => "Parse error: " ++ cause.message
  | validation faults =>
    "Validation failed: " ++ ", ".intercalate (faults.map ValidationError.message)

/-- The configuration that a TOML value stands for, whether it is valid or not. -/
def GatewayConfig.ofToml (value : Toml.Value) : Except ParseError GatewayConfig :=
  match decode Format.toml value with
  | .ok config => .ok config
  | .error cause => .error (.unfit cause)

/-- The configuration that a text stands for, whether it is valid or not. -/
def GatewayConfig.read (text : String) : Except ParseError GatewayConfig :=
  match Toml.read? text with
  | some entries => ofToml (.table entries)
  | none => .error .malformed

/-- A configuration, if it has no faults. -/
def GatewayConfig.checked (config : GatewayConfig) : Except ConfigError GatewayConfig :=
  match config.validate with
  | .ok () => .ok config
  | .error faults => .error (.validation faults)

/-- The valid configuration that a text stands for. -/
def parseConfig (text : String) : Except ConfigError GatewayConfig :=
  match GatewayConfig.read text with
  | .ok config => config.checked
  | .error cause => .error (.parse cause)

/-- The valid configuration in a file. -/
def loadConfig (file : FileState) : Except ConfigError GatewayConfig :=
  match file.text with
  | .ok text => parseConfig text
  | .error cause => .error (.io cause)

end FilterGateway
