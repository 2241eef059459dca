import UtilityCss.Settings.Location
import UtilityCss.Settings.Read
import UtilityCss.Yaml.Document

namespace UtilityCss

inductive LoadError
  | fileMissing (path : FilePath)
  | badSyntax
  | noValue (e : Error)
  | unread
  | invalid (issues : List Issue)
deriving DecidableEq, Repr

def LoadError.message : LoadError → String
  | fileMissing path => "Settings file not found: " ++ path.text
  | badSyntax => "Invalid YAML syntax in settings file"
  | noValue e => e.message
  | unread => "Settings file beyond the part of YAML that is read"
  | invalid issues => Settings.failureMessage issues

def Settings.load (path : FilePath) (content : Option String) : Except LoadError Settings :=
  match content with
  | none => .error (.fileMissing path)
  | some text =>
    match Yaml.read text with
    | .error .badSyntax => .error .badSyntax
    | .error (.noValue e) => .error (.noValue e)
    | .error .unread => .error .unread
    | .ok data => (Settings.ofData data).mapError .invalid

end UtilityCss
