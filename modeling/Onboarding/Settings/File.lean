import Onboarding.Host
import Onboarding.Path
import Onboarding.Settings.Reader
import Onboarding.Wording

/-!
# The settings file

Where settings are kept, and what reading them comes to.  A file that is named has to be there;
the usual file need not be.
-/

namespace Onboarding

namespace Settings

/-! ## Place -/

/-- The variable that names the directory of the settings. -/
def directoryVariable : String :=
  "PROVISION_USERS_CONFIG_DIR"

/-- The name of the file in its directory. -/
def fileName : String :=
  "settings.yaml"

/-- The name of the directory among those of other programs. -/
def directoryName : String :=
  "users"

/-- The directory under which programs keep their settings: the one that a variable names, when that
is an absolute path, or one in the home directory.  Without a home directory there is none, also
when the variable names one. -/
def configurations? (h : Host) : Option String :=
  h.home?.map fun home =>
    ((h.get? "XDG_CONFIG_HOME").filter Path.isAbsolute).getD (Path.join home ".config")

/-- The usual file. -/
def usualFile? (h : Host) : Option String :=
  match h.get? directoryVariable with
  | some directory => some (Path.join directory fileName)
  | none =>
    (configurations? h).map fun place => Path.join (Path.join place directoryName) fileName

/-! ## Content -/

/-- Why there are no settings. -/
inductive Error where
  /-- There is no place for the usual file. -/
  | noPlace
  | unread (path : String) (cause : SystemError)
  | notText (path : String)
  /-- The file at the path holds a text that is none of settings. -/
  | malformed (path text : String)
  deriving DecidableEq

/-- What is said when there are no settings, without the cause. -/
def Error.summary : Error → String
  | noPlace => "unable to determine config directory"
  | unread path _ | notText path => "read settings " ++ path
  | malformed path _ => "parse settings " ++ path

/-- What is said when there are no settings. -/
def Error.message (w : Wording) (e : Error) : String :=
  match e with
  | noPlace => e.summary
  | unread _ cause => e.summary ++ ": " ++ cause.message
  | notText _ => e.summary ++ ": stream did not contain valid UTF-8"
  | malformed _ text => e.summary ++ ": " ++ w.settings text

/-- The settings of a file, given what reading it came to. -/
def ofFile (path : String) : Except SystemError Bytes → Except Error Settings
  | .error cause => .error (.unread path cause)
  | .ok octets =>
    match Utf8.toString? octets with
    | none => .error (.notText path)
    | some text =>
      match parse? text with
      | none => .error (.malformed path text)
      | some settings => .ok settings

/-- The settings of the file that is named, or of the usual file when there is one. -/
def load (h : Host) : Option String → Except Error Settings
  | some path => ofFile path (h.read path)
  | none =>
    match usualFile? h with
    | none => .error .noPlace
    | some path => if h.has path then ofFile path (h.read path) else .ok .unset

end Settings

end Onboarding
