import AbilityScript.Config.Definition
import AbilityScript.Config.EngineConfig
import AbilityScript.Text.Quoted
import AbilityScript.Toml.Document

namespace AbilityScript

open Text

inductive FileContent where
  | directory
  | file (bytes : ByteArray)

inductive IoFault where
  | notFound
  | fileExists
  | notADirectory
  | isADirectory
  | notText
  deriving DecidableEq, Repr

def IoFault.message : IoFault → String
  | notFound => "No such file or directory (os error 2)"
  | fileExists => "File exists (os error 17)"
  | notADirectory => "Not a directory (os error 20)"
  | isADirectory => "Is a directory (os error 21)"
  | notText => "stream did not contain valid UTF-8"

inductive ConfigError where
  | noConfigDir
  | io (path : String) (fault : IoFault)
  | parse
  deriving DecidableEq, Repr

def ConfigError.message : ConfigError → String
  | noConfigDir => "Config directory not found"
  | io path fault => s!"IO error reading {quoted path}: {fault.message}"
  | parse => ""

namespace Config

def readText (path : String) : Option FileContent → Except ConfigError String
  | none => .error (.io path .notFound)
  | some .directory => .error (.io path .isADirectory)
  | some (.file bytes) => (String.fromUTF8? bytes).elim (.error (.io path .notText)) .ok

def ofText {α : Type} (read : Datum → Option α) (text : String) : Except ConfigError α :=
  ((Toml.parse? text).bind read).elim (.error .parse) .ok

def load {α : Type} (read : Datum → Option α) (path : String) (content : Option FileContent) :
    Except ConfigError α := do
  let text ← readText path content
  ofText read text

def join (base name : String) : String :=
  if base.isEmpty || base.endsWith "/" then base ++ name else base ++ "/" ++ name

/-- The directory of the configuration files: below the one that is set for such files, if that is
an absolute path, or else below `.config` in the home directory. -/
def directory (home : String) (configHome : Option String) : String :=
  match configHome.filter (·.startsWith "/") with
  | some base => join base "relic"
  | none => join (join home ".config") "relic"

def abilitiesPath (home : String) (configHome : Option String) : String :=
  join (directory home configHome) "abilities.toml"

end Config

abbrev FileTree := List (List String × FileContent)

namespace FileTree

def find? (t : FileTree) (path : List String) : Option FileContent :=
  (List.find? (fun entry => entry.1 == path) t).map Prod.snd

def isDirectory (t : FileTree) (path : List String) : Bool :=
  path.isEmpty ||
    match t.find? path with
    | some .directory => true
    | _ => false

/-- Makes the directories on a path that are not there, below one that is. A file in the way of the
last is an existing file; in the way of an earlier one, it is no directory. -/
def makeDirectories (done : List String) : List String → FileTree → Except IoFault FileTree
  | [], t => .ok t
  | name :: rest, t =>
    let path := done ++ [name]
    match t.find? path with
    | some .directory => makeDirectories path rest t
    | some (.file _) => .error (if rest.isEmpty then .fileExists else .notADirectory)
    | none => makeDirectories path rest (t ++ [(path, .directory)])

def addFile (path : List String) (bytes : ByteArray) (t : FileTree) : Except IoFault FileTree := do
  let t ← makeDirectories [] path.dropLast t
  .ok (t ++ [(path, .file bytes)])

end FileTree

end AbilityScript
