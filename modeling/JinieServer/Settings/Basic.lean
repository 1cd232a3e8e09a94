import JinieServer.Path

/-!
# Settings and their layers

A layer sets some of the settings. Layers are applied lowest first, so the last one that sets a
field to something usable decides it.
-/

namespace JinieServer

structure Settings where
  /-- The extension of definition files, without a leading dot. -/
  extension : String
  /-- The folder beside a document that holds shared definitions. -/
  sharedFolder : String
deriving DecidableEq, Repr, Inhabited

structure Layer where
  extension : Option String := none
  sharedFolder : Option String := none
deriving DecidableEq, Repr, Inhabited

namespace Settings

def default : Settings := ⟨"DEFINITION", "CONFIG"⟩

/-- An extension without the dots before it. -/
def withoutDots (extension : String) : String :=
  String.ofList (extension.toList.dropWhile (· = '.'))

/-- A value replaces the old one unless it is empty. -/
def unlessEmpty (value old : String) : String := if value = "" then old else value

def apply (settings : Settings) (layer : Layer) : Settings where
  extension :=
    match layer.extension with
    | some extension => unlessEmpty (withoutDots extension) settings.extension
    | none => settings.extension
  sharedFolder :=
    match layer.sharedFolder with
    | some folder => unlessEmpty folder settings.sharedFolder
    | none => settings.sharedFolder

/-- The pattern of the files an editor should watch. -/
def watchGlob (settings : Settings) : String := "**/*." ++ settings.extension

end Settings

/-! ## Where settings are kept -/

def workspaceFileName : List Char := ".jinie.toml".toList

def workspaceSettingsPath (root : List UInt8) : List UInt8 :=
  Path.joinBytes root (Text.utf8 workspaceFileName)

/-- The user's file: below the given folder if it is absolute, else below the home folder. -/
def userSettingsPath (home : List Char) (configHome : Option (List Char)) : List Char :=
  let base :=
    match configHome.filter Path.isAbsolute with
    | some folder => folder
    | none => Path.join home ".config".toList
  Path.join (Path.join base "jinie-lsp".toList) "config.toml".toList

end JinieServer
