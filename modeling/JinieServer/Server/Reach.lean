import JinieServer.Server.Session

/-!
# What a message may ask of the disk

Only two messages read the disk: the first one of a session, which reads the workspace's settings,
and a request for a definition, which looks into the folders of its document. A `Snapshot` holds
what was seen there.
-/

namespace JinieServer

/-- A part of the disk: folders with the definition files in them, and single texts. -/
structure Reach where
  folders : List (List Char) := []
  texts : List (List UInt8) := []

namespace Server

open JinieServer.Protocol

def callReach (server : Server) : Call → Reach
  | .connect setup =>
    match setup.rootUri.bind Url.folder? with
    | some root => { texts := [workspaceSettingsPath root] }
    | none => {}
  | .definition uri _ =>
    match FileUri.folder? uri.chars with
    | some dir => { folders := Definition.Tier.order.map (·.folder dir server.settings) }
    | none => {}
  | _ => {}

def reach (server : Server) (message : Message) : Reach :=
  match (method? message.method).bind fun method => call? method message.params with
  | some call => server.callReach call
  | none => {}

end Server

/-! ## What was seen of a disk -/

/-- The outcomes of listing some folders and of reading some files. What was not looked at is not
there. -/
structure Snapshot where
  folders : List (List UInt8 × Except FileError (List (Except FileError (List UInt8)))) := []
  files : List (List UInt8 × Except FileError (List Char)) := []

namespace Snapshot

def list (snapshot : Snapshot) (path : List UInt8) :
    Except FileError (List (Except FileError (List UInt8))) :=
  (snapshot.folders.lookup path).getD (.error .notFound)

def read (snapshot : Snapshot) (path : List UInt8) : Except FileError (List Char) :=
  (snapshot.files.lookup path).getD (.error .notFound)

def isFile (snapshot : Snapshot) (path : List UInt8) : Bool :=
  snapshot.files.any fun (other, _) => other = path

def fileSystem (snapshot : Snapshot) : FileSystem :=
  ⟨snapshot.list, snapshot.isFile, snapshot.read⟩

def append (a b : Snapshot) : Snapshot := ⟨a.folders ++ b.folders, a.files ++ b.files⟩

end Snapshot

end JinieServer
