import JinieServer.Disk
import JinieServer.Main
import JinieServer.Proofs.Definition.LineEndings
import JinieServer.Proofs.Definition.Siblings
import JinieServer.Proofs.FileUri.Spelling
import JinieServer.Proofs.Relay.Params
import JinieServer.Proofs.Server.Client
import JinieServer.Proofs.Server.Documents
import JinieServer.Proofs.Server.Options
import JinieServer.Proofs.Server.Watcher
import JinieServer.Proofs.Source.Composition
import JinieServer.Proofs.Source.Spans
import JinieServer.Proofs.Url.Normal
