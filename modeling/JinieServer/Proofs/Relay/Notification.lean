import JinieServer.Proofs.Relay.Run
import JinieServer.Proofs.Server.Definition
import JinieServer.Proofs.Url.File

/-!
# From the server's message to the cursor

The relay reads back every target that the server writes, and the URI in it is a URL whatever the
name of the file. So a message that opens a file puts the cursor on the declaration, unless the
editor itself fails.
-/

namespace JinieServer.Relay

open JinieServer.Definition

/-! ## Targets are read back -/

theorem readPair_obj {α β : Type} (label : String) {first second : String} {one two : Json} {a : α}
    {b : β} {asFirst : Json → Except DecodeError α} {asSecond : Json → Except DecodeError β}
    (hne : second ≠ first) (hone : asFirst one = .ok a) (htwo : asSecond two = .ok b) :
    readPair label first second asFirst asSecond (.obj [(second, two), (first, one)]) =
      .ok (a, b) := by
  simp only [readPair, addMember, List.foldlM_cons, List.foldlM_nil, hne, if_false, if_true, hone,
    htwo, Json.once]
  rfl

theorem asWord_toNat (n : UInt32) : Json.asWord (.int n.toNat) = .ok n := by
  have hn : n.toNat < 4294967296 := n.toNat_lt
  simp [Json.asWord, hn]

theorem positionOf_toJson (position : Position) : positionOf position.toJson = .ok position := by
  rw [positionOf, Position.toJson,
    readPair_obj _ (by decide) (asWord_toNat position.line) (asWord_toNat position.character)]
  rfl

theorem targetOf_toJson (target : Target) : targetOf target.toJson = .ok target := by
  have huri : Json.asString (.str target.uri) = .ok target.uri := rfl
  rw [targetOf, Target.toJson, readPair_obj _ (by decide) huri (positionOf_toJson target.position)]
  rfl

/-! ## The URI of a hit -/

theorem exists_parse?_target (hit : Hit) :
    ∃ url, Url.parse? hit.target.uri.toList = some url := by
  have huri : hit.target.uri.toList = FileUri.ofPath (Text.lossy hit.path) := by
    simp [Hit.target, FileUri.ofBytes]
  rw [huri, Url.parse?_ofPath]
  exact ⟨_, rfl⟩

/-! ## An editor that does not fail -/

theorem handled_follow_of_no_failure {editor : Editor} (opened : List Url) (url : Url)
    (position : Position) (hopens : editor.opening url = none)
    (hselects : editor.selecting url ⟨position, position⟩ = none) :
    (follow editor opened url position).handled.result = .ok true ∧
      (follow editor opened url position).actions =
        (if url ∈ opened then [] else [.openFile url]) ++
          [.select url ⟨position, position⟩] := by
  have hselected : ∀ opened : List Url,
      (select editor opened url position).handled.result = .ok true := by
    intro opened
    rw [result_select, hselects]
    rfl
  by_cases hopen : url ∈ opened
  case pos =>
    rw [follow_of_mem position hopen, if_pos hopen]
    exact ⟨hselected opened, rfl⟩
  case neg =>
    rw [follow_of_not_mem position hopen hopens, if_neg hopen]
    exact ⟨hselected (url :: opened), rfl⟩

/-! ## The theorem -/

/-- Every message that opens a file is followed by an editor that does not fail: the last thing it
does, and its only selection, is an empty one where the declaration was found, in the file that the
message names. -/
theorem sent_target_is_selected (files : FileSystem) (server : Server) (uri : Url)
    (position : Position) (message : Protocol.Outgoing) (editor : Editor) (opened : List Url)
    (hsent : message ∈ (server.definition files uri position).sent)
    (hmethod : message.method = "textDocument/definition")
    (hopens : ∀ url, editor.opening url = none)
    (hselects : ∀ url range, editor.selecting url range = none) :
    ∃ text name tier hit content file url,
      server.documents.get? uri.text = some text ∧
      verdict files server.settings uri text.toList position = .ok (.inFile name tier hit) ∧
      files.read hit.path = .ok content ∧
      Source.declarationPosition? content name.toList = some hit.position ∧
      message.params.member? "uri" = some (.str file) ∧
      Url.parse? file.toList = some url ∧
      (handleNotification editor opened message.method message.params).result = .ok true ∧
      (handleNotification editor opened message.method message.params).actions =
        (if url ∈ opened then [] else [.openFile url]) ++
          [.select url ⟨hit.position, hit.position⟩] := by
  obtain ⟨text, name, tier, hit, htext, hverdict, rfl⟩ := Server.hit_of_sent hsent hmethod
  obtain ⟨content, hread, hposition⟩ := declares_of_verdict hverdict
  obtain ⟨url, hurl⟩ := exists_parse?_target hit
  have hhandled : handleNotification editor opened Protocol.openFileMethod hit.target.toJson =
      (follow editor opened url hit.position).handled := by
    rw [handleNotification_of_targetOf editor opened (targetOf_toJson hit.target), handle, hurl]
    rfl
  obtain ⟨hresult, hactions⟩ :=
    handled_follow_of_no_failure opened url hit.position (hopens url) (hselects url _)
  refine ⟨text, name, tier, hit, content, hit.target.uri, url, htext, hverdict, hread, hposition,
    rfl, hurl, ?_⟩
  rw [Protocol.Outgoing.method, Protocol.Outgoing.params, hhandled]
  exact ⟨hresult, hactions⟩

/-- The name of the file holds marks of URLs and escapes, a drive mark and a line end. -/
def oddDisk : FileSystem :=
  singleFileDisk "/w".toList (Text.utf8 "c:#ä%2e?\\\n.DEFINITION".toList)

def oddTarget : Target := ⟨"file:///w/c%3A%23%C3%A4%252e%3F%5C%0A.DEFINITION", ⟨0, 0⟩⟩

def oddFile : Url :=
  ⟨"file".toList, some {},
    .segments ["w".toList, "c%3A%23%C3%A4%252e%3F%5C%0A.DEFINITION".toList], none, none⟩

theorem target_of_odd_name_is_selected :
    (Server.callingServer.definition oddDisk sharedDocument ⟨0, 0⟩).sent =
        [.openFile oddTarget] ∧
      (handleNotification ⟨fun _ => none, fun _ _ => none⟩ [] "textDocument/definition"
        oddTarget.toJson).result = .ok true ∧
      (handleNotification ⟨fun _ => none, fun _ _ => none⟩ [] "textDocument/definition"
        oddTarget.toJson).actions = [.openFile oddFile, .select oddFile ⟨⟨0, 0⟩, ⟨0, 0⟩⟩] := by
  have hsent : (Server.callingServer.definition oddDisk sharedDocument ⟨0, 0⟩).sent =
      [.openFile oddTarget] := by decide +kernel
  have hurl : Url.parse? oddTarget.uri.toList = some oddFile := by decide +kernel
  have htext : Server.callingServer.documents.get? sharedDocument.text =
      some "CALL f(" := by decide +kernel
  have hverdict : verdict oddDisk Server.callingServer.settings sharedDocument
      "CALL f(".toList ⟨0, 0⟩ =
      .ok (.inFile "f" .siblings
        ⟨Text.utf8 "/w/c:#ä%2e?\\\n.DEFINITION".toList, ⟨0, 0⟩⟩) := by decide +kernel
  obtain ⟨text, name, tier, hit, content, file, url, htext', hverdict', -, -, hfile, hurl',
      hresult, hactions⟩ :=
    sent_target_is_selected oddDisk Server.callingServer sharedDocument ⟨0, 0⟩
      (.openFile oddTarget) ⟨fun _ => none, fun _ _ => none⟩ [] (by rw [hsent]; simp) rfl
      (fun _ => rfl) (fun _ _ => rfl)
  obtain rfl : "CALL f(" = text := Option.some.inj (htext.symm.trans htext')
  obtain ⟨-, -, rfl⟩ := Verdict.inFile.inj (Except.ok.inj (hverdict.symm.trans hverdict'))
  obtain rfl : oddTarget.uri = file := Json.str.inj (Option.some.inj hfile)
  obtain rfl : oddFile = url := Option.some.inj (hurl.symm.trans hurl')
  exact ⟨hsent, hresult, hactions⟩

end JinieServer.Relay
