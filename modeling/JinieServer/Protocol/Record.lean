import JinieServer.Protocol.Capabilities

/-!
# Records that requests carry

Edits, diagnostics, completion items and the like, as clients send them back to a server.
-/

namespace JinieServer.Protocol

open Shape

/-! ## Texts and commands -/

def command : Shape :=
  object [need "title" .string, need "command" .string, may "arguments" (.listOf .anything)]

/-- A plain text, or one with its kind of markup. -/
def documentation : Shape :=
  .either .string (object [need "kind" markupKind, need "value" .string])

/-! ## Edits -/

def textEdit : Shape := object [need "range" range, need "newText" .string]

/-- A change to the files themselves, told by its kind. -/
def fileOperation (kind : String) (fields : List (String × Presence × Shape)) : Shape :=
  object (need "kind" (.oneOf [kind]) :: fields)

def documentEdit : Shape :=
  object [
    need "textDocument" (object [need "uri" .url, may "version" signedWord]),
    need "edits" (.listOf textEdit)]

def workspaceChange : Shape :=
  let overwriting := flags ["overwrite", "ignoreIfExists"]
  .either
    (fileOperation "create"
      [need "uri" .url, may "options" overwriting, may "annotationId" .string])
    (.either
      (fileOperation "rename"
        [need "oldUri" .url, need "newUri" .url, may "options" overwriting,
          may "annotationId" .string])
      (.either
        (fileOperation "delete"
          [need "uri" .url,
            may "options" (object [
              may "recursive" .bool, may "ignoreIfNotExists" .bool,
              may "annotationId" .string])])
        documentEdit))

def workspaceEdit : Shape :=
  object [
    mayEnd "changes" (.mapOf .url (.listOf textEdit)),
    may "documentChanges" (.either (.listOf documentEdit) (.listOf workspaceChange)),
    may "changeAnnotations" (.mapOf .string (object [
      need "label" .string, may "needsConfirmation" .bool, may "description" .string]))]

/-! ## Diagnostics and actions -/

def diagnostic : Shape :=
  object [
    need "range" range,
    may "severity" signedWord,
    may "code" token,
    may "codeDescription" (object [need "href" .url]),
    may "source" .string,
    need "message" .string,
    may "relatedInformation"
      (.listOf (object [need "location" location, need "message" .string])),
    may "tags" (.listOf signedWord),
    may "data" .anything]

def codeAction : Shape :=
  object [
    need "title" .string,
    may "kind" .string,
    may "diagnostics" (.listOf diagnostic),
    may "edit" workspaceEdit,
    may "command" command,
    may "isPreferred" .bool,
    may "disabled" (object [need "reason" .string]),
    may "data" .anything]

def codeActionContext : Shape :=
  object [
    need "diagnostics" (.listOf diagnostic),
    may "only" strings,
    may "triggerKind" signedWord]

/-! ## Symbols -/

/-- An item of a hierarchy, with the shape of its tags. -/
def hierarchyItem (tags : Shape) : Shape :=
  object [
    need "name" .string, need "kind" signedWord, may "tags" tags, may "detail" .string,
    need "uri" .url, need "range" range, need "selectionRange" range, may "data" .anything]

def callItem : Shape := hierarchyItem (.listOf signedWord)

/-- A type has one tag. -/
def typeItem : Shape := hierarchyItem signedWord

def workspaceSymbol : Shape :=
  object [
    need "name" .string, need "kind" signedWord, may "tags" (.listOf signedWord),
    may "containerName" .string, need "location" (.either location document),
    may "data" .anything]

/-! ## Completion, signatures and hints -/

def completionItem : Shape :=
  object [
    need "label" .string,
    may "labelDetails" (object [may "detail" .string, may "description" .string]),
    may "kind" signedWord,
    may "detail" .string,
    may "documentation" documentation,
    may "deprecated" .bool,
    may "preselect" .bool,
    may "sortText" .string,
    may "filterText" .string,
    may "insertText" .string,
    may "insertTextFormat" signedWord,
    may "insertTextMode" signedWord,
    may "textEdit" (.either textEdit
      (object [need "newText" .string, need "insert" range, need "replace" range])),
    may "additionalTextEdits" (.listOf textEdit),
    may "command" command,
    may "commitCharacters" strings,
    may "data" .anything,
    may "tags" (.listOf signedWord)]

def signatureHelp : Shape :=
  let parameter := object [
    need "label" (.either .string (.exactly 2 word)), may "documentation" documentation]
  let signature := object [
    need "label" .string, may "documentation" documentation,
    may "parameters" (.listOf parameter), may "activeParameter" word]
  object [
    need "signatures" (.listOf signature), may "activeSignature" word,
    may "activeParameter" word]

def signatureHelpContext : Shape :=
  object [
    need "triggerKind" signedWord, may "triggerCharacter" .string, need "isRetrigger" .bool,
    may "activeSignatureHelp" signatureHelp]

def inlayHint : Shape :=
  let part := object [
    need "value" .string, may "tooltip" documentation, may "location" location,
    may "command" command]
  object [
    need "position" position,
    need "label" (.either .string (.listOf part)),
    may "kind" signedWord,
    may "textEdits" (.listOf textEdit),
    may "tooltip" documentation,
    may "paddingLeft" .bool,
    may "paddingRight" .bool,
    may "data" .anything]

/-! ## Others -/

def color : Shape :=
  object (["red", "green", "blue", "alpha"].map fun name => need name .number)

/-- Options of a formatter; those without a name of their own are flags, numbers or texts. -/
def formattingOptions : Shape :=
  .openRecord [
    need "tabSize" word, need "insertSpaces" .bool, may "trimTrailingWhitespace" .bool,
    may "insertFinalNewline" .bool, may "trimFinalNewlines" .bool]
    (.either .bool token)

def codeLens : Shape :=
  object [need "range" range, may "command" command, may "data" .anything]

def documentLink : Shape :=
  object [
    need "range" range, may "target" .url, may "tooltip" .string, may "data" .anything]

def workspaceFolder : Shape := object [need "uri" .url, need "name" .string]

def fileList (fields : List String) : Shape :=
  object [need "files" (.listOf (object (fields.map fun name => need name .string)))]

end JinieServer.Protocol
