import SymbolNav.Protocol.Shape

/-!
# Requests that are not answered

The protocol has many requests besides those that the server answers. A client that sends one is
told that the method is not there, but only if the parameters have their shape. `Requests.table`
lists the requests with the shapes of their parameters.
-/

namespace SymbolNav.Protocol.Requests

open FieldShape (required optional defaulted)
open Shape (any bool int32 uint32 number text url list pair map union oneOf record composed
  extensible tagged nullable document position range token location textEdit command markup)

/-- By this token the client follows how far a request has come. -/
def progress : List FieldShape := [optional "workDoneToken" token]

/-- By this token the client takes answers in pieces. -/
def pieces : List FieldShape := [optional "partialResultToken" token]

/-- A place in a document. -/
def place : List FieldShape := [required "textDocument" document, required "position" position]

/-- A request about a whole document. -/
def aboutDocument (own : List FieldShape) : Shape :=
  composed (required "textDocument" document :: own) (progress ++ pieces)

/-- A request about part of a document. -/
def aboutRange (own : List FieldShape) : Shape :=
  composed ([required "textDocument" document, required "range" range] ++ own) progress

/-! ## Places in documents -/

def documentation : FieldShape := optional "documentation" markup

def parameter : Shape :=
  record [required "label" (union [text, pair uint32]), documentation]

def signature : Shape :=
  record [
    required "label" text,
    documentation,
    optional "parameters" (list parameter),
    optional "activeParameter" uint32]

def signatures : Shape :=
  record [
    required "signatures" (list signature),
    optional "activeSignature" uint32,
    optional "activeParameter" uint32]

def signatureContext : Shape :=
  record [
    required "triggerKind" int32,
    optional "triggerCharacter" text,
    required "isRetrigger" bool,
    optional "activeSignatureHelp" signatures]

def completionContext : Shape :=
  record [required "triggerKind" int32, optional "triggerCharacter" text]

/-- Requests about a place. -/
def atPlace : List (String × Shape) :=
  [("declaration", composed [] (place ++ progress ++ pieces)),
    ("typeDefinition", composed [] (place ++ progress ++ pieces)),
    ("implementation", composed [] (place ++ progress ++ pieces)),
    ("documentHighlight", composed [] (place ++ progress ++ pieces)),
    ("moniker", composed [] (place ++ progress ++ pieces)),
    ("hover", composed [] (place ++ progress)),
    ("prepareCallHierarchy", composed [] (place ++ progress)),
    ("prepareTypeHierarchy", composed [] (place ++ progress)),
    ("linkedEditingRange", composed [] (place ++ progress)),
    ("prepareRename", record place),
    ("references", composed [required "context" (record [required "includeDeclaration" bool])]
      (place ++ progress ++ pieces)),
    ("completion", composed [optional "context" completionContext] (place ++ progress ++ pieces)),
    ("signatureHelp", composed [optional "context" signatureContext] (place ++ progress))]

/-! ## Documents and parts of them -/

def diagnostic : Shape :=
  record [
    required "range" range,
    optional "severity" int32,
    optional "code" (union [int32, text]),
    optional "codeDescription" (record [required "href" url]),
    optional "source" text,
    required "message" text,
    optional "relatedInformation"
      (list (record [required "location" location, required "message" text])),
    optional "tags" (list int32),
    optional "data" any]

/-- How a document is to be formatted. Options that are not known are yes or no, a number or a
text. -/
def formatting : Shape :=
  extensible [
    required "tabSize" uint32,
    required "insertSpaces" bool,
    optional "trimTrailingWhitespace" bool,
    optional "insertFinalNewline" bool,
    optional "trimFinalNewlines" bool] (union [bool, int32, text])

def color : Shape :=
  record (["red", "green", "blue", "alpha"].map (required · number))

def codeActionContext : Shape :=
  record [
    required "diagnostics" (list diagnostic),
    optional "only" (list text),
    optional "triggerKind" int32]

/-- Requests about a document or a part of it. -/
def inDocument : List (String × Shape) :=
  [("documentLink", aboutDocument []),
    ("codeLens", aboutDocument []),
    ("foldingRange", aboutDocument []),
    ("documentSymbol", aboutDocument []),
    ("documentColor", aboutDocument []),
    ("semanticTokens/full", aboutDocument []),
    ("semanticTokens/full/delta", aboutDocument [required "previousResultId" text]),
    ("semanticTokens/range", aboutDocument [required "range" range]),
    ("selectionRange", aboutDocument [required "positions" (list position)]),
    ("diagnostic", aboutDocument [optional "identifier" text, optional "previousResultId" text]),
    ("colorPresentation", aboutDocument [required "color" color, required "range" range]),
    ("codeAction", aboutDocument [required "range" range, required "context" codeActionContext]),
    ("inlineValue", aboutRange [required "context"
      (record [required "frameId" int32, required "stoppedLocation" range])]),
    ("inlayHint", aboutRange []),
    ("rangeFormatting", aboutRange [required "options" formatting]),
    ("formatting",
      composed [required "textDocument" document, required "options" formatting] progress),
    ("onTypeFormatting", composed [required "ch" text, required "options" formatting] place),
    ("willSaveWaitUntil", record [required "textDocument" document, required "reason" int32])]

/-! ## Things that were answered before -/

/-- The changes of one document. -/
def documentEdit : List FieldShape :=
  [required "textDocument" (record [required "uri" url, optional "version" int32]),
    required "edits" (list textEdit)]

/-- Files that are made, moved or removed. -/
def fileOperation : Shape :=
  let overwriting := optional "options" <|
    record [optional "overwrite" bool, optional "ignoreIfExists" bool]
  let annotation := optional "annotationId" text
  tagged "kind" [
    ("create", [required "uri" url, overwriting, annotation]),
    ("rename", [required "oldUri" url, required "newUri" url, overwriting, annotation]),
    ("delete", [required "uri" url, optional "options" <|
      record [optional "recursive" bool, optional "ignoreIfNotExists" bool, annotation]])]

def workspaceEdit : Shape :=
  record [
    defaulted "changes" (nullable (map (fun uri => (Url.parse? uri).isSome) (list textEdit))),
    optional "documentChanges"
      (union [list (record documentEdit), list (union [fileOperation, record documentEdit])]),
    optional "changeAnnotations" (map (fun _ => true) (record [
      required "label" text,
      optional "needsConfirmation" bool,
      optional "description" text]))]

def codeAction : Shape :=
  record [
    required "title" text,
    optional "kind" text,
    optional "diagnostics" (list diagnostic),
    optional "edit" workspaceEdit,
    optional "command" command,
    optional "isPreferred" bool,
    optional "disabled" (record [required "reason" text]),
    optional "data" any]

def completionItem : Shape :=
  record [
    required "label" text,
    optional "labelDetails" (record [optional "detail" text, optional "description" text]),
    optional "kind" int32,
    optional "detail" text,
    documentation,
    optional "deprecated" bool,
    optional "preselect" bool,
    optional "sortText" text,
    optional "filterText" text,
    optional "insertText" text,
    optional "insertTextFormat" int32,
    optional "insertTextMode" int32,
    optional "textEdit" (union [textEdit,
      record [required "newText" text, required "insert" range, required "replace" range]]),
    optional "additionalTextEdits" (list textEdit),
    optional "command" command,
    optional "commitCharacters" (list text),
    optional "data" any,
    optional "tags" (list int32)]

def inlayHint : Shape :=
  let part := record [
    required "value" text,
    optional "tooltip" markup,
    optional "location" location,
    optional "command" command]
  record [
    required "position" position,
    required "label" (union [text, list part]),
    optional "kind" int32,
    optional "textEdits" (list textEdit),
    optional "tooltip" markup,
    optional "paddingLeft" bool,
    optional "paddingRight" bool,
    optional "data" any]

/-- Requests for the rest of something that was answered before. -/
def resolving : List (String × Shape) :=
  [("codeAction/resolve", codeAction),
    ("completionItem/resolve", completionItem),
    ("inlayHint/resolve", inlayHint),
    ("documentLink/resolve", record [required "range" range, optional "target" url,
      optional "tooltip" text, optional "data" any]),
    ("codeLens/resolve",
      record [required "range" range, optional "command" command, optional "data" any]),
    ("workspaceSymbol/resolve", record [
      required "name" text,
      required "kind" int32,
      optional "tags" (list int32),
      optional "containerName" text,
      required "location" (union [location, record [required "uri" url]]),
      optional "data" any])]

/-- A request about an item of a hierarchy. -/
def aboutItem (tags : Shape) : Shape :=
  let item := record [
    required "name" text,
    required "kind" int32,
    optional "tags" tags,
    optional "detail" text,
    required "uri" url,
    required "range" range,
    required "selectionRange" range,
    optional "data" any]
  composed [required "item" item] (progress ++ pieces)

/-- Requests about the items of hierarchies. -/
def inHierarchy : List (String × Shape) :=
  [("callHierarchy/incomingCalls", aboutItem (list int32)),
    ("callHierarchy/outgoingCalls", aboutItem (list int32)),
    ("typeHierarchy/supertypes", aboutItem int32),
    ("typeHierarchy/subtypes", aboutItem int32)]

/-! ## The workspace -/

/-- A request about files, each given by the named fields. -/
def aboutFiles (names : List String) : Shape :=
  record [required "files" (list (record (names.map (required · text))))]

/-- Requests about the workspace. -/
def inWorkspace : List (String × Shape) :=
  [("symbol", composed [required "query" text] (progress ++ pieces)),
    ("diagnostic", composed [
      optional "identifier" text,
      required "previousResultIds"
        (list (record [required "uri" url, required "value" text]))] (progress ++ pieces)),
    ("executeCommand",
      composed [required "command" text, defaulted "arguments" (list any)] progress),
    ("willCreateFiles", aboutFiles ["uri"]),
    ("willRenameFiles", aboutFiles ["oldUri", "newUri"]),
    ("willDeleteFiles", aboutFiles ["uri"])]

/-- All requests that are not answered. -/
def table : List (String × Shape) :=
  (atPlace ++ inDocument).map (fun r => ("textDocument/" ++ r.1, r.2)) ++ resolving ++
    inHierarchy ++ inWorkspace.map (fun r => ("workspace/" ++ r.1, r.2))

end SymbolNav.Protocol.Requests
