import SymbolNav.Protocol.Shape

/-!
# Capabilities of a client

A client tells what it can do when it starts the server. Nothing the server does depends on it, but
what is told must have its shape. All fields may be missing where nothing else is said.
-/

namespace SymbolNav.Protocol.Capabilities

open FieldShape (required optional defaulted)
open Shape (bool int32 uint32 text any list oneOf record union nullable)

/-- Fields that say yes or no. -/
def flags (names : List String) : List FieldShape := names.map (optional · bool)

/-- A part whose fields say yes or no. -/
def switches (names : List String) : Shape := record (flags names)

/-- A part that says whether it can be registered later. -/
def dynamic : Shape := switches ["dynamicRegistration"]

def refresh : Shape := switches ["refreshSupport"]

/-- The numbers that are understood, if they are told. -/
def kinds : Shape := record [optional "valueSet" (list int32)]

/-- The properties that can be asked for later. -/
def properties : Shape := record [required "properties" (list text)]

/-- Whether tags are understood: yes, no, or which. -/
def tags : FieldShape :=
  defaulted "tagSupport" <| nullable fun kept j =>
    bool kept j || record [required "valueSet" (list int32)] kept j

def markupKinds (name : String) : FieldShape :=
  optional name (list (oneOf ["plaintext", "markdown"]))

/-! ## The workspace -/

def workspaceEdit : Shape :=
  record [
    optional "documentChanges" bool,
    optional "resourceOperations" (list (oneOf ["create", "rename", "delete"])),
    optional "failureHandling"
      (oneOf ["abort", "transactional", "textOnlyTransactional", "undo"]),
    optional "normalizesLineEndings" bool,
    optional "changeAnnotationSupport" (switches ["groupsOnLabel"])]

def workspaceSymbol : Shape :=
  record [optional "dynamicRegistration" bool, optional "symbolKind" kinds, tags,
    optional "resolveSupport" properties]

def workspace : Shape :=
  record [
    optional "applyEdit" bool,
    optional "workspaceEdit" workspaceEdit,
    optional "didChangeConfiguration" dynamic,
    optional "didChangeWatchedFiles" (switches ["dynamicRegistration", "relativePatternSupport"]),
    optional "symbol" workspaceSymbol,
    optional "executeCommand" dynamic,
    optional "workspaceFolders" bool,
    optional "configuration" bool,
    optional "semanticTokens" refresh,
    optional "codeLens" refresh,
    optional "fileOperations" (switches ["dynamicRegistration", "didCreate", "willCreate",
      "didRename", "willRename", "didDelete", "willDelete"]),
    optional "inlineValue" refresh,
    optional "inlayHint" refresh,
    optional "diagnostic" refresh]

/-! ## Documents -/

def completionItem : Shape :=
  record [
    optional "snippetSupport" bool,
    optional "commitCharactersSupport" bool,
    markupKinds "documentationFormat",
    optional "deprecatedSupport" bool,
    optional "preselectSupport" bool,
    tags,
    optional "insertReplaceSupport" bool,
    optional "resolveSupport" properties,
    optional "insertTextModeSupport" (record [required "valueSet" (list int32)]),
    optional "labelDetailsSupport" bool]

def completion : Shape :=
  record [
    optional "dynamicRegistration" bool,
    optional "completionItem" completionItem,
    optional "completionItemKind" kinds,
    optional "contextSupport" bool,
    optional "insertTextMode" int32,
    optional "completionList" (record [optional "itemDefaults" (list text)])]

def signatureHelp : Shape :=
  record [
    optional "dynamicRegistration" bool,
    optional "signatureInformation" (record [
      markupKinds "documentationFormat",
      optional "parameterInformation" (switches ["labelOffsetSupport"]),
      optional "activeParameterSupport" bool]),
    optional "contextSupport" bool]

def documentSymbol : Shape :=
  record [optional "dynamicRegistration" bool, optional "symbolKind" kinds,
    optional "hierarchicalDocumentSymbolSupport" bool, tags]

/-- A way to go from a name to another place. -/
def goto : Shape := switches ["dynamicRegistration", "linkSupport"]

def codeAction : Shape :=
  record [
    optional "dynamicRegistration" bool,
    optional "codeActionLiteralSupport" (record [
      required "codeActionKind" (record [required "valueSet" (list text)])]),
    optional "isPreferredSupport" bool,
    optional "disabledSupport" bool,
    optional "dataSupport" bool,
    optional "resolveSupport" properties,
    optional "honorsChangeAnnotations" bool]

def rename : Shape :=
  record [optional "dynamicRegistration" bool, optional "prepareSupport" bool,
    optional "prepareSupportDefaultBehavior" int32, optional "honorsChangeAnnotations" bool]

def publishDiagnostics : Shape :=
  record ([optional "relatedInformation" bool, tags] ++
    flags ["versionSupport", "codeDescriptionSupport", "dataSupport"])

def foldingRange : Shape :=
  record [
    optional "dynamicRegistration" bool,
    optional "rangeLimit" uint32,
    optional "lineFoldingOnly" bool,
    optional "foldingRangeKind" (record [
      optional "valueSet" (list (oneOf ["comment", "imports", "region"]))]),
    optional "foldingRange" (switches ["collapsedText"])]

def semanticTokens : Shape :=
  record ([
    optional "dynamicRegistration" bool,
    required "requests" (record [
      optional "range" bool,
      optional "full" (union [bool, switches ["delta"]])]),
    required "tokenTypes" (list text),
    required "tokenModifiers" (list text),
    required "formats" (list text)] ++
    flags ["overlappingTokenSupport", "multilineTokenSupport", "serverCancelSupport",
      "augmentsSyntaxTokens"])

def textDocument : Shape :=
  record [
    optional "synchronization"
      (switches ["dynamicRegistration", "willSave", "willSaveWaitUntil", "didSave"]),
    optional "completion" completion,
    optional "hover" (record [optional "dynamicRegistration" bool, markupKinds "contentFormat"]),
    optional "signatureHelp" signatureHelp,
    optional "references" dynamic,
    optional "documentHighlight" dynamic,
    optional "documentSymbol" documentSymbol,
    optional "formatting" dynamic,
    optional "rangeFormatting" dynamic,
    optional "onTypeFormatting" dynamic,
    optional "declaration" goto,
    optional "definition" goto,
    optional "typeDefinition" goto,
    optional "implementation" goto,
    optional "codeAction" codeAction,
    optional "codeLens" dynamic,
    optional "documentLink" (switches ["dynamicRegistration", "tooltipSupport"]),
    optional "colorProvider" dynamic,
    optional "rename" rename,
    optional "publishDiagnostics" publishDiagnostics,
    optional "foldingRange" foldingRange,
    optional "selectionRange" dynamic,
    optional "linkedEditingRange" dynamic,
    optional "callHierarchy" dynamic,
    optional "semanticTokens" semanticTokens,
    optional "moniker" dynamic,
    optional "typeHierarchy" dynamic,
    optional "inlineValue" dynamic,
    optional "inlayHint"
      (record [optional "dynamicRegistration" bool, optional "resolveSupport" properties]),
    optional "diagnostic" (switches ["dynamicRegistration", "relatedDocumentSupport"])]

/-! ## The rest -/

def window : Shape :=
  record [
    optional "workDoneProgress" bool,
    optional "showMessage" (record [
      optional "messageActionItem" (switches ["additionalPropertiesSupport"])]),
    optional "showDocument" (record [required "support" bool])]

def general : Shape :=
  record [
    optional "regularExpressions" (record [required "engine" text, optional "version" text]),
    optional "markdown" (record [required "parser" text, optional "version" text,
      optional "allowedTags" (list text)]),
    optional "staleRequestSupport" (record [required "cancel" bool,
      required "retryOnContentModified" (list text)]),
    optional "positionEncodings" (list text)]

/-- All that a client tells. -/
def shape : Shape :=
  record [
    optional "workspace" workspace,
    optional "textDocument" textDocument,
    optional "window" window,
    optional "general" general,
    optional "experimental" any]

end SymbolNav.Protocol.Capabilities
